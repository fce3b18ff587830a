import RecordSchema.Json.Fault

/-!
# Errors

Why a pass or a configuration was refused. Each cause carries what its message needs; the wording is
in `SchemaError.message` alone.
-/

namespace RecordSchema

/-- Why a configuration is not valid. -/
inductive ConfigFault where
  /-- The table prefix is not an identifier. -/
  | tablePrefix (text : String)
deriving DecidableEq

/-- The words for a fault in a configuration. -/
def ConfigFault.detail : ConfigFault → String
  | tablePrefix p => "table_prefix `" ++ p ++ "` is not a valid SQL identifier"

/-- Why no schema could be made. -/
inductive SchemaError where
  /-- A list relation names an element type that nobody knows. -/
  | unknownElement (owner field element : String)
  /-- A list relation names an element type that is not a record. -/
  | notARecord (owner field element : String)
  | invalidConfig (fault : ConfigFault)
  | unreadableConfig (fault : Json.Fault)
deriving DecidableEq

namespace SchemaError

/-- The words of an error. There are none for text that is not JSON. -/
def message : SchemaError → Option String
  | unknownElement o f e =>
    some ("cannot resolve element type `" ++ e ++ "` of list field " ++ o ++ "." ++ f)
  | notARecord o f e =>
    some ("list field " ++ o ++ "." ++ f ++ " names `" ++ e ++ "`, which is not a record type")
  | invalidConfig c => some ("invalid schema config: " ++ c.detail)
  | unreadableConfig (.mismatch m) => some ("schema config parse error: " ++ m.text)
  | unreadableConfig .truncated | unreadableConfig .malformed => none

/-- Whether the error reports another one beneath it. -/
def hasSource : SchemaError → Bool
  | unreadableConfig _ => true
  | unknownElement .. | notARecord .. | invalidConfig _ => false

end SchemaError

end RecordSchema
