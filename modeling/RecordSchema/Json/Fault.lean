import RecordSchema.Text.Quoted

/-!
# Faults in JSON text

A reader stops at the first fault: the text ends too early, it is not JSON, or it is JSON up to here
but not a value of the shape that is wanted. Only the last kind says more than that.
-/

namespace RecordSchema.Json

/-- What stands where something else is wanted. -/
inductive Found where
  | null
  | boolean (value : Bool)
  | integer (value : Int)
  /-- Any other number, by its text. -/
  | real (text : String)
  | string (value : String)
  | sequence
  | map
deriving DecidableEq

/-- The words of a message for what was found. -/
def Found.text : Found → String
  | null => "null"
  | boolean b => "boolean `" ++ (if b then "true" else "false") ++ "`"
  | integer n => "integer `" ++ toString n ++ "`"
  | real t => "floating point `" ++ t ++ "`"
  | string s => "string " ++ Text.quoted s
  | sequence => "sequence"
  | map => "map"

/-- How JSON text can fail to have the shape that is wanted. -/
inductive Mismatch where
  | unknownField (name : String)
  | duplicateField (name : String)
  | unknownVariant (name : String)
  | wrongType (found : Found) (expected : String)
deriving DecidableEq

/-- The words of a message for a mismatch. -/
def Mismatch.text : Mismatch → String
  | unknownField n => "unknown field `" ++ n ++ "`, expected `dialect` or `table_prefix`"
  | duplicateField n => "duplicate field `" ++ n ++ "`"
  | unknownVariant n => "unknown variant `" ++ n ++ "`, expected `sqlite` or `mysql`"
  | wrongType f e => "invalid type: " ++ f.text ++ ", expected " ++ e

/-- Why reading stopped. -/
inductive Fault where
  /-- The text ends before the value does. -/
  | truncated
  /-- The text is not JSON. -/
  | malformed
  /-- The text is not what is wanted. -/
  | mismatch (m : Mismatch)
deriving DecidableEq

end RecordSchema.Json
