import RecordSchema.Config
import RecordSchema.Json.Value

/-!
# Configurations in JSON

A configuration is written as a compact object, the dialect first. It is read from an object with
the keys `dialect` and `table_prefix`, in any order and each at most once, or from an array of the
two values, whose tail may be missing; what is missing keeps its default. A dialect is its name, or
an object with the name as its one key and the value `null`. Reading a configuration checks it too.
-/

namespace RecordSchema

open Json (Fault)

namespace Dialect

/-- A dialect as JSON text. -/
def toJson (d : Dialect) : String := String.ofList (Json.written d.name.toList)

/-- The dialect of a given name, or the mismatch. -/
def ofVariant (name : String) : Except Fault Dialect :=
  match ofName? name with
  | some d => .ok d
  | none => .error (.mismatch (.unknownVariant name))

/-- A dialect in its object form, from after the opening brace. -/
def readObject (cs : List Char) : Except Fault (Dialect × List Char) := do
  let (name, cs) ← Json.readString "variant identifier" cs
  let d ← ofVariant name
  let cs ← Json.readMark ':' cs
  let cs ← Json.readNull "unit" cs
  let cs ← Json.readMark '\x7d' cs
  .ok (d, cs)

/-- A dialect: a string or its object form. -/
def read (cs : List Char) : Except Fault (Dialect × List Char) :=
  match Json.skipSpace cs with
  | [] => .error .truncated
  | '\x22' :: cs => do
    let (name, cs) ← Json.stringBody cs
    let d ← ofVariant (String.ofList name)
    .ok (d, cs)
  | '\x7b' :: cs => readObject cs
  | _ => .error .malformed

/-- The dialect that a text holds. -/
def ofJson (text : String) : Except Fault Dialect := do
  let (d, rest) ← read text.toList
  Json.readEnd rest
  .ok d

end Dialect

namespace Config

/-- A configuration as JSON text. -/
def toJson (c : Config) : String :=
  "\x7b\"dialect\":" ++ c.dialect.toJson ++ ",\"table_prefix\":" ++
    String.ofList (Json.written c.tablePrefix.toList) ++ "\x7d"

/-- What has been read of a configuration so far. -/
structure Draft where
  dialect : Option Dialect := none
  tablePrefix : Option String := none

namespace Draft

/-- How many members are still missing. -/
def missing (d : Draft) : Nat :=
  (if d.dialect.isNone then 1 else 0) + (if d.tablePrefix.isNone then 1 else 0)

/-- The configuration, with defaults for what is missing. -/
def finish (d : Draft) : Config :=
  { dialect := d.dialect.getD .sqlite, tablePrefix := d.tablePrefix.getD "" }

end Draft

/-- The start of an object's next member, from after its opening quote, or the end of the object. -/
def readNext (first : Bool) (cs : List Char) : Except Fault (Option (List Char) × List Char) :=
  match Json.skipSpace cs with
  | [] => .error .truncated
  | c :: cs =>
    if c == '\x7d' then .ok (none, cs)
    else if first then
      if c == '\x22' then .ok (some cs, []) else .error .malformed
    else if c == ',' then (Json.readMark '\x22' cs).map fun cs => (some cs, [])
    else .error .malformed

/-- The members of an object. A key is judged before its value is looked at. -/
def readMembers (draft : Draft) (first : Bool) (cs : List Char) :
    Except Fault (Config × List Char) := do
  match ← readNext first cs with
  | (none, rest) => .ok (draft.finish, rest)
  | (some cs, _) =>
    let (key, cs) ← Json.stringBody cs
    match String.ofList key with
    | "dialect" =>
      match _h : draft.dialect with
      | some _ => .error (.mismatch (.duplicateField "dialect"))
      | none =>
        let (d, cs) ← Dialect.read (← Json.readMark ':' cs)
        readMembers { draft with dialect := some d } false cs
    | "table_prefix" =>
      match _h : draft.tablePrefix with
      | some _ => .error (.mismatch (.duplicateField "table_prefix"))
      | none =>
        let (p, cs) ← Json.readString "a string" (← Json.readMark ':' cs)
        readMembers { draft with tablePrefix := some p } false cs
    | key => .error (.mismatch (.unknownField key))
termination_by draft.missing
decreasing_by all_goals simp [Draft.missing, _h]

/-- The closing bracket of an array whose values have all been read. -/
def readArrayEnd (cs : List Char) : Except Fault (List Char) := Json.readMark ']' cs

/-- The values of an array, from after its opening bracket. -/
def readElements (cs : List Char) : Except Fault (Config × List Char) :=
  match Json.skipSpace cs with
  | [] => .error .truncated
  | ']' :: cs => .ok ({}, cs)
  | cs => do
    let (d, cs) ← Dialect.read cs
    match Json.skipSpace cs with
    | [] => .error .truncated
    | ']' :: cs => .ok ({ dialect := d }, cs)
    | ',' :: cs =>
      match Json.skipSpace cs with
      | ']' :: _ => .error .malformed
      | cs =>
        let (p, cs) ← Json.readString "a string" cs
        let cs ← readArrayEnd cs
        .ok ({ dialect := d, tablePrefix := p }, cs)
    | _ => .error .malformed

/-- The configuration that a text holds, not yet checked. -/
def read (text : String) : Except Fault Config := do
  let (c, rest) ← match Json.skipSpace text.toList with
    | [] => .error .truncated
    | '[' :: cs => readElements cs
    | '\x7b' :: cs => readMembers {} true cs
    | cs => Json.refuse "struct SchemaConfig" cs
  Json.readEnd rest
  .ok c

/-- The checked configuration that a text holds. -/
def ofJson (text : String) : Except SchemaError Config :=
  match read text with
  | .error e => .error (.unreadableConfig e)
  | .ok c => c.validate.map fun _ => c

end Config

end RecordSchema
