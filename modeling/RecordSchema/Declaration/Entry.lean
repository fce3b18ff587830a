import RecordSchema.Declaration.Grammar
import RecordSchema.Text.CharSet
import RecordSchema.Text.Identifier

/-!
# Entries of record attributes

An attribute called `record` holds a list of entries. An entry is a key by itself, or a key, `=` and
a string or a path. Which keys there are, and what each takes, depends on what carries the attribute
and is given by a vocabulary; the text of a string is checked by a rule that the vocabulary names.
Entries are read and checked one by one, so the first one that does not fit is the one refused.
-/

namespace RecordSchema.Declaration

open Reader

/-- What the text of an entry has to be. -/
inductive TextRule where
  | tableName
  | typeName
  | elementType
  | columnName
  | sqlType
deriving DecidableEq, Repr

namespace TextRule

/-- Whether a text is as the rule wants it: an identifier, a type path, or anything that is not
blank. -/
def admits : TextRule → String → Bool
  | tableName | columnName => Text.isIdentifier
  | typeName | elementType => Text.isTypePath
  | sqlType => fun s => s.toList.any fun c => !Text.isBlank c

/-- The words for a text that is not admitted. -/
def refusal : TextRule → String → String
  | tableName, s => "invalid table name `" ++ s ++ "`"
  | typeName, s => "invalid type identifier `" ++ s ++ "`"
  | elementType, s => "invalid element type identifier `" ++ s ++ "`"
  | columnName, s => "invalid column name `" ++ s ++ "`"
  | sqlType, _ => "sql_type must not be empty"

end TextRule

/-- Why no record can be derived from an item. -/
inductive DefinitionError where
  | generic
  /-- The item is of another kind, named in the plural. -/
  | notAStruct (kind : String)
  | unnamedFields
  /-- A `record` attribute with nothing after the word. -/
  | noArguments
  /-- A `record` attribute with a value. -/
  | notAList
  /-- A key that is not among those there are. -/
  | unknownKey (key : List Tree) (keys : List String)
  | invalidText (rule : TextRule) (text : String)
  /-- An entry is not written as it has to be. -/
  | refused (why : Refusal)

/-- The words of an error. -/
def DefinitionError.message : DefinitionError → String
  | generic => "Record cannot be derived for generic types"
  | notAStruct kind => "Record can only be derived for structs, not " ++ kind
  | unnamedFields => "Record requires a struct with named fields"
  | noArguments => "expected attribute arguments in parentheses: #[record(...)]"
  | notAList => "expected parentheses: #[record(...)]"
  | unknownKey key keys =>
    "unknown record attribute `" ++ Tree.listText key ++ "`. Valid attributes are: " ++
      ", ".intercalate keys
  | invalidText rule text => rule.refusal text
  | refused why => why.message

/-- What follows a key, and the entry it makes. -/
inductive EntryForm (ε : Type) where
  /-- Nothing. -/
  | flag (entry : ε)
  /-- A string that a rule admits. -/
  | text (rule : TextRule) (entry : String → ε)
  | path (entry : List Tree → ε)

/-- The keys of the entries of one kind, in the order in which they are listed. -/
abbrev Vocabulary (ε : Type) := List (String × EntryForm ε)

/-- The form of the entries with a given key. -/
def Vocabulary.form? {ε : Type} (v : Vocabulary ε) : List Tree → Option (EntryForm ε)
  | [.word w] => (v.find? fun e => e.1 == w).map Prod.snd
  | _ => none

namespace Entry

variable {ε : Type}

/-- A key. -/
def key : Read Unit := do
  discard <| tryOp "::"
  if ← ask .anyWord then
    discard anyWord
    many (.op "::") do
      op "::"
      discard anyWord
  else if ← ask .atEnd then refuse "expected nested attribute"
  else if ← ask .literal then reject "unexpected literal in nested attribute, expected ident"
  else reject "unexpected token in nested attribute, expected ident"

/-- What follows a key. -/
def value : EntryForm ε → Reader DefinitionError ε
  | .flag entry => return entry
  | .text rule entry => do
    let text ← mapError .refused (do op "="; string)
    if rule.admits text then return entry text else fail (.invalidText rule text)
  | .path entry =>
    mapError .refused do
      op "="
      return entry (← spelled (Grammar.declarations.path false))

/-- An entry. -/
def read (v : Vocabulary ε) : Reader DefinitionError ε := do
  let key ← mapError .refused (spelled key)
  match v.form? key with
  | some form => value form
  | none => fail (.unknownKey key (v.map Prod.fst))

end Entry

namespace Attribute

variable {ε : Type}

/-- Whether an attribute is for records. -/
def isRecord (a : Attribute) : Bool :=
  match a.path with
  | [.word w] => w == "record"
  | _ => false

/-- The entries of an attribute; attributes that are not for records have none. -/
def entries (v : Vocabulary ε) (a : Attribute) : Except DefinitionError (List ε) :=
  if a.isRecord then
    match a.body with
    | .none => .error .noArguments
    | .value => .error .notAList
    | .list content =>
      Reader.all (fun d => .refused (.leftOver d))
        (Reader.list (.refused (.operator ",")) (Entry.read v)) content
  else .ok []

/-- The entries of several attributes. -/
def allEntries (v : Vocabulary ε) : List Attribute → Except DefinitionError (List ε)
  | [] => .ok []
  | a :: as => do return (← a.entries v) ++ (← allEntries v as)

/-- Attributes that are not for records do not matter. -/
theorem entries_of_not_isRecord {v : Vocabulary ε} {a : Attribute} (h : a.isRecord = false) :
    a.entries v = .ok [] := by
  simp [entries, h]

end Attribute

end RecordSchema.Declaration
