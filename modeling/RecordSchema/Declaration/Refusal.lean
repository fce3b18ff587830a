import RecordSchema.Declaration.Token

/-!
# Refusals

Why a list of token trees is not what it was read as. The words of most refusals say what was
expected, and that nothing was left if that is so; a missing operator is named without saying so.
Something that is left over at the end of a group is named by the delimiter that should have been
there.
-/

namespace RecordSchema.Declaration

/-- Why a reader refused what it was given. -/
inductive Refusal where
  /-- An operator is missing. -/
  | operator (op : String)
  /-- Something else does not fit; `atEnd` says that nothing was left. -/
  | wrong (words : String) (atEnd : Bool)
  /-- A keyword where an identifier is needed. -/
  | keyword (word : String)
  /-- Something is left over, in a group or after everything. -/
  | leftOver (within : Option Delimiter)
deriving DecidableEq

/-- A text between grave accents. -/
def quoted (s : String) : String := "`" ++ s ++ "`"

/-- The words of a refusal. -/
def Refusal.message : Refusal → String
  | operator op => "expected " ++ quoted op
  | wrong words false => words
  | wrong words true => "unexpected end of input, " ++ words
  | keyword w => "expected identifier, found keyword " ++ quoted w
  | leftOver none => "unexpected token"
  | leftOver (some d) => "unexpected token, expected " ++ quoted d.closing.toString

/-- The words that name what would fit. -/
def expected : List String → String
  | [a] => "expected " ++ a
  | [a, b] => "expected " ++ a ++ " or " ++ b
  | as => "expected one of: " ++ ", ".intercalate as

/-- The words for a group that is missing. -/
def Delimiter.words : Delimiter → String
  | .paren => "parentheses"
  | .bracket => "square brackets"
  | .brace => "curly braces"

example : (Refusal.wrong (expected ["identifier", quoted "_"]) true).message =
    "unexpected end of input, expected identifier or `_`" := rfl

end RecordSchema.Declaration
