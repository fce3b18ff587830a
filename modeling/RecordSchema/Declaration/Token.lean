/-!
# Token trees

A declaration is a list of token trees: words, marks of punctuation, literals, and groups between
matching delimiters. A mark knows whether the next character is a mark as well, so that an operator
of several characters is a run of joint marks. The text of a list puts one space between trees, and
none after a joint mark.
-/

namespace RecordSchema.Declaration

/-- A pair of delimiters. -/
inductive Delimiter where
  | paren
  | bracket
  | brace
deriving DecidableEq, Repr

namespace Delimiter

def opening : Delimiter → Char
  | paren => '('
  | bracket => '['
  | brace => '\x7b'

def closing : Delimiter → Char
  | paren => ')'
  | bracket => ']'
  | brace => '\x7d'

/-- The delimiter a character opens. -/
def ofOpening? (c : Char) : Option Delimiter :=
  [paren, bracket, brace].find? fun d => d.opening == c

/-- The delimiter a character closes. -/
def ofClosing? (c : Char) : Option Delimiter :=
  [paren, bracket, brace].find? fun d => d.closing == c

end Delimiter

/-- A token or a group of them. -/
inductive Tree where
  /-- An identifier or keyword; a raw one keeps its `r#`. -/
  | word (text : String)
  /-- One character of punctuation, and whether it is joined to the next one. -/
  | mark (char : Char) (joint : Bool)
  /-- A literal as it was written. -/
  | literal (text : String)
  | group (delimiter : Delimiter) (body : List Tree)
deriving Repr

namespace Tree

/-- Whether no space follows the tree. -/
def isJoint : Tree → Bool
  | mark _ joint => joint
  | word _ | literal _ | group .. => false

mutual

/-- The text of a tree. Braces keep a space inside. -/
def text : Tree → String
  | word w => w
  | mark c _ => c.toString
  | literal t => t
  | group d body => groupText d (listText body)

/-- The text of a list of trees. -/
def listText : List Tree → String
  | [] => ""
  | [t] => t.text
  | t :: u :: ts => t.text ++ (if t.isJoint then "" else " ") ++ listText (u :: ts)

/-- The text of a group, from the text of its body. -/
def groupText : Delimiter → String → String
  | .paren, body => "(" ++ body ++ ")"
  | .bracket, body => "[" ++ body ++ "]"
  | .brace, body => "\x7b " ++ body ++ (if body.isEmpty then "\x7d" else " \x7d")

end

/-- The marks of an operator, joined to one another and not to what follows. -/
def operator : List Char → List Tree
  | [] => []
  | [c] => [mark c false]
  | c :: d :: cs => mark c true :: operator (d :: cs)

/-- A lifetime: its apostrophe and its name. -/
def lifetime (name : String) : List Tree := [mark '\x27' true, word name]

/-- A group in parentheses. -/
def paren (body : List Tree) : Tree := group .paren body

/-- A group in brackets. -/
def bracket (body : List Tree) : Tree := group .bracket body

/-- A group in braces. -/
def brace (body : List Tree) : Tree := group .brace body

end Tree

end RecordSchema.Declaration
