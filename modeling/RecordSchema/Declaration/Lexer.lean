import RecordSchema.Declaration.Literal
import RecordSchema.Declaration.Token
import RecordSchema.Text.Quoted

/-!
# From text to token trees

Reading goes in two steps: the text is cut into lexemes, then the delimiters among them are matched.
Blank characters and comments separate lexemes. A comment that documents something stands for the
attribute `#[doc = "…"]`, or `#![doc = "…"]` if it documents what it stands in.

Each step of the first part looks at the front of the remaining text and takes at least one
character of it, so the text gets shorter; the second part takes one lexeme at a time.
-/

namespace RecordSchema.Declaration

open Text (isWordStart isWordPart)

/-- A token whose delimiters are not matched yet. -/
inductive Lexeme where
  | token (tree : Tree)
  | opening (delimiter : Delimiter)
  | closing (delimiter : Delimiter)

namespace Lexeme

/-- Blank characters between lexemes: those of Unicode, and the marks of writing direction. -/
def isSpace (c : Char) : Bool := Text.isBlank c || c == '\u200e' || c == '\u200f'

/-- The characters of punctuation. -/
def isMark (c : Char) : Bool := "~!@#$%^&*-=+|;:,<.>/?'".toList.contains c

/-- Whether a text starts with another. -/
def startsWith (text start : List Char) : Bool := start.isPrefixOf text

/-- Whether a comment starts here. -/
def atComment (cs : List Char) : Bool := startsWith cs ['/', '/'] || startsWith cs ['/', '*']

/-- How long the line is, without its end. -/
def lineLength : List Char → Nat
  | [] => 0
  | c :: cs => if c == '\n' || (c == '\r' && cs.head? == some '\n') then 0 else lineLength cs + 1

/-- How long a block comment is, whose inner comments are `depth` deep here; nothing if it does not
end. -/
def blockLength : Nat → List Char → Option Nat
  | depth, '/' :: '*' :: cs => (blockLength (depth + 1) cs).map (· + 2)
  | depth, '*' :: '/' :: cs =>
    if depth ≤ 1 then some 2 else (blockLength (depth - 1) cs).map (· + 2)
  | depth, _ :: cs => (blockLength depth cs).map (· + 1)
  | _, [] => none

/-- The attribute that a documenting comment stands for. -/
def documentation (inner : Bool) (text : List Char) : List Lexeme :=
  token (.mark '#' false) :: (if inner then [token (.mark '!' false)] else []) ++
    [opening .bracket, token (.word "doc"), token (.mark '=' false),
      token (.literal (Text.literal (String.ofList text))), closing .bracket]

/-- A documenting comment of which `text` is the inside, if it holds no lone carriage return. -/
def documentation? (inner : Bool) (text : List Char) (length : Nat) : Option (List Lexeme × Nat) :=
  if Literal.noLoneReturn text then some (documentation inner text, length) else none

/-- A comment: the lexemes it stands for and its length. A line that starts with three slashes
documents, with four it does not; so do a block that starts with two stars, but not with three, and
a comment whose second mark is followed by an exclamation mark. -/
def comment (cs : List Char) : Option (List Lexeme × Nat) :=
  if startsWith cs ['/', '/'] then
    let length := lineLength cs
    if startsWith cs ['/', '/', '!'] then
      documentation? true ((cs.take length).drop 3) length
    else if startsWith cs ['/', '/', '/'] && !startsWith cs ['/', '/', '/', '/'] then
      documentation? false ((cs.take length).drop 3) length
    else some ([], length)
  else if startsWith cs ['/', '*', '*', '/'] then some ([], 4)
  else
    (blockLength 0 cs).bind fun length =>
      let inside := ((cs.take length).drop 3).dropLast.dropLast
      if startsWith cs ['/', '*', '!'] then documentation? true inside length
      else if startsWith cs ['/', '*', '*'] && !startsWith cs ['/', '*', '*', '*'] then
        documentation? false inside length
      else some ([], length)

/-- The starts of literals, which are never words. -/
def literalStarts : List (List Char) :=
  ["r\"", "r#\"", "r##", "b\"", "b\x27", "br\"", "br#", "c\"", "cr\"", "cr#"].map String.toList

/-- The words that cannot be raw. -/
def neverRaw : List String := ["_", "super", "self", "Self", "crate"]

/-- A word, raw or not, and what follows it. -/
def anyWord? (cs : List Char) : Option (List Char × List Char) :=
  if startsWith cs ['r', '#'] then
    (Literal.word? (cs.drop 2)).bind fun p =>
      if neverRaw.contains (String.ofList p.1) then none else some ('r' :: '#' :: p.1, p.2)
  else Literal.word? cs

/-- Whether a mark stands here: punctuation that does not start a comment. -/
def atMark (cs : List Char) : Bool := cs.head?.any isMark && !atComment cs

/-- The apostrophe of a lifetime, from after it: a word follows, and no further apostrophe. -/
def isLifetime (cs : List Char) : Bool :=
  match anyWord? cs with
  | none => false
  | some (_, rest) =>
    !(rest.head? == some '\x27' || (rest.head? == some '#' && !startsWith cs ['r', '#']))

/-- A literal, mark or word. -/
def leaf (c : Char) (cs : List Char) : Option (Tree × Nat) :=
  let all := c :: cs
  match Literal.rest? all with
  | some rest =>
    let length := all.length - rest.length
    some (.literal (String.ofList (all.take length)), length)
  | none =>
    if isMark c then
      if c == '\x27' then if isLifetime cs then some (.mark c true, 1) else none
      else some (.mark c (atMark cs), 1)
    else if literalStarts.any (startsWith all) then none
    else (anyWord? all).map fun p => (.word (String.ofList p.1), p.1.length)

/-- What is written where a literal could not be read. It counts as a literal. -/
def placeholder : String := "(/*ERROR*/)"

/-- The lexemes at the front of a text and how many characters they take. -/
def next (c : Char) (cs : List Char) : Option (List Lexeme × Nat) :=
  if isSpace c then some ([], 1)
  else if atComment (c :: cs) then comment (c :: cs)
  else if startsWith (c :: cs) placeholder.toList then
    some ([token (.literal placeholder)], placeholder.length)
  else
    match Delimiter.ofOpening? c, Delimiter.ofClosing? c with
    | some d, _ => some ([opening d], 1)
    | none, some d => some ([closing d], 1)
    | none, none => (leaf c cs).map fun p => ([token p.1], p.2)

/-- The lexemes of a text. -/
def ofChars : List Char → Option (List Lexeme)
  | [] => some []
  | c :: cs =>
    (next c cs).bind fun p => (ofChars (cs.drop (p.2 - 1))).map fun rest => p.1 ++ rest
termination_by cs => cs.length
decreasing_by simp only [List.length_drop, List.length_cons]; omega

/-- Matches delimiters. `outer` holds the groups that are open, innermost first, each with what
stood before it; `inner` is what the innermost group holds so far. Both are in reverse. -/
def matched : List (Delimiter × List Tree) → List Tree → List Lexeme → Option (List Tree)
  | [], inner, [] => some inner.reverse
  | _ :: _, _, [] => none
  | outer, inner, token t :: ls => matched outer (t :: inner) ls
  | outer, inner, opening d :: ls => matched ((d, inner) :: outer) [] ls
  | [], _, closing _ :: _ => none
  | (d, before) :: outer, inner, closing e :: ls =>
    if d == e then matched outer (.group d inner.reverse :: before) ls else none

end Lexeme

/-- The token trees of a text. A byte-order mark at the front is no part of it. -/
def treesOf (text : String) : Option (List Tree) :=
  let cs := text.toList
  let cs := if cs.head? == some '\ufeff' then cs.tail else cs
  (Lexeme.ofChars cs).bind (Lexeme.matched [] [])

end RecordSchema.Declaration
