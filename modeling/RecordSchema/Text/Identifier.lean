/-!
# Identifiers and type paths

An identifier is an ASCII letter or underscore followed by ASCII letters, digits and underscores:
what SQL accepts unquoted as the name of a table or column. A type path is one or more identifiers
joined by `::`. Both are read over lists of characters; `Text.isIdentifier` and `Text.isTypePath`
are the same tests on strings.

`lastSegment` cuts the short name out of a path. It looks for the last `::`, so of three colons in
a row the first belongs to the text before the cut.
-/

namespace RecordSchema.Text

/-- An ASCII letter or an underscore. -/
def isNameStart (c : Char) : Bool := c.isAlpha || c == '_'

/-- An ASCII letter, digit or underscore. -/
def isNamePart (c : Char) : Bool := c.isAlphanum || c == '_'

/-- One identifier, all of it. -/
def isIdentifierChars : List Char → Bool
  | [] => false
  | c :: cs => isNameStart c && cs.all isNamePart

/-- The pieces between the `::` of a text, found from the left. -/
def segments : List Char → List (List Char)
  | [] => [[]]
  | ':' :: ':' :: cs => [] :: segments cs
  | c :: cs =>
    match segments cs with
    | [] => [[c]]
    | s :: ss => (c :: s) :: ss

/-- A character that is no colon belongs to the first piece of what follows it. -/
theorem segments_cons {c : Char} (hc : c ≠ ':') {cs s : List Char} {ss : List (List Char)}
    (h : segments cs = s :: ss) : segments (c :: cs) = (c :: s) :: ss := by
  rw [segments, h]
  rintro cs' rfl
  exact fun _ => hc rfl

/-- Identifiers joined by `::`, at least one. -/
def isTypePathChars (cs : List Char) : Bool := (segments cs).all isIdentifierChars

/-- What follows the last `::`, if there is one. -/
def afterLastColons : List Char → Option (List Char)
  | [] => none
  | c :: cs =>
    match afterLastColons cs with
    | some rest => some rest
    | none => if c == ':' && cs.head? == some ':' then some cs.tail else none

/-- The part after the last `::`; the whole text if there is none. -/
def lastSegmentChars (cs : List Char) : List Char := (afterLastColons cs).getD cs

/-- Whether a string is one identifier. -/
def isIdentifier (s : String) : Bool := isIdentifierChars s.toList

/-- Whether a string is a type path. -/
def isTypePath (s : String) : Bool := isTypePathChars s.toList

/-- The part of a string after its last `::`. -/
def lastSegment (s : String) : String := String.ofList (lastSegmentChars s.toList)

theorem isNamePart_of_isNameStart {c : Char} (h : isNameStart c = true) : isNamePart c = true := by
  simp only [isNameStart, isNamePart, Char.isAlphanum, Bool.or_eq_true] at h ⊢
  exact h.imp_left Or.inl

theorem not_isNamePart_colon : isNamePart ':' = false := by decide

/-- Two names glued together are a name. -/
theorem isIdentifierChars_append {a b : List Char} (ha : isIdentifierChars a = true)
    (hb : b.all isNamePart = true) : isIdentifierChars (a ++ b) = true := by
  cases a with
  | nil => simp [isIdentifierChars] at ha
  | cons c cs =>
    simp only [isIdentifierChars, List.cons_append, List.all_append, Bool.and_eq_true] at ha ⊢
    exact ⟨ha.1, ha.2, hb⟩

theorem all_isNamePart_of_isIdentifierChars {a : List Char} (h : isIdentifierChars a = true) :
    a.all isNamePart = true := by
  cases a with
  | nil => rfl
  | cons c cs =>
    simp only [isIdentifierChars, Bool.and_eq_true] at h
    simp only [List.all_cons, Bool.and_eq_true]
    exact ⟨isNamePart_of_isNameStart h.1, h.2⟩

end RecordSchema.Text
