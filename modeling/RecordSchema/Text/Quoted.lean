import RecordSchema.Text.Shown

/-!
# Quoted text

`quoted` is how a message shows a text: between double quotes, with quotes, backslashes, line
breaks, tabs and NUL escaped by a letter and every other character that is not shown as it is by its
code point, `\u{7f}`. `literal` is the same text as a string literal in code; there a NUL before an
octal digit is written `\x00`, which no reader can take for a longer octal escape.
-/

namespace RecordSchema.Text

/-- A character by its code point: `\u{7f}`. -/
def codeEscape (c : Char) : List Char :=
  '\\' :: 'u' :: '{' :: Nat.toDigits 16 c.toNat ++ ['}']

/-- A character as it stands between double quotes. -/
def quotedChar (c : Char) : List Char :=
  match c with
  | '\x00' => ['\\', '0']
  | '\t' => ['\\', 't']
  | '\n' => ['\\', 'n']
  | '\r' => ['\\', 'r']
  | '\x22' => ['\\', '\x22']
  | '\\' => ['\\', '\\']
  | c => if isShown c then [c] else codeEscape c

/-- The characters of a text between double quotes. -/
def quotedChars (cs : List Char) : List Char :=
  '\x22' :: cs.flatMap quotedChar ++ ['\x22']

/-- A text between double quotes, as messages show it. -/
def quoted (s : String) : String := String.ofList (quotedChars s.toList)

/-- Whether a character is an octal digit. -/
def isOctalDigit (c : Char) : Bool := '0' ≤ c && c ≤ '7'

/-- The inside of a string literal. -/
def literalBody : List Char → List Char
  | [] => []
  | c :: cs =>
    (if c == '\x00' && cs.head?.any isOctalDigit then ['\\', 'x', '0', '0'] else quotedChar c)
      ++ literalBody cs

/-- A text as a string literal in code. -/
def literal (s : String) : String :=
  String.ofList ('\x22' :: literalBody s.toList ++ ['\x22'])

/-- A text without quotes, backslashes, breaks, tabs and NUL, all of it shown as it is. -/
def IsPlain (cs : List Char) : Prop := ∀ c ∈ cs, quotedChar c = [c]

theorem flatMap_quotedChar_of_isPlain {cs : List Char} (h : IsPlain cs) :
    cs.flatMap quotedChar = cs := by
  induction cs with
  | nil => rfl
  | cons c cs ih =>
    rw [List.flatMap_cons, h c (List.mem_cons_self ..),
      ih fun d hd => h d (List.mem_cons_of_mem _ hd)]
    rfl

/-- A plain text stands between its quotes unchanged. -/
theorem quotedChars_of_isPlain {cs : List Char} (h : IsPlain cs) :
    quotedChars cs = '\x22' :: cs ++ ['\x22'] := by
  rw [quotedChars, flatMap_quotedChar_of_isPlain h]

end RecordSchema.Text
