import RecordSchema.Text.WordCharacters

/-!
# Literals

Where a literal ends, and what a string literal stands for. A quoted literal is plain, with escapes,
or raw, between a number of hashes; strings, byte strings and C strings differ in the characters and
escapes they allow. Every literal may carry a suffix, a word that follows at once.

Functions called `…Rest` take characters that start with the thing in question and give what follows
it, or nothing if it does not start there.
-/

namespace RecordSchema.Declaration.Literal

open Text (isWordStart isWordPart)

/-- A word that is not raw, and what follows it. -/
def word? : List Char → Option (List Char × List Char)
  | [] => none
  | c :: cs =>
    if isWordStart c then some (c :: cs.takeWhile isWordPart, cs.dropWhile isWordPart) else none

/-- What follows a suffix, if there is one. -/
def suffixRest (cs : List Char) : List Char :=
  match word? cs with
  | some (_, rest) => rest
  | none => cs

/-- The value of a hexadecimal digit. -/
def hexDigit? (c : Char) : Option Nat :=
  if c.isDigit then some (c.toNat - 48)
  else if 'a' ≤ c && c ≤ 'f' then some (c.toNat - 87)
  else if 'A' ≤ c && c ≤ 'F' then some (c.toNat - 55)
  else none

/-- What a quoted literal allows. -/
structure Quotation where
  /-- Characters beyond ASCII, and escapes by code point. -/
  unicode : Bool
  /-- Escapes of two hexadecimal digits above `7f`. -/
  highBytes : Bool
  /-- The character NUL, by itself or escaped. -/
  nul : Bool

def Quotation.string : Quotation := ⟨true, false, true⟩

def Quotation.byteString : Quotation := ⟨false, true, true⟩

def Quotation.cString : Quotation := ⟨true, true, false⟩

/-- Whether a character may stand in a quoted literal as it is. -/
def Quotation.allows (q : Quotation) (c : Char) : Bool :=
  (q.unicode || c.toNat < 0x80) && (q.nul || c != '\x00')

/-- The character of a code point, if there is one. -/
def character? (n : Nat) : Option Char := if n.isValidChar then some (Char.ofNat n) else none

/-- An escape by code point, from after `u`: one to six hexadecimal digits in braces, with
underscores after the first. Gives the character and how many characters the escape takes. -/
def codeEscape : List Char → Option (Char × Nat)
  | '\x7b' :: cs =>
    let inside := cs.takeWhile fun c => (hexDigit? c).isSome || c == '_'
    let digits := inside.filterMap hexDigit?
    if cs[inside.length]? == some '\x7d' && inside.head?.any (· != '_') && digits.length ≤ 6 then
      (character? (digits.foldl (fun n d => 16 * n + d) 0)).map (·, inside.length + 2)
    else none
  | _ => none

/-- The character of an escape of one letter. -/
def letterEscape? : Char → Option Char
  | 'n' => some '\n'
  | 'r' => some '\r'
  | 't' => some '\t'
  | '\\' => some '\\'
  | '0' => some '\x00'
  | '\x27' => some '\x27'
  | '\x22' => some '\x22'
  | _ => none

/-- Whether every carriage return is followed by a line feed. -/
def noLoneReturn : List Char → Bool
  | [] => true
  | '\r' :: '\n' :: cs => noLoneReturn cs
  | c :: cs => c != '\r' && noLoneReturn cs

/-- The white space that a line's end after a backslash runs through. -/
def isGap (c : Char) : Bool := c == ' ' || c == '\t' || c == '\n' || c == '\r'

/-- An escape, from after its backslash: the characters it stands for and how many it takes. At a
line's end it stands for nothing and takes all white space there. -/
def escape (q : Quotation) : List Char → Option (List Char × Nat)
  | [] => none
  | 'x' :: a :: b :: _ =>
    match hexDigit? a, hexDigit? b with
    | some m, some n =>
      if (q.highBytes || m < 8) && (q.nul || 16 * m + n != 0) then
        some ([Char.ofNat (16 * m + n)], 3)
      else none
    | _, _ => none
  | c :: cs =>
    if c == 'u' then
      if q.unicode then
        (codeEscape cs).bind fun p => if q.nul || p.1 != '\x00' then some ([p.1], p.2 + 1) else none
      else none
    else if c == '\n' || c == '\r' then
      let gap := (c :: cs).takeWhile isGap
      if noLoneReturn gap then some ([], gap.length) else none
    else
      (letterEscape? c).bind fun d => if q.nul || d != '\x00' then some ([d], 1) else none

/-- A plain quoted literal, from after its opening quote: what it stands for and what follows its
closing quote. A carriage return needs a line feed and stands for it. -/
def cooked (q : Quotation) : List Char → Option (List Char × List Char)
  | [] => none
  | c :: cs =>
    if c == '\x22' then some ([], cs)
    else if c == '\\' then
      (escape q cs).bind fun e =>
        (cooked q (cs.drop e.2)).map fun p => (e.1 ++ p.1, p.2)
    else if c == '\r' then
      if cs.head? == some '\n' then (cooked q cs.tail).map fun p => ('\n' :: p.1, p.2) else none
    else if q.allows c then (cooked q cs).map fun p => (c :: p.1, p.2)
    else none
termination_by cs => cs.length
decreasing_by all_goals simp only [List.length_drop, List.length_tail, List.length_cons]; omega

/-- The inside of a raw literal with a number of hashes: its text and what follows it. -/
def rawBody (q : Quotation) (hashes : Nat) : List Char → Option (List Char × List Char)
  | [] => none
  | c :: cs =>
    if c == '\x22' && (cs.take hashes).all (· == '#') && hashes ≤ cs.length then
      some ([], cs.drop hashes)
    else if (c != '\r' || cs.head? == some '\n') && q.allows c then
      (rawBody q hashes cs).map fun p => (c :: p.1, p.2)
    else none

/-- A raw literal, from its hashes on. -/
def raw (q : Quotation) (cs : List Char) : Option (List Char × List Char) :=
  let hashes := (cs.takeWhile (· == '#')).length
  if cs[hashes]? == some '\x22' && hashes ≤ 255 then rawBody q hashes (cs.drop (hashes + 1))
  else none

/-- A plain or raw string literal without its suffix: what it stands for and what follows it. -/
def string? : List Char → Option (List Char × List Char)
  | '\x22' :: cs => cooked .string cs
  | 'r' :: cs => raw .string cs
  | _ => none

/-- A byte string. -/
def byteString? : List Char → Option (List Char × List Char)
  | 'b' :: '\x22' :: cs => cooked .byteString cs
  | 'b' :: 'r' :: cs => raw .byteString cs
  | _ => none

/-- A C string. -/
def cString? : List Char → Option (List Char × List Char)
  | 'c' :: '\x22' :: cs => cooked .cString cs
  | 'c' :: 'r' :: cs => raw .cString cs
  | _ => none

/-- One character or escape between apostrophes, from after the opening one. -/
def characterRest (q : Quotation) : List Char → Option (List Char)
  | [] => none
  | c :: cs =>
    let length : Option Nat :=
      if c == '\\' then
        match escape q cs with
        | some ([_], n) => some n
        | _ => none
      else if q.unicode || c.toNat < 0x80 then some 0
      else none
    length.bind fun n =>
      if cs[n]? == some '\x27' then some (suffixRest (cs.drop (n + 1))) else none

/-- A character or a byte. -/
def quotedCharacterRest : List Char → Option (List Char)
  | '\x27' :: cs => characterRest .string cs
  | 'b' :: '\x27' :: cs => characterRest .byteString cs
  | _ => none

/-- What follows a number's digits: a suffix, and no other part of a word. -/
def numberEnd (cs : List Char) : Option (List Char) :=
  let rest := suffixRest cs
  if rest.head?.any isWordPart then none else some rest

/-- Decimal digits with underscores. -/
def isNumberPart (c : Char) : Bool := c.isDigit || c == '_'

/-- The digits of an exponent, from after the `e`. -/
def exponentRest (cs : List Char) : Option (List Char) :=
  let unsigned := match cs.dropWhile (· == '_') with
    | '+' :: cs | '-' :: cs => cs.dropWhile (· == '_')
    | cs => cs
  if unsigned.head?.any Char.isDigit then some (unsigned.dropWhile isNumberPart) else none

/-- Whether a character starts an exponent. -/
def isExponentMark (c : Char) : Bool := c == 'e' || c == 'E'

/-- A number with a point or an exponent. After a point there may be digits, but neither a second
point nor a word; without one, an `e` needs an exponent. -/
def floatRest (cs : List Char) : Option (List Char) :=
  if cs.head?.any Char.isDigit then
    match cs.dropWhile isNumberPart with
    | '.' :: rest =>
      if rest.head?.any fun c => c == '.' || isWordStart c then none
      else
        let rest := rest.dropWhile isNumberPart
        if rest.head?.any isExponentMark then numberEnd ((exponentRest rest.tail).getD rest)
        else numberEnd rest
    | c :: rest => if isExponentMark c then (exponentRest rest).bind numberEnd else none
    | [] => none
  else none

/-- The digits of an integer to a base. -/
def digitsRest (base : Nat) (cs : List Char) : Option (List Char) :=
  let isPart (c : Char) : Bool := c.isDigit || c == '_' || (base == 16 && (hexDigit? c).isSome)
  let digits := (cs.takeWhile isPart).filterMap hexDigit?
  if digits.isEmpty || digits.any (base ≤ ·) then none else some (cs.dropWhile isPart)

/-- An integer. -/
def integerRest (cs : List Char) : Option (List Char) :=
  match cs with
  | '0' :: 'x' :: cs => (digitsRest 16 cs).bind numberEnd
  | '0' :: 'o' :: cs => (digitsRest 8 cs).bind numberEnd
  | '0' :: 'b' :: cs => (digitsRest 2 cs).bind numberEnd
  | c :: _ => if c.isDigit then (digitsRest 10 cs).bind numberEnd else none
  | [] => none

/-- Any literal. -/
def rest? (cs : List Char) : Option (List Char) :=
  ((string? cs <|> byteString? cs <|> cString? cs).map fun p => suffixRest p.2)
    <|> quotedCharacterRest cs <|> floatRest cs <|> integerRest cs

/-- Whether the text of a literal is that of a number. -/
def isNumber (text : String) : Bool := text.toList.head?.any Char.isDigit

/-- Whether the text of a literal is that of an integer without point or exponent. -/
def isInteger (text : String) : Bool :=
  integerRest text.toList == some [] && floatRest text.toList != some []

/-- The value of digits to a base, up to the first character that is none, and what follows them. -/
def digitsValue (base n : Nat) : List Char → Nat × List Char
  | [] => (n, [])
  | c :: cs =>
    if c == '_' then digitsValue base n cs
    else
      match hexDigit? c with
      | some d => if d < base then digitsValue base (base * n + d) cs else (n, c :: cs)
      | none => (n, c :: cs)

/-- The value of an integer and its suffix. -/
def integerValue (text : String) : Nat × List Char :=
  match text.toList with
  | '0' :: 'x' :: cs => digitsValue 16 0 cs
  | '0' :: 'o' :: cs => digitsValue 8 0 cs
  | '0' :: 'b' :: cs => digitsValue 2 0 cs
  | cs => digitsValue 10 0 cs

/-- What the text of a string literal stands for; nothing for other literals. -/
def stringValue? (text : String) : Option String :=
  (string? text.toList).map fun p => String.ofList p.1

example : stringValue? "\"a\\x41\\u\x7b62\x7d\"" = some "aAb" := by
  with_unfolding_all rfl

end RecordSchema.Declaration.Literal
