import RecordSchema.Json.Value
import RecordSchema.Proofs.Result

/-!
# Tokens of JSON text

What JSON text is made of, apart from how it is read: characters of strings, each of which may be
written in several ways (`Spells`), and tokens with white space around them (`Begins`, `Spaced`).
Each reader of a string, of a mark or of `null` accepts a text exactly if that token stands at its
front, and leaves what follows the token (`stringBody_eq_ok_iff`, `readMark_eq_ok_iff`,
`readString_eq_ok_iff`, `readNull_eq_ok_iff`).

A string ends in one place only, so a text without numbers and truth values is made of tokens in one
way (`Spaced.tokens_eq`).
-/

namespace RecordSchema.Json

/-! ## Characters of strings -/

/-- A hexadecimal digit and its value. -/
def HexDigit (c : Char) (n : Nat) : Prop :=
  ('0' ≤ c ∧ c ≤ '9' ∧ c.toNat = '0'.toNat + n) ∨
    ('a' ≤ c ∧ c ≤ 'f' ∧ c.toNat + 10 = 'a'.toNat + n) ∨
    ('A' ≤ c ∧ c ≤ 'F' ∧ c.toNat + 10 = 'A'.toNat + n)

/-- Four hexadecimal digits and their value. -/
def FourHex (digits : List Char) (n : Nat) : Prop :=
  ∃ c₁ c₂ c₃ c₄ n₁ n₂ n₃ n₄, digits = [c₁, c₂, c₃, c₄] ∧ HexDigit c₁ n₁ ∧ HexDigit c₂ n₂ ∧
    HexDigit c₃ n₃ ∧ HexDigit c₄ n₄ ∧ n = 16 * (16 * (16 * n₁ + n₂) + n₃) + n₄

/-- The letters that a character may be escaped by. -/
def escapeLetters : List (Char × Char) :=
  [('\x22', '\x22'), ('\\', '\\'), ('/', '/'), ('b', '\x08'), ('f', '\x0c'), ('n', '\n'),
    ('r', '\r'), ('t', '\t')]

/-- How a character of a string may be written: as it is, by a letter, by its code, or by two codes
if it lies beyond the basic plane. -/
inductive Spells : List Char → Char → Prop
  | plain {c : Char} (hq : c ≠ '\x22') (hb : c ≠ '\\') (hc : 0x20 ≤ c.toNat) : Spells [c] c
  | letter {l c : Char} (h : (l, c) ∈ escapeLetters) : Spells ['\\', l] c
  | code {digits : List Char} {n : Nat} (h : FourHex digits n) (hn : n < 0xD800 ∨ 0xDFFF < n) :
    Spells ('\\' :: 'u' :: digits) (Char.ofNat n)
  | pair {digits digits' : List Char} {n m : Nat} (h : FourHex digits n) (h' : FourHex digits' m)
    (hn : 0xD800 ≤ n ∧ n ≤ 0xDBFF) (hm : 0xDC00 ≤ m ∧ m ≤ 0xDFFF) :
    Spells ('\\' :: 'u' :: (digits ++ '\\' :: 'u' :: digits'))
      (Char.ofNat (0x10000 + (n - 0xD800) * 0x400 + (m - 0xDC00)))

/-- How the inside of a string may be written. -/
inductive SpellsAll : List Char → List Char → Prop
  | nil : SpellsAll [] []
  | cons {text texts : List Char} {c : Char} {cs : List Char} (h : Spells text c)
    (hs : SpellsAll texts cs) : SpellsAll (text ++ texts) (c :: cs)

theorem hexDigit?_eq_some_iff {c : Char} {n : Nat} : hexDigit? c = some n ↔ HexDigit c n := by
  have hle : ∀ a b : Char, a ≤ b ↔ a.toNat ≤ b.toNat := fun a b => Iff.rfl
  have h0 : '0'.toNat = 48 := rfl
  have h9 : '9'.toNat = 57 := rfl
  have ha : 'a'.toNat = 97 := rfl
  have hf : 'f'.toNat = 102 := rfl
  have hA : 'A'.toNat = 65 := rfl
  have hF : 'F'.toNat = 70 := rfl
  have hdigit : c.isDigit = true ↔ 48 ≤ c.toNat ∧ c.toNat ≤ 57 := by
    simp only [Char.isDigit, Bool.and_eq_true, decide_eq_true_eq]
    exact Iff.rfl
  unfold hexDigit? HexDigit
  simp only [hle, h0, h9, ha, hf, hA, hF, hdigit, Bool.and_eq_true, decide_eq_true_eq]
  split
  · rw [Option.some.injEq]
    omega
  · split
    · rw [Option.some.injEq]
      omega
    · split
      · rw [Option.some.injEq]
        omega
      · simp only [reduceCtorEq, false_iff]
        omega

theorem fourHex_eq_ok_iff {cs rest : List Char} {n : Nat} :
    fourHex cs = .ok (n, rest) ↔ ∃ digits, FourHex digits n ∧ cs = digits ++ rest := by
  constructor
  · intro h
    unfold fourHex at h
    split at h
    · next c₁ c₂ c₃ c₄ more =>
      split at h
      · next hv =>
        cases h
        refine ⟨[c₁, c₂, c₃, c₄], ?_, rfl⟩
        simp only [hexValue?, List.foldl_cons, List.foldl_nil, Option.bind_eq_some_iff,
          Option.map_eq_some_iff, Option.some.injEq, hexDigit?_eq_some_iff] at hv
        obtain ⟨_, ⟨_, ⟨_, ⟨_, rfl, n₁, h₁, rfl⟩, n₂, h₂, rfl⟩, n₃, h₃, rfl⟩, n₄, h₄, rfl⟩ := hv
        exact ⟨c₁, c₂, c₃, c₄, n₁, n₂, n₃, n₄, rfl, h₁, h₂, h₃, h₄, by omega⟩
      · cases h
    · cases h
  · rintro ⟨_, ⟨c₁, c₂, c₃, c₄, n₁, n₂, n₃, n₄, rfl, h₁, h₂, h₃, h₄, rfl⟩, rfl⟩
    rw [← hexDigit?_eq_some_iff] at h₁ h₂ h₃ h₄
    simp [fourHex, hexValue?, h₁, h₂, h₃, h₄]

theorem fourHex_append {digits : List Char} {n : Nat} (h : FourHex digits n) (rest : List Char) :
    fourHex (digits ++ rest) = .ok (n, rest) :=
  fourHex_eq_ok_iff.2 ⟨digits, h, rfl⟩

theorem letterEscape?_eq_some_iff {l c : Char} :
    letterEscape? l = some c ↔ (l, c) ∈ escapeLetters := by
  constructor
  · intro h
    unfold letterEscape? at h
    split at h <;> cases h <;> decide
  · intro h
    simp only [escapeLetters, List.mem_cons, Prod.mk.injEq, List.not_mem_nil, or_false] at h
    rcases h with ⟨rfl, rfl⟩ | ⟨rfl, rfl⟩ | ⟨rfl, rfl⟩ | ⟨rfl, rfl⟩ | ⟨rfl, rfl⟩ | ⟨rfl, rfl⟩ |
      ⟨rfl, rfl⟩ | ⟨rfl, rfl⟩ <;> rfl

theorem isTrailingHalf_iff {n : Nat} :
    isTrailingHalf n = true ↔ 0xDC00 ≤ n ∧ n ≤ 0xDFFF := by
  simp [isTrailingHalf]

theorem isLeadingHalf_iff {n : Nat} : isLeadingHalf n = true ↔ 0xD800 ≤ n ∧ n ≤ 0xDBFF := by
  simp [isLeadingHalf]

/-- An escape as it is read is one of the ways to write a character. -/
theorem spells_of_escaped {cs rest : List Char} {c : Char} (h : escaped cs = .ok (c, rest)) :
    ∃ text, Spells ('\\' :: text) c ∧ cs = text ++ rest := by
  unfold escaped at h
  split at h
  · cases h
  · next cs =>
    unfold codeEscaped at h
    split at h
    · cases h
    · next n more hn =>
      obtain ⟨digits, hdigits, rfl⟩ := fourHex_eq_ok_iff.1 hn
      split at h
      · cases h
      · next htrail =>
        rw [isTrailingHalf_iff] at htrail
        split at h
        · next hlead =>
          rw [isLeadingHalf_iff] at hlead
          split at h
          · cases h
          · cases h
          · next after =>
            split at h
            · cases h
            · next m last hm =>
              obtain ⟨digits', hdigits', rfl⟩ := fourHex_eq_ok_iff.1 hm
              split at h
              · next htrail' =>
                simp only [Except.ok.injEq, Prod.mk.injEq] at h
                obtain ⟨rfl, rfl⟩ := h
                exact ⟨'u' :: (digits ++ '\\' :: 'u' :: digits'),
                  .pair hdigits hdigits' hlead (isTrailingHalf_iff.1 htrail'), by simp⟩
              · cases h
          · cases h
        · next hlead =>
          rw [isLeadingHalf_iff] at hlead
          cases h
          exact ⟨'u' :: digits, .code hdigits (by omega), rfl⟩
  · next l cs _ =>
    split at h
    · next hl =>
      cases h
      exact ⟨[l], .letter (letterEscape?_eq_some_iff.1 hl), rfl⟩
    · cases h

theorem escaped_of_spells {text : List Char} {c : Char} (h : Spells ('\\' :: text) c)
    (rest : List Char) : escaped (text ++ rest) = .ok (c, rest) := by
  cases h with
  | plain _ hb => exact absurd rfl hb
  | letter h => exact escaped_letter (letterEscape?_eq_some_iff.2 h) rest
  | @code digits n h hn =>
    have htrail : ¬ isTrailingHalf n = true := fun ht => absurd (isTrailingHalf_iff.1 ht) (by omega)
    have hlead : ¬ isLeadingHalf n = true := fun hl => absurd (isLeadingHalf_iff.1 hl) (by omega)
    rw [List.cons_append, escaped, codeEscaped, fourHex_append h]
    simp only [htrail, hlead, if_false, Bool.false_eq_true]
  | @pair digits digits' n m h h' hn hm =>
    have htrail : ¬ isTrailingHalf n = true := fun ht => absurd (isTrailingHalf_iff.1 ht) (by omega)
    rw [List.cons_append, List.append_assoc, List.cons_append, List.cons_append, escaped,
      codeEscaped, fourHex_append h]
    simp only [htrail, isLeadingHalf_iff.2 hn, isTrailingHalf_iff.2 hm, fourHex_append h', if_true,
      if_false, Bool.false_eq_true]

/-- A character, however it is written, is read in front of what follows. -/
theorem stringBody_append {text : List Char} {c : Char} (h : Spells text c) (cs : List Char) :
    stringBody (text ++ cs) = (stringBody cs).map fun p => (c :: p.1, p.2) := by
  cases h with
  | plain hq hb hc =>
    rw [List.singleton_append, stringBody]
    simp [hq, hb, Nat.not_lt.2 hc]
  | letter h => exact stringBody_backslash (escaped_of_spells (.letter h) cs)
  | code h hn => exact stringBody_backslash (escaped_of_spells (.code h hn) cs)
  | pair h h' hn hm => exact stringBody_backslash (escaped_of_spells (.pair h h' hn hm) cs)

/-- A string is read up to its closing quote, and its text is one of the ways to write it. -/
theorem stringBody_eq_ok_iff {cs value rest : List Char} :
    stringBody cs = .ok (value, rest) ↔
      ∃ text, SpellsAll text value ∧ cs = text ++ '\x22' :: rest := by
  constructor
  · intro h
    fun_induction stringBody cs generalizing value with
    | case1 => cases h
    | case2 c cs hq =>
      cases h
      exact ⟨[], .nil, by rw [beq_iff_eq.1 hq]; rfl⟩
    | case3 c cs hq hb e he => cases h
    | case4 c cs hq hb d more he ih =>
      obtain ⟨⟨value', rest'⟩, hp, heq⟩ := map_eq_ok_iff.1 h
      cases heq
      obtain ⟨text, htext, rfl⟩ := ih hp
      obtain ⟨escape, hescape, rfl⟩ := spells_of_escaped he
      exact ⟨'\\' :: escape ++ text, .cons hescape htext, by rw [beq_iff_eq.1 hb]; simp⟩
    | case5 c cs hq hb hc => cases h
    | case6 c cs hq hb hc ih =>
      obtain ⟨⟨value', rest'⟩, hp, heq⟩ := map_eq_ok_iff.1 h
      cases heq
      obtain ⟨text, htext, rfl⟩ := ih hp
      rw [beq_iff_eq] at hq hb
      exact ⟨[c] ++ text, .cons (.plain hq hb (Nat.le_of_not_lt hc)) htext, rfl⟩
  · rintro ⟨text, h, rfl⟩
    induction h with
    | nil => simp [stringBody]
    | cons h _ ih => rw [List.append_assoc, stringBody_append h, ih]; rfl

/-! ## Tokens -/

/-- A part of JSON text that no white space may stand in. -/
inductive Token where
  | mark (c : Char)
  | string (value : String)
  | null
  | boolean (value : Bool)
  | number (text : List Char)

/-- The characters that structure a value. -/
def marks : List Char := ['{', '}', '[', ']', ':', ',']

/-- How a number begins, and what it may go on with. -/
def numberStarts : List Char := '-' :: "0123456789".toList

def numberParts : List Char := numberStarts ++ ['+', '.', 'e', 'E']

/-- How a token may be written. -/
inductive Token.Written : Token → List Char → Prop
  | mark {c : Char} (h : c ∈ marks) : Written (.mark c) [c]
  | string {text value : List Char} (h : SpellsAll text value) :
    Written (.string (String.ofList value)) ('\x22' :: (text ++ ['\x22']))
  | null : Written .null ['n', 'u', 'l', 'l']
  | yes : Written (.boolean true) ['t', 'r', 'u', 'e']
  | no : Written (.boolean false) ['f', 'a', 'l', 's', 'e']
  | number {c : Char} {cs : List Char} (hc : c ∈ numberStarts) (hcs : ∀ x ∈ cs, x ∈ numberParts) :
    Written (.number (c :: cs)) (c :: cs)

/-- White space. -/
def Spaces (cs : List Char) : Prop := ∀ c ∈ cs, c = ' ' ∨ c = '\t' ∨ c = '\n' ∨ c = '\r'

/-- A text begins with tokens, each after some white space, and goes on with `rest`. -/
inductive Begins : List Token → List Char → List Char → Prop
  | nil {rest : List Char} : Begins [] rest rest
  | cons {tok : Token} {toks : List Token} {spaces text cs rest : List Char} (hs : Spaces spaces)
    (ht : tok.Written text) (h : Begins toks cs rest) :
    Begins (tok :: toks) (spaces ++ (text ++ cs)) rest

/-- A text is made of tokens with white space around them. -/
def Spaced (toks : List Token) (cs : List Char) : Prop :=
  ∃ spaces, Spaces spaces ∧ Begins toks cs spaces

theorem isSpace_iff {c : Char} :
    isSpace c = true ↔ c = ' ' ∨ c = '\t' ∨ c = '\n' ∨ c = '\r' := by
  simp [isSpace, or_assoc]

theorem skipSpace_append {spaces : List Char} (h : Spaces spaces) (cs : List Char) :
    skipSpace (spaces ++ cs) = skipSpace cs := by
  induction spaces with
  | nil => rfl
  | cons c spaces ih =>
    rw [Spaces, List.forall_mem_cons] at h
    rw [List.cons_append, skipSpace, List.dropWhile_cons_of_pos (isSpace_iff.2 h.1)]
    exact ih h.2

theorem exists_spaces_skipSpace (cs : List Char) :
    ∃ spaces, Spaces spaces ∧ cs = spaces ++ skipSpace cs := by
  refine ⟨cs.takeWhile isSpace, ?_, (List.takeWhile_append_dropWhile).symm⟩
  intro c hc
  exact isSpace_iff.1 (List.all_eq_true.1 List.all_takeWhile c hc)

theorem skipSpace_eq_nil_iff {cs : List Char} : skipSpace cs = [] ↔ Spaces cs := by
  constructor
  · intro h
    obtain ⟨spaces, hs, heq⟩ := exists_spaces_skipSpace cs
    rw [h, List.append_nil] at heq
    rwa [heq]
  · intro h
    rw [← List.append_nil cs, skipSpace_append h]
    rfl

theorem Token.Written.skipSpace_append {tok : Token} {text : List Char} (h : tok.Written text)
    (cs : List Char) : skipSpace (text ++ cs) = text ++ cs := by
  have hmarks : ∀ c ∈ marks, isSpace c = false := by simp [marks, isSpace]
  have hnumbers : ∀ c ∈ numberStarts, isSpace c = false := by simp [numberStarts, isSpace]
  cases h with
  | mark hc => simp [skipSpace, hmarks _ hc]
  | number hc _ => simp [skipSpace, hnumbers _ hc]
  | string | null | yes | no => simp [skipSpace, isSpace]

theorem begins_nil_iff {cs rest : List Char} : Begins [] cs rest ↔ cs = rest := by
  constructor
  · rintro (_ | _)
    rfl
  · rintro rfl
    exact .nil

theorem begins_cons_iff {tok : Token} {toks : List Token} {cs rest : List Char} :
    Begins (tok :: toks) cs rest ↔
      ∃ text more, tok.Written text ∧ skipSpace cs = text ++ more ∧ Begins toks more rest := by
  constructor
  · rintro (_ | ⟨hs, ht, h⟩)
    exact ⟨_, _, ht, by rw [Json.skipSpace_append hs, ht.skipSpace_append], h⟩
  · rintro ⟨text, more, ht, heq, h⟩
    obtain ⟨spaces, hs, hcs⟩ := exists_spaces_skipSpace cs
    rw [hcs, heq]
    exact .cons hs ht h

theorem skipSpace_skipSpace (cs : List Char) : skipSpace (skipSpace cs) = skipSpace cs := by
  obtain ⟨spaces, hs, hcs⟩ := exists_spaces_skipSpace cs
  rw [← skipSpace_append hs, ← hcs]

theorem begins_skipSpace_iff {tok : Token} {toks : List Token} {cs rest : List Char} :
    Begins (tok :: toks) (skipSpace cs) rest ↔ Begins (tok :: toks) cs rest := by
  rw [begins_cons_iff, begins_cons_iff, skipSpace_skipSpace]

theorem begins_singleton_iff {tok : Token} {cs rest : List Char} :
    Begins [tok] cs rest ↔ ∃ text, tok.Written text ∧ skipSpace cs = text ++ rest := by
  rw [begins_cons_iff]
  constructor
  · rintro ⟨text, more, ht, heq, _ | _⟩
    exact ⟨text, ht, heq⟩
  · rintro ⟨text, ht, heq⟩
    exact ⟨text, rest, ht, heq, .nil⟩

theorem begins_append_iff {toks toks' : List Token} {cs rest : List Char} :
    Begins (toks ++ toks') cs rest ↔ ∃ more, Begins toks cs more ∧ Begins toks' more rest := by
  induction toks generalizing cs with
  | nil =>
    constructor
    · exact fun h => ⟨cs, .nil, h⟩
    · rintro ⟨more, _ | _, h⟩
      exact h
  | cons tok toks ih =>
    simp only [List.cons_append, begins_cons_iff, ih]
    constructor
    · rintro ⟨text, more, ht, heq, last, h, h'⟩
      exact ⟨last, ⟨text, more, ht, heq, h⟩, h'⟩
    · rintro ⟨last, ⟨text, more, ht, heq, h⟩, h'⟩
      exact ⟨text, more, ht, heq, last, h, h'⟩

/-- What stands behind the tokens does not matter. -/
theorem Begins.append {toks : List Token} {cs rest : List Char} (h : Begins toks cs rest)
    (more : List Char) : Begins toks (cs ++ more) (rest ++ more) := by
  induction h with
  | nil => exact .nil
  | cons hs ht _ ih =>
    rw [List.append_assoc, List.append_assoc]
    exact .cons hs ht ih

/-! ## Readers of tokens -/

theorem refuse_ne_ok {α : Type} (expected : String) (cs : List Char) (a : α) :
    refuse expected cs ≠ .ok a := by
  unfold refuse
  split <;> exact nofun

theorem begins_mark_iff {mark : Char} (hmark : mark ∈ marks) {cs rest : List Char} :
    Begins [.mark mark] cs rest ↔ skipSpace cs = mark :: rest := by
  rw [begins_singleton_iff]
  constructor
  · rintro ⟨_, _ | _, hcs⟩
    exact hcs
  · intro hcs
    exact ⟨[mark], .mark hmark, hcs⟩

theorem readMark_eq_ok_iff_skipSpace {mark : Char} {cs rest : List Char} :
    readMark mark cs = .ok rest ↔ skipSpace cs = mark :: rest := by
  unfold readMark
  split
  · next hcs => simp [hcs]
  · next c cs' hcs =>
    rw [hcs]
    split
    · next hc => simp [beq_iff_eq.1 hc]
    · next hc => simp [show c ≠ mark from fun h => hc (beq_iff_eq.2 h)]

theorem readMark_eq_ok_iff {mark : Char} (hmark : mark ∈ marks) {cs rest : List Char} :
    readMark mark cs = .ok rest ↔ Begins [.mark mark] cs rest := by
  rw [begins_mark_iff hmark, readMark_eq_ok_iff_skipSpace]

theorem begins_mark_cons_iff {mark : Char} {toks : List Token} (hmark : mark ∈ marks)
    {cs rest : List Char} : Begins (.mark mark :: toks) cs rest ↔
      ∃ more, readMark mark cs = .ok more ∧ Begins toks more rest := by
  simp only [readMark_eq_ok_iff hmark, ← begins_append_iff, List.singleton_append]

/-- A string is there if its inside can be read behind its opening quote. -/
theorem begins_string_iff {cs rest : List Char} {value : String} :
    Begins [.string value] cs rest ↔ ∃ body chars, skipSpace cs = '\x22' :: body ∧
      stringBody body = .ok (chars, rest) ∧ String.ofList chars = value := by
  rw [begins_singleton_iff]
  constructor
  · rintro ⟨_, htext, hcs⟩
    cases htext with
    | @string text chars htext =>
      refine ⟨text ++ '\x22' :: rest, chars, by rw [hcs]; simp, ?_, rfl⟩
      exact stringBody_eq_ok_iff.2 ⟨text, htext, rfl⟩
  · rintro ⟨body, chars, hcs, hbody, rfl⟩
    obtain ⟨text, htext, rfl⟩ := stringBody_eq_ok_iff.1 hbody
    exact ⟨_, .string htext, by rw [hcs]; simp⟩

theorem readString_eq_ok_iff {expected : String} {cs rest : List Char} {value : String} :
    readString expected cs = .ok (value, rest) ↔ Begins [.string value] cs rest := by
  rw [begins_string_iff]
  unfold readString
  constructor
  · intro h
    split at h
    · cases h
    · next body hcs =>
      obtain ⟨⟨chars, rest'⟩, hbody, heq⟩ := map_eq_ok_iff.1 h
      cases heq
      exact ⟨body, chars, hcs, hbody, rfl⟩
    · exact absurd h (refuse_ne_ok _ _ _)
  · rintro ⟨body, chars, hcs, hbody, rfl⟩
    rw [hcs]
    exact map_eq_ok_iff.2 ⟨_, hbody, rfl⟩

theorem readWord_eq_ok_iff {word cs : List Char} :
    readWord word cs = .ok () ↔ ∃ rest, cs = word ++ rest := by
  induction word generalizing cs with
  | nil => simp [readWord]
  | cons w ws ih =>
    cases cs with
    | nil => simp [readWord]
    | cons c cs =>
      rw [readWord]
      split
      · next hc => simp [ih, beq_iff_eq.1 hc]
      · next hc => simp [show c ≠ w from fun h => hc (beq_iff_eq.2 h)]

theorem readNull_eq_ok_iff {expected : String} {cs rest : List Char} :
    readNull expected cs = .ok rest ↔ Begins [.null] cs rest := by
  rw [begins_singleton_iff]
  unfold readNull
  constructor
  · intro h
    split at h
    · cases h
    · next cs' hcs =>
      obtain ⟨⟨⟩, hword, rfl⟩ := map_eq_ok_iff.1 h
      obtain ⟨more, rfl⟩ := readWord_eq_ok_iff.1 hword
      exact ⟨_, .null, hcs⟩
    · exact absurd h (refuse_ne_ok _ _ _)
  · rintro ⟨_, _ | _, hcs⟩
    rw [hcs]
    rfl

theorem readEnd_eq_ok_iff {cs : List Char} : readEnd cs = .ok () ↔ Spaces cs := by
  rw [← skipSpace_eq_nil_iff]
  simp [readEnd]

theorem readEnd_of_not_spaces {cs : List Char} (h : ¬ Spaces cs) :
    readEnd cs = .error .malformed := by
  rw [← skipSpace_eq_nil_iff, ← List.isEmpty_iff] at h
  rw [readEnd, if_neg h]

/-! ## The tokens of a text -/

/-- A token that shows where it ends. -/
def Token.IsDelimited : Token → Prop
  | mark _ | string _ | null => True
  | boolean _ | number _ => False

/-- Where one such token stands, there is no other one. -/
theorem Token.Written.eq_of_append {tok tok' : Token} {text text' cs cs' : List Char}
    (h : tok.Written text) (h' : tok'.Written text') (hd : tok'.IsDelimited)
    (heq : text ++ cs = text' ++ cs') : tok = tok' ∧ cs = cs' := by
  -- the first character tells the kind of token, and a string ends at its first closing quote
  have hmarks : '\x22' ∉ marks ∧ 'n' ∉ marks ∧ 't' ∉ marks ∧ 'f' ∉ marks := by decide
  have hnumbers : '\x22' ∉ numberStarts ∧ 'n' ∉ numberStarts ∧ ∀ c ∈ numberStarts, c ∉ marks := by
    simp [numberStarts, marks]
  cases h' with
  | mark h' => cases h <;> grind
  | null => cases h <;> grind
  | string h' =>
    cases h with
    | @string text value h =>
      simp only [List.cons_append, List.append_assoc, List.nil_append, List.cons.injEq,
        true_and] at heq
      have hbody : stringBody (text ++ '\x22' :: cs) = .ok (value, cs) :=
        stringBody_eq_ok_iff.2 ⟨text, h, rfl⟩
      rw [heq, stringBody_eq_ok_iff.2 ⟨_, h', rfl⟩] at hbody
      cases hbody
      exact ⟨rfl, rfl⟩
    | mark h | null | yes | no | number h => grind
  | yes | no | number => exact hd.elim

theorem Spaced.tokens_eq {toks toks' : List Token} {cs : List Char} (h : Spaced toks cs)
    (h' : Spaced toks' cs) (hd : ∀ tok ∈ toks', tok.IsDelimited) : toks = toks' := by
  obtain ⟨spaces, hs, h⟩ := h
  obtain ⟨spaces', hs', h'⟩ := h'
  induction toks' generalizing toks cs with
  | nil =>
    cases h'
    cases toks with
    | nil => rfl
    | cons tok toks =>
      obtain ⟨text, more, ht, heq, -⟩ := begins_cons_iff.1 h
      rw [skipSpace_eq_nil_iff.2 hs'] at heq
      exact absurd heq.symm (by cases ht <;> simp)
  | cons tok' toks' ih =>
    rw [List.forall_mem_cons] at hd
    obtain ⟨text', more', ht', heq', h'⟩ := begins_cons_iff.1 h'
    cases toks with
    | nil =>
      cases h
      rw [skipSpace_eq_nil_iff.2 hs] at heq'
      exact absurd heq'.symm (by cases ht' <;> simp)
    | cons tok toks =>
      obtain ⟨text, more, ht, heq, h⟩ := begins_cons_iff.1 h
      obtain ⟨rfl, rfl⟩ := ht.eq_of_append ht' hd.1 (heq.symm.trans heq')
      rw [ih hd.2 h h']

/-- What is left of a text behind tokens that show where they end. -/
def afterTokens : List Token → List Char → Option (List Char)
  | [], cs => some cs
  | .mark m :: toks, cs =>
    match readMark m cs with
    | .ok cs => if m ∈ marks then afterTokens toks cs else none
    | .error _ => none
  | .string value :: toks, cs =>
    match readString "a string" cs with
    | .ok (found, cs) => if found = value then afterTokens toks cs else none
    | .error _ => none
  | .null :: toks, cs =>
    match readNull "unit" cs with
    | .ok cs => afterTokens toks cs
    | .error _ => none
  | .boolean _ :: _, _ | .number _ :: _, _ => none

theorem begins_of_afterTokens {toks : List Token} {cs rest : List Char}
    (h : afterTokens toks cs = some rest) : Begins toks cs rest := by
  fun_induction afterTokens toks cs with
  | case1 => cases h; exact .nil
  | case2 m toks cs more hread hm ih => exact (begins_mark_cons_iff hm).2 ⟨more, hread, ih h⟩
  | case5 toks cs value more hread ih =>
    exact begins_append_iff.2 ⟨more, readString_eq_ok_iff.1 hread, ih h⟩
  | case8 toks cs more hread ih =>
    exact begins_append_iff.2 ⟨more, readNull_eq_ok_iff.1 hread, ih h⟩
  | _ => cases h

/-- A literal is read as the list of characters it stands for. -/
theorem begins_ofList {toks : List Token} {cs rest : List Char}
    (h : afterTokens toks cs = some rest) : Begins toks (String.ofList cs).toList rest := by
  rw [String.toList_ofList]
  exact begins_of_afterTokens h

end RecordSchema.Json
