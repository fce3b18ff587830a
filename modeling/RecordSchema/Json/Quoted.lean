import RecordSchema.Json.Fault

/-!
# JSON strings

`stringBody` reads a string from after its opening quote: characters below the space are refused, an
escape is a letter or four hexadecimal digits, and a character beyond the basic plane is written as
two such escapes, of which neither may stand alone. `written` writes one: quotes, backslashes and
the characters below the space are escaped, by a letter where there is one, and nothing else is.
-/

namespace RecordSchema.Json

/-- The value of a hexadecimal digit. -/
def hexDigit? (c : Char) : Option Nat :=
  if c.isDigit then some (c.toNat - 48)
  else if 'a' ≤ c && c ≤ 'f' then some (c.toNat - 87)
  else if 'A' ≤ c && c ≤ 'F' then some (c.toNat - 55)
  else none

/-- The value of hexadecimal digits, the most significant first. -/
def hexValue? (cs : List Char) : Option Nat :=
  cs.foldl (fun n c => n.bind fun n => (hexDigit? c).map fun d => 16 * n + d) (some 0)

/-- Four hexadecimal digits. The text ends too early if fewer than four bytes are left. -/
def fourHex : List Char → Except Fault (Nat × List Char)
  | a :: b :: c :: d :: rest =>
    match hexValue? [a, b, c, d] with
    | some n => .ok (n, rest)
    | none => .error .malformed
  | short => .error (if (String.ofList short).utf8ByteSize < 4 then .truncated else .malformed)

/-- The first half of a character beyond the basic plane. -/
def isLeadingHalf (n : Nat) : Bool := 0xD800 ≤ n && n ≤ 0xDBFF

/-- The second half of a character beyond the basic plane. -/
def isTrailingHalf (n : Nat) : Bool := 0xDC00 ≤ n && n ≤ 0xDFFF

/-- A character by its code, from after the `\u`. -/
def codeEscaped (cs : List Char) : Except Fault (Char × List Char) :=
  match fourHex cs with
  | .error e => .error e
  | .ok (n, rest) =>
    if isTrailingHalf n then .error .malformed
    else if isLeadingHalf n then
      match rest with
      | [] | ['\\'] => .error .truncated
      | '\\' :: 'u' :: more =>
        match fourHex more with
        | .error e => .error e
        | .ok (m, after) =>
          if isTrailingHalf m then
            .ok (Char.ofNat (0x10000 + (n - 0xD800) * 0x400 + (m - 0xDC00)), after)
          else .error .malformed
      | _ => .error .malformed
    else .ok (Char.ofNat n, rest)

/-- The character that a one-letter escape stands for. -/
def letterEscape? : Char → Option Char
  | '\x22' => some '\x22'
  | '\\' => some '\\'
  | '/' => some '/'
  | 'b' => some '\x08'
  | 'f' => some '\x0c'
  | 'n' => some '\n'
  | 'r' => some '\r'
  | 't' => some '\t'
  | _ => none

/-- An escape, from after its backslash. -/
def escaped : List Char → Except Fault (Char × List Char)
  | [] => .error .truncated
  | 'u' :: cs => codeEscaped cs
  | c :: cs =>
    match letterEscape? c with
    | some d => .ok (d, cs)
    | none => .error .malformed

theorem length_fourHex {cs rest : List Char} {n : Nat} (h : fourHex cs = .ok (n, rest)) :
    rest.length < cs.length := by
  unfold fourHex at h
  split at h
  · split at h
    · cases h; simp only [List.length_cons]; omega
    · cases h
  · cases h

theorem length_escaped {cs rest : List Char} {c : Char} (h : escaped cs = .ok (c, rest)) :
    rest.length < cs.length := by
  unfold escaped at h
  split at h
  · cases h
  · next cs =>
    unfold codeEscaped at h
    split at h
    · cases h
    · next n r hn =>
      have hr := length_fourHex hn
      split at h
      · cases h
      · split at h
        · split at h
          · cases h
          · cases h
          · next more =>
            split at h
            · cases h
            · next hm =>
              have := length_fourHex hm
              split at h
              · simp only [Except.ok.injEq, Prod.mk.injEq] at h
                obtain ⟨-, rfl⟩ := h
                simp only [List.length_cons] at hr ⊢
                omega
              · cases h
          · cases h
        · cases h
          simp only [List.length_cons]
          omega
  · split at h
    · cases h; simp
    · cases h

/-- The rest of a string, from after its opening quote, and what follows its closing one. -/
def stringBody : List Char → Except Fault (List Char × List Char)
  | [] => .error .truncated
  | c :: cs =>
    if c == '\x22' then .ok ([], cs)
    else if c == '\\' then
      match _h : escaped cs with
      | .error e => .error e
      | .ok (d, rest) => (stringBody rest).map fun p => (d :: p.1, p.2)
    else if c.toNat < 0x20 then .error .malformed
    else (stringBody cs).map fun p => (c :: p.1, p.2)
termination_by cs => cs.length
decreasing_by
  · have := length_escaped _h
    simp only [List.length_cons]
    omega
  · simp

/-- A character as it stands in a written string. -/
def writtenChar (c : Char) : List Char :=
  match c with
  | '\x22' => ['\\', '\x22']
  | '\\' => ['\\', '\\']
  | '\x08' => ['\\', 'b']
  | '\x0c' => ['\\', 'f']
  | '\n' => ['\\', 'n']
  | '\r' => ['\\', 'r']
  | '\t' => ['\\', 't']
  | c =>
    if c.toNat < 0x20 then
      ['\\', 'u', '0', '0', Nat.digitChar (c.toNat / 16), Nat.digitChar (c.toNat % 16)]
    else [c]

/-- A string as JSON text. -/
def written (cs : List Char) : List Char := '\x22' :: cs.flatMap writtenChar ++ ['\x22']

/-- A backslash hands over to the escape after it. -/
theorem stringBody_backslash {cs rest : List Char} {d : Char} (h : escaped cs = .ok (d, rest)) :
    stringBody ('\\' :: cs) = (stringBody rest).map fun p => (d :: p.1, p.2) := by
  rw [stringBody]
  split
  · next hq => simp at hq
  · split
    · split
      · next he => rw [h] at he; cases he
      · next he => rw [h] at he; cases he; rfl
    · next hb => simp at hb

theorem escaped_letter {l d : Char} (h : letterEscape? l = some d) (rest : List Char) :
    escaped (l :: rest) = .ok (d, rest) := by
  unfold escaped
  split
  · next he => cases he
  · next he => cases he; simp [letterEscape?] at h
  · next he => cases he; simp [h]

theorem escaped_control {n : Nat} (h : n < 0x20) (rest : List Char) :
    escaped ('u' :: '0' :: '0' :: Nat.digitChar (n / 16) :: Nat.digitChar (n % 16) :: rest) =
      .ok (Char.ofNat n, rest) := by
  have hv : hexValue? ['0', '0', Nat.digitChar (n / 16), Nat.digitChar (n % 16)] = some n := by
    revert h; revert n; decide
  have ht : isTrailingHalf n = false := by simp [isTrailingHalf]; omega
  have hl : isLeadingHalf n = false := by simp [isLeadingHalf]; omega
  simp [escaped, codeEscaped, fourHex, hv, ht, hl]

/-- What is written is read back: one character. -/
theorem stringBody_writtenChar (c : Char) (rest : List Char) :
    stringBody (writtenChar c ++ rest) = (stringBody rest).map fun p => (c :: p.1, p.2) := by
  unfold writtenChar
  split
  case h_8 hq hb _ _ _ _ _ =>
    have hq : c ≠ '\x22' := hq
    have hb : c ≠ '\\' := hb
    split
    · next h =>
      have := stringBody_backslash (escaped_control h rest)
      rwa [Char.ofNat_toNat] at this
    · next h =>
      rw [List.singleton_append, stringBody]
      simp [hq, hb, h]
  all_goals exact stringBody_backslash (escaped_letter rfl rest)

/-- What is written is read back. -/
theorem stringBody_written (cs rest : List Char) :
    stringBody (cs.flatMap writtenChar ++ '\x22' :: rest) = .ok (cs, rest) := by
  induction cs with
  | nil => simp [stringBody]
  | cons c cs ih => rw [List.flatMap_cons, List.append_assoc, stringBody_writtenChar, ih]; rfl

end RecordSchema.Json
