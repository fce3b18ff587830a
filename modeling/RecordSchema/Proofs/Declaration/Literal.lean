import Mathlib.Data.Nat.Digits.Defs
import RecordSchema.Declaration.Literal
import RecordSchema.Text.Quoted

/-!
# String literals read back

A text that is written as a string literal is what the literal stands for. Each character is written
in one of a few ways, and reading takes that much and gives the character back, whatever follows it
(`cooked_quotedChar`); so the whole text is read back by induction on its characters.
-/

namespace RecordSchema.Declaration.Literal

/-! ## Escapes by code point -/

theorem hexDigit?_digitChar {d : Nat} (h : d < 16) : hexDigit? (Nat.digitChar d) = some d := by
  have hall : ∀ d < 16, hexDigit? (Nat.digitChar d) = some d := by decide
  exact hall d h

theorem toDigits_ne_nil (n : Nat) : Nat.toDigits 16 n ≠ [] := by
  rw [Nat.toDigits_eq_if (by decide)]
  split
  · exact List.cons_ne_nil _ _
  · exact List.append_ne_nil_of_right_ne_nil _ (List.cons_ne_nil _ _)

theorem isSome_of_mem_toDigits {n : Nat} :
    ∀ c ∈ Nat.toDigits 16 n, (hexDigit? c).isSome = true := by
  induction n using Nat.strongRecOn with
  | _ n ih =>
    rw [Nat.toDigits_eq_if (by decide)]
    split
    · next h =>
      rw [List.forall_mem_singleton, hexDigit?_digitChar h]
      rfl
    · next h =>
      rw [List.forall_mem_append, List.forall_mem_singleton,
        hexDigit?_digitChar (Nat.mod_lt n (by decide))]
      exact ⟨ih (n / 16) (by omega), rfl⟩

/-- The value of the digits is the number. -/
theorem foldl_toDigits (n : Nat) :
    ((Nat.toDigits 16 n).filterMap hexDigit?).foldl (fun n d => 16 * n + d) 0 = n := by
  induction n using Nat.strongRecOn with
  | _ n ih =>
    rw [Nat.toDigits_eq_if (by decide)]
    split
    · next h => simp [hexDigit?_digitChar h]
    · next h =>
      rw [List.filterMap_append, List.foldl_append, ih (n / 16) (by omega)]
      simp only [List.filterMap_cons, hexDigit?_digitChar (Nat.mod_lt n (by decide)),
        List.filterMap_nil, List.foldl_cons, List.foldl_nil]
      omega

theorem length_toDigits_le (c : Char) : (Nat.toDigits 16 c.toNat).length ≤ 6 := by
  have hvalid : c.toNat.isValidChar := c.valid
  refine Nat.toDigits_length 16 c.toNat 6 (by decide) ?_
  unfold Nat.isValidChar at hvalid
  omega

theorem character?_toNat (c : Char) : character? c.toNat = some c := by
  rw [character?, if_pos (show c.toNat.isValidChar from c.valid), Char.ofNat_toNat]

/-- The digits end where the brace stands. -/
theorem takeWhile_toDigits (n : Nat) (rest : List Char) :
    (Nat.toDigits 16 n ++ '}' :: rest).takeWhile (fun c => (hexDigit? c).isSome || c == '_') =
      Nat.toDigits 16 n := by
  rw [List.takeWhile_append_of_pos, List.takeWhile_cons_of_neg (by decide), List.append_nil]
  intro c hc
  rw [isSome_of_mem_toDigits c hc, Bool.true_or]

theorem head?_toDigits (n : Nat) : (Nat.toDigits 16 n).head?.any (· != '_') = true := by
  cases h : Nat.toDigits 16 n with
  | nil => exact absurd h (toDigits_ne_nil n)
  | cons c cs =>
    have hc : (hexDigit? c).isSome = true :=
      isSome_of_mem_toDigits c (by rw [h]; exact List.mem_cons_self ..)
    rw [List.head?_cons, Option.any_some, bne_iff_ne]
    rintro rfl
    cases hc

theorem codeEscape_toDigits (c : Char) (rest : List Char) :
    codeEscape ('{' :: (Nat.toDigits 16 c.toNat ++ '}' :: rest)) =
      some (c, (Nat.toDigits 16 c.toNat).length + 2) := by
  have hlength : ((Nat.toDigits 16 c.toNat).filterMap hexDigit?).length ≤ 6 :=
    (List.length_filterMap_le _ _).trans (length_toDigits_le c)
  simp only [codeEscape, takeWhile_toDigits, foldl_toDigits, character?_toNat, head?_toDigits,
    hlength, List.getElem?_append_right (Nat.le_refl _), Nat.sub_self, List.getElem?_cons_zero]
  simp

/-! ## Characters -/

/-- A character that is written as it is. -/
theorem cooked_shown {c : Char} (hq : c ≠ '\x22') (hb : c ≠ '\\') (hr : c ≠ '\r')
    (rest : List Char) :
    cooked .string (c :: rest) = (cooked .string rest).map fun p => (c :: p.1, p.2) := by
  rw [cooked, if_neg (by simpa using hq), if_neg (by simpa using hb), if_neg (by simpa using hr)]
  rfl

/-- A character that is written by an escape. -/
theorem cooked_escape {c : Char} {t : List Char} {n : Nat}
    (h : ∀ rest, escape .string (t ++ rest) = some ([c], n)) (hn : t.length = n)
    (rest : List Char) :
    cooked .string ('\\' :: (t ++ rest)) =
      (cooked .string rest).map fun p => (c :: p.1, p.2) := by
  rw [cooked, if_neg (by decide), if_pos (by decide), h]
  subst hn
  simp

theorem escape_code (c : Char) (rest : List Char) :
    escape .string ('u' :: '{' :: (Nat.toDigits 16 c.toNat ++ ['}']) ++ rest) =
      some ([c], (Nat.toDigits 16 c.toNat).length + 3) := by
  have hcode := codeEscape_toDigits c rest
  simp [escape, hcode, Quotation.string]

theorem cooked_quotedChar (c : Char) (rest : List Char) :
    cooked .string (Text.quotedChar c ++ rest) =
      (cooked .string rest).map fun p => (c :: p.1, p.2) := by
  unfold Text.quotedChar
  split
  · exact cooked_escape (t := ['0']) (fun _ => rfl) rfl rest
  · exact cooked_escape (t := ['t']) (fun _ => rfl) rfl rest
  · exact cooked_escape (t := ['n']) (fun _ => rfl) rfl rest
  · exact cooked_escape (t := ['r']) (fun _ => rfl) rfl rest
  · exact cooked_escape (t := ['\x22']) (fun _ => rfl) rfl rest
  · exact cooked_escape (t := ['\\']) (fun _ => rfl) rfl rest
  · next hnul htab hline hreturn hquote hback =>
    split
    · exact cooked_shown hquote hback hreturn rest
    · exact cooked_escape (t := 'u' :: '{' :: (Nat.toDigits 16 c.toNat ++ ['}']))
        (escape_code c) (by simp) rest

/-- A NUL in front of an octal digit. -/
theorem cooked_nul (rest : List Char) :
    cooked .string (['\\', 'x', '0', '0'] ++ rest) =
      (cooked .string rest).map fun p => ('\x00' :: p.1, p.2) :=
  cooked_escape (t := ['x', '0', '0']) (fun _ => rfl) rfl rest

/-! ## Texts -/

theorem cooked_literalBody (cs rest : List Char) :
    cooked .string (Text.literalBody cs ++ '\x22' :: rest) = some (cs, rest) := by
  induction cs with
  | nil => simp [Text.literalBody, cooked]
  | cons c cs ih =>
    rw [Text.literalBody, List.append_assoc]
    split
    · next h =>
      have hc : c = '\x00' := by
        rw [Bool.and_eq_true, beq_iff_eq] at h
        exact h.1
      rw [hc, cooked_nul, ih]
      rfl
    · rw [cooked_quotedChar, ih]
      rfl

/-- A text is read back from the literal that it is written as. -/
theorem stringValue?_literal (s : String) : stringValue? (Text.literal s) = some s := by
  rw [stringValue?, Text.literal, String.toList_ofList, List.cons_append, string?,
    cooked_literalBody, Option.map_some, String.ofList_toList]

end RecordSchema.Declaration.Literal
