/-!
# Parts of a text by their offsets

An offset counts the bytes of a text in UTF-8. Not every number is one that a text can be cut at: it
may lie beyond the end or inside of a character. `slice?` cuts a text at two offsets and fails where
one of them is no boundary between characters, so an algorithm on offsets that never fails has never
cut a text in a wrong place. `slice?_eq_some_iff` says when there is a part, without offsets inside
of the text: the text is what stands before the part, the part, and what stands after it.
-/

namespace RecordSchema.Text

/-- The offset of the first occurrence of a character. -/
def offset? (c : Char) (s : String) : Option Nat := (s.find? c).map fun p => p.offset.byteIdx

/-- The part of a text from one offset up to another. There is none if they are in the wrong order
or if one of them is outside of the text or inside of a character. -/
def slice? (s : String) (start stop : Nat) : Option String :=
  if h : start ≤ stop ∧ String.Pos.Raw.IsValid s ⟨start⟩ ∧ String.Pos.Raw.IsValid s ⟨stop⟩ then
    some (s.extract (s.pos ⟨start⟩ h.2.1) (s.pos ⟨stop⟩ h.2.2))
  else none

theorem offset?_eq_some_iff {c : Char} {s : String} {i : Nat} :
    offset? c s = some i ↔ ∃ before after, s = before ++ String.singleton c ++ after ∧
      c ∉ before.toList ∧ before.utf8ByteSize = i := by
  simp only [offset?, Option.map_eq_some_iff, String.find?_char_eq_some_iff_splits]
  constructor
  · rintro ⟨p, ⟨before, after, hp, hc⟩, rfl⟩
    refine ⟨before, after, ?_, hc, by simp [hp.offset_eq_rawEndPos]⟩
    rw [String.append_assoc]
    exact hp.eq_append
  · rintro ⟨before, after, rfl, hc, rfl⟩
    have hv : before.rawEndPos.IsValid (before ++ String.singleton c ++ after) :=
      String.Pos.Raw.isValid_iff_exists_append.2
        ⟨before, String.singleton c ++ after, String.append_assoc .., rfl⟩
    exact ⟨String.pos _ before.rawEndPos hv,
      ⟨before, after, ⟨String.append_assoc .., rfl⟩, hc⟩, rfl⟩

theorem offset?_eq_none_iff {c : Char} {s : String} : offset? c s = none ↔ c ∉ s.toList := by
  constructor
  · intro h hc
    obtain ⟨before, after, hs, hb⟩ := List.eq_append_cons_of_mem hc
    have hi : offset? c s = some (String.ofList before).utf8ByteSize := by
      refine offset?_eq_some_iff.2
        ⟨String.ofList before, String.ofList after, ?_, by simpa using hb, rfl⟩
      rw [← String.toList_inj, hs]
      simp
    rw [h] at hi
    cases hi
  · intro hc
    cases h : offset? c s with
    | none => rfl
    | some i =>
      obtain ⟨before, after, rfl, -, -⟩ := offset?_eq_some_iff.1 h
      exact absurd (by simp) hc

theorem splits_pos {s before after : String} {i : Nat} (h : s = before ++ after)
    (hi : before.utf8ByteSize = i) (hv : String.Pos.Raw.IsValid s ⟨i⟩) :
    (s.pos ⟨i⟩ hv).Splits before after :=
  ⟨h, by simp [← hi, String.Pos.Raw.ext_iff]⟩

/-- A text has a part between two offsets if it can be put together from the part and from texts of
the right lengths around it. -/
theorem slice?_eq_some_iff {s part : String} {start stop : Nat} :
    slice? s start stop = some part ↔ ∃ before after, s = before ++ part ++ after ∧
      before.utf8ByteSize = start ∧ (before ++ part).utf8ByteSize = stop := by
  unfold slice?
  constructor
  · intro h
    split at h
    · next hv =>
      obtain ⟨hle, hstart, hstop⟩ := hv
      have hpos : s.pos ⟨start⟩ hstart ≤ s.pos ⟨stop⟩ hstop := hle
      rw [String.extract_eq_copy_slice _ _ hpos] at h
      obtain ⟨before, after, hb, ha⟩ :=
        String.copy_slice_eq_iff_splits.1 ⟨hpos, Option.some.inj h⟩
      refine ⟨before, after, ha.eq_append, ?_, ?_⟩
      · simpa [String.Pos.Raw.ext_iff] using hb.offset_eq_rawEndPos.symm
      · simpa [String.Pos.Raw.ext_iff] using ha.offset_eq_rawEndPos.symm
    · cases h
  · rintro ⟨before, after, rfl, rfl, rfl⟩
    have hstart : String.Pos.Raw.IsValid (before ++ part ++ after) ⟨before.utf8ByteSize⟩ :=
      String.Pos.Raw.isValid_iff_exists_append.2
        ⟨before, part ++ after, String.append_assoc .., rfl⟩
    have hstop : String.Pos.Raw.IsValid (before ++ part ++ after) ⟨(before ++ part).utf8ByteSize⟩ :=
      String.Pos.Raw.isValid_iff_exists_append.2 ⟨before ++ part, after, rfl, rfl⟩
    have hle : before.utf8ByteSize ≤ (before ++ part).utf8ByteSize := by simp
    have hpos : String.pos _ ⟨before.utf8ByteSize⟩ hstart ≤
        String.pos _ ⟨(before ++ part).utf8ByteSize⟩ hstop := hle
    rw [dif_pos ⟨hle, hstart, hstop⟩, String.extract_eq_copy_slice _ _ hpos]
    obtain ⟨_, hpart⟩ := String.copy_slice_eq_iff_splits.2 ⟨before, after,
      splits_pos (String.append_assoc ..) rfl hstart, splits_pos rfl rfl hstop⟩
    rw [hpart]

theorem offset?_append {c : Char} {before after : String} (h : c ∉ before.toList) :
    offset? c (before ++ String.singleton c ++ after) = some before.utf8ByteSize :=
  offset?_eq_some_iff.2 ⟨before, after, rfl, h, rfl⟩

theorem slice?_before (before mid after : String) :
    slice? (before ++ mid ++ after) 0 before.utf8ByteSize = some before :=
  slice?_eq_some_iff.2 ⟨"", mid ++ after, by simp [String.append_assoc], rfl, by simp⟩

theorem slice?_after (before mid after : String) :
    slice? (before ++ mid ++ after) (before.utf8ByteSize + mid.utf8ByteSize)
      (before ++ mid ++ after).utf8ByteSize = some after :=
  slice?_eq_some_iff.2 ⟨before ++ mid, "", by simp, String.utf8ByteSize_append .., rfl⟩

end RecordSchema.Text
