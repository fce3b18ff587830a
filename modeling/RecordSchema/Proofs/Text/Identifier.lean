import Mathlib.Data.List.Basic
import RecordSchema.Config

/-!
# What identifiers and type paths are

The tests of `RecordSchema.Text.Identifier` against what they test for. An identifier starts with a
letter or an underscore and goes on with letters, digits and underscores, to its very end. A type
path is made of identifiers with `::` between them: cutting it at every `::` from the left gives
these back (`segments_join`), since an identifier has no colon, and putting the pieces of any text
together again gives the text (`join_segments`). The last of them is what is found by looking for
the last `::` (`lastSegment_intercalate`).
-/

namespace RecordSchema.Text

/-! ## Characters of names -/

/-- A letter of ASCII or an underscore. -/
def NameStart (c : Char) : Prop := ('A' ≤ c ∧ c ≤ 'Z') ∨ ('a' ≤ c ∧ c ≤ 'z') ∨ c = '_'

/-- A letter or a digit of ASCII or an underscore. -/
def NamePart (c : Char) : Prop := NameStart c ∨ ('0' ≤ c ∧ c ≤ '9')

theorem isNameStart_iff {c : Char} : isNameStart c = true ↔ NameStart c := by
  have hupper : c.isUpper = true ↔ 'A' ≤ c ∧ c ≤ 'Z' := decide_eq_true_iff
  have hlower : c.isLower = true ↔ 'a' ≤ c ∧ c ≤ 'z' :=
    Bool.and_eq_true_iff.trans (and_congr decide_eq_true_iff decide_eq_true_iff)
  have halpha : c.isAlpha = true ↔ c.isUpper = true ∨ c.isLower = true := Bool.or_eq_true_iff
  simp only [isNameStart, NameStart, Bool.or_eq_true, halpha, hupper, hlower, beq_iff_eq, or_assoc]

theorem isNamePart_iff {c : Char} : isNamePart c = true ↔ NamePart c := by
  have hdigit : c.isDigit = true ↔ '0' ≤ c ∧ c ≤ '9' := by
    simp only [Char.isDigit, Bool.and_eq_true, decide_eq_true_eq]
    rfl
  simp only [isNamePart, NamePart, ← isNameStart_iff, isNameStart, Char.isAlphanum,
    Bool.or_eq_true, hdigit]
  tauto

/-! ## Identifiers -/

/-- A text that is a name as a whole. -/
def Identifier (s : String) : Prop :=
  ∃ c cs, s.toList = c :: cs ∧ NameStart c ∧ ∀ x ∈ cs, NamePart x

theorem isIdentifier_iff {s : String} : isIdentifier s = true ↔ Identifier s := by
  unfold isIdentifier Identifier
  cases h : s.toList with
  | nil => simp [isIdentifierChars]
  | cons c cs => simp [isIdentifierChars, isNameStart_iff, isNamePart_iff]

instance (s : String) : Decidable (Identifier s) := decidable_of_iff _ isIdentifier_iff

/-- What a name goes on with, put behind it. -/
theorem Identifier.append {s t : String} (hs : Identifier s) (ht : ∀ x ∈ t.toList, NamePart x) :
    Identifier (s ++ t) := by
  obtain ⟨c, cs, hcs, hc, hrest⟩ := hs
  refine ⟨c, cs ++ t.toList, by rw [String.toList_append, hcs, List.cons_append], hc, ?_⟩
  intro x hx
  rcases List.mem_append.1 hx with hx | hx
  · exact hrest x hx
  · exact ht x hx

theorem Identifier.namePart {s : String} (hs : Identifier s) : ∀ x ∈ s.toList, NamePart x := by
  obtain ⟨c, cs, hcs, hc, hrest⟩ := hs
  intro x hx
  rw [hcs] at hx
  rcases List.mem_cons.1 hx with rfl | hx
  · exact .inl hc
  · exact hrest x hx

/-- Names with an underscore between them are a name. -/
theorem Identifier.underscore {s t : String} (hs : Identifier s) (ht : Identifier t) :
    Identifier (s ++ "_" ++ t) := by
  refine (hs.append ?_).append ht.namePart
  intro x hx
  rw [List.mem_singleton.1 hx]
  exact .inl (.inr (.inr rfl))

/-- There is no colon in a name. -/
theorem Identifier.colon_not_mem {s : String} (hs : Identifier s) : ':' ∉ s.toList := by
  intro h
  exact absurd (isNamePart_iff.2 (hs.namePart _ h)) (by decide)

/-! ## Type paths -/

/-- A text made of names with `::` between them. -/
def TypePath (s : String) : Prop :=
  ∃ names : List String, names ≠ [] ∧ (∀ n ∈ names, Identifier n) ∧ s = "::".intercalate names

/-- Pieces with `::` between them. -/
def joinSegments (pieces : List (List Char)) : List Char := [':', ':'].intercalate pieces

theorem joinSegments_cons {a : List Char} {pieces : List (List Char)} (h : pieces ≠ []) :
    joinSegments (a :: pieces) = a ++ ':' :: ':' :: joinSegments pieces := by
  obtain ⟨b, pieces, rfl⟩ := List.exists_cons_of_ne_nil h
  simp [joinSegments, List.intercalate, List.intersperse]

@[simp] theorem joinSegments_singleton (a : List Char) : joinSegments [a] = a := by
  simp [joinSegments]

theorem segments_ne_nil (cs : List Char) : segments cs ≠ [] := by
  fun_cases segments cs <;> simp_all

/-- The pieces of a text, put together again. -/
theorem join_segments (cs : List Char) : joinSegments (segments cs) = cs := by
  fun_induction segments cs with
  | case1 => rfl
  | case2 cs ih => rw [joinSegments_cons (segments_ne_nil cs), ih]; rfl
  | case3 c cs hcolons hnil => exact absurd hnil (segments_ne_nil cs)
  | case4 c cs hcolons s ss hs ih =>
    rw [hs] at ih
    rw [← ih]
    cases ss with
    | nil => simp
    | cons t ss =>
      rw [joinSegments_cons (List.cons_ne_nil _ _), joinSegments_cons (List.cons_ne_nil _ _)]
      rfl

/-- A piece without colons is the whole text or is followed by `::`. -/
theorem segments_of_colon_not_mem {a : List Char} (h : ':' ∉ a) : segments a = [a] := by
  induction a with
  | nil => rfl
  | cons c cs ih =>
    rw [List.mem_cons, not_or] at h
    exact segments_cons (Ne.symm h.1) (ih h.2)

theorem segments_append {a : List Char} (h : ':' ∉ a) (cs : List Char) :
    segments (a ++ ':' :: ':' :: cs) = a :: segments cs := by
  induction a with
  | nil => rfl
  | cons c a ih =>
    rw [List.mem_cons, not_or] at h
    exact segments_cons (Ne.symm h.1) (ih h.2)

/-- Pieces without colons are found again in what they are put together to. -/
theorem segments_join {pieces : List (List Char)} (hne : pieces ≠ [])
    (h : ∀ p ∈ pieces, ':' ∉ p) : segments (joinSegments pieces) = pieces := by
  induction pieces with
  | nil => exact absurd rfl hne
  | cons a pieces ih =>
    rw [List.forall_mem_cons] at h
    cases pieces with
    | nil => rw [joinSegments_singleton, segments_of_colon_not_mem h.1]
    | cons b pieces => rw [joinSegments_cons (List.cons_ne_nil _ _), segments_append h.1,
        ih (List.cons_ne_nil _ _) h.2]

theorem toList_intercalate (names : List String) :
    ("::".intercalate names).toList = joinSegments (names.map String.toList) := by
  rw [String.toList_intercalate]
  rfl

theorem isTypePath_iff {s : String} : isTypePath s = true ↔ TypePath s := by
  unfold isTypePath isTypePathChars
  rw [List.all_eq_true]
  constructor
  · intro h
    refine ⟨(segments s.toList).map String.ofList, ?_, ?_, ?_⟩
    · simpa using segments_ne_nil s.toList
    · intro n hn
      obtain ⟨p, hp, rfl⟩ := List.mem_map.1 hn
      rw [← isIdentifier_iff, isIdentifier, String.toList_ofList]
      exact h p hp
    · apply String.toList_injective
      have hmap : ((segments s.toList).map String.ofList).map String.toList =
          segments s.toList := by simp
      rw [toList_intercalate, hmap, join_segments]
  · rintro ⟨names, hne, hnames, rfl⟩ p hp
    rw [toList_intercalate, segments_join] at hp
    · obtain ⟨n, hn, rfl⟩ := List.mem_map.1 hp
      exact isIdentifier_iff.2 (hnames n hn)
    · simpa using hne
    · intro p hp
      obtain ⟨n, hn, rfl⟩ := List.mem_map.1 hp
      exact (hnames n hn).colon_not_mem

instance (s : String) : Decidable (TypePath s) := decidable_of_iff _ isTypePath_iff

/-! ## The last name of a path -/

theorem afterLastColons_of_colon_not_mem {a : List Char} (h : ':' ∉ a) :
    afterLastColons a = none := by
  induction a with
  | nil => rfl
  | cons c cs ih =>
    rw [List.mem_cons, not_or] at h
    have hc : (c == ':') = false := beq_eq_false_iff_ne.2 (Ne.symm h.1)
    simp [afterLastColons, ih h.2, hc]

theorem afterLastColons_append {a : List Char} (h : ':' ∉ a) (cs : List Char) :
    afterLastColons (cs ++ ':' :: ':' :: a) = some a := by
  induction cs with
  | nil =>
    have hhead : a.head? ≠ some ':' := fun ha => h (List.mem_of_head? ha)
    simp [afterLastColons, afterLastColons_of_colon_not_mem h, hhead]
  | cons c cs ih => rw [List.cons_append, afterLastColons, ih]

theorem joinSegments_concat {pieces : List (List Char)} (h : pieces ≠ []) (a : List Char) :
    joinSegments (pieces ++ [a]) = joinSegments pieces ++ ':' :: ':' :: a := by
  induction pieces with
  | nil => exact absurd rfl h
  | cons b pieces ih =>
    cases pieces with
    | nil => simp [joinSegments_cons]
    | cons c pieces =>
      rw [List.cons_append, joinSegments_cons (by simp), ih (List.cons_ne_nil _ _),
        joinSegments_cons (List.cons_ne_nil _ _)]
      simp

/-- The last name of a path is its last segment. -/
theorem lastSegment_intercalate (names : List String) {last : String} (h : Identifier last) :
    lastSegment ("::".intercalate (names ++ [last])) = last := by
  have hlast : lastSegmentChars (joinSegments (names.map String.toList ++ [last.toList])) =
      last.toList := by
    cases names with
    | nil =>
      simp [lastSegmentChars, afterLastColons_of_colon_not_mem h.colon_not_mem]
    | cons n names =>
      rw [joinSegments_concat (by simp), lastSegmentChars,
        afterLastColons_append h.colon_not_mem, Option.getD_some]
  rw [lastSegment, toList_intercalate, List.map_append, List.map_singleton, hlast,
    String.ofList_toList]

/-- The last segment of a path of names is a name. -/
theorem TypePath.lastSegment {s : String} (h : TypePath s) : Identifier (lastSegment s) := by
  obtain ⟨names, hne, hnames, rfl⟩ := h
  rw [← List.dropLast_append_getLast hne]
  have hlast := hnames _ (List.getLast_mem hne)
  rw [lastSegment_intercalate _ hlast]
  exact hlast

end RecordSchema.Text

namespace RecordSchema.Config

/-- A prefix is valid if it is empty or a name. -/
theorem isValidPrefix_iff {p : String} :
    isValidPrefix p = true ↔ p = "" ∨ Text.Identifier p := by
  rw [isValidPrefix, Bool.or_eq_true, String.isEmpty_iff, Text.isIdentifier_iff]

end RecordSchema.Config
