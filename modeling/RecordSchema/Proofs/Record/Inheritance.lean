import RecordSchema.Proofs.Record.Line

/-!
# Each record once

A record inherits from the records on its line, and should have the fields of each of them once. The
names on a line say which records these are: its first records up to where it ends or comes back to
a name (`Record.ClosesAt`). The walk, however, compares names with the first one only and else
counts, so it sees where a line closes if the line ends in time or closes at its first record. A
line that closes above its first record is walked round and round, and a line that is too long is
cut as if it did not end (`Record.inherits_once`).
-/

namespace RecordSchema

variable {ρ : Type}

namespace Record

/-- By their names the first `n` records of a line are all that are on it, each once: after them the
line ends or comes back to one of them. -/
structure ClosesAt (catalog : Catalog ρ) (r : Record ρ) (n : Nat) : Prop where
  reached {i : Nat} (h : i < n) : (r.above catalog i).isSome
  distinct : r.DistinctNames catalog n
  closed {p : Record ρ} (h : r.above catalog n = some p) :
    ∃ i q, i < n ∧ r.above catalog i = some q ∧ q.name = p.name

/-- Inheritance as it is meant, on a line that closes after `n` records: each of these gives its
fields once, from above, and a cut is reported only if the line goes on after them. -/
structure InheritsOnce (catalog : Catalog ρ) (r : Record ρ) (n : Nat) : Prop where
  fields : r.allFields catalog = (r.line catalog n).reverse.flatMap Record.fields
  report : r.inheritanceEvents catalog ≠ [] → (r.above catalog n).isSome

section

variable {catalog : Catalog ρ} {r : Record ρ} {n : Nat}

theorem distinctNames_two {p : Record ρ} (h : r.above catalog 1 = some p) (hne : r.name ≠ p.name) :
    r.DistinctNames catalog 2 := by
  intro i j q q' hij hj hq hq'
  obtain rfl : j = 1 := by omega
  obtain rfl : i = 0 := by omega
  rw [h] at hq'
  cases hq
  cases hq'
  exact hne

/-- The walk is not cut before a line closes, unless for want of room. -/
theorem ClosesAt.le_depth (h : r.ClosesAt catalog n) (hn : n ≤ maxAncestors + 1) :
    n ≤ r.depth catalog := by
  obtain ⟨hpos, hnone | ⟨p, hp, hname⟩ | hlast⟩ := (isLeast_depth catalog r).1
  · by_contra hle
    have hsome := h.reached (Nat.lt_of_not_le hle)
    rw [hnone] at hsome
    cases hsome
  · by_contra hle
    exact h.distinct 0 _ r p hpos (Nat.lt_of_not_le hle) rfl hp hname.symm
  · rwa [hlast]

theorem ClosesAt.depth_eq (h : r.ClosesAt catalog n) (hstop : r.StopsAt catalog n)
    (hn : n ≤ maxAncestors + 1) : r.depth catalog = n :=
  Nat.le_antisymm ((isLeast_depth catalog r).2 hstop) (h.le_depth hn)

theorem flatMap_fields_line_succ {p : Record ρ} (h : r.above catalog n = some p) :
    (r.line catalog (n + 1)).reverse.flatMap Record.fields =
      p.fields ++ (r.line catalog n).reverse.flatMap Record.fields := by
  rw [line_succ, h, List.reverse_append, List.flatMap_append]
  simp

/-- If every record on a line has a field, a longer part of it has more of them. -/
theorem length_flatMap_fields_line_lt
    (hfields : ∀ i p, r.above catalog i = some p → p.fields ≠ []) {m : Nat}
    (hreached : ∀ i < n, (r.above catalog i).isSome) (hmn : m < n) :
    ((r.line catalog m).reverse.flatMap Record.fields).length <
      ((r.line catalog n).reverse.flatMap Record.fields).length := by
  induction n with
  | zero => cases hmn
  | succ n ih =>
    obtain ⟨p, hp⟩ := Option.isSome_iff_exists.1 (hreached n n.lt_succ_self)
    have hpos : 0 < p.fields.length := List.length_pos_iff.2 (hfields n p hp)
    rw [flatMap_fields_line_succ hp, List.length_append]
    rcases Nat.lt_succ_iff_lt_or_eq.1 hmn with hlt | rfl
    · have := ih (fun i hi => hreached i (Nat.lt_succ_of_lt hi)) hlt
      omega
    · omega

/-- Where every record on a line has a field, the fields tell how long the walk was. -/
theorem ClosesAt.depth_eq_of_fields (h : r.ClosesAt catalog n)
    (hfields : ∀ i p, r.above catalog i = some p → p.fields ≠ [])
    (honce : r.allFields catalog = (r.line catalog n).reverse.flatMap Record.fields) :
    r.depth catalog = n := by
  rw [allFields_eq_line] at honce
  have hlength := congrArg List.length honce
  rcases Nat.lt_trichotomy (r.depth catalog) n with hlt | heq | hgt
  · exact absurd hlength
      (Nat.ne_of_lt (length_flatMap_fields_line_lt hfields (fun _ hi => h.reached hi) hlt))
  · exact heq
  · exact absurd hlength (Nat.ne_of_gt
      (length_flatMap_fields_line_lt hfields (fun _ hi => isSome_above_of_lt_depth hi) hgt))

end

/-- Where a line closes, the walk over it respects inheritance if it can be cut there and the line
is not too long. If every record on the line has a field, it does so in no other case. -/
theorem inherits_once (catalog : Catalog ρ) (r : Record ρ) (n : Nat) (h : r.ClosesAt catalog n) :
    (r.StopsAt catalog n → n ≤ 65 → r.InheritsOnce catalog n) ∧
    ((∀ i p, r.above catalog i = some p → p.fields ≠ []) → r.InheritsOnce catalog n →
      r.StopsAt catalog n ∧ n ≤ 65) := by
  constructor
  · intro hstop hn
    have hdepth := h.depth_eq hstop hn
    refine ⟨by rw [allFields_eq_line, hdepth], fun hreport => ?_⟩
    rw [inheritanceEvents_eq, hdepth] at hreport
    by_contra hnone
    exact hreport (if_neg hnone)
  · intro hfields honce
    have hdepth := h.depth_eq_of_fields hfields honce.fields
    rw [← hdepth]
    exact ⟨(isLeast_depth catalog r).1, depth_le catalog r⟩

/-- An author is a named thing, and the line ends there. -/
theorem inherits_once_shelf :
    let author := Shelf.catalog .author
    author.ClosesAt Shelf.catalog 2 ∧ author.StopsAt Shelf.catalog 2 ∧
      author.InheritsOnce Shelf.catalog 2 ∧
      (author.allFields Shelf.catalog).map Field.name =
        ["name", "books", "favourite", "cache"] := by
  intro author
  have hclose : author.ClosesAt Shelf.catalog 2 := by
    refine ⟨fun {i} hi => ?_, distinctNames_two rfl (by decide), nofun⟩
    interval_cases i <;> rfl
  have hstop : author.StopsAt Shelf.catalog 2 := ⟨by decide, .inl rfl⟩
  exact ⟨hclose, hstop, (inherits_once Shelf.catalog author 2 hclose).1 hstop (by decide), rfl⟩

end Record

/-! ## Lines that close elsewhere -/

/-- The library, where a named thing is by mistake its own parent. -/
def Shelf.looped : Catalog Shelf
  | named => { catalog named with parent := some named }
  | other => catalog other

/-- Records in a row, each the parent of the one before it, up to the one numbered 65. -/
def numbered : Catalog Nat := fun i =>
  { name := String.ofList (List.replicate (i + 1) 'v')
    fields := [.plain "id" (.scalar .bigInt)]
    parent := if i < 65 then some (i + 1) else none }

theorem above_numbered {i : Nat} (hi : i ≤ 65) :
    (numbered 0).above numbered i = some (numbered i) := by
  induction i with
  | zero => rfl
  | succ i ih =>
    have hparent : (numbered i).parent = some (i + 1) := if_pos hi
    rw [Record.above, ih (Nat.le_of_succ_le hi), Option.bind_some, hparent, Option.map_some]

theorem above_numbered_end : (numbered 0).above numbered 66 = none := by
  rw [Record.above, above_numbered (Nat.le_refl 65)]
  rfl

theorem name_numbered_ne {i j : Nat} (h : i < j) : (numbered i).name ≠ (numbered j).name := by
  intro heq
  have hlength := congrArg String.length heq
  simp only [numbered, String.length_ofList, List.length_replicate] at hlength
  omega

namespace Record

theorem closesAt_looped : (Shelf.looped .author).ClosesAt Shelf.looped 2 := by
  refine ⟨fun {i} hi => ?_, distinctNames_two rfl (by decide), fun {p} hp => ?_⟩
  · interval_cases i <;> rfl
  · cases hp
    exact ⟨1, _, by decide, rfl, rfl⟩

theorem closesAt_numbered : (numbered 0).ClosesAt numbered 66 := by
  refine ⟨fun {i} hi => ?_, fun i j p q hij hj hp hq => ?_, fun {p} hp => ?_⟩
  · rw [above_numbered (Nat.le_of_lt_succ hi)]
    rfl
  · rw [above_numbered (Nat.le_of_lt_succ (Nat.lt_trans hij hj))] at hp
    rw [above_numbered (Nat.le_of_lt_succ hj)] at hq
    cases hp
    cases hq
    exact name_numbered_ne hij
  · rw [above_numbered_end] at hp
    cases hp

/-- Where a named thing is its own parent, an author has the name of a named thing 64 times. And on
a line of 66 different records, which ends, the last one's field is missing and a cycle is reported.
-/
theorem not_inheritsOnce_looped_numbered :
    ((Shelf.looped .author).ClosesAt Shelf.looped 2 ∧
      ((Shelf.looped .author).allFields Shelf.looped).map Field.name =
        List.replicate 64 "name" ++ ["books", "favourite", "cache"] ∧
      ¬ (Shelf.looped .author).InheritsOnce Shelf.looped 2) ∧
    (numbered 0).ClosesAt numbered 66 ∧ (numbered 0).above numbered 66 = none ∧
      ((numbered 0).allFields numbered).length = 65 ∧
      (numbered 0).inheritanceEvents numbered = [.inheritanceCut "v"] ∧
      ¬ (numbered 0).InheritsOnce numbered 66 := by
  have hlooped : ((Shelf.looped .author).allFields Shelf.looped).map Field.name =
      List.replicate 64 "name" ++ ["books", "favourite", "cache"] := rfl
  have hreport : (numbered 0).inheritanceEvents numbered = [.inheritanceCut "v"] := rfl
  refine ⟨⟨closesAt_looped, hlooped, fun honce => ?_⟩, closesAt_numbered, above_numbered_end,
    rfl, hreport, fun honce => ?_⟩
  · have hnames := congrArg (List.map Field.name) honce.fields
    rw [hlooped] at hnames
    exact absurd hnames (by decide)
  · have hgoes := honce.report (by simp [hreport])
    rw [above_numbered_end] at hgoes
    cases hgoes

end Record

end RecordSchema
