import Mathlib.Order.Bounds.Basic
import Mathlib.Tactic.IntervalCases
import RecordSchema.Proofs.Pass.Log

/-!
# The line of a record

Above a record stands its parent, above that one its parent, and so on: the line of the record
(`Record.above`). A line may end, run into a cycle or never end, but the walk over it reads a first
part of it only. How long that part is can be said without the walk (`Record.StopsAt`): it is cut
before the first place with no record, with a record of the name that the line starts with, or with
one ancestor more than a record may have.

A walk from any record on the line is compared with the line of that record (`Record.Walked`), by
induction on the room it has left. Fields and reports of a record then follow from the length of the
first part, and where two lines have one record above the other so do their fields.
-/

namespace RecordSchema

variable {ρ : Type}

namespace Record

variable {catalog : Catalog ρ} {r : Record ρ}

/-- The record that is `i` steps above a record, if there is one. -/
def above (catalog : Catalog ρ) (r : Record ρ) : Nat → Option (Record ρ)
  | 0 => some r
  | i + 1 => (r.above catalog i).bind fun p => p.parent.map catalog

/-- The first `n` records of a line, from below, or all of them if there are fewer. -/
def line (catalog : Catalog ρ) (r : Record ρ) (n : Nat) : List (Record ρ) :=
  (List.range n).filterMap (r.above catalog)

/-- The walk over a line can be cut before the record at an index: none is there, or one of the name
that the line starts with, or the record inherits from as many as it may. -/
def StopsAt (catalog : Catalog ρ) (r : Record ρ) (k : Nat) : Prop :=
  1 ≤ k ∧ (r.above catalog k = none ∨ (∃ p, r.above catalog k = some p ∧ p.name = r.name) ∨
    k = maxAncestors + 1)

/-! ## Lines -/

theorem above_succ_of_none (h : r.parent = none) (i : Nat) : r.above catalog (i + 1) = none := by
  induction i with
  | zero => simp [above, h]
  | succ i ih => rw [above, ih, Option.bind_none]

/-- What is above a record is what is above its parent, one step higher. -/
theorem above_succ_of_some {q : ρ} (h : r.parent = some q) (i : Nat) :
    r.above catalog (i + 1) = (catalog q).above catalog i := by
  induction i with
  | zero => simp [above, h]
  | succ i ih => rw [above, ih, above]

theorem above_eq_none_of_le {i j : Nat} (h : r.above catalog i = none) (hij : i ≤ j) :
    r.above catalog j = none := by
  induction hij with
  | refl => exact h
  | step _ ih => rw [above, ih, Option.bind_none]

theorem line_succ (catalog : Catalog ρ) (r : Record ρ) (n : Nat) :
    r.line catalog (n + 1) = r.line catalog n ++ (r.above catalog n).toList := by
  rw [line, List.range_succ, List.filterMap_append]
  cases h : r.above catalog n <;> simp [line, h]

theorem line_succ_of_some {q : ρ} (h : r.parent = some q) (n : Nat) :
    r.line catalog (n + 1) = r :: (catalog q).line catalog n := by
  induction n with
  | zero => rfl
  | succ n ih => rw [line_succ, ih, above_succ_of_some h, line_succ, List.cons_append]

theorem length_line {n : Nat} (h : ∀ i < n, (r.above catalog i).isSome) :
    (r.line catalog n).length = n := by
  induction n with
  | zero => rfl
  | succ n ih =>
    obtain ⟨p, hp⟩ := Option.isSome_iff_exists.1 (h n n.lt_succ_self)
    rw [line_succ, List.length_append, ih fun i hi => h i (Nat.lt_succ_of_lt hi), hp]
    rfl

/-! ## The walk and the line -/

/-- What a walk from the parent of `p` on has found, in terms of the line of `p`. -/
structure Walked (catalog : Catalog ρ) (start : String) (room : Nat) (p : Record ρ)
    (found : List (Record ρ) × Bool) : Prop where
  /-- The records after `p` on its line. -/
  line : p :: found.1 = p.line catalog (found.1.length + 1)
  /-- None of them has the name that the walk started from. -/
  other {i : Nat} (h : 1 ≤ i) (hi : i ≤ found.1.length) :
    ∃ q, p.above catalog i = some q ∧ q.name ≠ start
  /-- After them the walk had to end. -/
  stop : p.above catalog (found.1.length + 1) = none ∨
    (∃ q, p.above catalog (found.1.length + 1) = some q ∧ q.name = start) ∨
    found.1.length = room
  /-- It was cut if the line goes on. -/
  cut : found.2 = (p.above catalog (found.1.length + 1)).isSome

theorem Walked.of_none {start : String} {room : Nat} {p : Record ρ} (h : p.parent = none) :
    Walked catalog start room p ([], false) where
  line := rfl
  other h hi := absurd hi (by simpa using Nat.ne_of_gt h)
  stop := .inl (above_succ_of_none h 0)
  cut := by rw [above_succ_of_none h]; rfl

/-- A walk that is cut at once. -/
theorem Walked.of_cut {start : String} {room : Nat} {p : Record ρ} {q : ρ} (h : p.parent = some q)
    (hcut : (catalog q).name = start ∨ room = 0) : Walked catalog start room p ([], true) where
  line := rfl
  other h hi := absurd hi (by simpa using Nat.ne_of_gt h)
  stop := .inr (hcut.imp (fun hq => ⟨catalog q, above_succ_of_some h 0, hq⟩) Eq.symm)
  cut := by rw [above_succ_of_some h]; rfl

/-- One more step from below. -/
theorem Walked.cons {start : String} {room : Nat} {p : Record ρ} {q : ρ} (h : p.parent = some q)
    (hq : (catalog q).name ≠ start) {found : List (Record ρ) × Bool}
    (hfound : Walked catalog start room (catalog q) found) :
    Walked catalog start (room + 1) p (catalog q :: found.1, found.2) where
  line := by
    show p :: catalog q :: found.1 = p.line catalog (found.1.length + 1 + 1)
    rw [line_succ_of_some h, hfound.line]
  other {i} hi hle := by
    obtain ⟨i, rfl⟩ := Nat.exists_eq_add_of_le' hi
    rw [above_succ_of_some h]
    cases i with
    | zero => exact ⟨catalog q, rfl, hq⟩
    | succ i => exact hfound.other (Nat.le_add_left ..) (Nat.le_of_succ_le_succ hle)
  stop := by
    rw [List.length_cons, above_succ_of_some h, Nat.succ_inj]
    exact hfound.stop
  cut := by rw [List.length_cons, above_succ_of_some h]; exact hfound.cut

/-- A walk finds the line up to where it has to end. The induction is on the room that is left. -/
theorem walked_walk (catalog : Catalog ρ) (start : String) (room : Nat) (p : Record ρ) :
    Walked catalog start room p (walk catalog start room p.parent) := by
  induction room generalizing p with
  | zero =>
    cases h : p.parent with
    | none => exact .of_none h
    | some q => exact .of_cut h (.inr rfl)
  | succ room ih =>
    cases h : p.parent with
    | none => exact .of_none h
    | some q =>
      by_cases hq : (catalog q).name = start
      · have hcut : Walked catalog start (room + 1) p ([], true) := .of_cut h (.inl hq)
        simpa [walk, hq] using hcut
      · simpa [walk, hq] using Walked.cons h hq (ih (catalog q))

/-- How many records a record has its fields from. -/
def depth (catalog : Catalog ρ) (r : Record ρ) : Nat := (r.ancestors catalog).length + 1

theorem depth_le (catalog : Catalog ρ) (r : Record ρ) : r.depth catalog ≤ maxAncestors + 1 :=
  Nat.succ_le_succ (length_ancestors_le catalog r)

theorem cons_ancestors_eq_line (catalog : Catalog ρ) (r : Record ρ) :
    r :: r.ancestors catalog = r.line catalog (r.depth catalog) :=
  (walked_walk catalog r.name maxAncestors r).line

theorem isSome_above_of_lt_depth {i : Nat} (h : i < r.depth catalog) :
    (r.above catalog i).isSome := by
  cases i with
  | zero => rfl
  | succ i =>
    obtain ⟨q, hq, -⟩ := (walked_walk catalog r.name maxAncestors r).other
      (Nat.le_add_left ..) (Nat.le_of_lt_succ h)
    rw [hq]
    rfl

/-- The walk is cut where it can be cut first. -/
theorem isLeast_depth (catalog : Catalog ρ) (r : Record ρ) :
    IsLeast {k | r.StopsAt catalog k} (r.depth catalog) := by
  have hwalk := walked_walk catalog r.name maxAncestors r
  refine ⟨⟨Nat.le_add_left .., hwalk.stop.imp_right (Or.imp_right (congrArg (· + 1)))⟩, ?_⟩
  rintro k ⟨hk, hstop⟩
  by_contra hlt
  obtain ⟨q, hq, hname⟩ := hwalk.other hk (Nat.le_of_lt_succ (Nat.lt_of_not_le hlt))
  rcases hstop with hnone | ⟨p, hp, hstart⟩ | rfl
  · rw [hq] at hnone
    cases hnone
  · rw [hq] at hp
    cases hp
    exact hname hstart
  · exact hlt (depth_le catalog r)

/-- All fields of a record are those of its line, from above. -/
theorem allFields_eq_line (catalog : Catalog ρ) (r : Record ρ) :
    r.allFields catalog = (r.line catalog (r.depth catalog)).reverse.flatMap fields := by
  rw [allFields, cons_ancestors_eq_line]

/-- A walk that is cut before a record is reported, and no other is. -/
theorem inheritanceEvents_eq (catalog : Catalog ρ) (r : Record ρ) :
    r.inheritanceEvents catalog =
      if (r.above catalog (r.depth catalog)).isSome then [.inheritanceCut r.name] else [] := by
  have hcut : r.inheritanceIsCut catalog = (r.above catalog (r.depth catalog)).isSome :=
    (walked_walk catalog r.name maxAncestors r).cut
  rw [inheritanceEvents, hcut]

/-! ## Lines that end -/

/-- The first `n` records of a line have different names. -/
def DistinctNames (catalog : Catalog ρ) (r : Record ρ) (n : Nat) : Prop :=
  ∀ i j p q, i < j → j < n → r.above catalog i = some p → r.above catalog j = some q →
    p.name ≠ q.name

/-- A line of different names that is not too long is walked to its end. -/
theorem above_depth_eq_none (hnames : r.DistinctNames catalog (maxAncestors + 1))
    (hend : r.above catalog (maxAncestors + 1) = none) :
    r.above catalog (r.depth catalog) = none := by
  obtain ⟨hpos, hnone | ⟨p, hp, hname⟩ | hlast⟩ := (isLeast_depth catalog r).1
  · exact hnone
  · have hlt : r.depth catalog < maxAncestors + 1 := by
      refine Nat.lt_of_le_of_ne (depth_le catalog r) fun heq => ?_
      rw [heq, hend] at hp
      cases hp
    exact absurd hname.symm (hnames 0 _ r p hpos hlt rfl hp)
  · rw [hlast, hend]

/-- A walk to the end of a line sees all of it. -/
theorem depth_eq_of_above_eq_none {n : Nat} (h : r.above catalog (r.depth catalog) = none)
    (hn : r.above catalog n = none) (hlt : ∀ i < n, (r.above catalog i).isSome) :
    r.depth catalog = n := by
  apply Nat.le_antisymm
  · by_contra hle
    have hsome := isSome_above_of_lt_depth (Nat.lt_of_not_le hle)
    rw [hn] at hsome
    cases hsome
  · by_contra hle
    have hsome := hlt _ (Nat.lt_of_not_le hle)
    rw [h] at hsome
    cases hsome

theorem DistinctNames.parent {n : Nat} (h : r.DistinctNames catalog (n + 1)) {q : ρ}
    (hq : r.parent = some q) : (catalog q).DistinctNames catalog n := by
  intro i j p p' hij hj hp hp'
  rw [← above_succ_of_some hq] at hp hp'
  exact h (i + 1) (j + 1) p p' (Nat.succ_lt_succ hij) (Nat.succ_lt_succ hj) hp hp'

/-- A line that has ended has no further names. -/
theorem DistinctNames.succ_of_none {n : Nat} (h : r.DistinctNames catalog n)
    (hn : r.above catalog n = none) : r.DistinctNames catalog (n + 1) := by
  intro i j p q hij hj hp hq
  have hlt : j < n := by
    refine Nat.lt_of_le_of_ne (Nat.le_of_lt_succ hj) fun heq => ?_
    rw [heq, hn] at hq
    cases hq
  exact h i j p q hij hlt hp hq

/-- Where the walks from a record and from its parent both see the end of the line, the record has
the fields of its parent before its own. -/
theorem allFields_eq_parent_append {q : ρ} (h : r.parent = some q)
    (hend : r.above catalog (r.depth catalog) = none)
    (hparent : (catalog q).above catalog ((catalog q).depth catalog) = none) :
    r.allFields catalog = (catalog q).allFields catalog ++ r.fields := by
  have hdepth : r.depth catalog = (catalog q).depth catalog + 1 := by
    apply depth_eq_of_above_eq_none hend
    · rw [above_succ_of_some h, hparent]
    · intro i hi
      cases i with
      | zero => rfl
      | succ i =>
        rw [above_succ_of_some h]
        exact isSome_above_of_lt_depth (Nat.lt_of_succ_lt_succ hi)
  rw [allFields_eq_line, allFields_eq_line, hdepth, line_succ_of_some h, List.reverse_cons,
    List.flatMap_append, List.flatMap_singleton]

end Record

/-! ## What is reported of a line -/

/-- Among the reports of a record's table there is one cut at most. -/
theorem Compiler.withMessage_cut_tableStatement (c : Compiler ρ) (queue : JoinQueue ρ)
    (r : Record ρ) :
    Event.withMessage "Inheritance cycle detected; truncating" (c.tableStatement queue r).events =
      r.inheritanceEvents c.catalog := by
  cases h : c.error? [r] with
  | some e => rw [events_tableStatement_of_error h, withMessage_cut_scanEvents]
  | none =>
    rw [events_tableStatement h, recordEvents, Event.withMessage_append, withMessage_cut_scanEvents]
    exact List.append_nil _

namespace Record

/-- The fields of a record are those of the first part of its line, and the line is cut where it can
be cut first, after 65 records at the latest. A cut before a record is reported, once. So on a line
of different names with at most 64 ancestors a record adds its own fields to those of its parent,
and nothing is reported. -/
theorem allFields_truncated_line (catalog : Catalog ρ) (r : Record ρ) :
    ∃ k, IsLeast {k | r.StopsAt catalog k} k ∧ k ≤ 65 ∧
      -- the walk visits the records below the index
      (∀ i < k, (r.above catalog i).isSome) ∧
      r :: r.ancestors catalog = r.line catalog k ∧ (r.line catalog k).length = k ∧
      r.allFields catalog = (r.line catalog k).reverse.flatMap fields ∧
      -- it reports the cut, and so does a pass over the record
      (r.inheritanceEvents catalog =
        if (r.above catalog k).isSome then [.inheritanceCut r.name] else []) ∧
      (∀ (c : Compiler ρ) (queue : JoinQueue ρ), c.catalog = catalog →
        Event.withMessage "Inheritance cycle detected; truncating"
            (c.tableStatement queue r).events =
          if (r.above catalog k).isSome then [.inheritanceCut r.name] else []) ∧
      -- on a line of different names that ends in time
      (r.DistinctNames catalog 65 → r.above catalog 65 = none →
        r.inheritanceEvents catalog = [] ∧
          ∀ q, r.parent = some q →
            r.allFields catalog = (catalog q).allFields catalog ++ r.fields) := by
  have hevents := inheritanceEvents_eq catalog r
  refine ⟨r.depth catalog, isLeast_depth catalog r, depth_le catalog r,
    fun i hi => isSome_above_of_lt_depth hi, cons_ancestors_eq_line catalog r,
    length_line fun i hi => isSome_above_of_lt_depth hi, allFields_eq_line catalog r, hevents,
    ?_, ?_⟩
  · rintro c queue rfl
    rw [c.withMessage_cut_tableStatement, hevents]
  · intro hnames hend
    have hnone := above_depth_eq_none hnames hend
    refine ⟨by rw [hevents, hnone]; rfl, fun q hq => ?_⟩
    apply allFields_eq_parent_append hq hnone
    have hparent : (catalog q).above catalog maxAncestors = none := by
      rw [← above_succ_of_some hq]
      exact hend
    exact above_depth_eq_none ((hnames.parent hq).succ_of_none hparent)
      (above_eq_none_of_le hparent (Nat.le_succ _))

/-- An editor is an author, and an author is a named thing: nothing is cut, and an editor has what
an author has. -/
theorem allFields_truncated_line_shelf :
    let editor := Shelf.catalog .editor
    editor.DistinctNames Shelf.catalog 65 ∧ editor.above Shelf.catalog 65 = none ∧
      editor.inheritanceEvents Shelf.catalog = [] ∧
      editor.allFields Shelf.catalog =
        (Shelf.catalog .author).allFields Shelf.catalog ++ editor.fields := by
  intro editor
  have hend : editor.above Shelf.catalog 3 = none := rfl
  have hnames : editor.DistinctNames Shelf.catalog 65 := by
    intro i j p q hij _ hp hq
    have hj : j < 3 := by
      by_contra hle
      rw [above_eq_none_of_le hend (Nat.le_of_not_lt hle)] at hq
      cases hq
    interval_cases j <;> interval_cases i <;> cases hp <;> cases hq <;> decide
  have hlast := above_eq_none_of_le hend (show 3 ≤ 65 by decide)
  obtain ⟨k, -, -, -, -, -, -, -, -, hhence⟩ := allFields_truncated_line Shelf.catalog editor
  obtain ⟨hevents, hparent⟩ := hhence hnames hlast
  exact ⟨hnames, hlast, hevents, hparent .author rfl⟩

end Record

end RecordSchema
