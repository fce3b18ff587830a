import RecordSchema.Proofs.Declaration.Arguments
import RecordSchema.Proofs.Declaration.Definitions

/-!
# Items of record attributes

The list of an attribute says the same as the items that stand between its commas, each by itself
(`entries_iff`). Commas in angle brackets separate arguments and no items, so finding the items
takes no more than counting brackets (`itemsOf`). That the entries of a list end where its items
end is what it means that reading an entry does not look behind it (`Entry.settled_read`).
-/

namespace RecordSchema.Declaration

/-! ## Reading entries -/

namespace Entry

open Reader

variable {ε : Type}

theorem settled_key : key.Settled 0 0 := by
  refine (settled_tryOp_plain (by decide) 0).discard.bind fun _ => ?_
  refine (settled_ask Peek.near_anyWord 0).branch ?_ ?_
  · refine (settled_anyWord 0).discard.bind fun _ => ?_
    refine .many (settled_ask (Peek.near_op (by decide)) 0) ?_
    exact (settled_op_plain (by decide) 0).bind fun _ => (settled_anyWord 0).discard
  · -- nothing is a key without a word, so it does not matter that the end is asked for
    refine settled_of_error (fun ts a h => ?_) 0 0
    rw [run_ask_bind] at h
    split at h
    · cases h
    · rw [run_ask_bind] at h
      split at h <;> cases h

theorem settled_value (form : EntryForm ε) : (value form).Settled 0 0 := by
  cases form with
  | flag entry => exact settled_pure entry 0
  | text rule entry =>
    refine .bind (.mapError ?_ _) fun text => .ite (settled_pure _ 0) (settled_fail _ 0 0)
    exact (settled_op_plain (by decide) 0).bind fun _ => settled_string 0
  | path entry =>
    refine .mapError ?_ _
    refine (settled_op_plain (by decide) 0).bind fun _ => ?_
    exact Grammar.settled_path.spelled.last

/-- Reading an entry takes trees that lead out of all brackets, and does not look behind them. -/
theorem settled_read (v : Vocabulary ε) : (read v).Settled 0 0 := by
  refine .bind (.mapError settled_key.spelled _) fun key => ?_
  split
  · exact settled_value _
  · exact settled_fail _ 0 0

end Entry

/-! ## Splitting at commas -/

/-- Trees whose last mark is not joined to what follows. -/
def detach : List Tree → List Tree
  | [] => []
  | [.mark c _] => [.mark c false]
  | t :: ts => t :: detach ts

/-- Puts trees in front of the first of several items. -/
def prepend (p : List Tree) : List (List Tree) → List (List Tree)
  | [] => if p.isEmpty then [] else [p]
  | q :: qs => (p ++ q) :: qs

/-- What stands between the commas at depth zero, from a given depth of angle brackets on. A comma
at the end has nothing behind it. -/
def itemsAt : Nat → List Tree → List (List Tree)
  | _, [] => []
  | i, .mark '-' true :: .mark '>' joint :: ts =>
    prepend [.mark '-' true, .mark '>' joint] (itemsAt i ts)
  | i, .mark '<' joint :: ts => prepend [.mark '<' joint] (itemsAt (i + 1) ts)
  | i + 1, .mark '>' joint :: ts => prepend [.mark '>' joint] (itemsAt i ts)
  | 0, .mark ',' _ :: ts => [] :: itemsAt 0 ts
  | i, t :: ts => prepend [t] (itemsAt i ts)

/-- The items of a list: what stands between its commas, commas in angle brackets apart. Whether the
last mark of an item is joined to the comma behind it does not belong to the item. -/
def itemsOf (ts : List Tree) : List (List Tree) := (itemsAt 0 ts).map detach

theorem alike_detach {u v : List Tree} (hu : Closer u) (hv : Closer v) (ts : List Tree) :
    Alike ts.length (ts ++ u) (detach ts ++ v) := by
  fun_induction detach ts with
  | case1 => exact .behind hu hv
  | case2 c joint => exact .last c joint false hu hv
  | case3 t ts _ ih => exact .cons t ih

theorem length_detach (ts : List Tree) : (detach ts).length = ts.length := by
  fun_induction detach ts with
  | case1 | case2 => rfl
  | case3 t ts _ ih => simp [ih]

theorem prepend_nil (ps : List (List Tree)) : prepend [] ps = ps := by
  cases ps <;> rfl

theorem prepend_prepend (p q : List Tree) (ps : List (List Tree)) :
    prepend p (prepend q ps) = prepend (p ++ q) ps := by
  match ps, q with
  | [], [] => simp [prepend]
  | [], t :: q => simp [prepend]
  | r :: ps, q => simp [prepend]

/-- Trees that lead from one depth to another have no commas at depth zero. -/
theorem Walk.itemsAt_append {i j : Nat} {p : List Tree} (h : Walk i p j) (rest : List Tree) :
    itemsAt i (p ++ rest) = prepend p (itemsAt j rest) := by
  induction h with
  | nil => exact (prepend_nil _).symm
  | word w _ ih => simp [itemsAt, ih, prepend_prepend]
  | literal l _ ih => simp [itemsAt, ih, prepend_prepend]
  | group d body _ ih => simp [itemsAt, ih, prepend_prepend]
  | plain joint hc _ ih =>
    obtain ⟨hcomma, hopens, hcloses, hminus⟩ := hc
    rw [List.cons_append, itemsAt, ih, prepend_prepend]
    · rfl
    all_goals simp_all
  | @minus i _ _ joint l _ ih =>
    have hliteral (ts : List Tree) : itemsAt i (.mark '-' joint :: .literal l :: ts) =
        prepend [.mark '-' joint] (prepend [.literal l] (itemsAt i ts)) := by
      rw [itemsAt, itemsAt]
      all_goals simp
    rw [List.cons_append, List.cons_append, hliteral, ih, prepend_prepend, prepend_prepend]
    rfl
  | arrow joint _ ih => simp [itemsAt, ih, prepend_prepend]
  | comma joint _ ih => simp [itemsAt, ih, prepend_prepend]
  | opens joint _ ih => simp [itemsAt, ih, prepend_prepend]
  | closes joint _ ih => simp [itemsAt, ih, prepend_prepend]

/-- A list and its items: it is empty, or one item, or an item and the items behind a comma. -/
inductive FirstItem : List Tree → List (List Tree) → Prop
  | none : FirstItem [] []
  | last {ts : List Tree} (h : ts ≠ []) : FirstItem ts [ts]
  | comma (p : List Tree) (joint : Bool) (rest : List Tree) :
    FirstItem (p ++ .mark ',' joint :: rest) (p :: itemsAt 0 rest)

theorem FirstItem.prepend {ts p : List Tree} {ps : List (List Tree)} (h : FirstItem ts ps)
    (hp : p ≠ []) : FirstItem (p ++ ts) (prepend p ps) := by
  cases h with
  | none =>
    rw [List.append_nil, Declaration.prepend, if_neg (by simpa using hp)]
    exact .last hp
  | last => exact .last (List.append_ne_nil_of_left_ne_nil hp _)
  | comma q joint rest =>
    rw [← List.append_assoc]
    exact .comma (p ++ q) joint rest

theorem firstItem_itemsAt (i : Nat) (ts : List Tree) : FirstItem ts (itemsAt i ts) := by
  fun_induction itemsAt i ts with
  | case1 => exact .none
  | case5 joint ts => exact .comma [] joint ts
  | case2 _ joint _ ih => exact ih.prepend (p := [.mark '-' true, .mark '>' joint]) nofun
  | case3 _ _ _ ih | case4 _ _ _ ih | case6 _ _ _ _ _ _ _ ih => exact ih.prepend (p := [_]) nofun

/-! ## Reading items -/

section Says

variable {ε : Type} {v : Vocabulary ε} {ts : List Tree} {es : List ε}

/-- An item that says an entry, with nothing left over. -/
def ItemSays (v : Vocabulary ε) (p : List Tree) (e : ε) : Prop := EntryAt v p e [] none

theorem entryAt_iff {rest : List Tree} {e : ε} {left : Option Delimiter} :
    EntryAt v ts e rest left ↔
      ∃ taken, (Entry.read v).run ts = .ok { value := e, taken, rest, unread := left } := by
  refine ⟨EntryAt.run, fun ⟨taken, h⟩ => ?_⟩
  rcases entryAt_or_refused v ts with ⟨e', rest', left', hat⟩ | ⟨error, hrefused⟩
  · obtain ⟨taken', h'⟩ := hat.run
    cases h.symm.trans h'
    exact hat
  · cases h.symm.trans hrefused.run

/-- An entry that is all of an item is that in any place where the item stands. -/
theorem EntryAt.of_alike {p q u w : List Tree} {e : ε} {left : Option Delimiter}
    (h : EntryAt v (p ++ u) e u left) (hpq : Alike p.length (p ++ u) (q ++ w))
    (hlen : p.length = q.length) : Walk 0 p 0 ∧ EntryAt v (q ++ w) e w left := by
  obtain ⟨taken, hrun⟩ := h.run
  obtain ⟨k, hk, hwalk, hrest, hreads⟩ := (Entry.settled_read v).reads hpq hrun
    (Nat.le_of_eq (by rw [List.length_append, Nat.add_zero, Nat.add_comm]))
  obtain rfl : k = p.length := by
    have hlength := congrArg List.length hrest
    simp only [List.length_drop, List.length_append] at hlength
    omega
  rw [List.take_left] at hwalk
  rw [hlen, List.drop_left] at hreads
  exact ⟨hwalk, entryAt_iff.2 ⟨taken, hreads⟩⟩

theorem EntryAt.walk {p u : List Tree} {e : ε} {left : Option Delimiter} (hu : Closer u)
    (h : EntryAt v (p ++ u) e u left) : Walk 0 p 0 :=
  (h.of_alike (.append hu hu p) rfl).1

/-- An item says by itself what it says in its place. -/
theorem itemSays_detach_iff {p u : List Tree} {e : ε} (hu : Closer u) :
    ItemSays v (detach p) e ↔ EntryAt v (p ++ u) e u none := by
  have halike := alike_detach hu .nil p
  have hlen := length_detach p
  constructor
  · intro h
    rw [ItemSays, ← List.append_nil (detach p)] at h
    exact (h.of_alike (hlen.symm ▸ halike.symm) hlen).2
  · intro h
    rw [ItemSays, ← List.append_nil (detach p)]
    exact (h.of_alike halike hlen.symm).2

/-- Where an entry is followed by something, this is not part of its item. -/
theorem EntryAt.eq_append {rest : List Tree} {e : ε} {left : Option Delimiter}
    (h : EntryAt v ts e rest left) : ∃ p, ts = p ++ rest := by
  obtain ⟨taken, hrun⟩ := h.run
  have halike : Alike ts.length ts ts := by simpa using Alike.append .nil .nil ts
  obtain ⟨k, -, -, hrest, -⟩ := (Entry.settled_read v).reads halike hrun (Nat.le_add_left _ _)
  obtain rfl : rest = ts.drop k := hrest
  exact ⟨ts.take k, (List.take_append_drop k ts).symm⟩

/-- A list of entries says the same as its items, each by itself. -/
theorem entries_iff : Entries v ts es none ↔ List.Forall₂ (ItemSays v) (itemsOf ts) es := by
  constructor
  · intro h
    generalize hleft : (none : Option Delimiter) = left at h
    induction h with
    | nil => exact .nil
    | @last ts e left h =>
      subst hleft
      have hne : ¬ ts.isEmpty := by simpa using h.ne_nil
      rw [← List.append_nil ts] at h
      have hitems : itemsOf ts = [detach ts] := by
        have hitems := (h.walk .nil).itemsAt_append []
        rw [List.append_nil, itemsAt, prepend, if_neg hne] at hitems
        rw [itemsOf, hitems]
        rfl
      rw [hitems]
      exact .cons ((itemSays_detach_iff .nil).2 h) .nil
    | @cons joint ts rest e es left left' h _ ih =>
      obtain ⟨rfl, rfl⟩ : left = none ∧ left' = none := by
        cases left with
        | none => exact ⟨rfl, hleft.symm⟩
        | some => cases hleft
      obtain ⟨p, rfl⟩ := h.eq_append
      have hu := Closer.comma joint rest
      have hitems : itemsOf (p ++ .mark ',' joint :: rest) = detach p :: itemsOf rest := by
        rw [itemsOf, (h.walk hu).itemsAt_append, itemsAt, prepend, List.append_nil]
        rfl
      rw [hitems]
      exact .cons ((itemSays_detach_iff hu).2 h) (ih rfl)
  · intro h
    induction hl : ts.length using Nat.strongRecOn generalizing ts es with
    | _ l ih =>
      subst hl
      rw [itemsOf] at h
      have hfirst := firstItem_itemsAt 0 ts
      generalize itemsAt 0 ts = ps at h hfirst
      cases hfirst with
      | none =>
        cases h
        exact .nil
      | last =>
        obtain ⟨e, _, hsays, hnil, rfl⟩ := List.forall₂_cons_left_iff.1 h
        cases hnil
        have hat := (itemSays_detach_iff .nil).1 hsays
        rw [List.append_nil] at hat
        exact .last hat
      | comma p joint rest =>
        obtain ⟨e, es, hsays, hrest, rfl⟩ := List.forall₂_cons_left_iff.1 h
        have hs := ih rest.length (by simp; omega) hrest rfl
        exact .cons ((itemSays_detach_iff (.comma joint rest)).1 hsays) hs

end Says

/-! ## Attributes -/

theorem forall₂_append_iff {α β : Type} {R : α → β → Prop} {xs ys : List α} {es : List β} :
    List.Forall₂ R (xs ++ ys) es ↔
      ∃ es₁ es₂, List.Forall₂ R xs es₁ ∧ List.Forall₂ R ys es₂ ∧ es = es₁ ++ es₂ := by
  constructor
  · intro h
    induction xs generalizing es with
    | nil => exact ⟨[], es, .nil, h, rfl⟩
    | cons x xs ih =>
      obtain ⟨e, es, hx, hxs, rfl⟩ := List.forall₂_cons_left_iff.1 h
      obtain ⟨es₁, es₂, h₁, h₂, rfl⟩ := ih hxs
      exact ⟨e :: es₁, es₂, .cons hx h₁, h₂, rfl⟩
  · rintro ⟨es₁, es₂, h₁, h₂, rfl⟩
    exact List.rel_append h₁ h₂

namespace Attribute

variable {ε : Type} {v : Vocabulary ε} {a : Attribute} {as : List Attribute} {es : List ε}

/-- The items of an attribute; attributes that are not for records have none. -/
def items (a : Attribute) : List (List Tree) :=
  match a.isRecord, a.body with
  | true, .list content => itemsOf content
  | _, _ => []

/-- An attribute that is a list if it is for records. -/
def IsList (a : Attribute) : Prop := a.isRecord = true → ∃ content, a.body = .list content

theorem items_of_not_isRecord (h : a.isRecord = false) : a.items = [] := by
  rw [items, h]

theorem says_iff : a.Says v es ↔ a.IsList ∧ List.Forall₂ (ItemSays v) a.items es := by
  cases hr : a.isRecord with
  | false =>
    have hp : a.path ≠ [.word "record"] := fun hp => by
      rw [isRecord_iff.2 hp] at hr
      cases hr
    rw [items_of_not_isRecord hr, List.forall₂_nil_left_iff]
    constructor
    · intro h
      cases h with
      | other => exact ⟨fun h => absurd (hr.symm.trans h) Bool.false_ne_true, rfl⟩
      | entries hp' => exact absurd hp' hp
    · rintro ⟨-, rfl⟩
      exact .other hp
  | true =>
    have hp := isRecord_iff.1 hr
    constructor
    · intro h
      cases h with
      | other hp' => exact absurd hp hp'
      | entries _ hb h =>
        refine ⟨fun _ => ⟨_, hb⟩, ?_⟩
        rw [items, hr, hb]
        exact entries_iff.1 h
    · rintro ⟨hlist, h⟩
      obtain ⟨content, hb⟩ := hlist hr
      rw [items, hr, hb] at h
      exact .entries hp hb (entries_iff.2 h)

/-- Attributes say the same as their items, in the order of the source. -/
theorem sayAll_iff : SayAll v as es ↔
    (∀ a ∈ as, a.IsList) ∧ List.Forall₂ (ItemSays v) (as.flatMap items) es := by
  constructor
  · intro h
    induction h with
    | nil => exact ⟨nofun, .nil⟩
    | cons h _ ih =>
      obtain ⟨ha, hes⟩ := says_iff.1 h
      exact ⟨List.forall_mem_cons.2 ⟨ha, ih.1⟩, forall₂_append_iff.2 ⟨_, _, hes, ih.2, rfl⟩⟩
  · rintro ⟨hlist, h⟩
    induction as generalizing es with
    | nil =>
      cases h
      exact .nil
    | cons a as ih =>
      obtain ⟨ha, has⟩ := List.forall_mem_cons.1 hlist
      obtain ⟨es₁, es₂, h₁, h₂, rfl⟩ := forall₂_append_iff.1 h
      exact .cons (says_iff.2 ⟨ha, h₁⟩) (ih has h₂)

end Attribute

end RecordSchema.Declaration
