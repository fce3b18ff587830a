import RecordSchema.Proofs.Declaration.Depth

/-!
# Readers that do not look behind an entry

A reader that starts at some depth of angle brackets and stops at another one is settled if the
trees it takes lead from the one depth to the other, and if it does the same wherever the entry
stands, provided that it leaves as many trees of the entry as there are brackets still to be closed
(`Reader.Settled`). Outside of brackets this says that a reader does not look behind the entry;
inside of them, that it does not look behind the bracket that has to come. What readers are put
together from keeps readers settled.
-/

namespace RecordSchema.Declaration

namespace Reader

variable {ε δ α β σ : Type} {i j k : Nat}

/-- A reader from one depth of angle brackets to another that does not look behind the entry. -/
structure Settled (i j : Nat) (r : Reader ε α) : Prop where
  length_le : ∀ ⦃xs : List Tree⦄ ⦃a : Reading α⦄, r.run xs = .ok a →
    a.rest.length + i ≤ xs.length + j
  reads : ∀ ⦃n : Nat⦄ ⦃xs ys : List Tree⦄ ⦃a : Reading α⦄, Alike n xs ys → r.run xs = .ok a →
    xs.length + j ≤ a.rest.length + n →
      ∃ k, k + j ≤ n ∧ Walk i (xs.take k) j ∧ a.rest = xs.drop k ∧
        r.run ys = .ok { a with rest := ys.drop k }

/-! ## One reader after another -/

theorem run_bind_eq_ok_iff {r : Reader ε α} {f : α → Reader ε β} {ts : List Tree}
    {c : Reading β} :
    (r >>= f).run ts = .ok c ↔
      ∃ a b, r.run ts = .ok a ∧ (f a.value).run a.rest = .ok b ∧ a.before b = c := by
  rw [run_bind]
  constructor
  · intro h
    split at h
    · cases h
    · next a ha =>
      split at h
      · cases h
      · next b hb => exact ⟨a, b, ha, hb, Except.ok.inj h⟩
  · rintro ⟨a, b, ha, hb, rfl⟩
    simp only [ha, hb]

/-- A reader that takes nothing, and gives something that does not depend on where the entry
stands. -/
theorem settled_of_takes_nothing {r : Reader ε α} (x : List Tree → Reading α)
    (hr : ∀ xs, r.run xs = .ok (x xs)) (hrest : ∀ xs, (x xs).rest = xs)
    (hx : ∀ ⦃n : Nat⦄ ⦃xs ys : List Tree⦄, Alike n xs ys → i ≤ n →
      x ys = { x xs with rest := ys }) : r.Settled i i where
  length_le xs a h := by
    cases (hr xs).symm.trans h
    exact Nat.le_of_eq (by rw [hrest])
  reads n xs ys a hxy h hle := by
    cases (hr xs).symm.trans h
    rw [hrest] at hle
    have hn : i ≤ n := by omega
    exact ⟨0, by omega, .nil, hrest _, (hr ys).trans (congrArg _ (hx hxy hn))⟩

theorem settled_pure (a : α) (i : Nat) : (pure a : Reader ε α).Settled i i :=
  settled_of_takes_nothing (fun ts => { value := a, taken := [], rest := ts }) (fun _ => rfl)
    (fun _ => rfl) fun _ _ _ _ _ => rfl

theorem settled_give (ts : List Tree) (i : Nat) : (give ts : Reader ε Unit).Settled i i :=
  settled_of_takes_nothing (fun rest => { value := (), taken := ts, rest }) (fun _ => rfl)
    (fun _ => rfl) fun _ _ _ _ _ => rfl

theorem settled_ask {p : Peek} (h : p.Near) (i : Nat) : (ask p : Reader ε Bool).Settled i i :=
  settled_of_takes_nothing (fun ts => { value := p.holds ts, taken := [], rest := ts })
    (fun _ => rfl) (fun _ => rfl) fun _ _ _ hxy _ => by simp only [h hxy]

/-- Inside of brackets there is still something left of the entry. -/
theorem settled_ask_inner {p : Peek} (h : p.Inner) (i : Nat) :
    (ask p : Reader ε Bool).Settled (i + 1) (i + 1) := by
  refine settled_of_takes_nothing (fun ts => { value := p.holds ts, taken := [], rest := ts })
    (fun _ => rfl) (fun _ => rfl) fun n xs ys hxy hn => ?_
  obtain ⟨n, rfl⟩ : ∃ m, n = m + 1 := Nat.exists_eq_add_of_le' (by omega)
  simp only [h hxy]

/-- A reader that never gives anything. -/
theorem settled_of_error {r : Reader ε α} (h : ∀ ts a, r.run ts ≠ .ok a) (i j : Nat) :
    r.Settled i j where
  length_le _ a ha := absurd ha (h _ a)
  reads _ _ _ a _ ha _ := absurd ha (h _ a)

theorem settled_refuse (words : String) (i j : Nat) : (refuse words : Read α).Settled i j := by
  refine settled_of_error (fun ts a h => ?_) i j
  cases h

theorem settled_fail (e : ε) (i j : Nat) : (fail e : Reader ε α).Settled i j := by
  refine settled_of_error (fun ts a h => ?_) i j
  cases h

theorem settled_reject (words : String) (i j : Nat) : (reject words : Read α).Settled i j :=
  settled_fail _ i j

theorem Settled.bind {r : Reader ε α} {f : α → Reader ε β} (hr : r.Settled i j)
    (hf : ∀ a, (f a).Settled j k) : (r >>= f).Settled i k where
  length_le xs c h := by
    obtain ⟨a, b, ha, hb, rfl⟩ := run_bind_eq_ok_iff.1 h
    have hfirst := hr.length_le ha
    have hsecond := (hf a.value).length_le hb
    show b.rest.length + i ≤ xs.length + k
    omega
  reads n xs ys c hxy h hle := by
    obtain ⟨a, b, ha, hb, rfl⟩ := run_bind_eq_ok_iff.1 h
    have hsecond := (hf a.value).length_le hb
    replace hle : xs.length + k ≤ b.rest.length + n := hle
    obtain ⟨l, hl, hp, hrest, hfirst⟩ := hr.reads hxy ha (by omega)
    have hxs := hxy.le_length
    rw [hrest] at hb
    obtain ⟨m, hm, hq, hlast, hthen⟩ := (hf a.value).reads (hxy.drop (by omega)) hb
      (by rw [List.length_drop]; omega)
    rw [List.drop_drop] at hlast hthen
    refine ⟨l + m, by omega, ?_, hlast, run_bind_eq_ok_iff.2 ⟨_, _, hfirst, hthen, rfl⟩⟩
    rw [List.take_add]
    exact hp.append hq

theorem Settled.ite {c : Prop} [Decidable c] {r s : Reader ε α} (hr : r.Settled i j)
    (hs : s.Settled i j) : (if c then r else s).Settled i j := by
  by_cases hc : c
  · rwa [if_pos hc]
  · rwa [if_neg hc]

/-- Something that is read under a condition only. -/
theorem Settled.ite_bind {c : Prop} [Decidable c] {r : Reader ε Unit} {f : Unit → Reader ε α}
    (hr : r.Settled i i) (hf : ∀ a, (f a).Settled i j) :
    (if c then r >>= f else f ()).Settled i j :=
  .ite (hr.bind hf) (hf ())

/-- Two ways to go on. -/
theorem Settled.branch {r : Reader ε Bool} {s t : Reader ε α} (hr : r.Settled i j)
    (hs : s.Settled j k) (ht : t.Settled j k) :
    (r >>= fun b => if b = true then s else t).Settled i k :=
  hr.bind fun _ => .ite hs ht

/-- The last reader of several. -/
theorem Settled.last {r : Reader ε α} {f : α → β} (h : r.Settled i j) :
    (r >>= fun a => pure (f a)).Settled i j :=
  h.bind fun a => settled_pure (f a) j

theorem Settled.map {r : Reader ε α} (h : r.Settled i j) (f : α → β) : (f <$> r).Settled i j :=
  h.last

theorem Settled.discard {r : Reader ε α} (h : r.Settled i j) : (discard r).Settled i j :=
  h.last

/-! ## Changed readings -/

/-- A reader that changes what another one gives, but not what it leaves. -/
theorem Settled.of_run {r : Reader ε α} {s : Reader δ β} (h : r.Settled i j)
    (edit : List Tree → Reading α → Reading β)
    (hs : ∀ xs b, s.run xs = .ok b ↔ ∃ a, r.run xs = .ok a ∧ edit xs a = b)
    (hrest : ∀ xs a, (edit xs a).rest = a.rest)
    (hedit : ∀ ⦃n k : Nat⦄ ⦃xs ys : List Tree⦄ ⦃a : Reading α⦄, Alike n xs ys → k + j ≤ n →
      a.rest = xs.drop k →
        edit ys { a with rest := ys.drop k } = { edit xs a with rest := ys.drop k }) :
    s.Settled i j where
  length_le xs b hb := by
    obtain ⟨a, ha, rfl⟩ := (hs xs b).1 hb
    rw [hrest]
    exact h.length_le ha
  reads n xs ys b hxy hb hle := by
    obtain ⟨a, ha, rfl⟩ := (hs xs b).1 hb
    rw [hrest] at hle
    obtain ⟨k, hk, hp, har, hreads⟩ := h.reads hxy ha hle
    exact ⟨k, hk, hp, (hrest _ _).trans har, (hs _ _).2 ⟨_, hreads, hedit hxy hk har⟩⟩

theorem Settled.held {r : Reader ε α} (h : r.Settled i j) : r.held.Settled i j := by
  refine h.of_run (fun _ a => { a with value := (a.value, a.taken), taken := [] }) ?_
    (fun _ _ => rfl) fun _ _ _ _ _ _ _ _ => rfl
  intro ts b
  simp only [Reader.held]
  cases r.run ts <;> simp

theorem Settled.spelled {r : Reader ε α} (h : r.Settled i j) : (spelled r).Settled i j :=
  h.held.bind fun x => (settled_give x.2 j).bind fun _ => settled_pure x.2 j

theorem Settled.mapError {r : Reader ε α} (h : r.Settled i j) (f : ε → δ) :
    (mapError f r).Settled i j := by
  refine h.of_run (fun _ a => a) ?_ (fun _ _ => rfl) fun _ _ _ _ _ _ _ _ => rfl
  intro ts b
  simp only [Reader.mapError]
  cases r.run ts <;> simp [Except.mapError]

/-- What is spelled as it stands is the same as long as it is not the end of the entry. -/
theorem Settled.verbatimIf {r : Reader ε (Bool × α)} (h : r.Settled i (j + 1)) :
    (verbatimIf r).Settled i (j + 1) := by
  refine h.of_run
    (fun ts a => { a with
      value := a.value.2
      taken := if a.value.1 then ts.take (ts.length - a.rest.length) else a.taken })
    ?_ (fun _ _ => rfl) ?_
  · intro ts b
    simp only [Reader.verbatimIf]
    cases r.run ts <;> simp
  · intro n k xs ys a hxy hk har
    have htake :
        xs.take (xs.length - a.rest.length) = ys.take (ys.length - (ys.drop k).length) := by
      have hxs := hxy.le_length
      have hys := hxy.symm.le_length
      rw [har, List.length_drop, List.length_drop, Nat.sub_sub_self (by omega),
        Nat.sub_sub_self (by omega)]
      exact hxy.take_eq (by omega)
    simp only [htake]

/-! ## Taking trees -/

theorem settled_take {g : List Tree → Except ε (α × List Tree × Nat)}
    (hn : ∀ ⦃xs a taken k⦄, g xs = .ok (a, taken, k) → k ≤ xs.length ∧ i ≤ k + j)
    (hg : ∀ ⦃n xs ys a taken k⦄, Alike n xs ys → g xs = .ok (a, taken, k) → k + j ≤ n →
      Walk i (xs.take k) j ∧ g ys = .ok (a, taken, k)) : (take g).Settled i j where
  length_le xs a h := by
    simp only [take] at h
    split at h
    · cases h
    · next hok =>
      cases h
      have hn := hn hok
      rw [List.length_drop]
      omega
  reads n xs ys a hxy h hle := by
    simp only [take] at h
    split at h
    · cases h
    · next x taken k hok =>
      cases h
      have hlen := (hn hok).1
      rw [List.length_drop] at hle
      have hk : k + j ≤ n := by omega
      obtain ⟨hwalk, hys⟩ := hg hxy hok hk
      exact ⟨k, hk, hwalk, rfl, run_take_of_ok hys⟩

/-- A reader that takes one tree, which is no mark, by what this is. -/
theorem settled_take_one {g : List Tree → Except ε (α × List Tree × Nat)}
    (hnil : ∀ x, g [] ≠ .ok x)
    (h : ∀ t us x, g (t :: us) = .ok x →
      x.2.2 = 1 ∧ (∀ c b, t ≠ .mark c b) ∧ Walk i [t] i ∧ ∀ vs, g (t :: vs) = .ok x) :
    (take g).Settled i i := by
  refine settled_take ?_ ?_
  · intro xs a taken k hok
    cases xs with
    | nil => exact absurd hok (hnil _)
    | cons t ts =>
      obtain ⟨rfl, -⟩ := h t ts _ hok
      simp
  · intro n xs ys a taken k hxy hok hle
    cases hxy with
    | behind hu hv =>
      cases hu with
      | nil => exact absurd hok (hnil _)
      | comma => exact absurd rfl ((h _ _ _ hok).2.1 _ _)
    | last => exact absurd rfl ((h _ _ _ hok).2.1 _ _)
    | cons t =>
      obtain ⟨rfl, -, hwalk, hys⟩ := h t _ _ hok
      exact ⟨hwalk, hys _⟩

theorem settled_anyWord (i : Nat) : anyWord.Settled i i := by
  refine settled_take_one (fun _ => nofun) ?_
  rintro (w | _ | _ | _) us x h
  all_goals cases h
  exact ⟨rfl, nofun, .word w .nil, fun _ => rfl⟩

theorem settled_name (i : Nat) : name.Settled i i := by
  refine settled_take_one (fun _ => nofun) ?_
  rintro (w | _ | _ | _) us x h
  · simp only at h
    split at h
    · next hw =>
      cases h
      exact ⟨rfl, nofun, .word w .nil, fun _ => if_pos hw⟩
    · cases h
  all_goals cases h

theorem settled_string (i : Nat) : string.Settled i i := by
  refine settled_take_one (fun _ => nofun) ?_
  rintro (_ | _ | l | _) us x h
  · cases h
  · cases h
  · simp only at h
    split at h
    · next s hs =>
      cases h
      exact ⟨rfl, nofun, .literal l .nil, fun _ => by simp only [hs]⟩
    · cases h
  · cases h

theorem settled_anyGroup (i : Nat) : anyGroup.Settled i i := by
  refine settled_take_one (fun _ => nofun) ?_
  rintro (_ | _ | _ | ⟨d, body⟩) us x h
  all_goals cases h
  exact ⟨rfl, nofun, .group d body .nil, fun _ => rfl⟩

theorem holds_word_cons {w : String} {t : Tree} {us : List Tree}
    (h : (Peek.word w).holds (t :: us) = true) : ∃ v, t = .word v := by
  match t with
  | .word v => exact ⟨v, rfl⟩
  | .mark .. | .literal _ | .group .. => cases h

theorem settled_word (w : String) (i : Nat) : (word w).Settled i i := by
  refine settled_take_one (fun _ => nofun) ?_
  intro t us x h
  split at h
  · next hw =>
    cases h
    obtain ⟨v, rfl⟩ := holds_word_cons hw
    exact ⟨rfl, nofun, .word v .nil, fun _ => if_pos hw⟩
  · cases h

theorem settled_tryWord (w : String) (i : Nat) : (tryWord w : Reader ε Bool).Settled i i := by
  refine settled_take ?_ ?_
  · intro xs a taken k h
    split at h
    · next hw =>
      cases h
      cases xs with
      | nil => cases hw
      | cons t ts => simp
    · cases h
      simp
  · intro n xs ys a taken k hxy h hle
    have hword := Peek.near_word w hxy
    split at h
    · next hw =>
      cases h
      refine ⟨?_, if_pos (hword ▸ hw)⟩
      cases xs with
      | nil => cases hw
      | cons t ts =>
        obtain ⟨v, rfl⟩ := holds_word_cons hw
        exact .word v .nil
    · next hw =>
      cases h
      exact ⟨.nil, if_neg (hword ▸ hw)⟩

theorem settled_lifetime (i : Nat) : lifetime.Settled i i := by
  refine settled_take ?_ ?_
  · intro xs a taken k h
    split at h
    · cases h
      simp
    · cases h
  · intro n xs ys a taken k hxy h hle
    split at h
    · next w more =>
      cases h
      cases hxy with
      | behind | last => omega
      | cons _ hxy =>
        cases hxy with
        | behind => omega
        | cons => exact ⟨.plain true (by decide) (.word w .nil), rfl⟩
    · cases h

theorem number?_eq_some {ts : List Tree} {x : Bool × String} (h : number? ts = some x)
    (hl : ∀ l us, ts ≠ .literal l :: us) :
    ∃ joint l us, ts = .mark '-' joint :: .literal l :: us := by
  unfold number? at h
  split at h
  · exact absurd rfl (hl _ _)
  · exact ⟨_, _, _, rfl⟩
  · cases h

theorem settled_literal (i : Nat) : literal.Settled i i := by
  refine settled_take ?_ ?_
  · intro xs a taken k h
    split at h
    · cases h
      simp
    · split at h
      · cases h
        simp
      · cases h
    · next hliteral _ =>
      split at h
      · next hnumber =>
        obtain ⟨_, _, _, rfl⟩ := number?_eq_some hnumber hliteral
        cases h
        simp
      · cases h
  · intro n xs ys a taken k hxy h hle
    match xs with
    | [] => cases h
    | .literal l :: xs =>
      cases h
      cases hxy with
      | behind => omega
      | cons => exact ⟨.literal l .nil, rfl⟩
    | .word w :: xs =>
      simp only at h
      split at h
      · next hw =>
        cases h
        cases hxy with
        | behind => omega
        | cons => exact ⟨.word w .nil, if_pos hw⟩
      · cases h
    | .group .. :: xs => cases h
    | .mark c joint :: xs =>
      simp only at h
      split at h
      · next sign l hnumber =>
        obtain ⟨_, l', _, heq⟩ := number?_eq_some hnumber nofun
        have hys := (Peek.number?_of_alike hxy).symm.trans hnumber
        cases heq
        cases h
        cases hxy with
        | behind | last => omega
        | cons => exact ⟨.minus joint l' .nil, by simp only [hys]⟩
      · cases h

/-! ## Operators -/

/-- The marks of an operator that stands at the front. -/
theorem operatorAt_take {cs : List Char} {xs : List Tree} (h : startsWithOperator cs xs = true)
    (hne : cs ≠ []) : OperatorAt cs (xs.take cs.length) [] := by
  obtain ⟨rest, hop⟩ := exists_operatorAt hne h
  clear h hne
  induction hop with
  | one => exact .one
  | more _ ih => exact .more ih

theorem length_le_of_startsWithOperator {cs : List Char} {ts : List Tree}
    (h : startsWithOperator cs ts = true) : cs.length ≤ ts.length := by
  by_cases hne : cs = []
  · simp [hne]
  · obtain ⟨rest, hop⟩ := exists_operatorAt hne h
    clear h hne
    induction hop with
    | one => simp
    | more _ ih => simpa using ih

/-- The marks of an operator that neither separates nor brackets. -/
theorem walk_of_operatorAt {cs : List Char} (hcs : ∀ c ∈ cs, IsPlain c) {p : List Tree}
    (h : OperatorAt cs p []) (i : Nat) : Walk i p i := by
  generalize hrest : ([] : List Tree) = rest at h
  induction h with
  | one =>
    subst hrest
    exact .plain _ (hcs _ (List.mem_singleton_self _)) .nil
  | more _ ih =>
    obtain ⟨hc, hcs⟩ := List.forall_mem_cons.1 hcs
    exact .plain true hc (ih hcs hrest)

section op

variable {o : String}

theorem settled_op (ho : o ≠ "") (hw : ∀ p, OperatorAt o.toList p [] → Walk i p j)
    (hij : i ≤ o.length + j) : (op o).Settled i j := by
  have hne : o.toList ≠ [] := by simpa using ho
  refine settled_take ?_ ?_
  · intro xs a taken k h
    split at h
    · next hop =>
      cases h
      exact ⟨String.length_toList ▸ length_le_of_startsWithOperator hop, hij⟩
    · cases h
  · intro n xs ys a taken k hxy h hle
    split at h
    · next hop =>
      cases h
      have hat := operatorAt_take hop hne
      have hys : (Peek.op o).holds xs = (Peek.op o).holds ys :=
        Peek.startsWithOperator_of_alike hxy (.inr (by rw [String.length_toList]; omega))
      rw [String.length_toList] at hat
      exact ⟨hw _ hat, if_pos (hys ▸ hop)⟩
    · cases h

theorem settled_tryOp (ho : o ≠ "") (hsep : ',' ∉ o.toList)
    (hw : ∀ p, OperatorAt o.toList p [] → Walk i p i) : (tryOp o : Reader ε Bool).Settled i i := by
  have hne : o.toList ≠ [] := by simpa using ho
  refine settled_take ?_ ?_
  · intro xs a taken k h
    split at h
    · next hop =>
      cases h
      exact ⟨String.length_toList ▸ length_le_of_startsWithOperator hop, Nat.le_add_left ..⟩
    · cases h
      simp
  · intro n xs ys a taken k hxy h hle
    have hys := Peek.near_op hsep hxy
    split at h
    · next hop =>
      cases h
      have hat := operatorAt_take hop hne
      rw [String.length_toList] at hat
      exact ⟨hw _ hat, if_pos (hys ▸ hop)⟩
    · next hop =>
      cases h
      exact ⟨.nil, if_neg (hys ▸ hop)⟩

theorem settled_op_plain (h : isPlainOperator o = true) (i : Nat) : (op o).Settled i i := by
  obtain ⟨ho, hplain⟩ := isPlainOperator_iff.1 h
  exact settled_op ho (fun _ hp => walk_of_operatorAt hplain hp i) (Nat.le_add_left ..)

theorem settled_tryOp_plain (h : isPlainOperator o = true) (i : Nat) :
    (tryOp o : Reader ε Bool).Settled i i := by
  obtain ⟨ho, hplain⟩ := isPlainOperator_iff.1 h
  exact settled_tryOp ho (fun hmem => (hplain _ hmem).1 rfl)
    fun _ hp => walk_of_operatorAt hplain hp i

end op

theorem settled_comma (i : Nat) : (op ",").Settled (i + 1) (i + 1) := by
  refine settled_op (by decide) (fun p hp => ?_) (Nat.le_add_left ..)
  obtain ⟨joint, rfl⟩ := operatorAt_singleton_iff.1 hp
  exact .comma joint .nil

theorem settled_opening (i : Nat) : (op "<").Settled i (i + 1) := by
  refine settled_op (by decide) (fun p hp => ?_) (Nat.le_add_left_of_le (Nat.le_succ i))
  obtain ⟨joint, rfl⟩ := operatorAt_singleton_iff.1 hp
  exact .opens joint .nil

theorem settled_closing (i : Nat) : (op ">").Settled (i + 1) i := by
  refine settled_op (by decide) (fun p hp => ?_) (Nat.le_of_eq (Nat.add_comm i 1))
  obtain ⟨joint, rfl⟩ := operatorAt_singleton_iff.1 hp
  exact .closes joint .nil

theorem settled_tryArrow (i : Nat) : (tryOp "->" : Reader ε Bool).Settled i i := by
  refine settled_tryOp (by decide) (by decide) fun p hp => ?_
  cases hp with
  | more hp =>
    obtain ⟨joint, rfl⟩ := operatorAt_singleton_iff.1 hp
    exact .arrow joint .nil

theorem ext_run {r s : Reader ε α} (h : ∀ ts, r.run ts = s.run ts) : r = s := by
  cases r
  cases s
  rw [mk.injEq]
  exact funext h

/-- To take an operator if it stands there is to ask for it first. -/
theorem tryOp_bind_eq (o : String) (f : Bool → Read α) :
    tryOp o >>= f = ask (.op o) >>= fun b => if b then (op o >>= fun _ => f true) else f false := by
  refine ext_run fun ts => ?_
  rw [run_ask_bind]
  cases hop : (Peek.op o).holds ts with
  | true =>
    have htry : (tryOp o : Read Bool).run ts =
        .ok { value := true, taken := Tree.operator o.toList, rest := ts.drop o.length } :=
      run_take_of_ok (if_pos hop)
    have htake : (op o).run ts =
        .ok { value := (), taken := Tree.operator o.toList, rest := ts.drop o.length } :=
      run_take_of_ok (if_pos hop)
    rw [if_pos rfl, run_bind, run_bind, htry, htake]
    rfl
  | false =>
    have htry : (tryOp o : Read Bool).run ts =
        .ok { value := false, taken := [], rest := ts.drop 0 } :=
      run_take_of_ok (if_neg (by simp [hop]))
    rw [if_neg Bool.false_ne_true]
    cases h : (f false).run ts with
    | error e => exact run_bind_of_ok_of_error htry h
    | ok b => exact (run_bind_of_ok htry h).trans (by simp [Reading.before])

/-- An opening bracket that is taken if it stands there. -/
theorem Settled.tryOpening {f : Bool → Read α} (htrue : (f true).Settled (i + 1) k)
    (hfalse : (f false).Settled i k) : (tryOp "<" >>= f).Settled i k := by
  rw [tryOp_bind_eq]
  refine (settled_ask (Peek.near_op (by decide)) i).branch ?_ hfalse
  exact (settled_opening i).bind fun _ => htrue

/-! ## Groups -/

/-- Of a group only what is read behind it matters. -/
theorem Settled.groupThen (d : Delimiter) (r : Read α) {next : α → List Tree → Read β}
    (h : ∀ a body, (next a body).Settled i j) : (groupThen d r next).Settled i j where
  length_le xs c hc := by
    simp only [Reader.groupThen] at hc
    split at hc
    · split at hc
      · split at hc
        · cases hc
        · split at hc
          · cases hc
          · next b hb =>
            cases hc
            have hle := (h _ _).length_le hb
            simp only [List.length_cons]
            omega
      · cases hc
    · cases hc
  reads n xs ys c hxy hc hle := by
    rcases xs with _ | ⟨_ | _ | _ | ⟨e, body⟩, xs⟩
    case cons.group =>
      simp only [Reader.groupThen] at hc
      split at hc
      · next hd =>
        split at hc
        · cases hc
        · next a ha =>
          split at hc
          · cases hc
          · next b hb =>
            cases hc
            have hrest := (next a.value a.taken).length_le hb
            rw [List.length_cons] at hle
            replace hle : xs.length + 1 + j ≤ b.rest.length + n := hle
            cases hxy with
            | behind hu => cases hu
            | cons _ hxy =>
              obtain ⟨k, hk, hp, hdrop, hreads⟩ := (h _ _).reads hxy hb (by omega)
              refine ⟨k + 1, by omega, .group e body hp, hdrop, ?_⟩
              simp only [Reader.groupThen, if_pos hd, ha, hreads]
              rfl
      · cases hc
    all_goals cases hc

theorem settled_group (d : Delimiter) (r : Read α) (i : Nat) : (group d r).Settled i i :=
  .groupThen d r fun a _ => (settled_give _ i).bind fun _ => settled_pure a i

/-! ## Reading again and again -/

theorem Settled.iterate {step : σ → Reader ε (Step σ)} (h : ∀ s, (step s).Settled i i) (s : σ) :
    (iterate step s).Settled i i where
  length_le xs a ha := by
    have hle := (Reader.iterate step s).length_le ha
    omega
  reads n xs ys b hxy hb hle := by
    replace hb : repeatRun step s xs = .ok b := hb
    -- by induction on what is left: a step either is the last or makes it shorter
    induction hl : xs.length using Nat.strongRecOn generalizing n xs ys s b with
    | _ l ih =>
      subst hl
      have hxs := hxy.le_length
      have hys := hxy.symm.le_length
      show ∃ k, _ ∧ _ ∧ _ ∧ repeatRun step s ys = _
      rw [repeatRun] at hb
      rw [repeatRun]
      split at hb
      · cases hb
      · next a ha =>
        have hleaves := (h s).reads hxy ha
        split at hb
        · next s' hs' =>
          cases hb
          obtain ⟨k, hk, hp, hrest, hreads⟩ := hleaves hle
          refine ⟨k, hk, hp, hrest, ?_⟩
          simp only [hreads, hs']
        · next s' hs' =>
          split at hb
          · next hlt =>
            split at hb
            · cases hb
            · next b' hb' =>
              cases hb
              have hrest := length_repeatRun_le hb'
              replace hle : xs.length + i ≤ b'.rest.length + n := hle
              obtain ⟨k, hk, hp, har, hreads⟩ := hleaves (by omega)
              rw [har] at hb' hlt
              obtain ⟨m, hm, hq, hlast, hthen⟩ := ih _ hlt s' _ _ _ b' (hxy.drop (by omega))
                (by rw [List.length_drop]; omega) hb' rfl
              rw [List.drop_drop] at hlast hthen
              rw [List.length_drop] at hlt
              have hshorter : (ys.drop k).length < ys.length := by
                rw [List.length_drop]
                omega
              have hagain : repeatRun step s' (ys.drop k) = _ := hthen
              refine ⟨k + m, by omega, ?_, hlast, ?_⟩
              · rw [List.take_add]
                exact hp.append hq
              · simp only [hreads, hs', dif_pos hshorter, hagain]
                rfl
          · next hlt =>
            cases hb
            obtain ⟨k, hk, hp, hrest, hreads⟩ := hleaves hle
            refine ⟨k, hk, hp, hrest, ?_⟩
            have hnot : ¬ (ys.drop k).length < ys.length := by
              rw [hrest, List.length_drop] at hlt
              rw [List.length_drop]
              omega
            simp only [hreads, hs', dif_neg hnot]

theorem Settled.many {p : Peek} {r : Reader ε Unit} (hp : (ask p : Reader ε Bool).Settled i i)
    (hr : r.Settled i i) : (many p r).Settled i i :=
  .iterate (fun _ => hp.branch hr.last (settled_pure _ i)) ()

theorem Settled.series {stop : Peek} {sep : String} {r : Read Unit}
    (hstop : (ask stop : Read Bool).Settled i i) (hsep : (tryOp sep : Read Bool).Settled i i)
    (hr : r.Settled i i) : (series stop sep r).Settled i i := by
  refine .iterate (fun _ => hstop.branch (settled_pure _ i) ?_) false
  exact hr.bind fun _ => hsep.branch (settled_pure _ i) (settled_pure _ i)

theorem Settled.strictSeries {stop : Peek} {sep : String} {r : Read Unit}
    (hstop : (ask stop : Read Bool).Settled i i) (hsep : (op sep).Settled i i)
    (hr : r.Settled i i) : (strictSeries stop sep r).Settled i i := by
  refine .iterate (fun _ => hstop.branch (settled_pure _ i) ?_) false
  exact hr.bind fun _ => hstop.branch (settled_pure _ i) hsep.last

end Reader

end RecordSchema.Declaration
