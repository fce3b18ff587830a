import RecordSchema.Proofs.Declaration.Entries

/-!
# The depth of angle brackets

Angle brackets are no group, so the commas between arguments are trees of the same list as the
commas between entries, and only the depth tells them apart: trees lead from one depth to another
(`Walk`), and a comma ends an entry at depth zero only.

Behind an entry there is a comma or nothing (`Closer`), and the last mark of an entry is joined to
the comma or not. The same entry may stand in two places that differ in this only (`Alike`). The
questions that a grammar asks are answered alike in both, but for some that are asked inside
brackets only, where there is still something left of the entry (`Peek.Near`, `Peek.Inner`).
-/

namespace RecordSchema.Declaration

/-- What stands behind an entry: nothing, or a comma and anything. -/
inductive Closer : List Tree → Prop
  | nil : Closer []
  | comma (joint : Bool) (ts : List Tree) : Closer (.mark ',' joint :: ts)

/-! ## Depth -/

/-- Marks that neither separate nor bracket, nor can be the front of an arrow. -/
def IsPlain (c : Char) : Prop := c ≠ ',' ∧ c ≠ '<' ∧ c ≠ '>' ∧ c ≠ '-'

instance (c : Char) : Decidable (IsPlain c) :=
  inferInstanceAs (Decidable (c ≠ ',' ∧ c ≠ '<' ∧ c ≠ '>' ∧ c ≠ '-'))

/-- Whether an operator is made of such marks. -/
def isPlainOperator (o : String) : Bool := o != "" && o.toList.all fun c => decide (IsPlain c)

theorem isPlainOperator_iff {o : String} :
    isPlainOperator o = true ↔ o ≠ "" ∧ ∀ c ∈ o.toList, IsPlain c := by
  simp [isPlainOperator]

/-- Trees that lead from one depth of angle brackets to another. Commas stand inside brackets only,
and the head of an arrow is no bracket. -/
inductive Walk : Nat → List Tree → Nat → Prop
  | nil {i : Nat} : Walk i [] i
  | word {i j : Nat} {ts : List Tree} (w : String) (h : Walk i ts j) : Walk i (.word w :: ts) j
  | literal {i j : Nat} {ts : List Tree} (l : String) (h : Walk i ts j) :
    Walk i (.literal l :: ts) j
  | group {i j : Nat} {ts : List Tree} (d : Delimiter) (body : List Tree) (h : Walk i ts j) :
    Walk i (.group d body :: ts) j
  | plain {i j : Nat} {ts : List Tree} {c : Char} (joint : Bool) (hc : IsPlain c)
    (h : Walk i ts j) : Walk i (.mark c joint :: ts) j
  | minus {i j : Nat} {ts : List Tree} (joint : Bool) (l : String) (h : Walk i ts j) :
    Walk i (.mark '-' joint :: .literal l :: ts) j
  | arrow {i j : Nat} {ts : List Tree} (joint : Bool) (h : Walk i ts j) :
    Walk i (.mark '-' true :: .mark '>' joint :: ts) j
  | comma {i j : Nat} {ts : List Tree} (joint : Bool) (h : Walk (i + 1) ts j) :
    Walk (i + 1) (.mark ',' joint :: ts) j
  | opens {i j : Nat} {ts : List Tree} (joint : Bool) (h : Walk (i + 1) ts j) :
    Walk i (.mark '<' joint :: ts) j
  | closes {i j : Nat} {ts : List Tree} (joint : Bool) (h : Walk i ts j) :
    Walk (i + 1) (.mark '>' joint :: ts) j

theorem Walk.append {i j k : Nat} {ts us : List Tree} (h : Walk i ts j) (hs : Walk j us k) :
    Walk i (ts ++ us) k := by
  induction h with
  | nil => exact hs
  | word w _ ih => exact .word w (ih hs)
  | literal l _ ih => exact .literal l (ih hs)
  | group d body _ ih => exact .group d body (ih hs)
  | plain joint hc _ ih => exact .plain joint hc (ih hs)
  | minus joint l _ ih => exact .minus joint l (ih hs)
  | arrow joint _ ih => exact .arrow joint (ih hs)
  | comma joint _ ih => exact .comma joint (ih hs)
  | opens joint _ ih => exact .opens joint (ih hs)
  | closes joint _ ih => exact .closes joint (ih hs)

/-! ## Entries in two places -/

/-- The same entry, of which as many trees are left as the number says, in two places. -/
inductive Alike : Nat → List Tree → List Tree → Prop
  | behind {u v : List Tree} (hu : Closer u) (hv : Closer v) : Alike 0 u v
  | last {u v : List Tree} (c : Char) (joint joint' : Bool) (hu : Closer u) (hv : Closer v) :
    Alike 1 (.mark c joint :: u) (.mark c joint' :: v)
  | cons {n : Nat} {xs ys : List Tree} (t : Tree) (h : Alike n xs ys) :
    Alike (n + 1) (t :: xs) (t :: ys)

namespace Alike

variable {n : Nat} {xs ys : List Tree}

theorem append {u v : List Tree} (hu : Closer u) (hv : Closer v) (ts : List Tree) :
    Alike ts.length (ts ++ u) (ts ++ v) := by
  induction ts with
  | nil => exact .behind hu hv
  | cons t ts ih => exact .cons t ih

theorem symm (h : Alike n xs ys) : Alike n ys xs := by
  induction h with
  | behind hu hv => exact .behind hv hu
  | last c joint joint' hu hv => exact .last c joint' joint hv hu
  | cons t _ ih => exact .cons t ih

theorem le_length (h : Alike n xs ys) : n ≤ xs.length := by
  induction h with
  | behind | last => simp
  | cons _ _ ih => exact Nat.succ_le_succ ih

theorem drop (h : Alike n xs ys) {k : Nat} (hk : k ≤ n) :
    Alike (n - k) (xs.drop k) (ys.drop k) := by
  induction h generalizing k with
  | behind hu hv =>
    obtain rfl := Nat.le_zero.1 hk
    exact .behind hu hv
  | last c joint joint' hu hv =>
    match k with
    | 0 => exact .last c joint joint' hu hv
    | 1 => exact .behind hu hv
  | cons t h ih =>
    match k with
    | 0 => exact .cons t h
    | k + 1 =>
      rw [Nat.add_sub_add_right]
      exact ih (Nat.le_of_succ_le_succ hk)

/-- Trees before the last one are the same. -/
theorem take_eq (h : Alike n xs ys) {k : Nat} (hk : k < n) : xs.take k = ys.take k := by
  induction h generalizing k with
  | behind => omega
  | last =>
    obtain rfl : k = 0 := by omega
    rfl
  | cons t _ ih =>
    cases k with
    | zero => rfl
    | succ k => exact congrArg (t :: ·) (ih (Nat.lt_of_succ_lt_succ hk))

end Alike

/-! ## Questions -/

namespace Peek

/-- A question that is answered without a look at what is behind the entry. -/
def Near (p : Peek) : Prop :=
  ∀ ⦃n : Nat⦄ ⦃xs ys : List Tree⦄, Alike n xs ys → p.holds xs = p.holds ys

/-- A question that is answered so as long as something is left of the entry. -/
def Inner (p : Peek) : Prop :=
  ∀ ⦃n : Nat⦄ ⦃xs ys : List Tree⦄, Alike (n + 1) xs ys → p.holds xs = p.holds ys

/-- A question that is answered with no at the end of an entry. -/
def Silent (p : Peek) : Prop := ∀ ⦃u : List Tree⦄, Closer u → p.holds u = false

variable {p q : Peek}

theorem Near.inner (h : p.Near) : p.Inner := fun _ _ _ hxy => h hxy

theorem Near.or (hp : p.Near) (hq : q.Near) : (p ||| q).Near := by
  intro n xs ys h
  rw [holds_or, holds_or, hp h, hq h]

theorem Near.and (hp : p.Near) (hq : q.Near) : (p &&& q).Near := by
  intro n xs ys h
  rw [holds_and, holds_and, hp h, hq h]

theorem Near.not (hp : p.Near) : (~~~p).Near := by
  intro n xs ys h
  rw [holds_not, holds_not, hp h]

theorem Near.onlyIf (hp : p.Near) (b : Bool) : (onlyIf b p).Near :=
  fun _ _ _ h => congrArg (b && ·) (hp h)

theorem Inner.not (hp : p.Inner) : (~~~p).Inner := by
  intro n xs ys h
  rw [holds_not, holds_not, hp h]

/-- Behind a question that is answered with no at the end others are not asked there. -/
theorem Near.and_inner (hp : p.Near) (hs : p.Silent) (hq : q.Inner) : (p &&& q).Near := by
  intro n xs ys h
  rw [holds_and, holds_and]
  cases n with
  | zero =>
    cases h with
    | behind hu hv => rw [hs hu, hs hv, Bool.false_and, Bool.false_and]
  | succ n => rw [hp h, hq h]

/-- A question about the first tree alone, which is answered for marks whatever they are joined
to. -/
theorem inner_of_head (h : ∀ t us vs, p.holds (t :: us) = p.holds (t :: vs))
    (hm : ∀ c b b' us, p.holds (.mark c b :: us) = p.holds (.mark c b' :: us)) : p.Inner := by
  intro n xs ys hxy
  cases hxy with
  | last c b b' => exact (hm c b b' _).trans (h _ _ _)
  | cons t => exact h t _ _

theorem near_of_head (h : ∀ t us vs, p.holds (t :: us) = p.holds (t :: vs))
    (hm : ∀ c b b' us, p.holds (.mark c b :: us) = p.holds (.mark c b' :: us)) (hs : p.Silent) :
    p.Near := by
  intro n xs ys hxy
  cases n with
  | zero =>
    cases hxy with
    | behind hu hv => exact (hs hu).trans (hs hv).symm
  | succ n => exact inner_of_head h hm hxy

theorem silent_words (ws : List String) : (words ws).Silent := by
  rintro _ (_ | _) <;> rfl

theorem silent_name : name.Silent := by
  rintro _ (_ | _) <;> rfl

theorem silent_lifetime : lifetime.Silent := by
  rintro _ (_ | _) <;> rfl

theorem near_words (ws : List String) : (words ws).Near :=
  near_of_head (by rintro (_ | _ | _ | _) us vs <;> rfl) (fun _ _ _ _ => rfl) (silent_words ws)

theorem near_word (w : String) : (word w).Near := near_words [w]

theorem near_name : name.Near :=
  near_of_head (by rintro (_ | _ | _ | _) us vs <;> rfl) (fun _ _ _ _ => rfl) silent_name

theorem near_anyWord : anyWord.Near :=
  near_of_head (by rintro (_ | _ | _ | _) us vs <;> rfl) (fun _ _ _ _ => rfl)
    (by rintro _ (_ | _) <;> rfl)

theorem near_string : string.Near :=
  near_of_head (by rintro (_ | _ | _ | _) us vs <;> rfl) (fun _ _ _ _ => rfl)
    (by rintro _ (_ | _) <;> rfl)

theorem near_group (d : Delimiter) : (group d).Near :=
  near_of_head (by rintro (_ | _ | _ | _) us vs <;> rfl) (fun _ _ _ _ => rfl)
    (by rintro _ (_ | _) <;> rfl)

theorem near_inside (d : Delimiter) (p : Peek) : (inside d p).Near :=
  near_of_head (by rintro (_ | _ | _ | _) us vs <;> rfl) (fun _ _ _ _ => rfl)
    (by rintro _ (_ | _) <;> rfl)

theorem inner_atEnd : atEnd.Inner := inner_of_head (fun _ _ _ => rfl) fun _ _ _ _ => rfl

theorem near_lifetime : lifetime.Near := by
  intro n xs ys h
  cases h with
  | behind hu hv => exact (silent_lifetime hu).trans (silent_lifetime hv).symm
  | last c b b' hu hv => cases hu <;> cases hv <;> (unfold lifetime; grind)
  | cons t h =>
    cases h with
    | behind hu hv => cases hu <;> cases hv <;> (unfold lifetime; grind)
    | last | cons => unfold lifetime; grind

theorem number?_of_alike {n : Nat} {xs ys : List Tree} (h : Alike n xs ys) :
    number? xs = number? ys := by
  cases h with
  | behind hu hv => cases hu <;> cases hv <;> rfl
  | last c b b' hu hv => cases hu <;> cases hv <;> (unfold number?; grind)
  | cons t h =>
    cases h with
    | behind hu hv => cases hu <;> cases hv <;> (unfold number?; grind)
    | last | cons => unfold number?; grind

theorem near_literal : literal.Near := by
  intro n xs ys h
  have hnumber := congrArg Option.isSome (number?_of_alike h)
  cases h with
  | behind hu hv => cases hu <;> cases hv <;> rfl
  | last => exact hnumber
  | cons t =>
    cases t with
    | mark => exact hnumber
    | word | literal | group => rfl

theorem startsWithOperator_closer {cs : List Char} (h : ',' ∉ cs) (hne : cs ≠ []) {u : List Tree}
    (hu : Closer u) : startsWithOperator cs u = false := by
  match cs, hu with
  | [c], .nil | c :: d :: cs, .nil => rfl
  | [c], .comma joint ts =>
    have hc : c ≠ ',' := fun heq => h (heq ▸ List.mem_cons_self ..)
    simpa [startsWithOperator] using hc
  | c :: d :: cs, .comma true ts =>
    have hc : c ≠ ',' := fun heq => h (heq ▸ List.mem_cons_self ..)
    simp only [startsWithOperator, beq_false_of_ne hc, Bool.false_and]
  | c :: d :: cs, .comma false ts => rfl

/-- An operator without a comma in it, or one that stands within the entry. -/
theorem startsWithOperator_of_alike {n : Nat} {xs ys : List Tree} (h : Alike n xs ys)
    {cs : List Char} (hcs : ',' ∉ cs ∨ cs.length ≤ n) :
    startsWithOperator cs xs = startsWithOperator cs ys := by
  induction h generalizing cs with
  | behind hu hv =>
    by_cases hne : cs = []
    · subst hne
      simp [startsWithOperator]
    · have hsep : ',' ∉ cs :=
        hcs.resolve_right fun hle => hne (List.length_eq_zero_iff.1 (Nat.le_zero.1 hle))
      exact (startsWithOperator_closer hsep hne hu).trans
        (startsWithOperator_closer hsep hne hv).symm
  | last c b b' hu hv =>
    rcases cs with _ | ⟨d, _ | ⟨e, cs⟩⟩
    · simp [startsWithOperator]
    · rfl
    · -- no closer goes on with an operator
      have hsep : ',' ∉ e :: cs := by
        refine fun hmem => hcs.elim (fun h => h (List.mem_cons_of_mem _ hmem)) fun hle => ?_
        simp at hle
      have hno {b : Bool} {u : List Tree} (hu : Closer u) :
          startsWithOperator (d :: e :: cs) (.mark c b :: u) = false := by
        cases b with
        | false => rfl
        | true =>
          rw [startsWithOperator, startsWithOperator_closer hsep (List.cons_ne_nil e cs) hu, Bool.and_false]
          simp
      exact (hno hu).trans (hno hv).symm
  | cons t _ ih =>
    rcases cs with _ | ⟨c, _ | ⟨d, cs⟩⟩
    · simp [startsWithOperator]
    · cases t <;> rfl
    · have hcs' : ',' ∉ d :: cs ∨ (d :: cs).length ≤ _ :=
        hcs.imp (mt (List.mem_cons_of_mem _)) Nat.le_of_succ_le_succ
      cases t with
      | mark e joint =>
        cases joint with
        | false => rfl
        | true => simp only [startsWithOperator, ih hcs']
      | word | literal | group => rfl

theorem near_op {o : String} (h : ',' ∉ o.toList) : (op o).Near :=
  fun _ _ _ hxy => startsWithOperator_of_alike hxy (.inl h)

/-- An operator of one mark is looked for in one tree. -/
theorem inner_op {o : String} (h : o.length = 1) : (op o).Inner :=
  fun _ _ _ hxy => startsWithOperator_of_alike hxy (.inr (by rw [String.length_toList]; omega))

theorem holds_ops_congr {os : List String} {xs ys : List Tree}
    (h : ∀ o ∈ os, (op o).holds xs = (op o).holds ys) : (ops os).holds xs = (ops os).holds ys := by
  show os.any _ = os.any _
  rw [Bool.eq_iff_iff, List.any_eq_true, List.any_eq_true]
  exact exists_congr fun o => and_congr_right fun ho => by rw [h o ho]

theorem near_ops {os : List String} (h : ∀ o ∈ os, ',' ∉ o.toList) : (ops os).Near :=
  fun _ _ _ hxy => holds_ops_congr fun o ho => near_op (h o ho) hxy

theorem inner_ops {os : List String} (h : ∀ o ∈ os, o.length = 1) : (ops os).Inner :=
  fun _ _ _ hxy => holds_ops_congr fun o ho => inner_op (h o ho) hxy

theorem near_opBut {o : String} {others : List String} (ho : ',' ∉ o.toList)
    (h : ∀ o ∈ others, ',' ∉ o.toList) : (opBut o others).Near :=
  (near_op ho).and (near_ops h).not

theorem alike_afterTree {n : Nat} {xs ys : List Tree} (h : Alike (n + 1) xs ys) :
    ∃ m, Alike m (afterTree xs) (afterTree ys) := by
  cases h with
  | last c b b' hu hv =>
    have hno {b : Bool} {u : List Tree} (hu : Closer u) : afterTree (.mark c b :: u) = u := by
      cases hu <;> (unfold afterTree; grind)
    rw [hno hu, hno hv]
    exact ⟨0, .behind hu hv⟩
  | cons t h =>
    cases h with
    | behind hu hv =>
      have hno {u : List Tree} (hu : Closer u) : afterTree (t :: u) = u := by
        cases hu <;> (unfold afterTree; grind)
      rw [hno hu, hno hv]
      exact ⟨0, .behind hu hv⟩
    | last c b b' hu hv =>
      have hno {b : Bool} {u : List Tree} : afterTree (t :: .mark c b :: u) = .mark c b :: u := by
        unfold afterTree
        grind
      rw [hno, hno]
      exact ⟨1, .last c b b' hu hv⟩
    | cons t' h =>
      rcases em (∃ w, t = .mark '\x27' true ∧ t' = .word w) with ⟨w, rfl, rfl⟩ | hno
      · exact ⟨_, h⟩
      · have htail (us : List Tree) : afterTree (t :: t' :: us) = t' :: us := by
          unfold afterTree
          grind
        rw [htail, htail]
        exact ⟨_, .cons t' h⟩

theorem Near.second (h : p.Near) : p.second.Inner := by
  intro n xs ys hxy
  obtain ⟨m, hafter⟩ := alike_afterTree hxy
  exact h hafter

/-- What comes after `::` is in the entry if `::` is. -/
theorem Near.separator_third (h : p.Near) : (op "::" &&& p.third).Near := by
  intro n xs ys hxy
  rw [holds_and, holds_and, near_op (o := "::") (by decide) hxy]
  cases hop : (op "::").holds ys with
  | false => rfl
  | true =>
    obtain ⟨more, hmore⟩ := exists_operatorAt (by decide) hop
    obtain ⟨joint, rfl⟩ := operatorAt_separator_iff.1 hmore
    cases hxy with
    | behind _ hv => cases hv
    | last _ _ _ _ hv => cases hv
    | cons _ hxy =>
      cases hxy with
      | behind _ hv => cases hv
      | last _ _ _ hu hv => exact h (.behind hu hv)
      | cons _ hxy => exact h hxy

end Peek

end RecordSchema.Declaration
