import RecordSchema.Declaration.Entry
import RecordSchema.Proofs.Result
import RecordSchema.Proofs.Text.Identifier

/-!
# Entries as they are written

What the inside of a `record` attribute looks like if it is accepted, and what is wrong with it if
it is not: keys (`KeyAt`, `KeyRefused`), entries (`EntryAt`, `EntryRefused`) and lists of them
(`Entries`, `FirstRefused`). Of the two relations of a pair, one holds of every list of trees, and
each says what the reader does (`exists_entries_or_refused`, `Entries.run`, `FirstRefused.run`), so
the reader accepts exactly what is written as it has to be, and refuses the first thing that is
not.
-/

namespace RecordSchema.Declaration

/-! ## Running readers -/

namespace Reader

variable {ε δ α β : Type} {r : Reader ε α} {f : α → Reader ε β} {ts : List Tree}

theorem run_bind_of_ok {a : Reading α} {b : Reading β} (ha : r.run ts = .ok a)
    (hb : (f a.value).run a.rest = .ok b) : (r >>= f).run ts = .ok (a.before b) := by
  rw [run_bind, ha]
  simp only [hb]

theorem run_bind_of_ok_of_error {a : Reading α} {e : ε} (ha : r.run ts = .ok a)
    (he : (f a.value).run a.rest = .error e) : (r >>= f).run ts = .error e := by
  rw [run_bind, ha]
  simp only [he]

theorem run_bind_of_error {e : ε} (he : r.run ts = .error e) :
    (r >>= f).run ts = .error e := by
  rw [run_bind, he]

theorem run_mapError_of_ok {g : ε → δ} {a : Reading α} (h : r.run ts = .ok a) :
    (mapError g r).run ts = .ok a := by
  show (r.run ts).mapError g = _
  rw [h]
  rfl

theorem run_mapError_of_error {g : ε → δ} {e : ε} (h : r.run ts = .error e) :
    (mapError g r).run ts = .error (g e) := by
  show (r.run ts).mapError g = _
  rw [h]
  rfl

theorem run_take_of_ok {g : List Tree → Except ε (α × List Tree × Nat)} {a : α}
    {taken : List Tree} {n : Nat} (h : g ts = .ok (a, taken, n)) :
    (take g).run ts = .ok { value := a, taken, rest := ts.drop n } := by
  simp only [take, h]

theorem run_take_of_error {g : List Tree → Except ε (α × List Tree × Nat)} {e : ε}
    (h : g ts = .error e) : (take g).run ts = .error e := by
  simp only [take, h]

/-- Asking takes nothing. -/
theorem run_ask_bind (p : Peek) (f : Bool → Reader ε β) (ts : List Tree) :
    (ask p >>= f).run ts = (f (p.holds ts)).run ts := by
  have hask : (ask p : Reader ε Bool).run ts =
      .ok { value := p.holds ts, taken := [], rest := ts } := rfl
  cases h : (f (p.holds ts)).run ts with
  | error e => exact run_bind_of_ok_of_error hask h
  | ok b =>
    refine (run_bind_of_ok hask h).trans ?_
    simp [Reading.before]

section Many

variable {p : Peek} {r : Reader ε Unit}

/-- One round of reading again and again. -/
def manyStep (p : Peek) (r : Reader ε Unit) : Unit → Reader ε (Step Unit) := fun _ => do
  if ← ask p then
    r
    return .again ()
  else return .last ()

theorem run_manyStep (p : Peek) (r : Reader ε Unit) (ts : List Tree) :
    (manyStep p r ()).run ts =
      if p.holds ts then (r.run ts).map fun a => { a with value := .again () }
      else .ok { value := .last (), taken := [], rest := ts } := by
  rw [manyStep, run_ask_bind]
  split
  · rw [run_bind]
    cases r.run ts <;> simp [Except.map, run_pure, Reading.before]
  · rfl

theorem run_many (p : Peek) (r : Reader ε Unit) (ts : List Tree) :
    (many p r).run ts =
      if p.holds ts then
        match r.run ts with
        | .error e => .error e
        | .ok a =>
          if a.rest.length < ts.length then
            match (many p r).run a.rest with
            | .error e => .error e
            | .ok b => .ok (a.before b)
          else .ok a
      else .ok { value := (), taken := [], rest := ts } := by
  show repeatRun (manyStep p r) () ts = _
  rw [repeatRun, run_manyStep]
  by_cases hp : p.holds ts = true
  · rw [if_pos hp, if_pos hp]
    cases r.run ts with
    | error e => rfl
    | ok a =>
      by_cases hlt : a.rest.length < ts.length
      · simp only [Except.map, dif_pos hlt, if_pos hlt]
        rw [show (many p r).run a.rest = repeatRun (manyStep p r) () a.rest from rfl]
        cases repeatRun (manyStep p r) () a.rest with
        | error e => rfl
        | ok b => rfl
      · simp only [Except.map, dif_neg hlt, if_neg hlt]
  · rw [if_neg hp, if_neg hp]

theorem run_many_of_not (h : p.holds ts = false) :
    (many p r).run ts = .ok { value := (), taken := [], rest := ts } := by
  rw [run_many, h]
  rfl

theorem run_many_of_ok {a b : Reading Unit} (h : p.holds ts = true) (ha : r.run ts = .ok a)
    (hlt : a.rest.length < ts.length) (hb : (many p r).run a.rest = .ok b) :
    (many p r).run ts = .ok (a.before b) := by
  rw [run_many, if_pos h, ha]
  simp only [if_pos hlt, hb]

theorem run_many_of_ok_of_error {a : Reading Unit} {e : ε} (h : p.holds ts = true)
    (ha : r.run ts = .ok a) (hlt : a.rest.length < ts.length)
    (he : (many p r).run a.rest = .error e) : (many p r).run ts = .error e := by
  rw [run_many, if_pos h, ha]
  simp only [if_pos hlt, he]

theorem run_many_of_error {e : ε} (h : p.holds ts = true) (he : r.run ts = .error e) :
    (many p r).run ts = .error e := by
  rw [run_many, if_pos h, he]

end Many

/-- What is spelled is what was taken. -/
theorem run_spelled_of_ok {a : Reading α} (h : r.run ts = .ok a) :
    (spelled r).run ts = .ok { a with value := a.taken } := by
  have hheld : r.held.run ts = .ok { a with value := (a.value, a.taken), taken := [] } := by
    simp only [held, h]
  have hgive : (give a.taken >>= fun _ => pure a.taken : Reader ε (List Tree)).run a.rest =
      .ok { value := a.taken, taken := a.taken ++ [], rest := a.rest } := rfl
  refine (run_bind_of_ok hheld hgive).trans ?_
  simp [Reading.before]

theorem run_spelled_of_error {e : ε} (h : r.run ts = .error e) :
    (spelled r).run ts = .error e := by
  refine run_bind_of_error ?_
  simp only [held, h]

end Reader

/-! ## Operators -/

/-- An operator stands at the front: its marks are joined to one another. -/
inductive OperatorAt : List Char → List Tree → List Tree → Prop
  | one {c : Char} {joint : Bool} {rest : List Tree} : OperatorAt [c] (.mark c joint :: rest) rest
  | more {c d : Char} {cs : List Char} {ts rest : List Tree} (h : OperatorAt (d :: cs) ts rest) :
    OperatorAt (c :: d :: cs) (.mark c true :: ts) rest

theorem OperatorAt.drop_eq {o : List Char} {ts rest : List Tree} (h : OperatorAt o ts rest) :
    ts.drop o.length = rest := by
  induction h with
  | one => rfl
  | more _ ih => exact ih

theorem OperatorAt.startsWithOperator {o : List Char} {ts rest : List Tree}
    (h : OperatorAt o ts rest) : startsWithOperator o ts = true := by
  induction h with
  | one => simp [Declaration.startsWithOperator]
  | more _ ih => simpa [Declaration.startsWithOperator] using ih

theorem exists_operatorAt {o : List Char} {ts : List Tree} (ho : o ≠ [])
    (h : startsWithOperator o ts = true) : ∃ rest, OperatorAt o ts rest := by
  fun_induction startsWithOperator o ts with
  | case1 => exact absurd rfl ho
  | case2 c d joint rest =>
    rw [beq_iff_eq.1 h]
    exact ⟨rest, .one⟩
  | case3 c cs d ts hcs ih =>
    rw [Bool.and_eq_true, beq_iff_eq] at h
    cases cs with
    | nil => exact (hcs rfl).elim
    | cons c' cs =>
      obtain ⟨rest, hrest⟩ := ih (List.cons_ne_nil _ _) h.2
      exact ⟨rest, h.1 ▸ .more hrest⟩
  | case4 => cases h

namespace Reader

variable {ε : Type} {o : String} {ts rest : List Tree}

theorem holds_op (h : OperatorAt o.toList ts rest) : (Peek.op o).holds ts = true :=
  h.startsWithOperator

theorem not_holds_op (ho : o ≠ "") (h : ∀ rest, ¬ OperatorAt o.toList ts rest) :
    (Peek.op o).holds ts = false := by
  rw [Bool.eq_false_iff]
  intro hop
  obtain ⟨rest, hrest⟩ := exists_operatorAt (by simpa using ho) hop
  exact h rest hrest

theorem run_op (h : OperatorAt o.toList ts rest) :
    (op o).run ts = .ok { value := (), taken := Tree.operator o.toList, rest } := by
  rw [← h.drop_eq, String.length_toList]
  exact run_take_of_ok (if_pos (holds_op h))

theorem run_op_of_not (ho : o ≠ "") (h : ∀ rest, ¬ OperatorAt o.toList ts rest) :
    (op o).run ts = .error (.operator o) := by
  refine run_take_of_error (if_neg ?_)
  rw [not_holds_op ho h]
  exact Bool.false_ne_true

theorem run_tryOp (h : OperatorAt o.toList ts rest) :
    (tryOp o : Reader ε Bool).run ts =
      .ok { value := true, taken := Tree.operator o.toList, rest } := by
  rw [← h.drop_eq, String.length_toList]
  exact run_take_of_ok (if_pos (holds_op h))

theorem run_tryOp_of_not (ho : o ≠ "") (h : ∀ rest, ¬ OperatorAt o.toList ts rest) :
    (tryOp o : Reader ε Bool).run ts = .ok { value := false, taken := [], rest := ts.drop 0 } := by
  refine run_take_of_ok (if_neg ?_)
  rw [not_holds_op ho h]
  exact Bool.false_ne_true

end Reader

theorem operatorAt_singleton_iff {c : Char} {ts rest : List Tree} :
    OperatorAt [c] ts rest ↔ ∃ joint, ts = .mark c joint :: rest := by
  constructor
  · rintro (_ | _)
    exact ⟨_, rfl⟩
  · rintro ⟨joint, rfl⟩
    exact .one

/-! ## Keys -/

/-- `::` stands at the front. -/
def SeparatorAt (ts rest : List Tree) : Prop :=
  ∃ joint, ts = .mark ':' true :: .mark ':' joint :: rest

theorem SeparatorAt.length_lt {w : String} {ts rest : List Tree}
    (h : SeparatorAt ts (.word w :: rest)) : rest.length < ts.length := by
  obtain ⟨joint, rfl⟩ := h
  simp only [List.length_cons]
  omega

theorem operatorAt_separator_iff {ts rest : List Tree} :
    OperatorAt "::".toList ts rest ↔ SeparatorAt ts rest := by
  rw [show "::".toList = [':', ':'] from rfl]
  constructor
  · rintro (_ | ⟨_ | _⟩)
    exact ⟨_, rfl⟩
  · rintro ⟨joint, rfl⟩
    exact .more .one

/-- Words with `::` in front of each, as far as there are any, and how they are spelled. -/
inductive NamesAt : List Tree → List Tree → List Tree → Prop
  | nil {ts : List Tree} (h : ∀ rest, ¬ SeparatorAt ts rest) : NamesAt ts [] ts
  | cons {w : String} {ts more names rest : List Tree} (h : SeparatorAt ts (.word w :: more))
    (hs : NamesAt more names rest) :
    NamesAt ts (Tree.operator [':', ':'] ++ .word w :: names) rest

/-- Words with `::` in front of each, and one of them is missing. -/
inductive NamesRefused : List Tree → Refusal → Prop
  | here {ts more : List Tree} (h : SeparatorAt ts more) (hw : ∀ w rest, more ≠ .word w :: rest) :
    NamesRefused ts (.wrong (expected ["ident"]) more.isEmpty)
  | later {w : String} {ts more : List Tree} {why : Refusal} (h : SeparatorAt ts (.word w :: more))
    (hs : NamesRefused more why) : NamesRefused ts why

/-- A `::` at the front, if there is one, and how it is spelled. -/
inductive RootAt : List Tree → List Tree → List Tree → Prop
  | none {ts : List Tree} (h : ∀ rest, ¬ SeparatorAt ts rest) : RootAt ts [] ts
  | some {ts rest : List Tree} (h : SeparatorAt ts rest) :
    RootAt ts (Tree.operator [':', ':']) rest

/-- A key: words with `::` between them and perhaps in front, and how it is spelled. -/
inductive KeyAt : List Tree → List Tree → List Tree → Prop
  | intro {w : String} {ts root more names rest : List Tree} (hr : RootAt ts root (.word w :: more))
    (hn : NamesAt more names rest) : KeyAt ts (root ++ .word w :: names) rest

/-- No key stands at the front, but something else or nothing. -/
inductive KeyRefused : List Tree → Refusal → Prop
  | atEnd {ts root : List Tree} (h : RootAt ts root []) :
    KeyRefused ts (.wrong "expected nested attribute" true)
  | literal {ts root rest : List Tree} (h : RootAt ts root rest)
    (hw : ∀ w more, rest ≠ .word w :: more) (hl : Peek.literal.holds rest = true) :
    KeyRefused ts (.wrong "unexpected literal in nested attribute, expected ident" false)
  | token {ts root rest : List Tree} (h : RootAt ts root rest) (he : rest ≠ [])
    (hw : ∀ w more, rest ≠ .word w :: more) (hl : Peek.literal.holds rest = false) :
    KeyRefused ts (.wrong "unexpected token in nested attribute, expected ident" false)
  | names {w : String} {ts root rest : List Tree} {why : Refusal}
    (h : RootAt ts root (.word w :: rest)) (hn : NamesRefused rest why) : KeyRefused ts why

theorem namesAt_or_refused (ts : List Tree) :
    (∃ names rest, NamesAt ts names rest) ∨ ∃ why, NamesRefused ts why := by
  induction h : ts.length using Nat.strongRecOn generalizing ts with
  | _ n ih =>
    subst h
    by_cases hsep : ∃ more, SeparatorAt ts more
    · obtain ⟨more, hsep⟩ := hsep
      by_cases hw : ∃ w rest, more = .word w :: rest
      · obtain ⟨w, rest, rfl⟩ := hw
        rcases ih _ hsep.length_lt rest rfl with ⟨names, last, hn⟩ | ⟨why, hn⟩
        · exact .inl ⟨_, last, .cons hsep hn⟩
        · exact .inr ⟨why, .later hsep hn⟩
      · exact .inr ⟨_, .here hsep fun w rest h => hw ⟨w, rest, h⟩⟩
    · exact .inl ⟨[], ts, .nil fun rest h => hsep ⟨rest, h⟩⟩

theorem exists_rootAt (ts : List Tree) : ∃ root rest, RootAt ts root rest := by
  by_cases hsep : ∃ rest, SeparatorAt ts rest
  · obtain ⟨rest, hsep⟩ := hsep
    exact ⟨_, rest, .some hsep⟩
  · exact ⟨[], ts, .none fun rest h => hsep ⟨rest, h⟩⟩

theorem keyAt_or_refused (ts : List Tree) :
    (∃ key rest, KeyAt ts key rest) ∨ ∃ why, KeyRefused ts why := by
  obtain ⟨root, rest, hr⟩ := exists_rootAt ts
  by_cases hw : ∃ w more, rest = .word w :: more
  · obtain ⟨w, more, rfl⟩ := hw
    rcases namesAt_or_refused more with ⟨names, last, hn⟩ | ⟨why, hn⟩
    · exact .inl ⟨_, last, .intro hr hn⟩
    · exact .inr ⟨why, .names hr hn⟩
  · have hw : ∀ w more, rest ≠ .word w :: more := fun w more h => hw ⟨w, more, h⟩
    cases hl : Peek.literal.holds rest with
    | true => exact .inr ⟨_, .literal hr hw hl⟩
    | false =>
      by_cases he : rest = []
      · subst he
        exact .inr ⟨_, .atEnd hr⟩
      · exact .inr ⟨_, .token hr he hw hl⟩

namespace Entry

/-- The words after the first one of a key. -/
def names : Read Unit := Reader.many (.op "::") do
  Reader.op "::"
  discard Reader.anyWord

end Entry

namespace Reader

variable {ε : Type} {ts rest : List Tree}

theorem run_anyWord {w : String} :
    anyWord.run (.word w :: rest) = .ok { value := w, taken := [.word w], rest } := rfl

theorem run_anyWord_of_not (h : ∀ w rest, ts ≠ .word w :: rest) :
    anyWord.run ts = .error (.wrong (expected ["ident"]) ts.isEmpty) := by
  refine run_take_of_error ?_
  split
  · exact absurd rfl (h _ _)
  · rfl

theorem discard_eq {ε α : Type} (r : Reader ε α) : discard r = r >>= fun _ => pure () := rfl

theorem run_discard_of_ok {α : Type} {r : Reader ε α} {a : Reading α} (h : r.run ts = .ok a) :
    (discard r).run ts = .ok { a with value := () } := by
  rw [discard_eq, run_bind_of_ok h (run_pure () a.rest)]
  simp [Reading.before]

theorem run_discard_of_error {α : Type} {r : Reader ε α} {e : ε} (h : r.run ts = .error e) :
    (discard r).run ts = .error e := by
  rw [discard_eq]
  exact run_bind_of_error h

end Reader

theorem NamesAt.run {ts names rest : List Tree} (h : NamesAt ts names rest) :
    Entry.names.run ts = .ok { value := (), taken := names, rest } := by
  induction h with
  | nil h =>
    refine Reader.run_many_of_not (Reader.not_holds_op (by decide) ?_)
    simpa only [operatorAt_separator_iff] using h
  | @cons w ts more names rest h _ ih =>
    have hop := operatorAt_separator_iff.2 h
    have hround : (do Reader.op "::"; discard Reader.anyWord : Read Unit).run ts = .ok
        { value := (), taken := Tree.operator [':', ':'] ++ [.word w], rest := more } := by
      refine (Reader.run_bind_of_ok (Reader.run_op hop)
        (Reader.run_discard_of_ok Reader.run_anyWord)).trans ?_
      rfl
    refine (Reader.run_many_of_ok (Reader.holds_op hop) hround h.length_lt ih).trans ?_
    simp [Reading.before]

theorem NamesRefused.run {ts : List Tree} {why : Refusal} (h : NamesRefused ts why) :
    Entry.names.run ts = .error why := by
  induction h with
  | here h hw =>
    have hop := operatorAt_separator_iff.2 h
    exact Reader.run_many_of_error (Reader.holds_op hop) (Reader.run_bind_of_ok_of_error
      (Reader.run_op hop) (Reader.run_discard_of_error (Reader.run_anyWord_of_not hw)))
  | later h _ ih =>
    have hop := operatorAt_separator_iff.2 h
    exact Reader.run_many_of_ok_of_error (Reader.holds_op hop) (Reader.run_bind_of_ok
      (Reader.run_op hop) (Reader.run_discard_of_ok Reader.run_anyWord)) h.length_lt ih

namespace Entry

/-- A key after the `::` in front of it. -/
def rootless : Read Unit := do
  if ← Reader.ask .anyWord then
    discard Reader.anyWord
    names
  else if ← Reader.ask .atEnd then Reader.refuse "expected nested attribute"
  else if ← Reader.ask .literal then
    Reader.reject "unexpected literal in nested attribute, expected ident"
  else Reader.reject "unexpected token in nested attribute, expected ident"

theorem key_eq : key = (do discard <| Reader.tryOp "::"; rootless) := rfl

end Entry

theorem RootAt.run {ts root rest : List Tree} (h : RootAt ts root rest) :
    (discard (Reader.tryOp "::") : Read Unit).run ts =
      .ok { value := (), taken := root, rest } := by
  cases h with
  | none h =>
    refine Reader.run_discard_of_ok (Reader.run_tryOp_of_not (by decide) ?_)
    simpa only [operatorAt_separator_iff] using h
  | some h => exact Reader.run_discard_of_ok (Reader.run_tryOp (operatorAt_separator_iff.2 h))

theorem KeyAt.run {ts key rest : List Tree} (h : KeyAt ts key rest) :
    Entry.key.run ts = .ok { value := (), taken := key, rest } := by
  obtain ⟨hr, hn⟩ := h
  rename_i w root more names
  have hrest : Entry.rootless.run (.word w :: more) =
      .ok { value := (), taken := .word w :: names, rest } := by
    rw [Entry.rootless, Reader.run_ask_bind]
    exact Reader.run_bind_of_ok (Reader.run_discard_of_ok Reader.run_anyWord) hn.run
  rw [Entry.key_eq]
  exact Reader.run_bind_of_ok (f := fun _ => Entry.rootless) hr.run hrest

theorem holds_anyWord_of_not {ts : List Tree} (hw : ∀ w more, ts ≠ .word w :: more) :
    Peek.anyWord.holds ts = false := by
  match ts with
  | .word w :: more => exact absurd rfl (hw w more)
  | [] | .mark .. :: _ | .literal _ :: _ | .group .. :: _ => rfl

theorem KeyRefused.run {ts : List Tree} {why : Refusal} (h : KeyRefused ts why) :
    Entry.key.run ts = .error why := by
  rw [Entry.key_eq]
  cases h with
  | atEnd h => exact Reader.run_bind_of_ok_of_error h.run rfl
  | @literal _ _ rest h hw hl =>
    refine Reader.run_bind_of_ok_of_error h.run ?_
    have he : Peek.atEnd.holds rest = false := by
      rw [Bool.eq_false_iff]
      intro he
      rw [List.isEmpty_iff.1 he] at hl
      cases hl
    simp only [Entry.rootless, Reader.run_ask_bind, holds_anyWord_of_not hw, he, hl,
      Bool.false_eq_true, if_false, if_true]
    rfl
  | @token _ _ rest h he hw hl =>
    refine Reader.run_bind_of_ok_of_error h.run ?_
    have he : Peek.atEnd.holds rest = false := List.isEmpty_eq_false_iff.2 he
    simp only [Entry.rootless, Reader.run_ask_bind, holds_anyWord_of_not hw, he, hl,
      Bool.false_eq_true, if_false]
    rfl
  | names h hn =>
    refine Reader.run_bind_of_ok_of_error h.run ?_
    rw [Entry.rootless, Reader.run_ask_bind]
    exact Reader.run_bind_of_ok_of_error (Reader.run_discard_of_ok Reader.run_anyWord) hn.run

/-! ## Values -/

/-- What a text has to be for a rule: a name, names with `::` between them, or not blank. -/
def TextRule.Admits : TextRule → String → Prop
  | .tableName, s | .columnName, s => Text.Identifier s
  | .typeName, s | .elementType, s => Text.TypePath s
  | .sqlType, s => ∃ c ∈ s.toList, Text.isBlank c = false

theorem TextRule.admits_iff {rule : TextRule} {s : String} :
    rule.admits s = true ↔ rule.Admits s := by
  cases rule with
  | tableName | columnName => exact Text.isIdentifier_iff
  | typeName | elementType => exact Text.isTypePath_iff
  | sqlType => simp [TextRule.admits, TextRule.Admits]

/-- `=` and a string, and what the string stands for. -/
inductive TextAt : List Tree → String → List Tree → Prop
  | intro {joint : Bool} {l s : String} {rest : List Tree}
    (h : Literal.stringValue? l = some s) : TextAt (.mark '=' joint :: .literal l :: rest) s rest

/-- `=` and a string do not stand at the front. -/
inductive TextRefused : List Tree → Refusal → Prop
  | equals {ts : List Tree} (h : ∀ joint rest, ts ≠ .mark '=' joint :: rest) :
    TextRefused ts (.operator "=")
  | string {joint : Bool} {ts : List Tree}
    (h : ∀ l s rest, ts = .literal l :: rest → Literal.stringValue? l ≠ some s) :
    TextRefused (.mark '=' joint :: ts) (.wrong (expected ["string literal"]) ts.isEmpty)

/-- `=` and a path, how the path is spelled, and the first group in it that is not read to its
end. -/
inductive PathAt : List Tree → List Tree → List Tree → Option Delimiter → Prop
  | intro {joint : Bool} {ts : List Tree} {a : Reading PathShape}
    (h : (Grammar.declarations.path false).run ts = .ok a) :
    PathAt (.mark '=' joint :: ts) a.taken a.rest a.unread

/-- `=` and a path do not stand at the front. -/
inductive PathRefused : List Tree → Refusal → Prop
  | equals {ts : List Tree} (h : ∀ joint rest, ts ≠ .mark '=' joint :: rest) :
    PathRefused ts (.operator "=")
  | path {joint : Bool} {ts : List Tree} {why : Refusal}
    (h : (Grammar.declarations.path false).run ts = .error why) :
    PathRefused (.mark '=' joint :: ts) why

section Entries

variable {ε : Type} {v : Vocabulary ε}

/-- What a form wants after the key, and the entry that this makes. -/
inductive ValueAt : EntryForm ε → List Tree → ε → List Tree → Option Delimiter → Prop
  | flag {e : ε} {ts : List Tree} : ValueAt (.flag e) ts e ts none
  | text {rule : TextRule} {entry : String → ε} {ts rest : List Tree} {s : String}
    (h : TextAt ts s rest) (hs : rule.Admits s) :
    ValueAt (.text rule entry) ts (entry s) rest none
  | path {entry : List Tree → ε} {ts p rest : List Tree} {left : Option Delimiter}
    (h : PathAt ts p rest left) : ValueAt (.path entry) ts (entry p) rest left

/-- What a form wants does not stand after the key. -/
inductive ValueRefused : EntryForm ε → List Tree → DefinitionError → Prop
  | text {rule : TextRule} {entry : String → ε} {ts : List Tree} {why : Refusal}
    (h : TextRefused ts why) : ValueRefused (.text rule entry) ts (.refused why)
  | inadmissible {rule : TextRule} {entry : String → ε} {ts rest : List Tree} {s : String}
    (h : TextAt ts s rest) (hs : ¬ rule.Admits s) :
    ValueRefused (.text rule entry) ts (.invalidText rule s)
  | path {entry : List Tree → ε} {ts : List Tree} {why : Refusal} (h : PathRefused ts why) :
    ValueRefused (.path entry) ts (.refused why)

/-- An entry: a key that the vocabulary knows, and after it what its form wants. -/
inductive EntryAt (v : Vocabulary ε) : List Tree → ε → List Tree → Option Delimiter → Prop
  | intro {ts key more rest : List Tree} {form : EntryForm ε} {e : ε} {left : Option Delimiter}
    (hk : KeyAt ts key more) (hf : v.form? key = some form) (hv : ValueAt form more e rest left) :
    EntryAt v ts e rest left

/-- No entry stands at the front: there is no key, the key is not known, or its value is not what
its form wants. -/
inductive EntryRefused (v : Vocabulary ε) : List Tree → DefinitionError → Prop
  | key {ts : List Tree} {why : Refusal} (h : KeyRefused ts why) : EntryRefused v ts (.refused why)
  | unknown {ts key more : List Tree} (hk : KeyAt ts key more) (hf : v.form? key = none) :
    EntryRefused v ts (.unknownKey key (v.map Prod.fst))
  | value {ts key more : List Tree} {form : EntryForm ε} {error : DefinitionError}
    (hk : KeyAt ts key more) (hf : v.form? key = some form)
    (hv : ValueRefused form more error) : EntryRefused v ts error

/-- Entries with commas between them, and possibly one after the last. -/
inductive Entries (v : Vocabulary ε) : List Tree → List ε → Option Delimiter → Prop
  | nil : Entries v [] [] none
  | last {ts : List Tree} {e : ε} {left : Option Delimiter} (h : EntryAt v ts e [] left) :
    Entries v ts [e] left
  | cons {joint : Bool} {ts rest : List Tree} {e : ε} {es : List ε}
    {left left' : Option Delimiter} (h : EntryAt v ts e (.mark ',' joint :: rest) left)
    (hs : Entries v rest es left') : Entries v ts (e :: es) (left <|> left')

/-- The first place where there are no such entries: one of them is refused, or it is not followed
by a comma. -/
inductive EntriesRefused (v : Vocabulary ε) : List Tree → DefinitionError → Prop
  | here {ts : List Tree} {error : DefinitionError} (h : EntryRefused v ts error)
    (hts : ts ≠ []) : EntriesRefused v ts error
  | comma {ts rest : List Tree} {t : Tree} {e : ε} {left : Option Delimiter}
    (h : EntryAt v ts e (t :: rest) left) (ht : ∀ joint, t ≠ .mark ',' joint) :
    EntriesRefused v ts (.refused (.operator ","))
  | later {joint : Bool} {ts rest : List Tree} {e : ε} {left : Option Delimiter}
    {error : DefinitionError} (h : EntryAt v ts e (.mark ',' joint :: rest) left)
    (hs : EntriesRefused v rest error) : EntriesRefused v ts error

/-! ## Reading values -/

theorem operatorAt_equals_iff {ts rest : List Tree} :
    OperatorAt "=".toList ts rest ↔ ∃ joint, ts = .mark '=' joint :: rest :=
  operatorAt_singleton_iff

theorem run_equals {joint : Bool} {rest : List Tree} :
    (Reader.op "=").run (.mark '=' joint :: rest) =
      .ok { value := (), taken := [.mark '=' false], rest } :=
  Reader.run_op (operatorAt_equals_iff.2 ⟨joint, rfl⟩)

theorem run_equals_of_not {ts : List Tree} (h : ∀ joint rest, ts ≠ .mark '=' joint :: rest) :
    (Reader.op "=").run ts = .error (.operator "=") := by
  refine Reader.run_op_of_not (by decide) fun rest hop => ?_
  obtain ⟨joint, hts⟩ := operatorAt_equals_iff.1 hop
  exact h joint rest hts

namespace Entry

/-- `=` and a string. -/
def textValue : Read String := do
  Reader.op "="
  Reader.string

/-- The entry that a text makes if a rule admits it. -/
def ofText (rule : TextRule) (entry : String → ε) (text : String) : Reader DefinitionError ε :=
  if rule.admits text then return entry text else Reader.fail (.invalidText rule text)

theorem value_text (rule : TextRule) (entry : String → ε) :
    value (.text rule entry) = Reader.mapError .refused textValue >>= ofText rule entry := rfl

theorem value_path (entry : List Tree → ε) :
    value (.path entry) = Reader.mapError .refused (do
      Reader.op "="
      return entry (← Reader.spelled (Grammar.declarations.path false))) := rfl

end Entry

theorem run_string_of_not {ts : List Tree}
    (h : ∀ l s rest, ts = .literal l :: rest → Literal.stringValue? l ≠ some s) :
    Reader.string.run ts = .error (.wrong (expected ["string literal"]) ts.isEmpty) := by
  refine Reader.run_take_of_error ?_
  match ts with
  | .literal l :: rest =>
    cases hl : Literal.stringValue? l with
    | some s => exact absurd hl (h l s rest rfl)
    | none => simp only [hl, List.isEmpty_cons]
  | [] | .word _ :: _ | .mark .. :: _ | .group .. :: _ => rfl

theorem textAt_or_refused (ts : List Tree) :
    (∃ s rest, TextAt ts s rest) ∨ ∃ why, TextRefused ts why := by
  by_cases heq : ∃ joint rest, ts = .mark '=' joint :: rest
  · obtain ⟨joint, rest, rfl⟩ := heq
    by_cases hs : ∃ l s more, rest = .literal l :: more ∧ Literal.stringValue? l = some s
    · obtain ⟨l, s, more, rfl, hs⟩ := hs
      exact .inl ⟨s, more, .intro hs⟩
    · exact .inr ⟨_, .string fun l s more hl hv => hs ⟨l, s, more, hl, hv⟩⟩
  · exact .inr ⟨_, .equals fun joint rest h => heq ⟨joint, rest, h⟩⟩

theorem TextAt.run {ts rest : List Tree} {s : String} (h : TextAt ts s rest) :
    ∃ taken, Entry.textValue.run ts = .ok { value := s, taken, rest } := by
  obtain @⟨joint, l, s, rest, hl⟩ := h
  have hstring : Reader.string.run (.literal l :: rest) =
      .ok { value := s, taken := [.literal l], rest } := by
    refine Reader.run_take_of_ok (n := 1) ?_
    simp only [hl]
  exact ⟨_, Reader.run_bind_of_ok (f := fun _ => Reader.string) run_equals hstring⟩

theorem TextRefused.run {ts : List Tree} {why : Refusal} (h : TextRefused ts why) :
    Entry.textValue.run ts = .error why := by
  cases h with
  | equals h => exact Reader.run_bind_of_error (run_equals_of_not h)
  | string h =>
    exact Reader.run_bind_of_ok_of_error run_equals (run_string_of_not h)

theorem pathAt_or_refused (ts : List Tree) :
    (∃ p rest left, PathAt ts p rest left) ∨ ∃ why, PathRefused ts why := by
  by_cases heq : ∃ joint rest, ts = .mark '=' joint :: rest
  · obtain ⟨joint, rest, rfl⟩ := heq
    cases hp : (Grammar.declarations.path false).run rest with
    | ok a => exact .inl ⟨_, _, _, .intro hp⟩
    | error why => exact .inr ⟨why, .path hp⟩
  · exact .inr ⟨_, .equals fun joint rest h => heq ⟨joint, rest, h⟩⟩

theorem valueAt_or_refused (form : EntryForm ε) (ts : List Tree) :
    (∃ e rest left, ValueAt form ts e rest left) ∨ ∃ error, ValueRefused form ts error := by
  cases form with
  | flag e => exact .inl ⟨e, ts, _, .flag⟩
  | text rule entry =>
    rcases textAt_or_refused ts with ⟨s, rest, h⟩ | ⟨why, h⟩
    · by_cases hs : rule.Admits s
      · exact .inl ⟨_, rest, _, .text h hs⟩
      · exact .inr ⟨_, .inadmissible h hs⟩
    · exact .inr ⟨_, .text h⟩
  | path entry =>
    rcases pathAt_or_refused ts with ⟨p, rest, left, h⟩ | ⟨why, h⟩
    · exact .inl ⟨_, rest, left, .path h⟩
    · exact .inr ⟨_, .path h⟩

theorem ValueAt.run {form : EntryForm ε} {ts rest : List Tree} {e : ε} {left : Option Delimiter}
    (h : ValueAt form ts e rest left) :
    ∃ taken, (Entry.value form).run ts = .ok { value := e, taken, rest, unread := left } := by
  cases h with
  | flag => exact ⟨[], rfl⟩
  | @text rule entry ts rest s h hs =>
    obtain ⟨taken, htext⟩ := h.run
    have hentry : (Entry.ofText rule entry s).run rest =
        .ok { value := entry s, taken := [], rest } := by
      rw [Entry.ofText, if_pos (TextRule.admits_iff.2 hs)]
      rfl
    rw [Entry.value_text]
    exact ⟨_, Reader.run_bind_of_ok (f := Entry.ofText rule entry)
      (Reader.run_mapError_of_ok htext) hentry⟩
  | @path entry _ _ _ _ h =>
    obtain @⟨joint, ts, a, h⟩ := h
    have hpath := Reader.run_bind_of_ok (f := fun p => return entry p)
      (Reader.run_spelled_of_ok h) (Reader.run_pure _ _)
    have hvalue := Reader.run_bind_of_ok
      (f := fun _ => do return entry (← Reader.spelled (Grammar.declarations.path false)))
      (@run_equals joint ts) hpath
    rw [Entry.value_path, Reader.run_mapError_of_ok hvalue]
    exact ⟨.mark '=' false :: a.taken, by simp [Reading.before]⟩

theorem ValueRefused.run {form : EntryForm ε} {ts : List Tree} {error : DefinitionError}
    (h : ValueRefused form ts error) : (Entry.value form).run ts = .error error := by
  cases h with
  | text h =>
    rw [Entry.value_text]
    exact Reader.run_bind_of_error (Reader.run_mapError_of_error h.run)
  | inadmissible h hs =>
    obtain ⟨taken, htext⟩ := h.run
    rw [Entry.value_text]
    refine Reader.run_bind_of_ok_of_error (Reader.run_mapError_of_ok htext) ?_
    rw [Entry.ofText, if_neg (mt TextRule.admits_iff.1 hs)]
    rfl
  | path h =>
    rw [Entry.value_path]
    refine Reader.run_mapError_of_error ?_
    cases h with
    | equals h => exact Reader.run_bind_of_error (run_equals_of_not h)
    | path h =>
      exact Reader.run_bind_of_ok_of_error run_equals
        (Reader.run_bind_of_error (Reader.run_spelled_of_error h))

/-! ## Reading entries -/

namespace Entry

/-- What a vocabulary wants after a key. -/
def ofKey (v : Vocabulary ε) (key : List Tree) : Reader DefinitionError ε :=
  match v.form? key with
  | some form => value form
  | none => Reader.fail (.unknownKey key (v.map Prod.fst))

theorem read_eq (v : Vocabulary ε) :
    read v = Reader.mapError .refused (Reader.spelled key) >>= ofKey v := rfl

end Entry

theorem entryAt_or_refused (v : Vocabulary ε) (ts : List Tree) :
    (∃ e rest left, EntryAt v ts e rest left) ∨ ∃ error, EntryRefused v ts error := by
  rcases keyAt_or_refused ts with ⟨key, more, hk⟩ | ⟨why, hk⟩
  · cases hf : v.form? key with
    | none => exact .inr ⟨_, .unknown hk hf⟩
    | some form =>
      rcases valueAt_or_refused form more with ⟨e, rest, left, hv⟩ | ⟨error, hv⟩
      · exact .inl ⟨e, rest, left, .intro hk hf hv⟩
      · exact .inr ⟨error, .value hk hf hv⟩
  · exact .inr ⟨_, .key hk⟩

theorem KeyAt.run_spelled {ts key rest : List Tree} (h : KeyAt ts key rest) :
    (Reader.mapError DefinitionError.refused (Reader.spelled Entry.key)).run ts =
      .ok { value := key, taken := key, rest } :=
  Reader.run_mapError_of_ok (Reader.run_spelled_of_ok h.run)

theorem EntryAt.run {ts rest : List Tree} {e : ε} {left : Option Delimiter}
    (h : EntryAt v ts e rest left) :
    ∃ taken, (Entry.read v).run ts = .ok { value := e, taken, rest, unread := left } := by
  cases h with
  | @intro key more _ form _ _ hk hf hv =>
    obtain ⟨taken, hvalue⟩ := hv.run
    have hkey : (Entry.ofKey v key).run more = .ok { value := e, taken, rest, unread := left } := by
      rw [Entry.ofKey, hf]
      exact hvalue
    rw [Entry.read_eq]
    exact ⟨_, Reader.run_bind_of_ok (f := Entry.ofKey v) hk.run_spelled hkey⟩

theorem EntryRefused.run {ts : List Tree} {error : DefinitionError}
    (h : EntryRefused v ts error) : (Entry.read v).run ts = .error error := by
  rw [Entry.read_eq]
  cases h with
  | key h =>
    exact Reader.run_bind_of_error
      (Reader.run_mapError_of_error (Reader.run_spelled_of_error h.run))
  | unknown hk hf =>
    refine Reader.run_bind_of_ok_of_error hk.run_spelled ?_
    rw [Entry.ofKey, hf]
    rfl
  | value hk hf hv =>
    refine Reader.run_bind_of_ok_of_error hk.run_spelled ?_
    rw [Entry.ofKey, hf]
    exact hv.run

theorem EntryAt.length_le {ts rest : List Tree} {e : ε} {left : Option Delimiter}
    (h : EntryAt v ts e rest left) : rest.length ≤ ts.length := by
  obtain ⟨taken, hrun⟩ := h.run
  exact (Entry.read v).length_le hrun

theorem EntryAt.ne_nil {ts rest : List Tree} {e : ε} {left : Option Delimiter}
    (h : EntryAt v ts e rest left) : ts ≠ [] := by
  rintro rfl
  obtain ⟨hk, -, -⟩ := h
  obtain ⟨hr, -⟩ := hk
  cases hr with
  | some h => obtain ⟨_, h⟩ := h; cases h

theorem entries_or_refused (v : Vocabulary ε) (ts : List Tree) :
    (∃ es left, Entries v ts es left) ∨ ∃ error, EntriesRefused v ts error := by
  induction h : ts.length using Nat.strongRecOn generalizing ts with
  | _ n ih =>
    subst h
    by_cases hts : ts = []
    · subst hts
      exact .inl ⟨[], _, .nil⟩
    · rcases entryAt_or_refused v ts with ⟨e, rest, left, he⟩ | ⟨error, he⟩
      · match rest, he with
        | [], he => exact .inl ⟨[e], left, .last he⟩
        | t :: rest, he =>
          by_cases ht : ∃ joint, t = .mark ',' joint
          · obtain ⟨joint, rfl⟩ := ht
            rcases ih rest.length he.length_le rest rfl with ⟨es, left', hs⟩ | ⟨error, hs⟩
            · exact .inl ⟨e :: es, _, .cons he hs⟩
            · exact .inr ⟨error, .later he hs⟩
          · exact .inr ⟨_, .comma he fun joint h => ht ⟨joint, h⟩⟩
      · exact .inr ⟨error, .here he hts⟩

/-- The list of entries in an attribute. -/
def Entry.list (v : Vocabulary ε) : Reader DefinitionError (List ε) :=
  Reader.list (.refused (.operator ",")) (Entry.read v)

theorem holds_comma_iff {t : Tree} {rest : List Tree} :
    (Peek.op ",").holds (t :: rest) = true ↔ ∃ joint, t = .mark ',' joint := by
  constructor
  · intro h
    obtain ⟨more, hop⟩ := exists_operatorAt (by decide) h
    obtain ⟨joint, heq⟩ := operatorAt_singleton_iff.1 hop
    cases heq
    exact ⟨joint, rfl⟩
  · rintro ⟨joint, rfl⟩
    exact Reader.holds_op (operatorAt_singleton_iff.2 ⟨joint, rfl⟩)

theorem Entries.run {ts : List Tree} {es : List ε} {left : Option Delimiter}
    (h : Entries v ts es left) :
    ∃ taken, (Entry.list v).run ts = .ok { value := es, taken, rest := [], unread := left } := by
  induction h with
  | nil => exact ⟨[], Reader.run_list_nil _ _⟩
  | @last ts e left h =>
    obtain ⟨taken, hrun⟩ := h.run
    obtain ⟨t, ts, rfl⟩ := List.exists_cons_of_ne_nil h.ne_nil
    exact ⟨taken, by rw [Entry.list, Reader.run_list_cons, hrun]⟩
  | @cons joint ts rest e es left left' h _ ih =>
    obtain ⟨taken, hrun⟩ := h.run
    obtain ⟨taken', hs⟩ := ih
    obtain ⟨t, ts, rfl⟩ := List.exists_cons_of_ne_nil h.ne_nil
    refine ⟨taken ++ .mark ',' false :: taken', ?_⟩
    rw [Entry.list] at hs ⊢
    rw [Reader.run_list_cons, hrun]
    simp only [if_pos (holds_comma_iff.2 ⟨joint, rfl⟩), hs]
    rfl

theorem EntriesRefused.run {ts : List Tree} {error : DefinitionError}
    (h : EntriesRefused v ts error) : (Entry.list v).run ts = .error error := by
  induction h with
  | here h hts =>
    obtain ⟨t, ts, rfl⟩ := List.exists_cons_of_ne_nil hts
    rw [Entry.list, Reader.run_list_cons, h.run]
  | comma h ht =>
    obtain ⟨taken, hrun⟩ := h.run
    obtain ⟨t, ts, rfl⟩ := List.exists_cons_of_ne_nil h.ne_nil
    rw [Entry.list, Reader.run_list_cons, hrun]
    simp only [if_neg fun hc => (holds_comma_iff.1 hc).elim ht]
  | @later joint ts rest e left error h _ ih =>
    obtain ⟨taken, hrun⟩ := h.run
    obtain ⟨t, ts, rfl⟩ := List.exists_cons_of_ne_nil h.ne_nil
    rw [Entry.list] at ih ⊢
    rw [Reader.run_list_cons, hrun]
    simp only [if_pos (holds_comma_iff.2 ⟨joint, rfl⟩), ih]

end Entries

end RecordSchema.Declaration
