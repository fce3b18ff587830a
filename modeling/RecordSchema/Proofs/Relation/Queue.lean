import RecordSchema.Proofs.Pass.Reading
import Mathlib.Data.List.DropRight
import Mathlib.Data.List.Induction
import Mathlib.Data.List.Nodup

/-!
# What a queue of relations gives back

A queue is asked for one thing after another: to take a relation in, to give all of them out, or to
show something of itself. Here a run of such operations is compared with the operations alone.
`pushed` lists all relations they put in, `pending` those put in since the last drain.

A step moves relations from the queue to its answer or adds one at the end, so the answers and the
queue together always make up what was put in (`flatten_drained_run`), and what is in the queue is
pending (`joins_run`). `run_returns_each_push_once` is what this comes to for a queue that starts
empty: nothing is lost, repeated or moved, and looking at the queue makes no difference to it.
-/

namespace RecordSchema

variable {ρ : Type}

namespace JoinQueue

/-! ## Operations and their answers -/

/-- What a queue is asked for. -/
inductive Operation (ρ : Type) where
  | push (j : Join ρ)
  | drain
  /-- The relations in the queue, in their order. -/
  | joins
  | size
  | isEmpty

/-- What a queue answers. -/
inductive Answer (ρ : Type) where
  | pushed
  | drained (joins : List (Join ρ))
  | shown (joins : List (Join ρ))
  | counted (n : Nat)
  | isEmpty (b : Bool)

namespace Operation

def isDrain : Operation ρ → Bool
  | drain => true
  | push _ | joins | size | isEmpty => false

/-- Whether the queue may be another one afterwards. -/
def changes : Operation ρ → Bool
  | push _ | drain => true
  | joins | size | isEmpty => false

/-- The relation that is put in. -/
def pushed? : Operation ρ → Option (Join ρ)
  | push j => some j
  | drain | joins | size | isEmpty => none

end Operation

/-- The relations that were taken out for an answer, in one list. -/
def Answer.drained? : Answer ρ → Option (List (Join ρ))
  | drained joins => some joins
  | pushed | shown _ | counted _ | isEmpty _ => none

/-- One operation: its answer, and the queue after it. -/
def step (q : JoinQueue ρ) : Operation ρ → Answer ρ × JoinQueue ρ
  | .push j => (.pushed, q.push j)
  | .drain => (.drained q.drain.1, q.drain.2)
  | .joins => (.shown q.joins, q)
  | .size => (.counted q.size, q)
  | .isEmpty => (.isEmpty q.isEmpty, q)

/-- Operations one after the other: their answers, and the queue after the last. -/
def run (q : JoinQueue ρ) : List (Operation ρ) → List (Answer ρ) × JoinQueue ρ
  | [] => ([], q)
  | op :: ops =>
    let (answer, next) := q.step op
    let (answers, last) := next.run ops
    (answer :: answers, last)

/-- All relations that are put in, in their order. -/
def pushed (ops : List (Operation ρ)) : List (Join ρ) := ops.filterMap Operation.pushed?

/-- The relations that are put in after the last drain. -/
def pending (ops : List (Operation ρ)) : List (Join ρ) :=
  pushed (ops.rtakeWhile fun op => !op.isDrain)

/-- The lists that the drains gave. -/
def drained (answers : List (Answer ρ)) : List (List (Join ρ)) :=
  answers.filterMap Answer.drained?

@[simp] theorem pushed_nil : pushed ([] : List (Operation ρ)) = [] := rfl

theorem pushed_cons (op : Operation ρ) (ops : List (Operation ρ)) :
    pushed (op :: ops) = op.pushed?.toList ++ pushed ops := by
  cases op <;> rfl

theorem pushed_append (ops ops' : List (Operation ρ)) :
    pushed (ops ++ ops') = pushed ops ++ pushed ops' :=
  List.filterMap_append

@[simp] theorem drained_nil : drained ([] : List (Answer ρ)) = [] := rfl

theorem drained_cons (answer : Answer ρ) (answers : List (Answer ρ)) :
    drained (answer :: answers) = answer.drained?.toList ++ drained answers := by
  cases answer <;> rfl

theorem isEmpty_eq_decide (q : JoinQueue ρ) : q.isEmpty = decide (q.size = 0) := by
  rw [Bool.eq_iff_iff, isEmpty_iff, decide_eq_true_iff]

/-! ## One step -/

section Step

variable (q : JoinQueue ρ) (op : Operation ρ)

theorem joins_step :
    (q.step op).2.joins = if op.isDrain then [] else q.joins ++ op.pushed?.toList := by
  cases op <;> simp [step, drain, Operation.isDrain, Operation.pushed?]

theorem drained?_step :
    (q.step op).1.drained? = if op.isDrain then some q.joins else none := by
  cases op <;> rfl

/-- What a step takes out and what it leaves make up what there was and what it puts in. -/
theorem flatten_drained?_step :
    (q.step op).1.drained?.toList.flatten ++ (q.step op).2.joins =
      q.joins ++ op.pushed?.toList := by
  rw [joins_step, drained?_step]
  cases op <;> simp [Operation.isDrain, Operation.pushed?]

theorem step_of_not_changes (h : op.changes = false) : (q.step op).2 = q := by
  cases op with
  | push j => cases h
  | drain => cases h
  | joins | size | isEmpty => rfl

theorem drained?_step_of_not_changes (h : op.changes = false) :
    (q.step op).1.drained? = none := by
  cases op with
  | push j => cases h
  | drain => cases h
  | joins | size | isEmpty => rfl

end Step

/-! ## A run -/

section Run

variable (q : JoinQueue ρ) (ops : List (Operation ρ))

theorem run_cons (op : Operation ρ) :
    q.run (op :: ops) =
      ((q.step op).1 :: ((q.step op).2.run ops).1, ((q.step op).2.run ops).2) :=
  rfl

theorem run_append (later : List (Operation ρ)) :
    q.run (ops ++ later) =
      ((q.run ops).1 ++ ((q.run ops).2.run later).1, ((q.run ops).2.run later).2) := by
  induction ops generalizing q with
  | nil => rfl
  | cons op ops ih =>
    rw [List.cons_append, run_cons, run_cons, ih]
    rfl

theorem length_run : (q.run ops).1.length = ops.length := by
  induction ops generalizing q with
  | nil => rfl
  | cons op ops ih => rw [run_cons, List.length_cons, List.length_cons, ih]

/-- The answer to an operation is that of the queue which the operations before it lead to. -/
theorem answer_run (op : Operation ρ) (later : List (Operation ρ)) :
    (q.run (ops ++ op :: later)).1[ops.length]? = some ((q.run ops).2.step op).1 := by
  rw [run_append, run_cons, ← length_run q ops, List.getElem?_append_right (Nat.le_refl _),
    Nat.sub_self]
  rfl

/-- A run moves relations from the queue to the answers and adds others at the end. -/
theorem flatten_drained_run :
    (drained (q.run ops).1).flatten ++ (q.run ops).2.joins = q.joins ++ pushed ops := by
  induction ops generalizing q with
  | nil => simp [run]
  | cons op ops ih =>
    calc
      _ = (q.step op).1.drained?.toList.flatten ++
            ((drained ((q.step op).2.run ops).1).flatten ++ ((q.step op).2.run ops).2.joins) := by
        rw [run_cons, drained_cons, List.flatten_append, List.append_assoc]
      _ = ((q.step op).1.drained?.toList.flatten ++ (q.step op).2.joins) ++ pushed ops := by
        rw [ih, List.append_assoc]
      _ = _ := by
        rw [flatten_drained?_step, pushed_cons, List.append_assoc]

/-- The drains cut a run into pieces. Each gives the relations of the piece it ends, the first one
also those that were there before, and the last piece is left in the queue. -/
theorem drained_run :
    drained (q.run ops).1 ++ [(q.run ops).2.joins] =
      ((ops.splitOnP Operation.isDrain).map pushed).modifyHead (q.joins ++ ·) := by
  induction ops generalizing q with
  | nil => simp [run]
  | cons op ops ih =>
    rw [run_cons, drained_cons, List.append_assoc, ih, joins_step, drained?_step,
      List.splitOnP_cons_eq_if_modifyHead]
    -- what is pushed before the first drain belongs to the first piece
    obtain ⟨piece, pieces, h⟩ :=
      List.exists_cons_of_ne_nil (List.splitOnP_ne_nil Operation.isDrain ops)
    rw [h]
    cases hd : op.isDrain <;> simp [pushed_cons]

/-- Relations that are put in one after the other stand at the end. -/
theorem run_map_push (js : List (Join ρ)) : (q.run (js.map .push)).2 = ⟨q.joins ++ js⟩ := by
  induction js generalizing q with
  | nil => rw [List.map_nil, run, List.append_nil]
  | cons j js ih =>
    rw [List.map_cons, run_cons]
    show ((q.push j).run (js.map .push)).2 = _
    rw [ih, joins_push, List.append_assoc]
    rfl

/-- Operations that only look at the queue can be left out. -/
theorem run_filter_changes :
    drained (q.run (ops.filter Operation.changes)).1 = drained (q.run ops).1 ∧
      (q.run (ops.filter Operation.changes)).2 = (q.run ops).2 := by
  induction ops generalizing q with
  | nil => exact ⟨rfl, rfl⟩
  | cons op ops ih =>
    cases h : op.changes with
    | true =>
      rw [List.filter_cons_of_pos h, run_cons, run_cons, drained_cons, drained_cons]
      exact ⟨by rw [(ih _).1], (ih _).2⟩
    | false =>
      rw [List.filter_cons_of_neg (by simp [h]), run_cons, drained_cons,
        drained?_step_of_not_changes q op h, step_of_not_changes q op h]
      exact ih q

/-- After a drain nothing is left of what was before it. -/
theorem queue_run_drain (later : List (Operation ρ)) :
    (q.run (ops ++ .drain :: later)).2 = (empty.run later).2 := by
  rw [run_append]
  rfl

/-- A queue that was empty holds what was put in since it was last drained. -/
theorem joins_run : (empty.run ops).2.joins = pending ops := by
  induction ops using List.reverseRecOn with
  | nil => rfl
  | append_singleton ops op ih =>
    rw [run_append]
    show (((empty.run ops).2).step op).2.joins = _
    rw [joins_step, ih, pending, pending, List.rtakeWhile_concat]
    cases op.isDrain with
    | true => rfl
    | false => simp [pushed_append, pushed_cons]

theorem pending_append_drain (later : List (Operation ρ)) :
    pending (ops ++ .drain :: later) = pending later := by
  rw [← joins_run, queue_run_drain, joins_run]

/-- At each point of a run a queue that was empty answers as one that holds what is pending. -/
theorem answer_run_empty (op : Operation ρ) (later : List (Operation ρ)) :
    (empty.run (ops ++ op :: later)).1[ops.length]? =
      some ((⟨pending ops⟩ : JoinQueue ρ).step op).1 := by
  rw [answer_run, ← joins_run]

end Run

/-- A queue gives back every relation that is put into it, once, in the order they were put in.
What it shows of itself is what was put in since it was last drained, and showing it takes nothing
out. -/
theorem run_returns_each_push_once (ops : List (Operation ρ)) :
    let answers := (empty.run ops).1
    let queue := (empty.run ops).2
    -- what the drains gave and what is left are, in order, all that was put in
    (drained answers).flatten ++ queue.joins = pushed ops ∧
    -- each drain gave what was put in since the drain before it
    drained answers ++ [queue.joins] = (ops.splitOnP Operation.isDrain).map pushed ∧
    -- so no two drains gave the same relation, unless it was put in twice
    ((pushed ops).Nodup → (drained answers ++ [queue.joins]).Pairwise List.Disjoint) ∧
    -- and whatever was put in before some drain, a later one does not give it
    (∀ first between later, ops = first ++ .drain :: (between ++ .drain :: later) →
      answers[(first ++ .drain :: between).length]? = some (.drained (pending between))) ∧
    -- at any time the queue shows what was put in since it was last drained
    (∀ before later, ops = before ++ .joins :: later →
      answers[before.length]? = some (.shown (pending before))) ∧
    (∀ before later, ops = before ++ .size :: later →
      answers[before.length]? = some (.counted (pending before).length)) ∧
    (∀ before later, ops = before ++ .isEmpty :: later →
      answers[before.length]? = some (.isEmpty (decide ((pending before).length = 0)))) ∧
    -- without showing it, the drains give the same and the same is left
    (drained (empty.run (ops.filter Operation.changes)).1 = drained answers ∧
      (empty.run (ops.filter Operation.changes)).2 = queue) ∧
    -- a drain leaves nothing
    (∀ before later, ops = before ++ .drain :: later →
      let left := (empty.run (before ++ [.drain])).2
      left.joins = [] ∧ left.size = 0 ∧ left.isEmpty = true) := by
  intro answers queue
  have hall : (drained answers).flatten ++ queue.joins = pushed ops :=
    flatten_drained_run empty ops
  refine ⟨hall, ?_, fun h => ?_, ?_, ?_, ?_, ?_, run_filter_changes empty ops, ?_⟩
  · -- nothing is there before the first piece
    exact (drained_run empty ops).trans (congrFun List.modifyHead_id _)
  · rw [← hall, ← List.flatten_concat, List.nodup_flatten] at h
    exact h.2
  · rintro first between later rfl
    have hanswer := answer_run_empty (first ++ .drain :: between) .drain later
    rw [pending_append_drain, List.append_assoc, List.cons_append] at hanswer
    exact hanswer
  · rintro before later rfl
    exact answer_run_empty before .joins later
  · rintro before later rfl
    exact answer_run_empty before .size later
  · rintro before later rfl
    have hanswer := answer_run_empty before .isEmpty later
    rw [step, isEmpty_eq_decide] at hanswer
    exact hanswer
  · rintro before later rfl
    rw [queue_run_drain]
    exact ⟨rfl, rfl, rfl⟩

/-- A relation that is put in twice comes back twice. -/
example (j k : Join ρ) :
    empty.run [.push j, .push k, .push j, .joins, .drain, .push k, .size, .drain, .isEmpty] =
      ([.pushed, .pushed, .pushed, .shown [j, k, j], .drained [j, k, j], .pushed, .counted 1,
        .drained [k], .isEmpty true], empty) :=
  rfl

end JoinQueue

/-! ## The queue of a pass -/

namespace Compiler

/-- While a pass writes tables it only puts relations into its queue: those of the batch, in their
order. -/
theorem queue_tableStatements (c : Compiler ρ) {queue queue' : JoinQueue ρ}
    {records : List (Record ρ)} {statements : List String}
    (h : (c.tableStatements queue records).result = .ok (statements, queue')) :
    queue' = (queue.run ((c.joins records).map .push)).2 := by
  rw [result_tableStatements, unlessError_eq_ok_iff, Prod.mk.injEq] at h
  rw [JoinQueue.run_map_push, h.2.2]

end Compiler

end RecordSchema
