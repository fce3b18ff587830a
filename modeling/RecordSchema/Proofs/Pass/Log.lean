import Mathlib.Data.List.DropRight
import RecordSchema.Proofs.Pass.Batch
import RecordSchema.Proofs.Pass.Failure
import RecordSchema.Proofs.Template.Filling

/-!
# The log of a pass

What a pass reports is read off its batch, as its result is. Each field reports its relation, or
that it has no place (`Field.events`); a record reports its fields and then its table; and a pass
without an error goes on to its join tables and its statements (`Compiler.events_compile_of_ok`).
A pass with an error stops within the record of the refused field, before this record's table
(`Compiler.events_compile_of_error`).

A table is reported with the number of its relations. That this is the number of relations reported
since the table before it is an invariant of the growing log (`CountsJoins`).
-/

namespace RecordSchema

variable {ρ : Type}

/-! ## Events of one message -/

namespace Event

/-- The events of a log with a given message. -/
def withMessage (message : String) (log : List Event) : List Event :=
  log.filter fun e => e.message == message

variable {message : String} {log : List Event}

theorem withMessage_append (log log' : List Event) :
    withMessage message (log ++ log') = withMessage message log ++ withMessage message log' :=
  List.filter_append ..

theorem withMessage_flatMap {α : Type} (f : α → List Event) (xs : List α) :
    withMessage message (xs.flatMap f) = xs.flatMap fun x => withMessage message (f x) :=
  List.filter_flatMap

theorem withMessage_of_forall (h : ∀ e ∈ log, e.message = message) :
    withMessage message log = log := by
  rw [withMessage, List.filter_eq_self]
  exact fun e he => beq_iff_eq.2 (h e he)

theorem withMessage_eq_nil_iff :
    withMessage message log = [] ↔ ∀ e ∈ log, e.message ≠ message := by
  simp only [withMessage, List.filter_eq_nil_iff, beq_iff_eq, ne_eq]

theorem message_ne_of_mem {messages : List String} (h : ∀ e ∈ log, e.message ∈ messages)
    (hm : message ∉ messages) : ∀ e ∈ log, e.message ≠ message :=
  fun e he heq => hm (heq ▸ h e he)

theorem withMessage_eq_nil_of_mem {messages : List String} (h : ∀ e ∈ log, e.message ∈ messages)
    (hm : message ∉ messages) : withMessage message log = [] :=
  withMessage_eq_nil_iff.2 (message_ne_of_mem h hm)

end Event

/-! ## What is reported of a field -/

namespace Field

/-- The report of a field that has no place in the schema of the record named `owner`. -/
def skipped? (s : Surroundings ρ) (owner : String) (f : Field ρ) : Option Event :=
  match Role.of s owner f with
  | .ok .unsupported => some (.fieldSkipped owner f.name (f.type.shown s.catalog))
  | .ok .ignored | .ok (.single _) | .ok (.list _) | .ok (.column _) | .error _ => none

/-- What is reported of a field: its relation, or that it has no place. -/
def events (s : Surroundings ρ) (owner : Record ρ) (f : Field ρ) : List Event :=
  (f.join? s owner).toList.map Join.event ++ (f.skipped? s owner.name).toList

end Field

namespace Compiler

/-- One field without an error, on its own. -/
theorem events_addField {c : Compiler ρ} {r : Record ρ} {f : Field ρ}
    (h : f.error? c.toSurroundings r.name = none) (scan : Scan ρ) :
    (c.addField r scan f).events = f.events c.toSurroundings r := by
  obtain ⟨role, hof, hrel, -⟩ := Role.of_eq_unlessError c.toSurroundings r.name f
  rw [h] at hof
  have hof : Role.of c.toSurroundings r.name f = .ok role := hof
  unfold addField Role.classify Field.events Field.skipped?
  rw [Field.join?, ← hrel, hof]
  cases role <;> simp [Role.relation?, Role.events]

/-- A refused field is not reported. -/
theorem events_addField_of_refused {c : Compiler ρ} {r : Record ρ} {f : Field ρ} {e : SchemaError}
    (h : f.error? c.toSurroundings r.name = some e) (scan : Scan ρ) :
    (c.addField r scan f).events = [] := by
  obtain ⟨role, hof, -, -⟩ := Role.of_eq_unlessError c.toSurroundings r.name f
  rw [h] at hof
  have hof : Role.of c.toSurroundings r.name f = .error e := hof
  simp [addField, Role.classify, hof]

/-- The walk over the fields of a record reports them up to the first refused one. -/
theorem events_foldlM_addField (c : Compiler ρ) (r : Record ρ) (fields : List (Field ρ))
    (scan : Scan ρ) :
    (fields.foldlM (c.addField r) scan).events =
      (fields.takeWhile fun f => (f.error? c.toSurroundings r.name).isNone).flatMap
        (Field.events c.toSurroundings r) := by
  induction fields generalizing scan with
  | nil => rfl
  | cons f fields ih =>
    rw [List.foldlM_cons, Logged.events_bind, result_addField]
    cases h : f.error? c.toSurroundings r.name with
    | none => simp [events_addField h, unlessError, ih, h]
    | some e => simp [events_addField_of_refused h, unlessError, h]

/-! ## What is reported of a record -/

/-- What is reported of a record while its fields are walked over: that its ancestors were cut, and
the given fields. -/
def scanEvents (c : Compiler ρ) (r : Record ρ) (fields : List (Field ρ)) : List Event :=
  r.inheritanceEvents c.catalog ++ fields.flatMap (Field.events c.toSurroundings r)

/-- The report of a record's table. -/
def tableEvent (c : Compiler ρ) (r : Record ρ) : Event :=
  .tableCompiled r.name (c.naming.table r) (c.columns r).length (c.joins [r]).length

/-- What is reported of a record without an error: its fields, then its table. -/
def recordEvents (c : Compiler ρ) (r : Record ρ) : List Event :=
  c.scanEvents r (r.allFields c.catalog) ++ [c.tableEvent r]

/-- The fields of a record before the first refused one. -/
def acceptedFields (c : Compiler ρ) (r : Record ρ) : List (Field ρ) :=
  (r.allFields c.catalog).takeWhile fun f => (f.error? c.toSurroundings r.name).isNone

theorem acceptedFields_of_ok {c : Compiler ρ} {r : Record ρ} (h : c.error? [r] = none) :
    c.acceptedFields r = r.allFields c.catalog := by
  rw [error?_singleton, List.findSome?_eq_none_iff] at h
  rw [acceptedFields, List.takeWhile_eq_self_iff]
  intro f hf
  rw [h f hf]
  rfl

/-- The table of a record without an error. The number of its relations is a difference of two
lengths of the queue, which only grows. -/
theorem events_tableStatement {c : Compiler ρ} {r : Record ρ} (h : c.error? [r] = none)
    (queue : JoinQueue ρ) : (c.tableStatement queue r).events = c.recordEvents r := by
  have hfields := acceptedFields_of_ok h
  rw [error?_singleton] at h
  have hscan := result_foldlM_addField c r (r.allFields c.catalog) ⟨[], queue⟩
  rw [h, unlessError, ← joins_singleton] at hscan
  have hjoins : (⟨queue.joins ++ c.joins [r]⟩ : JoinQueue ρ).size - queue.size =
      (c.joins [r]).length := by
    simp [JoinQueue.size]
  simp only [tableStatement, Logged.events_bind, Logged.events_report, Logged.result_report, hscan,
    events_foldlM_addField, hjoins, Logged.events_pure, List.nil_append, List.append_nil]
  rw [← acceptedFields, hfields, recordEvents, scanEvents, List.append_assoc]
  rfl

theorem events_tableStatement_of_error {c : Compiler ρ} {r : Record ρ} {e : SchemaError}
    (h : c.error? [r] = some e) (queue : JoinQueue ρ) :
    (c.tableStatement queue r).events = c.scanEvents r (c.acceptedFields r) := by
  rw [error?_singleton] at h
  have hscan := result_foldlM_addField c r (r.allFields c.catalog) ⟨[], queue⟩
  rw [h, unlessError] at hscan
  simp only [tableStatement, Logged.events_bind, Logged.events_report, Logged.result_report, hscan,
    events_foldlM_addField, List.append_nil]
  rfl

/-! ## What is reported of a batch -/

theorem events_tableStatements_cons {c : Compiler ρ} {r : Record ρ} (h : c.error? [r] = none)
    (queue : JoinQueue ρ) (rs : List (Record ρ)) :
    (c.tableStatements queue (r :: rs)).events =
      c.recordEvents r ++ (c.tableStatements ⟨queue.joins ++ c.joins [r]⟩ rs).events := by
  have hr := result_tableStatement c queue r
  rw [h, unlessError] at hr
  simp only [tableStatements, bind_pure_comp, Logged.events_bind, hr, events_tableStatement h,
    Logged.events_map]

theorem events_tableStatements_cons_of_error {c : Compiler ρ} {r : Record ρ} {e : SchemaError}
    (h : c.error? [r] = some e) (queue : JoinQueue ρ) (rs : List (Record ρ)) :
    (c.tableStatements queue (r :: rs)).events = c.scanEvents r (c.acceptedFields r) := by
  have hr := result_tableStatement c queue r
  rw [h, unlessError] at hr
  simp only [tableStatements, Logged.events_bind, hr, events_tableStatement_of_error h,
    List.append_nil]

/-- The records before the first one with an error are reported one by one. -/
theorem events_tableStatements_append {c : Compiler ρ} {before : List (Record ρ)}
    (h : c.error? before = none) (queue : JoinQueue ρ) (rest : List (Record ρ)) :
    ∃ queue', (c.tableStatements queue (before ++ rest)).events =
      before.flatMap c.recordEvents ++ (c.tableStatements queue' rest).events := by
  induction before generalizing queue with
  | nil => exact ⟨queue, rfl⟩
  | cons r before ih =>
    rw [← List.singleton_append, error?_append, Option.or_eq_none_iff] at h
    obtain ⟨queue', hrest⟩ := ih h.2 ⟨queue.joins ++ c.joins [r]⟩
    refine ⟨queue', ?_⟩
    rw [List.cons_append, events_tableStatements_cons h.1, hrest, List.flatMap_cons,
      List.append_assoc]

/-- What is reported of a batch without an error once its tables are made: the table of each
relation, and how many statements there are. -/
def joinEvents (c : Compiler ρ) (records : List (Record ρ)) : List Event :=
  (c.joins records).map c.joinEvent ++
    [.schemaCompiled records.length ((c.joins records).flatMap c.joinStatements).length]

/-- The difference of two lengths in the last report is the number of join statements, which all
come after the tables. -/
theorem events_plan_of_ok {c : Compiler ρ} {records : List (Record ρ)}
    (h : c.error? records = none) :
    (c.plan records).events = records.flatMap c.recordEvents ++ c.joinEvents records := by
  obtain ⟨queue', hevents⟩ := events_tableStatements_append h .empty []
  have htables := result_tableStatements c .empty records
  rw [h, unlessError, JoinQueue.joins_empty, List.nil_append] at htables
  rw [List.append_nil] at hevents
  have hcount : ((records.map c.table) ++ (c.joins records).flatMap c.joinStatements).length -
      records.length = ((c.joins records).flatMap c.joinStatements).length := by
    rw [List.length_append, List.length_map, Nat.add_sub_cancel_left]
  simp only [plan, Logged.events_bind, Logged.events_report, Logged.result_report, htables, hevents,
    JoinQueue.drain, List.length_map, hcount, Logged.events_pure, tableStatements, List.append_nil,
    joinEvents]

theorem events_plan_of_error {c : Compiler ρ} {before : List (Record ρ)} {r : Record ρ}
    {e : SchemaError} (hbefore : c.error? before = none) (hr : c.error? [r] = some e)
    (after : List (Record ρ)) :
    (c.plan (before ++ r :: after)).events =
      before.flatMap c.recordEvents ++ c.scanEvents r (c.acceptedFields r) := by
  obtain ⟨queue', hevents⟩ := events_tableStatements_append hbefore .empty (r :: after)
  have htables := result_tableStatements c .empty (before ++ r :: after)
  rw [error?_append_cons hbefore hr, unlessError] at htables
  simp only [plan, Logged.events_bind, htables, hevents, events_tableStatements_cons_of_error hr,
    List.append_nil]

/-- The whole log of a pass without an error. -/
theorem events_compile_of_ok {c : Compiler ρ} {records : List (Record ρ)}
    (h : c.error? records = none) :
    (c.compile records).events =
      .passStarted records.length c.config.dialect :: (records.flatMap c.recordEvents ++
        c.joinEvents records ++ (c.schema records).map .statementGenerated) := by
  have hplan := result_plan c records
  rw [h, unlessError] at hplan
  simp only [compile, Logged.events_bind, Logged.events_report, Logged.result_report, hplan,
    events_plan_of_ok h, Logged.events_pure, List.append_nil, List.singleton_append]

/-- The whole log of a pass with an error: it ends among the fields of a record. -/
theorem events_compile_of_error {c : Compiler ρ} {before : List (Record ρ)} {r : Record ρ}
    {e : SchemaError} (hbefore : c.error? before = none) (hr : c.error? [r] = some e)
    (after : List (Record ρ)) :
    (c.compile (before ++ r :: after)).events =
      .passStarted (before ++ r :: after).length c.config.dialect ::
        (before.flatMap c.recordEvents ++ c.scanEvents r (c.acceptedFields r)) := by
  have hplan := result_plan c (before ++ r :: after)
  rw [error?_append_cons hbefore hr, unlessError] at hplan
  simp only [compile, Logged.events_bind, Logged.events_report, Logged.result_report, hplan,
    events_plan_of_error hbefore hr, List.append_nil, List.singleton_append]

end Compiler

/-! ## The log by messages -/

theorem Record.message_of_mem_inheritanceEvents {catalog : Catalog ρ} {r : Record ρ} {e : Event}
    (h : e ∈ r.inheritanceEvents catalog) :
    e.message = "Inheritance cycle detected; truncating" := by
  unfold inheritanceEvents at h
  split at h
  · rw [List.mem_singleton.1 h]
    rfl
  · cases h

namespace Field

theorem message_of_skipped? {s : Surroundings ρ} {owner : String} {f : Field ρ} {e : Event}
    (h : f.skipped? s owner = some e) :
    e.message = "Field is neither relation nor column; skipping" := by
  unfold skipped? at h
  split at h <;> cases h
  rfl

theorem message_of_mem_events {s : Surroundings ρ} {owner : Record ρ} {f : Field ρ} {e : Event}
    (h : e ∈ f.events s owner) :
    e.message ∈ ["Registered join", "Field is neither relation nor column; skipping"] := by
  rcases List.mem_append.1 h with hjoin | hskip
  · obtain ⟨j, -, rfl⟩ := List.mem_map.1 hjoin
    show "Registered join" ∈ _
    decide
  · rw [message_of_skipped? (Option.mem_toList.1 hskip)]
    decide

theorem withMessage_registered (s : Surroundings ρ) (owner : Record ρ) (f : Field ρ) :
    Event.withMessage "Registered join" (f.events s owner) =
      (f.join? s owner).toList.map Join.event := by
  have hjoin : ∀ e ∈ (f.join? s owner).toList.map Join.event, e.message = "Registered join" := by
    rw [List.forall_mem_map]
    exact fun j _ => rfl
  have hskip : ∀ e ∈ (f.skipped? s owner.name).toList, e.message ≠ "Registered join" := by
    intro e he
    rw [message_of_skipped? (Option.mem_toList.1 he)]
    decide
  rw [events, Event.withMessage_append, Event.withMessage_of_forall hjoin,
    Event.withMessage_eq_nil_iff.2 hskip, List.append_nil]

theorem withMessage_skipped (s : Surroundings ρ) (owner : Record ρ) (f : Field ρ) :
    Event.withMessage "Field is neither relation nor column; skipping" (f.events s owner) =
      (f.skipped? s owner.name).toList := by
  have hjoin : ∀ e ∈ (f.join? s owner).toList.map Join.event,
      e.message ≠ "Field is neither relation nor column; skipping" := by
    rw [List.forall_mem_map]
    intro j _
    show "Registered join" ≠ "Field is neither relation nor column; skipping"
    decide
  have hskip : ∀ e ∈ (f.skipped? s owner.name).toList,
      e.message = "Field is neither relation nor column; skipping" :=
    fun e he => message_of_skipped? (Option.mem_toList.1 he)
  rw [events, Event.withMessage_append, Event.withMessage_of_forall hskip,
    Event.withMessage_eq_nil_iff.2 hjoin, List.nil_append]

end Field

namespace Compiler

section Scan

variable (c : Compiler ρ) (r : Record ρ) (fields : List (Field ρ))

/-- Of three kinds are the events before a record's table. -/
theorem message_of_mem_scanEvents : ∀ e ∈ c.scanEvents r fields,
    e.message ∈ ["Inheritance cycle detected; truncating", "Registered join",
      "Field is neither relation nor column; skipping"] := by
  intro e h
  rcases List.mem_append.1 h with hcut | hfields
  · rw [Record.message_of_mem_inheritanceEvents hcut]
    decide
  · obtain ⟨f, -, hf⟩ := List.mem_flatMap.1 hfields
    exact List.mem_cons_of_mem _ (Field.message_of_mem_events hf)

theorem withMessage_scanEvents {message : String}
    (h : "Inheritance cycle detected; truncating" ≠ message) :
    Event.withMessage message (c.scanEvents r fields) =
      fields.flatMap fun f => Event.withMessage message (f.events c.toSurroundings r) := by
  have hcut : ∀ e ∈ r.inheritanceEvents c.catalog, e.message ≠ message := by
    intro e he
    rwa [Record.message_of_mem_inheritanceEvents he]
  rw [scanEvents, Event.withMessage_append, Event.withMessage_eq_nil_iff.2 hcut, List.nil_append,
    Event.withMessage_flatMap]

theorem withMessage_cut_scanEvents :
    Event.withMessage "Inheritance cycle detected; truncating" (c.scanEvents r fields) =
      r.inheritanceEvents c.catalog := by
  have hcut := Event.withMessage_of_forall fun e (he : e ∈ r.inheritanceEvents c.catalog) =>
    Record.message_of_mem_inheritanceEvents he
  have hfields : ∀ e ∈ fields.flatMap (Field.events c.toSurroundings r),
      e.message ∈ ["Registered join", "Field is neither relation nor column; skipping"] := by
    intro e he
    obtain ⟨f, -, hf⟩ := List.mem_flatMap.1 he
    exact Field.message_of_mem_events hf
  rw [scanEvents, Event.withMessage_append, hcut,
    Event.withMessage_eq_nil_of_mem hfields (by decide), List.append_nil]

theorem withMessage_registered_scanEvents :
    Event.withMessage "Registered join" (c.scanEvents r fields) =
      (fields.filterMap fun f => f.join? c.toSurroundings r).map Join.event := by
  rw [withMessage_scanEvents c r fields (by decide), List.filterMap_eq_flatMap_toList,
    List.map_flatMap]
  simp only [Field.withMessage_registered]

theorem withMessage_skipped_scanEvents :
    Event.withMessage "Field is neither relation nor column; skipping" (c.scanEvents r fields) =
      fields.filterMap (Field.skipped? c.toSurroundings r.name) := by
  rw [withMessage_scanEvents c r fields (by decide), List.filterMap_eq_flatMap_toList]
  simp only [Field.withMessage_skipped]

end Scan

section Records

variable (c : Compiler ρ) (records : List (Record ρ))

theorem message_of_mem_recordEvents : ∀ e ∈ records.flatMap c.recordEvents,
    e.message ∈ ["Inheritance cycle detected; truncating", "Registered join",
      "Field is neither relation nor column; skipping", "Compiling table"] := by
  intro e h
  obtain ⟨r, -, hr⟩ := List.mem_flatMap.1 h
  rcases List.mem_append.1 hr with hscan | htable
  · exact List.mem_append_left ["Compiling table"] (c.message_of_mem_scanEvents r _ e hscan)
  · rw [List.mem_singleton.1 htable]
    show "Compiling table" ∈ _
    decide

theorem message_of_mem_joinEvents : ∀ e ∈ c.joinEvents records,
    e.message ∈ ["Compiling join table", "Schema compiled"] := by
  intro e h
  rcases List.mem_append.1 h with hjoin | hlast
  · obtain ⟨j, -, rfl⟩ := List.mem_map.1 hjoin
    exact List.mem_cons_self ..
  · rw [List.mem_singleton.1 hlast]
    exact List.mem_cons_of_mem _ (List.mem_singleton.2 rfl)

/-- Each record reports one table. -/
theorem withMessage_table_recordEvents :
    Event.withMessage "Compiling table" (records.flatMap c.recordEvents) =
      records.map c.tableEvent := by
  have hr : ∀ r, Event.withMessage "Compiling table" (c.recordEvents r) = [c.tableEvent r] := by
    intro r
    rw [recordEvents, Event.withMessage_append,
      Event.withMessage_eq_nil_of_mem (c.message_of_mem_scanEvents r _) (by decide)]
    rfl
  rw [Event.withMessage_flatMap, List.map_eq_flatMap]
  simp only [hr]

/-- The relations are reported in the order of the queue. -/
theorem withMessage_registered_recordEvents :
    Event.withMessage "Registered join" (records.flatMap c.recordEvents) =
      (c.joins records).map Join.event := by
  have hr : ∀ r, Event.withMessage "Registered join" (c.recordEvents r) =
      (c.joins [r]).map Join.event := by
    intro r
    rw [recordEvents, Event.withMessage_append, withMessage_registered_scanEvents, joins_singleton]
    exact List.append_nil _
  rw [Event.withMessage_flatMap, joins_eq_flatMap, List.map_flatMap]
  simp only [hr]

theorem withMessage_skipped_recordEvents :
    Event.withMessage "Field is neither relation nor column; skipping"
        (records.flatMap c.recordEvents) =
      records.flatMap fun r =>
        (r.allFields c.catalog).filterMap (Field.skipped? c.toSurroundings r.name) := by
  rw [Event.withMessage_flatMap]
  congr
  funext r
  rw [recordEvents, Event.withMessage_append, withMessage_skipped_scanEvents]
  exact List.append_nil _

/-- Each relation reports one join table. -/
theorem withMessage_joinTable_joinEvents :
    Event.withMessage "Compiling join table" (c.joinEvents records) =
      (c.joins records).map c.joinEvent := by
  have hjoin : ∀ e ∈ (c.joins records).map c.joinEvent, e.message = "Compiling join table" := by
    rw [List.forall_mem_map]
    exact fun _ _ => rfl
  rw [joinEvents, Event.withMessage_append, Event.withMessage_of_forall hjoin]
  exact List.append_nil _

theorem withMessage_total_joinEvents :
    Event.withMessage "Schema compiled" (c.joinEvents records) =
      [.schemaCompiled records.length ((c.joins records).flatMap c.joinStatements).length] := by
  have hjoin : ∀ e ∈ (c.joins records).map c.joinEvent, e.message ≠ "Schema compiled" := by
    rw [List.forall_mem_map]
    intro j _
    show "Compiling join table" ≠ "Schema compiled"
    decide
  rw [joinEvents, Event.withMessage_append, Event.withMessage_eq_nil_iff.2 hjoin]
  rfl

end Records

end Compiler

/-! ## Relations between two tables -/

/-- How many relations a log has registered since its last table. -/
def joinsSinceTable (log : List Event) : Nat :=
  (Event.withMessage "Registered join"
    (log.rtakeWhile fun e => e.message != "Compiling table")).length

/-- Every table in a log is reported with the number of relations registered since the table before
it. -/
def CountsJoins (log : List Event) : Prop :=
  ∀ (earlier later : List Event) (record table : String) (columns joins : Nat),
    log = earlier ++ .tableCompiled record table columns joins :: later →
      joins = joinsSinceTable earlier

section CountsJoins

variable {log events : List Event}

/-- A table starts the count again. -/
theorem joinsSinceTable_concat_table (log : List Event) (record table : String)
    (columns joins : Nat) :
    joinsSinceTable (log ++ [Event.tableCompiled record table columns joins]) = 0 := by
  rw [joinsSinceTable, List.rtakeWhile_concat_neg _ _ _ (by simp [Event.message])]
  rfl

/-- Other events go on with it. -/
theorem joinsSinceTable_append (h : ∀ e ∈ events, e.message ≠ "Compiling table") :
    joinsSinceTable (log ++ events) =
      joinsSinceTable log + (Event.withMessage "Registered join" events).length := by
  have hpos : ∀ e ∈ events.reverse, (e.message != "Compiling table") = true := by
    intro e he
    exact bne_iff_ne.2 (h e (List.mem_reverse.1 he))
  rw [joinsSinceTable, joinsSinceTable, List.rtakeWhile, List.rtakeWhile, List.reverse_append,
    List.takeWhile_append_of_pos hpos, List.reverse_append, List.reverse_reverse,
    Event.withMessage_append, List.length_append]

/-- A log that is continued counts on if the continuation does. -/
theorem CountsJoins.append (h : CountsJoins log)
    (hevents : ∀ (earlier later : List Event) (record table : String) (columns joins : Nat),
      events = earlier ++ .tableCompiled record table columns joins :: later →
        joins = joinsSinceTable (log ++ earlier)) : CountsJoins (log ++ events) := by
  intro earlier later record table columns joins heq
  rcases List.append_eq_append_iff.1 heq with ⟨between, rfl, hrest⟩ | ⟨rest, rfl, hrest⟩
  · exact hevents _ _ _ _ _ _ hrest
  · -- the table is the first event that is added, or it was there before
    rcases List.cons_eq_append_iff.1 hrest with ⟨rfl, hnext⟩ | ⟨rest, rfl, -⟩
    · have hjoins := hevents [] _ _ _ _ _ hnext
      rwa [List.append_nil, List.append_nil] at hjoins
    · exact h _ _ _ _ _ _ rfl

theorem CountsJoins.append_others (h : CountsJoins log)
    (hevents : ∀ e ∈ events, e.message ≠ "Compiling table") : CountsJoins (log ++ events) := by
  refine h.append fun earlier later record table columns joins heq => ?_
  have hmem : .tableCompiled record table columns joins ∈ events := by
    rw [heq]
    exact List.mem_append_right _ (List.mem_cons_self ..)
  exact absurd rfl (hevents _ hmem)

theorem CountsJoins.append_table (h : CountsJoins log) {record table : String}
    {columns joins : Nat} (hjoins : joins = joinsSinceTable log) :
    CountsJoins (log ++ [Event.tableCompiled record table columns joins]) := by
  refine h.append fun earlier later record' table' columns' joins' heq => ?_
  rcases List.cons_eq_append_iff.1 heq with ⟨rfl, heq⟩ | ⟨rest, rfl, heq⟩
  · cases heq
    rwa [List.append_nil]
  · cases rest <;> cases heq

/-- One record: its table is reported with the number of its relations, and the count starts
again. -/
theorem CountsJoins.append_recordEvents (h : CountsJoins log) (h0 : joinsSinceTable log = 0)
    (c : Compiler ρ) (r : Record ρ) :
    CountsJoins (log ++ c.recordEvents r) ∧ joinsSinceTable (log ++ c.recordEvents r) = 0 := by
  have hscan : ∀ e ∈ c.scanEvents r (r.allFields c.catalog), e.message ≠ "Compiling table" :=
    Event.message_ne_of_mem (c.message_of_mem_scanEvents r _) (by decide)
  have hjoins : (c.joins [r]).length =
      joinsSinceTable (log ++ c.scanEvents r (r.allFields c.catalog)) := by
    rw [joinsSinceTable_append hscan, h0, Compiler.withMessage_registered_scanEvents,
      List.length_map, ← Compiler.joins_singleton, Nat.zero_add]
  rw [Compiler.recordEvents, ← List.append_assoc]
  exact ⟨(h.append_others hscan).append_table hjoins, joinsSinceTable_concat_table ..⟩

/-- A batch, record by record. -/
theorem CountsJoins.append_flatMap_recordEvents (h : CountsJoins log)
    (h0 : joinsSinceTable log = 0) (c : Compiler ρ) (records : List (Record ρ)) :
    CountsJoins (log ++ records.flatMap c.recordEvents) := by
  induction records generalizing log with
  | nil => rwa [List.flatMap_nil, List.append_nil]
  | cons r rs ih =>
    obtain ⟨hr, hr0⟩ := h.append_recordEvents h0 c r
    rw [List.flatMap_cons, ← List.append_assoc]
    exact ih hr hr0

end CountsJoins

/-! ## The log as a whole -/

namespace Compiler

/-- The log of a pass without an error accounts for its batch and for its statements. -/
structure Accounts (c : Compiler ρ) (records : List (Record ρ)) (statements : List String)
    (log : List Event) : Prop where
  /-- The statements are reported in their order, after everything else. -/
  generated : ∃ others, log = others ++ statements.map .statementGenerated ∧
    Event.withMessage "Generated DDL statement" others = []
  /-- A record has one statement, with a clause for each of its columns. -/
  statement {i : Nat} {r : Record ρ} (h : records[i]? = some r) :
    statements[i]? = some (c.config.dialect.tableText (c.naming.table r)
      (String.join ((c.columns r).map fun k => ",\n" ++ k.name ++ " " ++ k.sqlType)))
  /-- Its table is reported with their number. -/
  tables : Event.withMessage "Compiling table" log = records.map fun r =>
    .tableCompiled r.name (c.naming.table r) (c.columns r).length (c.joins [r]).length
  /-- A relation is reported when it is found, and again with its table. -/
  relations : ∃ joins : List (Join ρ),
    Event.withMessage "Registered join" log =
      joins.map (fun j => .joinRegistered j.owner.name j.field.name j.child.name j.kind) ∧
    Event.withMessage "Compiling join table" log =
      joins.map fun j => .joinCompiled (c.naming.joinTable j.owner j.child j.field)
        (c.naming.table j.owner) (c.naming.table j.child) j.kind
  /-- The number of statements is reported once. -/
  total : ∃ tables joinStatements,
    Event.withMessage "Schema compiled" log = [.schemaCompiled tables joinStatements] ∧
      tables + joinStatements = statements.length
  /-- A field without a place is reported, and no other field is. -/
  skipped : Event.withMessage "Field is neither relation nor column; skipping" log =
    records.flatMap fun r =>
      (r.allFields c.catalog).filterMap (Field.skipped? c.toSurroundings r.name)

/-- The events of one message, if they are neither the first event nor those of the statements. -/
theorem withMessage_events_compile {c : Compiler ρ} {records : List (Record ρ)}
    (h : c.error? records = none) {message : String} (hstart : message ≠ "compile")
    (hend : message ≠ "Generated DDL statement") :
    Event.withMessage message (c.compile records).events =
      Event.withMessage message (records.flatMap c.recordEvents) ++
        Event.withMessage message (c.joinEvents records) := by
  have hfirst : Event.withMessage message [.passStarted records.length c.config.dialect] = [] := by
    rw [Event.withMessage_eq_nil_iff, List.forall_mem_singleton]
    exact hstart.symm
  have hlast : Event.withMessage message ((c.schema records).map .statementGenerated) = [] := by
    rw [Event.withMessage_eq_nil_iff, List.forall_mem_map]
    exact fun _ _ => hend.symm
  rw [events_compile_of_ok h, ← List.singleton_append, Event.withMessage_append, hfirst,
    Event.withMessage_append, hlast, Event.withMessage_append, List.nil_append, List.append_nil]

theorem accounts_of_ok {c : Compiler ρ} {records : List (Record ρ)} (h : c.error? records = none) :
    c.Accounts records (c.schema records) (c.compile records).events where
  generated := by
    refine ⟨.passStarted records.length c.config.dialect ::
      (records.flatMap c.recordEvents ++ c.joinEvents records), events_compile_of_ok h, ?_⟩
    rw [← List.singleton_append, Event.withMessage_append, Event.withMessage_append,
      Event.withMessage_eq_nil_of_mem (c.message_of_mem_recordEvents records) (by decide),
      Event.withMessage_eq_nil_of_mem (c.message_of_mem_joinEvents records) (by decide)]
    rfl
  statement {i r} hr := by
    rw [getElem?_schema_table c hr, ← Dialect.tableStatement_eq]
    rfl
  tables := by
    rw [withMessage_events_compile h (by decide) (by decide), withMessage_table_recordEvents,
      Event.withMessage_eq_nil_of_mem (c.message_of_mem_joinEvents records) (by decide),
      List.append_nil]
    rfl
  relations := by
    refine ⟨c.joins records, ?_, ?_⟩
    · rw [withMessage_events_compile h (by decide) (by decide),
        withMessage_registered_recordEvents,
        Event.withMessage_eq_nil_of_mem (c.message_of_mem_joinEvents records) (by decide),
        List.append_nil]
      rfl
    · rw [withMessage_events_compile h (by decide) (by decide),
        Event.withMessage_eq_nil_of_mem (c.message_of_mem_recordEvents records) (by decide),
        List.nil_append, withMessage_joinTable_joinEvents]
      rfl
  total := by
    refine ⟨records.length, ((c.joins records).flatMap c.joinStatements).length, ?_, ?_⟩
    · rw [withMessage_events_compile h (by decide) (by decide),
        Event.withMessage_eq_nil_of_mem (c.message_of_mem_recordEvents records) (by decide),
        List.nil_append, withMessage_total_joinEvents]
    · rw [schema, List.length_append, List.length_map]
  skipped := by
    rw [withMessage_events_compile h (by decide) (by decide), withMessage_skipped_recordEvents,
      Event.withMessage_eq_nil_of_mem (c.message_of_mem_joinEvents records) (by decide),
      List.append_nil]

/-- A pass with an error has reported the tables of the records before it and nothing later. -/
theorem withMessage_events_compile_of_error {c : Compiler ρ} {before : List (Record ρ)}
    {r : Record ρ} {e : SchemaError} (hbefore : c.error? before = none)
    (hr : c.error? [r] = some e) (after : List (Record ρ)) {message : String}
    (hmessage : message ∉ ["compile", "Inheritance cycle detected; truncating", "Registered join",
      "Field is neither relation nor column; skipping"]) :
    Event.withMessage message (c.compile (before ++ r :: after)).events =
      Event.withMessage message (before.flatMap c.recordEvents) := by
  rw [List.mem_cons, not_or] at hmessage
  have hfirst : Event.withMessage message
      [.passStarted (before ++ r :: after).length c.config.dialect] = [] := by
    rw [Event.withMessage_eq_nil_iff, List.forall_mem_singleton]
    exact Ne.symm hmessage.1
  rw [events_compile_of_error hbefore hr, ← List.singleton_append, Event.withMessage_append, hfirst,
    Event.withMessage_append,
    Event.withMessage_eq_nil_of_mem (c.message_of_mem_scanEvents r _) hmessage.2, List.nil_append,
    List.append_nil]

/-- The log of every pass counts the relations between its tables. -/
theorem countsJoins_events_compile (c : Compiler ρ) (records : List (Record ρ)) :
    CountsJoins (c.compile records).events := by
  let start : Event := .passStarted records.length c.config.dialect
  have hnil : CountsJoins [] := fun _ _ _ _ _ _ h => by simp at h
  have hstart : CountsJoins [start] := hnil.append_others
    (List.forall_mem_singleton.2 (show "compile" ≠ "Compiling table" by decide))
  have hstart0 : joinsSinceTable [start] = 0 := rfl
  have htables : ∀ records : List (Record ρ),
      CountsJoins ([start] ++ records.flatMap c.recordEvents) :=
    hstart.append_flatMap_recordEvents hstart0 c
  cases h : c.error? records with
  | none =>
    rw [events_compile_of_ok h]
    have hjoins : ∀ e ∈ c.joinEvents records, e.message ≠ "Compiling table" :=
      Event.message_ne_of_mem (c.message_of_mem_joinEvents records) (by decide)
    have hstatements : ∀ e ∈ (c.schema records).map Event.statementGenerated,
        e.message ≠ "Compiling table" := by
      rw [List.forall_mem_map]
      exact fun _ _ => show "Generated DDL statement" ≠ "Compiling table" by decide
    have hlog := ((htables records).append_others hjoins).append_others hstatements
    rwa [List.append_assoc [start]] at hlog
  | some e =>
    obtain ⟨before, r, after, rfl, hbefore, hr⟩ := exists_split_of_error?_eq_some h
    rw [events_compile_of_error hbefore hr]
    have hscan : ∀ e ∈ c.scanEvents r (c.acceptedFields r), e.message ≠ "Compiling table" :=
      Event.message_ne_of_mem (c.message_of_mem_scanEvents r _) (by decide)
    exact (htables before).append_others hscan

theorem events_compileInto {σ : Type} (c : Compiler ρ) (records : List (Record ρ)) (sink : Sink σ)
    (store : σ) : (c.compileInto records sink store).1.events = (c.compile records).events := by
  cases h : (c.compile records).result with
  | ok statements => rw [compileInto_of_ok h]
  | error e => rw [compileInto_of_error h]

/-- What a pass reports is what it does. If it succeeds, its log accounts for its records and its
statements. If it fails, the log has the tables of the records before the one with the error, and
nothing of the schema after them. No count in it is the difference of a lesser and a greater
number. -/
theorem log_accounts_for_pass {σ : Type} (c : Compiler ρ) (records : List (Record ρ))
    (sink : Sink σ) (store : σ) :
    let pass := c.compileInto records sink store
    (∀ n, pass.1.result = .ok n → ∃ statements : List String,
      n = statements.length ∧ pass.2 = statements.foldl sink store ∧
        c.Accounts records statements pass.1.events) ∧
    (∀ e, pass.1.result = .error e → ∃ before r after, records = before ++ r :: after ∧
      (∀ r' ∈ before, ∃ out, (c.compile [r']).result = .ok out) ∧
      (c.compile [r]).result = .error e ∧
      Event.withMessage "Compiling table" pass.1.events = (before.map fun r =>
        .tableCompiled r.name (c.naming.table r) (c.columns r).length (c.joins [r]).length) ∧
      Event.withMessage "Compiling join table" pass.1.events = [] ∧
      Event.withMessage "Schema compiled" pass.1.events = [] ∧
      Event.withMessage "Generated DDL statement" pass.1.events = []) ∧
    -- each table has the number of relations registered since the table before it
    (∀ earlier later record table columns joins,
      pass.1.events = earlier ++ .tableCompiled record table columns joins :: later →
        joins = joinsSinceTable earlier) ∧
    -- the queue is never shorter after a record than before it
    (∀ (queue : JoinQueue ρ) (r : Record ρ) (scan : Scan ρ),
      ((r.allFields c.catalog).foldlM (c.addField r) ⟨[], queue⟩).result = .ok scan →
        queue.size ≤ scan.joins.size) ∧
    -- and there are at least as many statements as tables
    (∀ (tables : List String) (queue : JoinQueue ρ),
      (c.tableStatements .empty records).result = .ok (tables, queue) →
        tables.length = records.length ∧
          tables.length ≤ (tables ++ queue.drain.1.flatMap c.joinStatements).length) ∧
    -- a refused configuration ends a pass before anything is reported
    (∀ q : Request ρ, Config.isValidPrefix q.config.tablePrefix = false →
      (q.run sink store).1.events = []) := by
  intro pass
  have hevents : pass.1.events = (c.compile records).events := events_compileInto ..
  rw [hevents]
  refine ⟨fun n hn => ?_, fun e he => ?_, countsJoins_events_compile c records,
    fun queue r scan hscan => ?_, fun tables queue htables => ?_,
    fun q hq => by rw [Request.run_of_invalid hq]⟩
  · obtain ⟨herror, hlength⟩ := unlessError_eq_ok_iff.1
      ((result_compileInto c records sink store).symm.trans hn)
    refine ⟨c.schema records, hlength.symm, ?_, accounts_of_ok herror⟩
    have hstore := store_compileInto c records sink store
    rwa [herror] at hstore
  · obtain ⟨before, r, after, rfl, hbefore, hr⟩ :=
      exists_split_of_error?_eq_some (result_compileInto_eq_error_iff.1 he)
    have hmessages := message_of_mem_recordEvents c before
    have hlog := @withMessage_events_compile_of_error ρ c before r e hbefore hr after
    refine ⟨before, r, after, rfl, fun r' hr' => ?_, ?_, ?_, ?_, ?_, ?_⟩
    · exact ⟨_, result_compile_eq_ok_iff.2 ⟨error?_eq_none_iff_forall.1 hbefore r' hr', rfl⟩⟩
    · rw [result_compile, unlessError_eq_error_iff, hr]
    · rw [hlog (by decide), withMessage_table_recordEvents]
      rfl
    · rw [hlog (by decide), Event.withMessage_eq_nil_of_mem hmessages (by decide)]
    · rw [hlog (by decide), Event.withMessage_eq_nil_of_mem hmessages (by decide)]
    · rw [hlog (by decide), Event.withMessage_eq_nil_of_mem hmessages (by decide)]
  · rw [result_foldlM_addField, unlessError_eq_ok_iff] at hscan
    rw [← hscan.2, JoinQueue.size, JoinQueue.size, List.length_append]
    exact Nat.le_add_right ..
  · rw [result_tableStatements, unlessError_eq_ok_iff, Prod.mk.injEq] at htables
    rw [← htables.2.1, List.length_append, List.length_map]
    exact ⟨rfl, Nat.le_add_right ..⟩

/-- The library's batch is accounted for in ten statements. Where nobody knows the books, the tables
before the editor's are reported and no others. -/
theorem log_accounts_for_pass_shelf :
    (∃ statements : List String, statements.length = 10 ∧
      Shelf.compiler.Accounts Shelf.batch statements
        (Shelf.compiler.compileInto Shelf.batch (fun n _ => n + 1) 0).1.events) ∧
    let c : Compiler Shelf := { Shelf.compiler with resolve := fun _ => none }
    let records := [Shelf.catalog .book, Shelf.catalog .editor]
    ∃ before r after, records = before ++ r :: after ∧
      (c.compile [r]).result =
        .error (.unknownElement "library::Editor" "books" "library::Book") ∧
      Event.withMessage "Compiling table" (c.compileInto records (fun n _ => n + 1) 0).1.events =
        before.map fun r =>
          .tableCompiled r.name (c.naming.table r) (c.columns r).length (c.joins [r]).length := by
  have hten : (Shelf.compiler.compileInto Shelf.batch (fun n _ => n + 1) 0).1.result = .ok 10 := rfl
  obtain ⟨statements, hlength, -, haccounts⟩ :=
    (log_accounts_for_pass Shelf.compiler Shelf.batch (fun n _ => n + 1) 0).1 10 hten
  refine ⟨⟨statements, hlength.symm, haccounts⟩, ?_⟩
  intro c records
  have herror : (c.compileInto records (fun n _ => n + 1) 0).1.result =
      .error (.unknownElement "library::Editor" "books" "library::Book") := rfl
  obtain ⟨before, r, after, hsplit, -, hr, htables, -⟩ :=
    (log_accounts_for_pass c records (fun n _ => n + 1) 0).2.1 _ herror
  exact ⟨before, r, after, hsplit, hr, htables⟩

end Compiler

end RecordSchema
