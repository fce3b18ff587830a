import RecordSchema.Pass
import Mathlib.Data.Finset.Card
import Mathlib.Data.List.Induction

/-!
# What a registry says of its history

A registry forgets most of the registrations that led to it. What is left of them is a function of
the whole history: the last registration of a name is what the name stands for, and the first one
fixes its place. The invariant behind it is that the map and the order are in step
(`Registry.InStep`): the order lists the keys of the map, each once, and every type is held under
its own name. One registration keeps it, so every history does.
-/

namespace RecordSchema

variable {ρ : Type}

namespace Registry

/-- A registration: of a record under its name, or of the name of a plain type. -/
def register (catalog : Catalog ρ) (g : Registry ρ) : Registered ρ → Registry ρ
  | .record ref => g.insertRecord catalog ref
  | .plain name => g.insertPlain name

/-- The registry that a history of registrations leads to. -/
def ofHistory (catalog : Catalog ρ) (history : List (Registered ρ)) : Registry ρ :=
  history.foldl (register catalog) empty

/-- The names of a history in the order of their first registrations. -/
def firstNames (catalog : Catalog ρ) (history : List (Registered ρ)) : List String :=
  (history.map (Registered.name catalog)).eraseDups

/-- What a name was registered as last. -/
def lastNamed (catalog : Catalog ρ) (history : List (Registered ρ)) (name : String) :
    Option (Registered ρ) :=
  (history.filter fun type => type.name catalog == name).getLast?

/-! ## Histories grow at the end -/

section History

variable (catalog : Catalog ρ) (history : List (Registered ρ))

theorem register_eq_insert (g : Registry ρ) (type : Registered ρ) :
    register catalog g type = g.insert (type.name catalog) type := by
  cases type <;> rfl

theorem ofHistory_append (later : List (Registered ρ)) :
    ofHistory catalog (history ++ later) =
      later.foldl (register catalog) (ofHistory catalog history) :=
  List.foldl_append

theorem ofHistory_concat (type : Registered ρ) :
    ofHistory catalog (history ++ [type]) =
      (ofHistory catalog history).insert (type.name catalog) type := by
  rw [ofHistory_append, ← register_eq_insert]
  rfl

theorem lastNamed_concat (type : Registered ρ) (name : String) :
    lastNamed catalog (history ++ [type]) name =
      if type.name catalog == name then some type else lastNamed catalog history name := by
  unfold lastNamed
  rw [List.filter_append]
  by_cases h : (type.name catalog == name) = true <;> simp [h]

theorem firstNames_concat (type : Registered ρ) :
    firstNames catalog (history ++ [type]) =
      if type.name catalog ∈ firstNames catalog history then firstNames catalog history
      else firstNames catalog history ++ [type.name catalog] := by
  unfold firstNames
  rw [List.map_append]
  generalize history.map (Registered.name catalog) = names
  rw [List.eraseDups_append]
  by_cases h : type.name catalog ∈ names
  · rw [if_pos (List.mem_eraseDups.2 h)]
    simp [List.removeAll, h]
  · rw [if_neg (h ∘ List.mem_eraseDups.1)]
    simp [List.removeAll, h, List.eraseDups_cons]

theorem lastNamed_eq_none_iff (name : String) :
    lastNamed catalog history name = none ↔ ∀ type ∈ history, type.name catalog ≠ name := by
  simp [lastNamed]

end History

/-! ## Map and order in step -/

/-- The order lists the names the map holds a type for, each once, and every type is held under its
own name. -/
structure InStep (catalog : Catalog ρ) (g : Registry ρ) : Prop where
  nodup_order : g.order.Nodup
  mem_order_iff : ∀ name, name ∈ g.order ↔ g.contains name = true
  size_eq : g.size = g.order.length
  name_eq : ∀ {name type}, g.resolve name = some type → type.name catalog = name

namespace InStep

variable {catalog : Catalog ρ} {g : Registry ρ}

theorem empty : InStep catalog (empty : Registry ρ) where
  nodup_order := List.nodup_nil
  mem_order_iff name := by simp
  size_eq := size_empty
  name_eq h := by simp at h

/-- Registering a type under its name keeps map and order in step. -/
theorem insert (h : g.InStep catalog) (type : Registered ρ) :
    (g.insert (type.name catalog) type).InStep catalog where
  nodup_order := by
    rw [order_insert]
    split
    · exact h.nodup_order
    · next hn =>
      rw [← h.mem_order_iff] at hn
      exact List.nodup_append.2 ⟨h.nodup_order, List.nodup_singleton _, fun a ha b hb he =>
        hn (List.mem_singleton.1 hb ▸ he ▸ ha)⟩
  mem_order_iff name := by
    have hold := h.mem_order_iff name
    rw [order_insert, contains_insert, Bool.or_eq_true, beq_iff_eq, ← hold]
    split
    · next hc =>
      rw [← h.mem_order_iff] at hc
      exact ⟨.inr, fun hn => hn.elim (fun he => he ▸ hc) id⟩
    · rw [List.mem_append, List.mem_singleton, or_comm, eq_comm]
  size_eq := by
    rw [size_insert, order_insert, h.size_eq]
    split <;> simp
  name_eq {name other} hr := by
    rw [resolve_insert] at hr
    split at hr
    · next hn => cases hr; exact eq_of_beq hn
    · exact h.name_eq hr

end InStep

theorem inStep_ofHistory (catalog : Catalog ρ) (history : List (Registered ρ)) :
    (ofHistory catalog history).InStep catalog := by
  induction history using List.reverseRecOn with
  | nil => exact .empty
  | append_singleton history type ih =>
    rw [ofHistory_concat]
    exact ih.insert type

/-! ## What is left of a history -/

theorem resolve_ofHistory (catalog : Catalog ρ) (history : List (Registered ρ)) (name : String) :
    (ofHistory catalog history).resolve name = lastNamed catalog history name := by
  induction history using List.reverseRecOn with
  | nil => exact resolve_empty name
  | append_singleton history type ih =>
    rw [ofHistory_concat, resolve_insert, lastNamed_concat, ih]

theorem order_ofHistory (catalog : Catalog ρ) (history : List (Registered ρ)) :
    (ofHistory catalog history).order = firstNames catalog history := by
  induction history using List.reverseRecOn with
  | nil => rfl
  | append_singleton history type ih =>
    have hmem := (inStep_ofHistory catalog history).mem_order_iff (type.name catalog)
    rw [ofHistory_concat, order_insert, firstNames_concat, ← ih]
    by_cases h : type.name catalog ∈ (ofHistory catalog history).order
    · rw [if_pos (hmem.1 h), if_pos h]
    · rw [if_neg (fun hc => h (hmem.2 hc)), if_neg h]

theorem records_ofHistory (catalog : Catalog ρ) (history : List (Registered ρ)) :
    (ofHistory catalog history).records =
      (firstNames catalog history).filterMap fun name =>
        (lastNamed catalog history name).bind Registered.record? := by
  rw [records, order_ofHistory]
  simp only [resolve_ofHistory]

theorem size_ofHistory (catalog : Catalog ρ) (history : List (Registered ρ)) :
    (ofHistory catalog history).size = (history.map (Registered.name catalog)).toFinset.card := by
  have h := inStep_ofHistory catalog history
  rw [h.size_eq, ← List.toFinset_card_of_nodup h.nodup_order, order_ofHistory]
  congr 1
  ext name
  rw [List.mem_toFinset, List.mem_toFinset, firstNames, List.mem_eraseDups]

namespace InStep

variable {catalog : Catalog ρ} {g : Registry ρ}

theorem name_eq_of_record (h : g.InStep catalog) {name : String} {r : ρ}
    (hr : g.resolve name = some (.record r)) : (catalog r).name = name :=
  h.name_eq hr

theorem mem_order_of_resolve (h : g.InStep catalog) {name : String} {type : Registered ρ}
    (hr : g.resolve name = some type) : name ∈ g.order := by
  rw [h.mem_order_iff, contains_eq_isSome_resolve, hr]
  rfl

/-- The records of a registry are those that their own names stand for. -/
theorem mem_records_iff (h : g.InStep catalog) {r : ρ} :
    r ∈ g.records ↔ g.resolve (catalog r).name = some (.record r) := by
  simp only [records, List.mem_filterMap, Registered.bind_record?_eq_some_iff]
  constructor
  · rintro ⟨name, -, hr⟩
    rw [h.name_eq_of_record hr]
    exact hr
  · intro hr
    exact ⟨_, h.mem_order_of_resolve hr, hr⟩

/-- The names of the records are the names in order that stand for a record. -/
theorem map_name_records (h : g.InStep catalog) :
    (g.records.map fun r => (catalog r).name) = g.order.filter g.isPersistable := by
  unfold records
  induction g.order with
  | nil => rfl
  | cons name names ih =>
    cases hr : g.resolve name with
    | none => simp [hr, ih, isPersistable]
    | some type =>
      cases type with
      | plain n => simp [hr, ih, isPersistable, Registered.record?, Registered.isPersistable]
      | record r =>
        simp [hr, ih, isPersistable, Registered.record?, Registered.isPersistable,
          h.name_eq_of_record hr]

theorem nodup_map_name_records (h : g.InStep catalog) :
    (g.records.map fun r => (catalog r).name).Nodup := by
  rw [h.map_name_records]
  exact h.nodup_order.filter _

theorem isPersistable_iff (h : g.InStep catalog) {name : String} :
    g.isPersistable name = true ↔ ∃ r ∈ g.records, (catalog r).name = name := by
  rw [← List.mem_map, h.map_name_records, List.mem_filter, iff_and_self]
  intro hp
  obtain ⟨type, hr, -⟩ := (Option.any_eq_true _ _).1 hp
  exact h.mem_order_of_resolve hr

end InStep

/-! ## What can be seen of a registry -/

/-- Two registries with one order whose names stand for the same. How their maps are laid out does
not show. -/
structure Agrees (g g' : Registry ρ) : Prop where
  order_eq : g.order = g'.order
  resolve_eq : ∀ name, g.resolve name = g'.resolve name

namespace Agrees

variable {g g' g'' : Registry ρ}

theorem trans (h : g.Agrees g') (h' : g'.Agrees g'') : g.Agrees g'' :=
  ⟨h.order_eq.trans h'.order_eq, fun name => (h.resolve_eq name).trans (h'.resolve_eq name)⟩

theorem records_eq (h : g.Agrees g') : g.records = g'.records := by
  unfold records
  rw [h.order_eq]
  simp only [h.resolve_eq]

theorem createSchema_eq (h : g.Agrees g') (catalog : Catalog ρ) (config : Config) :
    g.createSchema catalog config = g'.createSchema catalog config := by
  unfold createSchema compileInto
  rw [h.records_eq, funext h.resolve_eq]

end Agrees

/-- Of two registrations of a name in a row the second one alone counts. -/
theorem insert_insert_agrees (g : Registry ρ) (name : String) (type type' : Registered ρ) :
    ((g.insert name type).insert name type').Agrees (g.insert name type') where
  order_eq := by
    rw [order_insert, contains_insert, beq_self_eq_true, Bool.true_or, if_pos rfl, order_insert,
      order_insert]
  resolve_eq other := by
    simp only [resolve_insert]
    split <;> rfl

namespace InStep

variable {catalog : Catalog ρ} {g : Registry ρ}

/-- Registering a record again that its name stands for already changes nothing that shows. -/
theorem insertRecord_agrees (h : g.InStep catalog) {r : ρ}
    (hr : g.resolve (catalog r).name = some (.record r)) :
    (g.insertRecord catalog r).Agrees g where
  order_eq := if_pos ((h.mem_order_iff _).1 (h.mem_order_of_resolve hr))
  resolve_eq name := by
    rw [insertRecord, resolve_insert]
    split
    · next hn => rw [← eq_of_beq hn, hr]
    · rfl

/-- A name that is registered as that of a plain type takes its record out, and no other. -/
theorem records_insertPlain (h : g.InStep catalog) (name : String) :
    (g.insertPlain name).records = g.records.filter fun r => (catalog r).name != name := by
  have hnone : ((g.insertPlain name).resolve name).bind Registered.record? = none := by
    simp [insertPlain, Registered.record?]
  have horder : (g.insertPlain name).records = g.order.filterMap fun other =>
      ((g.insertPlain name).resolve other).bind Registered.record? := by
    rw [records, insertPlain, order_insert]
    split
    · rfl
    · rw [List.filterMap_append, ← insertPlain]
      simp [hnone]
  rw [horder, records, List.filter_filterMap]
  apply List.filterMap_congr
  intro other _
  ext r
  rw [Option.filter_eq_some_iff, Registered.bind_record?_eq_some_iff,
    Registered.bind_record?_eq_some_iff, insertPlain, resolve_insert]
  split
  · next hn =>
    constructor
    · intro hr
      cases hr
    · rintro ⟨hr, hne⟩
      rw [h.name_eq_of_record hr, ← eq_of_beq hn] at hne
      simp at hne
  · next hn =>
    refine ⟨fun hr => ⟨hr, ?_⟩, And.left⟩
    rw [h.name_eq_of_record hr, bne_comm]
    simpa using hn

end InStep

/-- Histories with the same names in the order of their first registrations, and the same last
registration of each name, lead to registries that agree. -/
theorem ofHistory_agrees {catalog : Catalog ρ} {history history' : List (Registered ρ)}
    (hfirst : firstNames catalog history = firstNames catalog history')
    (hlast : ∀ name, lastNamed catalog history name = lastNamed catalog history' name) :
    (ofHistory catalog history).Agrees (ofHistory catalog history') where
  order_eq := by rw [order_ofHistory, order_ofHistory, hfirst]
  resolve_eq name := by rw [resolve_ofHistory, resolve_ofHistory, hlast]

/-- The first registration of a name fixes its place in a registry, the last one what it stands for,
and nothing else of a history is left. -/
theorem ofHistory_first_place_last_value (catalog : Catalog ρ) (history : List (Registered ρ)) :
    let g := ofHistory catalog history
    -- a name stands for its last registration
    (∀ name, g.resolve name = lastNamed catalog history name) ∧
    (∀ name, g.resolve name = none ↔ ∀ type ∈ history, type.name catalog ≠ name) ∧
    (∀ name type, g.resolve name = some type → type.name catalog = name) ∧
    -- the order lists the keys of the map, each once
    g.order.Nodup ∧ (∀ name, name ∈ g.order ↔ name ∈ g.types) ∧
    g.size = (history.map (Registered.name catalog)).toFinset.card ∧
    -- the records stand in the order of the first registrations of their names
    g.records = (firstNames catalog history).filterMap (fun name =>
      (lastNamed catalog history name).bind Registered.record?) ∧
    (g.records.map fun r => (catalog r).name).Nodup ∧
    (∀ name, g.isPersistable name = true ↔ ∃ r ∈ g.records, (catalog r).name = name) ∧
    -- a plain type takes the record of its name out, until it is registered in its old place again
    (∀ name, (ofHistory catalog (history ++ [.plain name])).records =
      g.records.filter fun r => (catalog r).name != name) ∧
    (∀ r ∈ g.records,
      (ofHistory catalog (history ++ [.plain (catalog r).name, .record r])).records = g.records) ∧
    -- registering a current record again does not show
    (∀ r, g.resolve (catalog r).name = some (.record r) →
      (g.insertRecord catalog r).records = g.records ∧
        ∀ config, (g.insertRecord catalog r).createSchema catalog config =
          g.createSchema catalog config) ∧
    -- a schema depends on the order of first registrations and on the last ones
    (∀ history', firstNames catalog history' = firstNames catalog history →
      (∀ name, lastNamed catalog history' name = lastNamed catalog history name) →
        ∀ config, (ofHistory catalog history').createSchema catalog config =
          g.createSchema catalog config) := by
  intro g
  have h : g.InStep catalog := inStep_ofHistory catalog history
  refine ⟨resolve_ofHistory catalog history, fun name => ?_, fun name type hr => h.name_eq hr,
    h.nodup_order, fun name => ?_, size_ofHistory catalog history,
    records_ofHistory catalog history, h.nodup_map_name_records, fun name => h.isPersistable_iff,
    fun name => ?_, fun r hr => ?_, fun r hr => ?_, fun history' hfirst hlast config => ?_⟩
  · rw [resolve_ofHistory, lastNamed_eq_none_iff]
  · rw [h.mem_order_iff, contains, Std.HashMap.contains_iff_mem]
  · rw [ofHistory_concat]
    exact h.records_insertPlain name
  · have hagrees : ((g.insertPlain (catalog r).name).insertRecord catalog r).Agrees g :=
      (insert_insert_agrees g _ _ _).trans (h.insertRecord_agrees (h.mem_records_iff.1 hr))
    rw [ofHistory_append]
    exact hagrees.records_eq
  · have hagrees := h.insertRecord_agrees hr
    exact ⟨hagrees.records_eq, hagrees.createSchema_eq catalog⟩
  · exact (ofHistory_agrees hfirst hlast).createSchema_eq catalog config

end Registry

end RecordSchema
