import Mathlib.Data.List.Forall2
import RecordSchema.Declaration.Definition
import RecordSchema.Proofs.Declaration.Entries

/-!
# What definitions are made from

The items that a definition is made from, and what is wrong with the others. An attribute says its
entries or is refused (`Attribute.Says`, `Attribute.Refused`), and of several attributes or fields
the first one that is refused is the one reported (`FirstRefused`). An item makes a definition if
none of its parts is refused (`Item.Makes`); otherwise the refusal that comes first in the order of
the checks is the error (`Item.Refused`). There are no other results, and what a definition carries
is well-formed (`Definition.ofItem_accepts_wellFormed`).
-/

namespace RecordSchema.Declaration

/-- The first of several things that is refused, all before it being accepted. -/
inductive FirstRefused {α : Type} (Accepted : α → Prop) (Refused : α → DefinitionError → Prop) :
    List α → DefinitionError → Prop
  | here {a : α} {as : List α} {error : DefinitionError} (h : Refused a error) :
    FirstRefused Accepted Refused (a :: as) error
  | later {a : α} {as : List α} {error : DefinitionError} (h : Accepted a)
    (hs : FirstRefused Accepted Refused as error) : FirstRefused Accepted Refused (a :: as) error

theorem forall_or_firstRefused {α : Type} {Accepted : α → Prop}
    {Refused : α → DefinitionError → Prop}
    (h : ∀ a, Accepted a ∨ ∃ error, Refused a error) (as : List α) :
    (∀ a ∈ as, Accepted a) ∨ ∃ error, FirstRefused Accepted Refused as error := by
  induction as with
  | nil => exact .inl nofun
  | cons a as ih =>
    rcases h a with ha | ⟨error, ha⟩
    · rcases ih with has | ⟨error, has⟩
      · exact .inl (List.forall_mem_cons.2 ⟨ha, has⟩)
      · exact .inr ⟨error, .later ha has⟩
    · exact .inr ⟨error, .here ha⟩

/-! ## Attributes -/

namespace Attribute

variable {ε : Type} {v : Vocabulary ε} {a : Attribute} {as : List Attribute}

/-- What an attribute says: its entries, or nothing if it is not for records. -/
inductive Says (v : Vocabulary ε) (a : Attribute) : List ε → Prop
  | other (h : a.path ≠ [.word "record"]) : Says v a []
  | entries {content : List Tree} {es : List ε} (hp : a.path = [.word "record"])
    (hb : a.body = .list content) (h : Entries v content es none) : Says v a es

/-- What is wrong with an attribute for records. -/
inductive Refused (v : Vocabulary ε) (a : Attribute) : DefinitionError → Prop
  | noArguments (hp : a.path = [.word "record"]) (hb : a.body = .none) : Refused v a .noArguments
  | notAList (hp : a.path = [.word "record"]) (hb : a.body = .value) : Refused v a .notAList
  | entries {content : List Tree} {error : DefinitionError} (hp : a.path = [.word "record"])
    (hb : a.body = .list content) (h : EntriesRefused v content error) : Refused v a error
  | leftOver {content : List Tree} {es : List ε} {d : Delimiter} (hp : a.path = [.word "record"])
    (hb : a.body = .list content) (h : Entries v content es (some d)) :
    Refused v a (.refused (.leftOver (some d)))

/-- An attribute that is not refused. -/
def Accepted (v : Vocabulary ε) (a : Attribute) : Prop := ∃ es, a.Says v es

/-- What several attributes say. -/
inductive SayAll (v : Vocabulary ε) : List Attribute → List ε → Prop
  | nil : SayAll v [] []
  | cons {a : Attribute} {as : List Attribute} {es es' : List ε} (h : a.Says v es)
    (hs : SayAll v as es') : SayAll v (a :: as) (es ++ es')

theorem isRecord_iff : a.isRecord = true ↔ a.path = [.word "record"] := by
  unfold isRecord
  split
  · next w hw => simp [hw]
  · next hw =>
    constructor
    · exact nofun
    · intro h
      exact absurd h (hw _)

theorem accepted_or_refused (v : Vocabulary ε) (a : Attribute) :
    a.Accepted v ∨ ∃ error, a.Refused v error := by
  by_cases hp : a.path = [.word "record"]
  · cases hb : a.body with
    | none => exact .inr ⟨_, .noArguments hp hb⟩
    | value => exact .inr ⟨_, .notAList hp hb⟩
    | list content =>
      rcases entries_or_refused v content with ⟨es, _ | d, h⟩ | ⟨error, h⟩
      · exact .inl ⟨es, .entries hp hb h⟩
      · exact .inr ⟨_, .leftOver hp hb h⟩
      · exact .inr ⟨error, .entries hp hb h⟩
  · exact .inl ⟨[], .other hp⟩

theorem entries_of_list {content : List Tree} (hp : a.path = [.word "record"])
    (hb : a.body = .list content) :
    a.entries v = Reader.all (fun d => .refused (.leftOver d)) (Entry.list v) content := by
  rw [entries, if_pos (isRecord_iff.2 hp), hb]
  rfl

theorem Says.entries_eq {es : List ε} (h : a.Says v es) : a.entries v = .ok es := by
  cases h with
  | other h => exact entries_of_not_isRecord (Bool.eq_false_iff.2 (mt isRecord_iff.1 h))
  | entries hp hb h =>
    obtain ⟨taken, hrun⟩ := h.run
    rw [entries_of_list hp hb, Reader.all, hrun]
    rfl

theorem Refused.entries_eq {error : DefinitionError} (h : a.Refused v error) :
    a.entries v = .error error := by
  cases h with
  | noArguments hp hb => rw [Attribute.entries, if_pos (isRecord_iff.2 hp), hb]
  | notAList hp hb => rw [Attribute.entries, if_pos (isRecord_iff.2 hp), hb]
  | entries hp hb h => rw [entries_of_list hp hb, Reader.all, h.run]
  | leftOver hp hb h =>
    obtain ⟨taken, hrun⟩ := h.run
    rw [entries_of_list hp hb, Reader.all, hrun]

theorem SayAll.allEntries_eq {es : List ε} (h : SayAll v as es) : allEntries v as = .ok es := by
  induction h with
  | nil => rfl
  | cons h _ ih =>
    rw [allEntries, h.entries_eq, ih]
    rfl

theorem allEntries_of_firstRefused {error : DefinitionError}
    (h : FirstRefused (Accepted v) (Refused v) as error) : allEntries v as = .error error := by
  induction h with
  | here h =>
    rw [allEntries, h.entries_eq]
    rfl
  | later h _ ih =>
    obtain ⟨es, h⟩ := h
    rw [allEntries, h.entries_eq, ih]
    rfl

theorem exists_sayAll (h : ∀ a ∈ as, a.Accepted v) : ∃ es, SayAll v as es := by
  induction as with
  | nil => exact ⟨[], .nil⟩
  | cons a as ih =>
    obtain ⟨⟨es, ha⟩, has⟩ := List.forall_mem_cons.1 h
    obtain ⟨es', hs⟩ := ih has
    exact ⟨es ++ es', .cons ha hs⟩

theorem SayAll.accepted {es : List ε} (h : SayAll v as es) : ∀ a ∈ as, a.Accepted v := by
  induction h with
  | nil => exact nofun
  | cons h _ ih => exact List.forall_mem_cons.2 ⟨⟨_, h⟩, ih⟩

end Attribute

/-! ## Fields -/

namespace FieldDeclaration

/-- A field none of whose attributes is refused. -/
def Accepted (f : FieldDeclaration) : Prop :=
  ∀ a ∈ f.attributes, a.Accepted FieldEntry.vocabulary

/-- What is wrong with a field: its first attribute that is refused. -/
def Refused (f : FieldDeclaration) : DefinitionError → Prop :=
  FirstRefused (Attribute.Accepted FieldEntry.vocabulary) (Attribute.Refused FieldEntry.vocabulary)
    f.attributes

/-- The definition that a field makes. -/
def Makes (f : FieldDeclaration) (d : FieldDefinition) : Prop :=
  ∃ es, Attribute.SayAll FieldEntry.vocabulary f.attributes es ∧
    d = es.foldl FieldDefinition.add { name := f.name, type := f.type }

variable {f : FieldDeclaration}

theorem accepted_or_refused (f : FieldDeclaration) : f.Accepted ∨ ∃ error, f.Refused error :=
  forall_or_firstRefused (Attribute.accepted_or_refused _) f.attributes

theorem Accepted.exists_makes (h : f.Accepted) : ∃ d, f.Makes d := by
  obtain ⟨es, hes⟩ := Attribute.exists_sayAll h
  exact ⟨_, es, hes, rfl⟩

theorem Makes.accepted {d : FieldDefinition} (h : f.Makes d) : f.Accepted := by
  obtain ⟨es, hes, -⟩ := h
  exact hes.accepted

theorem exists_forall₂_makes {fs : List FieldDeclaration} (h : ∀ f ∈ fs, f.Accepted) :
    ∃ ds, List.Forall₂ Makes fs ds := by
  induction fs with
  | nil => exact ⟨[], .nil⟩
  | cons f fs ih =>
    obtain ⟨hf, hfs⟩ := List.forall_mem_cons.1 h
    obtain ⟨d, hd⟩ := hf.exists_makes
    obtain ⟨ds, hds⟩ := ih hfs
    exact ⟨d :: ds, .cons hd hds⟩

theorem accepted_of_forall₂_makes {fs : List FieldDeclaration} {ds : List FieldDefinition}
    (h : List.Forall₂ Makes fs ds) : ∀ f ∈ fs, f.Accepted := by
  induction h with
  | nil => exact nofun
  | cons h _ ih => exact List.forall_mem_cons.2 ⟨h.accepted, ih⟩

theorem Makes.ofDeclaration_eq {d : FieldDefinition} (h : f.Makes d) :
    FieldDefinition.ofDeclaration f = .ok d := by
  obtain ⟨es, hes, rfl⟩ := h
  rw [FieldDefinition.ofDeclaration, hes.allEntries_eq]
  rfl

theorem Refused.ofDeclaration_eq {error : DefinitionError} (h : f.Refused error) :
    FieldDefinition.ofDeclaration f = .error error := by
  rw [FieldDefinition.ofDeclaration, Attribute.allEntries_of_firstRefused h]
  rfl

end FieldDeclaration

namespace Definition

theorem fieldDefinitions_of_makes {fs : List FieldDeclaration} {ds : List FieldDefinition}
    (h : List.Forall₂ FieldDeclaration.Makes fs ds) : fieldDefinitions fs = .ok ds := by
  induction h with
  | nil => rfl
  | cons h _ ih =>
    rw [fieldDefinitions, h.ofDeclaration_eq, ih]
    rfl

theorem fieldDefinitions_of_firstRefused {fs : List FieldDeclaration} {error : DefinitionError}
    (h : FirstRefused FieldDeclaration.Accepted FieldDeclaration.Refused fs error) :
    fieldDefinitions fs = .error error := by
  induction h with
  | here h =>
    rw [fieldDefinitions, h.ofDeclaration_eq]
    rfl
  | later h _ ih =>
    obtain ⟨d, h⟩ := h.exists_makes
    rw [fieldDefinitions, h.ofDeclaration_eq, ih]
    rfl

end Definition

/-! ## Items -/

/-- The fields of an item that is a struct with named fields or with none. -/
inductive ItemBody.Fields : ItemBody → List FieldDeclaration → Prop
  | named {fs : List FieldDeclaration} : Fields (.named fs) fs
  | unit : Fields .unit []

/-- The kinds of items that no record can be derived for. -/
inductive ItemBody.Refused : ItemBody → DefinitionError → Prop
  | tuple : Refused .tuple .unnamedFields
  | enum : Refused .enum (.notAStruct "enums")
  | union : Refused .union (.notAStruct "unions")

namespace ItemBody

theorem fields_or_refused (body : ItemBody) :
    (∃ fs, body.Fields fs) ∨ ∃ error, body.Refused error := by
  cases body with
  | named fs => exact .inl ⟨fs, .named⟩
  | unit => exact .inl ⟨[], .unit⟩
  | tuple => exact .inr ⟨_, .tuple⟩
  | enum => exact .inr ⟨_, .enum⟩
  | union => exact .inr ⟨_, .union⟩

theorem Fields.fieldsOf_eq {body : ItemBody} {fs : List FieldDeclaration} (h : body.Fields fs) :
    Definition.fieldsOf body = .ok fs := by
  cases h <;> rfl

theorem Refused.fieldsOf_eq {body : ItemBody} {error : DefinitionError} (h : body.Refused error) :
    Definition.fieldsOf body = .error error := by
  cases h <;> rfl

end ItemBody

namespace Item

/-- An item that has no parameters and is a struct with named fields or with none, and none of
whose attributes is refused. -/
structure Accepted (item : Item) : Prop where
  not_generic : item.isGeneric = false
  fields : ∃ fs, item.body.Fields fs ∧ ∀ f ∈ fs, f.Accepted
  attributes : ∀ a ∈ item.attributes, a.Accepted StructEntry.vocabulary

/-- What is wrong with an item: first its parameters, then its kind, then the first field that is
refused, and then the first of its own attributes that is. -/
inductive Refused (item : Item) : DefinitionError → Prop
  | generic (h : item.isGeneric = true) : Refused item .generic
  | kind {error : DefinitionError} (hg : item.isGeneric = false) (h : item.body.Refused error) :
    Refused item error
  | field {fs : List FieldDeclaration} {error : DefinitionError} (hg : item.isGeneric = false)
    (hb : item.body.Fields fs)
    (h : FirstRefused FieldDeclaration.Accepted FieldDeclaration.Refused fs error) :
    Refused item error
  | own {fs : List FieldDeclaration} {error : DefinitionError}
    (hg : item.isGeneric = false) (hb : item.body.Fields fs) (hfs : ∀ f ∈ fs, f.Accepted)
    (h : FirstRefused (Attribute.Accepted StructEntry.vocabulary)
      (Attribute.Refused StructEntry.vocabulary) item.attributes error) : Refused item error

/-- The definition that an item makes: one field after the other, and what its own attributes
say. -/
inductive Makes (item : Item) : Definition → Prop
  | intro {fs : List FieldDeclaration} {ds : List FieldDefinition} {es : List StructEntry}
    (hg : item.isGeneric = false) (hb : item.body.Fields fs)
    (hds : List.Forall₂ FieldDeclaration.Makes fs ds)
    (hes : Attribute.SayAll StructEntry.vocabulary item.attributes es) :
    Makes item (es.foldl Definition.add { name := item.name, fields := ds })

variable {item : Item}

theorem accepted_or_refused (item : Item) : item.Accepted ∨ ∃ error, item.Refused error := by
  cases hg : item.isGeneric with
  | true => exact .inr ⟨_, .generic hg⟩
  | false =>
    rcases item.body.fields_or_refused with ⟨fs, hb⟩ | ⟨error, hb⟩
    · rcases forall_or_firstRefused FieldDeclaration.accepted_or_refused fs with
        hfs | ⟨error, hfs⟩
      · rcases forall_or_firstRefused (Attribute.accepted_or_refused StructEntry.vocabulary)
          item.attributes with has | ⟨error, has⟩
        · exact .inl ⟨hg, ⟨fs, hb, hfs⟩, has⟩
        · exact .inr ⟨error, .own hg hb hfs has⟩
      · exact .inr ⟨error, .field hg hb hfs⟩
    · exact .inr ⟨error, .kind hg hb⟩

theorem Accepted.exists_makes (h : item.Accepted) : ∃ d, item.Makes d := by
  obtain ⟨hg, ⟨fs, hb, hfs⟩, has⟩ := h
  obtain ⟨ds, hds⟩ := FieldDeclaration.exists_forall₂_makes hfs
  obtain ⟨es, hes⟩ := Attribute.exists_sayAll has
  exact ⟨_, .intro hg hb hds hes⟩

theorem Makes.accepted {d : Definition} (h : item.Makes d) : item.Accepted := by
  obtain ⟨hg, hb, hds, hes⟩ := h
  exact ⟨hg, ⟨_, hb, FieldDeclaration.accepted_of_forall₂_makes hds⟩, hes.accepted⟩

theorem ofItem_of_not_generic (h : item.isGeneric = false) :
    Definition.ofItem item = (do
      let fs ← Definition.fieldsOf item.body
      let ds ← Definition.fieldDefinitions fs
      let es ← Attribute.allEntries StructEntry.vocabulary item.attributes
      return es.foldl Definition.add { name := item.name, fields := ds }) := by
  rw [Definition.ofItem, h]
  rfl

theorem Makes.ofItem_eq {d : Definition} (h : item.Makes d) : Definition.ofItem item = .ok d := by
  obtain ⟨hg, hb, hds, hes⟩ := h
  rw [ofItem_of_not_generic hg, hb.fieldsOf_eq]
  exact bind_eq_ok_iff.2 ⟨_, rfl, bind_eq_ok_iff.2 ⟨_, Definition.fieldDefinitions_of_makes hds,
    bind_eq_ok_iff.2 ⟨_, hes.allEntries_eq, rfl⟩⟩⟩

theorem Refused.ofItem_eq {error : DefinitionError} (h : item.Refused error) :
    Definition.ofItem item = .error error := by
  cases h with
  | generic h =>
    rw [Definition.ofItem, h]
    rfl
  | kind hg h =>
    rw [ofItem_of_not_generic hg, h.fieldsOf_eq]
    rfl
  | field hg hb h =>
    rw [ofItem_of_not_generic hg, hb.fieldsOf_eq]
    exact bind_eq_error_iff.2 (.inr ⟨_, rfl, bind_eq_error_iff.2 (.inl
      (Definition.fieldDefinitions_of_firstRefused h))⟩)
  | own hg hb hfs h =>
    obtain ⟨ds, hds⟩ := FieldDeclaration.exists_forall₂_makes hfs
    rw [ofItem_of_not_generic hg, hb.fieldsOf_eq]
    exact bind_eq_error_iff.2 (.inr ⟨_, rfl, bind_eq_error_iff.2 (.inr
      ⟨ds, Definition.fieldDefinitions_of_makes hds,
        bind_eq_error_iff.2 (.inl (Attribute.allEntries_of_firstRefused h))⟩)⟩)

end Item

/-! ## Well-formed definitions -/

/-- A form whose entries all have a property. -/
def EntryForm.Ensures {ε : Type} (P : ε → Prop) : EntryForm ε → Prop
  | .flag e => P e
  | .text rule entry => ∀ s, rule.Admits s → P (entry s)
  | .path entry => ∀ p, P (entry p)

section

variable {ε : Type} {v : Vocabulary ε} {P : ε → Prop}

/-- A form belongs to the one word that is the key. -/
theorem Vocabulary.mem_of_form? {key : List Tree} {form : EntryForm ε}
    (h : v.form? key = some form) : ∃ w, key = [.word w] ∧ (w, form) ∈ v := by
  unfold Vocabulary.form? at h
  split at h
  · next w =>
    obtain ⟨⟨w', form⟩, hfind, rfl⟩ := Option.map_eq_some_iff.1 h
    have hw : (w' == w) = true :=
      List.find?_some (p := fun e : String × EntryForm ε => e.1 == w) hfind
    obtain rfl := beq_iff_eq.1 hw
    exact ⟨w', rfl, List.mem_of_find?_eq_some hfind⟩
  · cases h

theorem EntryAt.of_ensures (hv : ∀ p ∈ v, p.2.Ensures P) {ts rest : List Tree} {e : ε}
    {left : Option Delimiter} (h : EntryAt v ts e rest left) : P e := by
  obtain ⟨-, hf, hvalue⟩ := h
  obtain ⟨w, -, hmem⟩ := Vocabulary.mem_of_form? hf
  have hensures := hv _ hmem
  cases hvalue with
  | flag => exact hensures
  | text _ hs => exact hensures _ hs
  | path _ => exact hensures _

theorem Entries.of_ensures (hv : ∀ p ∈ v, p.2.Ensures P) {ts : List Tree} {es : List ε}
    {left : Option Delimiter} (h : Entries v ts es left) : ∀ e ∈ es, P e := by
  induction h with
  | nil => exact nofun
  | last h => exact List.forall_mem_singleton.2 (h.of_ensures hv)
  | cons h _ ih => exact List.forall_mem_cons.2 ⟨h.of_ensures hv, ih⟩

theorem Attribute.SayAll.of_ensures (hv : ∀ p ∈ v, p.2.Ensures P) {as : List Attribute}
    {es : List ε} (h : Attribute.SayAll v as es) : ∀ e ∈ es, P e := by
  induction h with
  | nil => exact nofun
  | cons h _ ih =>
    refine List.forall_mem_append.2 ⟨?_, ih⟩
    cases h with
    | other _ => exact nofun
    | entries _ _ h => exact h.of_ensures hv

end

/-- What an entry for a field carries is as its rule wants it. -/
def FieldEntry.WellFormed : FieldEntry → Prop
  | .ignored | .foreign => True
  | .list s => TextRule.elementType.Admits s
  | .column s => TextRule.columnName.Admits s
  | .sqlType s => TextRule.sqlType.Admits s

/-- What an entry for a struct carries is as its rule wants it. -/
def StructEntry.WellFormed : StructEntry → Prop
  | .table s => TextRule.tableName.Admits s
  | .name s => TextRule.typeName.Admits s
  | .parent _ => True

/-- The names and texts of a field are as their rules want them. -/
structure FieldDefinition.WellFormed (d : FieldDefinition) : Prop where
  list : ∀ s, d.list = some s → Text.TypePath s
  column : ∀ s, d.column = some s → Text.Identifier s
  sqlType : ∀ s, d.sqlType = some s → ∃ c ∈ s.toList, Text.isBlank c = false

/-- The names and texts of a struct and its fields are as their rules want them. -/
structure Definition.WellFormed (d : Definition) : Prop where
  table : ∀ s, d.table = some s → Text.Identifier s
  typeName : ∀ s, d.typeName = some s → Text.TypePath s
  fields : ∀ f ∈ d.fields, f.WellFormed

theorem FieldEntry.ensures_vocabulary :
    ∀ p ∈ FieldEntry.vocabulary, p.2.Ensures FieldEntry.WellFormed := by
  simp [FieldEntry.vocabulary, EntryForm.Ensures, FieldEntry.WellFormed]

theorem StructEntry.ensures_vocabulary :
    ∀ p ∈ StructEntry.vocabulary, p.2.Ensures StructEntry.WellFormed := by
  simp [StructEntry.vocabulary, EntryForm.Ensures, StructEntry.WellFormed]

namespace FieldDefinition

variable {d : FieldDefinition} {es : List FieldEntry}

theorem WellFormed.add {e : FieldEntry} (hd : d.WellFormed) (he : e.WellFormed) :
    (d.add e).WellFormed := by
  cases e with
  | ignored | foreign => exact ⟨hd.list, hd.column, hd.sqlType⟩
  | list s => exact ⟨fun _ h => Option.some.inj h ▸ he, hd.column, hd.sqlType⟩
  | column s => exact ⟨hd.list, fun _ h => Option.some.inj h ▸ he, hd.sqlType⟩
  | sqlType s => exact ⟨hd.list, hd.column, fun _ h => Option.some.inj h ▸ he⟩

theorem WellFormed.foldl_add (hd : d.WellFormed) (hes : ∀ e ∈ es, e.WellFormed) :
    (es.foldl FieldDefinition.add d).WellFormed := by
  induction es generalizing d with
  | nil => exact hd
  | cons e es ih =>
    obtain ⟨he, hes⟩ := List.forall_mem_cons.1 hes
    exact ih (hd.add he) hes

theorem name_type_foldl_add (d : FieldDefinition) (es : List FieldEntry) :
    (es.foldl add d).name = d.name ∧ (es.foldl add d).type = d.type := by
  induction es generalizing d with
  | nil => exact ⟨rfl, rfl⟩
  | cons e es ih =>
    obtain ⟨hname, htype⟩ := ih (d.add e)
    exact ⟨hname.trans (name_add d e), htype.trans (type_add d e)⟩

end FieldDefinition

namespace FieldDeclaration.Makes

variable {f : FieldDeclaration} {d : FieldDefinition}

theorem wellFormed (h : f.Makes d) : d.WellFormed := by
  obtain ⟨es, hes, rfl⟩ := h
  exact FieldDefinition.WellFormed.foldl_add ⟨nofun, nofun, nofun⟩
    (hes.of_ensures FieldEntry.ensures_vocabulary)

theorem name_type (h : f.Makes d) : d.name = f.name ∧ d.type = f.type := by
  obtain ⟨es, -, rfl⟩ := h
  exact FieldDefinition.name_type_foldl_add _ es

end FieldDeclaration.Makes

namespace Definition

variable {d : Definition} {es : List StructEntry}

theorem WellFormed.add {e : StructEntry} (hd : d.WellFormed) (he : e.WellFormed) :
    (d.add e).WellFormed := by
  cases e with
  | table s => exact ⟨fun _ h => Option.some.inj h ▸ he, hd.typeName, hd.fields⟩
  | name s => exact ⟨hd.table, fun _ h => Option.some.inj h ▸ he, hd.fields⟩
  | parent p => exact ⟨hd.table, hd.typeName, hd.fields⟩

theorem WellFormed.foldl_add (hd : d.WellFormed) (hes : ∀ e ∈ es, e.WellFormed) :
    (es.foldl Definition.add d).WellFormed := by
  induction es generalizing d with
  | nil => exact hd
  | cons e es ih =>
    obtain ⟨he, hes⟩ := List.forall_mem_cons.1 hes
    exact ih (hd.add he) hes

theorem name_fields_foldl_add (d : Definition) (es : List StructEntry) :
    (es.foldl add d).name = d.name ∧ (es.foldl add d).fields = d.fields := by
  induction es generalizing d with
  | nil => exact ⟨rfl, rfl⟩
  | cons e es ih =>
    obtain ⟨hname, hfields⟩ := ih (d.add e)
    exact ⟨hname.trans (name_add d e), hfields.trans (fields_add d e)⟩

end Definition

namespace Item.Makes

variable {item : Item} {d : Definition}

theorem wellFormed (h : item.Makes d) : d.WellFormed := by
  obtain @⟨fs, ds, es, hg, hb, hds, hes⟩ := h
  have hfields : ∀ f ∈ ds, f.WellFormed := by
    clear hb hes
    induction hds with
    | nil => exact nofun
    | cons h _ ih => exact List.forall_mem_cons.2 ⟨h.wellFormed, ih⟩
  exact Definition.WellFormed.foldl_add ⟨nofun, nofun, hfields⟩
    (hes.of_ensures StructEntry.ensures_vocabulary)

theorem forall₂_fields (h : item.Makes d) : ∃ fs, item.body.Fields fs ∧
    List.Forall₂ (fun f c => c.name = f.name ∧ c.type = f.type) fs d.fields := by
  obtain @⟨fs, ds, es, hg, hb, hds, hes⟩ := h
  refine ⟨fs, hb, ?_⟩
  rw [(Definition.name_fields_foldl_add _ es).2]
  exact hds.imp fun f c hc => hc.name_type

theorem name_eq (h : item.Makes d) : d.name = item.name := by
  obtain @⟨fs, ds, es, hg, hb, hds, hes⟩ := h
  exact (Definition.name_fields_foldl_add _ es).1

end Item.Makes

namespace Definition

theorem ofItem_eq_ok_iff {item : Item} {d : Definition} : ofItem item = .ok d ↔ item.Makes d := by
  constructor
  · intro h
    rcases item.accepted_or_refused with hok | ⟨error, herror⟩
    · obtain ⟨d', hd'⟩ := hok.exists_makes
      rw [hd'.ofItem_eq] at h
      cases h
      exact hd'
    · rw [herror.ofItem_eq] at h
      cases h
  · exact Item.Makes.ofItem_eq

theorem ofItem_eq_error_iff {item : Item} {error : DefinitionError} :
    ofItem item = .error error ↔ item.Refused error := by
  constructor
  · intro h
    rcases item.accepted_or_refused with hok | ⟨error', herror⟩
    · obtain ⟨d, hd⟩ := hok.exists_makes
      rw [hd.ofItem_eq] at h
      cases h
    · rw [herror.ofItem_eq] at h
      cases h
      exact herror
  · exact Item.Refused.ofItem_eq

/-- Which items a definition is made from, what comes of the others, and what a definition is. -/
theorem ofItem_accepts_wellFormed (item : Item) :
    -- there is a definition if no part of the item is refused
    ((∃ d, ofItem item = .ok d) ↔ item.Accepted) ∧
    -- it is what the attributes say of the item and its fields
    (∀ d, ofItem item = .ok d ↔ item.Makes d) ∧
    -- so it has the fields that are declared, in their order, and everything in it is well-formed
    (∀ d, ofItem item = .ok d →
      d.name = item.name ∧
      (∃ fs, item.body.Fields fs ∧
        List.Forall₂ (fun f c => c.name = f.name ∧ c.type = f.type) fs d.fields) ∧
      d.WellFormed) ∧
    -- otherwise the error is the first refusal in the order of the checks
    (∀ error, ofItem item = .error error ↔ item.Refused error) := by
  refine ⟨⟨?_, ?_⟩, fun d => ofItem_eq_ok_iff, fun d h => ?_, fun error => ofItem_eq_error_iff⟩
  · rintro ⟨d, h⟩
    exact (ofItem_eq_ok_iff.1 h).accepted
  · intro h
    obtain ⟨d, hd⟩ := h.exists_makes
    exact ⟨d, hd.ofItem_eq⟩
  · have hd := ofItem_eq_ok_iff.1 h
    exact ⟨hd.name_eq, hd.forall₂_fields, hd.wellFormed⟩

/-- A struct with attributes of its own, one of them foreign, and a field with two. -/
def shelved : Item where
  attributes := [
    ⟨[.word "record"], .list [.word "table", .mark '=' false, .literal "\"books\"",
      .mark ',' false, .word "extends", .mark '=' false, .word "Base", .mark ',' false]⟩,
    ⟨[.word "repr"], .list [.word "C"]⟩]
  name := "Book"
  isGeneric := false
  body := .named [
    { attributes := [⟨[.word "record"], .list [.word "ignore"]⟩,
        ⟨[.word "record"], .list [.word "list", .mark '=' false, .literal "\"shop::Tag\""]⟩]
      name := "tags"
      type := [.word "String"] }]

theorem ofItem_shelved : ofItem shelved = .ok
    { name := "Book", table := some "books", parent := some [.word "Base"]
      fields := [{ name := "tags", type := [.word "String"], ignored := true
                   list := some "shop::Tag" }] } := by
  with_unfolding_all rfl

theorem ofItem_accepts_wellFormed_shelved :
    ∃ d, ofItem shelved = .ok d ∧ d.table = some "books" ∧ d.name = "Book" ∧ d.WellFormed := by
  obtain ⟨-, -, hd, -⟩ := ofItem_accepts_wellFormed shelved
  obtain ⟨hname, -, hwell⟩ := hd _ ofItem_shelved
  exact ⟨_, ofItem_shelved, rfl, hname, hwell⟩

end Definition

end RecordSchema.Declaration
