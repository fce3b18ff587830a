import Mathlib.Data.List.Nodup
import Mathlib.Data.List.Perm.Basic
import RecordSchema.Proofs.Declaration.Gathered
import RecordSchema.Proofs.Declaration.Items

/-!
# The layout of record attributes

What is said about a record depends on the items of its attributes and on the order of those with
the same key, and on nothing else: how the items are put into attributes, what attributes of other
kinds stand between these, and the order of items with different keys are layout
(`Item.Rearranged`). Of a key that is given several times all items have to be valid, and the last
one counts.
-/

namespace RecordSchema.Declaration

/-! ## Keys -/

/-- The key of an item: what stands in front of `=`. -/
def itemKey (p : List Tree) : List Tree :=
  p.takeWhile fun
    | .mark '=' _ => false
    | _ => true

theorem itemKey_cons_equals (w : String) (joint : Bool) (ts : List Tree) :
    itemKey (.word w :: .mark '=' joint :: ts) = [.word w] := rfl

theorem KeyAt.eq_cons {w : String} {ts rest : List Tree} (h : KeyAt ts [.word w] rest) :
    ts = .word w :: rest := by
  generalize hkey : [Tree.word w] = key at h
  obtain ⟨hr, hn⟩ := h
  cases hr with
  | none =>
    obtain ⟨hw, hnames⟩ := List.cons.inj hkey
    cases hw
    cases hn with
    | nil => rfl
    | cons => cases hnames
  | some => cases hkey

theorem PathAt.exists_eq_cons {ts p rest : List Tree} {left : Option Delimiter}
    (h : PathAt ts p rest left) : ∃ joint us, ts = .mark '=' joint :: us := by
  cases h
  exact ⟨_, _, rfl⟩

section Commuting

variable {ε σ : Type} {v : Vocabulary ε} {add : σ → ε → σ} {keyword : ε → String}

/-- Entries that know their keys, and are added in any order as long as their keys differ. -/
structure Commuting (v : Vocabulary ε) (add : σ → ε → σ) (keyword : ε → String) : Prop where
  keyword_eq : ∀ p ∈ v, p.2.Ensures fun e => keyword e = p.1
  comm : ∀ s e e', keyword e ≠ keyword e' → add (add s e) e' = add (add s e') e

theorem Commuting.itemKey_eq (hc : Commuting v add keyword) {p : List Tree} {e : ε}
    (h : ItemSays v p e) : itemKey p = [.word (keyword e)] := by
  obtain ⟨hk, hf, hvalue⟩ := h
  obtain ⟨w, rfl, hmem⟩ := Vocabulary.mem_of_form? hf
  obtain rfl := hk.eq_cons
  have hw := hc.keyword_eq _ hmem
  cases hvalue with
  | flag => exact congrArg (fun w => [Tree.word w]) hw.symm
  | text ht hs =>
    obtain ⟨hl⟩ := ht
    rw [itemKey_cons_equals, hw _ hs]
  | path hp =>
    obtain ⟨joint, us, rfl⟩ := hp.exists_eq_cons
    rw [itemKey_cons_equals, hw]

theorem Commuting.map_itemKey (hc : Commuting v add keyword) {ps : List (List Tree)} {es : List ε}
    (h : List.Forall₂ (ItemSays v) ps es) :
    ps.map itemKey = es.map fun e => [Tree.word (keyword e)] := by
  induction h with
  | nil => rfl
  | cons h _ ih => rw [List.map_cons, List.map_cons, hc.itemKey_eq h, ih]

/-- Items with different keys say the same in any order. -/
theorem Commuting.exists_of_perm (hc : Commuting v add keyword) {ps qs : List (List Tree)}
    (hperm : qs.Perm ps) (hkeys : (ps.map itemKey).Nodup) {es : List ε}
    (h : List.Forall₂ (ItemSays v) ps es) :
    ∃ es', List.Forall₂ (ItemSays v) qs es' ∧ ∀ s, es'.foldl add s = es.foldl add s := by
  obtain ⟨es', hqs, hes⟩ := List.perm_comp_forall₂ hperm h
  refine ⟨es', hqs, fun s => hes.foldl_eq' (fun e he e' he' s => ?_) s⟩
  by_cases heq : e = e'
  · rw [heq]
  · rw [hc.map_itemKey h] at hkeys
    refine hc.comm s e e' fun hkeyword => heq ?_
    exact List.inj_on_of_nodup_map hkeys (hes.mem_iff.1 he) (hes.mem_iff.1 he')
      (by rw [hkeyword])

end Commuting

/-! ## Attributes -/

namespace Attribute

/-- A list of items. -/
def IsRecordList (a : Attribute) : Prop := a.isRecord = true ∧ ∃ content, a.body = .list content

/-- Attributes that differ in their layout only. -/
inductive Rearranged : List Attribute → List Attribute → Prop
  | refl (as : List Attribute) : Rearranged as as
  | symm {as bs : List Attribute} (h : Rearranged as bs) : Rearranged bs as
  | trans {as bs cs : List Attribute} (h : Rearranged as bs) (h' : Rearranged bs cs) :
    Rearranged as cs
  /-- An attribute of another kind is inserted anywhere. -/
  | insert (before after : List Attribute) {a : Attribute} (h : a.isRecord = false) :
    Rearranged (before ++ after) (before ++ a :: after)
  /-- A list is split into several. -/
  | split (before after : List Attribute) {a : Attribute} {parts : List Attribute}
    (ha : a.IsRecordList) (hparts : ∀ p ∈ parts, p.IsRecordList)
    (h : a.items = parts.flatMap items) :
    Rearranged (before ++ a :: after) (before ++ parts ++ after)
  /-- Items whose keys are pairwise distinct are permuted. -/
  | permute (before after : List Attribute) {a b : Attribute}
    {front ps qs back : List (List Tree)} (ha : a.IsRecordList) (hb : b.IsRecordList)
    (hfrom : a.items = front ++ ps ++ back) (hto : b.items = front ++ qs ++ back)
    (hperm : ps.Perm qs) (hkeys : (ps.map itemKey).Nodup) :
    Rearranged (before ++ a :: after) (before ++ b :: after)

section

variable {ε σ : Type} {v : Vocabulary ε} {add : σ → ε → σ} {keyword : ε → String}
  {as bs : List Attribute}

/-- Attributes that say the same in the end, though perhaps not by the same entries. -/
def SaySame (v : Vocabulary ε) (add : σ → ε → σ) (as bs : List Attribute) : Prop :=
  ∀ s r, (∃ es, SayAll v as es ∧ es.foldl add s = r) ↔ ∃ es, SayAll v bs es ∧ es.foldl add s = r

/-- Of several lists only the items matter. -/
theorem saySame_of_flatMap_items (hlist : (∀ a ∈ as, a.IsList) ↔ ∀ b ∈ bs, b.IsList)
    (hitems : as.flatMap items = bs.flatMap items) : SaySame v add as bs := by
  intro s r
  simp only [sayAll_iff, hlist, hitems]

theorem isList_of_not_isRecord {a : Attribute} (h : a.isRecord = false) : a.IsList :=
  fun hr => absurd (hr.symm.trans h) Bool.noConfusion

theorem IsRecordList.isList {a : Attribute} (h : a.IsRecordList) : a.IsList := fun _ => h.2

/-- Items with different keys in the middle of others. -/
theorem exists_sayAll_of_perm (hc : Commuting v add keyword) {before after : List Attribute}
    {a b : Attribute} {front ps qs back : List (List Tree)} (hb : b.IsList)
    (hfrom : a.items = front ++ ps ++ back) (hto : b.items = front ++ qs ++ back)
    (hperm : qs.Perm ps) (hkeys : (ps.map itemKey).Nodup) {es : List ε}
    (h : SayAll v (before ++ a :: after) es) :
    ∃ es', SayAll v (before ++ b :: after) es' ∧ ∀ s, es'.foldl add s = es.foldl add s := by
  rw [sayAll_iff] at h
  obtain ⟨hlist, hsays⟩ := h
  simp only [List.flatMap_append, List.flatMap_cons, hfrom, List.append_assoc] at hsays
  obtain ⟨es₁, _, h₁, hown, rfl⟩ := forall₂_append_iff.1 hsays
  obtain ⟨es₂, _, h₂, hblock, rfl⟩ := forall₂_append_iff.1 hown
  obtain ⟨es₃, es₄, h₃, h₄, rfl⟩ := forall₂_append_iff.1 hblock
  obtain ⟨es₃', h₃', hfold⟩ := hc.exists_of_perm hperm hkeys h₃
  refine ⟨es₁ ++ (es₂ ++ (es₃' ++ es₄)), sayAll_iff.2 ⟨?_, ?_⟩, fun s => ?_⟩
  · simp only [List.forall_mem_append, List.forall_mem_cons] at hlist ⊢
    exact ⟨hlist.1, hb, hlist.2.2⟩
  · simp only [List.flatMap_append, List.flatMap_cons, hto, List.append_assoc]
    exact List.rel_append h₁ (List.rel_append h₂ (List.rel_append h₃' h₄))
  · simp only [List.foldl_append, hfold]

theorem Rearranged.saySame (hc : Commuting v add keyword) (h : Rearranged as bs) :
    SaySame v add as bs := by
  induction h with
  | refl => exact fun _ _ => Iff.rfl
  | symm _ ih => exact fun s r => (ih s r).symm
  | trans _ _ ih ih' => exact fun s r => (ih s r).trans (ih' s r)
  | insert before after h =>
    refine saySame_of_flatMap_items ?_ ?_
    · simp only [List.forall_mem_append, List.forall_mem_cons, isList_of_not_isRecord h, true_and]
    · simp only [List.flatMap_append, List.flatMap_cons, items_of_not_isRecord h, List.nil_append]
  | split before after ha hparts h =>
    have hlists := fun p hp => (hparts p hp).isList
    refine saySame_of_flatMap_items ?_ ?_
    · simp only [List.forall_mem_append, List.forall_mem_cons, ha.isList, true_and, and_assoc]
      exact and_congr_right fun _ => (and_iff_right hlists).symm
    · simp only [List.flatMap_append, List.flatMap_cons, h, List.append_assoc]
  | permute before after ha hb hfrom hto hperm hkeys =>
    have hkeys' := (hperm.map itemKey).nodup_iff.1 hkeys
    intro s r
    constructor
    · rintro ⟨es, hes, rfl⟩
      obtain ⟨es', hes', hfold⟩ := exists_sayAll_of_perm hc hb.isList hfrom hto hperm.symm hkeys hes
      exact ⟨es', hes', hfold s⟩
    · rintro ⟨es, hes, rfl⟩
      obtain ⟨es', hes', hfold⟩ := exists_sayAll_of_perm hc ha.isList hto hfrom hperm hkeys' hes
      exact ⟨es', hes', hfold s⟩

end

/-- What the items of attributes say, one by one in the order of the source. -/
def ItemsSay {ε : Type} (v : Vocabulary ε) (as : List Attribute) (es : List ε) : Prop :=
  List.Forall₂ (ItemSays v) (as.flatMap items) es

/-- One of the items is no entry. -/
def HasInvalidItem {ε : Type} (v : Vocabulary ε) (as : List Attribute) : Prop :=
  ∃ p ∈ as.flatMap items, ∀ e, ¬ ItemSays v p e

theorem not_hasInvalidItem {ε : Type} {v : Vocabulary ε} {as : List Attribute}
    (h : ∀ a ∈ as, a.Accepted v) : ¬ HasInvalidItem v as := by
  have hvalid {ps : List (List Tree)} {es : List ε} (h : List.Forall₂ (ItemSays v) ps es) :
      ∀ p ∈ ps, ∃ e, ItemSays v p e := by
    induction h with
    | nil => exact nofun
    | cons h _ ih => exact List.forall_mem_cons.2 ⟨⟨_, h⟩, ih⟩
  obtain ⟨es, hes⟩ := exists_sayAll h
  rintro ⟨p, hp, hinvalid⟩
  obtain ⟨e, he⟩ := hvalid (sayAll_iff.1 hes).2 p hp
  exact hinvalid e he

end Attribute

/-! ## Fields and structs -/

def FieldEntry.keyword : FieldEntry → String
  | ignored => "ignore"
  | foreign => "opaque"
  | list _ => "list"
  | column _ => "column"
  | sqlType _ => "sql_type"

theorem FieldEntry.commuting : Commuting vocabulary FieldDefinition.add keyword where
  keyword_eq := by simp [vocabulary, EntryForm.Ensures, keyword]
  comm d e e' h := by
    cases e <;> cases e' <;> first | rfl | exact absurd rfl h

def StructEntry.keyword : StructEntry → String
  | table _ => "table"
  | name _ => "name"
  | parent _ => "extends"

theorem StructEntry.commuting : Commuting vocabulary Definition.add keyword where
  keyword_eq := by simp [vocabulary, EntryForm.Ensures, keyword]
  comm d e e' h := by
    cases e <;> cases e' <;> first | rfl | exact absurd rfl h

/-- A field in another layout. -/
structure FieldDeclaration.Rearranged (f g : FieldDeclaration) : Prop where
  name : f.name = g.name
  type : f.type = g.type
  attributes : Attribute.Rearranged f.attributes g.attributes

/-- A body whose fields are in another layout. -/
inductive ItemBody.Rearranged : ItemBody → ItemBody → Prop
  | named {fs gs : List FieldDeclaration} (h : List.Forall₂ FieldDeclaration.Rearranged fs gs) :
    Rearranged (.named fs) (.named gs)
  | other (body : ItemBody) : Rearranged body body

/-- An item in another layout. -/
structure Item.Rearranged (item item' : Item) : Prop where
  attributes : Attribute.Rearranged item.attributes item'.attributes
  name : item.name = item'.name
  isGeneric : item.isGeneric = item'.isGeneric
  body : item.body.Rearranged item'.body

namespace FieldDeclaration

variable {f g : FieldDeclaration}

theorem Rearranged.refl (f : FieldDeclaration) : f.Rearranged f := ⟨rfl, rfl, .refl _⟩

theorem Rearranged.symm (h : f.Rearranged g) : g.Rearranged f :=
  ⟨h.name.symm, h.type.symm, h.attributes.symm⟩

theorem Rearranged.makes {d : FieldDefinition} (h : f.Rearranged g) (hd : f.Makes d) :
    g.Makes d := by
  obtain ⟨es, hes, rfl⟩ := hd
  obtain ⟨es', hes', hfold⟩ := (h.attributes.saySame FieldEntry.commuting _ _).1 ⟨es, hes, rfl⟩
  exact ⟨es', hes', by rw [← h.name, ← h.type, hfold]⟩

theorem Rearranged.forall₂_makes {fs gs : List FieldDeclaration} {ds : List FieldDefinition}
    (h : List.Forall₂ Rearranged fs gs) (hds : List.Forall₂ Makes fs ds) :
    List.Forall₂ Makes gs ds := by
  induction h generalizing ds with
  | nil => exact hds
  | cons h _ ih =>
    cases hds with
    | cons hd hds => exact .cons (h.makes hd) (ih hds)

end FieldDeclaration

namespace ItemBody

theorem Rearranged.symm {body body' : ItemBody} (h : body.Rearranged body') :
    body'.Rearranged body := by
  cases h with
  | named h => exact .named (h.flip.imp fun _ _ => FieldDeclaration.Rearranged.symm)
  | other => exact .other _

theorem Rearranged.exists_fields {body body' : ItemBody} {fs : List FieldDeclaration}
    (h : body.Rearranged body') (hb : body.Fields fs) :
    ∃ gs, body'.Fields gs ∧ List.Forall₂ FieldDeclaration.Rearranged fs gs := by
  cases h with
  | named h =>
    cases hb
    exact ⟨_, .named, h⟩
  | other => exact ⟨fs, hb, List.forall₂_same.2 fun f _ => .refl f⟩

end ItemBody

namespace Item

variable {item item' : Item}

theorem Rearranged.refl (item : Item) : item.Rearranged item := ⟨.refl _, rfl, rfl, .other _⟩

theorem Rearranged.symm (h : item.Rearranged item') : item'.Rearranged item :=
  ⟨h.attributes.symm, h.name.symm, h.isGeneric.symm, h.body.symm⟩

theorem Rearranged.makes {d : Definition} (h : item.Rearranged item') (hd : item.Makes d) :
    item'.Makes d := by
  obtain ⟨hg, hb, hds, hes⟩ := hd
  obtain ⟨gs, hb', hgs⟩ := h.body.exists_fields hb
  obtain ⟨es', hes', hfold⟩ :=
    (h.attributes.saySame StructEntry.commuting _ _).1 ⟨_, hes, rfl⟩
  rw [← hfold, h.name]
  exact .intro (h.isGeneric ▸ hg) hb' (FieldDeclaration.Rearranged.forall₂_makes hgs hds) hes'

/-- One of the items of a struct or of its fields is no entry. -/
def HasInvalidItem (item : Item) : Prop :=
  Attribute.HasInvalidItem StructEntry.vocabulary item.attributes ∨
    ∃ fs, item.body.Fields fs ∧
      ∃ f ∈ fs, Attribute.HasInvalidItem FieldEntry.vocabulary f.attributes

theorem Accepted.not_hasInvalidItem (h : item.Accepted) : ¬ item.HasInvalidItem := by
  obtain ⟨-, ⟨fs, hb, hfs⟩, has⟩ := h
  rintro (hown | ⟨gs, hb', g, hg, hfield⟩)
  · exact Attribute.not_hasInvalidItem has hown
  · obtain rfl : gs = fs := Except.ok.inj (hb'.fieldsOf_eq.symm.trans hb.fieldsOf_eq)
    exact Attribute.not_hasInvalidItem (hfs g hg) hfield

namespace Makes

variable {d : Definition}

theorem gathers (h : item.Makes d) :
    ∃ es, Attribute.ItemsSay StructEntry.vocabulary item.attributes es ∧ d.Gathers es := by
  obtain ⟨-, -, -, hes⟩ := h
  exact ⟨_, (Attribute.sayAll_iff.1 hes).2, Definition.gathers_foldl_add _ _ _⟩

theorem forall₂_gathers (h : item.Makes d) : ∃ fs, item.body.Fields fs ∧
    List.Forall₂ (fun f c => ∃ es,
      Attribute.ItemsSay FieldEntry.vocabulary f.attributes es ∧ c.Gathers es) fs d.fields := by
  obtain ⟨-, hb, hds, -⟩ := h
  refine ⟨_, hb, ?_⟩
  rw [(Definition.name_fields_foldl_add _ _).2]
  refine hds.imp fun f c hc => ?_
  obtain ⟨es, hes, hgathers⟩ := hc.gathers
  exact ⟨es, (Attribute.sayAll_iff.1 hes).2, hgathers⟩

end Makes

end Item

namespace Definition

/-- The layout of record attributes does not matter, and what is said several times is said as the
last item says it. -/
theorem ofItem_of_rearranged {item item' : Item} (h : item.Rearranged item') :
    -- the same definition is made or none
    (∀ d, ofItem item = .ok d ↔ ofItem item' = .ok d) ∧
    -- a flag is set if any item sets it, and of the values for one key the last one counts
    (∀ d, ofItem item = .ok d →
      (∃ es, Attribute.ItemsSay StructEntry.vocabulary item.attributes es ∧ d.Gathers es) ∧
      ∃ fs, item.body.Fields fs ∧
        List.Forall₂ (fun f c => ∃ es,
          Attribute.ItemsSay FieldEntry.vocabulary f.attributes es ∧ c.Gathers es) fs d.fields) ∧
    -- an item that is not valid is refused, whatever else there is for its key
    (item.HasInvalidItem → ∃ error, ofItem item = .error error) := by
  refine ⟨fun d => ?_, fun d hd => ?_, fun hinvalid => ?_⟩
  · rw [ofItem_eq_ok_iff, ofItem_eq_ok_iff]
    exact ⟨h.makes, h.symm.makes⟩
  · have hmakes := ofItem_eq_ok_iff.1 hd
    exact ⟨hmakes.gathers, hmakes.forall₂_gathers⟩
  · rcases item.accepted_or_refused with haccepted | ⟨error, hrefused⟩
    · exact absurd hinvalid haccepted.not_hasInvalidItem
    · exact ⟨error, hrefused.ofItem_eq⟩

/-- An attribute with a list for records. -/
def recordList (content : List Tree) : Attribute := ⟨[.word "record"], .list content⟩

def tableItem : List Tree := [.word "table", .mark '=' false, .literal "\"books\""]

/-- The comma between the arguments separates no items; `joint` says whether the last mark is joined
to a comma behind the item. -/
def parentItem (joint : Bool) : List Tree :=
  [.word "extends", .mark '=' false, .word "Base", .mark '<' false, .word "A", .mark ',' false,
    .word "B", .mark '>' joint]

def elementItem : List Tree := [.word "list", .mark '=' false, .literal "\"shop::Tag\""]

/-- A struct whose items stand in one attribute, and a field whose items stand in two. -/
def catalogued : Item where
  attributes := [recordList (tableItem ++ .mark ',' false :: parentItem false),
    ⟨[.word "repr"], .list [.word "C"]⟩]
  name := "Book"
  isGeneric := false
  body := .named [
    { attributes := [recordList [.word "ignore"], recordList elementItem]
      name := "tags"
      type := [.word "String"] }]

/-- The same struct with its items in two attributes, and the field with its items in one. -/
def recatalogued : Item where
  attributes := [⟨[.word "doc"], .value⟩, recordList (parentItem true ++ [.mark ',' false]),
    recordList tableItem]
  name := "Book"
  isGeneric := false
  body := .named [
    { attributes := [recordList (elementItem ++ [.mark ',' false, .word "ignore"])]
      name := "tags"
      type := [.word "String"] }]

/-- A struct with two tables, of which the first is none. -/
def misnamed : Item where
  attributes := [recordList ([.word "table", .mark '=' false, .literal "\"2nd\""] ++
    .mark ',' false :: tableItem)]
  name := "Book"
  isGeneric := false
  body := .unit

theorem isRecordList_recordList (content : List Tree) : (recordList content).IsRecordList :=
  ⟨rfl, content, rfl⟩

theorem attributes_rearranged :
    Attribute.Rearranged catalogued.attributes recatalogued.attributes := by
  have hlist := isRecordList_recordList
  have hfrom : (recordList (tableItem ++ .mark ',' false :: parentItem false)).items =
      [] ++ [tableItem, parentItem false] ++ [] := rfl
  have hto : (recordList (parentItem true ++ .mark ',' false :: tableItem)).items =
      [] ++ [parentItem false, tableItem] ++ [] := rfl
  have hparts : (recordList (parentItem true ++ .mark ',' false :: tableItem)).items =
      [recordList (parentItem true ++ [Tree.mark ',' false]), recordList tableItem].flatMap
        Attribute.items := rfl
  -- the attribute behind is removed, the items change places and are split, and one is put in front
  refine .trans (.symm (.insert [recordList _] [] rfl)) ?_
  refine .trans (.permute [] [] (hlist _) (hlist _) hfrom hto (.swap _ _ _)
    (by simp [itemKey, tableItem, parentItem])) ?_
  exact .trans (.split [] [] (hlist _) (by simp [hlist]) hparts) (.insert [] _ rfl)

theorem fields_rearranged : catalogued.body.Rearranged recatalogued.body := by
  have hlist := isRecordList_recordList
  have hfrom : (recordList (.word "ignore" :: .mark ',' false :: elementItem)).items =
      [] ++ [[Tree.word "ignore"], elementItem] ++ [] := rfl
  have hto : (recordList (elementItem ++ [Tree.mark ',' false, .word "ignore"])).items =
      [] ++ [elementItem, [Tree.word "ignore"]] ++ [] := rfl
  have hparts : (recordList (.word "ignore" :: .mark ',' false :: elementItem)).items =
      [recordList [.word "ignore"], recordList elementItem].flatMap Attribute.items := rfl
  refine .named (.cons ⟨rfl, rfl, ?_⟩ .nil)
  refine .trans (.symm (.split [] [] (hlist _) (by simp [hlist]) hparts)) ?_
  exact .permute [] [] (hlist _) (hlist _) hfrom hto (.swap _ _ _) (by simp [itemKey, elementItem])

theorem catalogued_rearranged : catalogued.Rearranged recatalogued :=
  ⟨attributes_rearranged, rfl, rfl, fields_rearranged⟩

theorem ofItem_catalogued : ofItem catalogued = .ok
    { name := "Book", table := some "books"
      parent := some [.word "Base", .mark '<' false, .word "A", .mark ',' false, .word "B",
        .mark '>' false]
      fields := [{ name := "tags", type := [.word "String"], ignored := true
                   list := some "shop::Tag" }] } := by
  with_unfolding_all rfl

theorem misnamed_hasInvalidItem : misnamed.HasInvalidItem := by
  refine .inl ⟨[.word "table", .mark '=' false, .literal "\"2nd\""], .head _, fun e h => ?_⟩
  obtain ⟨taken, hrun⟩ := h.run
  have herror : (Entry.read StructEntry.vocabulary).run
      [.word "table", .mark '=' false, .literal "\"2nd\""] =
        .error (.invalidText .tableName "2nd") := by
    with_unfolding_all rfl
  cases herror.symm.trans hrun

/-- One layout of a struct, and the other; and a struct that is refused though the table that would
count is valid. -/
theorem ofItem_of_rearranged_catalogued :
    catalogued.Rearranged recatalogued ∧
    (∃ d, ofItem recatalogued = .ok d ∧ d.table = some "books") ∧
    misnamed.Rearranged misnamed ∧ misnamed.HasInvalidItem ∧
    ∃ error, ofItem misnamed = .error error := by
  obtain ⟨hsame, -, -⟩ := ofItem_of_rearranged catalogued_rearranged
  obtain ⟨-, -, hinvalid⟩ := ofItem_of_rearranged (Item.Rearranged.refl misnamed)
  exact ⟨catalogued_rearranged, ⟨_, (hsame _).1 ofItem_catalogued, rfl⟩, .refl misnamed,
    misnamed_hasInvalidItem, hinvalid misnamed_hasInvalidItem⟩

end Definition

end RecordSchema.Declaration
