import RecordSchema.Proofs.Pass.Batch
import RecordSchema.Proofs.Registry.Closure

/-!
# Join tables of one name

The standard policy puts underscores between the parts of a join table's name, and the parts may
have underscores of their own. So the name does not tell where its parts end: a child `books` with a
field `archive_copies` and a child `books_archive` with a field `copies` give one name. For the
fields of one record this is the only way that join tables have the same name
(`Naming.standard_joinTable_eq_iff`). Fields that lead to one child never do, since their own names
are different.
-/

namespace RecordSchema

variable {ρ : Type}

namespace Naming

/-- The second child is the first one with a word more, which stands in front of the first field as
well. The word may be empty. -/
def Shifted (child field child' field' : String) : Prop :=
  ∃ word, child' = child ++ "_" ++ word ∧ field = word ++ "_" ++ field'

/-- A word of one field's name is in the name of the other field's child. -/
def Clash (child : Record ρ) (f : Field ρ) (child' : Record ρ) (g : Field ρ) : Prop :=
  Shifted (baseName child) f.name (baseName child') g.name ∨
    Shifted (baseName child') g.name (baseName child) f.name

section

variable {child field child' field' : String}

theorem Shifted.joined_eq (h : Shifted child field child' field') (owner : String) :
    joined owner child field = joined owner child' field' := by
  obtain ⟨word, rfl, rfl⟩ := h
  simp only [joined, String.append_assoc]

theorem Shifted.mem_child (h : Shifted child field child' field') : '_' ∈ child'.toList := by
  obtain ⟨word, rfl, -⟩ := h
  simp

theorem Shifted.mem_field (h : Shifted child field child' field') : '_' ∈ field.toList := by
  obtain ⟨word, -, rfl⟩ := h
  simp

/-- If a text is cut at two places, what lies between them belongs to either part. -/
theorem shifted_of_append_eq {between : List Char} (hne : field ≠ field')
    (hchild : child'.toList = child.toList ++ between)
    (hfield : '_' :: field.toList = between ++ '_' :: field'.toList) :
    Shifted child field child' field' := by
  -- no characters between the cuts would make the fields one; else the first of them is the
  -- underscore behind the first child, and the others are the word
  cases between with
  | nil => exact absurd (String.toList_injective (List.cons.inj hfield).2) hne
  | cons c word =>
    obtain ⟨rfl, hword⟩ := List.cons.inj hfield
    refine ⟨String.ofList word, String.toList_injective ?_, String.toList_injective ?_⟩
    · simp [hchild]
    · simp [hword]

/-- The names of two fields give one join table just where a word has been shifted. -/
theorem joined_eq_joined_iff (owner : String) (hne : field ≠ field') :
    joined owner child field = joined owner child' field' ↔
      Shifted child field child' field' ∨ Shifted child' field' child field := by
  constructor
  · intro h
    have hchars : child.toList ++ '_' :: field.toList = child'.toList ++ '_' :: field'.toList := by
      have htext := congrArg String.toList h
      simp only [joined, String.append_assoc, String.toList_append] at htext
      simpa using htext
    rcases List.append_eq_append_iff.1 hchars with ⟨between, hc, hf⟩ | ⟨between, hc, hf⟩
    · exact .inl (shifted_of_append_eq hne hc hf)
    · exact .inr (shifted_of_append_eq hne.symm hc hf)
  · rintro (h | h)
    · exact h.joined_eq owner
    · exact (h.joined_eq owner).symm

end

theorem standard_joinTable_eq_iff (p : String) (owner child child' : Record ρ) {f g : Field ρ}
    (hne : f.name ≠ g.name) :
    (standard p).joinTable owner child f = (standard p).joinTable owner child' g ↔
      Clash child f child' g := by
  rw [Clash, ← joined_eq_joined_iff (baseName owner) hne]
  exact String.append_right_inj p

/-- Fields of one child, or of children called the same, do not clash. -/
theorem not_clash_of_baseName_eq {child child' : Record ρ} (h : baseName child = baseName child')
    (f g : Field ρ) : ¬ Clash child f child' g := by
  have hlength (base word : String) : base ≠ base ++ "_" ++ word := by
    intro heq
    have hlen := congrArg String.length heq
    have hone : "_".length = 1 := rfl
    simp only [String.length_append, hone] at hlen
    omega
  rintro (⟨word, hchild, -⟩ | ⟨word, hchild, -⟩)
  · exact hlength _ word (h.trans hchild)
  · exact hlength _ word (h.symm.trans hchild)

end Naming

namespace Compiler

variable {c : Compiler ρ} {r : Record ρ}

/-- Different relations of a record come from fields of different names. -/
theorem pairwise_joins_name_ne (hnames : ((r.allFields c.catalog).map Field.name).Nodup) :
    (c.joins [r]).Pairwise fun j j' => j.field.name ≠ j'.field.name := by
  rw [joins_singleton, List.pairwise_filterMap]
  refine (List.pairwise_map.1 hnames).imp fun hne j hj j' hj' => ?_
  obtain ⟨_, -, rfl⟩ := Option.map_eq_some_iff.1 hj
  obtain ⟨_, -, rfl⟩ := Option.map_eq_some_iff.1 hj'
  exact hne

theorem pairwise_joinTable_eq_iff {p : String} (hc : c.naming = .standard p)
    (hnames : ((r.allFields c.catalog).map Field.name).Nodup) :
    (c.joins [r]).Pairwise fun j j' => c.joinTable j = c.joinTable j' ↔
      Naming.Clash j.child j.field j'.child j'.field := by
  refine (List.Pairwise.and_mem.1 (pairwise_joins_name_ne hnames)).imp ?_
  rintro j j' ⟨hj, hj', hne⟩
  have howner : j.owner = r := List.mem_singleton.1 (mem_joins_iff.1 hj).1
  have howner' : j'.owner = r := List.mem_singleton.1 (mem_joins_iff.1 hj').1
  rw [joinTable, joinTable, hc, howner, howner']
  exact Naming.standard_joinTable_eq_iff p r j.child j'.child hne

theorem nodup_joinTables_iff {p : String} (hc : c.naming = .standard p)
    (hnames : ((r.allFields c.catalog).map Field.name).Nodup) :
    ((c.joins [r]).map c.joinTable).Nodup ↔
      (c.joins [r]).Pairwise fun j j' => ¬ Naming.Clash j.child j.field j'.child j'.field := by
  have hiff := pairwise_joinTable_eq_iff hc hnames
  rw [List.Nodup, List.pairwise_map]
  exact ⟨fun h => (h.and hiff).imp fun ⟨hne, hiff⟩ => mt hiff.2 hne,
    fun h => (h.and hiff).imp fun ⟨hclash, hiff⟩ => mt hiff.1 hclash⟩

/-- With the standard policy and any prefix, two fields of a record have join tables of one name
just if they clash, whatever children they lead to, and so a pass over the record creates some join
table twice just if two of its relations clash. None do if they lead to one child, or if either the
children or the fields have names without underscores. -/
theorem standard_joinTable_clash (p : String) (c : Compiler ρ) (hc : c.naming = .standard p)
    (r : Record ρ) (hnames : ((r.allFields c.catalog).map Field.name).Nodup) :
    -- two fields with any children
    (∀ f ∈ r.allFields c.catalog, ∀ g ∈ r.allFields c.catalog, f ≠ g → ∀ child child' : Record ρ,
      (c.naming.joinTable r child f = c.naming.joinTable r child' g ↔
        Naming.Clash child f child' g) ∧
      (Naming.baseName child = Naming.baseName child' →
        c.naming.joinTable r child f ≠ c.naming.joinTable r child' g)) ∧
    -- a pass over the record
    (∀ out, (c.compile [r]).result = .ok out →
      out = c.table r :: (c.joins [r]).flatMap c.joinStatements) ∧
    (((c.joins [r]).map c.joinTable).Nodup ↔
      (c.joins [r]).Pairwise fun j j' => ¬ Naming.Clash j.child j.field j'.child j'.field) ∧
    -- names without underscores
    ((∀ j ∈ c.joins [r], '_' ∉ (Naming.baseName j.child).toList) ∨
      (∀ j ∈ c.joins [r], '_' ∉ j.field.name.toList) →
        ((c.joins [r]).map c.joinTable).Nodup) := by
  have hnodup := nodup_joinTables_iff hc hnames
  refine ⟨fun f hf g hg hne child child' => ?_, fun out hout => ?_, hnodup, fun hplain => ?_⟩
  · have hname : f.name ≠ g.name := fun h => hne (List.inj_on_of_nodup_map hnames hf hg h)
    rw [hc, ne_eq, Naming.standard_joinTable_eq_iff p r child child' hname]
    exact ⟨Iff.rfl, fun h => Naming.not_clash_of_baseName_eq h f g⟩
  · exact (result_compile_singleton_eq_ok_iff.1 hout).2.symm
  · rw [hnodup]
    refine List.pairwise_of_forall_mem_list fun j hj j' hj' hclash => ?_
    rcases hplain with hchild | hfield
    · exact hclash.elim (fun h => hchild j' hj' h.mem_child) (fun h => hchild j hj h.mem_child)
    · exact hclash.elim (fun h => hfield j hj h.mem_field) (fun h => hfield j' hj' h.mem_field)

/-- The two relations of an author lead to one book, and have join tables of their own. -/
theorem standard_joinTable_clash_shelf :
    let author := Shelf.catalog .author
    ((author.allFields Shelf.catalog).map Field.name).Nodup ∧
      (Shelf.compiler.joins [author]).map Shelf.compiler.joinTable =
        ["app_authors_Book_books", "app_authors_Book_favourite"] ∧
      ((Shelf.compiler.joins [author]).map Shelf.compiler.joinTable).Nodup := by
  intro author
  have hnames : ((author.allFields Shelf.catalog).map Field.name).Nodup := by decide
  obtain ⟨-, -, -, hplain⟩ := standard_joinTable_clash "app_" Shelf.compiler rfl author hnames
  exact ⟨hnames, by decide, hplain (.inl (by decide))⟩

end Compiler

/-! ## A clash -/

/-- The records of a library that keeps old books apart. -/
inductive Archive where
  | book
  | oldBook
  | author

namespace Archive

/-- An author has an archive copy of a book and a copy of an old book. -/
def catalog : Catalog Archive
  | book => { name := "library::Book", table := some "books" }
  | oldBook => { name := "library::OldBook", table := some "books_archive" }
  | author =>
    { name := "library::Author"
      fields := [.plain "archive_copy" (.record book), .plain "copy" (.record oldBook)] }

/-- The standard policies without a prefix. -/
def compiler : Compiler Archive := .standard {} catalog fun _ => none

end Archive

namespace Compiler

/-- The fields of an author in the archive have different names, and a pass over the author
succeeds; but both of its relations are given one join table. -/
theorem joinTable_archive_twice :
    let c := Archive.compiler
    let author := Archive.catalog .author
    let archiveCopy : Field Archive := .plain "archive_copy" (.record .book)
    let copy : Field Archive := .plain "copy" (.record .oldBook)
    c.naming = .standard "" ∧ author.allFields c.catalog = [archiveCopy, copy] ∧
      ((author.allFields c.catalog).map Field.name).Nodup ∧ archiveCopy ≠ copy ∧
      archiveCopy.LeadsTo c.toSurroundings .oneToOne (Archive.catalog .book) ∧
      copy.LeadsTo c.toSurroundings .oneToOne (Archive.catalog .oldBook) ∧
      c.naming.joinTable author (Archive.catalog .book) archiveCopy =
        c.naming.joinTable author (Archive.catalog .oldBook) copy ∧
      (c.joins [author]).map c.joinTable =
        ["Author_books_archive_copy", "Author_books_archive_copy"] ∧
      (c.compile [author]).result =
        .ok (c.table author :: (c.joins [author]).flatMap c.joinStatements) := by
  intro c author archiveCopy copy
  refine ⟨rfl, rfl, by decide, fun h => ?_, .single (r := Archive.book) rfl rfl,
    .single (r := Archive.oldBook) rfl rfl, by decide, by decide, ?_⟩
  · exact absurd (congrArg Field.name h) (by decide)
  · rw [result_compile_singleton_eq_ok_iff]
    exact ⟨rfl, rfl⟩

end Compiler

end RecordSchema
