import RecordSchema.Declaration.Metadata
import RecordSchema.Proofs.Declaration.Definitions
import RecordSchema.Proofs.Declaration.Literal

/-!
# What generated code says

The code that is generated for a definition, read back from its tokens: the value that it gives to
its constant is a struct with named members, each field in it is made by a call and changed by
methods from left to right (`Scope.readCode?`). The reader knows nothing of how the code was made:
members may come in any order and methods too. What it reads from the code of an implementation is
what the implementation means (`Scope.readCode?_trees`), so generated code says of a record what
the attributes say (`Scope.readCode_describes`).
-/

namespace RecordSchema.Declaration

/-! ## Tokens -/

namespace Tree

/-- Whether two tokens are the same; groups are no tokens. -/
def sameToken : Tree → Tree → Bool
  | .word a, .word b => a == b
  | .mark c j, .mark d k => c == d && j == k
  | .literal a, .literal b => a == b
  | _, _ => false

/-- What follows certain tokens. -/
def after : List Tree → List Tree → Option (List Tree)
  | [], ts => some ts
  | e :: es, t :: ts => if sameToken e t then after es ts else none
  | _ :: _, [] => none

/-- What stands in front of certain tokens that come last. -/
def upTo (es ts : List Tree) : Option (List Tree) :=
  (after es.reverse ts.reverse).map List.reverse

/-- Whether a tree is a comma. -/
def isComma : Tree → Bool
  | .mark c _ => c == ','
  | _ => false

/-- The parts between commas; after the last comma there may be nothing. -/
def parts : List Tree → List (List Tree)
  | [] => []
  | t :: ts =>
    if t.isComma then [] :: parts ts
    else
      match parts ts with
      | [] => [[t]]
      | p :: ps => (t :: p) :: ps

theorem after_append {es : List Tree} (h : ∀ e ∈ es, sameToken e e = true) (ts : List Tree) :
    after es (es ++ ts) = some ts := by
  induction es with
  | nil => rfl
  | cons e es ih =>
    obtain ⟨he, hes⟩ := List.forall_mem_cons.1 h
    rw [List.cons_append, after, if_pos he, ih hes]

theorem upTo_append {es : List Tree} (h : ∀ e ∈ es, sameToken e e = true) (ts : List Tree) :
    upTo es (ts ++ es) = some ts := by
  rw [upTo, List.reverse_append, after_append]
  · rw [Option.map_some, List.reverse_reverse]
  · intro e he
    exact h e (List.mem_reverse.1 he)

theorem after_eq_some_append {es ts rest : List Tree} (h : after es ts = some rest)
    (more : List Tree) : after es (ts ++ more) = some (rest ++ more) := by
  fun_induction after es ts with
  | case1 => cases h; rfl
  | case2 e es t ts he ih => rw [List.cons_append, after, if_pos he, ih h]
  | case3 => cases h
  | case4 => cases h

/-- Trees without a comma among them. -/
def NoComma (ts : List Tree) : Prop := ∀ t ∈ ts, t.isComma = false

theorem parts_append_comma {ts : List Tree} (h : NoComma ts) (j : Bool) (rest : List Tree) :
    parts (ts ++ .mark ',' j :: rest) = ts :: parts rest := by
  induction ts with
  | nil => rfl
  | cons t ts ih =>
    obtain ⟨ht, hts⟩ := List.forall_mem_cons.1 h
    rw [List.cons_append, parts, ht, ih hts]
    rfl

theorem parts_of_noComma {ts : List Tree} (h : NoComma ts) (hne : ts ≠ []) : parts ts = [ts] := by
  induction ts with
  | nil => exact absurd rfl hne
  | cons t ts ih =>
    obtain ⟨ht, hts⟩ := List.forall_mem_cons.1 h
    rw [parts, ht]
    cases ts with
    | nil => rfl
    | cons u ts =>
      rw [ih hts (List.cons_ne_nil _ _)]
      rfl

end Tree

/-! ## Reading code -/

namespace Scope

open RecordSchema.Declaration.Tree (after upTo parts)
open Implementation (library op words)

variable {ρ : Type} (s : Scope ρ)

/-- A string literal. -/
def readString? : List Tree → Option String
  | [.literal l] => Literal.stringValue? l
  | _ => none

/-- What a type provides through a trait of the library: the type. -/
def readProvided? (trait item : String) (ts : List Tree) : Option (List Tree) := do
  let ts ← after (op "<") ts
  upTo (.word "as" :: library [trait] ++ op ">" ++ op "::" ++ [.word item]) ts

/-- The type of a field. -/
def readType? (ts : List Tree) : Option (FieldType ρ) :=
  match after (library ["FieldType", "Opaque"]) ts with
  | some [.group .paren name] => (readString? name).map .foreign
  | some _ => none
  | none => (readProvided? "FieldKind" "FIELD_TYPE" ts).map s.fieldType

/-- A method applied to a field. -/
def readMethod? (f : Field ρ) (name : String) (arguments : List Tree) : Option (Field ρ) :=
  match name with
  | "column" => (readString? arguments).map f.withColumn
  | "ignore" => if arguments.isEmpty then some f.ignore else none
  | "list_of" => (readString? arguments).map f.withListOf
  | "sql_type_override" => (readString? arguments).map f.withSqlType
  | _ => none

/-- Methods applied from left to right. -/
def readMethods? (f : Field ρ) : List Tree → Option (Field ρ)
  | [] => some f
  | .mark '.' _ :: .word name :: .group .paren arguments :: ts =>
    match readMethod? f name arguments with
    | some f => readMethods? f ts
    | none => none
  | _ => none

/-- A field: a call with its name and its type, and methods. -/
def readField? (ts : List Tree) : Option (Field ρ) := do
  match ← after (library ["FieldInfo", "new"]) ts with
  | .group .paren (.literal l :: .mark ',' _ :: type) :: ts =>
    let name ← Literal.stringValue? l
    let type ← s.readType? type
    readMethods? (.plain name type) ts
  | _ => none

/-- The fields: a reference to a list of them. -/
def readFields? (ts : List Tree) : Option (List (Field ρ)) := do
  match ← after (op "&") ts with
  | [.group .bracket fields] => (parts fields).mapM s.readField?
  | _ => none

/-- A part of a text that is put together: a literal or the path of the module. -/
def readPart? (ts : List Tree) : Option String :=
  match after (.word "module_path" :: op "!") ts with
  | some [.group .paren []] => some s.module
  | some _ => none
  | none => readString? ts

/-- The name of a record: a literal, or a text that is put together. -/
def readName? (ts : List Tree) : Option String :=
  match after (.word "concat" :: op "!") ts with
  | some [.group .paren arguments] => ((parts arguments).mapM s.readPart?).map String.join
  | some _ => none
  | none => readString? ts

/-- An optional value. -/
def readOption? {α : Type} (read : List Tree → Option α) : List Tree → Option (Option α)
  | [.word "None"] => some none
  | [.word "Some", .group .paren value] => (read value).map some
  | _ => none

/-- A reference to the record of a type. -/
def readReference? (ts : List Tree) : Option ρ := do
  match ← after (library ["RecordRef", "new"]) ts with
  | [.group .paren arguments] =>
    (readProvided? "Record" "record_info" (← upTo (op ",") arguments)).map s.record
  | _ => none

/-- A member of a struct's value. -/
def readMember? (ts : List Tree) : Option (String × List Tree) :=
  match ts with
  | .word name :: .mark ':' false :: value => some (name, value)
  | _ => none

/-- A value that describes a record. -/
def readInfo? (ts : List Tree) : Option (Record ρ) := do
  match ← after (library ["RecordInfo"]) ts with
  | [.group .brace body] =>
    let members ← (parts body).mapM readMember?
    let name ← s.readName? (← members.lookup "name")
    let table ← readOption? readString? (← members.lookup "table_name")
    let fields ← s.readFields? (← members.lookup "fields")
    let parent ← readOption? s.readReference? (← members.lookup "parent")
    return { name, table, fields, parent }
  | _ => none

/-- The function of a block: it gives a reference to a constant. -/
def readFunction? (ts : List Tree) : Option (Record ρ) := do
  match ← after (words ["fn", "record_info"]) ts with
  | .group .paren [] :: ts =>
    match ← after (op "->" ++ op "&" ++ Tree.lifetime "static" ++ library ["RecordInfo"]) ts with
    | [.group .brace body] =>
      let ts ← after (words ["static", "INFO"] ++ op ":" ++ library ["RecordInfo"] ++ op "=") body
      s.readInfo? (← upTo (op ";" ++ op "&" ++ [.word "INFO"]) ts)
    | _ => none
  | _ => none

/-- The record that code describes: what the function of its first block gives. -/
def readCode? (ts : List Tree) : Option (Record ρ) := do
  match ← after (.word "impl" :: library ["Record"] ++ [.word "for"]) ts with
  | .word _ :: .group .brace body :: _ => s.readFunction? body
  | _ => none

/-! ## Code that is read back -/

theorem sameToken_word (w : String) : Tree.sameToken (.word w) (.word w) = true := by
  simp [Tree.sameToken]

theorem sameToken_of_mem_operator {cs : List Char} :
    ∀ e ∈ Tree.operator cs, Tree.sameToken e e = true := by
  fun_induction Tree.operator cs with
  | case1 => exact nofun
  | case2 c => simp [Tree.sameToken]
  | case3 c d cs ih => exact List.forall_mem_cons.2 ⟨by simp [Tree.sameToken], ih⟩

theorem sameToken_of_mem_path {names : List String} :
    ∀ e ∈ Implementation.path names, Tree.sameToken e e = true := by
  fun_induction Implementation.path names with
  | case1 => exact nofun
  | case2 w => exact List.forall_mem_singleton.2 (sameToken_word w)
  | case3 w ws hws ih =>
    rw [List.cons_append, List.forall_mem_cons, List.forall_mem_append]
    exact ⟨sameToken_word w, sameToken_of_mem_operator, ih⟩

theorem after_library (names : List String) (ts : List Tree) :
    after (library names) (library names ++ ts) = some ts :=
  Tree.after_append sameToken_of_mem_path ts

theorem after_op (o : String) (ts : List Tree) : after (op o) (op o ++ ts) = some ts :=
  Tree.after_append sameToken_of_mem_operator ts

theorem upTo_op (o : String) (ts : List Tree) : upTo (op o) (ts ++ op o) = some ts :=
  Tree.upTo_append sameToken_of_mem_operator ts

theorem readString?_string (text : String) :
    readString? [Implementation.string text] = some text :=
  Literal.stringValue?_literal text

/-- Whatever the type is, what is read back is the type. -/
theorem readProvided?_provided (type : List Tree) (trait item : String) :
    readProvided? trait item (Implementation.provided type trait item) = some type := by
  have hsplit : Implementation.provided type trait item =
      op "<" ++
        (type ++ (.word "as" :: library [trait] ++ op ">" ++ op "::" ++ [Tree.word item])) := by
    simp [Implementation.provided]
  rw [readProvided?, hsplit, after_op]
  refine Tree.upTo_append ?_ type
  simp only [List.cons_append, List.forall_mem_cons, List.forall_mem_append]
  exact ⟨sameToken_word _, ⟨⟨sameToken_of_mem_path, sameToken_of_mem_operator⟩,
    sameToken_of_mem_operator⟩, sameToken_word _, nofun⟩

theorem readType?_typeTrees (type : TypeExpr) :
    s.readType? (Implementation.typeTrees type) = some (s.type type) := by
  cases type with
  | declared type =>
    have hnone : after (library ["FieldType", "Opaque"])
        (Implementation.provided type "FieldKind" "FIELD_TYPE") = none := rfl
    rw [readType?, Implementation.typeTrees, hnone]
    simp only [readProvided?_provided]
    rfl
  | foreign name =>
    rw [readType?, Implementation.typeTrees, after_library]
    simp only [Implementation.call, Tree.paren, readString?_string]
    rfl

/-- Methods go on where other methods have stopped. -/
theorem readMethods?_append {f g : Field ρ} {ts : List Tree} (h : readMethods? f ts = some g)
    (more : List Tree) : readMethods? f (ts ++ more) = readMethods? g more := by
  fun_induction readMethods? f ts with
  | case1 => cases h; rfl
  | case2 f j name arguments ts f' hf ih =>
    simp only [List.cons_append, readMethods?, hf]
    exact ih h
  | case3 => cases h
  | case4 => cases h

theorem readField?_append {f : Field ρ} {ts : List Tree} (h : s.readField? ts = some f)
    (more : List Tree) : s.readField? (ts ++ more) = readMethods? f more := by
  obtain ⟨rest, hafter, h⟩ := Option.bind_eq_some_iff.1 h
  split at h
  · next l j type rest =>
    obtain ⟨name, hname, h⟩ := Option.bind_eq_some_iff.1 h
    obtain ⟨type', htype, h⟩ := Option.bind_eq_some_iff.1 h
    rw [readField?, Tree.after_eq_some_append hafter]
    simp only [List.cons_append, Option.bind_eq_bind, Option.bind_some, hname, htype]
    exact readMethods?_append h more
  · cases h

theorem readMethods?_method {f f' : Field ρ} {name : String} {arguments : List Tree}
    (h : readMethod? f name arguments = some f') :
    readMethods? f (Implementation.method [] name arguments) = some f' := by
  show readMethods? f (.mark '.' false :: .word name :: .group .paren arguments :: []) = _
  rw [readMethods?, h]
  rfl

/-- A field is read back from its expression: a call, and then one method after the other. -/
theorem readField?_fieldTrees (e : FieldExpr) :
    s.readField? (Implementation.fieldTrees e) = some (s.field e) := by
  have hmethod (e : FieldExpr) (name : String) (arguments : List Tree) (f' : Field ρ)
      (he : s.readField? (Implementation.fieldTrees e) = some (s.field e))
      (h : readMethod? (s.field e) name arguments = some f') :
      s.readField? (Implementation.method (Implementation.fieldTrees e) name arguments) =
        some f' := by
    rw [← readMethods?_method h, ← readField?_append s he]
    simp [Implementation.method]
  induction e with
  | new name type =>
    have hcomma : op "," = [.mark ',' false] := rfl
    rw [readField?, Implementation.fieldTrees, after_library]
    simp only [Implementation.call, Tree.paren, Implementation.string, hcomma, List.cons_append,
      List.nil_append, Option.bind_eq_bind, Option.bind_some, Literal.stringValue?_literal,
      readType?_typeTrees, readMethods?, field]
  | column e name ih =>
    refine hmethod e _ _ _ ih ?_
    rw [readMethod?, readString?_string]
    rfl
  | ignore e ih => exact hmethod e _ _ _ ih rfl
  | listOf e element ih =>
    refine hmethod e _ _ _ ih ?_
    rw [readMethod?, readString?_string]
    rfl
  | sqlType e text ih =>
    refine hmethod e _ _ _ ih ?_
    rw [readMethod?, readString?_string]
    rfl

/-! ## Lists -/

theorem noComma_append {ts us : List Tree} (h : Tree.NoComma ts) (h' : Tree.NoComma us) :
    Tree.NoComma (ts ++ us) :=
  List.forall_mem_append.2 ⟨h, h'⟩

theorem parts_commaList {xs : List (List Tree)} (h : ∀ x ∈ xs, Tree.NoComma x ∧ x ≠ []) :
    parts (Implementation.commaList xs) = xs := by
  fun_induction Implementation.commaList xs with
  | case1 => rfl
  | case2 x =>
    obtain ⟨hx, hne⟩ := h x (List.mem_singleton_self x)
    exact Tree.parts_of_noComma hx hne
  | case3 x xs hxs ih =>
    obtain ⟨⟨hx, -⟩, hxs⟩ := List.forall_mem_cons.1 h
    rw [List.append_assoc]
    exact (Tree.parts_append_comma hx false _).trans (congrArg _ (ih hxs))

theorem noComma_fieldTrees (e : FieldExpr) :
    Tree.NoComma (Implementation.fieldTrees e) ∧ Implementation.fieldTrees e ≠ [] := by
  have hmethod {ts : List Tree} (h : Tree.NoComma ts ∧ ts ≠ []) (name : String)
      (arguments : List Tree) : Tree.NoComma (Implementation.method ts name arguments) ∧
        Implementation.method ts name arguments ≠ [] := by
    have hsplit : Implementation.method ts name arguments =
        ts ++ [Tree.mark '.' false, .word name, .group .paren arguments] := by
      simp only [Implementation.method, List.append_assoc]
      rfl
    rw [hsplit]
    refine ⟨noComma_append h.1 ?_, List.append_ne_nil_of_left_ne_nil h.2 _⟩
    simp [Tree.NoComma, Tree.isComma]
  induction e with
  | new name type =>
    refine ⟨noComma_append (by unfold Tree.NoComma; decide) ?_, List.cons_ne_nil _ _⟩
    exact List.forall_mem_singleton.2 rfl
  | column e name ih => exact hmethod ih _ _
  | ignore e ih => exact hmethod ih _ _
  | listOf e element ih => exact hmethod ih _ _
  | sqlType e text ih => exact hmethod ih _ _

theorem mapM_map_of_forall {α β γ : Type} {f : α → β} {g : β → Option γ} {h : α → γ}
    (hg : ∀ a, g (f a) = some (h a)) (as : List α) : (as.map f).mapM g = some (as.map h) := by
  induction as with
  | nil => rfl
  | cons a as ih => simp [hg, ih]

theorem readFields?_fields (es : List FieldExpr) :
    s.readFields? (op "&" ++ [Tree.bracket (Implementation.commaList
      (es.map Implementation.fieldTrees))]) = some (es.map s.field) := by
  rw [readFields?, after_op]
  show (parts (Implementation.commaList (es.map Implementation.fieldTrees))).mapM s.readField? = _
  rw [parts_commaList]
  · exact mapM_map_of_forall s.readField?_fieldTrees es
  · intro x hx
    obtain ⟨e, -, rfl⟩ := List.mem_map.1 hx
    exact noComma_fieldTrees e

/-! ## Records -/

theorem readPart?_string (text : String) :
    s.readPart? [Implementation.string text] = some text := by
  have hnone : after (.word "module_path" :: op "!") [Implementation.string text] = none := rfl
  rw [readPart?, hnone]
  exact readString?_string text

theorem readName?_nameTrees (n : NameExpr) :
    s.readName? (Implementation.nameTrees n) = some (s.name n) := by
  cases n with
  | given name =>
    have hnone : after (.word "concat" :: op "!") (Implementation.nameTrees (.given name)) = none :=
      rfl
    rw [readName?, hnone]
    exact readString?_string name
  | inModule name =>
    have hparts : (parts (.word "module_path" :: op "!" ++ Implementation.call [] ++ op "," ++
        [Implementation.string "::"] ++ op "," ++ [Implementation.string name])).mapM s.readPart? =
          some [s.module, "::", name] := by
      show ([[.word "module_path", .mark '!' false, .group .paren []],
        [Implementation.string "::"], [Implementation.string name]] :
          List (List Tree)).mapM s.readPart? = _
      have hmodule : s.readPart? [.word "module_path", .mark '!' false, .group .paren []] =
        some s.module := rfl
      simp [hmodule, readPart?_string]
    rw [readName?, Implementation.nameTrees, Tree.after_append]
    · show ((parts _).mapM s.readPart?).map String.join = _
      rw [hparts, Option.map_some, Scope.name]
      simp [String.join]
    · exact List.forall_mem_cons.2 ⟨sameToken_word _, sameToken_of_mem_operator⟩

theorem readOption?_option {α β : Type} {read : List Tree → Option β} {spell : α → List Tree}
    {mean : α → β} (h : ∀ a, read (spell a) = some (mean a)) (x : Option α) :
    readOption? read (Implementation.option (x.map spell)) = some (x.map mean) := by
  cases x with
  | none => rfl
  | some a =>
    show (read (spell a)).map some = _
    rw [h]
    rfl

theorem readReference?_reference (p : List Tree) :
    s.readReference? (Implementation.reference
      (Implementation.provided p "Record" "record_info" ++ op ",")) = some (s.record p) := by
  rw [readReference?, Implementation.reference, after_library]
  show ((upTo (op ",") (Implementation.provided p "Record" "record_info" ++ op ",")).bind
    fun ts => (readProvided? "Record" "record_info" ts).map s.record) = _
  rw [upTo_op, Option.bind_some, readProvided?_provided]
  rfl

theorem parts_member {name : String} {value : List Tree} (h : Tree.NoComma value)
    (rest : List Tree) :
    parts (Implementation.member name value ++ rest) =
      (.word name :: .mark ':' false :: value) :: parts rest := by
  have hsplit : Implementation.member name value ++ rest =
      (.word name :: .mark ':' false :: value) ++ .mark ',' false :: rest := by
    simp only [Implementation.member, List.append_assoc]
    rfl
  rw [hsplit]
  refine Tree.parts_append_comma ?_ false rest
  exact List.forall_mem_cons.2 ⟨rfl, List.forall_mem_cons.2 ⟨rfl, h⟩⟩

theorem mapM_readMember?_members {ms : List (String × List Tree)}
    (h : ∀ m ∈ ms, Tree.NoComma m.2) :
    (parts (ms.flatMap fun m => Implementation.member m.1 m.2)).mapM readMember? = some ms := by
  induction ms with
  | nil => rfl
  | cons m ms ih =>
    obtain ⟨hm, hms⟩ := List.forall_mem_cons.1 h
    rw [List.flatMap_cons, parts_member hm, List.mapM_cons, ih hms]
    rfl

theorem noComma_nameTrees (n : NameExpr) : Tree.NoComma (Implementation.nameTrees n) := by
  cases n with
  | given name => exact List.forall_mem_singleton.2 rfl
  | inModule name =>
    have hhead : Tree.NoComma (.word "concat" :: op "!") := by
      unfold Tree.NoComma
      decide
    exact noComma_append hhead (List.forall_mem_singleton.2 rfl)

theorem noComma_option (x : Option (List Tree)) : Tree.NoComma (Implementation.option x) := by
  cases x with
  | none => exact List.forall_mem_singleton.2 rfl
  | some x => exact List.forall_mem_cons.2 ⟨rfl, List.forall_mem_singleton.2 rfl⟩

theorem noComma_fields (es : List (List Tree)) :
    Tree.NoComma (op "&" ++ [Tree.bracket (Implementation.commaList es)]) :=
  List.forall_mem_cons.2 ⟨rfl, List.forall_mem_singleton.2 rfl⟩

/-- The members of the value that describes a record. -/
def members (i : Implementation) : List (String × List Tree) :=
  [("name", Implementation.nameTrees i.name),
    ("table_name", Implementation.option (i.table.map fun t => [Implementation.string t])),
    ("fields", op "&" ++ [Tree.bracket (Implementation.commaList
      (i.fields.map Implementation.fieldTrees))]),
    ("parent", Implementation.option (i.parent.map fun p =>
      Implementation.reference (Implementation.provided p "Record" "record_info" ++ op ",")))]

theorem info_eq (i : Implementation) :
    i.info = library ["RecordInfo"] ++
      [Tree.brace ((members i).flatMap fun m => Implementation.member m.1 m.2)] := by
  simp [Implementation.info, members]

theorem noComma_members (i : Implementation) : ∀ m ∈ members i, Tree.NoComma m.2 := by
  simp only [members, List.forall_mem_cons]
  exact ⟨noComma_nameTrees _, noComma_option _, noComma_fields _, noComma_option _, nofun⟩

/-- The value that describes a record is read member by member. -/
theorem readInfo?_info (i : Implementation) : s.readInfo? i.info = some (s.info i) := by
  rw [readInfo?, info_eq, after_library]
  show ((parts ((members i).flatMap fun m => Implementation.member m.1 m.2)).mapM
    readMember?).bind _ = _
  rw [mapM_readMember?_members (noComma_members i), Option.bind_some]
  show (s.readName? (Implementation.nameTrees i.name)).bind (fun name =>
    (readOption? readString? (Implementation.option _)).bind fun table =>
      (s.readFields? _).bind fun fields =>
        (readOption? s.readReference? (Implementation.option _)).bind fun parent =>
          some ({ name, table, fields, parent } : Record ρ)) = _
  rw [readName?_nameTrees, readOption?_option readString?_string, readFields?_fields,
    readOption?_option s.readReference?_reference]
  simp only [Option.bind_some, Option.map_id']
  rfl

/-- The inside of the block that describes a record. -/
def functionTrees (i : Implementation) : List Tree :=
  words ["fn", "record_info"] ++ .group .paren [] ::
    (op "->" ++ op "&" ++ Tree.lifetime "static" ++ library ["RecordInfo"] ++
      [.group .brace (words ["static", "INFO"] ++ op ":" ++ library ["RecordInfo"] ++ op "=" ++
        (i.info ++ (op ";" ++ op "&" ++ [.word "INFO"])))])

theorem trees_eq (i : Implementation) :
    i.trees = .word "impl" :: library ["Record"] ++ [Tree.word "for"] ++
      .word i.struct :: .group .brace (functionTrees i) :: i.kindBlock := by
  simp [Implementation.trees, Implementation.recordBlock, Implementation.block, functionTrees,
    words, Implementation.call, Tree.paren, Tree.brace]

theorem readFunction?_functionTrees (i : Implementation) :
    s.readFunction? (functionTrees i) = some (s.info i) := by
  rw [readFunction?, functionTrees, Tree.after_append (by decide)]
  simp only [Option.bind_eq_bind, Option.bind_some]
  rw [Tree.after_append (by decide)]
  simp only [Option.bind_some]
  rw [Tree.after_append (by decide)]
  simp only [Option.bind_some]
  rw [Tree.upTo_append (by decide)]
  exact s.readInfo?_info i

/-- What is read from the code of an implementation is what the implementation means. -/
theorem readCode?_trees (i : Implementation) : s.readCode? i.trees = some (s.info i) := by
  rw [readCode?, trees_eq, Tree.after_append (by decide)]
  exact s.readFunction?_functionTrees i

end Scope

/-! ## Metadata -/

/-- A word and the name that it is, without the mark of a raw one. -/
inductive Unraw : String → String → Prop
  | raw {name : String} : Unraw ("r#" ++ name) name
  | plain {name : String} (h : ∀ rest, name ≠ "r#" ++ rest) : Unraw name name

theorem unraw_plainName (word : String) : Unraw word (plainName word) := by
  unfold plainName
  split
  · next cs hcs =>
    have hword : word = "r#" ++ String.ofList cs := by
      rw [← String.toList_inj, hcs]
      simp
    rw [hword]
    exact .raw
  · next hcs =>
    refine .plain fun rest h => hcs rest.toList ?_
    rw [h]
    simp

namespace FieldExpr

variable {ρ : Type} (s : Scope ρ)

theorem field_apply_column (value : Option String) (e : FieldExpr) :
    s.field (apply column value e) =
      { s.field e with column := value.getD (s.field e).column } := by
  cases value <;> rfl

theorem field_apply_listOf (value : Option String) (e : FieldExpr) :
    s.field (apply listOf value e) = { s.field e with listOf := value <|> (s.field e).listOf } := by
  cases value <;> rfl

theorem field_apply_sqlType (value : Option String) (e : FieldExpr) :
    s.field (apply sqlType value e) =
      { s.field e with sqlType := value <|> (s.field e).sqlType } := by
  cases value <;> rfl

theorem field_ite_ignore (b : Bool) (e : FieldExpr) :
    s.field (if b then ignore e else e) =
      { s.field e with ignored := b || (s.field e).ignored } := by
  cases b <;> rfl

/-- Each method changes what it is for and nothing else. -/
theorem field_ofDefinition (d : FieldDefinition) :
    s.field (ofDefinition d) =
      { name := plainName d.name
        type := s.type (typeOf d)
        column := d.column.getD (plainName d.name)
        ignored := d.ignored
        listOf := d.list
        sqlType := d.sqlType } := by
  simp only [ofDefinition, field_apply_sqlType, field_apply_listOf, field_ite_ignore,
    field_apply_column]
  simp [Scope.field, Field.plain]

end FieldExpr

namespace Scope

variable {ρ : Type} (s : Scope ρ)

/-- A field as it is described if everything that is said about it is right. -/
structure Describes (d : FieldDefinition) (f : Field ρ) : Prop where
  name : Unraw d.name f.name
  column : f.column = d.column.getD f.name
  ignored : f.ignored = d.ignored
  listOf : f.listOf = d.list
  sqlType : f.sqlType = d.sqlType
  /-- Of a type that is left out or foreign only the text is kept, without spaces. -/
  foreign : d.ignored = true ∨ d.foreign = true →
    f.type = .foreign (String.ofList ((Tree.listText d.type).toList.filter (· != ' ')))
  declared : d.ignored = false → d.foreign = false → f.type = s.fieldType d.type

theorem describes_field (d : FieldDefinition) :
    s.Describes d (s.field (FieldExpr.ofDefinition d)) := by
  rw [FieldExpr.field_ofDefinition]
  constructor
  · exact unraw_plainName d.name
  · rfl
  · rfl
  · rfl
  · rfl
  · intro h
    simp only [FieldExpr.typeOf, if_pos (Bool.or_eq_true _ _ ▸ h), Scope.type]
  · intro hi hf
    simp only [FieldExpr.typeOf, hi, hf, Bool.or_false, Bool.false_eq_true, if_false, Scope.type]

/-- The code that is generated for a definition says of the record what the definition says, field
by field in the order in which they are declared. -/
theorem readCode_describes {item : Item} {d : Definition}
    (h : Definition.ofItem item = .ok d) :
    ∃ r, s.readCode? (Implementation.ofDefinition d).trees = some r ∧
      (∀ name, d.typeName = some name → r.name = name) ∧
      (d.typeName = none → ∃ name, Unraw item.name name ∧ r.name = s.module ++ "::" ++ name) ∧
      r.table = d.table ∧
      r.parent = d.parent.map s.record ∧
      List.Forall₂ s.Describes d.fields r.fields ∧
      ∃ fs, item.body.Fields fs ∧
        List.Forall₂ (fun f c => c.name = f.name ∧ c.type = f.type) fs d.fields := by
  have hmakes := Definition.ofItem_eq_ok_iff.1 h
  refine ⟨_, s.readCode?_trees _, ?_, ?_, rfl, rfl, ?_, hmakes.forall₂_fields⟩
  · intro name hname
    simp [info, Implementation.ofDefinition, hname, Scope.name]
  · intro hname
    refine ⟨plainName item.name, unraw_plainName _, ?_⟩
    simp [info, Implementation.ofDefinition, hname, Scope.name, hmakes.name_eq]
  · show List.Forall₂ s.Describes d.fields ((d.fields.map FieldExpr.ofDefinition).map s.field)
    rw [List.map_map, List.forall₂_map_right_iff, List.forall₂_same]
    intro f _
    exact s.describes_field f

theorem readCode_describes_shelved :
    ∃ d r, Definition.ofItem Definition.shelved = .ok d ∧
      readCode? { module := "shop", fieldType := fun _ => .collection, record := Tree.listText }
        (Implementation.ofDefinition d).trees = some r ∧
      r.table = some "books" ∧ r.parent = some "Base" ∧
      ∃ name, Unraw "Book" name ∧ r.name = "shop" ++ "::" ++ name := by
  obtain ⟨r, hr, -, hname, htable, hparent, -⟩ := readCode_describes
    { module := "shop", fieldType := fun _ => .collection, record := Tree.listText }
    Definition.ofItem_shelved
  exact ⟨_, r, Definition.ofItem_shelved, hr, htable, hparent, hname rfl⟩

end Scope

end RecordSchema.Declaration
