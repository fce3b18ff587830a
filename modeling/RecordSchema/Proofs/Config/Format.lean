import RecordSchema.Config.Json
import RecordSchema.Pass
import RecordSchema.Proofs.Json.Tokens
import RecordSchema.Proofs.Text.Identifier

/-!
# The format of configurations

Which texts a configuration is read from, said in tokens: an object or an array of members, each
member a dialect or a prefix, none of them twice (`Config.Format`). The readers are taken step by
step. One member is read if its key is known and still missing and its value follows
(`readMember_eq_ok_iff`); so all members of an object are, by induction on them
(`readMembers_eq_ok_iff`). A text is then accepted if its tokens have this form and the prefix is
valid, and no other text is (`Config.ofJson_accepts_format`).
-/

namespace RecordSchema

open Json

/-! ## Dialects -/

namespace Dialect

/-- The tokens of a dialect: its name, or an object with the name as its one key. -/
inductive Written (d : Dialect) : List Token → Prop
  | name : Written d [.string d.name]
  | object : Written d [.mark '{', .string d.name, .mark ':', .null, .mark '}']

theorem ofVariant_eq_ok_iff {name : String} {d : Dialect} :
    ofVariant name = .ok d ↔ name = d.name := by
  constructor
  · intro h
    unfold ofVariant at h
    split at h
    · next d' hd =>
      cases h
      have hname := List.find?_some (p := fun d : Dialect => d.name == name) hd
      exact (beq_iff_eq.1 hname).symm
    · cases h
  · rintro rfl
    rw [ofVariant, ofName?_name]

theorem readObject_eq_ok_iff {cs rest : List Char} {d : Dialect} :
    readObject cs = .ok (d, rest) ↔
      Begins [.string d.name, .mark ':', .null, .mark '}'] cs rest := by
  have hsplit : [.string d.name, .mark ':', .null, .mark '}'] =
      [Token.string d.name] ++ ([Token.mark ':'] ++ ([Token.null] ++ [Token.mark '}'])) := rfl
  rw [hsplit]
  simp only [begins_append_iff, ← @readString_eq_ok_iff "variant identifier",
    ← @readNull_eq_ok_iff "unit", ← readMark_eq_ok_iff (show ':' ∈ marks by decide),
    ← readMark_eq_ok_iff (show '}' ∈ marks by decide)]
  unfold readObject
  simp only [bind_eq_ok_iff, Prod.exists, ofVariant_eq_ok_iff, Except.ok.injEq, Prod.mk.injEq]
  constructor
  · rintro ⟨_, cs₁, hname, d, rfl, cs₂, hcolon, cs₃, hnull, cs₄, hclose, rfl, rfl⟩
    exact ⟨cs₁, hname, cs₂, hcolon, cs₃, hnull, hclose⟩
  · rintro ⟨cs₁, hname, cs₂, hcolon, cs₃, hnull, hclose⟩
    exact ⟨d.name, cs₁, hname, d, rfl, cs₂, hcolon, cs₃, hnull, rest, hclose, rfl, rfl⟩

/-- A dialect is read up to the end of its tokens. -/
theorem read_eq_ok_iff {cs rest : List Char} {d : Dialect} :
    read cs = .ok (d, rest) ↔ ∃ toks, d.Written toks ∧ Begins toks cs rest := by
  constructor
  · intro h
    unfold read at h
    split at h
    · cases h
    · next body hcs =>
      simp only [bind_eq_ok_iff, Prod.exists, ofVariant_eq_ok_iff, Except.ok.injEq,
        Prod.mk.injEq] at h
      obtain ⟨chars, more, hbody, d', hname, rfl, rfl⟩ := h
      exact ⟨_, .name, begins_string_iff.2 ⟨body, chars, hcs, hbody, hname⟩⟩
    · next body hcs =>
      exact ⟨_, .object, begins_cons_iff.2
        ⟨_, body, .mark (by decide), hcs, readObject_eq_ok_iff.1 h⟩⟩
    · cases h
  · rintro ⟨_, _ | _, h⟩
    · obtain ⟨body, chars, hcs, hbody, hname⟩ := begins_string_iff.1 h
      rw [read, hcs]
      exact bind_eq_ok_iff.2 ⟨_, hbody, bind_eq_ok_iff.2 ⟨d, ofVariant_eq_ok_iff.2 hname, rfl⟩⟩
    · obtain ⟨_, more, _ | _, hcs, h⟩ := begins_cons_iff.1 h
      rw [read, hcs]
      exact readObject_eq_ok_iff.2 h

theorem Written.isDelimited {d : Dialect} {toks : List Token} (h : d.Written toks) :
    ∀ tok ∈ toks, tok.IsDelimited := by
  cases h <;> simp [Token.IsDelimited]

theorem Written.begins_skipSpace_iff {d : Dialect} {toks : List Token} {cs rest : List Char}
    (h : d.Written toks) : Begins toks (skipSpace cs) rest ↔ Begins toks cs rest := by
  cases h <;> exact Json.begins_skipSpace_iff

theorem Written.head {d : Dialect} {toks : List Token} {cs more : List Char}
    (h : d.Written toks) (hcs : Begins toks cs more) :
    ∃ c body, skipSpace cs = c :: body ∧ c ≠ ']' := by
  cases h
  · obtain ⟨body, -, hquote, -⟩ := begins_string_iff.1 hcs
    exact ⟨_, body, hquote, by decide⟩
  · obtain ⟨body, hbrace, -⟩ := (begins_mark_cons_iff (by decide)).1 hcs
    exact ⟨_, body, readMark_eq_ok_iff_skipSpace.1 hbrace, by decide⟩

end Dialect

/-! ## Members -/

namespace Config

/-- A part of a configuration. -/
inductive Member where
  | dialect (d : Dialect)
  | tablePrefix (p : String)

namespace Member

/-- The key of a member in an object. -/
def key : Member → String
  | dialect _ => "dialect"
  | tablePrefix _ => "table_prefix"

/-- The tokens of a member's value. -/
inductive Value : Member → List Token → Prop
  | dialect {d : Dialect} {toks : List Token} (h : d.Written toks) : Value (.dialect d) toks
  | tablePrefix {p : String} : Value (.tablePrefix p) [.string p]

/-- The tokens of a member in an object. -/
def Keyed (m : Member) (toks : List Token) : Prop :=
  ∃ value, m.Value value ∧ toks = .string m.key :: .mark ':' :: value

end Member

/-- A configuration has what its members give, and its defaults otherwise. -/
structure Holds (c : Config) (members : List Member) : Prop where
  dialect : ∀ d, .dialect d ∈ members → c.dialect = d
  tablePrefix : ∀ p, .tablePrefix p ∈ members → c.tablePrefix = p
  no_dialect : (∀ d, .dialect d ∉ members) → c.dialect = .sqlite
  no_tablePrefix : (∀ p, .tablePrefix p ∉ members) → c.tablePrefix = ""

/-- Parts with commas between them. -/
def listTokens (parts : List (List Token)) : List Token := [.mark ','].intercalate parts

theorem listTokens_singleton (toks : List Token) : listTokens [toks] = toks := by
  simp [listTokens]

theorem listTokens_cons_cons (toks part : List Token) (parts : List (List Token)) :
    listTokens (toks :: part :: parts) = toks ++ .mark ',' :: listTokens (part :: parts) := by
  simp [listTokens]

/-- The tokens of a configuration: an object of members with different keys, or an array of values
of which the dialect comes first. -/
inductive Format (c : Config) : List Token → Prop
  | object {members : List Member} {parts : List (List Token)}
    (hkeys : (members.map Member.key).Nodup) (hparts : List.Forall₂ Member.Keyed members parts)
    (hc : c.Holds members) : Format c (.mark '{' :: listTokens parts ++ [.mark '}'])
  | array {members : List Member} {parts : List (List Token)}
    (horder : members.map Member.key <+: ["dialect", "table_prefix"])
    (hparts : List.Forall₂ Member.Value members parts) (hc : c.Holds members) :
    Format c (.mark '[' :: listTokens parts ++ [.mark ']'])

theorem isDelimited_listTokens {members : List Member} {parts : List (List Token)}
    {R : Member → List Token → Prop} (hR : ∀ m toks, R m toks → ∀ tok ∈ toks, tok.IsDelimited)
    (h : List.Forall₂ R members parts) : ∀ tok ∈ listTokens parts, tok.IsDelimited := by
  induction h with
  | nil => exact nofun
  | @cons m toks members parts hm hs ih =>
    cases hs with
    | nil =>
      rw [listTokens_singleton]
      exact hR m toks hm
    | cons =>
      rw [listTokens_cons_cons, List.forall_mem_append, List.forall_mem_cons]
      exact ⟨hR m toks hm, trivial, ih⟩

theorem Member.Value.isDelimited {m : Member} {toks : List Token} (h : m.Value toks) :
    ∀ tok ∈ toks, tok.IsDelimited := by
  cases h with
  | dialect h => exact h.isDelimited
  | tablePrefix => exact List.forall_mem_singleton.2 trivial

theorem Member.Keyed.isDelimited {m : Member} {toks : List Token} (h : m.Keyed toks) :
    ∀ tok ∈ toks, tok.IsDelimited := by
  obtain ⟨value, hvalue, rfl⟩ := h
  simp only [List.forall_mem_cons]
  exact ⟨trivial, trivial, hvalue.isDelimited⟩

theorem Format.isDelimited {c : Config} {toks : List Token} (h : c.Format toks) :
    ∀ tok ∈ toks, tok.IsDelimited := by
  cases h with
  | object _ hparts =>
    rw [List.forall_mem_append, List.forall_mem_cons, List.forall_mem_singleton]
    exact ⟨⟨trivial, isDelimited_listTokens (fun _ _ h => h.isDelimited) hparts⟩, trivial⟩
  | array _ hparts =>
    rw [List.forall_mem_append, List.forall_mem_cons, List.forall_mem_singleton]
    exact ⟨⟨trivial, isDelimited_listTokens (fun _ _ h => h.isDelimited) hparts⟩, trivial⟩

/-! ## Reading a member -/

namespace Draft

/-- A draft with a member. -/
def Has (draft : Draft) : Member → Prop
  | .dialect d => draft.dialect = some d
  | .tablePrefix p => draft.tablePrefix = some p

/-- A draft that has no member of this kind. -/
def Lacks (draft : Draft) : Member → Prop
  | .dialect _ => draft.dialect = none
  | .tablePrefix _ => draft.tablePrefix = none

/-- A draft with one more member. -/
def put (draft : Draft) : Member → Draft
  | .dialect d => { draft with dialect := some d }
  | .tablePrefix p => { draft with tablePrefix := some p }

/-- A draft takes members that it lacks, one after the other. -/
inductive Takes : Draft → List Member → Draft → Prop
  | nil {draft : Draft} : Takes draft [] draft
  | cons {draft draft' : Draft} {m : Member} {members : List Member} (h : draft.Lacks m)
    (hs : Takes (draft.put m) members draft') : Takes draft (m :: members) draft'

theorem missing_put_lt {draft : Draft} {m : Member} (h : draft.Lacks m) :
    (draft.put m).missing < draft.missing := by
  cases m <;> simp_all [Lacks, put, missing]

theorem has_put (draft : Draft) (m : Member) : (draft.put m).Has m := by cases m <;> rfl

theorem Has.put {draft : Draft} {m m' : Member} (h : draft.Has m) (hlacks : draft.Lacks m') :
    (draft.put m').Has m := by
  cases m <;> cases m' <;> simp_all [Has, Lacks, Draft.put]

theorem lacks_put_iff {draft : Draft} {m m' : Member} :
    (draft.put m).Lacks m' ↔ m'.key ≠ m.key ∧ draft.Lacks m' := by
  cases m <;> cases m' <;> simp [Lacks, put, Member.key]

namespace Takes

variable {draft draft' : Draft} {members : List Member}

theorem has_of_has (h : draft.Takes members draft') {m : Member} (hm : draft.Has m) :
    draft'.Has m := by
  induction h with
  | nil => exact hm
  | cons hlacks _ ih => exact ih (hm.put hlacks)

theorem has (h : draft.Takes members draft') : ∀ m ∈ members, draft'.Has m := by
  induction h with
  | nil => exact nofun
  | @cons draft _ m _ _ hs ih => exact List.forall_mem_cons.2 ⟨hs.has_of_has (draft.has_put m), ih⟩

theorem lacks_iff (h : draft.Takes members draft') {m : Member} :
    draft'.Lacks m ↔ m.key ∉ members.map Member.key ∧ draft.Lacks m := by
  induction h with
  | nil => simp
  | cons _ _ ih => rw [ih, lacks_put_iff, List.map_cons, List.mem_cons]; tauto

end Takes

/-- The members that a draft can take are those that it lacks, with different keys. -/
theorem exists_takes_iff {draft : Draft} {members : List Member} :
    (∃ draft', draft.Takes members draft') ↔
      (members.map Member.key).Nodup ∧ ∀ m ∈ members, draft.Lacks m := by
  induction members generalizing draft with
  | nil => exact ⟨fun _ => ⟨.nil, nofun⟩, fun _ => ⟨draft, .nil⟩⟩
  | cons m members ih =>
    have hcons : (∃ draft', draft.Takes (m :: members) draft') ↔
        draft.Lacks m ∧ ∃ draft', (draft.put m).Takes members draft' := by
      constructor
      · rintro ⟨draft', _ | ⟨h, hs⟩⟩
        exact ⟨h, draft', hs⟩
      · rintro ⟨h, draft', hs⟩
        exact ⟨draft', .cons h hs⟩
    rw [hcons, ih]
    simp only [lacks_put_iff, List.map_cons, List.nodup_cons, List.forall_mem_cons, List.mem_map]
    grind

end Draft

theorem Holds.eq {c c' : Config} {members : List Member} (h : c.Holds members)
    (h' : c'.Holds members) : c = c' := by
  obtain ⟨d, p⟩ := c
  obtain ⟨d', p'⟩ := c'
  congr 1
  · by_cases hd : ∃ d, .dialect d ∈ members
    · obtain ⟨d'', hd⟩ := hd
      exact (h.dialect d'' hd).trans (h'.dialect d'' hd).symm
    · rw [not_exists] at hd
      exact (h.no_dialect hd).trans (h'.no_dialect hd).symm
  · by_cases hp : ∃ p, .tablePrefix p ∈ members
    · obtain ⟨p'', hp⟩ := hp
      exact (h.tablePrefix p'' hp).trans (h'.tablePrefix p'' hp).symm
    · rw [not_exists] at hp
      exact (h.no_tablePrefix hp).trans (h'.no_tablePrefix hp).symm

/-- What a draft has taken is what its configuration holds. -/
theorem Draft.Takes.holds {draft : Draft} {members : List Member}
    (h : Draft.Takes {} members draft) : draft.finish.Holds members where
  dialect d hd := by rw [finish, show draft.dialect = some d from h.has _ hd, Option.getD_some]
  tablePrefix p hp := by
    rw [finish, show draft.tablePrefix = some p from h.has _ hp, Option.getD_some]
  no_dialect hd := by
    have hlacks : draft.Lacks (.dialect .sqlite) := by
      refine h.lacks_iff.2 ⟨?_, rfl⟩
      rintro hkey
      obtain ⟨_ | _, hm, hkey⟩ := List.mem_map.1 hkey
      · exact hd _ hm
      · exact absurd hkey (by simp [Member.key])
    rw [finish, show draft.dialect = none from hlacks, Option.getD_none]
  no_tablePrefix hp := by
    have hlacks : draft.Lacks (.tablePrefix "") := by
      refine h.lacks_iff.2 ⟨?_, rfl⟩
      rintro hkey
      obtain ⟨_ | _, hm, hkey⟩ := List.mem_map.1 hkey
      · exact absurd hkey (by simp [Member.key])
      · exact hp _ hm
    rw [finish, show draft.tablePrefix = none from hlacks, Option.getD_none]

theorem exists_takes_of_nodup {members : List Member} (h : (members.map Member.key).Nodup) :
    ∃ draft, Draft.Takes {} members draft := by
  refine Draft.exists_takes_iff.2 ⟨h, ?_⟩
  intro m _
  cases m <;> rfl

/-- The rest of a member, from after its key. -/
def readMember (draft : Draft) (key : String) (cs : List Char) :
    Except Fault (Draft × List Char) :=
  match key with
  | "dialect" =>
    match draft.dialect with
    | some _ => .error (.mismatch (.duplicateField "dialect"))
    | none => do
      let (d, cs) ← Dialect.read (← readMark ':' cs)
      .ok (draft.put (.dialect d), cs)
  | "table_prefix" =>
    match draft.tablePrefix with
    | some _ => .error (.mismatch (.duplicateField "table_prefix"))
    | none => do
      let (p, cs) ← readString "a string" (← readMark ':' cs)
      .ok (draft.put (.tablePrefix p), cs)
  | key => .error (.mismatch (.unknownField key))

theorem readMember_eq_ok_iff {draft draft' : Draft} {key : String} {cs rest : List Char} :
    readMember draft key cs = .ok (draft', rest) ↔
      ∃ m value, m.key = key ∧ draft.Lacks m ∧ draft' = draft.put m ∧ m.Value value ∧
        Begins (.mark ':' :: value) cs rest := by
  constructor
  · intro h
    unfold readMember at h
    split at h
    · split at h
      · cases h
      · next hlacks =>
        obtain ⟨more, hcolon, h⟩ := bind_eq_ok_iff.1 h
        obtain ⟨⟨d, rest⟩, hd, h⟩ := bind_eq_ok_iff.1 h
        cases h
        obtain ⟨value, hvalue, hd⟩ := Dialect.read_eq_ok_iff.1 hd
        exact ⟨.dialect d, value, rfl, hlacks, rfl, .dialect hvalue,
          (begins_mark_cons_iff (by decide)).2 ⟨more, hcolon, hd⟩⟩
    · split at h
      · cases h
      · next hlacks =>
        obtain ⟨more, hcolon, h⟩ := bind_eq_ok_iff.1 h
        obtain ⟨⟨p, rest⟩, hp, h⟩ := bind_eq_ok_iff.1 h
        cases h
        exact ⟨.tablePrefix p, _, rfl, hlacks, rfl, .tablePrefix,
          (begins_mark_cons_iff (by decide)).2 ⟨more, hcolon, readString_eq_ok_iff.1 hp⟩⟩
    · cases h
  · rintro ⟨m, value, rfl, hlacks, rfl, hvalue, h⟩
    obtain ⟨more, hcolon, h⟩ := (begins_mark_cons_iff (by decide)).1 h
    cases hvalue with
    | dialect hvalue =>
      simp only [readMember, Member.key, show draft.dialect = none from hlacks]
      exact bind_eq_ok_iff.2 ⟨more, hcolon,
        bind_eq_ok_iff.2 ⟨_, Dialect.read_eq_ok_iff.2 ⟨value, hvalue, h⟩, rfl⟩⟩
    | tablePrefix =>
      simp only [readMember, Member.key, show draft.tablePrefix = none from hlacks]
      exact bind_eq_ok_iff.2 ⟨more, hcolon,
        bind_eq_ok_iff.2 ⟨_, readString_eq_ok_iff.2 h, rfl⟩⟩

theorem readMember_of_unknown {key : String} (h : ∀ m : Member, m.key ≠ key) (draft : Draft)
    (cs : List Char) :
    readMember draft key cs = .error (.mismatch (.unknownField key)) := by
  unfold readMember
  split
  · exact absurd rfl (h (.dialect .sqlite))
  · exact absurd rfl (h (.tablePrefix ""))
  · rfl

theorem readMember_of_has {draft : Draft} {m : Member} (h : draft.Has m) (cs : List Char) :
    readMember draft m.key cs = .error (.mismatch (.duplicateField m.key)) := by
  cases m with
  | dialect d => simp only [readMember, Member.key, show draft.dialect = some d from h]
  | tablePrefix p => simp only [readMember, Member.key, show draft.tablePrefix = some p from h]

/-! ## Reading an object -/

/-- The comma in front of a member that is not the first one. -/
def comma (first : Bool) : List Token := if first then [] else [.mark ',']

theorem readNext_eq_none_iff {first : Bool} {cs rest : List Char} :
    readNext first cs = .ok (none, rest) ↔ Begins [.mark '}'] cs rest := by
  rw [begins_mark_iff (by decide)]
  unfold readNext
  split
  · next hcs => simp [hcs]
  · next c more hcs =>
    rw [hcs]
    simp only [beq_iff_eq, List.cons.injEq]
    split
    · next hc => simp [hc]
    · next hc =>
      split
      · split <;> simp [hc]
      · split <;> simp [hc, map_eq_ok_iff]

theorem readNext_eq_some_iff {first : Bool} {cs body rest : List Char} :
    readNext first cs = .ok (some body, rest) ↔
      (∃ more, Begins (comma first) cs more ∧ skipSpace more = '\x22' :: body) ∧ rest = [] := by
  cases first with
  | true =>
    simp only [comma, if_true, begins_nil_iff, exists_eq_left']
    unfold readNext
    split
    · next hcs => simp [hcs]
    · next c more hcs =>
      simp only [hcs, beq_iff_eq, List.cons.injEq, if_true]
      grind
  | false =>
    simp only [comma, Bool.false_eq_true, if_false, begins_mark_iff (show ',' ∈ marks by decide)]
    unfold readNext
    split
    · next hcs => simp [hcs]
    · next c more hcs =>
      simp only [hcs, beq_iff_eq, List.cons.injEq, Bool.false_eq_true, if_false]
      split
      · next hc => simp [hc]
      · split
        · next hc => simp [hc, map_eq_ok_iff, readMark_eq_ok_iff_skipSpace, @eq_comm _ [] rest]
        · next hc => simp [hc]

theorem readMembers_eq (draft : Draft) (first : Bool) (cs : List Char) :
    readMembers draft first cs = (do
      match ← readNext first cs with
      | (none, rest) => .ok (draft.finish, rest)
      | (some body, _) =>
        let (key, cs) ← stringBody body
        let (draft', cs) ← readMember draft (String.ofList key) cs
        readMembers draft' false cs) := by
  rw [readMembers]
  congr 1
  funext found
  obtain ⟨next, rest⟩ := found
  cases next with
  | none => rfl
  | some body =>
    simp only
    congr 1
    funext string
    obtain ⟨key, cs⟩ := string
    generalize String.ofList key = key
    split
    · split <;> simp only [readMember, *]
      · rfl
      · simp only [bind_assoc]
        rfl
    · split <;> simp only [readMember, *]
      · rfl
      · simp only [bind_assoc]
        rfl
    · simp only [readMember]
      rfl

theorem readMembers_of_key {draft : Draft} {first : Bool} {key : String} {cs more : List Char}
    (h : Begins (comma first ++ [Token.string key]) cs more) :
    readMembers draft first cs = (do
      let (draft', cs) ← readMember draft key more
      readMembers draft' false cs) := by
  obtain ⟨start, hcomma, hstring⟩ := begins_append_iff.1 h
  obtain ⟨body, chars, hquote, hkey, rfl⟩ := begins_string_iff.1 hstring
  rw [readMembers_eq, readNext_eq_some_iff.2 ⟨⟨start, hcomma, hquote⟩, rfl⟩]
  show (stringBody body >>= _) = _
  rw [hkey]
  rfl

/-- A step over one member. -/
theorem readMembers_of_keyed {draft : Draft} {first : Bool} {m : Member} {toks : List Token}
    {cs more : List Char} (hlacks : draft.Lacks m) (hkeyed : m.Keyed toks)
    (h : Begins (comma first ++ toks) cs more) :
    readMembers draft first cs = readMembers (draft.put m) false more := by
  obtain ⟨value, hvalue, rfl⟩ := hkeyed
  rw [show comma first ++ .string m.key :: .mark ':' :: value =
    (comma first ++ [Token.string m.key]) ++ .mark ':' :: value by simp] at h
  obtain ⟨last, hkey, hmember⟩ := begins_append_iff.1 h
  rw [readMembers_of_key hkey,
    readMember_eq_ok_iff.2 ⟨m, value, rfl, hlacks, rfl, hvalue, hmember⟩]
  rfl

theorem readMembers_of_end {draft : Draft} {first : Bool} {cs rest : List Char}
    (h : Begins [.mark '}'] cs rest) : readMembers draft first cs = .ok (draft.finish, rest) := by
  rw [readMembers_eq, readNext_eq_none_iff.2 h]
  rfl

/-- An object that can be read goes on with its end or with a member. -/
theorem readMembers_cases {draft : Draft} {first : Bool} {cs rest : List Char} {c : Config}
    (h : readMembers draft first cs = .ok (c, rest)) :
    (Begins [.mark '}'] cs rest ∧ draft.finish = c) ∨
      ∃ m toks more, draft.Lacks m ∧ m.Keyed toks ∧ Begins (comma first ++ toks) cs more ∧
        readMembers (draft.put m) false more = .ok (c, rest) := by
  rw [readMembers_eq] at h
  obtain ⟨⟨_ | body, left⟩, hnext, h⟩ := bind_eq_ok_iff.1 h
  · cases h
    exact .inl ⟨readNext_eq_none_iff.1 hnext, rfl⟩
  · obtain ⟨⟨start, hcomma, hquote⟩, rfl⟩ := readNext_eq_some_iff.1 hnext
    obtain ⟨⟨key, more⟩, hkey, h⟩ := bind_eq_ok_iff.1 h
    obtain ⟨⟨draft', last⟩, hmember, h⟩ := bind_eq_ok_iff.1 h
    obtain ⟨m, value, hm, hlacks, rfl, hvalue, hbegins⟩ := readMember_eq_ok_iff.1 hmember
    have hstring : Begins [.string m.key] start more :=
      begins_string_iff.2 ⟨body, key, hquote, hkey, hm.symm⟩
    have hmember : Begins ([Token.string m.key] ++ .mark ':' :: value) start last :=
      begins_append_iff.2 ⟨more, hstring, hbegins⟩
    exact .inr ⟨m, _, last, hlacks, ⟨value, hvalue, rfl⟩,
      begins_append_iff.2 ⟨start, hcomma, hmember⟩, h⟩

/-- Members with commas in front of them, the first one perhaps without. -/
def memberTokens : Bool → List (List Token) → List Token
  | _, [] => []
  | first, toks :: parts => comma first ++ toks ++ memberTokens false parts

theorem memberTokens_true (parts : List (List Token)) :
    memberTokens true parts = listTokens parts := by
  cases parts with
  | nil => rfl
  | cons toks parts =>
    rw [memberTokens, comma, if_pos rfl, List.nil_append]
    induction parts generalizing toks with
    | nil => rw [listTokens_singleton, memberTokens, List.append_nil]
    | cons part parts ih =>
      rw [listTokens_cons_cons, ← ih, memberTokens]
      rfl

theorem memberTokens_append_singleton (first : Bool) (parts : List (List Token))
    (toks : List Token) : memberTokens first (parts ++ [toks]) =
      memberTokens first parts ++ (comma (first && parts.isEmpty) ++ toks) := by
  induction parts generalizing first with
  | nil => simp [memberTokens]
  | cons part parts ih =>
    rw [List.cons_append, memberTokens, ih, memberTokens, List.append_assoc]
    simp

/-- Members are read from the front, whatever follows them. -/
theorem readMembers_of_takes {draft draft' : Draft} {first : Bool} {members : List Member}
    {parts : List (List Token)} {cs more : List Char} (htakes : draft.Takes members draft')
    (hparts : List.Forall₂ Member.Keyed members parts)
    (h : Begins (memberTokens first parts) cs more) :
    readMembers draft first cs = readMembers draft' (first && parts.isEmpty) more := by
  induction htakes generalizing parts first cs with
  | nil =>
    cases hparts
    rw [begins_nil_iff.1 h]
    simp
  | @cons _ _ m _ hlacks _ ih =>
    cases hparts with
    | @cons _ toks _ parts hkeyed hparts =>
      obtain ⟨next, hmember, hmore⟩ := begins_append_iff.1 h
      rw [readMembers_of_keyed hlacks hkeyed hmember, ih hparts hmore]
      simp

/-- An object is read up to its closing brace, and lists members, none of them twice. -/
theorem readMembers_eq_ok_iff {draft : Draft} {first : Bool} {cs rest : List Char} {c : Config} :
    readMembers draft first cs = .ok (c, rest) ↔
      ∃ members parts draft', draft.Takes members draft' ∧ List.Forall₂ Member.Keyed members parts ∧
        Begins (memberTokens first parts ++ [Token.mark '}']) cs rest ∧ draft'.finish = c := by
  constructor
  · induction h : draft.missing using Nat.strongRecOn generalizing draft first cs with
    | _ n ih =>
      subst h
      intro hread
      rcases readMembers_cases hread with
        ⟨hend, hfinish⟩ | ⟨m, toks, more, hlacks, hkeyed, hbegins, hread⟩
      · exact ⟨[], [], draft, .nil, .nil, hend, hfinish⟩
      · obtain ⟨members, parts, draft', htakes, hparts, hmore, hfinish⟩ :=
          ih _ (Draft.missing_put_lt hlacks) rfl hread
        refine ⟨m :: members, toks :: parts, draft', .cons hlacks htakes, .cons hkeyed hparts, ?_,
          hfinish⟩
        rw [memberTokens, List.append_assoc]
        exact begins_append_iff.2 ⟨more, hbegins, hmore⟩
  · rintro ⟨members, parts, draft', htakes, hparts, hbegins, rfl⟩
    obtain ⟨more, hmembers, hend⟩ := begins_append_iff.1 hbegins
    rw [readMembers_of_takes htakes hparts hmembers, readMembers_of_end hend]

/-! ## Reading an array -/

/-- The rest of an array, from after its dialect. -/
def readTail (d : Dialect) (cs : List Char) : Except Fault (Config × List Char) :=
  match skipSpace cs with
  | [] => .error .truncated
  | ']' :: cs => .ok ({ dialect := d }, cs)
  | ',' :: cs =>
    match skipSpace cs with
    | ']' :: _ => .error .malformed
    | cs => do
      let (p, cs) ← readString "a string" cs
      let cs ← readArrayEnd cs
      .ok ({ dialect := d, tablePrefix := p }, cs)
  | _ => .error .malformed

theorem readTail_eq_ok_iff {d : Dialect} {cs rest : List Char} {c : Config} :
    readTail d cs = .ok (c, rest) ↔
      (Begins [.mark ']'] cs rest ∧ c = { dialect := d }) ∨
        ∃ p, Begins [.mark ',', .string p, .mark ']'] cs rest ∧
          c = { dialect := d, tablePrefix := p } := by
  constructor
  · intro h
    unfold readTail at h
    split at h
    · cases h
    · next hcs =>
      cases h
      exact .inl ⟨(begins_mark_iff (by decide)).2 hcs, rfl⟩
    · next more hcs =>
      split at h
      · cases h
      · obtain ⟨⟨p, left⟩, hp, h⟩ := bind_eq_ok_iff.1 h
        obtain ⟨left', hend, h⟩ := bind_eq_ok_iff.1 h
        cases h
        have hp : Begins [.string p] more left :=
          begins_skipSpace_iff.1 (readString_eq_ok_iff.1 hp)
        have hend : Begins [.mark ']'] left rest := (readMark_eq_ok_iff (by decide)).1 hend
        have htail : Begins [.string p, .mark ']'] more rest :=
          begins_append_iff.2 ⟨left, hp, hend⟩
        exact .inr ⟨p, (begins_mark_cons_iff (by decide)).2
          ⟨more, readMark_eq_ok_iff_skipSpace.2 hcs, htail⟩, rfl⟩
    · cases h
  · rintro (⟨hend, rfl⟩ | ⟨p, h, rfl⟩)
    · rw [readTail, (begins_mark_iff (by decide)).1 hend]
      rfl
    · obtain ⟨more, hcomma, h⟩ := (begins_mark_cons_iff (by decide)).1 h
      obtain ⟨left, hp, hend⟩ := begins_append_iff.1
        (show Begins ([Token.string p] ++ [Token.mark ']']) more rest from h)
      obtain ⟨body, -, hquote, -⟩ := begins_string_iff.1 hp
      replace hp := (@readString_eq_ok_iff "a string" _ _ _).2 (begins_skipSpace_iff.2 hp)
      rw [readTail, readMark_eq_ok_iff_skipSpace.1 hcomma]
      simp only
      rw [hquote] at hp ⊢
      exact bind_eq_ok_iff.2 ⟨_, hp, bind_eq_ok_iff.2
        ⟨rest, (readMark_eq_ok_iff (by decide)).2 hend, rfl⟩⟩

theorem readElements_eq (cs : List Char) :
    readElements cs =
      match skipSpace cs with
      | [] => .error .truncated
      | ']' :: cs => .ok ({}, cs)
      | cs => Dialect.read cs >>= fun r => readTail r.1 r.2 := by
  rfl

/-- An array is read up to its closing bracket. -/
theorem readElements_eq_ok_iff {cs rest : List Char} {c : Config} :
    readElements cs = .ok (c, rest) ↔
      (Begins [.mark ']'] cs rest ∧ c = {}) ∨
        ∃ d toks more, d.Written toks ∧ Begins toks cs more ∧ readTail d more = .ok (c, rest) := by
  rw [readElements_eq]
  constructor
  · intro h
    split at h
    · cases h
    · next hcs =>
      cases h
      exact .inl ⟨(begins_mark_iff (by decide)).2 hcs, rfl⟩
    · obtain ⟨⟨d, more⟩, hd, h⟩ := bind_eq_ok_iff.1 h
      obtain ⟨toks, htoks, hd⟩ := Dialect.read_eq_ok_iff.1 hd
      exact .inr ⟨d, toks, more, htoks, htoks.begins_skipSpace_iff.1 hd, h⟩
  · rintro (⟨hend, rfl⟩ | ⟨d, toks, more, htoks, hd, h⟩)
    · rw [(begins_mark_iff (by decide)).1 hend]
      rfl
    · obtain ⟨c₁, body, hcs, hc₁⟩ := htoks.head hd
      replace hd := Dialect.read_eq_ok_iff.2 ⟨toks, htoks, htoks.begins_skipSpace_iff.2 hd⟩
      rw [hcs] at hd ⊢
      split
      · next h' => cases h'
      · next h' => cases h'; exact absurd rfl hc₁
      · exact bind_eq_ok_iff.2 ⟨_, hd, h⟩

theorem members_of_order {members : List Member}
    (h : members.map Member.key <+: ["dialect", "table_prefix"]) :
    members = [] ∨ (∃ d, members = [.dialect d]) ∨
      ∃ d p, members = [.dialect d, .tablePrefix p] := by
  match members, h with
  | [], _ => exact .inl rfl
  | [.dialect d], _ => exact .inr (.inl ⟨d, rfl⟩)
  | [.dialect d, .tablePrefix p], _ => exact .inr (.inr ⟨d, p, rfl⟩)
  | .tablePrefix _ :: _, h => simp [Member.key] at h
  | .dialect _ :: .dialect _ :: _, h => simp [Member.key] at h
  | .dialect _ :: .tablePrefix _ :: _ :: _, h => simp at h

/-- The values of an array are the dialect and then the prefix, as far as they are there. -/
theorem readElements_eq_ok_iff_values {cs rest : List Char} {c : Config} :
    readElements cs = .ok (c, rest) ↔
      ∃ members parts, members.map Member.key <+: ["dialect", "table_prefix"] ∧
        List.Forall₂ Member.Value members parts ∧
        Begins (listTokens parts ++ [Token.mark ']']) cs rest ∧ c.Holds members := by
  have hnone : Holds {} [] := Draft.Takes.holds .nil
  have hone (d : Dialect) : Holds { dialect := d } [.dialect d] := by
    have htakes : Draft.Takes {} [.dialect d] { dialect := some d } := .cons rfl .nil
    exact htakes.holds
  have htwo (d : Dialect) (p : String) :
      Holds { dialect := d, tablePrefix := p } [.dialect d, .tablePrefix p] := by
    have htakes : Draft.Takes {} [.dialect d, .tablePrefix p]
      { dialect := some d, tablePrefix := some p } := .cons rfl (.cons rfl .nil)
    exact htakes.holds
  rw [readElements_eq_ok_iff]
  constructor
  · rintro (⟨hend, rfl⟩ | ⟨d, toks, more, htoks, hd, h⟩)
    · exact ⟨[], [], List.nil_prefix, .nil, hend, hnone⟩
    · rcases readTail_eq_ok_iff.1 h with ⟨hend, rfl⟩ | ⟨p, hp, rfl⟩
      · refine ⟨[.dialect d], [toks], by simp [Member.key], .cons (.dialect htoks) .nil, ?_, hone d⟩
        simpa [listTokens] using begins_append_iff.2 ⟨more, hd, hend⟩
      · refine ⟨[.dialect d, .tablePrefix p], [toks, [.string p]], List.prefix_refl _,
          .cons (.dialect htoks) (.cons .tablePrefix .nil), ?_, htwo d p⟩
        simpa [listTokens] using begins_append_iff.2 ⟨more, hd, hp⟩
  · rintro ⟨members, parts, horder, hparts, h, hc⟩
    rcases members_of_order horder with rfl | ⟨d, rfl⟩ | ⟨d, p, rfl⟩
    · cases hparts
      exact .inl ⟨h, hc.eq hnone⟩
    · obtain _ | ⟨⟨htoks⟩, _ | _⟩ := hparts
      obtain ⟨more, hd, hend⟩ := begins_append_iff.1 h
      refine .inr ⟨d, _, more, htoks, by simpa [listTokens] using hd, ?_⟩
      exact readTail_eq_ok_iff.2 (.inl ⟨hend, hc.eq (hone d)⟩)
    · obtain _ | ⟨⟨htoks⟩, _ | ⟨_ | _, _ | _⟩⟩ := hparts
      rw [listTokens_cons_cons, listTokens_singleton, List.append_assoc] at h
      obtain ⟨more, hd, hp⟩ := begins_append_iff.1 h
      exact .inr ⟨d, _, more, htoks, hd, readTail_eq_ok_iff.2 (.inr ⟨p, hp, hc.eq (htwo d p)⟩)⟩

/-! ## Reading a text -/

/-- A configuration at the front of a text. -/
def readFront (cs : List Char) : Except Fault (Config × List Char) :=
  match skipSpace cs with
  | [] => .error .truncated
  | '[' :: cs => readElements cs
  | '\x7b' :: cs => readMembers {} true cs
  | cs => refuse "struct SchemaConfig" cs

theorem read_eq (text : String) : read text = (do
    let (c, rest) ← readFront text.toList
    readEnd rest
    .ok c) := by
  unfold read readFront
  split <;> simp only [*]

theorem readFront_of_object {cs body : List Char} (h : readMark '{' cs = .ok body) :
    readFront cs = readMembers {} true body := by
  rw [readFront, readMark_eq_ok_iff_skipSpace.1 h]
  rfl

theorem readFront_of_array {cs body : List Char} (h : readMark '[' cs = .ok body) :
    readFront cs = readElements body := by
  rw [readFront, readMark_eq_ok_iff_skipSpace.1 h]
  rfl

/-- A configuration is read up to the end of its tokens. -/
theorem readFront_eq_ok_iff {cs rest : List Char} {c : Config} :
    readFront cs = .ok (c, rest) ↔ ∃ toks, c.Format toks ∧ Begins toks cs rest := by
  constructor
  · intro h
    unfold readFront at h
    split at h
    · cases h
    · next body hcs =>
      obtain ⟨members, parts, horder, hparts, hbody, hc⟩ := readElements_eq_ok_iff_values.1 h
      exact ⟨_, .array horder hparts hc,
        (begins_mark_cons_iff (by decide)).2 ⟨body, readMark_eq_ok_iff_skipSpace.2 hcs, hbody⟩⟩
    · next body hcs =>
      obtain ⟨members, parts, draft, htakes, hparts, hbody, rfl⟩ := readMembers_eq_ok_iff.1 h
      rw [memberTokens_true] at hbody
      exact ⟨_, .object (Draft.exists_takes_iff.1 ⟨draft, htakes⟩).1 hparts htakes.holds,
        (begins_mark_cons_iff (by decide)).2 ⟨body, readMark_eq_ok_iff_skipSpace.2 hcs, hbody⟩⟩
    · exact absurd h (refuse_ne_ok _ _ _)
  · rintro ⟨_, hformat, h⟩
    cases hformat with
    | @object members parts hkeys hparts hc =>
      obtain ⟨body, hbrace, hbody⟩ := (begins_mark_cons_iff (by decide)).1 h
      obtain ⟨draft, htakes⟩ := exists_takes_of_nodup hkeys
      rw [← memberTokens_true] at hbody
      rw [readFront_of_object hbrace]
      exact readMembers_eq_ok_iff.2
        ⟨members, parts, draft, htakes, hparts, hbody, htakes.holds.eq hc⟩
    | @array members parts horder hparts hc =>
      obtain ⟨body, hbracket, hbody⟩ := (begins_mark_cons_iff (by decide)).1 h
      rw [readFront_of_array hbracket]
      exact readElements_eq_ok_iff_values.2 ⟨members, parts, horder, hparts, hbody, hc⟩

theorem read_eq_ok_iff {text : String} {c : Config} :
    read text = .ok c ↔ ∃ toks, Spaced toks text.toList ∧ c.Format toks := by
  rw [read_eq, bind_eq_ok_iff]
  constructor
  · rintro ⟨⟨c, rest⟩, hfront, h⟩
    obtain ⟨⟨⟩, hend, h⟩ := bind_eq_ok_iff.1 h
    cases h
    obtain ⟨toks, hformat, hbegins⟩ := readFront_eq_ok_iff.1 hfront
    exact ⟨toks, ⟨rest, readEnd_eq_ok_iff.1 hend, hbegins⟩, hformat⟩
  · rintro ⟨toks, ⟨rest, hspaces, hbegins⟩, hformat⟩
    exact ⟨(c, rest), readFront_eq_ok_iff.2 ⟨toks, hformat, hbegins⟩,
      bind_eq_ok_iff.2 ⟨(), readEnd_eq_ok_iff.2 hspaces, rfl⟩⟩

theorem ofJson_eq_ok_iff {text : String} {c : Config} :
    ofJson text = .ok c ↔ read text = .ok c ∧ c.validate = .ok () := by
  unfold ofJson
  cases read text with
  | error e => simp
  | ok c' =>
    simp only [map_eq_ok_iff, Except.ok.injEq]
    constructor
    · rintro ⟨⟨⟩, hvalid, rfl⟩
      exact ⟨rfl, hvalid⟩
    · rintro ⟨rfl, hvalid⟩
      exact ⟨(), hvalid, rfl⟩

theorem ofJson_of_error {text : String} {fault : Fault} (h : read text = .error fault) :
    ofJson text = .error (.unreadableConfig fault) := by
  rw [ofJson, h]

/-- A key that is unknown or has been read before ends the reading, whatever follows it. -/
theorem read_of_key {text : String} {members : List Member} {parts : List (List Token)}
    {key : String} {rest : List Char} {fault : Fault} (hkeys : (members.map Member.key).Nodup)
    (hparts : List.Forall₂ Member.Keyed members parts)
    (h : Begins (.mark '{' :: listTokens (parts ++ [[Token.string key]])) text.toList rest)
    (hfault : ∀ draft, Draft.Takes {} members draft → readMember draft key rest = .error fault) :
    read text = .error fault := by
  obtain ⟨body, hbrace, hbody⟩ := (begins_mark_cons_iff (by decide)).1 h
  obtain ⟨draft, htakes⟩ := exists_takes_of_nodup hkeys
  rw [← memberTokens_true, memberTokens_append_singleton] at hbody
  obtain ⟨more, hmembers, hkey⟩ := begins_append_iff.1 hbody
  rw [read_eq, readFront_of_object hbrace, readMembers_of_takes htakes hparts hmembers,
    readMembers_of_key hkey, hfault draft htakes]
  rfl

/-- Which texts a configuration is read from, and what it then holds. -/
theorem ofJson_accepts_format (text : String) :
    -- a text is accepted if it is made of tokens of the format, with a valid prefix
    (∀ c : Config, ofJson text = .ok c ↔
      ∃ toks, Spaced toks text.toList ∧ c.Format toks ∧
        (c.tablePrefix = "" ∨ Text.Identifier c.tablePrefix)) ∧
    -- and a text made of other tokens is not
    (∀ (toks : List Token) (c : Config), Spaced toks text.toList →
      (ofJson text = .ok c ↔
        c.Format toks ∧ (c.tablePrefix = "" ∨ Text.Identifier c.tablePrefix))) ∧
    -- a key that is unknown or there already is refused, whatever follows it
    (∀ members parts key rest, (members.map Member.key).Nodup →
      List.Forall₂ Member.Keyed members parts →
      Begins (.mark '{' :: listTokens (parts ++ [[.string key]])) text.toList rest →
        ((∀ m : Member, m.key ≠ key) →
          ofJson text = .error (.unreadableConfig (.mismatch (.unknownField key)))) ∧
        (key ∈ members.map Member.key →
          ofJson text = .error (.unreadableConfig (.mismatch (.duplicateField key))))) ∧
    -- so is text behind the value
    (∀ (c : Config) (toks : List Token) (rest : List Char), c.Format toks →
      Begins toks text.toList rest → ¬ Spaces rest →
      ofJson text = .error (.unreadableConfig .malformed)) ∧
    -- what is accepted is a valid configuration
    (∀ c : Config, ofJson text = .ok c → c.validate = .ok () ∧
      ∀ {ρ : Type} (catalog : Catalog ρ) (resolve : Resolver ρ),
        Compiler.ofConfig c catalog resolve = .ok (.standard c catalog resolve)) := by
  refine ⟨fun c => ?_, fun toks c htoks => ?_, ?_, ?_, fun c h => ?_⟩
  · rw [ofJson_eq_ok_iff, read_eq_ok_iff, validate_eq_ok_iff, isValidPrefix_iff]
    constructor
    · rintro ⟨⟨toks, hspaced, hformat⟩, hprefix⟩
      exact ⟨toks, hspaced, hformat, hprefix⟩
    · rintro ⟨toks, hspaced, hformat, hprefix⟩
      exact ⟨⟨toks, hspaced, hformat⟩, hprefix⟩
  · rw [ofJson_eq_ok_iff, read_eq_ok_iff, validate_eq_ok_iff, isValidPrefix_iff]
    refine and_congr_left fun _ => ⟨?_, fun hformat => ⟨toks, htoks, hformat⟩⟩
    rintro ⟨toks', htoks', hformat⟩
    rwa [htoks.tokens_eq htoks' hformat.isDelimited]
  · intro members parts key rest hkeys hparts h
    refine ⟨fun hunknown => ?_, fun hkey => ?_⟩
    · refine ofJson_of_error (read_of_key hkeys hparts h fun draft _ => ?_)
      exact readMember_of_unknown hunknown draft rest
    · obtain ⟨m, hm, rfl⟩ := List.mem_map.1 hkey
      refine ofJson_of_error (read_of_key hkeys hparts h fun draft htakes => ?_)
      exact readMember_of_has (htakes.has m hm) rest
  · intro c toks rest hformat h hrest
    refine ofJson_of_error ?_
    rw [read_eq, readFront_eq_ok_iff.2 ⟨toks, hformat, h⟩]
    exact bind_eq_error_iff.2
      (.inr ⟨_, rfl, bind_eq_error_iff.2 (.inl (readEnd_of_not_spaces hrest))⟩)
  · have hvalid := (ofJson_eq_ok_iff.1 h).2
    refine ⟨hvalid, fun catalog resolve => ?_⟩
    rw [Compiler.ofConfig, hvalid]
    rfl

/-- Members in the other order, with an escaped key and a dialect in its object form; then a key
twice, a key that is unknown, and text behind an empty array. -/
theorem ofJson_accepts_format_reordered :
    (ofJson "\x7b\"table\\u005fprefix\" : \"app_\", \"dialect\":\x7b\"mysql\":null\x7d\x7d\n" =
        .ok { dialect := .mysql, tablePrefix := "app_" } ∧
      validate { dialect := .mysql, tablePrefix := "app_" } = .ok ()) ∧
    ofJson "\x7b\"dialect\":\"mysql\",\"dialect\":\"mysql\"\x7d" =
      .error (.unreadableConfig (.mismatch (.duplicateField "dialect"))) ∧
    ofJson "\x7b\"tablePrefix\":\"\"\x7d" =
      .error (.unreadableConfig (.mismatch (.unknownField "tablePrefix"))) ∧
    ofJson "[] []" = .error (.unreadableConfig .malformed) := by
  have hprefix : Member.Keyed (.tablePrefix "app_")
      [.string "table_prefix", .mark ':', .string "app_"] := ⟨_, .tablePrefix, rfl⟩
  have hobject : Member.Keyed (.dialect .mysql) [.string "dialect", .mark ':', .mark '{',
      .string "mysql", .mark ':', .null, .mark '}'] := ⟨_, .dialect .object, rfl⟩
  have hname : Member.Keyed (.dialect .mysql) [.string "dialect", .mark ':', .string "mysql"] :=
    ⟨_, .dialect .name, rfl⟩
  refine ⟨?_, ?_, ?_, ?_⟩
  · obtain ⟨-, htokens, -, -, hvalid⟩ := ofJson_accepts_format
      "\x7b\"table\\u005fprefix\" : \"app_\", \"dialect\":\x7b\"mysql\":null\x7d\x7d\n"
    have hholds : Draft.Takes {} [.tablePrefix "app_", .dialect .mysql]
      { dialect := some .mysql, tablePrefix := some "app_" } := .cons rfl (.cons rfl .nil)
    have hok := (htokens _ _ ⟨['\n'], by simp [Spaces],
      begins_ofList (by with_unfolding_all rfl)⟩).2
      ⟨.object (by decide) (.cons hprefix (.cons hobject .nil)) hholds.holds, .inr (by decide)⟩
    exact ⟨hok, (hvalid _ hok).1⟩
  · obtain ⟨-, -, hkey, -⟩ := ofJson_accepts_format
      "\x7b\"dialect\":\"mysql\",\"dialect\":\"mysql\"\x7d"
    have hbegins : Begins (.mark '{' :: listTokens ([[Token.string "dialect", .mark ':',
        .string "mysql"]] ++ [[Token.string "dialect"]]))
      "\x7b\"dialect\":\"mysql\",\"dialect\":\"mysql\"\x7d".toList ":\"mysql\"\x7d".toList :=
      begins_ofList (by with_unfolding_all rfl)
    exact (hkey _ _ "dialect" _ (by decide) (.cons hname .nil) hbegins).2 (by decide)
  · obtain ⟨-, -, hkey, -⟩ := ofJson_accepts_format "\x7b\"tablePrefix\":\"\"\x7d"
    have hbegins : Begins (.mark '{' :: listTokens ([] ++ [[Token.string "tablePrefix"]]))
      "\x7b\"tablePrefix\":\"\"\x7d".toList ":\"\"\x7d".toList :=
      begins_ofList (by with_unfolding_all rfl)
    refine (hkey [] [] "tablePrefix" _ (by decide) .nil hbegins).1 ?_
    rintro (_ | _) <;> simp [Member.key]
  · obtain ⟨-, -, -, hrest, -⟩ := ofJson_accepts_format "[] []"
    exact hrest {} _ " []".toList (.array (by decide) .nil Draft.Takes.nil.holds)
      (begins_ofList (by with_unfolding_all rfl)) (by simp [Spaces])

end Config

end RecordSchema
