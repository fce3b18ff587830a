import RecordSchema.Config.Json

/-!
# Configurations written and read

What is written of a configuration is read back, member by member: each reader takes from the front
what the writer has put there and leaves the rest as it is, whatever that rest is. A prefix may hold
any characters, since every character of a string is written as an escape or as itself and read back
from that (`Json.stringBody_written`). So reading a written configuration gives the configuration,
and the check that follows judges the same prefix (`Config.ofJson_toJson`).
-/

namespace RecordSchema

namespace Json

theorem skipSpace_cons {c : Char} (h : isSpace c = false) (cs : List Char) :
    skipSpace (c :: cs) = c :: cs := by
  simp [skipSpace, h]

theorem readMark_cons {mark : Char} (h : isSpace mark = false) (cs : List Char) :
    readMark mark (mark :: cs) = .ok cs := by
  simp [readMark, skipSpace_cons h]

theorem written_append (cs rest : List Char) :
    written cs ++ rest = '\x22' :: (cs.flatMap writtenChar ++ '\x22' :: rest) := by
  simp [written]

/-- A written string is read back, and what follows it is left. -/
theorem readString_written (expected : String) (cs rest : List Char) :
    readString expected (written cs ++ rest) = .ok (String.ofList cs, rest) := by
  rw [written_append, readString, skipSpace_cons (by decide)]
  show (stringBody (cs.flatMap writtenChar ++ '\x22' :: rest)).map _ = _
  rw [stringBody_written]
  rfl

/-- Nothing below the space is written, so a written string stays on one line. -/
theorem space_le_of_mem_writtenChar {c x : Char} (h : x ∈ writtenChar c) : 0x20 ≤ x.toNat := by
  have hdigit : ∀ n < 0x20, 0x20 ≤ (Nat.digitChar (n / 16)).toNat ∧
      0x20 ≤ (Nat.digitChar (n % 16)).toNat := by decide
  unfold writtenChar at h
  split at h
  case h_8 =>
    split at h
    · next hc =>
      obtain ⟨hhigh, hlow⟩ := hdigit c.toNat hc
      simp only [List.mem_cons, List.not_mem_nil, or_false] at h
      rcases h with rfl | rfl | rfl | rfl | rfl | rfl
      · decide
      · decide
      · decide
      · decide
      · exact hhigh
      · exact hlow
    · next hc =>
      rw [List.mem_singleton] at h
      subst h
      omega
  all_goals
    simp only [List.mem_cons, List.not_mem_nil, or_false] at h
    rcases h with rfl | rfl <;> decide

theorem space_le_of_mem_written {cs : List Char} {x : Char} (h : x ∈ written cs) :
    0x20 ≤ x.toNat := by
  simp only [written, List.mem_cons, List.mem_append, List.mem_flatMap, List.not_mem_nil,
    or_false] at h
  rcases h with (rfl | ⟨c, -, hx⟩) | rfl
  · decide
  · exact space_le_of_mem_writtenChar hx
  · decide

end Json

open Json

namespace Dialect

theorem ofVariant_name (d : Dialect) : ofVariant d.name = .ok d := by
  rw [ofVariant, ofName?_name]

/-- A written dialect is read back, and what follows it is left. -/
theorem read_written (d : Dialect) (rest : List Char) :
    read (written d.name.toList ++ rest) = .ok (d, rest) := by
  rw [written_append, read, skipSpace_cons (by decide)]
  show (stringBody (d.name.toList.flatMap writtenChar ++ '\x22' :: rest)).bind _ = _
  rw [stringBody_written]
  show (ofVariant (String.ofList d.name.toList)).bind _ = _
  rw [String.ofList_toList, ofVariant_name]
  rfl

end Dialect

namespace Config

/-- A member of an object as it is written: its key, a colon, and the text of its value. -/
def memberText (key : String) (value : List Char) : List Char :=
  written key.toList ++ ':' :: value

/-- What is written in front of a member. -/
def separator (first : Bool) : List Char := if first then [] else [',']

theorem readNext_close (first : Bool) (rest : List Char) :
    readNext first ('\x7d' :: rest) = .ok (none, rest) := by
  simp [readNext, skipSpace_cons (c := '\x7d') (by decide)]

theorem readNext_quote (first : Bool) (rest : List Char) :
    readNext first (separator first ++ '\x22' :: rest) = .ok (some rest, []) := by
  have hmark : readMark '\x22' ('\x22' :: rest) = .ok rest := readMark_cons (by decide) rest
  cases first with
  | true => simp [separator, readNext, skipSpace_cons (c := '\x22') (by decide)]
  | false => simp [separator, readNext, skipSpace_cons (c := ',') (by decide), hmark, Except.map]

/-- A written member starts with its key in quotes, as strings are written. -/
theorem readNext_member (first : Bool) (key : String) (value rest : List Char) :
    readNext first (separator first ++ (memberText key value ++ rest)) =
      .ok (some (key.toList.flatMap writtenChar ++ '\x22' :: (':' :: (value ++ rest))), []) := by
  rw [memberText, List.append_assoc, written_append, readNext_quote, List.cons_append]

/-- The closing brace ends an object with what has been read of it. -/
theorem readMembers_close (draft : Draft) (first : Bool) (rest : List Char) :
    readMembers draft first ('\x7d' :: rest) = .ok (draft.finish, rest) := by
  rw [readMembers, readNext_close]
  rfl

/-- A written dialect goes into a draft that has none. -/
theorem readMembers_dialect {draft : Draft} (h : draft.dialect = none) (first : Bool)
    (d : Dialect) (rest : List Char) :
    readMembers draft first
        (separator first ++ (memberText "dialect" (written d.name.toList) ++ rest)) =
      readMembers { draft with dialect := some d } false rest := by
  rw [readMembers, readNext_member]
  show (stringBody _).bind _ = _
  rw [stringBody_written]
  simp only [Except.bind, String.ofList_toList]
  split
  · next hd => rw [h] at hd; cases hd
  · rw [readMark_cons (by decide)]
    show (Dialect.read _).bind _ = _
    rw [Dialect.read_written]
    rfl

/-- A written prefix goes into a draft that has none. -/
theorem readMembers_tablePrefix {draft : Draft} (h : draft.tablePrefix = none) (first : Bool)
    (p : String) (rest : List Char) :
    readMembers draft first
        (separator first ++ (memberText "table_prefix" (written p.toList) ++ rest)) =
      readMembers { draft with tablePrefix := some p } false rest := by
  rw [readMembers, readNext_member]
  show (stringBody _).bind _ = _
  rw [stringBody_written]
  simp only [Except.bind, String.ofList_toList]
  split
  · next hp => rw [h] at hp; cases hp
  · rw [readMark_cons (by decide)]
    show (readString _ _).bind _ = _
    rw [readString_written, String.ofList_toList]
    rfl

theorem toList_toJson (c : Config) :
    c.toJson.toList =
      '\x7b' :: (separator true ++ (memberText "dialect" (written c.dialect.name.toList) ++
        (separator false ++ (memberText "table_prefix" (written c.tablePrefix.toList) ++
          ['\x7d'])))) := by
  have hd : "\x7b\"dialect\":".toList = '\x7b' :: (written "dialect".toList ++ [':']) := by decide
  have hp : ",\"table_prefix\":".toList = ',' :: (written "table_prefix".toList ++ [':']) := by
    decide
  unfold toJson Dialect.toJson
  rw [String.toList_append, String.toList_append, String.toList_append, String.toList_append, hd,
    hp, String.toList_ofList, String.toList_ofList]
  simp [memberText, separator]

/-- A configuration is read back from what is written of it, checked or not. -/
theorem read_toJson (c : Config) : read c.toJson = .ok c := by
  have hbody : ∀ rest, readMembers {} true
      (separator true ++ (memberText "dialect" (written c.dialect.name.toList) ++
        (separator false ++ (memberText "table_prefix" (written c.tablePrefix.toList) ++
          '\x7d' :: rest)))) = .ok (c, rest) := by
    intro rest
    rw [readMembers_dialect rfl, readMembers_tablePrefix rfl, readMembers_close]
    rfl
  rw [read, toList_toJson, skipSpace_cons (by decide)]
  show (readMembers {} true _).bind _ = _
  rw [hbody]
  rfl

theorem space_le_of_mem_toJson {c : Config} {x : Char} (h : x ∈ c.toJson.toList) :
    0x20 ≤ x.toNat := by
  simp only [toList_toJson, memberText, separator, List.mem_cons, List.mem_append,
    List.not_mem_nil, or_false, false_or, if_true, if_false, Bool.false_eq_true] at h
  rcases h with rfl | (hx | rfl | hx) | rfl | (hx | rfl | hx) | rfl
  any_goals decide
  all_goals exact space_le_of_mem_written hx

theorem ofJson_of_read {text : String} {c : Config} (h : read text = .ok c) :
    ofJson text = c.validate.map fun _ => c := by
  rw [ofJson, h]

/-- A configuration that is valid is read back from what is written of it. One that is not is
refused for its prefix, with the error that checking it gives, and never for its JSON. -/
theorem ofJson_toJson (c : Config) :
    -- the text holds the configuration, on one line
    read c.toJson = .ok c ∧
    (∀ x ∈ c.toJson.toList, 0x20 ≤ x.toNat) ∧
    -- it is accepted or refused as the configuration is
    (c.validate = .ok () → ofJson c.toJson = .ok c) ∧
    (∀ e, c.validate = .error e →
      ofJson c.toJson = .error e ∧ e = .invalidConfig (.tablePrefix c.tablePrefix)) ∧
    (∀ fault, ofJson c.toJson ≠ .error (.unreadableConfig fault)) := by
  have hread := ofJson_of_read c.read_toJson
  refine ⟨c.read_toJson, fun x hx => space_le_of_mem_toJson hx, ?_, ?_, ?_⟩
  · intro hv
    rw [hread, hv]
    rfl
  · intro e he
    rw [hread, he]
    exact ⟨rfl, ((validate_eq_error_iff c e).1 he).2⟩
  · intro fault h
    rw [hread] at h
    cases hv : c.validate with
    | ok u => rw [hv] at h; cases h
    | error e =>
      obtain ⟨-, he⟩ := (validate_eq_error_iff c e).1 hv
      rw [hv, he] at h
      cases h

/-- A prefix that is a name, and one made of a quote, a backslash, control characters and characters
beyond ASCII. -/
theorem ofJson_toJson_prefixes :
    ofJson (toJson { dialect := .mysql, tablePrefix := "app_" }) =
        .ok { dialect := .mysql, tablePrefix := "app_" } ∧
      ofJson (toJson { tablePrefix := "\"\\\n\x01é😀" }) =
        .error (.invalidConfig (.tablePrefix "\"\\\n\x01é😀")) := by
  refine ⟨?_, ?_⟩
  · obtain ⟨-, -, hvalid, -⟩ := ofJson_toJson { dialect := .mysql, tablePrefix := "app_" }
    exact hvalid ((validate_eq_ok_iff _).2 (by decide))
  · obtain ⟨-, -, -, hinvalid, -⟩ := ofJson_toJson { tablePrefix := "\"\\\n\x01é😀" }
    exact (hinvalid _ ((validate_eq_error_iff _ _).2 ⟨by decide, rfl⟩)).1

end Config

end RecordSchema
