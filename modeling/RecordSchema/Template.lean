import RecordSchema.Text.Slice

/-!
# Templates

A template is a text with placeholders in braces. Filling reads it once from left to right: the text
up to the next opening brace is copied; what stands between that brace and the first closing brace
after it is a key, replaced by its value, or copied with its braces if no value is bound to it; an
opening brace that no closing brace follows is text, like all that comes after it. Values are put in
as they are and never read again, so a brace in a value stays a brace.

The work is done on offsets into what is left of the template. `next` makes one round of it, with
every cut checked; `next_of_text`, `next_of_unclosed` and `next_of_placeholder` say what comes of it
for the three shapes a text can have, so no cut ever fails (`isSome_next`).
-/

namespace RecordSchema.Template

/-- Fills a template as far as its next placeholder reaches: what is put out for that, and what is
left to be read if there was a placeholder. No result at all stands for a cut in a wrong place. -/
def next (vars : List (String × String)) (template : String) : Option (String × Option String) :=
  match Text.offset? '{' template with
  | none => some (template, none)
  | some start => do
    let before ← Text.slice? template 0 start
    let after ← Text.slice? template (start + 1) template.utf8ByteSize
    match Text.offset? '}' after with
    | none =>
      let tail ← Text.slice? template start template.utf8ByteSize
      return (before ++ tail, none)
    | some stop =>
      let key ← Text.slice? after 0 stop
      let value ← match vars.lookup key with
        | some value => some value
        | none => Text.slice? template start (start + stop + 2)
      let rest ← Text.slice? after (stop + 1) after.utf8ByteSize
      return (before ++ value, some rest)

/-- What replaces a placeholder: the value of the first binding of its key, or itself. -/
def value (vars : List (String × String)) (key : String) : String :=
  (vars.lookup key).getD ("\x7b" ++ key ++ "\x7d")

/-- The shapes of a text, by its first opening brace and the first closing brace after that. -/
inductive Shape : String → Prop
  | text {s : String} (h : '{' ∉ s.toList) : Shape s
  | unclosed {before after : String} (hb : '{' ∉ before.toList) (ha : '}' ∉ after.toList) :
    Shape (before ++ "\x7b" ++ after)
  | placeholder {before key rest : String} (hb : '{' ∉ before.toList) (hk : '}' ∉ key.toList) :
    Shape (before ++ "\x7b" ++ (key ++ "\x7d" ++ rest))

theorem shape (s : String) : Shape s := by
  cases hopen : Text.offset? '{' s with
  | none => exact .text (Text.offset?_eq_none_iff.1 hopen)
  | some start =>
    obtain ⟨before, after, rfl, hb, -⟩ := Text.offset?_eq_some_iff.1 hopen
    cases hclose : Text.offset? '}' after with
    | none => exact .unclosed hb (Text.offset?_eq_none_iff.1 hclose)
    | some stop =>
      obtain ⟨key, rest, rfl, hk, -⟩ := Text.offset?_eq_some_iff.1 hclose
      exact .placeholder hb hk

section next

variable {vars : List (String × String)}

theorem next_of_text {s : String} (h : '{' ∉ s.toList) : next vars s = some (s, none) := by
  rw [next, Text.offset?_eq_none_iff.2 h]

theorem next_of_unclosed {before after : String} (hb : '{' ∉ before.toList)
    (ha : '}' ∉ after.toList) :
    next vars (before ++ "\x7b" ++ after) = some (before ++ "\x7b" ++ after, none) := by
  have hopen : Text.offset? '{' (before ++ "\x7b" ++ after) = some before.utf8ByteSize :=
    Text.offset?_append hb
  have hbefore := Text.slice?_before before "\x7b" after
  have hafter : Text.slice? (before ++ "\x7b" ++ after) (before.utf8ByteSize + 1)
      (before ++ "\x7b" ++ after).utf8ByteSize = some after := Text.slice?_after ..
  have htail : Text.slice? (before ++ "\x7b" ++ after) before.utf8ByteSize
      (before ++ "\x7b" ++ after).utf8ByteSize = some ("\x7b" ++ after) :=
    Text.slice?_eq_some_iff.2 ⟨before, "", by simp [String.append_assoc], rfl,
      by simp [String.append_assoc]⟩
  simp only [next, hopen, hbefore, hafter, htail, Text.offset?_eq_none_iff.2 ha,
    Option.bind_eq_bind, Option.bind_some, Option.pure_def]
  rw [String.append_assoc]

theorem next_of_placeholder {before key rest : String} (hb : '{' ∉ before.toList)
    (hk : '}' ∉ key.toList) :
    next vars (before ++ "\x7b" ++ (key ++ "\x7d" ++ rest)) =
      some (before ++ value vars key, some rest) := by
  have hopen : Text.offset? '{' (before ++ "\x7b" ++ (key ++ "\x7d" ++ rest)) =
      some before.utf8ByteSize := Text.offset?_append hb
  have hclose : Text.offset? '}' (key ++ "\x7d" ++ rest) = some key.utf8ByteSize :=
    Text.offset?_append hk
  have hbefore := Text.slice?_before before "\x7b" (key ++ "\x7d" ++ rest)
  have hafter : Text.slice? (before ++ "\x7b" ++ (key ++ "\x7d" ++ rest)) (before.utf8ByteSize + 1)
      (before ++ "\x7b" ++ (key ++ "\x7d" ++ rest)).utf8ByteSize = some (key ++ "\x7d" ++ rest) :=
    Text.slice?_after ..
  have hkey := Text.slice?_before key "\x7d" rest
  have hrest : Text.slice? (key ++ "\x7d" ++ rest) (key.utf8ByteSize + 1)
      (key ++ "\x7d" ++ rest).utf8ByteSize = some rest := Text.slice?_after ..
  have hself : Text.slice? (before ++ "\x7b" ++ (key ++ "\x7d" ++ rest)) before.utf8ByteSize
      (before.utf8ByteSize + key.utf8ByteSize + 2) = some ("\x7b" ++ key ++ "\x7d") := by
    refine Text.slice?_eq_some_iff.2 ⟨before, rest, by simp only [String.append_assoc], rfl, ?_⟩
    have hopen : "\x7b".utf8ByteSize = 1 := rfl
    have hclose : "\x7d".utf8ByteSize = 1 := rfl
    simp only [String.utf8ByteSize_append, hopen, hclose]
    omega
  cases hv : vars.lookup key <;>
    simp only [next, value, hopen, hclose, hbefore, hafter, hkey, hrest, hself, hv,
      Option.bind_eq_bind, Option.bind_some, Option.pure_def, Option.getD_none, Option.getD_some]

/-- No cut fails, whatever the text and the bindings are. -/
theorem isSome_next (vars : List (String × String)) (s : String) : (next vars s).isSome := by
  cases shape s with
  | text h => rw [next_of_text h]; rfl
  | unclosed hb ha => rw [next_of_unclosed hb ha]; rfl
  | placeholder hb hk => rw [next_of_placeholder hb hk]; rfl

/-- What is left to be read is shorter than what was. -/
theorem size_lt_of_next {s piece rest : String} (h : next vars s = some (piece, some rest)) :
    rest.utf8ByteSize < s.utf8ByteSize := by
  cases shape s with
  | text hs => rw [next_of_text hs] at h; cases h
  | unclosed hb ha => rw [next_of_unclosed hb ha] at h; cases h
  | placeholder hb hk =>
    rw [next_of_placeholder hb hk] at h
    cases h
    have hsize : "\x7b".utf8ByteSize = 1 := rfl
    simp only [String.utf8ByteSize_append, hsize]
    omega

end next

/-- Fills a template and puts it out after what has been put out already. -/
def scan (vars : List (String × String)) (out template : String) : Option String :=
  match _h : next vars template with
  | none => none
  | some (piece, none) => some (out ++ piece)
  | some (piece, some rest) => scan vars (out ++ piece) rest
termination_by template.utf8ByteSize
decreasing_by exact size_lt_of_next _h

theorem scan_of_none {vars : List (String × String)} {out s piece : String}
    (h : next vars s = some (piece, none)) : scan vars out s = some (out ++ piece) := by
  rw [scan]
  split <;> simp_all

theorem scan_of_some {vars : List (String × String)} {out s piece rest : String}
    (h : next vars s = some (piece, some rest)) :
    scan vars out s = scan vars (out ++ piece) rest := by
  rw [scan]
  split <;> simp_all

theorem isSome_scan (vars : List (String × String)) (out s : String) :
    (scan vars out s).isSome := by
  fun_induction scan vars out s with
  | case1 out s h => simpa [h] using isSome_next vars s
  | case2 => rfl
  | case3 out s piece rest h ih => exact ih

/-- Fills the placeholders of a template. -/
def render (template : String) (vars : List (String × String)) : String :=
  (scan vars "" template).get (isSome_scan vars "" template)

end RecordSchema.Template
