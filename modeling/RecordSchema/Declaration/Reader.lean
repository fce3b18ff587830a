import RecordSchema.Declaration.Peek
import RecordSchema.Declaration.Refusal

/-!
# Readers

A reader takes something from the front of a list of token trees. It gives a value, the rest, and
what it took as it is to be spelled: every operator by itself and no mark joined to the next, unless
the trees are kept as they stood. The rest is never longer than what the reader was given, so
whatever is read again and again comes to an end.

A group is read by a reader of its inside. If that reader leaves something over, the reading goes
on: what is left over is refused only when all else has been read, so it gives way to every other
refusal. A reading remembers the delimiter of the first group of which something was left over.
-/

namespace RecordSchema.Declaration

/-- What a reader makes of a list of trees. -/
structure Reading (α : Type) where
  value : α
  /-- What was taken, as it is spelled. -/
  taken : List Tree
  rest : List Tree
  /-- The delimiter of the first group of which something was left over. -/
  unread : Option Delimiter := none

/-- Puts a reading in front of one that goes on where it stopped. -/
def Reading.before {α β : Type} (first : Reading α) (second : Reading β) : Reading β :=
  { second with
    taken := first.taken ++ second.taken
    unread := first.unread <|> second.unread }

/-- A way to take an `α` from the front of a list of token trees, or to fail with an `ε`. -/
structure Reader (ε α : Type) where
  run : List Tree → Except ε (Reading α)
  length_le : ∀ {ts r}, run ts = .ok r → r.rest.length ≤ ts.length

/-- A reader that fails with a refusal. -/
abbrev Read := Reader Refusal

namespace Reader

variable {ε α β σ : Type}

/-- Takes nothing. -/
def done (a : α) : Reader ε α where
  run ts := .ok { value := a, taken := [], rest := ts }
  length_le h := by cases h; exact Nat.le_refl _

/-- Goes on with what a reader took. -/
def andThen (r : Reader ε α) (f : α → Reader ε β) : Reader ε β where
  run ts :=
    match r.run ts with
    | .error e => .error e
    | .ok a =>
      match (f a.value).run a.rest with
      | .error e => .error e
      | .ok b => .ok (a.before b)
  length_le h := by
    split at h
    · cases h
    · next ha =>
      split at h
      · cases h
      · next hb =>
        have hle := (f _).length_le hb
        cases h
        exact Nat.le_trans hle (r.length_le ha)

instance : Monad (Reader ε) where
  pure := done
  bind := andThen

/-- Takes nothing and fails. -/
def fail (e : ε) : Reader ε α := ⟨fun _ => .error e, fun h => by cases h⟩

/-- Takes nothing and looks at what comes next. -/
def look (f : List Tree → α) : Reader ε α where
  run ts := .ok { value := f ts, taken := [], rest := ts }
  length_le h := by cases h; exact Nat.le_refl _

/-- Takes nothing and answers a question. -/
def ask (p : Peek) : Reader ε Bool := look p.holds

/-- Takes nothing and spells something. -/
def give (ts : List Tree) : Reader ε Unit where
  run rest := .ok { value := (), taken := ts, rest }
  length_le h := by cases h; exact Nat.le_refl _

/-- Refuses what comes next: `words` say what would fit. -/
def refuse (words : String) : Read α :=
  ⟨fun ts => .error (.wrong words ts.isEmpty), fun h => by cases h⟩

/-- Refuses what has been taken. -/
def reject (words : String) : Read α := fail (.wrong words false)

/-- Takes a number of trees, spelled as given, if a function of what comes next gives them with a
value. -/
def take (f : List Tree → Except ε (α × List Tree × Nat)) : Reader ε α where
  run ts :=
    match f ts with
    | .error e => .error e
    | .ok (a, taken, n) => .ok { value := a, taken, rest := ts.drop n }
  length_le h := by
    split at h
    · cases h
    · cases h; simp

/-- Takes an operator. -/
def op (o : String) : Read Unit :=
  take fun ts =>
    if (Peek.op o).holds ts then .ok ((), Tree.operator o.toList, o.length)
    else .error (.operator o)

/-- Takes an operator if it stands there. -/
def tryOp (o : String) : Reader ε Bool :=
  take fun ts =>
    if (Peek.op o).holds ts then .ok (true, Tree.operator o.toList, o.length)
    else .ok (false, [], 0)

/-- Takes a certain word. -/
def word (w : String) : Read Unit :=
  take fun ts =>
    if (Peek.word w).holds ts then .ok ((), [.word w], 1)
    else .error (.wrong (expected [quoted w]) ts.isEmpty)

/-- Takes a certain word if it stands there. -/
def tryWord (w : String) : Reader ε Bool :=
  take fun ts =>
    if (Peek.word w).holds ts then .ok (true, [.word w], 1) else .ok (false, [], 0)

/-- Takes an identifier. -/
def name : Read String :=
  take fun
    | .word w :: _ => if isName w then .ok (w, [.word w], 1) else .error (.keyword w)
    | ts => .error (.wrong (expected ["identifier"]) ts.isEmpty)

/-- Takes any word. -/
def anyWord : Read String :=
  take fun
    | .word w :: _ => .ok (w, [.word w], 1)
    | ts => .error (.wrong (expected ["ident"]) ts.isEmpty)

/-- Takes a lifetime. -/
def lifetime : Read Unit :=
  take fun
    | .mark '\x27' true :: .word w :: _ => .ok ((), Tree.lifetime w, 2)
    | ts => .error (.wrong (expected ["lifetime"]) ts.isEmpty)

/-- Takes a literal, a truth value or a negative number. -/
def literal : Read Unit :=
  take fun ts =>
    match ts with
    | .literal t :: _ => .ok ((), [.literal t], 1)
    | .word w :: _ =>
      if Peek.literal.holds ts then .ok ((), [.word w], 1)
      else .error (.wrong (expected ["literal"]) false)
    | _ =>
      match number? ts with
      | some (_, t) => .ok ((), [.mark '-' false, .literal t], 2)
      | none => .error (.wrong (expected ["literal"]) ts.isEmpty)

/-- Takes a string literal and gives what it stands for. -/
def string : Read String :=
  take fun
    | .literal t :: _ =>
      match Literal.stringValue? t with
      | some s => .ok (s, [.literal t], 1)
      | none => .error (.wrong (expected ["string literal"]) false)
    | ts => .error (.wrong (expected ["string literal"]) ts.isEmpty)

/-- Takes any group as it stands, and gives its delimiter and its inside. -/
def anyGroup : Read (Delimiter × List Tree) :=
  take fun
    | .group d body :: _ => .ok ((d, body), [.group d body], 1)
    | ts => .error (.wrong (expected ["delimiter"]) ts.isEmpty)

/-- Takes a group, reads its inside by `r` and goes on with what that gives; the second argument of
`next` is the inside as it is spelled. What `r` leaves over counts as left over after everything
else that `r` and `next` leave over. -/
def groupThen (d : Delimiter) (r : Read α) (next : α → List Tree → Read β) : Read β where
  run
    | .group e body :: ts =>
      if d == e then
        match r.run body with
        | .error x => .error x
        | .ok a =>
          match (next a.value a.taken).run ts with
          | .error x => .error x
          | .ok b =>
            .ok { b with
              unread := a.unread <|> b.unread <|> if a.rest.isEmpty then none else some d }
      else .error (.wrong (expected [d.words]) false)
    | ts => .error (.wrong (expected [d.words]) ts.isEmpty)
  length_le h := by
    split at h
    · split at h
      · split at h
        · cases h
        · split at h
          · cases h
          · next hb =>
          have hle := (next _ _).length_le hb
          cases h
          exact Nat.le_trans hle (Nat.le_succ _)
      · cases h
    · cases h

/-- Takes a group whose inside is read by `r`. -/
def group (d : Delimiter) (r : Read α) : Read α :=
  groupThen d r fun a body => do
    give [.group d body]
    return a

/-- What a reader takes, and how it is spelled, without spelling it. -/
def held (r : Reader ε α) : Reader ε (α × List Tree) where
  run ts :=
    match r.run ts with
    | .error e => .error e
    | .ok a => .ok { a with value := (a.value, a.taken), taken := [] }
  length_le h := by
    split at h
    · cases h
    · next ha => cases h; exact r.length_le ha

/-- The spelling of what a reader takes. -/
def spelled (r : Reader ε α) : Reader ε (List Tree) := do
  let (_, ts) ← r.held
  give ts
  return ts

/-- A reader that spells what it takes as it stands if its value says so. -/
def verbatimIf (r : Reader ε (Bool × α)) : Reader ε α where
  run ts :=
    match r.run ts with
    | .error e => .error e
    | .ok a =>
      .ok { a with
        value := a.value.2
        taken := if a.value.1 then ts.take (ts.length - a.rest.length) else a.taken }
  length_le h := by
    split at h
    · cases h
    · next ha => cases h; exact r.length_le ha

/-- A reader that spells what it takes as it stands. -/
def verbatim (r : Reader ε α) : Reader ε α := verbatimIf ((true, ·) <$> r)

/-- What a reader takes, or nothing where it fails. -/
def attempt (r : Reader ε α) : Reader ε (Option α) where
  run ts :=
    match r.run ts with
    | .error _ => .ok { value := none, taken := [], rest := ts }
    | .ok a => .ok { a with value := some a.value }
  length_le h := by
    split at h
    · cases h; exact Nat.le_refl _
    · next ha => cases h; exact r.length_le ha

/-- A reader with another kind of failure. -/
def mapError {δ : Type} (f : ε → δ) (r : Reader ε α) : Reader δ α where
  run ts := (r.run ts).mapError f
  length_le {ts a} h := by
    cases hr : r.run ts with
    | error e => rw [hr] at h; cases h
    | ok p => rw [hr] at h; cases h; exact r.length_le hr

/-! ## Reading again and again -/

/-- Whether a step is the last one. -/
inductive Step (σ : Type) where
  | again (s : σ)
  | last (s : σ)

/-- Repeats a step until it says that it is the last one or takes nothing. -/
def repeatRun (step : σ → Reader ε (Step σ)) (s : σ) (ts : List Tree) : Except ε (Reading σ) :=
  match (step s).run ts with
  | .error e => .error e
  | .ok a =>
    match a.value with
    | .last s => .ok { a with value := s }
    | .again s =>
      if _h : a.rest.length < ts.length then
        match repeatRun step s a.rest with
        | .error e => .error e
        | .ok b => .ok (a.before b)
      else .ok { a with value := s }
termination_by ts.length

theorem length_repeatRun_le {step : σ → Reader ε (Step σ)} {s : σ} {ts : List Tree}
    {r : Reading σ} (h : repeatRun step s ts = .ok r) : r.rest.length ≤ ts.length := by
  fun_induction repeatRun step s ts generalizing r with
  | case1 => cases h
  | case2 s ts a ha => cases h; exact (step s).length_le ha
  | case3 => cases h
  | case4 s ts a ha s' _ hlt b hb ih =>
    have hle := ih hb
    cases h
    exact Nat.le_trans hle (Nat.le_of_lt hlt)
  | case5 s ts a ha => cases h; exact (step s).length_le ha

/-- Repeats a step until it says that it is the last one or takes nothing. -/
def iterate (step : σ → Reader ε (Step σ)) (s : σ) : Reader ε σ :=
  ⟨repeatRun step s, length_repeatRun_le⟩

/-- Reads again and again while a question is answered with yes. -/
def many (p : Peek) (r : Reader ε Unit) : Reader ε Unit :=
  iterate (fun _ => do
    if ← ask p then
      r
      return .again ()
    else return .last ()) ()

/-- Reads things with an operator after each until `stop` holds; the operator may be left out after
the last of them, and where it is missing nothing more is read. Says whether there was anything. -/
def series (stop : Peek) (sep : String) (r : Read Unit) : Read Bool :=
  iterate (fun found => do
    if ← ask stop then return .last found
    r
    if ← tryOp sep then return .again true else return .last true) false

/-- Reads things with an operator after each until `stop` holds; the operator has to stand after
each but the last. Says whether there was anything. -/
def strictSeries (stop : Peek) (sep : String) (r : Read Unit) : Read Bool :=
  iterate (fun found => do
    if ← ask stop then return .last found
    r
    if ← ask stop then return .last true
    op sep
    return .again true) false

/-- Reads things until nothing is left. -/
def untilEnd (r : Read Unit) : Read Unit := many (~~~Peek.atEnd) r

/-! ## Lists -/

/-- Reads elements with commas between them, and possibly after the last one, until nothing is left.
`missing` is the failure where a comma has to stand. -/
def listRun (missing : ε) (r : Reader ε α) (ts : List Tree) : Except ε (Reading (List α)) :=
  if ts.isEmpty then .ok { value := [], taken := [], rest := [] }
  else
    match r.run ts with
    | .error e => .error e
    | .ok a =>
      if a.rest.isEmpty then .ok { a with value := [a.value] }
      else if (Peek.op ",").holds a.rest then
        if _h : a.rest.tail.length < ts.length then
          match listRun missing r a.rest.tail with
          | .error e => .error e
          | .ok b => .ok (a.before
              { b with value := a.value :: b.value, taken := .mark ',' false :: b.taken })
        else .error missing
      else .error missing
termination_by ts.length
decreasing_by exact _h

theorem rest_listRun {missing : ε} {r : Reader ε α} {ts : List Tree} {a : Reading (List α)}
    (h : listRun missing r ts = .ok a) : a.rest = [] := by
  fun_induction listRun missing r ts generalizing a with
  | case1 => cases h; rfl
  | case2 => cases h
  | case3 ts _ a _ ha => cases h; exact List.isEmpty_iff.mp ha
  | case4 => cases h
  | case5 ts _ a _ _ _ _ b hb ih =>
    have hnil := ih hb
    cases h
    exact hnil
  | case6 => cases h
  | case7 => cases h

/-- Reads elements with commas between them, and possibly after the last one, until nothing is left.
`missing` is the failure where a comma has to stand. -/
def list (missing : ε) (r : Reader ε α) : Reader ε (List α) :=
  ⟨listRun missing r, fun h => by rw [rest_listRun h]; exact Nat.zero_le _⟩

/-- Reads elements with commas between them. -/
def listed (r : Read α) : Read (List α) := list (.operator ",") r

/-- Reads all of a list of trees as one thing; `leftOver` is the failure if something is left over,
in a group or at the end. -/
def all (leftOver : Option Delimiter → ε) (r : Reader ε α) (ts : List Tree) : Except ε α :=
  match r.run ts with
  | .error e => .error e
  | .ok a =>
    match a.unread with
    | some d => .error (leftOver (some d))
    | none => if a.rest.isEmpty then .ok a.value else .error (leftOver none)

/-! ## Laws -/

theorem run_pure (a : α) (ts : List Tree) :
    (pure a : Reader ε α).run ts = .ok { value := a, taken := [], rest := ts } := rfl

theorem run_bind (r : Reader ε α) (f : α → Reader ε β) (ts : List Tree) :
    (r >>= f).run ts = match r.run ts with
      | .error e => .error e
      | .ok a =>
        match (f a.value).run a.rest with
        | .error e => .error e
        | .ok b => .ok (a.before b) := rfl

theorem run_list_nil (missing : ε) (r : Reader ε α) :
    (list missing r).run [] = .ok { value := [], taken := [], rest := [] } := by
  show listRun missing r [] = _
  rw [listRun]
  rfl

/-- A list of elements that is not empty is read as its first element and, after a comma, a list of
the others. -/
theorem run_list_cons (missing : ε) (r : Reader ε α) (t : Tree) (ts : List Tree) :
    (list missing r).run (t :: ts) = match r.run (t :: ts) with
      | .error e => .error e
      | .ok a =>
        match a.rest with
        | [] => .ok { a with value := [a.value] }
        | comma :: rest =>
          if (Peek.op ",").holds (comma :: rest) then
            match (list missing r).run rest with
            | .error e => .error e
            | .ok b => .ok (a.before
                { b with value := a.value :: b.value, taken := .mark ',' false :: b.taken })
          else .error missing := by
  show listRun missing r (t :: ts) = _
  rw [listRun]
  cases hr : r.run (t :: ts) with
  | error e => rfl
  | ok a =>
    have hle := r.length_le hr
    obtain ⟨value, taken, rest, unread⟩ := a
    cases rest with
    | nil => rfl
    | cons comma rest =>
      have hlt : rest.length < ts.length + 1 := hle
      simp [hlt, list]

end Reader

end RecordSchema.Declaration
