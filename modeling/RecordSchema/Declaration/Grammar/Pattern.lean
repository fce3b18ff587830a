import RecordSchema.Declaration.Grammar.Path

/-!
# Patterns

What a pattern is, is decided by its first two trees. A literal, a constant or a path may be the
start of a range, which may lack its end where something ends the pattern; between brackets a range
has both ends. Between alternatives stand bars, possibly with one in front of the first.

Members of structs, by name or by number, are read here as well; the number is spelled in decimal
digits.
-/

namespace RecordSchema.Declaration

open Reader

/-- The largest number of a member. -/
def largestIndex : Nat := 0xffffffff

/-- The spelling of a number that names a member. -/
def indexOf (negative : Bool) (text : String) : Except Refusal Tree :=
  if Literal.isInteger text then
    let (n, suffix) := Literal.integerValue text
    if !suffix.isEmpty then .error (.wrong "expected unsuffixed integer" false)
    else if negative then .error (.wrong "invalid digit found in string" false)
    else if largestIndex < n then .error (.wrong "number too large to fit in target type" false)
    else .ok (.literal (toString n))
  else .error (.wrong (expected ["integer literal"]) false)

namespace Reader

/-- A number that names a member. -/
def index : Read Unit :=
  take fun ts =>
    match number? ts with
    | some (negative, text) =>
      (indexOf negative text).map fun t => ((), [t], if negative then 2 else 1)
    | none => .error (.wrong (expected ["integer literal"]) ts.isEmpty)

/-- A name or number of a member; says whether it is a name. -/
def member : Read Bool := do
  if ← ask .name then
    discard name
    return true
  else if ← ask .integer then
    index
    return false
  else refuse (expected ["identifier or integer"])

end Reader

/-- A bar between patterns comes next. -/
def Peek.alternative : Peek := .opBut "|" ["||", "|="]

namespace Grammar

/-- Patterns with bars between them, and possibly one in front. -/
def patterns (g : Grammar) : Read PatternShape := do
  let led ← tryOp "|"
  let first ← g.pattern
  if ← ask .alternative then
    many .alternative do
      op "|"
      discard g.pattern
    return .other
  else return if led then .other else first

/-- Patterns with commas between them, up to the end of a group. -/
def patternList (g : Grammar) : Read Unit := discard <| listed g.patterns

/-- The operator of a range in a pattern; says whether the range holds its end. Three points are
spelled as two and an equality sign. -/
def patternLimits (_ : Grammar) : Read Bool := do
  if ← tryOp "..=" then return true
  else if ← ask (.op "...") then
    discard <| held (op "...")
    give (Tree.operator ['.', '.', '='])
    return true
  else
    op ".."
    return false

/-- The end of a pattern comes next. -/
def atPatternEnd : Peek := .atEnd ||| .ops ["|", "=", ",", ";"] ||| .opBut ":" ["::"] ||| .word "if"

/-- An end of a range in a pattern; says whether there is one. -/
def patternBound (g : Grammar) : Read Bool := do
  if ← ask atPatternEnd then return false
  else if ← ask .literal then literal
  else if ← ask (.name ||| .ops ["::", "<"] ||| .words pathWords) then
    discard <| g.qualifiedPath true
  else if ← tryWord "const" then g.attributedBlock
  else
    refuse (expected ["literal", "identifier", quoted "::", quoted "<", quoted "self",
      quoted "Self", quoted "super", quoted "crate", quoted "const"])
  return true

/-- The words for a range without the end that it holds. -/
def noUpperBound : String := "expected range upper bound"

/-- A range whose start has been taken. -/
def rangePattern (g : Grammar) : Read PatternShape := do
  let closed ← g.patternLimits
  let found ← g.patternBound
  if found then return .other
  else if closed then refuse noUpperBound
  else return .openRange

/-- A field of a struct, under its name or by itself. -/
def fieldPattern (g : Grammar) : Read Unit :=
  verbatimIf do
    let boxed ← tryWord "box"
    let byReference ← tryWord "ref"
    let changeable ← tryWord "mut"
    let marked := boxed || byReference || changeable
    let named ← if marked then (fun _ => true) <$> name else member
    let colon ← ask (.onlyIf (!marked) (.op ":"))
    if colon || !named then
      op ":"
      discard g.patterns
    return (boxed, ())

/-- The fields of a struct; two points at the end stand for all others. -/
def fieldPatterns (g : Grammar) : Read Unit :=
  iterate (fun _ => do
    if ← ask .atEnd then return .last ()
    discard g.attributes
    if ← tryOp ".." then return .last ()
    g.fieldPattern
    if ← ask .atEnd then return .last ()
    op ","
    return .again ()) ()

/-- A pattern that starts with a path. -/
def pathPattern (g : Grammar) : Read PatternShape := do
  let shape ← g.qualifiedPath true
  if ← ask (.onlyIf shape.bare .invocation) then discard invocation
  else if ← ask .brace then group .brace g.fieldPatterns
  else if ← ask .paren then group .paren g.patternList
  else if ← ask (.op "..") then return ← g.rangePattern
  return .other

/-- A name that a value is bound to. -/
def namePattern (g : Grammar) : Read Unit := do
  discard <| tryWord "ref"
  discard <| tryWord "mut"
  unless ← tryWord "self" do discard name
  if ← tryOp "@" then discard g.pattern

/-- The patterns between brackets. -/
def slicePatterns (g : Grammar) : Read Unit :=
  discard <| listed do
    if (← g.patterns) == .openRange then
      reject "range pattern is not allowed unparenthesized inside slice pattern"

/-- What starts a pattern, two points apart. -/
def patternStarts : List String :=
  ["identifier", quoted "::", quoted "<", quoted "_", "literal", quoted "const", quoted "ref",
    quoted "mut", quoted "&", Delimiter.paren.words, Delimiter.bracket.words]

/-- A path that is more than a name comes next, or one that is no name. -/
def atPathPattern : Peek :=
  (.name &&& .second (.ops ["::", "!", ".."] ||| .brace ||| .paren)) |||
    (.word "self" &&& .second (.op "::")) ||| .ops ["::", "<"] ||| .words ["Self", "super", "crate"]

/-- A pattern without alternatives. -/
def patternRule (g : Grammar) : Read PatternShape := do
  if ← ask atPathPattern then g.pathPattern
  else if ← tryWord "_" then return .other
  else if ← ask (.word "box") then
    verbatim do
      word "box"
      discard g.pattern
    return .verbatim
  else if ← ask (.op "-" ||| .literal ||| .word "const") then
    discard g.patternBound
    if ← ask (.op "..") then g.rangePattern else return .other
  else if ← ask (.name ||| .words ["ref", "mut", "self"]) then
    g.namePattern
    return .other
  else if ← tryOp "&" then
    discard <| tryWord "mut"
    discard g.pattern
    return .other
  else if ← ask .paren then
    group .paren g.patternList
    return .other
  else if ← ask .bracket then
    group .bracket g.slicePatterns
    return .other
  else if ← ask (.opBut ".." ["..."]) then
    let shape ← g.rangePattern
    return if shape == .openRange then .rest else .openRange
  else
    let pointed ← ask (.op "..")
    refuse (expected (patternStarts ++ if pointed then [] else [quoted ".."]))

end Grammar

end RecordSchema.Declaration
