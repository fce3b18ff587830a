import RecordSchema.Declaration.Grammar.Bound

/-!
# Types

What a type is, is decided by what it starts with. Two forms need a look at their inside. Something
in parentheses may be a tuple, a type, or the first of several traits, and is the last only if a `+`
follows and what is inside can be a bound by itself. And a path may be a trait: it is one if it has
a binder in front of it or a `+` behind it.
-/

namespace RecordSchema.Declaration

open Reader

namespace Grammar

/-- The words for bounds without a trait in the type of an object. -/
def noTrait : String := "at least one trait is required for an object type"

/-- Bounds after a `+`, which may be the end. Says whether there is a `+`. -/
def addedBounds (g : Grammar) : Read Bool :=
  iterate (fun found => do
    if ← tryOp "+" then
      if ← ask (.bound false) then
        g.anyBound false
        return .again true
      else return .last true
    else return .last found) false

/-- Bounds after a `+` each. Says whether there is one. -/
def furtherBounds (g : Grammar) : Read Bool :=
  iterate (fun found => do
    if ← tryOp "+" then
      g.anyBound false
      return .again true
    else return .last found) false

/-- A form that the compiler knows by a name, with anything in parentheses. It is spelled as it
stands. -/
def builtin (_ : Grammar) : Read Unit := do
  word "builtin"
  op "#"
  discard name
  if ← ask .paren then discard anyGroup else refuse (expected [Delimiter.paren.words])

/-- Such a form comes next. -/
def atBuiltin : Peek := .word "builtin" &&& .second (.op "#")

/-- How functions of other languages are called. -/
def callingConvention (_ : Grammar) : Read Unit := do
  if ← tryWord "extern" then
    if ← ask .string then discard string

/-- The last parameter of a function's type, if it stands for any number of them. -/
def variadicParameter (_ : Grammar) : Read Unit := do
  if ← ask (.name ||| .word "_") then
    discard anyWord
    op ":"
  op "..."
  discard <| tryOp ","

/-- A parameter of a function's type, with a name or without. The first one may be called `self`;
with `mut` in front of that it is spelled as it stands. -/
def functionParameter (g : Grammar) (isFirst : Bool) : Read Unit :=
  verbatimIf do
    let atChanged : Peek := .onlyIf isFirst (.word "mut" &&& .second (.word "self"))
    let changed ← ask atChanged
    if changed then word "mut"
    let isSelf ← ask (.onlyIf isFirst (.word "self"))
    let named ← ask ((.name ||| .word "_" ||| .onlyIf isFirst (.word "self")) &&&
      .second (.opBut ":" ["::"]))
    if named then
      discard anyWord
      op ":"
    if ← ask (.onlyIf (!(isSelf && named)) atChanged) then
      word "mut"
      word "self"
      return (true, ())
    else if changed && !named then word "self"
    else g.anyType
    return (changed, ())

/-- The parameters of a function's type. -/
def functionParameters (g : Grammar) : Read Unit := do
  let named : Peek := (.name ||| .word "_") &&& .second (.op ":") &&& .third (.op "...")
  discard <| iterate (fun isFirst => do
    if ← ask .atEnd then return .last isFirst
    discard g.attributes
    if ← ask (.op "..." ||| named) then
      g.variadicParameter
      return .last false
    g.functionParameter isFirst
    if ← ask .atEnd then return .last false
    op ","
    return .again false) true

/-- The type of a function. -/
def functionType (g : Grammar) : Read Unit := do
  discard <| tryWord "unsafe"
  g.callingConvention
  word "fn"
  groupThen .paren g.functionParameters fun _ body => do
    give [.group .paren body]
    g.returnType false

/-- A type that starts with a path. A binder in front of it makes it a trait, unless it turns out to
be an invocation. -/
def pathType (g : Grammar) (plus : Bool) (binder : Option (List Tree)) : Read TypeShape := do
  let (shape, trees) ← held (g.qualifiedPath false)
  if shape.qualified then
    give trees
    return .other
  else if ← ask (.onlyIf shape.bare .invocation) then
    give trees
    discard invocation
    return .other
  else
    give (binder.getD [] ++ trees)
    let added ← if plus then g.addedBounds else pure false
    return if added then .other else if binder.isSome then .bound false else .path shape.single

/-- A type in parentheses. -/
def wrappedType (g : Grammar) (plus : Bool) : Read TypeShape := do
  let wrapped (body : List Tree) : Read Unit := give [.group .paren body]
  if ← ask (.inside .paren .atEnd) then
    discard anyGroup
    return .other
  else if ← ask (.inside .paren .lifetime) then
    group .paren (g.bounds true false false noTrait)
    return .other
  else if ← ask (.inside .paren (.op "?")) then
    groupThen .paren (g.trait false) fun _ body => do
      wrapped body
      return if ← g.furtherBounds then .other else .bound true
  else
    let inside : Read (Option TypeShape) := do
      let first ← g.type true
      if ← tryOp "," then
        discard <| listed g.anyType
        return none
      else return some first
    groupThen .paren inside fun first body => do
      if ← ask (.onlyIf plus (.op "+")) then
        match first with
        | some (.path _) | some (.bound false) =>
          wrapped body
          discard g.furtherBounds
        | some (.bound true) =>
          give body
          discard g.furtherBounds
        | _ => wrapped body
      else wrapped body
      return .other

/-- What starts a type. -/
def typeStarts : List String :=
  [quoted "for", Delimiter.paren.words, quoted "fn", quoted "unsafe", quoted "extern",
    "identifier", quoted "::", quoted "<", quoted "dyn", Delimiter.bracket.words, quoted "*",
    quoted "&", quoted "!", quoted "impl", quoted "_", "lifetime"]

/-- What may follow a binder. -/
def boundStarts : List String :=
  ["identifier", quoted "fn", quoted "unsafe", quoted "extern", quoted "super", quoted "self",
    quoted "Self", quoted "crate"]

/-- A type after its binder. Says whether it is spelled as it stands. -/
def boundType (g : Grammar) (plus : Bool) (binder : List Tree) : Read (Bool × TypeShape) := do
  if ← ask (.words ["fn", "unsafe", "extern"]) then
    give binder
    g.functionType
    return (false, .other)
  else if ← ask atBuiltin then
    g.builtin
    return (true, .other)
  else if ← ask (.name ||| .words pathWords) then
    return (false, ← g.pathType plus (some binder))
  else refuse (expected boundStarts)

/-- A type without a binder. Says whether it is spelled as it stands. -/
def plainType (g : Grammar) (plus : Bool) : Read (Bool × TypeShape) := do
  if ← ask .paren then return (false, ← g.wrappedType plus)
  else if ← ask (.words ["fn", "unsafe", "extern"]) then g.functionType
  else if ← ask atBuiltin then
    g.builtin
    return (true, .other)
  else if ← ask (.name ||| .words pathWords ||| .ops ["::", "<"]) then
    return (false, ← g.pathType plus none)
  else if ← tryWord "dyn" then
    let starred ← tryOp "*"
    g.bounds plus false false noTrait
    return (starred, .other)
  else if ← ask .bracket then
    group .bracket do
      g.anyType
      if ← tryOp ";" then g.expression
  else if ← tryOp "*" then
    if ← ask (.words ["const", "mut"]) then discard anyWord
    else refuse (expected [quoted "const", quoted "mut"])
    discard <| g.type false
  else if ← tryOp "&" then
    if ← ask .lifetime then lifetime
    discard <| tryWord "mut"
    discard <| g.type false
  else if ← tryOp "!" then pure ()
  else if ← tryWord "impl" then
    g.bounds plus true true "at least one trait must be specified"
  else if ← tryWord "_" then pure ()
  else if ← ask .lifetime then g.bounds true false false noTrait
  else refuse (expected typeStarts)
  return (false, .other)

/-- A type. -/
def typeRule (g : Grammar) (plus : Bool) : Read TypeShape :=
  verbatimIf do
    if ← ask (.word "for") then
      let (_, binder) ← held g.binder
      g.boundType plus binder
    else g.plainType plus

end Grammar

end RecordSchema.Declaration
