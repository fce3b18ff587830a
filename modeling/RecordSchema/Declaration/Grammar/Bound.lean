import RecordSchema.Declaration.Grammar.Path

/-!
# Bounds and generic parameters

A bound is a lifetime, a trait, or the list of what may be captured. A trait may be said to hold for
parameters of its own, and to be optional or constant; a constant one is spelled as it stands. Only
the path of a trait takes arguments in parentheses, and angle brackets with nothing between them in
front of these are not spelled.

Generic parameters are lifetimes, types and constants. A colon without bounds behind it is not
spelled, nor are angle brackets without parameters, nor `where` without predicates.
-/

namespace RecordSchema.Declaration

open Reader

/-- Another bound comes next. -/
def Peek.bound (constants : Bool) : Peek :=
  .anyWord ||| .ops ["::", "?"] ||| .lifetime ||| .paren ||| .onlyIf constants .bracket

/-- Generic parameters come next, and not a type in angle brackets. -/
def Peek.generics : Peek :=
  .op "<" &&& .second
    (.ops [">", "#"] ||| .word "const" |||
      ((.lifetime ||| .name) &&& .second (.ops [">", ",", "="] ||| .opBut ":" ["::"])))

/-- The end of a predicate of a where clause comes next. -/
def Peek.predicateEnd : Peek :=
  .atEnd ||| .brace ||| .ops [",", ";", "="] ||| .opBut ":" ["::"]

/-- Bounds after a colon, which is not spelled if there are none. Says whether there is a colon. -/
def Reader.afterColon (bounds : Read Bool) : Read Bool := do
  let (colon, _) ← held (tryOp ":")
  if colon then
    let (found, trees) ← held bounds
    if found then give (Tree.operator [':'])
    give trees
  return colon

namespace Grammar

/-- A parameter that is a lifetime. -/
def lifetimeParameter (_ : Grammar) : Read Unit := do
  lifetime
  discard <| afterColon (series (.ops [",", ">"]) "+" lifetime)

/-- A parameter that is a type. -/
def typeParameter (g : Grammar) : Read Unit := do
  discard name
  discard <| afterColon (series (.ops [",", ">", "="]) "+" (g.anyBound true))
  if ← tryOp "=" then g.anyType

/-- A parameter that is a constant. -/
def constantParameter (g : Grammar) : Read Unit := do
  word "const"
  discard name
  op ":"
  g.anyType
  if ← tryOp "=" then g.constant

/-- The parameters that something holds for. -/
def binder (g : Grammar) : Read Unit := do
  word "for"
  op "<"
  discard <| strictSeries (.op ">") "," do
    discard g.attributes
    if ← ask .name then g.typeParameter
    else if ← ask .lifetime then g.lifetimeParameter
    else if ← ask (.word "const") then g.constantParameter
    else refuse (expected ["identifier", "lifetime", quoted "const"])
  op ">"

/-- The parameters of an item, if there are angle brackets for them. -/
def generics (g : Grammar) : Read (Option (List Listed)) := do
  let (opened, _) ← held (tryOp "<")
  if opened then
    let parameters ← angleList do
      discard g.attributes
      if ← ask .lifetime then
        g.lifetimeParameter
        return true
      else if ← ask .name then g.typeParameter
      else if ← ask (.word "const") then g.constantParameter
      else if ← ask (.word "_") then discard anyWord
      else refuse (expected ["lifetime", "identifier", quoted "const"])
      return false
    discard <| held (op ">")
    unless parameters.isEmpty do
      give (Tree.operator ['<'] ++ Listed.lifetimesFirst parameters ++ Tree.operator ['>'])
    return some parameters
  else return none

/-- A predicate of a where clause, about a lifetime or a type. -/
def predicate (g : Grammar) : Read Unit := do
  if ← ask (.lifetime &&& .second (.op ":")) then
    lifetime
    op ":"
    discard <| series (.atEnd ||| .brace ||| .ops [",", ";", ":", "="]) "+" lifetime
  else
    if ← ask (.word "for") then g.binder
    g.anyType
    op ":"
    discard <| series .predicateEnd "+" (g.anyBound true)

/-- The predicates that have to hold. Says whether there is a clause for them. -/
def whereClause (g : Grammar) : Read Bool := do
  let (clause, start) ← held (tryWord "where")
  if clause then
    if ← ask .generics then
      refuse "generic parameters on `where` clauses are reserved for future use"
    let (found, predicates) ← held (series .predicateEnd "," g.predicate)
    if found then give start
    give predicates
  return clause

/-- The path of a trait, with arguments in parentheses or not. -/
def traitPath (g : Grammar) : Read Unit := do
  let (shape, trees) ← held (g.path false)
  let called ← ask (.paren ||| (.op "::" &&& .third .paren))
  match shape.last with
  | .some => give trees
  | .none =>
    give trees
    call called
  | .empty size =>
    give (if called then trees.take (trees.length - size) else trees)
    call called
where
  /-- The arguments, if there are any; `::` in front of them is not spelled. -/
  call (called : Bool) : Read Unit := do
    if called then
      let _ : Bool × List Tree ← held (tryOp "::")
      g.callArguments

/-- A trait. Says whether it is constant. -/
def trait (g : Grammar) (constants : Bool) : Read Bool := do
  let bound ← ask (.word "for")
  if bound then g.binder
  let perhaps ← ask .bracket
  let constant ← ask (.word "const")
  if perhaps then
    group .bracket (word "const")
    unless constants do reject "`[const]` is not allowed here"
  else if constant then
    word "const"
    unless constants do reject "`const` is not allowed here"
  let optional ← tryOp "?"
  let boundLate ← ask (.onlyIf (optional && !bound) (.word "for"))
  if boundLate then g.binder
  g.traitPath
  if optional && (bound || boundLate) then
    reject "`for<...>` binder not allowed with `?` trait polarity modifier"
  return perhaps || constant

/-- What may be captured. -/
def captures (_ : Grammar) : Read Unit := do
  word "use"
  op "<"
  let xs ← angleList do
    let isLifetime ← ask .lifetime
    if isLifetime then lifetime
    else if ← ask (.name ||| .word "Self") then discard anyWord
    else refuse (expected ["lifetime", "identifier", quoted ">"])
    unless ← ask (.ops [",", ">"]) do refuse (expected [quoted ",", quoted ">"])
    return isLifetime
  give (Listed.lifetimesFirst xs)
  op ">"

/-- A bound. -/
def boundRule (g : Grammar) (captures constants : Bool) : Read BoundShape := do
  if ← ask .lifetime then
    lifetime
    return .lifetime
  else if ← ask (.word "use") then
    g.captures
    if captures then return .captures
    else reject "`use<...>` precise capturing syntax is not allowed here"
  else
    verbatimIf do
      let constant ← if ← ask .paren then group .paren (g.trait constants) else g.trait constants
      return (constant, .trait)

/-- Bounds with `+` between them, of which one at least has to be a trait. -/
def bounds (g : Grammar) (plus captures constants : Bool) (missing : String) : Read Unit := do
  let shapes ← iterate (fun shapes => do
    let shape ← g.bound captures constants
    if ← ask (.onlyIf plus (.op "+")) then
      op "+"
      if ← ask (.bound constants) then return .again (shape :: shapes)
    return .last (shape :: shapes)) []
  unless shapes.contains .trait do reject missing

end Grammar

end RecordSchema.Declaration
