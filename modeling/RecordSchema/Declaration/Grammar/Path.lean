import RecordSchema.Declaration.Grammar.Attribute

/-!
# Paths

Names with `::` between them. A name may have arguments between angle brackets: lifetimes, types,
constants, and bindings of a name to a type, a constant or bounds. Lifetimes are spelled before all
other arguments, whatever their order was.

In an expression arguments stand after `::`, because a bare `<` compares. A path does not run into
parentheses: `::` with parentheses behind it belongs to what follows the path.
-/

namespace RecordSchema.Declaration

open Reader

/-- An element of a list between angle brackets, and whether a comma follows it. -/
structure Listed where
  isLifetime : Bool
  trees : List Tree
  comma : Bool

/-- The spelling of an element with its comma. -/
def Listed.spelling (x : Listed) : List Tree :=
  x.trees ++ if x.comma then Tree.operator [','] else []

/-- The spelling of a list: lifetimes first, with a comma between them and the others. -/
def Listed.lifetimesFirst (xs : List Listed) : List Tree :=
  let lifetimes := xs.filter (·.isLifetime)
  let others := xs.filter (!·.isLifetime)
  let gap := lifetimes.getLast?.any (!·.comma) && !others.isEmpty
  lifetimes.flatMap spelling ++ (if gap then Tree.operator [','] else []) ++
    others.flatMap spelling

/-- Reads elements with commas between them, and possibly after the last one, until a closing angle
bracket. An element says whether it is a lifetime. -/
def Reader.angleList (element : Read Bool) : Read (List Listed) :=
  List.reverse <$> iterate (fun xs => do
    if ← ask (.op ">") then return .last xs
    let (isLifetime, trees) ← held element
    if ← ask (.op ">") then return .last (⟨isLifetime, trees, false⟩ :: xs)
    discard <| held (op ",")
    return .again (⟨isLifetime, trees, true⟩ :: xs)) []

/-- The arguments of the last name of a path. -/
inductive LastArguments where
  | none
  /-- Angle brackets with nothing between them, and how many trees they take. -/
  | empty (size : Nat)
  | some
deriving DecidableEq

/-- What matters about a path. -/
structure PathShape where
  /-- It starts with a type in angle brackets. -/
  qualified : Bool
  /-- It is one name, with or without arguments. -/
  single : Bool
  /-- No name has arguments. -/
  bare : Bool
  last : LastArguments

/-- `::` and another name of the path come next. -/
def Peek.anotherName : Peek := .op "::" &&& ~~~.third .paren

/-- What makes a bare path an invocation comes next. -/
def Peek.invocation : Peek := .opBut "!" ["!="]

/-- `!` and a group; says whether it is in braces. -/
def Reader.invocation : Read Bool := do
  op "!"
  let (d, _) ← anyGroup
  return d == .brace

namespace Grammar

/-- An argument; says whether it is a lifetime. -/
def argument (g : Grammar) : Read Bool := do
  if ← ask (.lifetime &&& ~~~.second (.op "+")) then
    lifetime
    return true
  else if ← ask (.literal ||| .brace) then g.constant
  else if (← g.type true) == .path true then
    if ← tryOp "=" then
      if ← ask (.literal ||| .brace) then g.constant else g.anyType
    else if ← tryOp ":" then
      discard <| series (.ops [",", ">"]) "+" (g.anyBound true)
  return false

/-- Arguments between angle brackets. -/
def arguments (g : Grammar) : Read LastArguments := do
  let joined ← tryOp "::"
  op "<"
  let xs ← angleList g.argument
  give (Listed.lifetimesFirst xs)
  op ">"
  return if !xs.isEmpty then .some else if joined then .empty 4 else .empty 2

/-- A name of a path with its arguments. -/
def segment (g : Grammar) (valued : Bool) : Read LastArguments := do
  if ← ask (.words ["super", "self", "crate", "try"]) then
    discard anyWord
    return .none
  else
    if ← ask (.word "Self") then discard anyWord else discard name
    if ← ask (.onlyIf (!valued) (.opBut "<" ["<=", "<<="]) |||
        (.op "::" &&& .third (.op "<"))) then
      g.arguments
    else return .none

/-- A path; `valued` says that it is an expression. -/
def path (g : Grammar) (valued : Bool) : Read PathShape := do
  let rooted ← tryOp "::"
  let first ← g.segment valued
  iterate (fun shape => do
    if ← ask .anotherName then
      op "::"
      let last ← g.segment valued
      return .again
        { shape with single := false, bare := shape.bare && last == .none, last }
    else return .last shape) ⟨false, !rooted, first == .none, first⟩

/-- A path that may start with a type in angle brackets, of which it then names a part. -/
def qualifiedPath (g : Grammar) (valued : Bool) : Read PathShape := do
  if ← tryOp "<" then
    g.anyType
    if ← tryWord "as" then discard <| g.path false
    op ">"
    op "::"
    let last ← iterate (fun _ => do
      let last ← g.segment valued
      if ← tryOp "::" then return .again last else return .last last) .none
    return ⟨true, false, false, last⟩
  else g.path valued

/-- The type that a function returns, if it is given. -/
def returnType (g : Grammar) (plus : Bool) : Read Unit := do
  if ← tryOp "->" then discard <| g.type plus

/-- Arguments between parentheses and the type that is returned. -/
def callArguments (g : Grammar) : Read Unit := do
  discard <| group .paren (listed g.anyType)
  g.returnType false

end Grammar

end RecordSchema.Declaration
