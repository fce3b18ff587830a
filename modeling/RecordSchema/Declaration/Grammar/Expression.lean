import RecordSchema.Declaration.Grammar.Pattern
import RecordSchema.Declaration.Grammar.Type

/-!
# Expressions

An operand is an atom with what follows it at once: calls, members, indices and `?`. Operands stand
between operators, and an operator takes as its right operand all that binds more tightly. A range
is no left operand, comparisons have no comparison on their left, assignments group to the right,
and a conversion ends at its type.

At the start of a statement a form that ends with a block is a statement by itself, unless a point
or `?` follows it.
-/

namespace RecordSchema.Declaration

open Reader

/-- An expression of which nothing matters. -/
def ExpressionShape.plain : ExpressionShape := { kind := .other }

/-- The operators between two operands; the first that fits is there. -/
def binaryOperators : List (String × Precedence) :=
  (["+=", "-=", "*=", "/=", "%=", "^=", "&=", "|=", "<<=", ">>="].map (·, .assign)) ++
    [("&&", .and), ("||", .or), ("<<", .shift), (">>", .shift), ("==", .compare), ("<=", .compare),
      ("!=", .compare), (">=", .compare), ("+", .sum), ("-", .sum), ("*", .product),
      ("/", .product), ("%", .product), ("^", .bitXor), ("&", .bitAnd), ("|", .bitOr),
      ("<", .compare), (">", .compare)]

/-- The operator between two operands that comes next, if there is one. -/
def binaryOperator? (ts : List Tree) : Option (String × Precedence) :=
  binaryOperators.find? fun o => (Peek.op o.1).holds ts

/-- A single equality sign comes next. -/
def Peek.equals : Peek := .opBut "=" ["=>"]

/-- How tightly what comes next binds what stands before it. -/
def nextPrecedence (ts : List Tree) : Precedence :=
  match binaryOperator? ts with
  | some (_, p) => p
  | none =>
    if Peek.equals.holds ts then .assign
    else if (Peek.op "..").holds ts then .range
    else if (Peek.word "as").holds ts then .cast
    else .lowest

/-- A member comes next, and not a range. -/
def Peek.point : Peek := .opBut "." [".."]

/-- An expression may start here. -/
def Peek.expression : Peek :=
  (.anyWord &&& ~~~.word "as") ||| .paren ||| .bracket ||| .brace ||| .literal |||
    .opBut "!" ["!="] ||| .opBut "-" ["-=", "->"] ||| .opBut "*" ["*="] ||| .opBut "|" ["|="] |||
    .opBut "&" ["&="] ||| .opBut "<" ["<=", "<<="] ||| .ops ["..", "::", "#"] ||| .lifetime

/-- A form that ends with a block comes next. -/
def Peek.blockForm : Peek :=
  .words ["if", "while", "loop", "match", "unsafe"] |||
    (.words ["try", "const"] &&& .second .brace) ||| (.word "for" &&& ~~~.second .generics) |||
    .brace ||| .lifetime

/-- A closure comes next. -/
def Peek.closure : Peek :=
  .op "|" ||| .words ["move", "static"] ||| (.word "for" &&& .second .generics) |||
    (.word "const" &&& ~~~.second .brace) |||
    (.word "async" &&& .second (.op "|" ||| .word "move"))

/-- A block that is run later comes next. -/
def Peek.asyncBlock : Peek :=
  .word "async" &&& .second (.brace ||| (.word "move" &&& .second .brace))

/-- A path comes next. -/
def Peek.path : Peek :=
  .name ||| .words pathWords ||| .ops ["::", "<"] ||| (.word "try" &&& .second (.ops ["!", "::"]))

/-- The spelling of a number with points as the numbers of members, with points between them and
after the last one if the number ends with one. -/
def memberNumbers (negative : Bool) : List String → Except Refusal (List Tree)
  | [] | [""] => .ok []
  | [part] => do return [← indexOf negative part]
  | part :: parts => do
    return (← indexOf negative part) :: .mark '.' false :: (← memberNumbers false parts)

namespace Grammar

/-! ## Members and operators -/

/-- The numbers of members inside of members. Says whether a point follows the last one. -/
def nestedMembers (_ : Grammar) : Read Bool :=
  take fun ts =>
    match number? ts with
    | some (negative, text) =>
      let parts := text.splitOn "."
      (memberNumbers negative parts).map fun trees =>
        (parts.getLast? == some "", trees, if negative then 2 else 1)
    | none => .error (.wrong (expected ["identifier or integer"]) ts.isEmpty)

/-- What follows a point: a number, a name, or a call of a method. -/
def access (g : Grammar) : Read Unit := do
  if ← ask .decimal then
    unless ← g.nestedMembers do return
  unless ← tryWord "await" do
    let named ← member
    let filled ← ask (.onlyIf named (.op "::"))
    if filled then discard g.arguments
    if filled || (← ask (.onlyIf named .paren)) then
      discard <| group .paren (listed g.expression)

/-- What follows an atom at once. -/
def trailers (g : Grammar) : ExpressionShape → Read ExpressionShape :=
  iterate fun shape => do
    let extendable := shape.kind != .range
    if ← ask .paren then
      discard <| group .paren (listed g.expression)
      return .again .plain
    else if ← ask (.onlyIf extendable .point) then
      op "."
      g.access
      return .again .plain
    else if ← ask .bracket then
      group .bracket g.expression
      return .again .plain
    else if ← ask (.onlyIf extendable (.op "?")) then
      op "?"
      return .again .plain
    else return .last shape

/-- Refuses what must not follow a conversion. -/
def checkConversion (_ : Grammar) : Read Unit := do
  let refuseIt (what : String) : Read Unit := refuse ("casts cannot be followed by " ++ what)
  if ← ask .point then
    if ← ask (.second (.word "await")) then refuseIt "`.await`"
    else if ← ask (.second (.name &&& .second (.paren ||| .op "::"))) then refuseIt "a method call"
    else refuseIt "a field access"
  else if ← ask (.op "?") then refuseIt "`?`"
  else if ← ask .bracket then refuseIt "indexing"
  else if ← ask .paren then refuseIt "a function call"

/-- The right operand of an operator. -/
def rightOperand (g : Grammar) (structs : Bool) (p : Precedence) : Read Unit := do
  let first ← g.operand structs
  discard <| iterate (fun shape => do
    let next ← look nextPrecedence
    if next.atLeast p && (next != p || p == .assign) then
      return .again (← g.operation structs next shape)
    else return .last shape) first

/-- The operator of a range; says whether the range holds its end. -/
def limits (_ : Grammar) : Read Bool := do
  if ← tryOp "..=" then return true
  else if ← ask (.opBut ".." ["..."]) then
    op ".."
    return false
  else refuse (expected [quoted "..="])

/-- The end of a range, which may be left out unless the range holds it. -/
def rangeEnd (g : Grammar) (structs closed : Bool) : Read Unit := do
  let ends : Peek :=
    .atEnd ||| .ops [",", ";", "?", "=>", "=", "+", "/", "%", "^", ">", "<=", "!=", "-=", "*=",
      "&=", "|=", "<<="] ||| .point ||| .word "as" ||| .onlyIf (!structs) .brace
  unless ← ask (.onlyIf (!closed) ends) do g.rightOperand structs .range

/-- Operators that bind at least as tightly as `least`, with their right operands. -/
def operationRule (g : Grammar) (structs : Bool) (least : Precedence) :
    ExpressionShape → Read ExpressionShape :=
  iterate fun left => do
    let joined : ExpressionShape := { left with kind := .other }
    if left.kind == .range then return .last left
    match ← look binaryOperator? with
    | some (o, p) =>
      if !p.atLeast least then return .last left
      else if p == .compare && left.kind == .comparison then
        refuse "comparison operators cannot be chained"
      else
        op o
        g.rightOperand structs p
        return .again (if p == .compare then { left with kind := .comparison } else joined)
    | none =>
      if ← ask (.onlyIf (Precedence.assign.atLeast least) .equals) then
        op "="
        g.rightOperand structs .assign
        return .again joined
      else if ← ask (.onlyIf (Precedence.range.atLeast least) (.op "..")) then
        g.rangeEnd structs (← g.limits)
        return .again { kind := .range }
      else if ← ask (.onlyIf (Precedence.cast.atLeast least) (.word "as")) then
        word "as"
        discard <| g.type false
        g.checkConversion
        return .again joined
      else return .last left

/-! ## Atoms -/

/-- A parameter of a closure. Attributes of a pattern that is spelled as it stands are left out. -/
def closureParameter (g : Grammar) : Read Unit := do
  let (_, attributes) ← held g.attributes
  let (shape, pattern) ← held g.pattern
  let typed ← ask (.op ":")
  unless shape == .verbatim && !typed do give attributes
  give pattern
  if typed then
    op ":"
    g.anyType

/-- A closure. -/
def closure (g : Grammar) (structs : Bool) : Read Unit := do
  if ← ask (.word "for") then g.binder
  discard <| tryWord "const"
  discard <| tryWord "static"
  discard <| tryWord "async"
  discard <| tryWord "move"
  op "|"
  discard <| strictSeries (.op "|") "," g.closureParameter
  op "|"
  if ← tryOp "->" then
    g.anyType
    g.block
  else g.expressionFrom structs .lowest

/-- A member with its value in the value of a struct. -/
def fieldValue (g : Grammar) : Read Unit := do
  discard g.attributes
  let named ← member
  let colon ← ask (.op ":")
  if colon || !named then
    op ":"
    g.expression

/-- The members of the value of a struct; two points at the end stand for all others. -/
def fieldValues (g : Grammar) : Read Unit :=
  iterate (fun _ => do
    if ← ask .atEnd then return .last ()
    if ← tryOp ".." then
      unless ← ask .atEnd do g.expression
      return .last ()
    g.fieldValue
    if ← ask .atEnd then return .last ()
    op ","
    return .again ()) ()

/-- An expression that starts with a path. -/
def pathExpression (g : Grammar) (structs : Bool) : Read ExpressionShape := do
  let shape ← g.qualifiedPath true
  if ← ask (.onlyIf shape.bare .invocation) then return { kind := .invocation (← invocation) }
  if ← ask (.onlyIf structs .brace) then group .brace g.fieldValues
  return .plain

/-- The inside of an array: elements, or one element and how often it stands there. -/
def elements (g : Grammar) : Read Unit := do
  unless ← ask .atEnd do
    g.expression
    if ← ask (.atEnd ||| .op ",") then
      if ← tryOp "," then discard <| listed g.expression
    else if ← tryOp ";" then g.expression
    else refuse (expected [quoted ",", quoted ";"])

/-- A value that is given to the outside, if there is one. It may hold the value of a struct even
where its surroundings may not; `braced` says whether it may start with a brace. -/
def givenValue (g : Grammar) (braced : Bool) : Read Unit := do
  if ← ask (.expression &&& ~~~.onlyIf (!braced) .brace) then g.expression

/-- The end of a loop or block, with its name and value. -/
def leave (g : Grammar) (structs : Bool) : Read Unit := do
  word "break"
  if ← ask (.lifetime &&& .second (.op ":")) then
    g.expression
    reject "parentheses required"
  if ← ask .lifetime then lifetime
  g.givenValue structs

/-- A chain of conditions with their blocks. -/
def conditional (g : Grammar) : Read Unit :=
  iterate (fun _ => do
    word "if"
    g.condition
    g.block
    if ← tryWord "else" then
      if ← ask (.word "if") then return .again ()
      else if ← ask .brace then g.block
      else refuse (expected [quoted "if", Delimiter.brace.words])
    return .last ()) ()

/-- One of the cases of a value. -/
def case (g : Grammar) : Read Unit := do
  discard g.attributes
  discard g.patterns
  if ← tryWord "if" then g.expression
  op "=>"
  let shape ← g.standalone
  if ← ask (.onlyIf (shape.kind != .block) (~~~.atEnd)) then op "," else discard <| tryOp ","

/-- The cases of a value. -/
def cases (g : Grammar) : Read Unit := do
  word "match"
  g.condition
  group .brace do
    g.innerAttributes
    untilEnd g.case

/-- A loop, or a block with a name. -/
def loop (g : Grammar) : Read Unit := do
  if ← tryWord "while" then
    g.condition
    g.attributedBlock
  else if ← tryWord "for" then
    discard g.patterns
    word "in"
    g.condition
    g.attributedBlock
  else if ← tryWord "loop" then g.attributedBlock
  else if ← ask .brace then g.attributedBlock
  else refuse "expected loop or block expression"

/-- A form that ends with a block. -/
def blockForm (g : Grammar) : Read Unit := do
  if ← ask .lifetime then
    lifetime
    op ":"
    g.loop
  else if ← ask (.word "if") then g.conditional
  else if ← ask (.word "match") then g.cases
  else if ← tryWord "try" then g.block
  else if ← ask (.words ["unsafe", "const"]) then
    discard anyWord
    g.attributedBlock
  else g.loop

/-- What stands between operators, without what surrounds it. -/
def atom (g : Grammar) (structs : Bool) : Read ExpressionShape := do
  if ← ask .literal then literal
  else if ← ask .asyncBlock then
    word "async"
    discard <| tryWord "move"
    g.block
  else if ← ask (.word "try" &&& .second .brace) then
    g.blockForm
    return { kind := .block }
  else if ← ask .closure then g.closure structs
  else if ← ask atBuiltin then
    g.builtin
    return { kind := .verbatim, verbatimFront := true }
  else if ← ask .path then return ← g.pathExpression structs
  else if ← ask .paren then discard <| group .paren (listed g.expression)
  else if ← ask (.word "break") then g.leave structs
  else if ← tryWord "continue" then
    if ← ask .lifetime then lifetime
  else if ← ask (.words ["return", "yield"]) then
    discard anyWord
    g.givenValue true
  else if ← tryWord "become" then
    g.expression
    return { kind := .verbatim, verbatimFront := true }
  else if ← ask .bracket then group .bracket g.elements
  else if ← tryWord "let" then
    discard g.patterns
    op "="
    g.expressionFrom structs .compare
  else if ← ask .blockForm then
    g.blockForm
    return { kind := .block }
  else if ← ask (.op "..") then
    g.rangeEnd structs (← g.limits)
    return { kind := .range }
  else if ← tryWord "_" then pure ()
  else refuse "expected an expression"
  return .plain

/-- An operand with the operators and attributes in front of it. -/
def operandRule (g : Grammar) (structs : Bool) : Read ExpressionShape :=
  verbatimIf do
    let attributes ← g.attributes
    if ← tryOp "&" then
      let raw ← ask (.word "raw" &&& .second (.words ["mut", "const"]))
      if raw then word "raw"
      let changeable ← tryWord "mut"
      if raw && !changeable then word "const"
      discard <| g.operand structs
      return (false, .plain)
    else if ← ask (.ops ["*", "!", "-"]) then
      unless ← tryOp "*" do unless ← tryOp "!" do op "-"
      discard <| g.operand structs
      return (false, .plain)
    else
      let shape ← g.trailers (← g.atom structs)
      if shape.kind == .range && !attributes.isEmpty then
        reject "attributes are not allowed on range expressions starting with `..`"
      return (shape.kind == .verbatim, shape)

/-- An expression behind its attributes. One that is spelled as it stands loses them, and a range is
put in parentheses. -/
def attributed (attributes trees : List Tree) (isVerbatim isRange : Bool) : List Tree :=
  if attributes.isEmpty || isVerbatim then trees
  else if isRange then attributes ++ [.paren trees]
  else attributes ++ trees

/-- An expression at the start of a statement. -/
def standaloneRule (g : Grammar) : Read ExpressionShape := do
  let (_, attributes) ← held g.attributes
  let (shape, trees) ← held do
    if ← ask .blockForm then
      g.blockForm
      return { kind := .block }
    else g.operand true
  give (attributed attributes trees (shape.kind == .verbatim) (shape.kind == .range))
  if shape.kind != .block then g.operation true .lowest shape
  else if ← ask (.point ||| .op "?") then
    g.operation true .lowest (← g.trailers shape)
  else return shape

end Grammar

end RecordSchema.Declaration
