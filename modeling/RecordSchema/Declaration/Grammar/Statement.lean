import RecordSchema.Declaration.Grammar.Item

/-!
# Statements

A statement is a binding, an item, an invocation in braces, or an expression. An expression that
does not end with a block needs a semicolon behind it unless it ends the block that it stands in.
-/

namespace RecordSchema.Declaration

open Reader

/-- What a path without arguments that comes next leaves, if there is one. -/
def afterModulePath? (ts : List Tree) : Option (List Tree) :=
  (modulePath.run ts).toOption.map (·.rest)

/-- A path without arguments comes next, and after it something. -/
def Peek.afterPath (p : Peek) : Peek := ⟨fun ts => (afterModulePath? ts).any p.holds⟩

/-- An invocation that gives items comes next. -/
def Peek.itemInvocation : Peek := .afterPath (.op "!" &&& .second (.name ||| .word "try"))

/-- An invocation in braces comes next that is a statement by itself. -/
def Peek.braceInvocation : Peek :=
  .afterPath (.op "!" &&& .second (.brace &&& ~~~.second (.point ||| .op "?")))

/-- An item comes next, its attributes apart. -/
def Peek.item : Peek :=
  .words ["pub", "extern", "use", "fn", "mod", "type", "struct", "enum", "trait", "impl", "macro"]
    ||| (.word "crate" &&& ~~~.second (.op "::"))
    ||| (.word "static" &&& .second (.word "mut" ||| .name))
    ||| (.word "const" &&& ~~~.second (.brace ||| .words ["static", "move"] ||| .op "|" |||
      (.word "async" &&& ~~~.second (.words ["unsafe", "extern", "fn"]))))
    ||| (.word "unsafe" &&& ~~~.second .brace)
    ||| (.word "async" &&& .second (.words ["unsafe", "extern", "fn"]))
    ||| (.word "union" &&& .second .name)
    ||| (.word "auto" &&& .second (.word "trait"))
    ||| (.word "default" &&& .second (.words ["unsafe", "impl"]))
    ||| .itemInvocation

namespace Grammar

/-- A binding. What happens if the pattern does not fit may be given after the value, unless the
value ends with braces. -/
def binding (g : Grammar) : Read Unit := do
  word "let"
  discard g.pattern
  if ← tryOp ":" then g.anyType
  if ← tryOp "=" then
    let value ← spelled g.expression
    let closed := value.getLast?.any fun t => Peek.brace.holds [t]
    if ← ask (.onlyIf (!closed) (.word "else")) then
      word "else"
      g.block
  op ";"

/-- A statement. Says whether a semicolon is missing behind it. -/
def statement (g : Grammar) : Read Bool :=
  verbatimIf do
    let (_, attributes) ← held g.attributes
    if ← ask .braceInvocation then
      give attributes
      modulePath
      discard invocation
      discard <| tryOp ";"
      return (false, false)
    else if ← ask (.word "let") then
      give attributes
      g.binding
      return (false, false)
    else if ← ask .item then
      give attributes
      return (← g.itemAfterAttributes, false)
    else
      let (shape, trees) ← held g.standalone
      give (attributed attributes trees shape.verbatimFront (shape.kind == .range))
      let ended ← tryOp ";"
      return (false, !ended && shape.kind != .block && shape.kind != .invocation true)

/-- Statements up to the end of a block. -/
def statementsRule (g : Grammar) : Read Unit :=
  iterate (fun _ => do
    many (.op ";") (op ";")
    if ← ask .atEnd then return .last ()
    let missing ← g.statement
    if ← ask .atEnd then return .last ()
    if missing then refuse "unexpected token, expected `;`"
    return .again ()) ()

end Grammar

end RecordSchema.Declaration
