import RecordSchema.Declaration.Grammar.Category

/-!
# Attributes

An attribute is a path in brackets after `#`, by itself, with a group, or with a value after `=`. An
inner attribute, which has `!` after the `#`, belongs to what it stands in.
-/

namespace RecordSchema.Declaration

open Reader

/-- The words of a path without arguments that are no identifiers. -/
def pathWords : List String := ["super", "self", "Self", "crate"]

/-- A path without arguments. -/
def Reader.modulePath : Read Unit := do
  discard <| tryOp "::"
  discard <| iterate (fun found => do
    if ← ask (.name ||| .words pathWords) then
      discard anyWord
      if ← tryOp "::" then return .again true else return .last true
    else if found then refuse "expected path segment after `::`"
    else
      discard name
      return .last true) false

namespace Grammar

/-- The inside of an attribute. -/
def attributeContent (g : Grammar) : Read Attribute := do
  let path ← spelled (do unless ← tryWord "unsafe" do modulePath)
  if ← ask (.paren ||| .bracket ||| .brace) then
    let (_, content) ← anyGroup
    return ⟨path, .list content⟩
  else if ← tryOp "=" then
    if ← ask (.op "#" &&& .second .bracket) then
      reject "unexpected attribute inside of attribute"
    g.expression
    return ⟨path, .value⟩
  else return ⟨path, .none⟩

/-- The attributes of what follows them. -/
def attributes (g : Grammar) : Read (List Attribute) :=
  List.reverse <$> iterate (fun found => do
    if ← tryOp "#" then return .again ((← group .bracket g.attributeContent) :: found)
    else return .last found) []

/-- The inner attributes of what they stand in. -/
def innerAttributes (g : Grammar) : Read Unit :=
  many (.op "#" &&& .second (.op "!")) do
    op "#"
    op "!"
    discard <| group .bracket g.attributeContent

/-- Statements between braces. -/
def block (g : Grammar) : Read Unit := group .brace g.statements

/-- Statements between braces with inner attributes in front of them. -/
def attributedBlock (g : Grammar) : Read Unit :=
  group .brace do
    g.innerAttributes
    g.statements

/-- A value that is a literal, an identifier or a block. -/
def constant (g : Grammar) : Read Unit := do
  if ← ask .literal then literal
  else if ← ask .name then discard name
  else if ← ask .brace then g.attributedBlock
  else if ← ask .atEnd then reject "unexpected end of input"
  else reject "unexpected token"

/-- Who may use what is declared; says whether that is said. -/
def visibility (_ : Grammar) : Read Bool := do
  if ← tryWord "pub" then
    if ← ask (.inside .paren (.words ["crate", "self", "super"] &&& .second .atEnd)) then
      discard anyGroup
    else if ← ask (.inside .paren (.word "in")) then
      group .paren do
        word "in"
        modulePath
    return true
  else return false

end Grammar

end RecordSchema.Declaration
