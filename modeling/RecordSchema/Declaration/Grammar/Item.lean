import RecordSchema.Declaration.Grammar.Expression

/-!
# Items

Structs, enums and unions, functions, traits, implementations and the other things that a module may
hold. After its attributes and its visibility, an item is told by its first words. Forms that are
read but have no meaning of their own, such as a function without a body outside a trait, are
spelled as they stand; a reader of an item says whether it is one of these.
-/

namespace RecordSchema.Declaration

open Reader

/-- Trees without a word at the front. -/
def skipWord (w : String) (ts : List Tree) : List Tree :=
  if (Peek.word w).holds ts then ts.tail else ts

/-- The signature of a function comes next; `safe` says whether it may be called safe. -/
def Peek.signature (safe : Bool) : Peek where
  holds ts :=
    let ts := skipWord "async" (skipWord "const" ts)
    let ts := if safe && (word "safe").holds ts then ts.tail else skipWord "unsafe" ts
    let ts :=
      if (word "extern").holds ts then if string.holds ts.tail then ts.tail.tail else ts.tail
      else ts
    (word "fn").holds ts

/-- The path of an invocation comes next. -/
def Peek.invocationPath : Peek := .name ||| .words ["self", "super", "crate"] ||| .op "::"

/-- The words for such a path. -/
def invocationWords : List String :=
  ["identifier", quoted "self", quoted "super", quoted "crate", quoted "::"]

namespace Grammar

/-! ## Structs, enums and unions -/

/-- Whether the type of a field called `_` is a list of fields. -/
def atInnerFields : Peek := .word "struct" ||| (.word "union" &&& .second .brace)

/-- A field with a name. A field called `_` may hold fields of its own, spelled as they stand. -/
def namedField (g : Grammar) : Read FieldDeclaration := do
  let attributes ← g.attributes
  discard g.visibility
  let unnamed ← ask (.word "_")
  let name ← if unnamed then anyWord else name
  op ":"
  let type ← spelled do
    if ← ask (.onlyIf unnamed atInnerFields) then
      verbatim do
        discard anyWord
        discard g.fields
    else g.anyType
  return ⟨attributes, name, type⟩

/-- Fields between braces. -/
def fieldsRule (g : Grammar) : Read (List FieldDeclaration) := group .brace (listed g.namedField)

/-- Fields between parentheses. -/
def tupleFields (g : Grammar) : Read Unit :=
  discard <| group .paren <| listed do
    discard g.attributes
    discard g.visibility
    g.anyType

/-- A variant of an enum; its visibility is not spelled. -/
def variant (g : Grammar) : Read Unit := do
  discard g.attributes
  discard <| held g.visibility
  discard name
  if ← ask .brace then discard g.fields
  else if ← ask .paren then g.tupleFields
  if ← tryOp "=" then g.expression

/-- The inside of a struct: its fields, or a semicolon if it has none. A where clause stands before
fields with names and after fields without. -/
def structBody (g : Grammar) : Read ItemBody := do
  let early ← g.whereClause
  if ← ask (.onlyIf (!early) .paren) then
    g.tupleFields
    let late ← g.whereClause
    unless ← tryOp ";" do
      refuse (expected ((if late then [] else [quoted "where"]) ++ [quoted ";"]))
    return .tuple
  else if ← ask .brace then return .named (← g.fields)
  else if ← tryOp ";" then return .unit
  else
    refuse (expected ((if early then [] else [quoted "where", Delimiter.paren.words]) ++
      [Delimiter.brace.words, quoted ";"]))

/-- The inside of an enum. -/
def enumBody (g : Grammar) : Read ItemBody := do
  discard g.whereClause
  discard <| group .brace (listed g.variant)
  return .enum

/-- The inside of a union. -/
def unionBody (g : Grammar) : Read ItemBody := do
  discard g.whereClause
  discard g.fields
  return .union

/-- A word, a name, generic parameters and what follows them. -/
def declared (g : Grammar) (keyword : String) (body : Read ItemBody) :
    Read (String × Bool × ItemBody) := do
  word keyword
  let name ← name
  let parameters ← g.generics
  return (name, parameters.any (!·.isEmpty), ← body)

/-! ## Functions -/

/-- A parameter that stands for the value that a method is called on. -/
def receiver (g : Grammar) : Read Unit := do
  let borrowed ← tryOp "&"
  if ← ask (.onlyIf borrowed .lifetime) then lifetime
  discard <| tryWord "mut"
  word "self"
  if ← ask (.onlyIf (!borrowed) (.op ":")) then
    op ":"
    g.anyType

/-- A parameter other than such a one: a pattern with a type, or a type with arguments by itself,
which gets a pattern that fits everything. Says whether it stands for any number of parameters. -/
def typedParameter (g : Grammar) : Read Bool := do
  if ← ask (.name &&& .second (.op "<")) then
    give (.word "_" :: Tree.operator [':'])
    g.anyType
    return false
  else
    discard g.pattern
    op ":"
    if ← tryOp "..." then return true
    g.anyType
    return false

/-- The parameters of a function. The value that it is called on comes first if it is there. -/
def parameters (g : Grammar) : Read Unit := do
  let last (s : Nat × Bool) : Read (Step (Nat × Bool)) := do
    unless ← ask .atEnd do op ","
    return .last s
  discard <| iterate (fun (count, received) => do
    if ← ask .atEnd then return .last (count, received)
    discard g.attributes
    if ← tryOp "..." then return ← last (count, received)
    let method := (← attempt g.receiver).isSome
    unless method do
      if ← g.typedParameter then return ← last (count, received)
    if method && received then reject "unexpected second method receiver"
    if method && count != 0 then reject "unexpected method receiver"
    if ← ask .atEnd then return .last (count, received)
    op ","
    return .again (count + 1, received || method)) (0, false)

/-- The signature of a function. Says whether it is called safe, if it may be. -/
def signature (g : Grammar) (safe : Bool) : Read Bool := do
  discard <| tryWord "const"
  discard <| tryWord "async"
  let guarded ← tryWord "unsafe"
  let called ← ask (.onlyIf (safe && !guarded) (.word "safe"))
  if called then word "safe"
  g.callingConvention
  word "fn"
  discard name
  discard g.generics
  groupThen .paren g.parameters fun _ body => do
    give [.group .paren body]
    g.returnType true
    discard g.whereClause
  return called

/-! ## Types and constants -/

/-- Where the where clause of a type stands. -/
inductive ClausePlace where
  | beforeDefinition
  | afterDefinition
  | either
deriving DecidableEq

/-- A name for a type, with bounds and a definition or without. Says which of the two there are. -/
def typeName (g : Grammar) (place : ClausePlace) : Read (Bool × Bool) := do
  let ends : Peek := .word "where" ||| .ops ["=", ";"]
  word "type"
  discard name
  discard g.generics
  let bounded ← afterColon (strictSeries ends "+" (g.anyBound true))
  let early ← if place != .afterDefinition then g.whereClause else pure false
  let defined ← tryOp "="
  if defined then g.anyType
  if place != .beforeDefinition && !early then discard g.whereClause
  op ";"
  return (bounded, defined)

/-- A constant from its name on. Says whether it has a value, and whether it has parameters or a
where clause. -/
def constantFromName (g : Grammar) (others : List String) : Read (Bool × Bool) := do
  if ← ask (.name ||| .word "_") then discard anyWord
  else refuse (expected (["identifier", quoted "_"] ++ others))
  let parameters ← g.generics
  op ":"
  g.anyType
  let valued ← tryOp "="
  if valued then g.expression
  let clause ← g.whereClause
  op ";"
  return (valued, parameters.isSome || clause)

/-- A constant. -/
def constantItem (g : Grammar) : Read Bool := do
  word "const"
  let (valued, general) ← g.constantFromName []
  return !valued || general

/-- A variable. -/
def staticItem (g : Grammar) : Read Bool := do
  word "static"
  discard <| tryWord "mut"
  discard name
  if ← tryOp "=" then
    g.expression
    op ";"
    return true
  else
    op ":"
    g.anyType
    if ← tryOp ";" then return true
    op "="
    g.expression
    op ";"
    return false

/-! ## Invocations -/

/-- An invocation among other items, with a semicolon unless it ends with braces. -/
def invocationItem (_ : Grammar) (named : Bool) : Read Unit := do
  modulePath
  op "!"
  if ← ask (.onlyIf named (.word "try")) then discard anyWord
  else if ← ask (.onlyIf named .name) then discard name
  let (d, _) ← anyGroup
  unless d == .brace do op ";"

/-! ## Parts of traits, implementations and foreign blocks -/

/-- The items between braces, with inner attributes in front of them. -/
def members (g : Grammar) (r : Read Unit) : Read Unit :=
  group .brace do
    g.innerAttributes
    untilEnd r

/-- A function of a trait, with a body or without. -/
def traitFunction (g : Grammar) : Read Unit := do
  discard <| g.signature false
  if ← ask .brace then g.attributedBlock
  else unless ← tryOp ";" do refuse (expected [Delimiter.brace.words, quoted ";"])

/-- An item of a trait. -/
def traitItem (g : Grammar) : Read Unit :=
  verbatimIf do
    discard g.attributes
    let visible ← g.visibility
    let preset ← tryWord "default"
    let marked := visible || preset
    if ← ask (.signature false ||| (.word "const" &&& .second (.words ["async", "unsafe", "extern",
        "fn"]))) then
      g.traitFunction
      return (marked, ())
    else if ← tryWord "const" then
      let (_, general) ← g.constantFromName (["async", "unsafe", "extern", "fn"].map quoted)
      return (marked || general, ())
    else if ← ask (.word "type") then
      discard <| g.typeName .afterDefinition
      return (marked, ())
    else if ← ask (.onlyIf (!marked) .invocationPath) then
      g.invocationItem false
      return (false, ())
    else
      refuse (expected (["fn", "const", "type"].map quoted ++
        if marked then [] else invocationWords))

/-- An item of an implementation. -/
def memberItem (g : Grammar) : Read Unit :=
  verbatimIf do
    discard g.attributes
    let visible ← g.visibility
    let atPreset ← ask (.word "default")
    let preset ← ask (.word "default" &&& ~~~.second (.op "!"))
    if preset then word "default"
    if ← ask (.signature false) then
      discard <| g.signature false
      if ← tryOp ";" then return (true, ())
      g.attributedBlock
      return (false, ())
    else if ← tryWord "const" then
      let (valued, general) ← g.constantFromName []
      return (!valued || general, ())
    else if ← ask (.word "type") then
      let (bounded, defined) ← g.typeName .afterDefinition
      return (bounded || !defined, ())
    else if ← ask (.onlyIf (!visible && !preset) .invocationPath) then
      g.invocationItem false
      return (false, ())
    else
      refuse (expected ((if atPreset then [] else [quoted "default"]) ++
        ["fn", "const", "type"].map quoted ++ if visible || preset then [] else invocationWords))

/-- An item that is defined elsewhere. -/
def foreignItem (g : Grammar) : Read Unit :=
  verbatimIf do
    discard g.attributes
    let visible ← g.visibility
    if ← ask (.signature true) then
      let safe ← g.signature true
      if ← ask .brace then
        g.attributedBlock
        return (true, ())
      op ";"
      return (safe, ())
    else if ← ask (.word "static" ||| (.words ["unsafe", "safe"] &&& .second (.word "static"))) then
      let guarded ← tryWord "unsafe"
      let safe ← if guarded then pure false else tryWord "safe"
      word "static"
      discard <| tryWord "mut"
      discard name
      op ":"
      g.anyType
      let valued ← tryOp "="
      if valued then g.expression
      op ";"
      return (guarded || safe || valued, ())
    else if ← ask (.word "type") then
      let (bounded, defined) ← g.typeName .either
      return (bounded || defined, ())
    else if ← ask (.onlyIf (!visible) .invocationPath) then
      g.invocationItem false
      return (false, ())
    else
      refuse (expected (["fn", "static", "type"].map quoted ++
        if visible then [] else invocationWords))

/-! ## Traits and implementations -/

/-- What follows the name of a trait. -/
def traitBody (g : Grammar) : Read Unit := do
  let ends : Peek := .word "where" ||| .brace
  discard <| afterColon (strictSeries ends "+" (g.anyBound true))
  discard g.whereClause
  g.members g.traitItem

/-- A trait with words in front of it. -/
def markedTrait (g : Grammar) : Read Unit := do
  discard <| tryWord "unsafe"
  discard <| tryWord "auto"
  word "trait"
  discard name
  discard g.generics
  g.traitBody

/-- A trait, or a name for bounds. -/
def traitOrAlias (g : Grammar) : Read Unit := do
  word "trait"
  discard name
  discard g.generics
  if ← ask (.brace ||| .op ":" ||| .word "where") then g.traitBody
  else if ← tryOp "=" then
    discard <| strictSeries (.word "where" ||| .op ";") "+" (g.anyBound false)
    discard g.whereClause
    op ";"
  else refuse (expected [Delimiter.brace.words, quoted ":", quoted "where", quoted "="])

/-- An implementation. -/
def implementation (g : Grammar) (visible : Bool) : Read Bool := do
  discard <| tryWord "default"
  discard <| tryWord "unsafe"
  word "impl"
  if ← ask .generics then discard g.generics
  let constant ← ask (.word "const" ||| (.op "?" &&& .second (.word "const")))
  if constant then
    discard <| tryOp "?"
    word "const"
  let negative ← ask (.op "!" &&& ~~~.second .brace)
  if negative then op "!"
  let first ← g.type true
  let isFor ← tryWord "for"
  if isFor then g.anyType
  else if negative then reject "inherent impls cannot be negative"
  discard g.whereClause
  g.members g.memberItem
  let named := match first with
    | .path _ => true
    | _ => false
  return visible || constant || (isFor && !named)

/-! ## Other items -/

/-- The name of a library. -/
def libraryItem (_ : Grammar) : Read Unit := do
  word "extern"
  word "crate"
  unless ← tryWord "self" do discard name
  if ← tryWord "as" then
    unless ← tryWord "_" do discard name
  op ";"

/-- Items that are defined elsewhere. -/
def foreignBlock (g : Grammar) : Read Unit := do
  discard <| tryWord "unsafe"
  if ← ask (.word "extern") then g.callingConvention else word "extern"
  g.members g.foreignItem

/-- Names that are brought into scope. Says whether some start with `::` behind other names. -/
def namesRule (g : Grammar) (root : Bool) : Read Bool := do
  if ← ask (.name ||| .words ["self", "super", "crate", "try"]) then
    discard anyWord
    if ← tryOp "::" then discard <| g.names false
    else if ← tryWord "as" then
      unless ← ask (.name ||| .word "_") do refuse "expected identifier or underscore"
      discard anyWord
    return false
  else if ← tryOp "*" then return false
  else if ← ask .brace then
    group .brace <| iterate (fun found => do
      if ← ask .atEnd then return .last found
      let starts ← if root then tryOp "::" else pure false
      let inner ← g.names (root && !starts)
      let found := found || starts || inner
      if ← ask .atEnd then return .last found
      op ","
      return .again found) false
  else
    refuse (expected ["identifier", quoted "self", quoted "super", quoted "crate", quoted "try",
      quoted "*", Delimiter.brace.words])

/-- An item that brings names into scope. -/
def useItem (g : Grammar) : Read Bool := do
  word "use"
  let rooted ← tryOp "::"
  let found ← g.names (!rooted)
  op ";"
  return found

/-- A module. -/
def moduleItem (g : Grammar) : Read Unit := do
  discard <| tryWord "unsafe"
  word "mod"
  unless ← tryWord "try" do discard name
  unless ← tryOp ";" do
    if ← ask .brace then g.members g.item
    else refuse (expected [quoted ";", Delimiter.brace.words])

/-- The definition of an invocation by rules. -/
def rulesItem (_ : Grammar) : Read Unit := do
  word "macro"
  discard name
  let patterned ← ask .paren
  if patterned then discard anyGroup
  if ← ask .brace then discard anyGroup
  else
    refuse (expected ((if patterned then [] else [Delimiter.paren.words]) ++
      [Delimiter.brace.words]))

/-- An item that starts with `extern` and is no function. -/
def outerItem (g : Grammar) (visible : Bool) : Read Unit := do
  let named : Peek := .second (.string &&& .second .brace)
  if ← ask (.second (.word "crate")) then g.libraryItem
  else if ← ask (.second .brace ||| named) then
    if visible then reject (expected [quoted "extern"])
    g.foreignBlock
  else
    word "extern"
    if ← ask .string then
      discard string
      refuse (expected [Delimiter.brace.words])
    else refuse (expected [quoted "crate", Delimiter.brace.words, "string literal"])

/-- An item that starts with `unsafe` and is no function. -/
def guardedItem (g : Grammar) (visible : Bool) : Read Bool := do
  if ← ask (.second (.word "trait" ||| (.word "auto" &&& .second (.word "trait")))) then
    g.markedTrait
    return false
  else if ← ask (.second (.word "impl")) then g.implementation visible
  else if ← ask (.second (.word "extern")) then
    if visible then reject (expected [quoted "extern"])
    g.foreignBlock
    return false
  else if ← ask (.second (.word "mod")) then
    g.moduleItem
    return false
  else
    word "unsafe"
    let auto ← ask (.word "auto")
    refuse (expected ((["trait"] ++ (if auto then [] else ["auto"]) ++
      ["impl", "extern", "mod"]).map quoted))

/-- The words that start items. -/
def itemWords : List String :=
  ["fn", "extern", "use", "static", "const", "unsafe", "mod", "type", "struct", "enum", "union",
    "trait", "auto", "impl", "default", "macro"]

/-- An item after its attributes. Says whether it is spelled as it stands. -/
def itemAfterAttributes (g : Grammar) : Read Bool := do
  let visible ← g.visibility
  if ← ask (.signature false) then
    discard <| g.signature false
    if ← tryOp ";" then return true
    g.attributedBlock
    return false
  else if ← ask (.word "extern") then g.outerItem visible
  else if ← ask (.word "use") then return ← g.useItem
  else if ← ask (.word "static") then return ← g.staticItem
  else if ← ask (.word "const") then return ← g.constantItem
  else if ← ask (.word "unsafe") then return ← g.guardedItem visible
  else if ← ask (.word "mod") then g.moduleItem
  else if ← ask (.word "type") then
    let (bounded, defined) ← g.typeName .beforeDefinition
    return bounded || !defined
  else if ← ask (.word "struct") then discard <| g.declared "struct" g.structBody
  else if ← ask (.word "enum") then discard <| g.declared "enum" g.enumBody
  else if ← ask (.word "union" &&& .second .name) then discard <| g.declared "union" g.unionBody
  else if ← ask (.word "trait") then g.traitOrAlias
  else if ← ask (.word "auto" &&& .second (.word "trait")) then g.markedTrait
  else if ← ask (.word "impl" ||| (.word "default" &&& ~~~.second (.op "!"))) then
    return ← g.implementation visible
  else if ← ask (.word "macro") then
    g.rulesItem
    return true
  else if ← ask (.onlyIf (!visible) .invocationPath) then g.invocationItem true
  else
    let near ← look fun ts => ["union", "auto", "default"].filter fun w => (Peek.word w).holds ts
    refuse (expected ((itemWords.filter (!near.contains ·)).map quoted ++
      if visible then [] else invocationWords))
  return false

/-- An item with its attributes. -/
def itemRule (g : Grammar) : Read Unit :=
  verbatimIf do
    discard g.attributes
    return (← g.itemAfterAttributes, ())

end Grammar

end RecordSchema.Declaration
