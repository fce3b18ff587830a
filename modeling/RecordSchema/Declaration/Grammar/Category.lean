import RecordSchema.Declaration.Item
import RecordSchema.Declaration.Reader

/-!
# The parts of a grammar

Types, bounds, expressions, patterns, statements and items contain one another. A grammar says how
each of these categories is read; the modules beside this one say how a part is read by means of a
grammar that reads what the part contains. With the trees that it takes, a category gives as much of
what was read as matters to what stands around it.
-/

namespace RecordSchema.Declaration

/-- What matters about a type. -/
inductive TypeShape where
  /-- A path that does not start with a type in angle brackets; `single` says that it is one name,
  with or without arguments. -/
  | path (single : Bool)
  /-- One trait and nothing else, neither a word in front nor a `+` behind; `wrapped` says that it
  stands in parentheses. -/
  | bound (wrapped : Bool)
  | other
deriving DecidableEq

/-- What matters about a bound. -/
inductive BoundShape where
  | lifetime
  /-- The lifetimes and types that may be captured. -/
  | captures
  | trait
deriving DecidableEq

/-- The kinds of expressions that matter. -/
inductive ExpressionKind where
  | range
  | comparison
  /-- A form that ends with a block and may stand as a statement by itself. -/
  | block
  /-- A path with `!` and a group, in braces or not. -/
  | invocation (braces : Bool)
  /-- A form that is spelled as it stands. -/
  | verbatim
  | other
deriving DecidableEq

/-- What matters about an expression; `verbatimFront` says that its first operand is spelled as it
stands. -/
structure ExpressionShape where
  kind : ExpressionKind
  verbatimFront : Bool := false
deriving DecidableEq

/-- What matters about a pattern. -/
inductive PatternShape where
  /-- Two points by themselves. -/
  | rest
  /-- A range without one of its ends. -/
  | openRange
  /-- A form that is spelled as it stands. -/
  | verbatim
  | other
deriving DecidableEq

/-- How tightly an operator binds, from the loosest up. -/
inductive Precedence where
  | lowest
  | assign
  | range
  | or
  | and
  | compare
  | bitOr
  | bitXor
  | bitAnd
  | shift
  | sum
  | product
  | cast
deriving DecidableEq

/-- Whether an operator binds at least as tightly as another. -/
def Precedence.atLeast (p q : Precedence) : Bool := q.ctorIdx ≤ p.ctorIdx

/-- The categories of a grammar. -/
inductive Category where
  /-- A type; `plus` says whether it may be a sum of traits. -/
  | type (plus : Bool)
  /-- A bound; the flags say whether captures and constant traits are allowed. -/
  | bound (captures constants : Bool)
  /-- An operand with what stands in front of it and after it; `structs` says whether it may be the
  value of a struct. -/
  | operand (structs : Bool)
  /-- What follows a left operand: operators that bind at least as tightly as `least`, with their
  right operands. -/
  | operation (structs : Bool) (least : Precedence) (left : ExpressionShape)
  /-- An expression at the start of a statement, where a block may end it. -/
  | standalone
  /-- A pattern without alternatives. -/
  | pattern
  /-- Statements up to the end of a block. -/
  | statements
  /-- An item with its attributes. -/
  | item
  /-- The names that an item brings into scope; `root` says whether they may start with `::`. -/
  | names (root : Bool)
  /-- Fields between braces. -/
  | fields

/-- What a category gives: of names, whether some start with `::`. -/
abbrev Category.Result : Category → Type
  | type _ => TypeShape
  | bound .. => BoundShape
  | operand _ | operation .. | standalone => ExpressionShape
  | pattern => PatternShape
  | statements | item => Unit
  | names _ => Bool
  | fields => List FieldDeclaration

/-- How each category is read. -/
structure Grammar where
  enter : (c : Category) → Read c.Result

namespace Grammar

def type (g : Grammar) (plus : Bool) : Read TypeShape := g.enter (.type plus)

/-- A type of which nothing matters. -/
def anyType (g : Grammar) : Read Unit := discard (g.type true)

def bound (g : Grammar) (captures constants : Bool) : Read BoundShape :=
  g.enter (.bound captures constants)

/-- A bound with no captures of which nothing matters. -/
def anyBound (g : Grammar) (constants : Bool) : Read Unit := discard (g.bound false constants)

def operand (g : Grammar) (structs : Bool) : Read ExpressionShape := g.enter (.operand structs)

def operation (g : Grammar) (structs : Bool) (least : Precedence) (left : ExpressionShape) :
    Read ExpressionShape :=
  g.enter (.operation structs least left)

/-- Operands and operators that bind at least as tightly as `least`. -/
def expressionFrom (g : Grammar) (structs : Bool) (least : Precedence) : Read Unit := do
  discard (g.operation structs least (← g.operand structs))

/-- An expression. -/
def expression (g : Grammar) : Read Unit := g.expressionFrom true .lowest

/-- An expression in front of a block, which is no value of a struct. -/
def condition (g : Grammar) : Read Unit := g.expressionFrom false .lowest

def standalone (g : Grammar) : Read ExpressionShape := g.enter .standalone

def pattern (g : Grammar) : Read PatternShape := g.enter .pattern

def statements (g : Grammar) : Read Unit := g.enter .statements

def item (g : Grammar) : Read Unit := g.enter .item

def names (g : Grammar) (root : Bool) : Read Bool := g.enter (.names root)

def fields (g : Grammar) : Read (List FieldDeclaration) := g.enter .fields

end Grammar

end RecordSchema.Declaration
