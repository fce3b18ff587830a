import RecordSchema.Declaration.Grammar.Statement
import RecordSchema.Declaration.Lexer

/-!
# Reading declarations

The rules of the categories, tied together. A rule reads what a category contains by a grammar that
may enter one category less, so reading comes to an end; `Grammar.declarations` allows more depth
than a text has room for. An item and a type are read from a list of token trees by that grammar,
and all of the list has to be taken.
-/

namespace RecordSchema.Declaration

open Reader

namespace Grammar

/-- How a category is read by means of a grammar for what it contains. -/
def rule (g : Grammar) : (c : Category) → Read c.Result
  | .type plus => g.typeRule plus
  | .bound captures constants => g.boundRule captures constants
  | .operand structs => g.operandRule structs
  | .operation structs least left => g.operationRule structs least left
  | .standalone => g.standaloneRule
  | .pattern => g.patternRule
  | .statements => g.statementsRule
  | .item => g.itemRule
  | .names root => g.namesRule root
  | .fields => g.fieldsRule

/-- Reads a category that contains categories to a depth below the given one. -/
def enterWithin : Nat → (c : Category) → Read c.Result
  | 0, _ => reject "nested too deeply"
  | depth + 1, c => rule ⟨enterWithin depth⟩ c

/-- How deep categories may be nested. -/
def depthLimit : Nat := 1048576

/-- The grammar of declarations. -/
def declarations : Grammar := ⟨enterWithin depthLimit⟩

end Grammar

namespace Item

/-- An item that a record may be derived for. -/
def read (g : Grammar) : Read Item := do
  let attributes ← g.attributes
  discard g.visibility
  let (name, isGeneric, body) ←
    if ← ask (.word "struct") then g.declared "struct" g.structBody
    else if ← ask (.word "enum") then g.declared "enum" g.enumBody
    else if ← ask (.word "union") then g.declared "union" g.unionBody
    else refuse (expected [quoted "struct", quoted "enum", quoted "union"])
  return { attributes, name, isGeneric, body }

/-- The item that a list of trees is. -/
def ofTrees (ts : List Tree) : Except Refusal Item :=
  Reader.all .leftOver (read .declarations) ts

/-- The item that a text declares. -/
def ofText? (text : String) : Option Item := (treesOf text).bind fun ts => (ofTrees ts).toOption

end Item

/-- The type that a list of trees is, as it is spelled. -/
def typeOfTrees (ts : List Tree) : Except Refusal (List Tree) :=
  Reader.all .leftOver (spelled Grammar.declarations.anyType) ts

end RecordSchema.Declaration
