import RecordSchema.Declaration.Literal
import RecordSchema.Declaration.Token

/-!
# Looking ahead

Questions about what comes next in a list of token trees. Every choice of a grammar is made by
asking such questions, and none is taken back, so what is refused is the first thing that does not
fit.

An operator of several marks is there when its marks are joined to one another; whether the last is
joined to what follows does not matter, so `<` is there at the front of `<=` and `&` at the front of
`&&`.
-/

namespace RecordSchema.Declaration

/-- The words that are no identifiers. -/
def keywords : List String :=
  ["_", "abstract", "as", "async", "await", "become", "box", "break", "const", "continue", "crate",
    "do", "dyn", "else", "enum", "extern", "false", "final", "fn", "for", "if", "impl", "in", "let",
    "loop", "macro", "match", "mod", "move", "mut", "override", "priv", "pub", "ref", "return",
    "Self", "self", "static", "struct", "super", "trait", "true", "try", "type", "typeof", "unsafe",
    "unsized", "use", "virtual", "where", "while", "yield"]

/-- Whether a word is an identifier. -/
def isName (w : String) : Bool := !keywords.contains w

/-- Whether an operator stands at the front. -/
def startsWithOperator : List Char → List Tree → Bool
  | [], _ => true
  | [c], .mark d _ :: _ => c == d
  | c :: cs, .mark d true :: ts => c == d && startsWithOperator cs ts
  | _ :: _, _ => false

/-- What follows the first tree; a lifetime counts as one. -/
def afterTree : List Tree → List Tree
  | .mark '\x27' true :: .word _ :: ts => ts
  | ts => ts.tail

/-- The number at the front, if there is one: whether it has a sign, and its text. -/
def number? : List Tree → Option (Bool × String)
  | .literal t :: _ => if Literal.isNumber t then some (false, t) else none
  | .mark '-' _ :: .literal t :: _ => if Literal.isNumber t then some (true, t) else none
  | _ => none

/-- A question about what comes next. -/
structure Peek where
  holds : List Tree → Bool

namespace Peek

instance : OrOp Peek := ⟨fun p q => ⟨fun ts => p.holds ts || q.holds ts⟩⟩

instance : AndOp Peek := ⟨fun p q => ⟨fun ts => p.holds ts && q.holds ts⟩⟩

instance : Complement Peek := ⟨fun p => ⟨fun ts => !p.holds ts⟩⟩

/-- A question that is only asked under a condition. -/
def onlyIf (b : Bool) (p : Peek) : Peek := ⟨fun ts => b && p.holds ts⟩

def op (o : String) : Peek := ⟨startsWithOperator o.toList⟩

/-- One of several operators. -/
def ops (os : List String) : Peek := ⟨fun ts => os.any fun o => (op o).holds ts⟩

/-- One of several words. -/
def words (ws : List String) : Peek where
  holds
    | .word v :: _ => ws.contains v
    | _ => false

def word (w : String) : Peek := words [w]

/-- An identifier. -/
def name : Peek where
  holds
    | .word v :: _ => isName v
    | _ => false

def anyWord : Peek where
  holds
    | .word _ :: _ => true
    | _ => false

def lifetime : Peek where
  holds
    | .mark '\x27' true :: .word _ :: _ => true
    | _ => false

/-- A literal, a truth value or a negative number. -/
def literal : Peek where
  holds
    | .literal _ :: _ => true
    | .word w :: _ => w == "true" || w == "false"
    | ts => (number? ts).isSome

/-- A string literal. -/
def string : Peek where
  holds
    | .literal t :: _ => (Literal.stringValue? t).isSome
    | _ => false

/-- An integer, with a sign or not. -/
def integer : Peek := ⟨fun ts => (number? ts).any fun n => Literal.isInteger n.2⟩

/-- A number that is no integer, with a sign or not. -/
def decimal : Peek := ⟨fun ts => (number? ts).any fun n => !Literal.isInteger n.2⟩

def group (d : Delimiter) : Peek where
  holds
    | .group e _ :: _ => d == e
    | _ => false

def paren : Peek := group .paren

def bracket : Peek := group .bracket

def brace : Peek := group .brace

/-- Nothing is left. -/
def atEnd : Peek := ⟨List.isEmpty⟩

/-- A question about what comes after the first tree. -/
def second (p : Peek) : Peek := ⟨fun ts => p.holds (afterTree ts)⟩

/-- A question about what comes after the first two trees. -/
def third (p : Peek) : Peek := p.second.second

/-- A question about the inside of the group that comes next. -/
def inside (d : Delimiter) (p : Peek) : Peek where
  holds
    | .group e body :: _ => d == e && p.holds body
    | _ => false

/-- An operator that another one, which starts in the same way, is not to be taken for. -/
def opBut (o : String) (others : List String) : Peek := op o &&& ~~~ops others

theorem holds_or (p q : Peek) (ts : List Tree) : (p ||| q).holds ts = (p.holds ts || q.holds ts) :=
  rfl

theorem holds_and (p q : Peek) (ts : List Tree) :
    (p &&& q).holds ts = (p.holds ts && q.holds ts) := rfl

theorem holds_not (p : Peek) (ts : List Tree) : (~~~p).holds ts = !p.holds ts := rfl

end Peek

end RecordSchema.Declaration
