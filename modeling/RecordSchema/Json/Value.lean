import RecordSchema.Json.Number
import RecordSchema.Json.Quoted

/-!
# Reading JSON values

Readers take the characters that are left and give a value with what is left after it. They look no
further than they must: where a string is wanted and something else begins, that much of the other
value is read as its name takes (a word, a number, a string; of a list or an object only the opening
bracket), and the mismatch is reported before anything to its right is looked at.
-/

namespace RecordSchema.Json

/-- The characters allowed between the parts of a value. -/
def isSpace (c : Char) : Bool := c == ' ' || c == '\t' || c == '\n' || c == '\r'

def skipSpace (cs : List Char) : List Char := cs.dropWhile isSpace

/-- The rest of a word that is known from its first letter. -/
def readWord : List Char → List Char → Except Fault Unit
  | [], _ => .ok ()
  | _ :: _, [] => .error .truncated
  | w :: ws, c :: cs => if c == w then readWord ws cs else .error .malformed

/-- What begins here. -/
def readFound : List Char → Except Fault Found
  | 'n' :: cs => (readWord ['u', 'l', 'l'] cs).map fun _ => .null
  | 't' :: cs => (readWord ['r', 'u', 'e'] cs).map fun _ => .boolean true
  | 'f' :: cs => (readWord ['a', 'l', 's', 'e'] cs).map fun _ => .boolean false
  | '-' :: cs => readNumber true cs
  | '\x22' :: cs => (stringBody cs).map fun p => .string (String.ofList p.1)
  | '[' :: _ => .ok .sequence
  | '\x7b' :: _ => .ok .map
  | c :: cs => if c.isDigit then readNumber false (c :: cs) else .error .malformed
  | [] => .error .malformed

/-- Refuses what begins here where something else is wanted. -/
def refuse {α : Type} (expected : String) (cs : List Char) : Except Fault α :=
  match readFound cs with
  | .error e => .error e
  | .ok f => .error (.mismatch (.wrongType f expected))

/-- A string. -/
def readString (expected : String) (cs : List Char) : Except Fault (String × List Char) :=
  match skipSpace cs with
  | [] => .error .truncated
  | '\x22' :: cs => (stringBody cs).map fun p => (String.ofList p.1, p.2)
  | cs => refuse expected cs

/-- The word `null`. -/
def readNull (expected : String) (cs : List Char) : Except Fault (List Char) :=
  match skipSpace cs with
  | [] => .error .truncated
  | 'n' :: cs => (readWord ['u', 'l', 'l'] cs).map fun _ => cs.drop 3
  | cs => refuse expected cs

/-- One of the characters that structure a value. -/
def readMark (mark : Char) (cs : List Char) : Except Fault (List Char) :=
  match skipSpace cs with
  | [] => .error .truncated
  | c :: cs => if c == mark then .ok cs else .error .malformed

/-- The end of the text. -/
def readEnd (cs : List Char) : Except Fault Unit :=
  if (skipSpace cs).isEmpty then .ok () else .error .malformed

/-- The opening quote of an object's next key, from after the mark that shows there may be one. -/
def readKeyQuote (cs : List Char) : Except Fault (List Char) := readMark '\x22' cs

end RecordSchema.Json
