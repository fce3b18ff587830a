import RecordSchema.Decimal.Shortest
import RecordSchema.Json.Fault

/-!
# JSON numbers

A number is only ever read to say what was found in place of something else, so reading gives a
`Found`: an integer that fits 64 bits, or the text of a double. The double comes from at most
nineteen or twenty significant digits, as many as fit 64 bits, and one multiplication or division by
a power of ten; it may differ from the nearest double in the last place. A number beyond the range
of doubles is malformed.
-/

namespace RecordSchema.Json

/-- Numbers are positional down to the fifth decimal and up to sixteen digits; an exponent has no
more digits than it needs. -/
def realFormat : Decimal.Format := ⟨-5, 15, 1⟩

/-- The text of a finite double. -/
def realText (x : Float) : String :=
  let magnitude := if x == 0 then ['0', '.', '0']
    else (Decimal.Binary.ofDouble x).shortest.text realFormat
  String.ofList (if x.toBits.toNat < 1 <<< 63 then magnitude else '-' :: magnitude)

/-- The largest significand of an unfinished number. -/
def significandLimit : Nat := 1 <<< 64 - 1

/-- The largest exponent that is counted. -/
def exponentLimit : Nat := 1 <<< 31 - 1

/-- The value of a decimal digit. -/
def digitValue (c : Char) : Nat := c.toNat - 48

/-- Appends digits to a number as long as it stays within a limit; gives the number and how many
digits were left over. -/
def appendDigits (limit : Nat) : Nat → List Char → Nat × Nat
  | n, [] => (n, 0)
  | n, c :: cs =>
    if 10 * n + digitValue c ≤ limit then appendDigits limit (10 * n + digitValue c) cs
    else (n, cs.length + 1)

/-- A power of ten as a double, exact up to the twenty-second and the nearest one above. -/
def powerOfTen (n : Nat) : Float := Float.ofScientific 1 false n

/-- Divides by a power of ten, in steps that doubles can hold. -/
def scaleDown (x : Float) (n : Nat) : Float :=
  if n ≤ 308 then x / powerOfTen n
  else if x == 0 then x
  else scaleDown (x / powerOfTen 308) (n - 308)
termination_by n

/-- The double `significand · 10 ^ exponent`, unless it is out of range. -/
def double? (negative : Bool) (significand : Nat) (exponent : Int) : Option Float :=
  let x := significand.toUInt64.toFloat
  let magnitude : Option Float :=
    if exponent < 0 then some (scaleDown x exponent.natAbs)
    else if exponent ≤ 308 then
      let y := x * powerOfTen exponent.toNat
      if y.isInf then none else some y
    else if significand == 0 then some x
    else none
  magnitude.map fun y => if negative then -y else y

/-- A finished number that is not an integer of 64 bits. -/
def finishReal (negative : Bool) (significand : Nat) (exponent : Int) : Except Fault Found :=
  match double? negative significand exponent with
  | some x => .ok (.real (realText x))
  | none => .error .malformed

/-- A fault where a digit is needed. -/
def missingDigit : List Char → Fault
  | [] => .truncated
  | _ :: _ => .malformed

/-- The exponent of a number, from after the `e`. -/
def readExponent (negative : Bool) (significand : Nat) (exponent : Int) (cs : List Char) :
    Except Fault Found :=
  let down := cs.head? == some '-'
  let cs := if cs.head? == some '+' || down then cs.tail else cs
  match cs.takeWhile Char.isDigit with
  | [] => .error (missingDigit cs)
  | ds =>
    match appendDigits exponentLimit 0 ds with
    | (e, 0) => finishReal negative significand (if down then exponent - e else exponent + e)
    | (_, _ + 1) =>
      if significand != 0 && !down then .error .malformed else finishReal negative 0 0

/-- Whether a character starts an exponent. -/
def isExponentMark (c : Char) : Bool := c == 'e' || c == 'E'

/-- What may follow the digits of a number with a point or of one that outgrew 64 bits. -/
def readRealEnd (negative : Bool) (significand : Nat) (exponent : Int) : List Char →
    Except Fault Found
  | c :: cs =>
    if isExponentMark c then readExponent negative significand exponent cs
    else finishReal negative significand exponent
  | [] => finishReal negative significand exponent

/-- The digits after the point. -/
def readFraction (negative : Bool) (significand : Nat) (exponent : Int) (cs : List Char) :
    Except Fault Found :=
  match cs.takeWhile Char.isDigit with
  | [] => .error (missingDigit cs)
  | ds =>
    let (n, left) := appendDigits significandLimit significand ds
    readRealEnd negative n (exponent - (ds.length - left : Nat)) (cs.dropWhile Char.isDigit)

/-- An integer of 64 bits, or else a double: a negative zero or a number too small for them. -/
def finishInteger (negative : Bool) (n : Nat) : Except Fault Found :=
  if !negative then .ok (.integer n)
  else if n != 0 && n ≤ 1 <<< 63 then .ok (.integer (-n))
  else finishReal true n 0

/-- A number, from after its sign. -/
def readNumber (negative : Bool) (cs : List Char) : Except Fault Found :=
  match cs.takeWhile Char.isDigit with
  | [] => .error (missingDigit cs)
  | '0' :: _ :: _ => .error .malformed
  | ds =>
    let (n, left) := appendDigits significandLimit 0 ds
    match cs.dropWhile Char.isDigit with
    | '.' :: rest => readFraction negative n left rest
    | rest =>
      if left == 0 && !rest.head?.any isExponentMark then finishInteger negative n
      else readRealEnd negative n left rest

end RecordSchema.Json
