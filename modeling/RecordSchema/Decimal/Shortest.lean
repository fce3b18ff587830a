/-!
# Shortest decimals

A positive binary number `m · 2 ^ q` stands for every real that rounds to it. Its shortest decimal
is the point with the fewest digits in that interval; of two such points the nearer, of two equally
near ones the even. A grid of powers of ten is coarser the higher its exponent, so the shortest
decimal lies on the first grid, from the coarsest down, that has a point in the interval. If a grid
has one, the value's lower or upper neighbour on the grid is one.

All of it is exact arithmetic on natural numbers. `Decimal.text` then decides the notation.
-/

namespace RecordSchema

/-- A decimal `digits · 10 ^ exponent`. -/
structure Decimal where
  digits : Nat
  exponent : Int
deriving DecidableEq

namespace Decimal

/-- A positive binary number `significand · 2 ^ exponent`. Its lower neighbour is half as far away
as its upper one when `narrowBelow` holds. -/
structure Binary where
  significand : Nat
  exponent : Int
  narrowBelow : Bool

/-- The value and the ends of its interval, in fourths of a unit of the last binary place, as
multiples of the unit `1 / den` of a decimal grid. -/
structure Scaled where
  low : Nat
  value : Nat
  high : Nat
  den : Nat

/-- A binary number seen from the grid of multiples of `10 ^ k`. -/
def Binary.scaled (b : Binary) (k : Int) : Scaled :=
  let unit := Nat.pow 2 (b.exponent - 2).toNat * Nat.pow 10 (-k).toNat
  { low := (4 * b.significand - if b.narrowBelow then 1 else 2) * unit
    value := 4 * b.significand * unit
    high := (4 * b.significand + 2) * unit
    den := Nat.pow 2 (2 - b.exponent).toNat * Nat.pow 10 k.toNat }

/-- Whether the grid point `d` rounds to the value; the ends do if the significand is even. -/
def Scaled.holds (s : Scaled) (closed : Bool) (d : Nat) : Bool :=
  if closed then s.low ≤ d * s.den && d * s.den ≤ s.high
  else s.low < d * s.den && d * s.den < s.high

/-- The nearest point of the grid `10 ^ k` that rounds to the value. -/
def Binary.onGrid (b : Binary) (k : Int) : Option Nat :=
  let s := b.scaled k
  let below := s.value / s.den
  let closed := b.significand % 2 == 0
  match s.holds closed below, s.holds closed (below + 1) with
  | false, false => none
  | true, false => some below
  | false, true => some (below + 1)
  | true, true =>
    let beneath := s.value - below * s.den
    let above := (below + 1) * s.den - s.value
    if beneath < above || (beneath == above && below % 2 == 0) then some below else some (below + 1)

/-- The exponents of the grids that a double can need, from the coarsest. -/
def gridExponents : List Int := (List.range 640).map fun (i : Nat) => (310 : Int) - i

/-- The shortest decimal that rounds to a binary number. -/
def Binary.shortest (b : Binary) : Decimal :=
  (gridExponents.findSome? fun k => (b.onGrid k).map (⟨·, k⟩)).getD ⟨0, 0⟩

/-- The magnitude of a finite double that is not zero. -/
def Binary.ofDouble (x : Float) : Binary :=
  let bits : Nat := x.toBits.toNat
  let leadingBit : Nat := 1 <<< 52
  let fraction := bits % leadingBit
  let biased := bits / leadingBit % 2048
  if biased == 0 then ⟨fraction, -1074, false⟩
  else ⟨leadingBit + fraction, (biased : Int) - 1075, fraction == 0 && biased != 1⟩

/-- How numbers are written: which powers of ten of the first digit keep positional notation, and
how many digits an exponent has at least. -/
structure Format where
  leastPositional : Int
  greatestPositional : Int
  exponentWidth : Nat

/-- Digits padded on the left with zeros. -/
def padded (width : Nat) (ds : List Char) : List Char :=
  List.replicate (width - ds.length) '0' ++ ds

/-- A decimal as text. Positional text always has a point; the sign of an exponent is always
written. -/
def text (n : Format) (d : Decimal) : List Char :=
  let ds := Nat.toDigits 10 d.digits
  let lead := d.exponent + ds.length - 1
  if n.leastPositional ≤ lead && lead ≤ n.greatestPositional then
    if d.exponent ≥ 0 then ds ++ List.replicate d.exponent.toNat '0' ++ ['.', '0']
    else if lead ≥ 0 then
      ds.take (lead.toNat + 1) ++ '.' :: ds.drop (lead.toNat + 1)
    else '0' :: '.' :: List.replicate (-1 - lead).toNat '0' ++ ds
  else
    let mantissa := match ds with
      | [] => []
      | [c] => [c]
      | c :: cs => c :: '.' :: cs
    let sign := if lead < 0 then '-' else '+'
    mantissa ++ 'e' :: sign :: padded n.exponentWidth (Nat.toDigits 10 lead.natAbs)

example : (Binary.mk 1 (-1074) false).shortest = ⟨5, -324⟩ := by decide +kernel

end Decimal

end RecordSchema
