/-!
The shortest decimal that reads back as a given double.

A finite double is `mantissa * 2 ^ exponent`. The reals that round to it form an interval around it,
ends included when the mantissa is even. On the grids with one, two, … seventeen digits the two
neighbours of the double are tried; the first grid with a neighbour in the interval gives the
digits, the nearer neighbour if both are inside.
-/

namespace PackageSearch.Decimal

/-- The magnitude of a finite double. -/
structure Binary where
  mantissa : Nat
  exponent : Int
  /-- The next smaller double is only half as far away as the next larger one. -/
  narrowBelow : Bool

namespace Binary

def ofBits (bits : UInt64) : Binary :=
  let fraction := (bits &&& 0xFFFFFFFFFFFFF).toNat
  let biased := ((bits >>> 52) &&& 0x7FF).toNat
  if biased = 0 then
    { mantissa := fraction, exponent := -1074, narrowBelow := false }
  else
    { mantissa := fraction + 0x10000000000000, exponent := (biased : Int) - 1075,
      narrowBelow := fraction == 0 && 1 < biased }

/-- `quarters * 2 ^ (exponent - 2)` as a fraction. -/
def ratio (quarters : Nat) (exponent : Int) : Nat × Nat :=
  (quarters * Nat.pow 2 (exponent - 2).toNat, Nat.pow 2 (2 - exponent).toNat)

/-- `digits * 10 ^ place` as a fraction. -/
def decimalRatio (digits : Nat) (place : Int) : Nat × Nat :=
  (digits * Nat.pow 10 place.toNat, Nat.pow 10 (-place).toNat)

/-- Whether a decimal lies in the interval of reals that round to the double. -/
def admits (binary : Binary) (digits : Nat) (place : Int) : Bool :=
  let (low, lowScale) := ratio (4 * binary.mantissa - (if binary.narrowBelow then 1 else 2))
    binary.exponent
  let (high, highScale) := ratio (4 * binary.mantissa + 2) binary.exponent
  let (value, scale) := decimalRatio digits place
  if binary.mantissa % 2 = 0 then
    low * scale ≤ value * lowScale && value * highScale ≤ high * scale
  else
    low * scale < value * lowScale && value * highScale < high * scale

def quotient (binary : Binary) (place : Int) : Nat :=
  let (value, scale) := ratio (4 * binary.mantissa) binary.exponent
  let (unit, unitScale) := decimalRatio 1 place
  value * unitScale / (scale * unit)

/-- The place of the leading decimal digit of a double that is not zero. -/
def leadingPlace (binary : Binary) : Int :=
  ((toString (binary.quotient (-400))).length : Int) - 401

/-- Whether the decimal above is nearer to the double than the one below; a tie goes to the even
digit. -/
def prefersUpper (binary : Binary) (below : Nat) (place : Int) : Bool :=
  let (value, scale) := ratio (4 * binary.mantissa) binary.exponent
  let (middle, middleScale) := decimalRatio (2 * below + 1) place
  let doubled := 2 * value * middleScale
  let target := middle * scale
  target < doubled || (target == doubled && below % 2 == 1)

/-- The decimal on the grid with the given last place that reads back, if there is one. -/
def onGrid? (binary : Binary) (place : Int) : Option Nat :=
  let below := binary.quotient place
  match binary.admits below place, binary.admits (below + 1) place with
  | true, true => some (if binary.prefersUpper below place then below + 1 else below)
  | true, false => some below
  | false, true => some (below + 1)
  | false, false => none

def search (binary : Binary) : (remaining count : Nat) → Nat × Int
  | 0, count =>
      let place := binary.leadingPlace + 1 - count
      (binary.quotient place, place)
  | remaining + 1, count =>
      let place := binary.leadingPlace + 1 - count
      match binary.onGrid? place with
      | some digits => (digits, place)
      | none => binary.search remaining (count + 1)

end Binary

def dropZeros : (remaining digits : Nat) → (place : Int) → Nat × Int
  | 0, digits, place => (digits, place)
  | remaining + 1, digits, place =>
      if digits ≠ 0 ∧ digits % 10 = 0 then dropZeros remaining (digits / 10) (place + 1)
      else (digits, place)

/-- The digits of the shortest decimal for a finite double other than zero, with the place of the
last of them. -/
def shortest (bits : UInt64) : Nat × Int :=
  let (digits, place) := (Binary.ofBits bits).search 17 1
  dropZeros 20 digits place

end PackageSearch.Decimal
