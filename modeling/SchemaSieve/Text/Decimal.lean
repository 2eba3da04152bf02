/-!
# Decimal text of floating point numbers

The text of a finite number has the fewest digits that read back to it and, of those, the nearest;
it is written without an exponent and always with a point.
-/

namespace SchemaSieve.Text.Decimal

/-- A finite number other than zero without its sign: `mantissa * 2 ^ exponent`. -/
structure Binary where
  mantissa : Nat
  exponent : Int

/-- What the bits of a finite number say, its sign apart. -/
def Binary.ofBits (bits : Nat) : Binary :=
  let fraction := bits % Nat.pow 2 52
  let field : Nat := bits / Nat.pow 2 52 % Nat.pow 2 11
  if field = 0 then ⟨fraction, -1074⟩ else ⟨Nat.pow 2 52 + fraction, (field : Int) - 1075⟩

/-- The reals that are rounded to a number, as numerators over one denominator: the number itself
and the two ends, which belong to it if its mantissa is even. -/
structure Rounding where
  low : Nat
  value : Nat
  high : Nat
  den : Nat
  closed : Bool

/-- A gap between neighbours is half as wide below a power of two. -/
def Binary.rounding (b : Binary) : Rounding :=
  let below := if b.mantissa = Nat.pow 2 52 ∧ -1074 < b.exponent then 1 else 2
  let up := Nat.pow 2 (b.exponent - 2).toNat
  { low := (4 * b.mantissa - below) * up
    value := 4 * b.mantissa * up
    high := (4 * b.mantissa + 2) * up
    den := Nat.pow 2 (2 - b.exponent).toNat
    closed := b.mantissa % 2 = 0 }

/-- A power of ten, one for negative exponents. -/
def powerOfTen (e : Int) : Nat := Nat.pow 10 e.toNat

/-- Whether the decimal `c * 10 ^ e` is rounded to the number. -/
def Rounding.holds (r : Rounding) (c : Nat) (e : Int) : Bool :=
  let x := c * powerOfTen e * r.den
  let scale := powerOfTen (-e)
  if r.closed then r.low * scale ≤ x && x ≤ r.high * scale
  else r.low * scale < x && x < r.high * scale

/-- How far the decimal `c * 10 ^ e` is from the number, on a scale that `e` fixes. -/
def Rounding.distance (r : Rounding) (c : Nat) (e : Int) : Nat :=
  let x := c * powerOfTen e * r.den
  let v := r.value * powerOfTen (-e)
  (x - v) + (v - x)

/-- The nearest decimal with exponent `e` that is rounded to the number, if there is one. -/
def Rounding.onGrid? (r : Rounding) (e : Int) : Option Nat :=
  let c := r.value * powerOfTen (-e) / (r.den * powerOfTen e)
  match r.holds c e, r.holds (c + 1) e with
  | true, true => some (if r.distance c e ≤ r.distance (c + 1) e then c else c + 1)
  | true, false => some c
  | false, true => some (c + 1)
  | false, false => none

/-- The first grid on which a decimal is found, from exponent `e` on towards finer ones. -/
def Rounding.search (r : Rounding) : Nat → Int → Nat × Int
  | 0, e => (r.value * powerOfTen (-e) / (r.den * powerOfTen e), e)
  | fuel + 1, e =>
    match r.onGrid? e with
    | some c => (c, e)
    | none => r.search fuel (e - 1)

/-- The decimal with the fewest digits. No finite number reaches `10 ^ 309`, and the smallest one
is above `10 ^ -324`, so every grid that matters is between these. -/
def shortest (b : Binary) : Nat × Int := b.rounding.search 650 309

/-- A decimal without an exponent. -/
def positional (c : Nat) (e : Int) : String :=
  if 0 ≤ e then toString (c * powerOfTen e) ++ ".0"
  else
    let places := (-e).toNat
    let whole := c / powerOfTen places
    let fraction := toString (c % powerOfTen places)
    toString whole ++ "." ++ String.ofList (List.replicate (places - fraction.length) '0') ++
      fraction

/-- The text of a number. -/
def text (x : Float) : String :=
  let bits := x.toBits.toNat
  let sign := if bits / Nat.pow 2 63 = 1 then "-" else ""
  if x.isNaN then "NaN"
  else if x.isInf then sign ++ "inf"
  else
    let b := Binary.ofBits bits
    if b.mantissa = 0 then sign ++ "0.0"
    else
      let (c, e) := shortest b
      sign ++ positional c e

/-- The number nearest to `m * 10 ^ e`. Decimals far beyond the range of numbers are told by their
count of digits. -/
def nearest (m : Nat) (e : Int) : Float :=
  let magnitude : Int := (toString m).length + e
  if m = 0 || magnitude < -400 then 0
  else if magnitude > 400 then Float.ofBits 0x7FF0000000000000
  else if 0 ≤ e then Float.ofScientific m false e.toNat
  else Float.ofScientific m true (-e).toNat

end SchemaSieve.Text.Decimal
