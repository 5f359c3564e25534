/-!
# Binary floating point

The numbers of the 64-bit binary format as exact values `m · 2 ^ e`, with `m < 2 ^ 53` and
`e ≥ -1074`. `ofRatio` rounds a ratio to the nearest of them, a tie to the even one; every other
operation is exact arithmetic followed by one such rounding, as the standard of the format asks.
-/

namespace FluentBuilder

/-- A 64-bit binary floating point number. -/
inductive Binary64 where
  /-- The value `mantissa · 2 ^ exponent`, or its opposite. -/
  | finite (negative : Bool) (mantissa : Nat) (exponent : Int)
  /-- An infinity. -/
  | infinite (negative : Bool)
  /-- The result of an operation without a value. -/
  | notANumber
  deriving DecidableEq, Repr

namespace Binary64

/-- Zero. -/
def zero : Binary64 := .finite false 0 (-1074)

/-- The quotient rounded to the nearest integer, a tie to the even one. -/
def divideToNearest (numerator denominator : Nat) : Nat :=
  let q := numerator / denominator
  let r := numerator % denominator
  if 2 * r < denominator then q
  else if denominator < 2 * r then q + 1
  else q + q % 2

/-- `n · b ^ k` over `b ^ (-k)`: a numerator and a denominator for a scaled ratio. -/
def scale (base : Nat) (k : Int) (numerator denominator : Nat) : Nat × Nat :=
  if k < 0 then (numerator, denominator * Nat.pow base k.natAbs)
  else (numerator * Nat.pow base k.natAbs, denominator)

/-- The number nearest to a ratio of natural numbers. -/
def ofRatio (negative : Bool) (numerator denominator : Nat) : Binary64 :=
  if numerator = 0 then .finite negative 0 (-1074)
  else
    let guess : Int := (numerator.log2 : Int) - (denominator.log2 : Int) - 52
    let fits (e : Int) : Bool :=
      let (n, d) := scale 2 (-e) numerator denominator
      Nat.pow 2 52 * d ≤ n
    let e := if fits guess then guess else guess - 1
    let e := if e < -1074 then -1074 else e
    let (n, d) := scale 2 (-e) numerator denominator
    let m := divideToNearest n d
    let (m, e) := if m = Nat.pow 2 53 then (Nat.pow 2 52, e + 1) else (m, e)
    if e > 971 then .infinite negative else .finite negative m e

/-- The number of decimal digits. -/
def digitCount (n : Nat) : Nat :=
  (Nat.toDigits 10 n).length

/-- The number nearest to `digits · 10 ^ exponent`. Exponents far outside the range of the format
decide at once. -/
def ofDecimal (negative : Bool) (digits : Nat) (exponent : Int) : Binary64 :=
  if digits = 0 then .finite negative 0 (-1074)
  else
    let size := exponent + digitCount digits
    if size > 400 then .infinite negative
    else if size < -400 then .finite negative 0 (-1074)
    else
      let (n, d) := scale 10 exponent digits 1
      ofRatio negative n d

/-- Is the number below zero, or the zero with a sign? -/
def isNegative : Binary64 → Bool
  | .finite negative _ _ => negative
  | .infinite negative => negative
  | .notANumber => false

/-- Is the number zero? -/
def isZero : Binary64 → Bool
  | .finite _ m _ => m == 0
  | _ => false

/-- The opposite number. -/
def negate : Binary64 → Binary64
  | .finite negative m e => .finite (!negative) m e
  | .infinite negative => .infinite (!negative)
  | .notANumber => .notANumber

/-- The sum. -/
def add : Binary64 → Binary64 → Binary64
  | .notANumber, _ => .notANumber
  | _, .notANumber => .notANumber
  | .infinite a, .infinite b => if a = b then .infinite a else .notANumber
  | .infinite a, _ => .infinite a
  | _, .infinite b => .infinite b
  | .finite a m e, .finite b n f =>
    let low := min e f
    let x : Int := (m * Nat.pow 2 (e - low).natAbs : Nat)
    let y : Int := (n * Nat.pow 2 (f - low).natAbs : Nat)
    let sum := (if a then -x else x) + (if b then -y else y)
    if sum = 0 then .finite (a && b) 0 (-1074)
    else
      let (p, q) := scale 2 low sum.natAbs 1
      ofRatio (sum < 0) p q

/-- The number nearest to a natural number. -/
def ofNat (n : Nat) : Binary64 := ofRatio false n 1

/-- The product. -/
def mul : Binary64 → Binary64 → Binary64
  | .finite a m e, .finite b n f =>
    let (p, q) := scale 2 (e + f) (m * n) 1
    ofRatio (a != b) p q
  | .infinite a, .infinite b => .infinite (a != b)
  | .infinite a, .finite b n _ => if n = 0 then .notANumber else .infinite (a != b)
  | .finite a m _, .infinite b => if m = 0 then .notANumber else .infinite (a != b)
  | _, _ => .notANumber

end Binary64
end FluentBuilder
