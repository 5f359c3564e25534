import FluentBuilder.Decimal.Binary64

/-!
# The shortest decimal of a floating point number

A floating point number is written with the fewest decimal digits that read back as the same
number; of several such decimals the nearest is taken. The notation is positional from `10 ^ -4` up
to `10 ^ 16` and has an exponent of at least two digits elsewhere.
-/

namespace FluentBuilder.Binary64

/-! ### Digits -/

/-- The largest `p` with `10 ^ p ≤ numerator / denominator`. -/
def decimalExponent (numerator denominator : Nat) : Int :=
  let reaches (p : Int) : Bool :=
    let (n, d) := scale 10 (-p) numerator denominator
    d ≤ n
  let guess : Int :=
    (((numerator.log2 : Int) - (denominator.log2 : Int)) * 30103).fdiv 100000
  if reaches (guess + 1) then guess + 1
  else if reaches guess then guess
  else guess - 1

/-- The numbers that read back as a given one, as a range of ratios over one denominator. -/
structure Interval where
  /-- The numerator of the lower end. -/
  low : Nat
  /-- The numerator of the number itself. -/
  value : Nat
  /-- The numerator of the upper end. -/
  high : Nat
  /-- The common denominator. -/
  denominator : Nat
  /-- Do the ends read back too? -/
  closed : Bool

/-- The interval of `m · 2 ^ e`: half-way to both neighbours, the lower one being nearer when `m`
is the least mantissa of its exponent. The ends belong to it when `m` is even. -/
def interval (m : Nat) (e : Int) : Interval :=
  let below := if m = Nat.pow 2 52 ∧ e > -1074 then 1 else 2
  let (unit, d) := scale 2 (e - 2) 1 1
  ⟨(4 * m - below) * unit, 4 * m * unit, (4 * m + 2) * unit, d, m % 2 = 0⟩

/-- Does `n · 10 ^ p` lie in the interval? -/
def Interval.holds (i : Interval) (n : Nat) (p : Int) : Bool :=
  let (x, d) := scale 10 p n 1
  let x := x * i.denominator
  let low := i.low * d
  let high := i.high * d
  if i.closed then low ≤ x && x ≤ high else low < x && x < high

/-- The decimal with the given number of digits that reads back, if there is one. -/
def Interval.decimal? (i : Interval) (digits : Nat) : Option (Nat × Int) :=
  let p := decimalExponent i.value i.denominator - digits + 1
  let (n, d) := scale 10 (-p) i.value i.denominator
  let floor := n / d
  let twice := 2 * (n % d)
  match i.holds floor p, i.holds (floor + 1) p with
  | true, true =>
    if twice < d || (twice == d && floor % 2 == 0) then some (floor, p) else some (floor + 1, p)
  | true, false => some (floor, p)
  | false, true => some (floor + 1, p)
  | false, false => none

/-- The digits and the exponent of the shortest decimal of `m · 2 ^ e`; seventeen digits are always
enough. -/
def shortest (m : Nat) (e : Int) : Nat × Int :=
  let i := interval m e
  ((List.range 17).findSome? fun k => i.decimal? (k + 1)).getD (m, 0)

/-! ### Notation -/

/-- Digits without the zeros at their end, which move to the exponent. -/
def trimZeros : (fuel : Nat) → Nat → Int → Nat × Int
  | 0, n, p => (n, p)
  | fuel + 1, n, p => if n % 10 = 0 ∧ n ≠ 0 then trimZeros fuel (n / 10) (p + 1) else (n, p)

/-- An exponent with its sign and at least two digits. -/
def exponentText (p : Int) : String :=
  let digits := toString p.natAbs
  (if p < 0 then "e-" else "e+") ++ (if digits.length < 2 then "0" ++ digits else digits)

/-- The decimal `n · 10 ^ p`. A whole number in positional notation gets the ending `whole`. -/
def decimalText (whole : String) (n : Nat) (p : Int) : String :=
  let digits := Nat.toDigits 10 n
  let point : Int := digits.length + p
  if -4 < point ∧ point ≤ 16 then
    if p ≥ 0 then String.ofList (digits ++ List.replicate p.natAbs '0') ++ whole
    else if point > 0 then
      String.ofList (digits.take point.natAbs ++ '.' :: digits.drop point.natAbs)
    else String.ofList ('0' :: '.' :: (List.replicate point.natAbs '0' ++ digits))
  else
    let mantissa := match digits with
      | [d] => [d]
      | d :: rest => d :: '.' :: rest
      | [] => []
    String.ofList mantissa ++ exponentText (point - 1)

/-- The text of a number; `whole` ends whole numbers in positional notation. -/
def text (whole : String) : Binary64 → String
  | .notANumber => "nan"
  | .infinite negative => if negative then "-inf" else "inf"
  | .finite negative m e =>
    let body :=
      if m = 0 then "0" ++ whole
      else
        let (n, p) := shortest m e
        let (n, p) := trimZeros 20 n p
        decimalText whole n p
    if negative then "-" ++ body else body

/-- The text of a number that always shows that it is not an integer. -/
def render (x : Binary64) : String := x.text ".0"

/-- The text of an imaginary number, where whole numbers stand without a fraction. -/
def renderImaginary (x : Binary64) : String := x.text "" ++ "j"

end FluentBuilder.Binary64
