import DurableQueue.Number.Decimal

/-!
# Binary floating-point numbers of 64 bits

A finite number is `mantissa · 2 ^ exponent` with a sign, where the mantissa is below `2 ^ 53` and
the exponent at least `-1074`; it is normal, with a mantissa of at least `2 ^ 52`, unless the exponent
is the least one. All arithmetic here is exact arithmetic on natural numbers.

`roundRatio` rounds a fraction to the nearest such number and a half to the even one; it reads decimal
text (`read?`). `shortest` is the other direction: the fewest digits that read back, and of those the
nearest to the number. Where two decimals are equally near, the written form says which one is taken.
-/

namespace DurableQueue

/-- A floating-point number of 64 bits. -/
inductive Binary64 where
  | nan
  | infinite (negative : Bool)
  | finite (negative : Bool) (mantissa : Nat) (exponent : Int)
  deriving DecidableEq, Repr

namespace Binary64

/-- The least exponent. -/
def leastExponent : Int := -1074

/-- The greatest exponent. -/
def greatestExponent : Int := 971

/-- `num / den · 2 ^ -e` as a fraction. -/
def scaled (num den : Nat) (e : Int) : Nat × Nat :=
  if 0 ≤ e then (num, den * Nat.pow 2 e.toNat) else (num * Nat.pow 2 (-e).toNat, den)

/-- The nearest integer to a fraction, the even one if there are two. -/
def roundHalfEven (num den : Nat) : Nat :=
  let q := num / den
  let r := num % den
  if 2 * r < den then q
  else if den < 2 * r then q + 1
  else if q % 2 = 0 then q else q + 1

/-- The exponent at which a positive fraction has 53 bits before the point, or the least one. -/
def exponentOf (num den : Nat) : Int :=
  let guess : Int := (Nat.log2 num : Int) - Nat.log2 den - 52
  let (n, d) := scaled num den guess
  max leastExponent (if n / d < Nat.pow 2 52 then guess - 1 else guess)

/-- The number nearest to a fraction. -/
def roundRatio (negative : Bool) (num den : Nat) : Binary64 :=
  if num = 0 then finite negative 0 leastExponent
  else
    let e := exponentOf num den
    let (n, d) := scaled num den e
    let m := roundHalfEven n d
    let (m, e) := if m = Nat.pow 2 53 then (Nat.pow 2 52, e + 1) else (m, e)
    if greatestExponent < e then infinite negative else finite negative m e

/-- The number nearest to a decimal fraction. Beyond 400 places before or after the point only the
size counts, so no greater power of ten is ever formed. -/
def ofDecimal (d : Decimal) : Binary64 :=
  let places : Int := (Nat.log2 d.digits : Int) / 3 + 1
  if d.digits = 0 then finite d.negative 0 leastExponent
  else if 400 < d.exponent then infinite d.negative
  else if d.exponent + places < -400 then finite d.negative 0 leastExponent
  else if 0 ≤ d.exponent then roundRatio d.negative (d.digits * Nat.pow 10 d.exponent.toNat) 1
  else roundRatio d.negative d.digits (Nat.pow 10 (-d.exponent).toNat)

/-- The product of a number and a power of ten, each of them rounded before and the product again. -/
def timesPowerOfTen (x : Binary64) (power : Nat) : Binary64 :=
  match x, ofDecimal ⟨false, 1, power⟩ with
  | finite negative m e, finite _ m' e' =>
    let (num, den) := scaled (m * m') 1 (-(e + e'))
    roundRatio negative num den
  | x, _ => x

/-- The quotient of a number and a power of ten, each of them rounded before and the quotient again. -/
def overPowerOfTen (x : Binary64) (power : Nat) : Binary64 :=
  match x, ofDecimal ⟨false, 1, power⟩ with
  | finite negative m e, finite _ m' e' =>
    let (num, den) := scaled m m' (e' - e)
    roundRatio negative num den
  | x, _ => x

/-- Reads a number: a decimal fraction, or an infinity or no number at all by name in any case. -/
def read? (text : String) : Option Binary64 :=
  match Decimal.read? text.toList with
  | some d => some (ofDecimal d)
  | none =>
    let (negative, name) := splitSign text.toList
    let name := String.ofList (name.map Char.toLower)
    if name = "inf" ∨ name = "infinity" then some (infinite negative)
    else if name = "nan" then some nan
    else none

/-! ## Shortest digits -/

/-- Which of two equally near decimals is taken: the greater one, or the one that ends in an even
digit. -/
inductive Tie where
  | up | even
  deriving DecidableEq, Repr

/-- Is the lower of two neighbours taken, given its digits? -/
def Tie.takesLower : Tie → Nat → Bool
  | .up, _ => false
  | .even, digits => digits % 2 = 0

/-- A positive number together with the reals that round to it: those between `low` and `high`, in
units of `1 / den`, ends included or not. -/
structure Neighbourhood where
  low : Nat
  value : Nat
  high : Nat
  den : Nat
  closed : Bool

/-- The reals that round to `m · 2 ^ e`. Below a power of two the spacing is half as wide. -/
def neighbourhood (m : Nat) (e : Int) : Neighbourhood :=
  let below := if m = Nat.pow 2 52 ∧ leastExponent < e then 1 else 2
  if 0 ≤ e then
    let s := Nat.pow 2 e.toNat
    ⟨(4 * m - below) * s, 4 * m * s, (4 * m + 2) * s, 4, m % 2 = 0⟩
  else ⟨4 * m - below, 4 * m, 4 * m + 2, 4 * Nat.pow 2 (-e).toNat, m % 2 = 0⟩

namespace Neighbourhood

/-- Does `num / den` round to the number? -/
def covers (r : Neighbourhood) (num den : Nat) : Bool :=
  let low := r.low * den
  let high := r.high * den
  let x := num * r.den
  if r.closed then low ≤ x && x ≤ high else low < x && x < high

/-- `10 ^ place` as a fraction. -/
def gridUnit (place : Int) : Nat × Nat :=
  if 0 ≤ place then (Nat.pow 10 place.toNat, 1) else (1, Nat.pow 10 (-place).toNat)

/-- The multiple of `10 ^ place` that rounds to the number, the nearer one if both neighbours do. -/
def onGrid? (tie : Tie) (r : Neighbourhood) (place : Int) : Option Nat :=
  let (un, ud) := gridUnit place
  let down := r.value * ud / (r.den * un)
  let up := down + 1
  match r.covers (down * un) ud, r.covers (up * un) ud with
  | true, true =>
    let above := 2 * (r.value * ud - down * un * r.den)
    if above < un * r.den ∨ (above = un * r.den ∧ tie.takesLower down) then some down else some up
  | true, false => some down
  | false, true => some up
  | false, false => none

/-- The number of decimal places before the point of a fraction, at most one too many. -/
def placesBefore (num den : Nat) : Int :=
  if den ≤ num then (Nat.toDigits 10 (num / den)).length
  else 1 - ((Nat.toDigits 10 (den / num)).length : Int)

/-- Tries ever finer grids, from `10 ^ place` on. -/
def search (tie : Tie) (r : Neighbourhood) : Nat → Int → Nat × Int
  | 0, place => (r.value, place)
  | tries + 1, place =>
    match r.onGrid? tie place with
    | some digits => if digits = 0 then search tie r tries (place - 1) else (digits, place)
    | none => search tie r tries (place - 1)

end Neighbourhood

/-- Drops the zeros at the end of a row of digits, at most `n` of them. -/
def dropZeros : Nat → Nat → Int → Nat × Int
  | 0, digits, place => (digits, place)
  | n + 1, digits, place =>
    if digits % 10 = 0 then dropZeros n (digits / 10) (place + 1) else (digits, place)

/-- The shortest decimal that reads back as `m · 2 ^ e`, for positive `m`: its digits and the power
of ten of the last one. Seventeen digits always suffice. -/
def shortest (tie : Tie) (m : Nat) (e : Int) : Nat × Int :=
  let r := neighbourhood m e
  let (digits, place) := r.search tie 20 (Neighbourhood.placesBefore r.value r.den)
  dropZeros 20 digits place

/-! ## Written forms -/

/-- Digits with a point `before` places after the first one, zeros filled in where none are. -/
def positional (digits : List Char) (before : Int) : String :=
  if before ≤ 0 then "0." ++ String.ofList (List.replicate (-before).toNat '0' ++ digits)
  else if digits.length ≤ before.toNat then
    String.ofList (digits ++ List.replicate (before.toNat - digits.length) '0')
  else String.ofList (digits.take before.toNat) ++ "." ++ String.ofList (digits.drop before.toNat)

/-- The sign of a number in front of it. -/
def signed (negative : Bool) (text : String) : String := if negative then "-" ++ text else text

/-- A number in plain positional notation, without a power of ten whatever its size. Of two equally
near decimals the greater one is written. -/
def plain : Binary64 → String
  | nan => "NaN"
  | infinite negative => signed negative "inf"
  | finite negative m e =>
    if m = 0 then signed negative "0"
    else
      let (digits, place) := shortest .up m e
      let digits := Nat.toDigits 10 digits
      signed negative (positional digits (digits.length + place))

/-- A number with a point in it, or with a power of ten from seventeen places before the point or
five zeros after it. Of two equally near decimals the one with an even last digit is written. -/
def scientific : Binary64 → String
  | nan => "NaN"
  | infinite negative => signed negative "inf"
  | finite negative m e =>
    if m = 0 then signed negative "0.0"
    else
      let (digits, place) := shortest .even m e
      let digits := Nat.toDigits 10 digits
      let before : Int := digits.length + place
      if -5 < before ∧ before ≤ 16 then
        let text := positional digits before
        signed negative (if digits.length ≤ before then text ++ ".0" else text)
      else
        let front := String.ofList (digits.take 1)
        let back := if digits.length = 1 then "" else "." ++ String.ofList (digits.drop 1)
        let power := before - 1
        let mark := if power < 0 then "e-" else "e+"
        signed negative (front ++ back ++ mark ++ toString power.natAbs)

/-! ## Whole numbers -/

/-- The nearest whole number to a fraction, a half rounded up. -/
def roundHalfUp (num den : Nat) : Nat := (2 * num + den) / (2 * den)

/-- The nearest whole number of 64 bits: a half goes away from zero, what lies outside goes to the
nearer end, and no number at all goes to zero. -/
def toUInt64 : Binary64 → UInt64
  | nan => 0
  | infinite negative => if negative then 0 else UInt64.ofNat (UInt64.size - 1)
  | finite negative m e =>
    if negative then 0
    else
      let (num, den) := if 0 ≤ e then (m * Nat.pow 2 e.toNat, 1) else (m, Nat.pow 2 (-e).toNat)
      UInt64.ofNat (min (roundHalfUp num den) (UInt64.size - 1))

/-- Is it a number, and not an infinite one? -/
def isFinite : Binary64 → Bool
  | finite .. => true
  | _ => false

/-- Is the number zero, of either sign? -/
def isZero : Binary64 → Bool
  | finite _ m _ => m == 0
  | _ => false

end Binary64

end DurableQueue
