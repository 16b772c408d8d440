/-!
# Decimal text

Whole numbers and decimal fractions as they are written: digits, a sign in front, a point inside and
a power of ten behind. `Decimal.read?` reads a finite decimal exactly, as an integer times a power
of ten.
-/

namespace DurableQueue

/-- The value of a decimal digit. -/
def digitValue? (c : Char) : Option Nat :=
  if '0' ≤ c ∧ c ≤ '9' then some (c.toNat - 48) else none

/-- The number a row of digits stands for, on top of the digits read so far. -/
def natOfDigits (read : Nat) : List Char → Option Nat
  | [] => some read
  | c :: cs =>
    match digitValue? c with
    | some d => natOfDigits (10 * read + d) cs
    | none => none

/-- The number a non-empty row of digits stands for. -/
def readDigits? (cs : List Char) : Option Nat :=
  if cs.isEmpty then none else natOfDigits 0 cs

/-- Splits a sign off a number: is it negative, and what follows. -/
def splitSign : List Char → Bool × List Char
  | '-' :: cs => (true, cs)
  | '+' :: cs => (false, cs)
  | cs => (false, cs)

/-- A whole number with an optional sign, if it lies between the bounds. -/
def readInt? (least most : Int) (cs : List Char) : Option Int :=
  let (negative, digits) := splitSign cs
  match readDigits? digits with
  | some n =>
    let value : Int := if negative then -n else n
    if least ≤ value ∧ value ≤ most then some value else none
  | none => none

/-- A whole number of 64 bits with a sign. -/
def readInt64? (cs : List Char) : Option Int := readInt? (-Int.pow 2 63) (Int.pow 2 63 - 1) cs

/-- A whole number below `2 ^ bits`; a plus sign may stand in front, a minus sign may not. -/
def readUnsigned? (bits : Nat) (cs : List Char) : Option Nat :=
  let digits := match cs with
    | '+' :: rest => rest
    | _ => cs
  match readDigits? digits with
  | some n => if n < Nat.pow 2 bits then some n else none
  | none => none

/-- A decimal fraction: `digits · 10 ^ exponent`, negated or not. -/
structure Decimal where
  negative : Bool
  digits : Nat
  exponent : Int
  deriving DecidableEq, Repr

namespace Decimal

/-- The power of ten written behind a number, empty for none. -/
def readExponent? : List Char → Option Int
  | [] => some 0
  | c :: cs =>
    if c = 'e' ∨ c = 'E' then
      let (negative, digits) := splitSign cs
      (readDigits? digits).map fun n => if negative then -(n : Int) else n
    else none

/-- A decimal fraction: an optional sign, digits with at most one point among or beside them, and an
optional power of ten. -/
def read? (cs : List Char) : Option Decimal :=
  let (negative, cs) := splitSign cs
  let whole := cs.takeWhile Char.isDigit
  let afterWhole := cs.dropWhile Char.isDigit
  let (fraction, afterFraction) := match afterWhole with
    | '.' :: rest => (rest.takeWhile Char.isDigit, rest.dropWhile Char.isDigit)
    | _ => ([], afterWhole)
  match readDigits? (whole ++ fraction), readExponent? afterFraction with
  | some digits, some power => some ⟨negative, digits, power - fraction.length⟩
  | _, _ => none

end Decimal

end DurableQueue
