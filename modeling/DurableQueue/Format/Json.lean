import DurableQueue.Bytes
import DurableQueue.Format.Reader
import DurableQueue.Named
import DurableQueue.Number.Binary64

/-!
# JSON

Values of the data format JSON. A number without point and exponent is whole if it fits in 64 bits
with or without sign; any other number is a binary floating-point number, and one beyond their range
is no JSON. Such a number is read quickly rather than exactly: as many digits as fit in 64 bits, times
or over a power of ten, so that it may miss the nearest floating-point number by a little. Of two
members of an object with one name the later counts. Arrays and objects may stand inside one another
up to a certain depth.
-/

namespace DurableQueue.Format

/-- A JSON value. -/
inductive Json where
  | null
  | boolean (b : Bool)
  | integer (n : Int)
  | number (x : Binary64)
  | text (s : String)
  | array (items : List Json)
  | object (members : List (String × Json))

namespace Json

open Reader

/-- Blanks between tokens. -/
def blanks : Reader Unit := do
  let _ ← run fun c => c == ' ' || c == '\t' || c == '\n' || c == '\r'

/-- Four hexadecimal digits. -/
def hex4 : Reader Nat := do
  let mut n := 0
  for _ in [0, 1, 2, 3] do
    match Bytes.hexValue? (← char) with
    | some d => n := 16 * n + d
    | none => failure
  return n

/-- The character behind `\u`: four digits, or two groups of four for one outside the basic plane. -/
def escapedUnit : Reader Char := do
  let high ← hex4
  if 0xD800 ≤ high ∧ high ≤ 0xDBFF then
    exactly "\\u"
    let low ← hex4
    if 0xDC00 ≤ low ∧ low ≤ 0xDFFF then
      return Char.ofNat (0x10000 + (high - 0xD800) * 0x400 + (low - 0xDC00))
    else failure
  else if 0xDC00 ≤ high ∧ high ≤ 0xDFFF then failure
  else return Char.ofNat high

/-- The character behind a backslash. -/
def escape : Reader Char := do
  match ← char with
  | '"' => return '"'
  | '\\' => return '\\'
  | '/' => return '/'
  | 'b' => return '\x08'
  | 'f' => return '\x0c'
  | 'n' => return '\n'
  | 'r' => return '\r'
  | 't' => return '\t'
  | 'u' => escapedUnit
  | _ => failure

/-- The characters of a text up to its closing quote, on top of those read so far, last one first. -/
def textBody : Nat → List Char → Reader String
  | 0, _ => failure
  | fuel + 1, read => do
    match ← char with
    | '"' => return String.ofList read.reverse
    | '\\' =>
      let c ← escape
      textBody fuel (c :: read)
    | c => if c.toNat < 0x20 then failure else textBody fuel (c :: read)

/-- A text of fewer than `fuel` characters between quotes. -/
def quotedText (fuel : Nat) : Reader String := do
  exactly "\""
  textBody fuel []

/-! ## Numbers -/

/-- What is kept of the digits of a number: those that fit in 64 bits, and the power of ten of the
last one. -/
structure Kept where
  digits : Nat
  exponent : Int
  deriving DecidableEq, Repr

namespace Kept

/-- The digits with one more, if they still fit. -/
def push? (kept : Kept) (c : Char) : Option Nat :=
  let digits := 10 * kept.digits + (digitValue? c).getD 0
  if digits < UInt64.size then some digits else none

/-- Takes the digits before the point. From the first that does not fit they only count as places. -/
def whole (kept : Kept) : List Char → Kept
  | [] => kept
  | c :: cs =>
    match kept.push? c with
    | some digits => whole ⟨digits, kept.exponent⟩ cs
    | none => ⟨kept.digits, kept.exponent + (cs.length + 1)⟩

/-- Takes the digits behind the point. From the first that does not fit they are left out. -/
def fraction (kept : Kept) : List Char → Kept
  | [] => kept
  | c :: cs =>
    match kept.push? c with
    | some digits => fraction ⟨digits, kept.exponent - 1⟩ cs
    | none => kept

/-- The greatest power of ten that is a floating-point number. -/
def greatestPower : Nat := 308

/-- The floating-point number, in one step up or at most two steps down. -/
def toBinary64 (kept : Kept) (negative : Bool) : Binary64 :=
  let x := Binary64.roundRatio negative kept.digits 1
  let power := kept.exponent.natAbs
  if kept.digits = 0 then x
  else if 0 ≤ kept.exponent then
    if power ≤ greatestPower then x.timesPowerOfTen power else .infinite negative
  else if power ≤ greatestPower then x.overPowerOfTen power
  else if power ≤ 2 * greatestPower then
    (x.overPowerOfTen greatestPower).overPowerOfTen (power - greatestPower)
  else Binary64.roundRatio negative 0 1

end Kept

/-- The power of ten behind a number, if there is one. -/
def power? : Reader (Option Int) := do
  let marked ← optional (satisfying fun c => c == 'e' || c == 'E')
  if marked.isNone then return none
  let negative ← ifNext "-"
  if !negative then
    let _ ← ifNext "+"
  match readDigits? (← run1 Char.isDigit) with
  | some n => return some (if negative then -(n : Int) else n)
  | none => failure

/-- A number: a sign, digits without a leading zero, a fraction and an exponent. -/
def numberValue : Reader Json := do
  let minus ← ifNext "-"
  let whole ← run1 Char.isDigit
  if whole.length > 1 && whole.head? == some '0' then failure
  let fraction ← if ← ifNext "." then run1 Char.isDigit else pure []
  let power ← power?
  let before := Kept.whole ⟨0, 0⟩ whole
  let exact : Int := if minus then -(before.digits : Int) else before.digits
  let isWhole := fraction.isEmpty && power.isNone && before.exponent == 0
  if isWhole && !(minus && before.digits == 0) && decide (-Int.pow 2 63 ≤ exact) then
    return .integer exact
  else
    let kept := before.fraction fraction
    match Kept.toBinary64 ⟨kept.digits, kept.exponent + power.getD 0⟩ minus with
    | .infinite _ => failure
    | x => return .number x

/-! ## Values -/

/-- How deep arrays and objects may stand inside one another. -/
def greatestDepth : Nat := 127

/-- A value with at most `depth` levels of arrays and objects; the fuel bounds the number of values
inside and after it and the length of its texts. -/
def value : Nat → (depth : Nat) → Reader Json
  | 0, _ => failure
  | fuel + 1, depth => do
    blanks
    match ← peek?, depth with
    | some '"', _ => return .text (← quotedText fuel)
    | some '[', depth + 1 => do
      exactly "["
      blanks
      if ← ifNext "]" then return .array []
      items fuel depth []
    | some '\x7b', depth + 1 => do
      exactly "\x7b"
      blanks
      if ← ifNext "\x7d" then return .object []
      members fuel depth []
    | some 't', _ => exactly "true"; return .boolean true
    | some 'f', _ => exactly "false"; return .boolean false
    | some 'n', _ => exactly "null"; return .null
    | _, _ => numberValue
where
  /-- The items of an array up to its bracket, on top of those read so far, last one first. -/
  items : Nat → Nat → List Json → Reader Json
    | 0, _, _ => failure
    | fuel + 1, depth, read => do
      let item ← value fuel depth
      blanks
      if ← ifNext "]" then return .array (item :: read).reverse
      exactly ","
      items fuel depth (item :: read)
  /-- The members of an object up to its brace, on top of those read so far. -/
  members : Nat → Nat → Named Json → Reader Json
    | 0, _, _ => failure
    | fuel + 1, depth, read => do
      blanks
      let name ← quotedText fuel
      blanks
      exactly ":"
      let item ← value fuel depth
      blanks
      let read := Named.put name item read
      if ← ifNext "\x7d" then return .object read
      exactly ","
      members fuel depth read

/-- The value of a JSON text. -/
def read? (text : String) : Option Json :=
  whole (do let v ← value (2 * text.length + 2) greatestDepth; blanks; return v) text.toList

/-! ## Writing text -/

/-- A character as it stands in a text: quotes, backslashes and controls are escaped. -/
def writtenChar (c : Char) : List Char :=
  if c = '"' then ['\\', '"']
  else if c = '\\' then ['\\', '\\']
  else if c = '\n' then ['\\', 'n']
  else if c = '\r' then ['\\', 'r']
  else if c = '\t' then ['\\', 't']
  else if c = '\x08' then ['\\', 'b']
  else if c = '\x0c' then ['\\', 'f']
  else if c.toNat < 0x20 then
    ['\\', 'u', '0', '0', Bytes.hexDigit (c.toNat / 16), Bytes.hexDigit (c.toNat % 16)]
  else [c]

/-- A text between quotes. -/
def writtenText (s : String) : String :=
  String.ofList ('"' :: s.toList.flatMap writtenChar ++ ['"'])

end Json

end DurableQueue.Format
