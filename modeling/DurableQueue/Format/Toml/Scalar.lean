import DurableQueue.Bytes
import DurableQueue.Format.Toml.Moment
import DurableQueue.Format.Toml.Value

/-!
# TOML scalars

Texts, numbers, dates and times as TOML 1.0 writes them. Whole numbers have 64 bits with a sign, and a
number with a fraction or power of ten must not round to plus infinity.
-/

namespace DurableQueue.Format.Toml

open Reader

/-- Is the character a space or tab? -/
def isSpace (c : Char) : Bool := c == ' ' || c == '\t'

/-- May the character stand in a comment or literal text? Controls other than the tab may not. -/
def isPlain (c : Char) : Bool := c == '\t' || (0x20 ≤ c.toNat && c.toNat != 0x7f)

/-- Spaces and tabs. -/
def spaces : Reader Unit := do let _ ← run isSpace

/-- The end of a line, if it comes next. -/
def newline? : Reader Bool := do
  if ← ifNext "\n" then return true else ifNext "\r\n"

/-- A comment, if one comes next. -/
def comment : Reader Unit := do
  if ← ifNext "#" then
    let _ ← run isPlain

/-! ## Texts -/

/-- `n` hexadecimal digits. -/
def hexDigits : Nat → Nat → Reader Nat
  | 0, read => return read
  | n + 1, read => do
    match Bytes.hexValue? (← char) with
    | some d => hexDigits n (16 * read + d)
    | none => failure

/-- A character by its code point in `n` digits. -/
def codePoint (n : Nat) : Reader Char := do
  let point ← hexDigits n 0
  if point < 0xD800 ∨ (0xDFFF < point ∧ point < 0x110000) then return Char.ofNat point
  else failure

/-- The character behind a backslash. -/
def escape : Reader Char := do
  match ← char with
  | 'b' => return '\x08'
  | 't' => return '\t'
  | 'n' => return '\n'
  | 'f' => return '\x0c'
  | 'r' => return '\r'
  | '"' => return '"'
  | '\\' => return '\\'
  | 'u' => codePoint 4
  | 'U' => codePoint 8
  | _ => failure

/-- The rest of a text between double quotes, on top of what is read so far, last character first. -/
def basicBody : Nat → List Char → Reader String
  | 0, _ => failure
  | fuel + 1, read => do
    match ← char with
    | '"' => return String.ofList read.reverse
    | '\\' =>
      let c ← escape
      basicBody fuel (c :: read)
    | c => if isPlain c then basicBody fuel (c :: read) else failure

/-- Blanks and line ends. -/
def emptyLines : Nat → Reader Unit
  | 0 => return
  | fuel + 1 => do
    spaces
    if ← newline? then emptyLines fuel

/-- Leaves out a line's end behind a backslash, with all blanks and line ends after it. -/
def continuation : Reader Unit := do
  spaces
  if ← newline? then emptyLines ((← rest).length + 1) else failure

/-- The rest of a text between triple quotes of kind `q`; with `escapes` a backslash is special. Up to
two quotes before the closing three belong to the text. -/
def longBody (q : Char) (escapes : Bool) : Nat → List Char → Reader String
  | 0, _ => failure
  | fuel + 1, read => do
    if ← newline? then longBody q escapes fuel ('\n' :: read)
    else
      let c ← char
      if c == q then
        let more := ((← rest).takeWhile (· == q)).take 4
        exactly (String.ofList more)
        let n := more.length + 1
        if n < 3 then longBody q escapes fuel (List.replicate n q ++ read)
        else return String.ofList (List.replicate (n - 3) q ++ read).reverse
      else if c == '\\' && escapes then
        match ← optional continuation with
        | some () => longBody q escapes fuel read
        | none =>
          let c ← escape
          longBody q escapes fuel (c :: read)
      else if isPlain c then longBody q escapes fuel (c :: read)
      else failure

/-- A text on one line, between double or single quotes. -/
def shortText : Reader String := do
  if ← ifNext "\"" then basicBody ((← rest).length + 1) []
  else
    exactly "'"
    let body ← run fun c => isPlain c && c != '\x27'
    exactly "'"
    return String.ofList body

/-- A text, between one or three quotes; a line end right after three opening quotes is dropped. -/
def anyText : Reader String := do
  if ← ifNext "\"\"\"" then
    let _ ← newline?
    longBody '"' true ((← rest).length + 1) []
  else if ← ifNext "'''" then
    let _ ← newline?
    longBody '\x27' false ((← rest).length + 1) []
  else shortText

/-! ## Numbers -/

/-- Digits of some base with single underscores between them. -/
def digitsWith (isDigit : Char → Bool) : Reader (List Char) := do
  let cs ← run fun c => isDigit c || c == '_'
  let lone := (cs.zip (cs.drop 1)).any fun (a, b) => a == '_' && b == '_'
  if cs.isEmpty || lone || cs.head? == some '_' || cs.getLast? == some '_' then failure
  else return cs.filter (· != '_')

/-- Decimal digits without a leading zero. -/
def decimalDigits : Reader (List Char) := do
  let digits ← digitsWith Char.isDigit
  if digits.length > 1 && digits.head? == some '0' then failure else return digits

/-- The number that digits of a base stand for. -/
def ofDigits (base : Nat) (cs : List Char) : Nat :=
  cs.foldl (fun n c => base * n + (Bytes.hexValue? c).getD 0) 0

/-- A whole number, if it has no more than 64 bits. -/
def wholeNumber (negative : Bool) (n : Nat) : Reader Toml :=
  let value : Int := if negative then -(n : Int) else n
  if -Int.pow 2 63 ≤ value ∧ value < Int.pow 2 63 then return .integer value else failure

/-- A number in base sixteen, eight or two. -/
def basedNumber : Reader Toml := do
  if ← ifNext "0x" then
    wholeNumber false (ofDigits 16 (← digitsWith fun c => (Bytes.hexValue? c).isSome))
  else if ← ifNext "0o" then
    wholeNumber false (ofDigits 8 (← digitsWith fun c => '0' ≤ c && c ≤ '7'))
  else
    exactly "0b"
    wholeNumber false (ofDigits 2 (← digitsWith fun c => c == '0' || c == '1'))

/-- Infinity, or no number at all. -/
def namedNumber : Reader Toml := do
  let negative ← sign
  if ← ifNext "inf" then return .float (.infinite negative)
  else
    exactly "nan"
    return .float .nan

/-- A decimal number: whole, or with a fraction, a power of ten or both. -/
def decimalNumber : Reader Toml := do
  let negative ← sign
  let whole ← decimalDigits
  let fraction ← if ← ifNext "." then some <$> digitsWith Char.isDigit else pure none
  let power ← match ← optional (satisfying fun c => c == 'e' || c == 'E') with
    | some _ => do
      let down ← sign
      let n := ofDigits 10 (← digitsWith Char.isDigit)
      pure (some (if down then -(n : Int) else n))
    | none => pure none
  if fraction.isNone && power.isNone then wholeNumber negative (ofDigits 10 whole)
  else
    let places := fraction.getD []
    let x := Binary64.ofDecimal
      ⟨negative, ofDigits 10 (whole ++ places), power.getD 0 - places.length⟩
    if x = .infinite false then failure else return .float x

/-! ## Scalars -/

/-- A truth value. -/
def truth : Reader Toml := do
  if ← ifNext "true" then return .boolean true
  else
    exactly "false"
    return .boolean false

/-- A scalar: a text, a truth value, a date or time, or a number. -/
def scalar : Reader Toml := do
  match ← peek? with
  | some '"' | some '\x27' => return .text (← anyText)
  | _ => truth <|> (.date <$> moment .strict) <|> namedNumber <|> basedNumber <|> decimalNumber

end DurableQueue.Format.Toml
