/-!
# Byte strings

Keys and payloads are finite byte strings, written in lower-case hexadecimal wherever they are
shown. Byte strings are ordered lexicographically, which is the order of `List UInt8`.

Main statement: `ofHex?_toHex`, reading a written byte string gives it back.
-/

namespace DurableQueue

/-- A finite byte string. -/
abbrev Bytes := List UInt8

namespace Bytes

/-- The lower-case hexadecimal digit of a number below sixteen. -/
def hexDigit (n : Nat) : Char :=
  if n < 10 then Char.ofNat (48 + n) else Char.ofNat (87 + n)

/-- The value of a hexadecimal digit of either case. -/
def hexValue? (c : Char) : Option Nat :=
  if '0' ≤ c ∧ c ≤ '9' then some (c.toNat - 48)
  else if 'a' ≤ c ∧ c ≤ 'f' then some (c.toNat - 87)
  else if 'A' ≤ c ∧ c ≤ 'F' then some (c.toNat - 55)
  else none

theorem hexValue?_hexDigit : ∀ n < 16, hexValue? (hexDigit n) = some n := by decide

/-- The two digits of each byte, high digit first. -/
def hexDigits (bs : Bytes) : List Char :=
  bs.flatMap fun b => [hexDigit (b.toNat / 16), hexDigit (b.toNat % 16)]

/-- A byte string as text, two digits a byte. -/
def toHex (bs : Bytes) : String := String.ofList (hexDigits bs)

/-- Reads pairs of digits on top of the bytes read so far, last byte first. -/
def readHex (read : Bytes) : List Char → Option Bytes
  | [] => some read.reverse
  | [_] => none
  | h :: l :: rest =>
    match hexValue? h, hexValue? l with
    | some hi, some lo => readHex (UInt8.ofNat (16 * hi + lo) :: read) rest
    | _, _ => none

/-- The byte string a text of digit pairs stands for. -/
def ofHex? (text : String) : Option Bytes := readHex [] text.toList

theorem readHex_hexDigits (read bs : Bytes) :
    readHex read (hexDigits bs) = some (read.reverse ++ bs) := by
  induction bs generalizing read with
  | nil => simp [hexDigits, readHex]
  | cons b bs ih =>
    have hi : b.toNat / 16 < 16 := by have := b.toNat_lt; omega
    have lo : b.toNat % 16 < 16 := Nat.mod_lt _ (by decide)
    have join : UInt8.ofNat (16 * (b.toNat / 16) + b.toNat % 16) = b := by
      rw [Nat.div_add_mod]; exact UInt8.ofNat_toNat
    have step : hexDigits (b :: bs)
        = hexDigit (b.toNat / 16) :: hexDigit (b.toNat % 16) :: hexDigits bs := by
      simp [hexDigits]
    rw [step, readHex, hexValue?_hexDigit _ hi, hexValue?_hexDigit _ lo]
    simp only [join, ih, List.reverse_cons, List.append_assoc, List.singleton_append]

theorem ofHex?_toHex (bs : Bytes) : ofHex? (toHex bs) = some bs := by
  simp [ofHex?, toHex, readHex_hexDigits]

/-! ## Numbers as bytes -/

/-- The `k` low bytes of `n`, least significant first. -/
def littleEndian : Nat → Nat → Bytes
  | 0, _ => []
  | k + 1, n => UInt8.ofNat n :: littleEndian k (n / 256)

/-- The number a byte string stands for, least significant byte first. -/
def ofLittleEndian : Bytes → Nat
  | [] => 0
  | b :: bs => b.toNat + 256 * ofLittleEndian bs

@[simp] theorem length_littleEndian (k n : Nat) : (littleEndian k n).length = k := by
  induction k generalizing n with
  | zero => rfl
  | succ k ih => simp [littleEndian, ih]

/-- What a byte counts for that has `k` bytes below it. -/
def weight : Nat → Nat
  | 0 => 1
  | k + 1 => 256 * weight k

theorem ofLittleEndian_littleEndian (k n : Nat) :
    ofLittleEndian (littleEndian k n) = n % weight k := by
  induction k generalizing n with
  | zero => simp [littleEndian, ofLittleEndian, weight, Nat.mod_one]
  | succ k ih =>
    have head : (UInt8.ofNat n).toNat = n % 256 := UInt8.toNat_ofNat'
    rw [littleEndian, ofLittleEndian, ih, head, weight, Nat.mod_mul]

/-- The `k` low bytes of `n`, most significant first. -/
def bigEndian : Nat → Nat → Bytes
  | 0, _ => []
  | k + 1, n => UInt8.ofNat (n / weight k) :: bigEndian k (n % weight k)

/-- The number a byte string stands for, most significant byte first. -/
def ofBigEndian (bs : Bytes) : Nat := bs.foldl (fun n b => 256 * n + b.toNat) 0

@[simp] theorem length_bigEndian (k n : Nat) : (bigEndian k n).length = k := by
  induction k generalizing n with
  | zero => rfl
  | succ k ih => simp [bigEndian, ih]

end Bytes

end DurableQueue
