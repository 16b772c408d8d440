import DurableQueue.Bytes

/-!
# UTF-8

Text in bytes. The well-formed sequences are those of the Unicode standard: a lead byte fixes the
range of each byte that follows it (`follow?`), which leaves out overlong forms, surrogates and
everything above U+10FFFF. `next` reads one character or says how many bytes are certainly wrong.

Two readers are built on it: `decode` refuses the first fault and says where it is, `decodeLossy`
puts U+FFFD for each one.
-/

namespace DurableQueue.Utf8

/-- The bytes of a text. -/
def encode (text : String) : Bytes := text.toList.flatMap String.utf8EncodeChar

/-- The ranges of the bytes that follow a lead byte; nothing can follow a byte that leads none. -/
def follow? (lead : UInt8) : Option (List (UInt8 × UInt8)) :=
  if lead ≤ 0x7f then some []
  else if lead < 0xc2 then none
  else if lead ≤ 0xdf then some [(0x80, 0xbf)]
  else if lead = 0xe0 then some [(0xa0, 0xbf), (0x80, 0xbf)]
  else if lead = 0xed then some [(0x80, 0x9f), (0x80, 0xbf)]
  else if lead ≤ 0xef then some [(0x80, 0xbf), (0x80, 0xbf)]
  else if lead = 0xf0 then some [(0x90, 0xbf), (0x80, 0xbf), (0x80, 0xbf)]
  else if lead ≤ 0xf3 then some [(0x80, 0xbf), (0x80, 0xbf), (0x80, 0xbf)]
  else if lead = 0xf4 then some [(0x80, 0x8f), (0x80, 0xbf), (0x80, 0xbf)]
  else none

/-- The bits of a code point that its lead byte carries, given how many bytes follow. -/
def leadBits (lead : UInt8) : Nat → Nat
  | 0 => lead.toNat
  | 1 => lead.toNat % 32
  | 2 => lead.toNat % 16
  | _ => lead.toNat % 8

/-- What stands at the front of a byte string. -/
inductive Front where
  /-- a character and the bytes after it -/
  | char (c : Char) (rest : Bytes)
  /-- `count` bytes that no continuation can make part of a text, and the bytes after them -/
  | invalid (count : Nat) (rest : Bytes)
  /-- the input ends inside a sequence that is well-formed so far -/
  | incomplete
  /-- no byte -/
  | empty

/-- Reads the bytes that follow a lead byte against their ranges, given the code point so far and
the number of bytes already accepted. -/
def continued (point count : Nat) : List (UInt8 × UInt8) → Bytes → Front
  | [], rest => .char (Char.ofNat point) rest
  | _ :: _, [] => .incomplete
  | (lo, hi) :: ranges, b :: rest =>
    if lo ≤ b ∧ b ≤ hi then continued (64 * point + b.toNat % 64) (count + 1) ranges rest
    else .invalid count (b :: rest)

/-- The front of a byte string. -/
def next : Bytes → Front
  | [] => .empty
  | lead :: rest =>
    match follow? lead with
    | none => .invalid 1 rest
    | some ranges => continued (leadBits lead ranges.length) 1 ranges rest

/-- The bytes left after the front. -/
def Front.rest : Front → Bytes
  | .char _ rest => rest
  | .invalid _ rest => rest
  | .incomplete => []
  | .empty => []

theorem length_rest_continued (point count : Nat) (ranges : List (UInt8 × UInt8)) (bs : Bytes) :
    (continued point count ranges bs).rest.length ≤ bs.length := by
  fun_induction continued point count ranges bs with
  | case1 => simp [Front.rest]
  | case2 => simp [Front.rest]
  | case3 point count lo hi ranges b rest h ih => simp only [List.length_cons]; omega
  | case4 => simp [Front.rest]

/-- Reading a front uses up at least one byte. -/
theorem length_rest_next (b : UInt8) (bs : Bytes) :
    (next (b :: bs)).rest.length < (b :: bs).length := by
  have := length_rest_continued
  simp only [next, List.length_cons]
  split
  · simp [Front.rest]
  · exact Nat.lt_succ_of_le (length_rest_continued _ _ _ _)

/-- Why a byte string is no text: the index of the fault, and the number of bytes that are certainly
wrong there, or none if the input only stops too early. -/
structure Fault where
  index : Nat
  invalid : Option Nat
  deriving DecidableEq, Repr

/-- Reads characters from index `index` on, on top of the ones read so far, last character first. -/
def decodeFrom (index : Nat) (read : List Char) : Bytes → Except Fault (List Char)
  | [] => .ok read.reverse
  | b :: tail =>
    match front : next (b :: tail) with
    | .char c rest =>
      have shorter : rest.length < (b :: tail).length := by
        have := length_rest_next b tail
        rwa [front] at this
      decodeFrom (index + c.utf8Size) (c :: read) rest
    | .invalid count _ => .error ⟨index, some count⟩
    | .incomplete => .error ⟨index, none⟩
    | .empty => .ok read.reverse
termination_by bs => bs.length
decreasing_by exact shorter

/-- The text a byte string encodes, or its first fault. -/
def decode (bs : Bytes) : Except Fault String :=
  (decodeFrom 0 [] bs).map String.ofList

/-- Reads characters and one U+FFFD for each fault, on top of the ones read so far. -/
def decodeLossyFrom (read : List Char) : Bytes → List Char
  | [] => read.reverse
  | b :: tail =>
    match front : next (b :: tail) with
    | .char c rest =>
      have shorter : rest.length < (b :: tail).length := by
        have := length_rest_next b tail
        rwa [front] at this
      decodeLossyFrom (c :: read) rest
    | .invalid _ rest =>
      have shorter : rest.length < (b :: tail).length := by
        have := length_rest_next b tail
        rwa [front] at this
      decodeLossyFrom ('\uFFFD' :: read) rest
    | .incomplete => ('\uFFFD' :: read).reverse
    | .empty => read.reverse
termination_by bs => bs.length
decreasing_by all_goals exact shorter

/-- The text of a byte string, with U+FFFD for each fault. -/
def decodeLossy (bs : Bytes) : String := String.ofList (decodeLossyFrom [] bs)

/-- A fault in words. -/
def Fault.message (f : Fault) : String :=
  match f.invalid with
  | some count => s!"invalid utf-8 sequence of {count} bytes from index {f.index}"
  | none => s!"incomplete utf-8 byte sequence from index {f.index}"

end DurableQueue.Utf8
