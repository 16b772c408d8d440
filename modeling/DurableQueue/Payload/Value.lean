import DurableQueue.Text.Utf8

/-!
# Typed payload values

A payload is a value of a small universe: words of fixed width, characters, texts, options,
sequences, records, choices between variants, and maps from text. `Value.bytes` is its compact
binary form: words little endian at their width, counts as eight bytes, tags for options and
variants, and plain concatenation for everything a schema already determines.

A `stream` is a sequence whose length is not known before it is written. Its form would need the
count first, so a value with a stream in it has no binary form and `encode` refuses it.
-/

namespace DurableQueue.Payload

/-- The widths of a machine word. -/
inductive Width where
  | w8 | w16 | w32 | w64 | w128
  deriving DecidableEq, Repr

/-- The number of bytes in a word. -/
def Width.bytes : Width → Nat
  | .w8 => 1
  | .w16 => 2
  | .w32 => 4
  | .w64 => 8
  | .w128 => 16

/-- The number of bits in a word. -/
abbrev Width.bits (w : Width) : Nat := 8 * w.bytes

/-- What the bits of a word stand for. -/
inductive Reading where
  | unsigned | signed | float
  deriving DecidableEq, Repr

/-- A payload value. -/
inductive Value where
  | bool (b : Bool)
  | word (reading : Reading) (width : Width) (bits : BitVec width.bits)
  | char (c : Char)
  | text (s : String)
  | unit
  | none
  | some (v : Value)
  /-- a sequence of any length -/
  | seq (vs : List Value)
  /-- an array, tuple or record: its length is part of its schema -/
  | record (vs : List Value)
  /-- the variant at `index` of a choice -/
  | variant (index : Nat) (vs : List Value)
  /-- entries in the order of their keys -/
  | map (entries : List (String × Value))
  /-- a sequence that does not announce its length -/
  | stream (vs : List Value)

namespace Value

/-- Does the form of the value need no length that is unknown before writing? -/
def sized : Value → Bool
  | bool _ | word .. | char _ | text _ | unit | none => true
  | some v => v.sized
  | seq vs => allSized vs
  | record vs => allSized vs
  | variant _ vs => allSized vs
  | map entries => allEntriesSized entries
  | stream _ => false
where
  allSized : List Value → Bool
    | [] => true
    | v :: vs => v.sized && allSized vs
  allEntriesSized : List (String × Value) → Bool
    | [] => true
    | (_, v) :: entries => v.sized && allEntriesSized entries

/-- A count in front of the things counted. -/
def countBytes (n : Nat) : Bytes := Bytes.littleEndian 8 n

/-- A text in front of which stands the number of its bytes. -/
def textBytes (s : String) : Bytes :=
  let encoded := Utf8.encode s
  countBytes encoded.length ++ encoded

/-- The binary form of a value; streams are written like sequences. -/
def bytes : Value → Bytes
  | bool b => [if b then 1 else 0]
  | word _ w bits => Bytes.littleEndian w.bytes bits.toNat
  | char c => String.utf8EncodeChar c
  | text s => textBytes s
  | unit => []
  | none => [0]
  | some v => 1 :: v.bytes
  | seq vs => countBytes vs.length ++ bytesOfAll vs
  | record vs => bytesOfAll vs
  | variant index vs => Bytes.littleEndian 4 index ++ bytesOfAll vs
  | map entries => countBytes entries.length ++ bytesOfEntries entries
  | stream vs => countBytes vs.length ++ bytesOfAll vs
where
  bytesOfAll : List Value → Bytes
    | [] => []
    | v :: vs => v.bytes ++ bytesOfAll vs
  bytesOfEntries : List (String × Value) → Bytes
    | [] => []
    | (key, v) :: entries => textBytes key ++ v.bytes ++ bytesOfEntries entries

/-- Puts an entry among entries ordered by key, in place of one with the same key. -/
def insertEntry (key : String) (v : Value) : List (String × Value) → List (String × Value)
  | [] => [(key, v)]
  | (key', v') :: entries =>
    if key < key' then (key, v) :: (key', v') :: entries
    else if key = key' then (key, v) :: entries
    else (key', v') :: insertEntry key v entries

/-- The map of the given entries; of two with one key the later counts. -/
def mapOf (entries : List (String × Value)) : Value :=
  .map (entries.foldl (fun sorted (key, v) => insertEntry key v sorted) [])

end Value

/-- Why a value has no binary form, or a byte string is not the form of a value. -/
inductive Fault where
  /-- a word or tag is cut off -/
  | endOfInput
  /-- a text is longer than what is left of the input -/
  | shortText
  | badBool (found : Nat)
  | badChar
  | badText (fault : Utf8.Fault)
  | badOptionTag (found : Nat)
  | badVariant (found count : Nat)
  /-- a recursive schema reached itself without using up input -/
  | unguarded
  | unknownLength
  deriving DecidableEq, Repr

/-- A fault in words. -/
def Fault.message : Fault → String
  | endOfInput => "io error: unexpected end of file"
  | shortText => "io error: "
  | badBool n => s!"invalid u8 while decoding bool, expected 0 or 1, found {n}"
  | badChar => "char is not valid"
  | badText fault => s!"string is not valid utf8: {fault.message}"
  | badOptionTag n => s!"tag for enum is not valid, found {n}"
  | badVariant n count =>
    "invalid value: integer `" ++ toString n ++ "`, expected variant index 0 <= i < "
      ++ toString count
  | unguarded => "the size limit has been reached"
  | unknownLength =>
    "Bincode can only encode sequences and maps that have a knowable size ahead of time"

/-- The binary form of a value, if it has one. -/
def Value.encode (v : Value) : Except Fault Bytes :=
  if v.sized then .ok v.bytes else .error .unknownLength

end DurableQueue.Payload
