import DurableQueue.Bytes

/-!
# Keys

An item is stored under the eight bytes of its id, most significant byte first. All keys then have
one length, and the byte order of keys is the numeric order of ids.
-/

namespace DurableQueue.Key

/-- The number of bytes in a key. -/
def length : Nat := 8

/-- The key of an id. -/
def encode (id : UInt64) : Bytes := Bytes.bigEndian length id.toNat

/-- The id behind a key; a byte string of another length is no key, and its length is reported. -/
def decode (key : Bytes) : Except Nat UInt64 :=
  if key.length = length then .ok (UInt64.ofNat (Bytes.ofBigEndian key)) else .error key.length

@[simp] theorem length_encode (id : UInt64) : (encode id).length = 8 :=
  Bytes.length_bigEndian _ _

end DurableQueue.Key
