import DurableQueue.Error
import DurableQueue.Key
import DurableQueue.Payload.Schema

/-!
# Items

An item is an id, the key it is stored under and a payload. The queue only hands out items whose key
is that of their id, but a caller can make up any other.

A payload can be viewed as text, strictly or with replacement characters, and as a typed value.
-/

namespace DurableQueue

/-- One element of a queue. -/
structure Item where
  id : UInt64
  key : Bytes
  value : Bytes
  deriving DecidableEq, Repr

namespace Item

/-- The item with an id and a payload, under the key of the id. -/
def ofId (id : UInt64) (value : Bytes) : Item := ⟨id, Key.encode id, value⟩

/-- The payload as text. -/
def text (item : Item) : Except QueueError String :=
  (Utf8.decode item.value).mapError fun fault => .incompatible (.notText fault)

/-- The payload as text, with U+FFFD for whatever is not text. -/
def lossyText (item : Item) : String := Utf8.decodeLossy item.value

/-- The payload as a value of the schema. -/
def object (item : Item) (schema : Payload.Schema) : Except QueueError Payload.Value :=
  (schema.read item.value).mapError fun fault => .incompatible (.notValue fault)

/-- An item in short: its id, key and payload length. -/
def summary (item : Item) : String :=
  s!"#{item.id} [{item.key.toHex}] ({item.value.length} bytes)"

end Item

/-- The binary form of a value as a payload. -/
def payloadOf (v : Payload.Value) : Except QueueError Bytes :=
  v.encode.mapError fun fault => .incompatible (.notValue fault)

end DurableQueue
