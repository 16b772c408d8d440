import DurableQueue.Payload.Value

/-!
# Payload schemas and decoding

A binary form does not say what it is the form of, so reading it needs a `Schema`. `Schema.decode`
reads a value from the front of a byte string and returns the bytes after it; `Schema.read` drops
those, so bytes after a complete value are ignored.

A schema may refer to itself inside `recursive`. Each unfolding of a sensible schema uses up input
before it reaches itself, hence no more unfoldings are needed than there are bytes.
-/

namespace DurableQueue.Payload

/-- What a payload is read as. -/
inductive Schema where
  | bool
  | word (reading : Reading) (width : Width)
  | char
  | text
  | unit
  | option (s : Schema)
  /-- a sequence of any length -/
  | seq (s : Schema)
  /-- a fixed number of values of one schema -/
  | array (n : Nat) (s : Schema)
  /-- a tuple, or the fields of a record -/
  | record (ss : List Schema)
  /-- one of several variants, each with its fields -/
  | choice (variants : List (List Schema))
  /-- a map from text -/
  | map (s : Schema)
  /-- a schema that `itself` stands for inside -/
  | recursive (s : Schema)
  | itself

/-- Reads a value from the front of a byte string. -/
abbrev Decoder (α : Type) := Bytes → Except Fault (α × Bytes)

/-- Reads `n` bytes; `fault` if there are fewer. -/
def readBytes (fault : Fault) (n : Nat) : Decoder Bytes := fun bs =>
  let (front, rest) := bs.splitAt n
  if front.length = n then .ok (front, rest) else .error fault

/-- Reads a word of `n` bytes as a number. -/
def readWord (n : Nat) : Decoder Nat := fun bs => do
  let (front, rest) ← readBytes .endOfInput n bs
  return (Bytes.ofLittleEndian front, rest)

/-- Reads a text with its length in front. -/
def readText : Decoder String := fun bs => do
  let (n, bs) ← readWord 8 bs
  let (encoded, rest) ← readBytes .shortText n bs
  match Utf8.decode encoded with
  | .ok s => return (s, rest)
  | .error fault => throw (.badText fault)

/-- Reads a character: the lead byte says how many bytes belong to it. -/
def readChar : Decoder Char := fun bs => do
  match bs with
  | [] => throw .endOfInput
  | _ :: _ =>
    match Utf8.next bs with
    | .char c rest => return (c, rest)
    | _ => throw .badChar

/-- Reads `n` values one after the other, on top of the ones read so far, last value first. -/
def readTimes (d : Decoder α) : Nat → List α → Decoder (List α)
  | 0, read, bs => .ok (read.reverse, bs)
  | n + 1, read, bs =>
    match d bs with
    | .ok (v, rest) => readTimes d n (v :: read) rest
    | .error fault => .error fault

/-- `n` unfoldings of a recursive reader; one more than that is refused. -/
def unfold (step : Decoder α → Decoder α) : Nat → Decoder α
  | 0, _ => .error .unguarded
  | n + 1, bs => step (unfold step n) bs

/-- Reads a value of the schema, given how `itself` is read. -/
def Schema.decode : Schema → Decoder Value → Decoder Value
  | .bool, _, bs => do
    let (n, rest) ← readWord 1 bs
    match n with
    | 0 => return (.bool false, rest)
    | 1 => return (.bool true, rest)
    | n => throw (.badBool n)
  | .word reading w, _, bs => do
    let (n, rest) ← readWord w.bytes bs
    return (.word reading w (BitVec.ofNat _ n), rest)
  | .char, _, bs => do
    let (c, rest) ← readChar bs
    return (.char c, rest)
  | .text, _, bs => do
    let (s, rest) ← readText bs
    return (.text s, rest)
  | .unit, _, bs => .ok (.unit, bs)
  | .option s, self, bs => do
    let (n, rest) ← readWord 1 bs
    match n with
    | 0 => return (.none, rest)
    | 1 =>
      let (v, rest) ← s.decode self rest
      return (.some v, rest)
    | n => throw (.badOptionTag n)
  | .seq s, self, bs => do
    let (n, rest) ← readWord 8 bs
    let (vs, rest) ← readTimes (s.decode self) n [] rest
    return (.seq vs, rest)
  | .array n s, self, bs => do
    let (vs, rest) ← readTimes (s.decode self) n [] bs
    return (.record vs, rest)
  | .record ss, self, bs => do
    let (vs, rest) ← decodeAll ss self bs
    return (.record vs, rest)
  | .choice variants, self, bs => do
    let (index, rest) ← readWord 4 bs
    let (vs, rest) ← decodeVariant variants index ⟨index, variants.length⟩ self rest
    return (.variant index vs, rest)
  | .map s, self, bs => do
    let (n, rest) ← readWord 8 bs
    let entry : Decoder (String × Value) := fun bs => do
      let (key, rest) ← readText bs
      let (v, rest) ← s.decode self rest
      return ((key, v), rest)
    let (entries, rest) ← readTimes entry n [] rest
    return (.mapOf entries, rest)
  | .recursive s, _, bs => unfold (fun self => s.decode self) (bs.length + 1) bs
  | .itself, self, bs => self bs
where
  /-- Reads one value of each schema. -/
  decodeAll : List Schema → Decoder Value → Decoder (List Value)
    | [], _, bs => .ok ([], bs)
    | s :: ss, self, bs => do
      let (v, rest) ← s.decode self bs
      let (vs, rest) ← decodeAll ss self rest
      return (v :: vs, rest)
  /-- Reads the fields of the variant that is `skip` places away; `found` is the index as written
  and the number of variants. -/
  decodeVariant : List (List Schema) → (skip : Nat) → (found : Nat × Nat) →
      Decoder Value → Decoder (List Value)
    | [], _, found, _, _ => .error (.badVariant found.1 found.2)
    | ss :: _, 0, _, self, bs => decodeAll ss self bs
    | _ :: variants, skip + 1, found, self, bs => decodeVariant variants skip found self bs

/-- The value of the schema at the front of a byte string; what follows it is ignored. -/
def Schema.read (s : Schema) (bs : Bytes) : Except Fault Value :=
  (s.decode (fun _ => .error .unguarded) bs).map (·.1)

end DurableQueue.Payload
