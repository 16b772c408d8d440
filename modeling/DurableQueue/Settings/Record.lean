import DurableQueue.Format.Json
import DurableQueue.Settings.Basic

/-!
# Settings as records

Settings and options given as JSON values, read strictly: every field has one type. A record is an
object, whose further members are ignored, or an array with the fields in their order. A field that
is not given has its default, except that the options of a store have none.
-/

namespace DurableQueue

open Format (Json)

/-- Why a JSON value is not a record of the kind asked for. -/
inductive RecordProblem where
  | wrongType (found : Found) (expected : String)
  | outOfRange (n : Int) (expected : String)
  | wrongLength (length : Nat) (expected : String)
  | missing (field : String)
  deriving DecidableEq, Repr

/-- A problem in words. -/
def RecordProblem.message : RecordProblem → String
  | wrongType found expected => "invalid type: " ++ found.message ++ ", expected " ++ expected
  | outOfRange n expected =>
    "invalid value: " ++ (Found.integer n).message ++ ", expected " ++ expected
  | wrongLength length expected => s!"invalid length {length}, expected {expected}"
  | missing field => "missing field `" ++ field ++ "`"

namespace Record

/-! ## Fields -/

/-- What a JSON value is, for a message. -/
def found : Json → Found
  | .null => .null
  | .boolean b => .boolean b
  | .integer n => .integer n
  | .number x => .float x.scientific
  | .text s => .text s
  | .array _ => .sequence
  | .object _ => .map

/-- A whole number below `2 ^ bits`. -/
def number (bits : Nat) : Json → Except RecordProblem Nat
  | .integer n =>
    if 0 ≤ n ∧ n < Int.pow 2 bits then .ok n.toNat else .error (.outOfRange n s!"u{bits}")
  | j => .error (.wrongType (found j) s!"u{bits}")

/-- A number of 64 bits. -/
def word (j : Json) : Except RecordProblem UInt64 := do return UInt64.ofNat (← number 64 j)

/-- A truth value. -/
def truth : Json → Except RecordProblem Bool
  | .boolean b => .ok b
  | j => .error (.wrongType (found j) "a boolean")

/-- A text, described as `expected` in a message. -/
def text (expected : String) : Json → Except RecordProblem String
  | .text s => .ok s
  | j => .error (.wrongType (found j) expected)

/-- The members of an object in the order of their names. -/
def sorted (members : Named Json) : Named Json := members.mergeSort fun a b => decide (a.1 ≤ b.1)

/-- Texts by name. -/
def texts : Json → Except RecordProblem (Named String)
  | .object members =>
    (sorted members).mapM fun (name, value) => do return (name, ← text "a string" value)
  | j => .error (.wrongType (found j) "a map")

/-- Reads a record with certain fields: takes the fields that are given one after the other into a
record that starts with the defaults. -/
def gather {α : Type} (record : String) (fields : List String) (default : α)
    (take : α → String × Json → Except RecordProblem α) : Json → Except RecordProblem α
  | .object members => (sorted members).foldlM take default
  | .array items => do
    let value ← (fields.zip items).foldlM take default
    if fields.length < items.length then
      throw (.wrongLength items.length "fewer elements in array")
    return value
  | j => .error (.wrongType (found j) ("struct " ++ record))

end Record

open Record

/-! ## Records -/

/-- Storage settings. -/
def StorageSettings.ofJson : Json → Except RecordProblem StorageSettings :=
  gather "StorageConfig" ["data_dir", "cache_capacity", "flush_every_ms", "sync_writes"] .default
    fun s (name, j) => do
      match name with
      | "data_dir" => return { s with dataDir := ← text "path string" j }
      | "cache_capacity" => return { s with cacheCapacity := ← word j }
      | "flush_every_ms" => return { s with flushEveryMs := ← word j }
      | "sync_writes" => return { s with syncWrites := ← truth j }
      | _ => return s

/-- Logging settings. -/
def LoggingSettings.ofJson (w : Surroundings) : Json → Except RecordProblem LoggingSettings :=
  gather "LoggingConfig" ["level", "format", "output", "file", "color", "modules"] (.default w)
    fun s (name, j) => do
      match name with
      | "level" => return { s with level := ← text "a string" j }
      | "format" => return { s with format := ← text "a string" j }
      | "output" => return { s with output := ← text "a string" j }
      | "file" => return { s with file := ← text "path string" j }
      | "color" => return { s with color := ← truth j }
      | "modules" => return { s with modules := ← texts j }
      | _ => return s

/-- All settings. -/
def Settings.ofJson (w : Surroundings) : Json → Except RecordProblem Settings :=
  gather "FifoqConfig" ["storage", "logging"] (.default w) fun s (name, j) => do
    match name with
    | "storage" => return { s with storage := ← StorageSettings.ofJson j }
    | "logging" => return { s with logging := ← LoggingSettings.ofJson w j }
    | _ => return s

namespace StoreOptions

/-- The names of the options. -/
def names : List String :=
  ["cache_capacity", "flush_every_ms", "sync_writes", "lock_retry_attempts", "lock_retry_delay_ms"]

/-- Takes one option. -/
def takeField (s : StoreOptions) (field : String × Json) : Except RecordProblem StoreOptions := do
  let (name, j) := field
  match name with
  | "cache_capacity" => return { s with cacheCapacity := ← word j }
  | "flush_every_ms" =>
    match j with
    | .null => return { s with flushEveryMs := none }
    | j => return { s with flushEveryMs := some (← word j) }
  | "sync_writes" => return { s with syncWrites := ← truth j }
  | "lock_retry_attempts" => return { s with lockRetryAttempts := UInt32.ofNat (← number 32 j) }
  | "lock_retry_delay_ms" => return { s with lockRetryDelayMs := ← word j }
  | _ => return s

/-- Store options. All of them must be given, except that no interval between flushes means none. -/
def ofJson (j : Json) : Except RecordProblem StoreOptions := do
  let options ← gather "StoreOptions" names { StoreOptions.default with flushEveryMs := none }
    takeField j
  match j with
  | .object members =>
    match names.find? fun name => name ≠ "flush_every_ms" ∧ (members.lookup name).isNone with
    | some name => throw (.missing name)
    | none => return options
  | .array items =>
    if items.length < names.length then
      throw (.wrongLength items.length s!"struct StoreOptions with {names.length} elements")
    else return options
  | _ => return options

end StoreOptions

end DurableQueue
