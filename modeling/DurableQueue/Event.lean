import DurableQueue.Error

/-!
# Events

What queues, stores and settings tell about themselves. An event has a level, the module it comes
from, a message and named fields; whether and how it is shown is decided by the log that receives it.
-/

namespace DurableQueue

/-- How serious an event is, the most serious first. -/
inductive Level where
  | error | warn | info | debug | trace
  deriving DecidableEq, Repr

/-- The level by number: a filter at `n` lets the levels up to `n` pass. -/
def Level.rank : Level → Nat
  | error => 1
  | warn => 2
  | info => 3
  | debug => 4
  | trace => 5

/-- The level's name in log lines. -/
def Level.name : Level → String
  | error => "ERROR"
  | warn => "WARN"
  | info => "INFO"
  | debug => "DEBUG"
  | trace => "TRACE"

/-- The value of a field. -/
inductive FieldValue where
  | number (n : Nat)
  | text (s : String)
  deriving DecidableEq, Repr

/-- Something that happened. -/
inductive Event where
  | opened (location : String) (head tail length : UInt64)
  | zeroIdStored
  | enqueued (id : UInt64) (size : Nat)
  | dequeued (id : UInt64)
  | updated (id : UInt64) (size : Nat)
  | flushFailed (location : String) (error : StoreError)
  | closed (location : String) (head tail : UInt64)
  | closeFailed (error : QueueError)
  | dropped (location : String)
  | openRetried (path : String) (attempt : Nat) (delay : Nat)
  | noGlobalSettings (path : String)
  | settingsLoaded (workspace dataDir : String)
  deriving DecidableEq, Repr

namespace Event

/-- How serious the event is. -/
def level : Event → Level
  | opened .. | closed .. | dropped .. => .info
  | zeroIdStored | closeFailed .. | noGlobalSettings .. => .warn
  | flushFailed .. => .error
  | enqueued .. | dequeued .. | updated .. | openRetried .. | settingsLoaded .. => .debug

/-- The module the event comes from. -/
def target : Event → String
  | openRetried .. => "fifoq::store::persistence"
  | noGlobalSettings .. => "fifoq::config::sources::global_file"
  | settingsLoaded .. => "fifoq::config::facade"
  | _ => "fifoq::queue"

/-- The sentence that tells the event. -/
def message : Event → String
  | opened .. => "Queue opened"
  | zeroIdStored => "Store contains item ID 0, which the queue never assigns"
  | enqueued .. => "Enqueued item"
  | dequeued .. => "Dequeued item"
  | updated .. => "Updated item"
  | flushFailed .. => "Flush on close failed"
  | closed .. => "Queue closed"
  | closeFailed .. => "Closing before drop failed; erasing storage anyway"
  | dropped .. => "Queue dropped"
  | openRetried .. => "Store directory still locked; retrying open"
  | noGlobalSettings .. => "No global configuration file; using defaults"
  | settingsLoaded .. => "Configuration loaded"

/-- The named fields, in the order in which they are shown. -/
def fields : Event → List (String × FieldValue)
  | opened location head tail length =>
    [("location", .text location), ("head", .number head.toNat), ("tail", .number tail.toNat),
      ("length", .number length.toNat)]
  | zeroIdStored => []
  | enqueued id size => [("id", .number id.toNat), ("size", .number size)]
  | dequeued id => [("id", .number id.toNat)]
  | updated id size => [("id", .number id.toNat), ("size", .number size)]
  | flushFailed location error => [("location", .text location), ("error", .text error.message)]
  | closed location head tail =>
    [("location", .text location), ("head", .number head.toNat), ("tail", .number tail.toNat)]
  | closeFailed error => [("error", .text error.message)]
  | dropped location => [("location", .text location)]
  | openRetried path attempt delay =>
    [("path", .text path), ("attempt", .number attempt), ("delay_ms", .number delay)]
  | noGlobalSettings path => [("config_path", .text path)]
  | settingsLoaded workspace dataDir =>
    [("workspace_root", .text workspace), ("data_dir", .text dataDir)]

end Event

end DurableQueue
