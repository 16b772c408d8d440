/-!
# Store options

How a store is opened, and how long an opening waits for another handle to let go of the directory.
-/

namespace DurableQueue

/-- How a store is opened. -/
structure StoreOptions where
  /-- size of the page cache in bytes -/
  cacheCapacity : UInt64
  /-- milliseconds between flushes in the background, if there are any -/
  flushEveryMs : Option UInt64
  /-- flush after every change -/
  syncWrites : Bool
  /-- how often opening is tried again while the directory is locked -/
  lockRetryAttempts : UInt32
  /-- the first pause between two tries, in milliseconds -/
  lockRetryDelayMs : UInt64
  deriving DecidableEq, Repr

/-- The options of a store opened without any. -/
def StoreOptions.default : StoreOptions := ⟨64 * 1024 * 1024, some 500, true, 40, 2⟩

end DurableQueue
