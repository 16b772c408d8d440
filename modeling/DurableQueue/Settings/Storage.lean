import DurableQueue.Settings.Problem
import DurableQueue.Store.Options

/-!
# Storage settings

Where a queue is stored and how its store is opened, with the values that hold where nothing is set.
-/

namespace DurableQueue

/-- Where and how the store of a queue is opened. -/
structure StorageSettings where
  /-- the directory of the store -/
  dataDir : String
  /-- size of the page cache in bytes -/
  cacheCapacity : UInt64
  /-- milliseconds between flushes in the background; zero for none -/
  flushEveryMs : UInt64
  /-- flush after every change -/
  syncWrites : Bool
  deriving DecidableEq, Repr

namespace StorageSettings

/-- The settings of a store in a given directory, where nothing else is set. -/
def inDirectory (dataDir : String) : StorageSettings :=
  ⟨dataDir, StoreOptions.default.cacheCapacity, StoreOptions.default.flushEveryMs.getD 0, true⟩

/-- The settings where nothing is set. -/
def default : StorageSettings := inDirectory ".fifoq/queue"

/-- The options under which the store is opened. -/
def storeOptions (s : StorageSettings) : StoreOptions :=
  { StoreOptions.default with
    cacheCapacity := s.cacheCapacity
    flushEveryMs := if s.flushEveryMs = 0 then none else some s.flushEveryMs
    syncWrites := s.syncWrites }

/-- A relative directory is seen from `root`. -/
def resolvedAgainst (s : StorageSettings) (root : String) : StorageSettings :=
  { s with dataDir := Path.join root s.dataDir }

/-- What validation objects to first. -/
def objection? (s : StorageSettings) : Option Invalidity :=
  if s.dataDir = "" then some .emptyDataDir
  else if s.cacheCapacity = 0 then some .zeroCacheCapacity
  else none

end StorageSettings

end DurableQueue
