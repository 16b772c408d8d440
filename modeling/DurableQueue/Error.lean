import DurableQueue.Payload.Value
import DurableQueue.Settings.Problem

/-!
# Errors

Why a call on a store or on a queue failed, and the sentence for each cause. `QueueError.isNotFound`
tells the two expected outcomes of a look-up apart from failures.
-/

namespace DurableQueue

/-- Why a call on a store failed. -/
inductive StoreError where
  | keyNotFound (key : String)
  | io (reason : String)
  deriving DecidableEq, Repr

/-- A store's error in words. -/
def StoreError.message : StoreError → String
  | keyNotFound key => "Key not found: " ++ key
  | io reason => "Storage I/O error: " ++ reason

/-- Why a payload is not of the type asked for. -/
inductive Incompatibility where
  | notText (fault : Utf8.Fault)
  | notValue (fault : Payload.Fault)
  /-- a reason given by the embedding program -/
  | reported (reason : String)
  deriving DecidableEq, Repr

/-- An incompatibility in words. -/
def Incompatibility.message : Incompatibility → String
  | notText fault => "Payload is not UTF-8: " ++ fault.message
  | notValue fault => fault.message
  | reported reason => reason

/-- Why a call on a queue failed. -/
inductive QueueError where
  | empty
  | outOfBounds (id head tail : UInt64)
  | keyDecode (length : Nat)
  | exhausted
  | closed
  | incompatible (reason : Incompatibility)
  | storage (error : StoreError)
  | settings (problem : SettingsProblem)
  deriving DecidableEq, Repr

namespace QueueError

/-- An error in words. -/
def message : QueueError → String
  | empty => "Queue is empty"
  | outOfBounds id head tail => s!"Item ID {id} is out of bounds (head: {head}, tail: {tail})"
  | keyDecode length => s!"Invalid key: expected 8 bytes, got {length}"
  | exhausted => "Queue ID space exhausted"
  | closed => "Queue is closed"
  | incompatible reason => "Incompatible item type: " ++ reason.message
  | storage error => "Storage error: " ++ error.message
  | settings problem => "Configuration error: " ++ problem.message

/-- Is it one of the expected outcomes of looking for an item? -/
def isNotFound : QueueError → Bool
  | empty | outOfBounds .. => true
  | _ => false

end QueueError

end DurableQueue
