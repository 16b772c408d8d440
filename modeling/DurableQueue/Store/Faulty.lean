import DurableQueue.Store.Ordered

/-!
# A store with faults

A table in which chosen calls fail before they do anything, and whose least or greatest key can be
hidden. It keeps the locations it was asked to destroy.
-/

namespace DurableQueue

/-- A fault that can be switched on. -/
inductive StoreFault where
  | put | delete | get | first | last | flush | destroy | hideFirst | hideLast
  deriving DecidableEq, Repr

/-- The fault's name. -/
def StoreFault.name : StoreFault → String
  | put => "put"
  | delete => "delete"
  | get => "get"
  | first => "first"
  | last => "last"
  | flush => "flush"
  | destroy => "destroy"
  | hideFirst => "hide_first"
  | hideLast => "hide_last"

/-- Every fault. -/
def StoreFault.all : List StoreFault :=
  [.put, .delete, .get, .first, .last, .flush, .destroy, .hideFirst, .hideLast]

/-- The fault with a name. -/
def StoreFault.ofName? (name : String) : Option StoreFault := all.find? (·.name == name)

/-- A table, the faults that are on, and the locations destroyed so far, last one first. -/
structure FaultyTable where
  table : Table
  faults : List StoreFault
  destroyed : List String

namespace FaultyTable

/-- An empty table without faults. -/
def empty : FaultyTable := ⟨.empty, [], []⟩

/-- Switches a fault on or off. -/
def switch (s : FaultyTable) (fault : StoreFault) (on : Bool) : FaultyTable :=
  let others := s.faults.filter (· ≠ fault)
  { s with faults := if on then fault :: others else others }

/-- Is the fault on? -/
def isOn (s : FaultyTable) (fault : StoreFault) : Bool := s.faults.contains fault

/-- A call that fails with no effect while its fault is on. -/
def guarded {α : Type} (s : FaultyTable) (fault : StoreFault) (call : α × FaultyTable) :
    Except StoreError α × FaultyTable :=
  if s.isOn fault then (.error (.io s!"injected {fault.name} failure"), s)
  else (.ok call.1, call.2)

end FaultyTable

instance : OrderedStore FaultyTable where
  get key s := s.guarded .get (s.table.get? key, s)
  put key value s := s.guarded .put ((), { s with table := s.table.insert key value })
  delete key s := s.guarded .delete ((), { s with table := s.table.erase key })
  firstKey s := s.guarded .first (if s.isOn .hideFirst then none else s.table.firstKey?, s)
  lastKey s := s.guarded .last (if s.isOn .hideLast then none else s.table.lastKey?, s)
  flush s := s.guarded .flush ((), s)
  destroy location s :=
    s.guarded .destroy ((), { s with table := .empty, destroyed := location :: s.destroyed })

end DurableQueue
