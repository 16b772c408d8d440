import DurableQueue.Format.Reader
import DurableQueue.Number.Decimal

/-!
# Addresses of settings

An address names a place in a tree of settings: `a.b` is the member `b` of the member `a`, and `x[0]`
the first item of `x`. A key that does not read as an address names a member by itself.
-/

namespace DurableQueue

/-- A step from a node to one of its parts. -/
inductive Step where
  | name (name : String)
  | index (position : Int)
  deriving DecidableEq, Repr

/-- The steps from the root to a place. -/
abbrev Address := List Step

namespace Address

open Format Format.Reader

/-- May the character stand in a name? -/
def isNameChar (c : Char) : Bool := c.isAlphanum || c == '_' || c == '-' || c == ' '

/-- A name. -/
def nameStep : Reader Step := do return .name (String.ofList (← run1 isNameChar))

/-- The position behind an opening bracket, and the closing one. -/
def indexStep : Reader Step := do
  let blank (c : Char) := c == ' ' || c == '\t'
  let _ ← run blank
  let minus ← ifNext "-"
  let digits ← run1 Char.isDigit
  let _ ← run blank
  exactly "]"
  match readInt64? (if minus then '-' :: digits else digits) with
  | some n => return .index n
  | none => failure

/-- The steps behind the first one. -/
def furtherSteps : Nat → Reader Address
  | 0 => failure
  | fuel + 1 => do
    if ← ifNext "." then return (← nameStep) :: (← furtherSteps fuel)
    else if ← ifNext "[" then return (← indexStep) :: (← furtherSteps fuel)
    else
      atEnd
      return []

/-- Reads an address. -/
def read? (key : String) : Option Address :=
  whole (do return (← nameStep) :: (← furtherSteps (key.length + 1))) key.toList

/-- The place that a key stands for. -/
def ofKey (key : String) : Address := (read? key).getD [.name key]

/-- An address in words. A point stands between a name and what follows it, unless that is empty or
begins with a bracket. -/
def text : Address → String
  | [] => ""
  | .index position :: rest => "[" ++ toString position ++ "]" ++ text rest
  | .name name :: rest =>
    let after := text rest
    if after = "" ∨ after.toList.head? = some '[' then name ++ after else name ++ "." ++ after

end Address

end DurableQueue
