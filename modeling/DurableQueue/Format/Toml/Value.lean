import DurableQueue.Format.Toml.Moment
import DurableQueue.Named
import DurableQueue.Number.Binary64

/-!
# TOML values

Values of the format TOML 1.0, and the rules by which headers and dotted keys put them together. A
table remembers how it came to be, because that decides what may still be added to it: its own header
may come once, dotted keys extend only what dotted keys began, and an inline table is closed. A table
whose first key is `momentKey` stands for the date or time that is written there as a text.
-/

namespace DurableQueue.Format

/-- How a table came to be. -/
inductive TableKind where
  /-- by its own header -/
  | header
  /-- on the way to the table of some header -/
  | implied
  /-- by dotted keys -/
  | dotted
  deriving DecidableEq

/-- A TOML value. -/
inductive Toml where
  | text (s : String)
  | integer (n : Int)
  | float (x : Binary64)
  | boolean (b : Bool)
  /-- a date, a time or both, in their standard form -/
  | date (written : String)
  | array (items : List Toml)
  | inline (members : List (String × Toml))
  | table (kind : TableKind) (members : List (String × Toml))
  /-- an array of tables, each begun by a header, the last one first -/
  | tables (items : List (List (String × Toml)))

namespace Toml

/-- The members of a table, by key. -/
abbrev Members := Named Toml

/-- Adds the value of a dotted key; refused if the key has a value already, or if its path leads into
something that dotted keys cannot extend. -/
def addDotted (key : String) (v : Toml) : (path : List String) → Members → Option Members
  | [], ms => if (ms.lookup key).isSome then none else some (Named.put key v ms)
  | p :: path, ms =>
    match ms.lookup p with
    | none => (addDotted key v path []).map fun inner => Named.put p (.table .dotted inner) ms
    | some (.table kind inner) =>
      if kind = .header ∨ (path.isEmpty ∧ kind ≠ .dotted) then none
      else (addDotted key v path inner).map fun inner => Named.put p (.table kind inner) ms
    | some (.tables (last :: before)) =>
      if path.isEmpty then none
      else (addDotted key v path last).map fun last => Named.put p (.tables (last :: before)) ms
    | some _ => none

/-- Changes the table that a header's path leads to; in an array of tables that is the last one. -/
def within (change : Members → Option Members) : (path : List String) → Members → Option Members
  | [], ms => change ms
  | p :: path, ms =>
    match ms.lookup p with
    | none => (within change path []).map fun inner => Named.put p (.table .implied inner) ms
    | some (.table kind inner) =>
      (within change path inner).map fun inner => Named.put p (.table kind inner) ms
    | some (.tables (last :: before)) =>
      (within change path last).map fun last => Named.put p (.tables (last :: before)) ms
    | some _ => none

/-- Begins the table of a header; refused if it has been begun before. It comes last, whatever is in it
already. -/
def beginTable (key : String) (ms : Members) : Option Members :=
  match ms.lookup key with
  | none => some (Named.put key (.table .header []) ms)
  | some (.table .implied inner) =>
    some (Named.put key (.table .header inner) (ms.filter (·.1 ≠ key)))
  | some _ => none

/-- Begins the next table of an array of tables. -/
def beginNext (key : String) (ms : Members) : Option Members :=
  match ms.lookup key with
  | none => some (Named.put key (.tables [[]]) ms)
  | some (.tables items) => some (Named.put key (.tables ([] :: items)) ms)
  | some _ => none

/-- The key under which a table holds a date or time. -/
def momentKey : String := "$__toml_private_datetime"

/-- The value with a date or time in place of each table that stands for one, if they are all well
written. Arrays of tables come out as arrays, the first table first. -/
def settled? : Toml → Option Toml
  | .array items => (settledItems items).map .array
  | .inline members => settledTable .inline members
  | .table kind members => settledTable (.table kind) members
  | .tables items => (settledTables items).map fun items => .array items.reverse
  | v => some v
where
  /-- A table, put together again by `rebuild` if it is no date or time. -/
  settledTable (rebuild : Members → Toml) : List (String × Toml) → Option Toml
    | [] => some (rebuild [])
    | (key, v) :: members =>
      if key = momentKey then
        match v with
        | .text s => (momentOf? s).map .date
        | _ => none
      else do
        let v ← settled? v
        return rebuild ((key, v) :: (← settledMembers members))
  settledMembers : List (String × Toml) → Option Members
    | [] => some []
    | (key, v) :: members => do
      let v ← settled? v
      return (key, v) :: (← settledMembers members)
  settledItems : List Toml → Option (List Toml)
    | [] => some []
    | v :: items => do
      let v ← settled? v
      return v :: (← settledItems items)
  settledTables : List (List (String × Toml)) → Option (List Toml)
    | [] => some []
    | members :: items => do
      let v ← settledTable .inline members
      return v :: (← settledTables items)

end Toml

end DurableQueue.Format
