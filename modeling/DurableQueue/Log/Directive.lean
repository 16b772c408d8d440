import DurableQueue.Event
import DurableQueue.Number.Decimal
import DurableQueue.Text.Alphanumeric
import DurableQueue.Text.Blank
import DurableQueue.Text.LowerCase

/-!
# Filter directives

A directive says up to which level events are shown, and from which modules: `target=level`, a level
by itself for all modules, or a target by itself for all its events. Directives in brackets are about
spans of time, of which there are none here. They may also name fields, in braces; what they say about
events with such fields is not modelled.
-/

namespace DurableQueue

/-- How much is shown: nothing, or the events up to some level. -/
inductive Verbosity where
  | off
  | upTo (level : Level)
  deriving DecidableEq, Repr

namespace Verbosity

/-- Is an event of this level shown? -/
def admits : Verbosity → Level → Bool
  | off, _ => false
  | upTo most, level => level.rank ≤ most.rank

/-- All verbosities by name, in order; the number of each is its place. -/
def all : List (String × Verbosity) := [
  ("off", off), ("error", upTo .error), ("warn", upTo .warn), ("info", upTo .info),
  ("debug", upTo .debug), ("trace", upTo .trace)]

/-- The verbosity with a number, or with a name in any case. The empty text stands for errors only. -/
def ofText? (text : List Char) : Option Verbosity :=
  match (readUnsigned? 64 text).bind fun n => all[n]? with
  | some (_, v) => some v
  | none => if text.isEmpty then some (upTo .error) else all.lookup (Text.asciiLower (String.ofList text))

end Verbosity

/-- A filter directive. -/
inductive Directive where
  /-- shows the events whose target begins with the given one, or all events if none is given -/
  | events (target : Option String) (verbosity : Verbosity)
  /-- shows nothing; the text is the whole directive -/
  | spans (text : String)
  deriving DecidableEq, Repr

namespace Directive

/-- May a directive begin with the character, if it is not about spans? -/
def canBegin (c : Char) : Bool := c == '-' || c == ':' || c == '_' || Text.isAlphanumeric c

/-- The level behind the equals sign; none at all stands for everything. -/
def readLevel (text : List Char) : Except DirectiveFault Verbosity :=
  if text.isEmpty then .ok (.upTo .trace)
  else match Verbosity.ofText? text with
    | some v => .ok v
    | none => .error .badLevel

/-- A text without an equals sign: a level, or else a target all of whose events are shown. -/
def levelOrTarget (text : List Char) : Directive :=
  match Verbosity.ofText? text with
  | some v => .events none v
  | none => .events (some (String.ofList text)) (.upTo .trace)

/-- What follows a span in brackets: nothing, or an equals sign and a level. What stands in the brackets
is not read. So a list of fields in braces is taken however it is written, as in `a[{]=info`, where it is
never closed. A directive about fields only, such as `t[{id}]=debug`, would be about events too; here it
shows nothing. -/
def readSpan (text : List Char) : (rest : List Char) → Except DirectiveFault Directive
  | [] => .error .malformed
  | ']' :: '=' :: level => do
    let _ ← readLevel level
    return .spans (String.ofList text)
  | ']' :: rest => if rest.isEmpty then .ok (.spans (String.ofList text)) else .error .malformed
  | _ :: rest => readSpan text rest

/-- Reads a directive. Blanks at its ends do not count where its parts are told apart, but stand in
the parts all the same. A comma can only be its last character. The parts are measured in characters.
Measured in bytes, they would end elsewhere if blanks stand in front and these or the name are not
ASCII. -/
def read (directive : String) : Except DirectiveFault Directive :=
  let text := directive.toList
  let trimmed := Text.trim text
  let inFront (c : Char) := c != '=' && c != '[' && c != ','
  let length := (trimmed.takeWhile inFront).length
  match trimmed, trimmed.dropWhile inFront with
  | [], _ => .error .malformed
  | '[' :: rest, _ => readSpan text rest
  | first :: _, rest =>
    if !canBegin first then .error .malformed
    else match rest with
      | [] => .ok (levelOrTarget text)
      | ',' :: after => if after.isEmpty then .ok (levelOrTarget text) else .error .malformed
      | '[' :: rest => readSpan text rest
      | _ :: level =>
        let target := some (String.ofList (text.take length))
        let given := text.drop (length + 1)
        match level.dropWhile (· != ',') with
        | [] => do return .events target (← readLevel given)
        | _ :: after => do
          let verbosity ← readLevel (given.take (level.takeWhile (· != ',')).length)
          if after.isEmpty then return .events target verbosity else throw .malformed

end Directive

end DurableQueue
