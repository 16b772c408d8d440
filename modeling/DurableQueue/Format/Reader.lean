/-!
# Readers

A reader takes a value from the front of a text and leaves the rest, or fails. These are the steps
that the readers of structured text are put together from.
-/

namespace DurableQueue.Format

/-- Reads a value from the front of a text. -/
abbrev Reader := StateT (List Char) Option

namespace Reader

/-- The text that is left. -/
def rest : Reader (List Char) := get

/-- The next character, left in place. -/
def peek? : Reader (Option Char) := do return (← get).head?

/-- The next character. -/
def char : Reader Char := fun
  | [] => none
  | c :: cs => some (c, cs)

/-- The next character, if it satisfies the test. -/
def satisfying (test : Char → Bool) : Reader Char := fun
  | [] => none
  | c :: cs => if test c then some (c, cs) else none

/-- The given text. -/
def exactly (text : String) : Reader Unit := fun cs =>
  if text.toList.isPrefixOf cs then some ((), cs.drop text.length) else none

/-- Takes the given text if it comes next, and says whether it did. -/
def ifNext (text : String) : Reader Bool := fun cs =>
  if text.toList.isPrefixOf cs then some (true, cs.drop text.length) else some (false, cs)

/-- The longest run of characters that satisfy the test. -/
def run (test : Char → Bool) : Reader (List Char) := fun cs =>
  some (cs.takeWhile test, cs.dropWhile test)

/-- A run of at least one character. -/
def run1 (test : Char → Bool) : Reader (List Char) := do
  let cs ← run test
  if cs.isEmpty then failure else return cs

/-- Succeeds at the end of the text only. -/
def atEnd : Reader Unit := fun cs => if cs.isEmpty then some ((), cs) else none

/-- The value of a whole text. -/
def whole (reader : Reader α) (cs : List Char) : Option α :=
  match reader cs with
  | some (a, []) => some a
  | _ => none

end Reader

end DurableQueue.Format
