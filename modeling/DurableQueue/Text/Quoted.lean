import DurableQueue.Bytes
import DurableQueue.Text.Unprintable

/-!
# Quoted text

Texts inside messages stand between double quotes. A quote or backslash inside is written after a
backslash, the usual controls by their letter, and any other character that is not shown as itself
by its code point in braces.
-/

namespace DurableQueue.Text

/-- The digits of a number in base sixteen, without leading zeros. -/
def hexNumber (n : Nat) : List Char := (Nat.toDigits 16 n).map Char.toLower

/-- A character as it stands between the quotes. -/
def quotedChar (c : Char) : List Char :=
  if c = '"' then ['\\', '"']
  else if c = '\\' then ['\\', '\\']
  else if c = '\t' then ['\\', 't']
  else if c = '\r' then ['\\', 'r']
  else if c = '\n' then ['\\', 'n']
  else if c = '\x00' then ['\\', '0']
  else if isUnprintable c then ['\\', 'u', '\x7b'] ++ hexNumber c.toNat ++ ['\x7d']
  else [c]

/-- A text between quotes. -/
def quoted (text : String) : String :=
  String.ofList ('"' :: text.toList.flatMap quotedChar ++ ['"'])

end DurableQueue.Text
