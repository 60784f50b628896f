import RowBinding.Text.Shown
import RowBinding.Text.Basic
/-!
# Quoted text

Messages that show a value as data put its text in double quotes.  A backslash introduces every
character that would not be seen as itself: the quote, the backslash, the four blanks and the
null character with short names, the others by their number in hexadecimal.
-/
namespace RowBinding.Text

/-- A character given by its number. -/
def escapedByNumber (c : Char) : List Char :=
  ['\\', 'u', '\x7b'] ++ Nat.toDigits 16 c.toNat ++ ['\x7d']

/-- A character inside double quotes. -/
def escaped (c : Char) : List Char :=
  if c = '"' then ['\\', '"']
  else if c = '\\' then ['\\', '\\']
  else if c = '\n' then ['\\', 'n']
  else if c = '\r' then ['\\', 'r']
  else if c = '\t' then ['\\', 't']
  else if c = '\x00' then ['\\', '0']
  else if isShown c then [c]
  else escapedByNumber c

/-- A text in double quotes. -/
def quoted (text : String) : String :=
  String.ofList ('"' :: text.toList.flatMap escaped ++ ['"'])

end RowBinding.Text
