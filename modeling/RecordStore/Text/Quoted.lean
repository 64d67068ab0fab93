import RecordStore.Text.Printable

/-!
# Quoted text in messages

A message shows a text between double quotes, on one line and unambiguously: quotes and
backslashes are escaped, the commonest controls have short forms, and every other character that
cannot be shown on its own is given by its code point in hexadecimal.
-/

namespace RecordStore.Text

/-- How one character is shown between quotes. -/
def shownChar (c : Char) : List Char :=
  if c = '"' then ['\\', '"']
  else if c = '\\' then ['\\', '\\']
  else if c = '\x00' then ['\\', '0']
  else if c = '\t' then ['\\', 't']
  else if c = '\n' then ['\\', 'n']
  else if c = '\r' then ['\\', 'r']
  else if isPrintable c then [c]
  else ['\\', 'u', '\x7b'] ++ Nat.toDigits 16 c.toNat ++ ['\x7d']

/-- The text as a message shows it. -/
def quoted (s : String) : String :=
  String.ofList ('"' :: s.toList.flatMap shownChar ++ ['"'])

end RecordStore.Text
