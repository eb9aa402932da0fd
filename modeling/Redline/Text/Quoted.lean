import Redline.Text.Printable

set_option autoImplicit false
set_option relaxedAutoImplicit false

/-!
The quoted form in which messages show a text: between single quotes, or between double quotes
when the text holds a single quote and no double one. Backslashes, the quote in use and
characters that do not print are escaped.
-/

namespace Redline.Text

def quoteMark (t : Text) : Char :=
  if t.elem '\'' && !t.elem '"' then '"' else '\''

def quoteChar (mark c : Char) : Text :=
  if c == mark || c == '\\' then ['\\', c]
  else if c == '\n' then ['\\', 'n']
  else if c == '\r' then ['\\', 'r']
  else if c == '\t' then ['\\', 't']
  else if isPrintable c then [c]
  else if c.toNat < 0x100 then '\\' :: 'x' :: hex 2 c.toNat
  else if c.toNat < 0x10000 then '\\' :: 'u' :: hex 4 c.toNat
  else '\\' :: 'U' :: hex 8 c.toNat

def quoted (t : Text) : Text :=
  quoteMark t :: (expand (quoteChar (quoteMark t)) t ++ [quoteMark t])

end Redline.Text
