import Redline.Data.Calendar
import Redline.Text.Utf8

set_option autoImplicit false
set_option relaxedAutoImplicit false

/-!
Why a text gives no document. A text that breaks the rules of the format is malformed; the other
faults belong to a scalar or to the bytes of the text, and each has a message.
-/

namespace Redline.Data.Yaml

/-- Why a text gives no document. -/
inductive Fault where
  | malformed
  /-- Its bytes are no text. -/
  | encoding (f : Text.Utf8.Fault)
  /-- A whole number is not read. -/
  | numeral (e : Number.ReadError)
  /-- A float is not read; `shown` is its quoted form. -/
  | notReal (shown : Text)
  /-- A place of a float in base sixty is past all floats. -/
  | greatPlace
  /-- A number has no digits at all. -/
  | noDigits
  /-- A word, in its quoted form, is no truth value. -/
  | notTruth (shown : Text)
  | notTimestamp
  /-- A timestamp is wanted of a map. -/
  | timestampOfMap
  | calendar (f : CalendarFault)
  /-- An escape gives a number past the last character. -/
  | noCharacter
  /-- An escape gives a number past all that are looked at. -/
  | greatCharacter
  deriving Repr, DecidableEq

namespace Fault

def kind : Fault → Text
  | .malformed => "YAMLError"
  | .encoding _ => "UnicodeDecodeError"
  | .numeral _ => "ValueError"
  | .notReal _ => "ValueError"
  | .greatPlace => "OverflowError"
  | .noDigits => "IndexError"
  | .notTruth _ => "KeyError"
  | .notTimestamp => "AttributeError"
  | .timestampOfMap => "TypeError"
  | .calendar _ => "ValueError"
  | .noCharacter => "ValueError"
  | .greatCharacter => "OverflowError"

def message : Fault → Text
  | .malformed => "malformed document"
  | .encoding f => f.message
  | .numeral e => e.message
  | .notReal shown => "could not convert string to float: " ++ shown
  | .greatPlace => "int too large to convert to float"
  | .noDigits => "string index out of range"
  | .notTruth shown => shown
  | .notTimestamp => "'NoneType' object has no attribute 'groupdict'"
  | .timestampOfMap => "expected string or bytes-like object, got 'list'"
  | .calendar f => f.message
  | .noCharacter => "chr() arg not in range(0x110000)"
  | .greatCharacter => "Python int too large to convert to C int"

end Fault

end Redline.Data.Yaml
