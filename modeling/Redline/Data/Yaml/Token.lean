import Redline.Text.Wording

set_option autoImplicit false
set_option relaxedAutoImplicit false

/-!
The tokens of a document: its marks, labels and scalars in order, with the places where blocks begin
and end.
-/

namespace Redline.Data.Yaml

/-- A line that says how the document after it is to be read. -/
inductive Directive where
  /-- The version of the format. -/
  | version (major : Nat)
  /-- What a handle stands for at the start of tags. -/
  | handle (name start : Text)
  | other
  deriving Repr, DecidableEq

inductive Token where
  | directive (d : Directive)
  | documentStart
  | documentEnd
  | blockList
  | blockMap
  | blockEnd
  | listOpen
  | listClose
  | mapOpen
  | mapClose
  | comma
  | entry
  | key
  | value
  | alias (name : Text)
  | anchor (name : Text)
  /-- A tag: a handle, if there is one, and what follows it. -/
  | tag (handle : Option Text) (suffix : Text)
  | scalar (w : Wording) (isPlain : Bool)
  | streamEnd
  deriving Repr, DecidableEq

end Redline.Data.Yaml
