import Redline.Data.Yaml.Fault
import Redline.Text.Reader

set_option autoImplicit false
set_option relaxedAutoImplicit false

/-!
The text of a document as far as it can be read. A file is read in portions, and each is looked
through for characters that may not stand in a document as soon as it is read; so a fault is met
only by what reaches as far as its portion.
-/

namespace Redline.Data.Yaml

/-- The text of a document as far as it can be read, and the fault that ends it, if one does. -/
structure Source where
  text : Text
  cut : Option Fault
  deriving Repr, DecidableEq

def isAllowed (c : Char) : Bool :=
  Text.inRanges [(0x09, 0x0A), (0x0D, 0x0D), (0x20, 0x7E), (0x85, 0x85), (0xA0, 0xD7FF),
    (0xE000, 0xFFFD), (0x10000, 0x10FFFF)] c.toNat

def checkPortion : Except Text.Utf8.Fault Text → Except Fault Text
  | .error f => .error (.encoding f)
  | .ok t => if t.all isAllowed then .ok t else .error .malformed

namespace Source

def ofPortions : List (Except Fault Text) → Source
  | [] => ⟨[], none⟩
  | .error f :: _ => ⟨[], some f⟩
  | .ok t :: ps => let s := ofPortions ps; ⟨t ++ s.text, s.cut⟩

def portionSize : Nat := 4096

/-- The source in a file. The first two portions are read before anything else is done. -/
def ofBytes (b : Text.Utf8.Bytes) : Source :=
  ofPortions <|
    match Text.Reader.portions portionSize b with
    | .ok t :: .ok u :: ps => checkPortion (.ok (t ++ u)) :: ps.map checkPortion
    | .ok _ :: .error f :: _ => [.error (.encoding f)]
    | ps => ps.map checkPortion

end Source

end Redline.Data.Yaml
