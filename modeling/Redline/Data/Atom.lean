import Redline.Number.Floating
import Redline.Text.Wording

set_option autoImplicit false
set_option relaxedAutoImplicit false

/-!
Values without parts. A value has a plain form, used where a text is wanted, and an inner form, used
inside lists and maps. Numbers of different kinds may be the same key.
-/

namespace Redline.Data

/-- A value without parts. -/
inductive Atom where
  | null
  | bool (b : Bool)
  | int (n : Int)
  | real (x : Float)
  | text (t : Text)
  /-- A wording that is no text. -/
  | broken (units : List Nat)
  deriving Inhabited

namespace Atom

def ofWording : Wording → Atom
  | .text t => .text t
  | .broken ns => .broken ns

/-- Empty, zero and absent values count as false. -/
def isTrue : Atom → Bool
  | .null => false
  | .bool b => b
  | .int n => n != 0
  | .real x => x != 0.0
  | .text t => !t.isEmpty
  | .broken ns => !ns.isEmpty

/-- The name that messages give to a value's kind. -/
def kindName : Atom → Text
  | .null => "NoneType"
  | .bool _ => "bool"
  | .int _ => "int"
  | .real _ => "float"
  | .text _ => "str"
  | .broken _ => "str"

def inner : Atom → Text
  | .null => "None"
  | .bool true => "True"
  | .bool false => "False"
  | .int n => Number.showInt n
  | .real x => Number.showFloat "nan" "inf" x
  | .text t => Text.quoted t
  | .broken ns => Text.quotedUnits ns

def plain : Atom → Wording
  | .text t => .text t
  | .broken ns => .broken ns
  | a => .text a.inner

/-- A number or truth value as a number, for comparing across kinds. -/
def number? : Atom → Option (Int ⊕ Float)
  | .bool b => some (.inl (if b then 1 else 0))
  | .int n => some (.inl n)
  | .real x => some (.inr x)
  | _ => none

def sameNumber (n : Int) (x : Float) : Bool :=
  !x.isNaN && !x.isInf && Number.truncate x == n && (x == x.floor)

def sameKey (a b : Atom) : Bool :=
  match a, b with
  | .null, .null => true
  | .text s, .text t => s == t
  | .broken m, .broken n => m == n
  | _, _ =>
    match a.number?, b.number? with
    | some (.inl m), some (.inl n) => m == n
    | some (.inr x), some (.inr y) => x == y || (x.isNaN && y.isNaN)
    | some (.inl m), some (.inr y) => sameNumber m y
    | some (.inr x), some (.inl n) => sameNumber n x
    | _, _ => false

end Atom

end Redline.Data
