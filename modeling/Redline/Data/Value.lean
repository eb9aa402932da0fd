import Redline.Data.Atom

set_option autoImplicit false
set_option relaxedAutoImplicit false

/-!
Values as trees: atoms, lists, and maps whose keys are wordings. A map keeps its entries in the order of
their first keys.
-/

namespace Redline.Data

inductive Value where
  | atom (a : Atom)
  | list (items : List Value)
  | map (entries : List (Wording × Value))
  deriving Inhabited

namespace Value

@[match_pattern] abbrev null : Value := .atom .null

@[match_pattern] abbrev bool (b : Bool) : Value := .atom (.bool b)

@[match_pattern] abbrev int (n : Int) : Value := .atom (.int n)

@[match_pattern] abbrev real (x : Float) : Value := .atom (.real x)

@[match_pattern] abbrev text (t : Text) : Value := .atom (.text t)

/-- Empty, zero and absent values count as false. -/
def isTrue : Value → Bool
  | .atom a => a.isTrue
  | .list vs => !vs.isEmpty
  | .map es => !es.isEmpty

def kindName : Value → Text
  | .atom a => a.kindName
  | .list _ => "list"
  | .map _ => "dict"

def insertEntry (key : Wording) (value : Value) : List (Wording × Value) → List (Wording × Value)
  | [] => [(key, value)]
  | (k, v) :: es => if k = key then (k, value) :: es else (k, v) :: insertEntry key value es

end Value

end Redline.Data
