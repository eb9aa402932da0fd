import Redline.Text.Basic

set_option autoImplicit false
set_option relaxedAutoImplicit false

/-!
Syntax trees as a parser returns them: each node says whether it is an error, stands for something
missing, or has an error below it. The search goes down only where an error is announced and
stops at the first one in the order of the text. It has room for so many calls in each other, and
fails where it would need more.
-/

namespace Redline.Syntax

/-- Why a check comes to no verdict. -/
inductive Fault where
  /-- The tree nests deeper than the search has room for. -/
  | tooDeep
  /-- The point of the fault is a number too long to be written. -/
  | longNumber
  deriving Repr, DecidableEq

/-- A node with its start point, counted from zero, and its children in order. -/
inductive Tree where
  | node (isError isMissing hasError : Bool) (row column : Int) (children : List Tree)
  deriving Inhabited

namespace Tree

def clean : Tree := .node false false false 0 0 []

def isFault : Tree → Bool
  | .node isError isMissing _ _ _ _ => isError || isMissing

def row : Tree → Int
  | .node _ _ _ r _ _ => r

def column : Tree → Int
  | .node _ _ _ _ c _ => c

mutual
/-- The first fault of a tree; where one is announced and none is found, the node itself. -/
def firstFault : Nat → Tree → Except Fault (Option Tree)
  | 0, _ => .error .tooDeep
  | room + 1, .node isError isMissing hasError r c children =>
    if isError || isMissing then .ok (some (.node isError isMissing hasError r c children))
    else if !hasError then .ok none
    else
      match firstFaultIn room children with
      | .error f => .error f
      | .ok none => .ok (some (.node isError isMissing hasError r c children))
      | .ok (some t) => .ok (some t)

def firstFaultIn : Nat → List Tree → Except Fault (Option Tree)
  | _, [] => .ok none
  | room, t :: ts =>
    match firstFault room t with
    | .error f => .error f
    | .ok none => firstFaultIn room ts
    | .ok (some n) => .ok (some n)
end

end Tree

end Redline.Syntax
