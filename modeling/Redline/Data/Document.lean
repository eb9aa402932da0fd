import Redline.Data.Scalar
import Redline.Data.Value

set_option autoImplicit false
set_option relaxedAutoImplicit false

/-!
Documents: values whose parts may be shared and may contain themselves. The parts of a document are
numbered, and lists and maps refer to their parts by number. In its inner form a part that stands
inside itself is shown by three dots.
-/

namespace Redline.Data

inductive Part where
  | single (s : Scalar)
  | list (items : List Nat)
  | map (entries : List (Scalar × Nat))
  | set (members : List Scalar)
  /-- A list of pairs. -/
  | pairs (entries : List (Nat × Nat))
  deriving Inhabited

/-- A document: its parts by number, and the number of the whole. -/
structure Document where
  parts : Array Part
  root : Nat
  deriving Inhabited

/-- A value in a document: a part, or a pair in the list of pairs that a part is. -/
inductive Element where
  | part (n : Nat)
  | pair (n place : Nat)
  deriving Repr, DecidableEq

namespace Part

/-- Empty, zero and absent parts count as false. -/
def isTrue : Part → Bool
  | .single s => s.isTrue
  | .list ns => !ns.isEmpty
  | .map es => !es.isEmpty
  | .set ms => !ms.isEmpty
  | .pairs es => !es.isEmpty

def kindName : Part → Text
  | .single s => s.kindName
  | .list _ => "list"
  | .map _ => "dict"
  | .set _ => "set"
  | .pairs _ => "list"

end Part

namespace Document

def empty : Document := ⟨#[.map []], 0⟩

def part (d : Document) (n : Nat) : Part := (d.parts[n]?).getD (.single .null)

def entry? (d : Document) (n : Nat) (key : Text) : Option Nat :=
  match d.part n with
  | .map es => (es.find? fun e => e.1.sameKey (.atom (.text key))).map Prod.snd
  | _ => none

def items? (d : Document) (n : Nat) : Option (List Element) :=
  match d.part n with
  | .list ns => some (ns.map .part)
  | .pairs es => some ((List.range es.length).map (.pair n))
  | _ => none

def enclosed (start : Text) (ts : List Text) (finish : Text) : Text :=
  start ++ Text.joinWith ", " ts ++ finish

/-- The inner form of a pair, given that of parts inside some elements. -/
def pairInner? (show? : List Element → Nat → Option Text) (inside : List Element) (n place : Nat)
    (entry : Nat × Nat) : Option Text :=
  let self := Element.pair n place
  if inside.elem self then some "(...)"
  else do
    let first ← show? (self :: inside) entry.1
    let second ← show? (self :: inside) entry.2
    return enclosed "(" [first, second] ")"

/--
The inner form of the part with a number, inside some elements; nothing if a number in it is too long.
The fuel bounds how deep parts stand in each other.
-/
def innerWithin? (d : Document) : Nat → List Element → Nat → Option Text
  | 0, _, _ => none
  | fuel + 1, inside, n =>
    let self := Element.part n
    let within := self :: inside
    match d.part n with
    | .single s => s.inner?
    | .list ns =>
      if inside.elem self then some "[...]"
      else (ns.mapM (innerWithin? d fuel within)).map fun ts => enclosed "[" ts "]"
    | .map es =>
      if inside.elem self then some "\x7b...\x7d"
      else
        (es.mapM fun (e : Scalar × Nat) => do
          let key ← e.1.inner?
          let value ← innerWithin? d fuel within e.2
          return key ++ ": " ++ value).map fun ts => enclosed "\x7b" ts "\x7d"
    | .set ms =>
      if ms.isEmpty then some "set()"
      else (ms.mapM Scalar.inner?).map fun ts => enclosed "\x7b" ts "\x7d"
    | .pairs es =>
      if inside.elem self then some "[...]"
      else
        (es.zipIdx.mapM fun e => pairInner? (innerWithin? d fuel) within n e.2 e.1).map
          fun ts => enclosed "[" ts "]"

/-- How deep parts can stand in each other before one stands in itself. -/
def depth (d : Document) : Nat := d.parts.size + 2

/-- The plain form of an element; nothing if a number in it is too long. -/
def plain? (d : Document) : Element → Option Wording
  | .part n =>
    match d.part n with
    | .single s => s.plain?
    | _ => (d.innerWithin? d.depth [] n).map .text
  | .pair n place =>
    match d.part n with
    | .pairs es =>
      (es[place]?).bind fun e => (pairInner? (d.innerWithin? d.depth) [] n place e).map .text
    | _ => none

mutual
/-- The parts with those of a value after them, and the number of the value's own. -/
def addValue (parts : Array Part) : Value → Array Part × Nat
  | .atom a => (parts.push (.single (.atom a)), parts.size)
  | .list vs =>
    let (parts, ns) := addItems parts vs
    (parts.push (.list ns), parts.size)
  | .map es =>
    let (parts, ns) := addEntries parts es
    (parts.push (.map ns), parts.size)

/-- The parts with those of a list's items, and the numbers of these. -/
def addItems (parts : Array Part) : List Value → Array Part × List Nat
  | [] => (parts, [])
  | v :: vs =>
    let (parts, n) := addValue parts v
    let (parts, ns) := addItems parts vs
    (parts, n :: ns)

/-- The parts with those of a map's values, and the map's entries. -/
def addEntries (parts : Array Part) : List (Wording × Value) → Array Part × List (Scalar × Nat)
  | [] => (parts, [])
  | (k, v) :: es =>
    let (parts, n) := addValue parts v
    let (parts, ns) := addEntries parts es
    (parts, (.atom (.ofWording k), n) :: ns)
end

def ofValue (v : Value) : Document :=
  let (parts, root) := addValue #[] v
  ⟨parts, root⟩

end Document

end Redline.Data
