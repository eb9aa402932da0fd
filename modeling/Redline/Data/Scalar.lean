import Redline.Data.Calendar
import Redline.Data.Slots
import Redline.Text.Utf8

set_option autoImplicit false
set_option relaxedAutoImplicit false

/-!
Scalars: the values without parts that a document may hold. Whole numbers have no written form once
they are too long for one.
-/

namespace Redline.Data

open Text.Utf8 (Bytes)

/-- A value without parts in a document. -/
inductive Scalar where
  | atom (a : Atom)
  | bytes (b : Bytes)
  | date (d : Date)
  | timestamp (t : Timestamp)
  deriving Inhabited

namespace Scalar

@[match_pattern] abbrev null : Scalar := .atom .null

@[match_pattern] abbrev broken (units : List Nat) : Scalar := .atom (.broken units)

/-- Empty, zero and absent values count as false. -/
def isTrue : Scalar → Bool
  | .atom a => a.isTrue
  | .bytes b => !b.isEmpty
  | .date _ => true
  | .timestamp _ => true

def kindName : Scalar → Text
  | .atom a => a.kindName
  | .bytes _ => "bytes"
  | .date _ => "datetime.date"
  | .timestamp _ => "datetime.datetime"

def quoteByte (mark : Char) (b : UInt8) : Text :=
  if b.toNat < 0x80 then Text.quoteChar mark (Char.ofNat b.toNat)
  else '\\' :: 'x' :: Text.hex 2 b.toNat

def quotedBytes (b : Bytes) : Text :=
  let mark := Text.quoteMark (b.map fun x => Char.ofNat x.toNat)
  'b' :: mark :: (b.flatMap (quoteByte mark) ++ [mark])

/-- The inner form of a scalar, unless it is a number that is too long. -/
def inner? : Scalar → Option Text
  | .atom (.int n) => if Number.isLong n then none else some (Number.showInt n)
  | .atom a => some a.inner
  | .bytes b => some (quotedBytes b)
  | .date d => some d.call
  | .timestamp t => some t.call

/-- The plain form of a scalar, unless it is a number that is too long. -/
def plain? : Scalar → Option Wording
  | .atom (.text t) => some (.text t)
  | .atom (.broken ns) => some (.broken ns)
  | .date d => some (.text d.text)
  | .timestamp t => some (.text t.text)
  | s => s.inner?.map .text

def sameKey : Scalar → Scalar → Bool
  | .atom a, .atom b => a.sameKey b
  | .bytes b, .bytes c => b == c
  | .date d, .date e => d == e
  | .timestamp s, .timestamp t => s.same t
  | _, _ => false

def insertEntry {α : Type} (key : Scalar) (value : α) : List (Scalar × α) → List (Scalar × α)
  | [] => [(key, value)]
  | (k, v) :: es =>
    if k.sameKey key then (k, value) :: es else (k, v) :: insertEntry key value es

def word? : Scalar → Option Nat
  | .atom a => Slots.word? a
  | _ => none

/-- Members of a set in the order in which it lists them: that of their slots for numbers. -/
def ordered (members : List Scalar) : List Scalar :=
  match members.mapM fun s => s.word?.map (·, s) with
  | some placed => Slots.order placed
  | none => members

end Scalar

end Redline.Data
