import Redline.Data.Atom

set_option autoImplicit false
set_option relaxedAutoImplicit false

/-!
The order in which a set lists numbers. A set keeps its members in slots: the place of a number
follows from its residue, and a number whose place is taken moves on to a later one. The members
are listed by their slots.
-/

namespace Redline.Data.Slots

def modulus : Nat := Nat.pow 2 61 - 1

def wordSize : Nat := Nat.pow 2 64

/-- A residue with a sign, as a word; minus one is not used. -/
def signedWord (negative : Bool) (n : Nat) : Nat :=
  if !negative then n else if n = 1 then wordSize - 2 else (wordSize - n) % wordSize

def dyadicResidue (d : Number.Dyadic) : Nat :=
  d.mantissa % modulus * Nat.pow 2 (d.exponent % 61).toNat % modulus

def infiniteResidue : Nat := 314159

/-- The word of a number; other values have none that is known. -/
def word? : Atom → Option Nat
  | .bool b => some (if b then 1 else 0)
  | .int n => some (signedWord (decide (n < 0)) (n.natAbs % modulus))
  | .real x =>
    if x.isNaN then none
    else
      let n := if x.isInf then infiniteResidue else dyadicResidue (Number.sizeOfFloat x)
      some (signedWord (Number.isNegative x) n)
  | _ => none

/-- The number of slots for so many members, given by its bound less one. -/
def lastSlot (members : Nat) : Nat :=
  if members < 5 then 7
  else (((List.range 64).map (Nat.pow 2)).find? fun size =>
    decide (8 ≤ size) && decide (2 * members < size)).getD wordSize - 1

def neighbours : Nat := 9

def stretch (last slot : Nat) : List Nat :=
  (List.range ((if slot + neighbours ≤ last then neighbours else 0) + 1)).map (slot + ·)

/-- The first free slot for a word; `moves` bounds how often it moves on. -/
def freeSlot (last : Nat) (taken : List Nat) : Nat → Nat → Nat → Nat
  | 0, slot, _ => slot
  | moves + 1, slot, rest =>
    match (stretch last slot).find? fun s => !taken.elem s with
    | some s => s
    | none =>
      let rest := rest / 32
      freeSlot last taken moves ((slot * 5 + 1 + rest) % (last + 1)) rest

/-- Members with their slots, each put in after those before it. -/
def place {α : Type} (last : Nat) (members : List (Nat × α)) : List (Nat × α) :=
  members.foldl (fun placed m =>
    let moves := 2 * (last + 1) + 64
    let slot := freeSlot last (placed.map Prod.fst) moves (m.1 % (last + 1)) m.1
    placed ++ [(slot, m.2)]) []

def order {α : Type} (members : List (Nat × α)) : List α :=
  ((place (lastSlot members.length) members).mergeSort fun a b => decide (a.1 ≤ b.1)).map Prod.snd

end Redline.Data.Slots
