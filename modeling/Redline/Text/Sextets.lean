import Redline.Text.Utf8

set_option autoImplicit false
set_option relaxedAutoImplicit false

/-!
Bytes written in base 64. Four digits write three bytes. Characters that are no digits are passed
over; signs of padding end the text once they fill up a group of four, and only they may stand for
digits that are missing.
-/

namespace Redline.Text.Sextets

open Utf8 (Bytes)

def digits : Text := "ABCDEFGHIJKLMNOPQRSTUVWXYZabcdefghijklmnopqrstuvwxyz0123456789+/"

def value? (c : Char) : Option Nat := digits.idxOf? c

/-- Where reading stands inside a group. -/
structure State where
  /-- How many digits of the group have been read. -/
  place : Nat
  /-- The bits of the last digit that are not yet in a byte. -/
  bits : Nat
  /-- How many signs of padding stand after the last digit. -/
  pads : Nat

def State.digit (s : State) (n : Nat) : Option Nat × State :=
  match s.place with
  | 0 => (none, ⟨1, n, 0⟩)
  | 1 => (some (s.bits * 4 + n / 16), ⟨2, n % 16, 0⟩)
  | 2 => (some (s.bits * 16 + n / 4), ⟨3, n % 4, 0⟩)
  | _ => (some (s.bits * 64 + n), ⟨0, 0, 0⟩)

def decodeFrom (s : State) : Text → Option Bytes
  | [] => if s.place = 0 then some [] else none
  | c :: t =>
    if c == '=' then
      if s.place < 2 then decodeFrom s t
      else if 4 ≤ s.place + s.pads + 1 then some []
      else decodeFrom { s with pads := s.pads + 1 } t
    else match value? c with
      | none => decodeFrom s t
      | some n =>
        match s.digit n with
        | (none, s) => decodeFrom s t
        | (some b, s) => (decodeFrom s t).map (UInt8.ofNat b :: ·)

def decode? (t : Text) : Option Bytes := decodeFrom ⟨0, 0, 0⟩ t

end Redline.Text.Sextets
