import Redline.Number.Decimal

set_option autoImplicit false
set_option relaxedAutoImplicit false

/-!
UTF-8. Reading is strict: overlong forms, surrogates and values past the last code point are
refused. A fault names the bytes that were a proper start of a character and the reason.
-/

namespace Redline.Text.Utf8

abbrev Bytes := List UInt8

def encodeChar (c : Char) : Bytes :=
  let n := c.toNat
  if n < 0x80 then [UInt8.ofNat n]
  else if n < 0x800 then [UInt8.ofNat (0xC0 + n / 64), UInt8.ofNat (0x80 + n % 64)]
  else if n < 0x10000 then
    [UInt8.ofNat (0xE0 + n / 4096), UInt8.ofNat (0x80 + n / 64 % 64), UInt8.ofNat (0x80 + n % 64)]
  else
    [UInt8.ofNat (0xF0 + n / 262144), UInt8.ofNat (0x80 + n / 4096 % 64),
      UInt8.ofNat (0x80 + n / 64 % 64), UInt8.ofNat (0x80 + n % 64)]

def encode (t : Text) : Bytes := t.flatMap encodeChar

def size (t : Text) : Nat := (encode t).length

/-- Why bytes are no text. -/
inductive Reason where
  | startByte
  | continuationByte
  | endOfData
  deriving Repr, DecidableEq

def Reason.message : Reason → Text
  | .startByte => "invalid start byte"
  | .continuationByte => "invalid continuation byte"
  | .endOfData => "unexpected end of data"

/-- The first place where bytes stop being text. -/
structure Fault where
  reason : Reason
  /-- The first byte of the faulty sequence. -/
  byte : UInt8
  /-- Its position. -/
  position : Nat
  /-- How many bytes were a proper start. -/
  width : Nat
  deriving Repr, DecidableEq

def Fault.message (f : Fault) : Text :=
  let place : Text :=
    if f.width = 1 then
      "byte 0x" ++ hex 2 f.byte.toNat ++ " in position " ++ Number.showNat f.position
    else
      "bytes in position " ++ Number.showNat f.position ++ '-' ::
        Number.showNat (f.position + f.width - 1)
  "'utf-8' codec can't decode " ++ place ++ ": " ++ f.reason.message

/-- What a first byte announces: its own bits, the bytes that follow, and the second byte's range. -/
structure Lead where
  bits : Nat
  followers : Nat
  least : Nat
  greatest : Nat

/-- The announcement of a first byte beyond ASCII. -/
def leadOf? (b : UInt8) : Option Lead :=
  let n := b.toNat
  if n < 0xC2 then none
  else if n < 0xE0 then some ⟨n - 0xC0, 1, 0x80, 0xBF⟩
  else if n = 0xE0 then some ⟨0, 2, 0xA0, 0xBF⟩
  else if n = 0xED then some ⟨13, 2, 0x80, 0x9F⟩
  else if n < 0xF0 then some ⟨n - 0xE0, 2, 0x80, 0xBF⟩
  else if n = 0xF0 then some ⟨0, 3, 0x90, 0xBF⟩
  else if n < 0xF4 then some ⟨n - 0xF0, 3, 0x80, 0xBF⟩
  else if n = 0xF4 then some ⟨4, 3, 0x80, 0x8F⟩
  else none

def within (least greatest : Nat) (b : UInt8) : Bool :=
  decide (least ≤ b.toNat) && decide (b.toNat ≤ greatest)

/-- The value so far, extended by the six bits of a following byte. -/
def extendBits (n : Nat) (b : UInt8) : Nat := n * 64 + (b.toNat - 0x80)

/--
Reads bytes whose first one has the given position. Bytes may end inside a character; what has begun
of it is left over. A surrogate's first two bytes at the end count as begun.
-/
def decodeFrom (position : Nat) : Bytes → Except Fault (Text × Bytes)
  | [] => .ok ([], [])
  | a :: s =>
    if a.toNat < 0x80 then prepend (Char.ofNat a.toNat) (decodeFrom (position + 1) s)
    else match leadOf? a with
      | none => .error ⟨.startByte, a, position, 1⟩
      | some lead =>
        match s with
        | [] => .ok ([], [a])
        | b :: s =>
          if !within lead.least lead.greatest b then
            if a.toNat = 0xED ∧ within 0xA0 0xBF b ∧ s.isEmpty then .ok ([], [a, b])
            else .error ⟨.continuationByte, a, position, 1⟩
          else if lead.followers = 1 then
            prepend (Char.ofNat (extendBits lead.bits b)) (decodeFrom (position + 2) s)
          else match s with
            | [] => .ok ([], [a, b])
            | c :: s =>
              if !within 0x80 0xBF c then .error ⟨.continuationByte, a, position, 2⟩
              else if lead.followers = 2 then
                prepend (Char.ofNat (extendBits (extendBits lead.bits b) c))
                  (decodeFrom (position + 3) s)
              else match s with
                | [] => .ok ([], [a, b, c])
                | d :: s =>
                  if !within 0x80 0xBF d then .error ⟨.continuationByte, a, position, 3⟩
                  else
                    prepend (Char.ofNat (extendBits (extendBits (extendBits lead.bits b) c) d))
                      (decodeFrom (position + 4) s)
where
  /-- What is read, with one more character before it. -/
  prepend (c : Char) (r : Except Fault (Text × Bytes)) : Except Fault (Text × Bytes) :=
    r.map fun p => (c :: p.1, p.2)

/-- The fault of bytes that end inside a character, of which these have been left over. -/
def unfinished (position : Nat) (a : UInt8) (s : Bytes) : Fault :=
  if a.toNat = 0xED ∧ s.any (within 0xA0 0xBF) then ⟨.continuationByte, a, position, 1⟩
  else ⟨.endOfData, a, position, s.length + 1⟩

def decode (b : Bytes) : Except Fault Text :=
  match decodeFrom 0 b with
  | .error f => .error f
  | .ok (t, []) => .ok t
  | .ok (_, a :: s) => .error (unfinished (b.length - (s.length + 1)) a s)

end Redline.Text.Utf8
