import Redline.Data.Value

set_option autoImplicit false
set_option relaxedAutoImplicit false

/-!
JSON. Writing uses ASCII only, a blank after each comma and colon, and the names `NaN` and
`Infinity` for floats that are no numbers. Reading accepts these names too, takes the last of
several equal keys, and refuses control characters inside strings. A numeral that is too long is
a fault of its own.
-/

namespace Redline.Data.Json

open Redline.Number (ReadError)

def escape4 (n : Nat) : Text := '\\' :: 'u' :: Text.hex 4 n

def writeChar (c : Char) : Text :=
  if c == '"' then ['\\', '"']
  else if c == '\\' then ['\\', '\\']
  else if c == '\n' then ['\\', 'n']
  else if c == '\r' then ['\\', 'r']
  else if c == '\t' then ['\\', 't']
  else if c.toNat = 8 then ['\\', 'b']
  else if c.toNat = 12 then ['\\', 'f']
  else if decide (0x20 ≤ c.toNat) && decide (c.toNat < 0x7F) then [c]
  else if c.toNat < 0x10000 then escape4 c.toNat
  else
    escape4 (0xD800 + (c.toNat - 0x10000) / 1024) ++ escape4 (0xDC00 + (c.toNat - 0x10000) % 1024)

def writeString (t : Text) : Text := '"' :: (Text.expand writeChar t ++ ['"'])

def writeUnit (n : Nat) : Text := if Text.isHalf n then escape4 n else writeChar (Char.ofNat n)

def writeWording : Wording → Text
  | .text t => writeString t
  | .broken ns => '"' :: (ns.flatMap writeUnit ++ ['"'])

def writeAtom : Atom → Text
  | .null => "null"
  | .bool true => "true"
  | .bool false => "false"
  | .int n => Number.showInt n
  | .real x => Number.showFloat "NaN" "Infinity" x
  | .text t => writeString t
  | .broken ns => writeWording (.broken ns)

mutual
def write : Value → Text
  | .atom a => writeAtom a
  | .list vs => '[' :: Text.joinWith ", " (writeItems vs) ++ "]"
  | .map es => '\x7b' :: Text.joinWith ", " (writeEntries es) ++ "\x7d"

def writeItems : List Value → List Text
  | [] => []
  | v :: vs => write v :: writeItems vs

def writeEntries : List (Wording × Value) → List Text
  | [] => []
  | (k, v) :: es => (writeWording k ++ ": " ++ write v) :: writeEntries es
end

/-- Why a text is not read. -/
inductive Fault where
  /-- It is not JSON. -/
  | malformed
  /-- A numeral has more digits than are read. -/
  | numeral (e : ReadError)
  deriving Repr, DecidableEq

def isSpace (c : Char) : Bool := c == ' ' || c == '\n' || c == '\r' || c == '\t'

def skip (t : Text) : Text := t.dropWhile isSpace

def hexValue? (c : Char) : Option Nat :=
  if decide ('0' ≤ c) && decide (c ≤ '9') then some (c.toNat - 48)
  else if decide ('a' ≤ c) && decide (c ≤ 'f') then some (c.toNat - 87)
  else if decide ('A' ≤ c) && decide (c ≤ 'F') then some (c.toNat - 55)
  else none

def hex4? (a b c d : Char) : Option Nat :=
  match hexValue? a, hexValue? b, hexValue? c, hexValue? d with
  | some w, some x, some y, some z => some (((w * 16 + x) * 16 + y) * 16 + z)
  | _, _, _, _ => none

def shortEscape? : Char → Option Char
  | '"' => some '"'
  | '\\' => some '\\'
  | '/' => some '/'
  | 'b' => some (Char.ofNat 8)
  | 'f' => some (Char.ofNat 12)
  | 'n' => some '\n'
  | 'r' => some '\r'
  | 't' => some '\t'
  | _ => none

/--
The code points of a string after its opening quote, up to the closing one, and the rest. Escaped
surrogates are still single units.
-/
def readUnits : Text → Option (List Nat × Text)
  | [] => none
  | '"' :: t => some ([], t)
  | '\\' :: 'u' :: a :: b :: c :: d :: t =>
    match hex4? a b c d with
    | none => none
    | some n => (readUnits t).map fun p => (n :: p.1, p.2)
  | '\\' :: e :: t =>
    match shortEscape? e with
    | none => none
    | some c => (readUnits t).map fun p => (c.toNat :: p.1, p.2)
  | c :: t =>
    if c.toNat < 0x20 then none else (readUnits t).map fun p => (c.toNat :: p.1, p.2)

/-- Joins pairs of surrogates; a surrogate that stands alone stays as it is. -/
def joinUnits : List Nat → List Nat
  | [] => []
  | [n] => [n]
  | m :: n :: ns =>
    if 0xD800 ≤ m ∧ m < 0xDC00 ∧ 0xDC00 ≤ n ∧ n < 0xE000 then
      (0x10000 + (m - 0xD800) * 1024 + (n - 0xDC00)) :: joinUnits ns
    else m :: joinUnits (n :: ns)

def readString (t : Text) : Except Fault (Wording × Text) :=
  match readUnits t with
  | none => .error .malformed
  | some (us, r) => .ok (.ofUnits (joinUnits us), r)

def isAsciiDigit (c : Char) : Bool := decide ('0' ≤ c) && decide (c ≤ '9')

def readExponent (t : Text) : Option (Int × Text) :=
  match t with
  | e :: r =>
    if e == 'e' || e == 'E' then
      let (negative, body) := Number.signOf r
      let ds := body.takeWhile isAsciiDigit
      if ds.isEmpty then none
      else
        let n : Int := Text.digitsValue ds
        some (if negative then -n else n, body.dropWhile isAsciiDigit)
    else none
  | [] => none

def readNumeral (negative : Bool) (t : Text) : Except Fault (Value × Text) :=
  let run := t.takeWhile isAsciiDigit
  let whole := if run.head? == some '0' then run.take 1 else run
  let r := t.drop whole.length
  let fraction : Text :=
    match r with
    | '.' :: s => s.takeWhile isAsciiDigit
    | _ => []
  let r' := if fraction.isEmpty then r else r.drop (fraction.length + 1)
  if whole.isEmpty then .error .malformed
  else match fraction.isEmpty, readExponent r' with
    | true, none =>
      match Number.ofDigits whole with
      | .error e => .error (.numeral e)
      | .ok n => .ok (.int (if negative then -(n : Int) else n), r')
    | _, power =>
      let (exponent, rest) := power.getD (0, r')
      .ok (.real (Number.floatOfDecimal negative (Text.digitsValue (whole ++ fraction))
        (exponent - (fraction.length : Int))), rest)

def readAtom (t : Text) : Except Fault (Value × Text) :=
  match t with
  | 'n' :: 'u' :: 'l' :: 'l' :: r => .ok (.null, r)
  | 't' :: 'r' :: 'u' :: 'e' :: r => .ok (.bool true, r)
  | 'f' :: 'a' :: 'l' :: 's' :: 'e' :: r => .ok (.bool false, r)
  | 'N' :: 'a' :: 'N' :: r => .ok (.real (0.0 / 0.0), r)
  | 'I' :: 'n' :: 'f' :: 'i' :: 'n' :: 'i' :: 't' :: 'y' :: r => .ok (.real (1.0 / 0.0), r)
  | '-' :: 'I' :: 'n' :: 'f' :: 'i' :: 'n' :: 'i' :: 't' :: 'y' :: r =>
    .ok (.real (-1.0 / 0.0), r)
  | '-' :: r => readNumeral true r
  | _ => readNumeral false t

mutual
/-- A value at the start of a text, and the rest. The fuel bounds the depth of calls. -/
def readValue : Nat → Text → Except Fault (Value × Text)
  | 0, _ => .error .malformed
  | fuel + 1, t =>
    match t with
    | '"' :: r => (readString r).map fun p => (.atom (.ofWording p.1), p.2)
    | '[' :: r =>
      match skip r with
      | ']' :: s => .ok (.list [], s)
      | s => (readItems fuel s).map fun p => (.list p.1, p.2)
    | '\x7b' :: r =>
      match skip r with
      | '\x7d' :: s => .ok (.map [], s)
      | s => (readMembers fuel [] s).map fun p => (.map p.1, p.2)
    | _ => readAtom t

/-- The items of a list from its first item on, and what follows the closing bracket. -/
def readItems : Nat → Text → Except Fault (List Value × Text)
  | 0, _ => .error .malformed
  | fuel + 1, t =>
    match readValue fuel t with
    | .error e => .error e
    | .ok (v, r) =>
      match skip r with
      | ']' :: s => .ok ([v], s)
      | ',' :: s => (readItems fuel (skip s)).map fun p => (v :: p.1, p.2)
      | _ => .error .malformed

/-- The members of an object from its first key on, added to those before. -/
def readMembers : Nat → List (Wording × Value) → Text →
    Except Fault (List (Wording × Value) × Text)
  | 0, _, _ => .error .malformed
  | fuel + 1, before, t =>
    match t with
    | '"' :: r =>
      match readString r with
      | .error e => .error e
      | .ok (k, s) =>
        match skip s with
        | ':' :: s =>
          match readValue fuel (skip s) with
          | .error e => .error e
          | .ok (v, s) =>
            let es := Value.insertEntry k v before
            match skip s with
            | '\x7d' :: s => .ok (es, s)
            | ',' :: s => readMembers fuel es (skip s)
            | _ => .error .malformed
        | _ => .error .malformed
    | _ => .error .malformed
end

def read (t : Text) : Except Fault Value :=
  match readValue (t.length + 1) (skip t) with
  | .error e => .error e
  | .ok (v, r) => if (skip r).isEmpty then .ok v else .error .malformed

end Redline.Data.Json
