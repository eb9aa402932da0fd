import Redline.Number.Decimal

set_option autoImplicit false
set_option relaxedAutoImplicit false

/-!
Whole numbers in base two, eight or sixteen. Reading takes digits of any script, blanks around the
number, a sign, and a zero and a letter that name the base. There may be any number of digits.
-/

namespace Redline.Number

def withAsciiDigits (t : Text) : Text :=
  t.map fun c => match Text.digitValue? c with
    | some n => digitChar n
    | none => c

def isAsciiDigit (c : Char) : Bool := decide ('0' ≤ c) && decide (c ≤ '9')

def baseDigit? (base : Nat) (c : Char) : Option Nat :=
  let n :=
    if isAsciiDigit c then c.toNat - 48
    else if decide ('a' ≤ c) && decide (c ≤ 'f') then c.toNat - 87
    else if decide ('A' ≤ c) && decide (c ≤ 'F') then c.toNat - 55
    else 16
  if n < base then some n else none

/-- The number that the digits of a base write; other characters are passed over. -/
def baseValue (base : Nat) (t : Text) : Nat :=
  t.foldl (fun n c => match baseDigit? base c with | some d => n * base + d | none => n) 0

def baseLetters : Nat → Text
  | 2 => "bB"
  | 8 => "oO"
  | 16 => "xX"
  | _ => []

/-- A number without the zero and the letter that name its base. -/
def withoutBase (base : Nat) : Text → Text
  | '0' :: c :: t => if (baseLetters base).elem c then t else '0' :: c :: t
  | t => t

def readBased (base : Nat) (t : Text) : Except ReadError Int :=
  let (negative, body) := signOf ((withAsciiDigits t).dropWhile isNumberBlank)
  let (ds, rest) := (withoutBase base body).span fun c => (baseDigit? base c).isSome
  if ds.isEmpty || !rest.all isNumberBlank then .error (.malformed base (Text.quoted t))
  else .ok (if negative then -(baseValue base ds : Int) else baseValue base ds)

end Redline.Number
