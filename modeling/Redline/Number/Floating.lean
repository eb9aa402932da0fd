import Redline.Number.Decimal

set_option autoImplicit false
set_option relaxedAutoImplicit false

/-!
Floating-point numbers as text. A float is first taken apart into the exact number
`mantissa * 2 ^ exponent`; all rounding then happens in whole numbers. The shortest text is the
one with the fewest digits that still reads back as the same float, and of those the nearest.
-/

namespace Redline.Number

/-- The size of a finite float: `mantissa * 2 ^ exponent`. -/
structure Dyadic where
  mantissa : Nat
  exponent : Int
  deriving Repr, DecidableEq

def floatBits (x : Float) : Nat := x.toBits.toNat

def isNegative (x : Float) : Bool := decide (Nat.pow 2 63 ≤ floatBits x)

def sizeOfFloat (x : Float) : Dyadic :=
  let field : Nat := floatBits x / Nat.pow 2 52 % 2048
  let fraction := floatBits x % Nat.pow 2 52
  if field = 0 then ⟨fraction, -1074⟩ else ⟨fraction + Nat.pow 2 52, (field : Int) - 1075⟩

def Dyadic.ratio (d : Dyadic) : Nat × Nat :=
  if 0 ≤ d.exponent then (d.mantissa * Nat.pow 2 d.exponent.toNat, 1)
  else (d.mantissa, Nat.pow 2 (-d.exponent).toNat)

/-- The quotient rounded to the nearest whole number; a half goes to the even neighbour. -/
def roundHalfEven (num den : Nat) : Nat :=
  let q := num / den
  let r := 2 * (num % den)
  if r < den then q else if den < r then q + 1 else if q % 2 = 0 then q else q + 1

/-- The whole part of a finite float, toward zero. -/
def truncate (x : Float) : Int :=
  let (num, den) := (sizeOfFloat x).ratio
  if isNegative x then -((num / den : Nat) : Int) else ((num / den : Nat) : Int)

/-- The text of a float that is not negative, with one digit after the point. -/
def oneDecimal (x : Float) : Text :=
  let (num, den) := (sizeOfFloat x).ratio
  let n := roundHalfEven (10 * num) den
  showNat (n / 10) ++ '.' :: [digitChar (n % 10)]

/-- The power of ten of the first digit of a positive ratio. -/
def leadingPower (num den : Nat) : Int :=
  if den ≤ num then (showNat (num / den)).length - 1
  else -(((List.range 400).find? fun t => decide (den ≤ num * Nat.pow 10 t)).getD 0 : Nat)

def inSteps (power : Int) (num den : Nat) : Nat × Nat :=
  if 0 ≤ power then (num, den * Nat.pow 10 power.toNat)
  else (num * Nat.pow 10 (-power).toNat, den)

/--
The nearest number with `count` digits, as a whole number of steps, when it lies between the
bounds within which every number reads back as the same float. All ratios share `den`.
-/
def nearestWithin (low mid high den : Nat) (closed : Bool) (power : Int) : Option Nat :=
  let fits (n : Nat) : Bool :=
    let (l, d) := inSteps power low den
    let (h, _) := inSteps power high den
    if closed then decide (l ≤ n * d) && decide (n * d ≤ h)
    else decide (l < n * d) && decide (n * d < h)
  let (m, d) := inSteps power mid den
  let near := roundHalfEven m d
  let far := if near * d ≤ m then near + 1 else near - 1
  if fits near then some near else if fits far then some far else none

def shortestDigits (x : Float) : Text × Int :=
  let size := sizeOfFloat x
  let boundary := size.mantissa == Nat.pow 2 52 && decide (-1074 < size.exponent)
  let (mid, den) := Dyadic.ratio ⟨4 * size.mantissa, size.exponent - 2⟩
  let (low, _) := Dyadic.ratio ⟨4 * size.mantissa - (if boundary then 1 else 2), size.exponent - 2⟩
  let (high, _) := Dyadic.ratio ⟨4 * size.mantissa + 2, size.exponent - 2⟩
  let lead := leadingPower mid den
  let found := (List.range 18).findSome? fun (count : Nat) =>
    let power := lead - (count : Int)
    (nearestWithin low mid high den (size.mantissa % 2 == 0) power).map fun n => (showNat n, power)
  match found with
  | none => (['0'], 1)
  | some (ds, power) =>
    ((ds.reverse.dropWhile (· == '0')).reverse, ds.length + power)

/-- Digits with a point: positional from `0.0001` up to sixteen digits, else with an exponent. -/
def placePoint (ds : Text) (point : Int) : Text :=
  if -4 < point && point ≤ 16 then
    if point ≤ 0 then "0." ++ List.replicate (-point).toNat '0' ++ ds
    else if (ds.length : Int) ≤ point then
      ds ++ List.replicate (point.toNat - ds.length) '0' ++ ".0"
    else ds.take point.toNat ++ '.' :: ds.drop point.toNat
  else
    let power := point - 1
    let digits := showNat power.natAbs
    let padded := if digits.length < 2 then '0' :: digits else digits
    let tail := if ds.length ≤ 1 then [] else '.' :: ds.drop 1
    ds.take 1 ++ tail ++ 'e' :: (if power < 0 then '-' else '+') :: padded

/-- The shortest text of a float; the names are those for values that are no number. -/
def showFloat (notANumber infinity : Text) (x : Float) : Text :=
  if x.isNaN then notANumber
  else
    let sign : Text := if isNegative x then ['-'] else []
    if x.isInf then sign ++ infinity
    else if (sizeOfFloat x).mantissa = 0 then sign ++ "0.0"
    else let (ds, point) := shortestDigits x; sign ++ placePoint ds point

def floatOfDecimal (negative : Bool) (digits : Nat) (power : Int) : Float :=
  let magnitude : Float :=
    if digits = 0 then 0
    else
      let places := (showNat digits).length + power
      if 400 < places then 1.0 / 0.0
      else if places < -400 then 0
      else if 0 ≤ power then Float.ofScientific digits false power.toNat
      else Float.ofScientific digits true (-power).toNat
  if negative then -magnitude else magnitude

end Redline.Number
