import Redline.Number.Based
import Redline.Number.Floating

set_option autoImplicit false
set_option relaxedAutoImplicit false

/-!
Reading floats. A float may have blanks around it and a sign; it is a word for infinity or for no
number, or digits of any script with a point among them and an exponent after them.
-/

namespace Redline.Number

def trimNumber (t : Text) : Text :=
  ((t.dropWhile isNumberBlank).reverse.dropWhile isNumberBlank).reverse

/-- The exponent that ends a float; an absent one is zero. -/
def readExponent : Text → Option Int
  | [] => some 0
  | e :: t =>
    let (negative, ds) := signOf t
    if (e == 'e' || e == 'E') && !ds.isEmpty && ds.all isAsciiDigit then
      some (if negative then -(baseValue 10 ds : Int) else baseValue 10 ds)
    else none

def readDigits (t : Text) : Text × Text × Text :=
  match t.span isAsciiDigit with
  | (whole, '.' :: r) => (whole, r.span isAsciiDigit)
  | (whole, r) => (whole, [], r)

def readMagnitude (negative : Bool) (t : Text) : Option Float :=
  let small := t.map Char.toLower
  if small = ("inf" : Text) ∨ small = ("infinity" : Text) then
    some (if negative then -1.0 / 0.0 else 1.0 / 0.0)
  else if small = ("nan" : Text) then some (0.0 / 0.0)
  else
    let (whole, fraction, r) := readDigits t
    if whole.isEmpty && fraction.isEmpty then none
    else (readExponent r).map fun power =>
      floatOfDecimal negative (baseValue 10 (whole ++ fraction))
        (power - (fraction.length : Int))

def readFloat (t : Text) : Option Float :=
  let (negative, body) := signOf (withAsciiDigits (trimNumber t))
  readMagnitude negative body

end Redline.Number
