import Redline.Data.Scalar
import Redline.Data.Yaml.Fault
import Redline.Data.Yaml.Tag
import Redline.Number.Real
import Redline.Text.Lower
import Redline.Text.Sextets

set_option autoImplicit false
set_option relaxedAutoImplicit false

/-!
The values of scalars under their tags. Numbers may hold underscores, which are left out; a leading
zero means base eight, and colons mean base sixty. A tag also admits wordings that a plain scalar of its
kind would not have.
-/

namespace Redline.Data.Yaml

open Number (readBased readFloat readInt)

def colonParts (t : Text) : List Text := Text.splitAtEach (· == ':') t

def wholeOf (r : Except Number.ReadError Int) : Except Fault Int := r.mapError .numeral

/-- A whole number without its sign and underscores. -/
def intOfDigits (t : Text) : Except Fault Int :=
  match t with
  | [] => .error .noDigits
  | ['0'] => .ok 0
  | '0' :: 'b' :: r => wholeOf (readBased 2 r)
  | '0' :: 'x' :: r => wholeOf (readBased 16 r)
  | '0' :: _ => wholeOf (readBased 8 t)
  | _ =>
    if t.elem ':' then do
      let places ← (colonParts t).mapM fun p => wholeOf (readInt p)
      return places.foldl (fun n p => n * 60 + p) 0
    else wholeOf (readInt t)

def intOf (t : Text) : Except Fault Int := do
  let bare := t.filter (· != '_')
  if bare.isEmpty then throw .noDigits
  let (negative, body) := Number.signOf bare
  let n ← intOfDigits body
  return if negative then -n else n

def realPart (t : Text) : Except Fault Float :=
  match readFloat t with
  | some x => .ok x
  | none => .error (.notReal (Text.quoted t))

/-- The sum of places in base sixty, the last one first, each with its weight. -/
def sumPlaces (sum : Float) (weight : Nat) : List Float → Except Fault Float
  | [] => .ok sum
  | x :: xs =>
    let w := Number.floatOfDecimal false weight 0
    if w.isInf then .error .greatPlace else sumPlaces (sum + x * w) (weight * 60) xs

/-- A float without its sign and underscores, in small letters. -/
def realOfDigits (t : Text) : Except Fault Float :=
  if t = (".inf" : Text) then .ok (1.0 / 0.0)
  else if t = (".nan" : Text) then .ok (0.0 / 0.0)
  else if t.elem ':' then do
    let places ← (colonParts t).mapM realPart
    sumPlaces 0.0 1 places.reverse
  else realPart t

def realOf (t : Text) : Except Fault Float := do
  let bare := Text.lower (t.filter (· != '_'))
  if bare.isEmpty then throw .noDigits
  let (negative, body) := Number.signOf bare
  let x ← realOfDigits body
  return if negative then -x else x

def smallTrueWords : List Text := ["yes", "true", "on"]

def smallFalseWords : List Text := ["no", "false", "off"]

def boolOf (t : Text) : Except Fault Bool :=
  let small := Text.lower t
  if smallTrueWords.elem small then .ok true
  else if smallFalseWords.elem small then .ok false
  else .error (.notTruth (Text.quoted small))

def dateAt (t : Text) : Option (Date × Text) := do
  let r ← afterDate 1 t
  match Text.splitAtEach (· == '-') (t.take (t.length - r.length)) with
  | [y, m, d] =>
    some (⟨Number.baseValue 10 y, Number.baseValue 10 m, Number.baseValue 10 d⟩, r)
  | _ => none

/-- The hour, minute and second at the start of a text that has them, and what follows them. -/
def clockAt (t : Text) : Option (List Nat × Text) := do
  let r ← afterClock t
  some ((colonParts (t.take (t.length - r.length))).map (Number.baseValue 10), r)

/-- The microseconds of a fraction of a second; further digits are left out. -/
def microOf (t : Text) : Nat :=
  match t with
  | '.' :: r =>
    let ds := (r.takeWhile Number.isAsciiDigit).take 6
    Number.baseValue 10 (ds ++ List.replicate (6 - ds.length) '0')
  | _ => 0

def offsetOf (t : Text) : Option Int :=
  match t.dropWhile isBlankOrTab with
  | [] => none
  | s :: r =>
    if s == 'Z' then some 0
    else
      let numbers := (colonParts r).map (Number.baseValue 10)
      let minutes : Int := (numbers.head?.getD 0 * 60 + (numbers[1]?).getD 0 : Nat)
      some (if s == '-' then -minutes else minutes)
where
  /-- A blank or a tab. -/
  isBlankOrTab (c : Char) : Bool := c == ' ' || c == '\t'

def momentOf? (t : Text) : Option (Date ⊕ Timestamp) := do
  let (date, r) ← dateAt t
  if r.isEmpty then return .inl date
  let (numbers, r) ← clockAt (← afterTimeMark r)
  match numbers with
  | [hour, minute, second] =>
    if isOffset (afterSplit r) then
      return .inr ⟨date, hour, minute, second, microOf r, offsetOf (afterSplit r)⟩
    else none
  | _ => none

def momentOf (t : Text) : Except Fault Scalar :=
  match momentOf? (withoutLineFeed t) with
  | none => .error .notTimestamp
  | some (.inl date) => (date.check.map Scalar.date).mapError .calendar
  | some (.inr moment) => (moment.check.map Scalar.timestamp).mapError .calendar

def bytesOf (t : Text) : Except Fault Scalar :=
  if t.all fun c => decide (c.toNat < 0x80) then
    match Text.Sextets.decode? t with
    | some b => .ok (.bytes b)
    | none => .error .malformed
  else .error .malformed

def valueOfText (tag : Tag) (t : Text) : Except Fault Scalar :=
  match tag with
  | .null => .ok .null
  | .bool => (boolOf t).map fun b => .atom (.bool b)
  | .int => (intOf t).map fun n => .atom (.int n)
  | .real => (realOf t).map fun x => .atom (.real x)
  | .binary => bytesOf t
  | .timestamp => momentOf t
  | .text => .ok (.atom (.text t))
  | _ => .error .malformed

/-- The quoted form in which a message shows units that are no number. -/
def shownUnits (units : List Nat) : Text :=
  match units.filter (· != '_'.toNat) with
  | n :: ns =>
    Text.quotedUnits (if n = '-'.toNat ∨ n = '+'.toNat then ns else n :: ns)
  | [] => Text.quotedUnits []

def valueOfBroken (tag : Tag) (units : List Nat) : Except Fault Scalar :=
  match tag with
  | .null => .ok .null
  | .bool => .error (.notTruth (Text.quotedUnits units))
  | .int => .error (.numeral (.malformed 10 (shownUnits units)))
  | .real => .error (.notReal (shownUnits units))
  | .timestamp => .error .notTimestamp
  | .text => .ok (.broken units)
  | _ => .error .malformed

def valueOf (tag : Tag) : Wording → Except Fault Scalar
  | .text t => valueOfText tag t
  | .broken units => valueOfBroken tag units

end Redline.Data.Yaml
