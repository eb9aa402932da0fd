import Redline.Text.Digit
import Redline.Text.Quoted

set_option autoImplicit false
set_option relaxedAutoImplicit false

/-!
Whole numbers as decimal text. Writing uses the ten ASCII digits without padding. Reading takes
digits of any script, a sign, blanks around the number and single underscores between digits, and
refuses numbers of more than 4300 digits.
-/

namespace Redline.Number

def digitChar (n : Nat) : Char := Char.ofNat (48 + n)

def showNat (n : Nat) : Text :=
  if n < 10 then [digitChar n] else showNat (n / 10) ++ [digitChar (n % 10)]

/-- The decimal text of an integer; only negative numbers carry a sign. -/
def showInt : Int → Text
  | .ofNat n => showNat n
  | .negSucc n => '-' :: showNat (n + 1)

def padded (width n : Nat) : Text :=
  List.replicate (width - (showNat n).length) '0' ++ showNat n

def maxDigits : Nat := 4300

def isLong (n : Int) : Bool := decide (Nat.pow 10 maxDigits ≤ n.natAbs)

/-- The message for a whole number that is too long to be written. -/
def longMessage : Text :=
  "Exceeds the limit (4300 digits) for integer string conversion; use " ++
    "sys.set_int_max_str_digits() to increase the limit"

/-- Why something is not read as a whole number. -/
inductive ReadError where
  /-- It is no number in this base; `shown` is its inner form. -/
  | malformed (base : Nat) (shown : Text)
  /-- The number has this many digits, which is more than are read. -/
  | tooLong (digits : Nat)
  deriving Repr, DecidableEq

def ReadError.message : ReadError → Text
  | .malformed base shown =>
    "invalid literal for int() with base " ++ showNat base ++ ": " ++ shown.take 200
  | .tooLong n =>
    "Exceeds the limit (4300 digits) for integer string conversion: value has " ++ showNat n ++
      " digits; use sys.set_int_max_str_digits() to increase the limit"

/-- The number of a run of digits, unless there are too many of them. -/
def ofDigits (ds : Text) : Except ReadError Nat :=
  if maxDigits < ds.length then .error (.tooLong ds.length) else .ok (Text.digitsValue ds)

/-- The blanks that may surround a number; the four separators of ASCII are not among them. -/
def isNumberBlank (c : Char) : Bool :=
  Text.isBlank c && !Text.inRanges [(0x1C, 0x1F)] c.toNat

/--
The digits at the start of a text and what follows them. Between two digits one underscore may
stand; any other underscore next to a digit makes the run unreadable.
-/
def digitRun : Text → Option (Text × Text)
  | [] => some ([], [])
  | '_' :: _ => none
  | c :: t =>
    if Text.isDigit c then
      match t with
      | '_' :: d :: r =>
        if Text.isDigit d then (digitRun (d :: r)).map fun p => (c :: p.1, p.2) else none
      | ['_'] => none
      | r => (digitRun r).map fun p => (c :: p.1, p.2)
    else some ([], c :: t)

def signOf : Text → Bool × Text
  | '-' :: t => (true, t)
  | '+' :: t => (false, t)
  | t => (false, t)

/--
Reads a whole number in base ten. The form in which a message shows what is read may differ from the
text itself.
-/
def readIntAs (shown : Text → Text) (t : Text) : Except ReadError Int :=
  let (negative, body) := signOf (t.dropWhile isNumberBlank)
  match digitRun body with
  | none => .error (.malformed 10 (shown t))
  | some (ds, rest) =>
    match ofDigits ds with
    | .error e => .error e
    | .ok n =>
      if ds.isEmpty || !rest.all isNumberBlank then .error (.malformed 10 (shown t))
      else .ok (if negative then -(n : Int) else n)

def readInt (t : Text) : Except ReadError Int := readIntAs Text.quoted t

end Redline.Number
