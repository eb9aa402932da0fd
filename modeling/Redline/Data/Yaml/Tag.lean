import Redline.Number.Based
import Redline.Text.Wording

set_option autoImplicit false
set_option relaxedAutoImplicit false

/-!
Tags: the kinds of nodes. A plain scalar without a tag is a truth value, a number, a timestamp or
nothing if it is written like one, and else a text. One line feed may follow such a scalar.
-/

namespace Redline.Data.Yaml

open Number (baseDigit? isAsciiDigit)

/-- The kind of a node. -/
inductive Tag where
  | null
  | bool
  | int
  | real
  | binary
  | timestamp
  | text
  | list
  | map
  | set
  /-- A list of pairs that are written as maps. -/
  | pairs
  /-- The key whose value is merged into the map. -/
  | merge
  /-- The key whose value stands for the map. -/
  | value
  | other
  deriving Repr, DecidableEq

namespace Tag

def standardStart : Text := "tag:yaml.org,2002:"

def standard : List (Text × Tag) := [
  ("null", .null), ("bool", .bool), ("int", .int), ("float", .real), ("binary", .binary),
  ("timestamp", .timestamp), ("str", .text), ("seq", .list), ("map", .map), ("set", .set),
  ("omap", .pairs), ("pairs", .pairs), ("merge", .merge), ("value", .value)]

def ofText (t : Text) : Tag :=
  if Text.startsWith t standardStart then
    (standard.lookup (t.drop standardStart.length)).getD .other
  else .other

end Tag

def isDigitOrMark (c : Char) : Bool := isAsciiDigit c || c == '_'

def withoutSign (t : Text) : Text := (Number.signOf t).2

def isDigitRun : Text → Bool
  | [] => false
  | c :: t => isAsciiDigit c && t.all isDigitOrMark

def isBaseRun (base : Nat) (t : Text) : Bool :=
  !t.isEmpty && t.all fun c => (baseDigit? base c).isSome || c == '_'

/-- A place of a number in base sixty after the first: one digit, or two of which the first is small. -/
def isSixtieth : Text → Bool
  | [c] => isAsciiDigit c
  | [c, d] => isAsciiDigit c && decide (c ≤ '5') && isAsciiDigit d
  | _ => false

/-- Whether a text is places of a number in base sixty between colons, the first one at will. -/
def isSixtyRun (first : Text → Bool) (t : Text) : Bool :=
  match Text.splitAtEach (· == ':') t with
  | f :: p :: ps => first f && (p :: ps).all isSixtieth
  | _ => false

def isWhole : Text → Bool
  | '0' :: 'b' :: t => isBaseRun 2 t
  | '0' :: 'x' :: t => isBaseRun 16 t
  | ['0'] => true
  | '0' :: t => isBaseRun 8 t
  | t => isDigitRun t || isSixtyRun isDigitRun t

def isPower : Text → Bool
  | [] => true
  | e :: s :: t =>
    (e == 'e' || e == 'E') && (s == '+' || s == '-') && !t.isEmpty && t.all isAsciiDigit
  | _ => false

def isDecimal (t : Text) : Bool :=
  match t.span isDigitOrMark with
  | (whole, '.' :: r) => isDigitRun whole && isPower (r.dropWhile isDigitOrMark)
  | _ => false

def isFraction : Text → Bool
  | '.' :: t => isDigitRun (t.takeWhile isDigitOrMark) && isPower (t.dropWhile isDigitOrMark)
  | _ => false

/-- A number in base sixty with a point at its end, after which digits may follow. -/
def isSixtyDecimal (t : Text) : Bool :=
  match t.span (· != '.') with
  | (whole, '.' :: fraction) => isSixtyRun isDigitRun whole && fraction.all isDigitOrMark
  | _ => false

def infiniteWords : List Text := [".inf", ".Inf", ".INF"]

def undefinedWords : List Text := [".nan", ".NaN", ".NAN"]

def isReal (t : Text) : Bool :=
  let body := withoutSign t
  isDecimal body || isFraction t || isSixtyDecimal body || infiniteWords.elem body ||
    undefinedWords.elem t

/-- What a text is after so many characters, if these satisfy a condition. -/
def afterRun (least most : Nat) (p : Char → Bool) (t : Text) : Option Text :=
  let run := (t.take most).takeWhile p
  if least ≤ run.length then some (t.drop run.length) else none

def afterMark (mark : Char) : Text → Option Text
  | [] => none
  | c :: t => if c == mark then some t else none

/-- What a text is after a date whose month and day have at least so many digits. -/
def afterDate (least : Nat) (t : Text) : Option Text := do
  let t ← afterRun 4 4 isAsciiDigit t
  let t ← afterMark '-' t
  let t ← afterRun least 2 isAsciiDigit t
  let t ← afterMark '-' t
  afterRun least 2 isAsciiDigit t

/-- What a text is after the gap between a date and a time of day. -/
def afterTimeMark : Text → Option Text
  | [] => none
  | c :: t =>
    if c == 'T' || c == 't' then some t
    else if c == ' ' || c == '\t' then some (t.dropWhile fun d => d == ' ' || d == '\t')
    else none

/-- What a text is after a time of day down to the second. -/
def afterClock (t : Text) : Option Text := do
  let t ← afterRun 1 2 isAsciiDigit t
  let t ← afterMark ':' t
  let t ← afterRun 2 2 isAsciiDigit t
  let t ← afterMark ':' t
  afterRun 2 2 isAsciiDigit t

def afterSplit : Text → Text
  | '.' :: t => t.dropWhile isAsciiDigit
  | t => t

/-- Whether a text is an offset from universal time, which may be absent. -/
def isOffset (t : Text) : Bool :=
  t.isEmpty ||
    match t.dropWhile fun c => c == ' ' || c == '\t' with
    | ['Z'] => true
    | s :: r =>
      (s == '+' || s == '-') &&
        match afterRun 1 2 isAsciiDigit r with
        | some [] => true
        | some (':' :: m) => m.length == 2 && m.all isAsciiDigit
        | _ => false
    | [] => false

def isDateTime (t : Text) : Bool :=
  match (afterDate 1 t).bind fun r => (afterTimeMark r).bind afterClock with
  | some r => isOffset (afterSplit r)
  | none => false

def isDate (t : Text) : Bool := afterDate 2 t == some []

def trueWords : List Text :=
  ["yes", "Yes", "YES", "true", "True", "TRUE", "on", "On", "ON"]

def falseWords : List Text :=
  ["no", "No", "NO", "false", "False", "FALSE", "off", "Off", "OFF"]

def nullWords : List Text := ["", "~", "null", "Null", "NULL"]

def loneMarks : List Text := ["!", "&", "*"]

def Tag.ofLine (t : Text) : Tag :=
  if trueWords.elem t || falseWords.elem t then .bool
  else if isReal t then .real
  else if isWhole (withoutSign t) then .int
  else if t = ("<<" : Text) then .merge
  else if nullWords.elem t then .null
  else if isDate t || isDateTime t then .timestamp
  else if t = ("=" : Text) then .value
  else if loneMarks.elem t then .other
  else .text

def withoutLineFeed (t : Text) : Text :=
  if Text.endsWith t ['\n'] && t.length != 1 then t.dropLast else t

/-- The tag of a scalar that is plain or asks to be read as if it were. -/
def Tag.ofPlain : Wording → Tag
  | .text t => .ofLine (withoutLineFeed t)
  | .broken _ => .text

end Redline.Data.Yaml
