import Redline.Data.Document
import Redline.Review.Surface

set_option autoImplicit false
set_option relaxedAutoImplicit false

/-!
Settings. Each one is taken from the environment if it is set there, else from the settings file if
it has a value there, else it has its default. Refused are an update interval that is no number and a
text that would hold a number too long to be written, and then a folder for logs whose name has no bytes.
-/

namespace Redline

open Data (Document Element Part Scalar)
open Review (Surface)

/-- How the program behaves. -/
structure Settings where
  /-- Whether repeated lines between hunks are dropped. -/
  dedupe : Bool
  /-- The least time between updates of the preview, in milliseconds. -/
  updateInterval : Int
  checkSyntax : Bool
  metrics : Bool
  logDirectory : Text
  surface : Surface
  /-- Phrases added to the vocabulary of the omission scan. -/
  extraPhrases : List Text
  deriving Repr, DecidableEq

namespace Settings

/-- The settings as their sources word them. A wording may have no bytes. -/
structure Choices where
  dedupe : Bool
  updateInterval : Int
  checkSyntax : Bool
  metrics : Bool
  logDirectory : Wording
  surface : Surface
  extraPhrases : List Wording
  deriving Repr, DecidableEq

def Choices.builtIn : Choices := ⟨true, 8, true, true, .text ".udiff_writer/logs", .console, []⟩

/-- Where a setting is looked up: the variable that holds it, and its key in the settings file. -/
structure Name where
  inEnvironment : Text
  inFile : Text
  deriving Repr, DecidableEq

namespace Name

def dedupe : Name := ⟨"UDIFF_DEDUPE_ON_RESYNC", "dedupe_on_resync"⟩

def updateInterval : Name := ⟨"UDIFF_UPDATE_INTERVAL_MS", "update_interval_ms"⟩

def checkSyntax : Name := ⟨"UDIFF_SYNTAX_CHECK", "syntax_check"⟩

def metrics : Name := ⟨"UDIFF_METRICS", "metrics"⟩

def logDirectory : Name := ⟨"UDIFF_LOG_DIR", "log_dir"⟩

def surface : Name := ⟨"UDIFF_REVIEW_UI", "review_ui"⟩

end Name

/-- Why settings are refused. -/
inductive Fault where
  /-- A text is no number. -/
  | numeral (e : Number.ReadError)
  /-- A value of this kind is no number. -/
  | notNumber (kind : Text)
  | infiniteNumber
  | undefinedNumber
  /-- The settings file holds a value of this kind where it should hold a map. -/
  | notMap (kind : Text)
  /-- A number is too long to be written. -/
  | longNumber
  /-- A wording has no bytes. -/
  | noBytes (units : List Nat)
  deriving Repr, DecidableEq

def Fault.kind : Fault → Text
  | .numeral _ => "ValueError"
  | .notNumber _ => "TypeError"
  | .infiniteNumber => "OverflowError"
  | .undefinedNumber => "ValueError"
  | .notMap _ => "AttributeError"
  | .longNumber => "ValueError"
  | .noBytes _ => "UnicodeEncodeError"

/-- The units of a wording that come first among those without bytes, and their position. -/
def firstHalves (units : List Nat) : Nat × List Nat :=
  let before := units.takeWhile fun n => !Text.isHalf n
  (before.length, (units.drop before.length).takeWhile Text.isHalf)

def noBytesMessage (units : List Nat) : Text :=
  let (position, halves) := firstHalves units
  let last := position + halves.length - 1
  let place : Text :=
    match halves with
    | [n] => "character '" ++ Text.quoteUnit '\'' n ++ "' in position " ++ Number.showNat position
    | _ => "characters in position " ++ Number.showNat position ++ '-' :: Number.showNat last
  "'utf-8' codec can't encode " ++ place ++ ": surrogates not allowed"

def Fault.message : Fault → Text
  | .numeral e => e.message
  | .notNumber kind =>
    "int() argument must be a string, a bytes-like object or a real number, not '" ++ kind ++ "'"
  | .infiniteNumber => "cannot convert float infinity to integer"
  | .undefinedNumber => "cannot convert float NaN to integer"
  | .notMap kind => '\'' :: kind ++ "' object has no attribute 'get'"
  | .longNumber => Number.longMessage
  | .noBytes units => noBytesMessage units

abbrev Environment := List (Text × Text)

/-- The sources of settings, apart from the defaults. -/
structure Sources where
  environment : Environment
  file : Document

/-- The part of the settings file under a key; an absent one and nothing are the same. -/
def Sources.inFile (s : Sources) (key : Text) : Except Fault (Option Nat) :=
  match s.file.part s.file.root with
  | .map _ =>
    .ok ((s.file.entry? s.file.root key).filter fun n =>
      match s.file.part n with
      | .single .null => false
      | _ => true)
  | p => if p.isTrue then .error (.notMap p.kindName) else .ok none

/-- The value of a setting: from a variable, else from the settings file, else the default. -/
def Sources.choose {α : Type} (s : Sources) (name : Name) (default : α)
    (ofVariable : Text → Except Fault α) (ofPart : Nat → Except Fault α) : Except Fault α :=
  match s.environment.lookup name.inEnvironment with
  | some t => ofVariable t
  | none =>
    match s.inFile name.inFile with
    | .error e => .error e
    | .ok (some n) => ofPart n
    | .ok none => .ok default

/-- A switch: a variable holds `true` in any case, a part counts as true or false. -/
def Sources.switch (s : Sources) (name : Name) (default : Bool) : Except Fault Bool :=
  s.choose name default (fun t => .ok (Text.lower t == ("true" : Text))) fun n =>
    .ok (s.file.part n).isTrue

def numberOfText (t : Text) : Except Fault Int := (Number.readInt t).mapError .numeral

def numberOfBytes (b : Text.Utf8.Bytes) : Except Fault Int :=
  let shown := Scalar.quotedBytes b
  if b.all fun x => decide (x.toNat < 0x80) then
    (Number.readIntAs (fun _ => shown) (b.map fun x => Char.ofNat x.toNat)).mapError .numeral
  else .error (.numeral (.malformed 10 shown))

def numberOfScalar : Scalar → Except Fault Int
  | .atom (.bool b) => .ok (if b then 1 else 0)
  | .atom (.int n) => .ok n
  | .atom (.real x) =>
    if x.isNaN then .error .undefinedNumber
    else if x.isInf then .error .infiniteNumber
    else .ok (Number.truncate x)
  | .atom (.text t) => numberOfText t
  | .atom (.broken units) => .error (.numeral (.malformed 10 (Text.quotedUnits units)))
  | .bytes b => numberOfBytes b
  | s => .error (.notNumber s.kindName)

def numberOfPart : Part → Except Fault Int
  | .single s => numberOfScalar s
  | p => .error (.notNumber p.kindName)

def Sources.number (s : Sources) (name : Name) (default : Int) : Except Fault Int :=
  s.choose name default numberOfText fun n => numberOfPart (s.file.part n)

def Sources.plain (s : Sources) (e : Element) : Except Fault Wording :=
  match s.file.plain? e with
  | some w => .ok w
  | none => .error .longNumber

def Sources.wording (s : Sources) (name : Name) (default : Wording) : Except Fault Wording :=
  s.choose name default (fun t => .ok (.text t)) fun n => s.plain (.part n)

def surfaceName : Surface → Text
  | .viewer => "textual"
  | .console => "console"
  | .unattended => "auto"

def surfaceOf? : Wording → Option Surface
  | .text name => [Surface.viewer, .console, .unattended].find? (surfaceName · == Text.lower name)
  | .broken _ => none

def Sources.surface (s : Sources) (default : Surface) : Except Fault Surface :=
  (s.wording .surface (.text (surfaceName default))).map fun w => (surfaceOf? w).getD default

/--
The elements of the settings file that are phrases; nothing if something else stands in the place of
their list.
-/
def Sources.listed? (s : Sources) : Except Fault (Option (List Element)) := do
  let section? ← s.inFile "omission"
  return match section?.bind fun n => s.file.entry? n "extra_phrases" with
    | some n => s.file.items? n
    | none => some []

/-- The phrases of the settings file in their plain form. -/
def Sources.phrases (s : Sources) (default : List Wording) : Except Fault (List Wording) := do
  match ← s.listed? with
  | some es => es.mapM s.plain
  | none => return default

def Sources.choices (s : Sources) (default : Choices) : Except Fault Choices := do
  let dedupe ← s.switch .dedupe default.dedupe
  let updateInterval ← s.number .updateInterval default.updateInterval
  let checkSyntax ← s.switch .checkSyntax default.checkSyntax
  let metrics ← s.switch .metrics default.metrics
  let logDirectory ← s.wording .logDirectory default.logDirectory
  let surface ← s.surface default.surface
  let extraPhrases ← s.phrases default.extraPhrases
  return { dedupe, updateInterval, checkSyntax, metrics, logDirectory, surface, extraPhrases }

def textOf : Wording → Except Fault Text
  | .text t => .ok t
  | .broken units => .error (.noBytes units)

/-- The text of a phrase; a broken wording is in no text that can be read, so it is left out. -/
def phraseText? : Wording → Option Text
  | .text t => some t
  | .broken _ => none

def Choices.settings (c : Choices) : Except Fault Settings := do
  let logDirectory ← textOf c.logDirectory
  return { dedupe := c.dedupe, updateInterval := c.updateInterval, checkSyntax := c.checkSyntax
           metrics := c.metrics, logDirectory, surface := c.surface
           extraPhrases := c.extraPhrases.filterMap phraseText? }

def resolve (s : Sources) : Except Fault Settings := do
  let choices ← s.choices .builtIn
  choices.settings

end Settings

end Redline
