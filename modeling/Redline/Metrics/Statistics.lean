import Redline.Metrics.Journal
import Redline.Text.Reader

set_option autoImplicit false
set_option relaxedAutoImplicit false

/-!
Statistics over the last entries of the write log. Blank lines and lines that are not JSON are
passed over; an entry that is no object is a fault. Error kinds are counted and listed by falling
count, equal counts in the order in which the kinds first appear.
-/

namespace Redline.Metrics

open Data (Atom Value)

inductive Fault where
  /-- The write log is not text. -/
  | encoding (f : Text.Utf8.Fault)
  /-- A numeral in the write log is too long. -/
  | numeral (e : Number.ReadError)
  /-- An entry is a value of this kind and no object. -/
  | notObject (kind : Text)
  /-- An error kind is a value of this kind, which cannot be counted. -/
  | notCountable (kind : Text)
  deriving Repr, DecidableEq

def Fault.kind : Fault → Text
  | .encoding _ => "UnicodeDecodeError"
  | .numeral _ => "ValueError"
  | .notObject _ => "AttributeError"
  | .notCountable _ => "TypeError"

def Fault.message : Fault → Text
  | .encoding f => f.message
  | .numeral e => e.message
  | .notObject kind => '\'' :: kind ++ "' object has no attribute 'get'"
  | .notCountable kind => "unhashable type: '" ++ kind ++ "'"

/-- Lines of a write log without surrounding blanks; blank ones are left out. -/
def entryTexts (lines : List Line) : List Text :=
  (lines.map Text.trim).filter fun t => !t.isEmpty

/-- The entries that lines hold; lines that are not JSON hold none. -/
def readEntries : List Text → Except Fault (List Value)
  | [] => .ok []
  | t :: ts =>
    match Data.Json.read t with
    | .error .malformed => readEntries ts
    | .error (.numeral e) => .error (.numeral e)
    | .ok v => (readEntries ts).map (v :: ·)

/-- The last entries. No limit means all, a negative one leaves out so many from the front. -/
def window (last : Int) (entries : List Value) : List Value :=
  if 0 < last then entries.drop (entries.length - last.toNat) else entries.drop (-last).toNat

def members (v : Value) : Except Fault (List (Wording × Value)) :=
  match v with
  | .map es => .ok es
  | v => .error (.notObject v.kindName)

def member (key : Text) (es : List (Wording × Value)) : Value :=
  (es.lookup (.text key)).getD .null

def memberIn (key : Text) (texts : List Text) (es : List (Wording × Value)) : Bool :=
  match member key es with
  | .text t => texts.elem t
  | _ => false

/-- The kind under which an entry's error is counted. -/
def errorKind (es : List (Wording × Value)) : Value :=
  let kind := member "error_kind" es
  if kind.isTrue then kind else .text "other"

def countable (kind : Value) : Except Fault Atom :=
  match kind with
  | .atom a => .ok a
  | v => .error (.notCountable v.kindName)

/-- Counts one more of a kind, after the kinds that have been seen before. -/
def tallyOne (kind : Atom) : List (Atom × Nat) → List (Atom × Nat)
  | [] => [(kind, 1)]
  | (k, n) :: ts => if k.sameKey kind then (k, n + 1) :: ts else (k, n) :: tallyOne kind ts

/-- The counts of kinds, in the order in which the kinds first appear. -/
def tally (kinds : List Atom) : List (Atom × Nat) :=
  kinds.foldl (fun ts k => tallyOne k ts) []

/-- The counts by falling count; equal counts keep their order. -/
def ranked (ts : List (Atom × Nat)) : List (Atom × Nat) :=
  ts.mergeSort fun a b => decide (b.2 ≤ a.2)

/-- A count as a percentage of a total; of nothing, it is zero. -/
def rate (count total : Nat) : Float :=
  if total = 0 then 0 else count.toFloat / total.toFloat * 100

/-- What is said about a window of entries. The rates are percentages. -/
structure Statistics where
  total : Nat
  successRate : Float
  patchRate : Float
  omissionRate : Float
  rejectionRate : Float
  errorKinds : List (Atom × Nat)

def countEntries (entries : List (List (Wording × Value))) : Except Fault Statistics := do
  let kinds ← ((entries.filter (memberIn "status" ["error"])).map errorKind).mapM countable
  let share (counts : List (Wording × Value) → Bool) : Float :=
    rate (entries.countP counts) entries.length
  return {
    total := entries.length
    successRate := share (memberIn "status" ["success"])
    patchRate := share (memberIn "mode" ["udiff"])
    omissionRate := share fun es => (member "has_omission" es).isTrue
    rejectionRate := share (memberIn "status" ["rejected", "feedback"])
    errorKinds := ranked (tally kinds) }

def statisticsOf (last : Int) (entries : List Value) : Except Fault Statistics := do
  let objects ← (window last entries).mapM members
  countEntries objects

/-- The text of a project's write log and the fault that ends it; a missing one is empty. -/
def journalText (disk : Disk.Tree) (root : Text) : Text × Option Text.Utf8.Fault :=
  match disk.readFile (journalPath root) with
  | .error _ => ([], none)
  | .ok bytes => Text.Reader.readable bytes

/-- The entries of a project's write log. Lines that are complete before a fault are read first. -/
def entries (disk : Disk.Tree) (root : Text) : Except Fault (List Value) :=
  match journalText disk root with
  | (t, none) => readEntries (entryTexts (Text.lines t))
  | (t, some f) =>
    match readEntries (entryTexts (Text.lines t).dropLast) with
    | .error e => .error e
    | .ok _ => .error (.encoding f)

def statistics (disk : Disk.Tree) (root : Text) (last : Int) : Except Fault Statistics := do
  let entries ← entries disk root
  statisticsOf last entries

end Redline.Metrics
