import Redline.Diff.Hunk

set_option autoImplicit false
set_option relaxedAutoImplicit false

/-!
Applying hunks to a text. A hunk is placed by content: the lines before its first source line are
copied until that line is met, and then its body is replayed. A hunk without source lines falls
back to its declared start. Each emitted line remembers where it came from.
-/

namespace Redline.Diff

inductive BodyLine where
  | add (line : Line)
  | delete (line : Line)
  | keep (line : Line)
  /-- An empty last line, left over from a final line feed. -/
  | padding
  /-- A line that begins with none of plus, minus and space. -/
  | stray (line : Line)
  deriving Repr, DecidableEq

namespace BodyLine

/-- The meaning of a body line. An empty line keeps an empty line, unless it is the last. -/
def ofLine (isLast : Bool) : Line → BodyLine
  | '+' :: t => .add t
  | '-' :: t => .delete t
  | ' ' :: t => .keep t
  | [] => if isLast then .padding else .keep []
  | l => .stray l

def ofLines : List Line → List BodyLine
  | [] => []
  | [l] => [ofLine true l]
  | l :: ls => ofLine false l :: ofLines ls

end BodyLine

def Hunk.body (h : Hunk) : List BodyLine := BodyLine.ofLines h.lines

/-- Why a hunk cannot be applied. Line numbers count the lines of the diff from one. -/
inductive PatchError where
  | emptyHunk (headerLine : Int)
  /-- No line from the current place on equals the hunk's first source line. -/
  | anchorMissing (headerLine : Int) (anchor : Line)
  | strayLine (lineNumber : Int) (line : Line)
  /-- A source line is asked for where the old text has ended. -/
  | pastEnd (lineNumber : Int) (expected : Line)
  deriving Repr, DecidableEq

def PatchError.told? : PatchError → Option Int
  | .emptyHunk n => some n
  | .anchorMissing n _ => some n
  | .strayLine _ _ => none
  | .pastEnd n _ => some n

/-- Whether the message of an error cannot be written, since its number is too long. -/
def PatchError.isLong (e : PatchError) : Bool := e.told?.any Number.isLong

def anchor? (lineNumber : Int) : List BodyLine → Except PatchError (Option Line)
  | [] => .ok none
  | .add _ :: bs => anchor? (lineNumber + 1) bs
  | .delete t :: _ => .ok (some t)
  | .keep t :: _ => .ok (some t)
  | .padding :: _ => .ok none
  | .stray l :: _ => .error (.strayLine lineNumber l)

/-- Where a hunk without source lines goes: a count of zero means after the declared line. -/
def Hunk.declaredPlace (h : Hunk) : Int :=
  h.oldStart + (if h.oldCount = 0 then 1 else 0)

/--
The old lines before a hunk and those from its place on, when `cursor` lines have been used
and `rest` are left.
-/
def Hunk.locate (h : Hunk) (cursor : Nat) (rest : List Line) :
    Except PatchError (List Line × List Line) :=
  if h.lines.isEmpty then .error (.emptyHunk h.headerLine)
  else
    match anchor? (h.headerLine + 1) h.body with
    | .error e => .error e
    | .ok none =>
      let place := max (cursor : Int) (min h.declaredPlace (cursor + rest.length : Nat))
      let ahead := (place - cursor).toNat
      .ok (rest.take ahead, rest.drop ahead)
    | .ok (some a) =>
      if a ∈ rest then .ok (rest.takeWhile (· != a), rest.dropWhile (· != a))
      else .error (.anchorMissing h.headerLine a)

/-- The lines that a body emits and the old lines that it leaves. -/
def replay (lineNumber : Int) : List Line → List BodyLine →
    Except PatchError (List Line × List Line)
  | rest, [] => .ok ([], rest)
  | rest, .add t :: bs => do
    let (out, left) ← replay (lineNumber + 1) rest bs
    return (t :: out, left)
  | [], .delete t :: _ => .error (.pastEnd lineNumber t)
  | _ :: rest, .delete _ :: bs => replay (lineNumber + 1) rest bs
  | [], .keep t :: _ => .error (.pastEnd lineNumber t)
  | _ :: rest, .keep t :: bs => do
    let (out, left) ← replay (lineNumber + 1) rest bs
    return (t :: out, left)
  | rest, .padding :: bs => replay (lineNumber + 1) rest bs
  | _, .stray l :: _ => .error (.strayLine lineNumber l)

/--
The lines to copy, given the line emitted last. With `dedupe`, a line equal to the last emitted
one is dropped.
-/
def copyLines (dedupe : Bool) (last : Option Line) : List Line → List Line
  | [] => []
  | l :: ls =>
    if dedupe && last == some l then copyLines dedupe last ls
    else l :: copyLines dedupe (some l) ls

def lastAfter (last : Option Line) (ls : List Line) : Option Line := ls.getLast?.or last

/-- Where an emitted line comes from. -/
inductive Origin where
  /-- Copied on the way to a hunk. -/
  | copied
  /-- Written by a hunk's body. -/
  | written
  /-- Left over after the last hunk. -/
  | leftOver
  deriving Repr, DecidableEq

structure Emitted where
  origin : Origin
  line : Line
  deriving Repr, DecidableEq

/-- The lines that hunks make of the rest of an old text. -/
def emit (dedupe : Bool) (last : Option Line) (cursor : Nat) (rest : List Line) :
    List Hunk → Except PatchError (List Emitted)
  | [] => .ok (rest.map (⟨.leftOver, ·⟩))
  | h :: hs => do
    let (before, here) ← h.locate cursor rest
    let (out, left) ← replay (h.headerLine + 1) here h.body
    let copies := copyLines dedupe last before
    let used := rest.length - left.length
    let more ← emit dedupe (lastAfter last (copies ++ out)) (cursor + used) left hs
    return copies.map (⟨.copied, ·⟩) ++ out.map (⟨.written, ·⟩) ++ more

def textOf (es : List Emitted) : Text := Text.unlines (es.map Emitted.line)

def applyHunks (dedupe : Bool) (old : Text) (hunks : List Hunk) : Except PatchError Text :=
  (emit dedupe none 0 old.lines hunks).map textOf

/-- Why a diff cannot be applied. -/
inductive ApplyError where
  | parse (e : ParseError)
  | patch (e : PatchError)
  /-- A hunk at hand does not apply, and the number of its line is too long to be written. -/
  | longNumber
  deriving Repr, DecidableEq

/-- A diff: a text to be parsed, or hunks at hand. -/
inductive Source where
  | text (t : Text)
  | hunks (hs : List Hunk)
  deriving Repr, DecidableEq

def Source.toHunks : Source → Except ParseError (List Hunk)
  | .text t => parse t
  | .hunks hs => .ok hs

/-- How an error is raised. Hunks at hand may name any lines; those of a text can be written. -/
def Source.raise : Source → PatchError → ApplyError
  | .text _, e => .patch e
  | .hunks _, e => if e.isLong then .longNumber else .patch e

def apply (dedupe : Bool) (old : Text) (diff : Source) : Except ApplyError Text :=
  match diff.toHunks with
  | .error e => .error (.parse e)
  | .ok hs => (applyHunks dedupe old hs).mapError diff.raise

/-- A finished attempt to apply a diff. -/
inductive Attempt where
  | applied (content : Text) (hunks : Nat)
  | refused (e : ApplyError)
  deriving Repr, DecidableEq

def ApplyError.isAboutDiff : ApplyError → Bool
  | .parse (.longNumber _) => false
  | .longNumber => false
  | _ => true

def ApplyError.report (e : ApplyError) : Except ApplyError Attempt :=
  if e.isAboutDiff then .ok (.refused e) else .error e

/-- Applies a diff and reports a refusal as a value; only a number that is too long is a failure. -/
def attempt (dedupe : Bool) (old : Text) (diff : Source) : Except ApplyError Attempt :=
  match diff.toHunks with
  | .error e => ApplyError.report (.parse e)
  | .ok hs =>
    match applyHunks dedupe old hs with
    | .error e => (diff.raise e).report
    | .ok content => .ok (.applied content hs.length)

end Redline.Diff
