import Redline.Diff.Patch
import Redline.Log

set_option autoImplicit false
set_option relaxedAutoImplicit false

/-!
What a reader is told about a diff: the wording of its errors, the line that each error blames,
and the log records that parsing and applying leave behind.
-/

namespace Redline.Diff

open Number (showNat showInt)
open Text (quoted)

namespace ParseError

def message : ParseError → Text
  | .badHeader n _ => "Invalid hunk header at line " ++ showNat n
  | .longNumber digits => (Number.ReadError.tooLong digits).message

def lineNumber? : ParseError → Option Int
  | .badHeader n _ => some n
  | .longNumber _ => none

def line? : ParseError → Option Line
  | .badHeader _ l => some l
  | .longNumber _ => none

end ParseError

namespace PatchError

def message : PatchError → Text
  | .emptyHunk n => "Empty hunk at line " ++ showInt n
  | .anchorMissing n a =>
    "Resync target not found for hunk at line " ++ showInt n ++ ": " ++ quoted a
  | .strayLine _ l => "Invalid line in hunk: " ++ quoted l
  | .pastEnd n _ => "Hunk extends past end of original at diff line " ++ showInt n

def lineNumber : PatchError → Int
  | .emptyHunk n => n
  | .anchorMissing n _ => n
  | .strayLine n _ => n
  | .pastEnd n _ => n

def line : PatchError → Line
  | .emptyHunk _ => []
  | .anchorMissing _ a => a
  | .strayLine _ l => l
  | .pastEnd _ l => l

end PatchError

namespace ApplyError

/-- The kind of an error, as the log and the statistics name it. -/
def kind : ApplyError → Text
  | .parse (.longNumber _) => "ValueError"
  | .parse _ => "parse"
  | .patch _ => "patch"
  | .longNumber => "ValueError"

def message : ApplyError → Text
  | .parse e => e.message
  | .patch e => e.message
  | .longNumber => Number.longMessage

def lineNumber? : ApplyError → Option Int
  | .parse e => e.lineNumber?
  | .patch e => some e.lineNumber
  | .longNumber => none

def line? : ApplyError → Option Line
  | .parse e => e.line?
  | .patch e => some e.line
  | .longNumber => none

end ApplyError

namespace Attempt

def content : Attempt → Text
  | .applied c _ => c
  | .refused _ => []

def hunksApplied : Attempt → Nat
  | .applied _ n => n
  | .refused _ => 0

def error? : Attempt → Option ApplyError
  | .applied _ _ => none
  | .refused e => some e

end Attempt

def patchNote (message : Text) : Log.Record := ⟨.debug, .patches, "[Patch] " ++ message⟩

def copyNotes (dedupe : Bool) (last : Option Line) : List Line → List Log.Record
  | [] => []
  | l :: ls =>
    if dedupe && last == some l then
      patchNote ("Dropped duplicate line during resync: " ++ quoted l) :: copyNotes dedupe last ls
    else copyNotes dedupe (some l) ls

/-- The record of a source line that differs from the old line it stands for. -/
def mismatchNotes (lineNumber : Int) (cursor : Nat) (expected found : Line) : List Log.Record :=
  if expected = found then []
  else [patchNote ("Diff line " ++ showInt lineNumber ++ " does not match original line " ++
    showNat (cursor + 1) ++ ": " ++ quoted expected ++ " != " ++ quoted found)]

def replayNotes (lineNumber : Int) (cursor : Nat) : List Line → List BodyLine → List Log.Record
  | _, [] => []
  | rest, .add _ :: bs => replayNotes (lineNumber + 1) cursor rest bs
  | l :: rest, .delete t :: bs =>
    mismatchNotes lineNumber cursor t l ++ replayNotes (lineNumber + 1) (cursor + 1) rest bs
  | l :: rest, .keep t :: bs =>
    mismatchNotes lineNumber cursor t l ++ replayNotes (lineNumber + 1) (cursor + 1) rest bs
  | rest, .padding :: bs => replayNotes (lineNumber + 1) cursor rest bs
  | [], _ :: _ => []
  | _, .stray _ :: _ => []

/-- The record of a hunk that is found away from its declared start. -/
def placeNotes (h : Hunk) (place : Nat) : List Log.Record :=
  match anchor? (h.headerLine + 1) h.body with
  | .ok (some _) =>
    if (place : Int) = h.oldStart then []
    else [patchNote ("Hunk at line " ++ showInt h.headerLine ++ " resynced to original line " ++
      showNat (place + 1) ++ " (declared " ++ showInt (h.oldStart + 1) ++ ")")]
  | _ => []

def appliedNote (h : Hunk) : Log.Record :=
  patchNote ("Applied hunk at line " ++ showInt h.headerLine ++ " (+" ++ showNat h.additions ++
    "/-" ++ showNat h.deletions ++ ")")

/-- The records that applying hunks leaves, up to the first error if there is one. -/
def emitNotes (dedupe : Bool) (last : Option Line) (cursor : Nat) (rest : List Line) :
    List Hunk → List Log.Record
  | [] => []
  | h :: hs =>
    match h.locate cursor rest with
    | .error (.anchorMissing _ _) => copyNotes dedupe last rest
    | .error _ => []
    | .ok (before, here) =>
      let place := cursor + before.length
      let copies := copyLines dedupe last before
      let first := copyNotes dedupe last before ++ placeNotes h place ++
        replayNotes (h.headerLine + 1) place here h.body
      match replay (h.headerLine + 1) here h.body with
      | .error _ => first
      | .ok (out, left) =>
        first ++ appliedNote h :: emitNotes dedupe (lastAfter last (copies ++ out))
          (cursor + (rest.length - left.length)) left hs

def hunkNotes (dedupe : Bool) (old : Text) (hunks : List Hunk) : List Log.Record :=
  emitNotes dedupe none 0 old.lines hunks

def parseNotes (diff : Text) : List Log.Record :=
  match parse diff with
  | .ok hs => [⟨.debug, .hunks, "[Patch] Parsed " ++ showNat hs.length ++ " hunk(s)"⟩]
  | .error _ => []

def applyNotes (dedupe : Bool) (old : Text) (diff : Source) : List Log.Record :=
  let parsed :=
    match diff with
    | .text t => parseNotes t
    | .hunks _ => []
  match diff.toHunks with
  | .error _ => parsed
  | .ok hs => parsed ++ hunkNotes dedupe old hs

/-- The records of an attempt: those of applying, and a warning after a refusal. -/
def attemptNotes (dedupe : Bool) (old : Text) (diff : Source) : List Log.Record :=
  applyNotes dedupe old diff ++
    match attempt dedupe old diff with
    | .ok (.refused e) =>
      [⟨.warning, .patches, "[Patch] " ++ e.kind ++ " error: " ++ e.message⟩]
    | _ => []

end Redline.Diff
