import Redline.Log
import Redline.Number.Decimal
import Redline.Write.Failure

set_option autoImplicit false
set_option relaxedAutoImplicit false

/-!
The preview: what would become the text of a file. It is opened for a path, updated any number of
times, and then saved or reverted. The file itself is not touched before the preview is saved.
-/

namespace Redline.Write

structure Preview where
  /-- The path for which it is open. -/
  path : Option Text
  /-- The last update since it was opened. -/
  pending : Option Text
  /-- The number of updates, over all paths. -/
  updates : Nat
  deriving Repr, DecidableEq

namespace Preview

def empty : Preview := ⟨none, none, 0⟩

def isOpen (p : Preview) : Bool := p.path.isSome

def openFor (p : Preview) (path : Text) : Preview := ⟨some path, none, p.updates⟩

def close (p : Preview) : Preview := ⟨none, none, p.updates⟩

def update (p : Preview) (content : Text) : Except Failure Preview :=
  match p.path with
  | none => .error .previewClosed
  | some path => .ok ⟨some path, some content, p.updates + 1⟩

def toSave (p : Preview) : Except Failure (Text × Text) :=
  match p.path, p.pending with
  | some path, some content => .ok (path, content)
  | _, _ => .error .nothingToSave

end Preview

def previewNote (level : Log.Level) (message : Text) : Log.Record :=
  ⟨level, .workspace, "[WriteFile] " ++ message⟩

def openedNote (path : Text) : Log.Record := previewNote .debug ("Preview opened for " ++ path)

def updateNotes (p : Preview) (content : Text) (final : Bool) : List Log.Record :=
  match p.path with
  | some path =>
    if final then
      [previewNote .debug ("Final preview for " ++ path ++ " (" ++
        Number.showNat content.length ++ " chars)")]
    else []
  | none => []

def revertNotes (p : Preview) : List Log.Record :=
  match p.path with
  | some path => [previewNote .debug ("Reverted preview for " ++ path)]
  | none => []

def savedNote (path : Text) : Log.Record := previewNote .info ("Saved " ++ path)

end Redline.Write
