import Redline.Disk.Operations
import Redline.Write.Failure

set_option autoImplicit false
set_option relaxedAutoImplicit false

/-!
The store: files as text below a root. A file is written beside its place first and then moved
there, so a write that fails leaves the file as it was.
-/

namespace Redline.Write

/-- A store, known by its absolute root. -/
structure Store where
  root : Text
  /-- How many calls may nest when directories are made. -/
  room : Nat
  deriving Repr, DecidableEq

def besideSuffix : Text := ".udiff_tmp"

/-- Writes content beside a path and moves it there. The disk is the one after the last step. -/
def settle (disk : Disk.Tree) (beside path : Text) (content : Text.Utf8.Bytes) :
    Except Disk.Failure Unit × Disk.Tree :=
  match disk.writeFile beside content with
  | .error e => (.error e, disk)
  | .ok written =>
    match written.moveFile beside path with
    | .error e => (.error e, written)
    | .ok moved => (.ok (), moved)

def discard (disk : Disk.Tree) (path : Text) : Disk.Tree :=
  match disk.removeFile path with
  | .error _ => disk
  | .ok disk => disk

namespace Store

def resolve (s : Store) (path : Text) : Text := Disk.joinPath s.root path

def beside (s : Store) (path : Text) : Text := s.resolve path ++ besideSuffix

def has (s : Store) (disk : Disk.Tree) (path : Text) : Bool := disk.isFile (s.resolve path)

def read (s : Store) (disk : Disk.Tree) (path : Text) : Except Failure Text :=
  match disk.readFile (s.resolve path) with
  | .error e => .error (.disk e)
  | .ok bytes => (Text.Utf8.decode bytes).mapError .encoding

/-- Writes a file whose directory is there; after a refusal by the system nothing stays beside. -/
def writeBeside (s : Store) (disk : Disk.Tree) (path content : Text) :
    Except Disk.Failure Unit × Disk.Tree :=
  match settle disk (s.beside path) (s.resolve path) (Text.Utf8.encode content) with
  | (.ok (), disk) => (.ok (), disk)
  | (.error e, disk) => (.error e, if e.isSystem then discard disk (s.beside path) else disk)

def write (s : Store) (disk : Disk.Tree) (path content : Text) :
    Except Disk.Failure Unit × Disk.Tree :=
  match disk.makeDirectories s.room (Disk.parentPath (s.resolve path)) with
  | (.error e, disk) => (.error e, disk)
  | (.ok (), disk) => s.writeBeside disk path content

def remove (s : Store) (disk : Disk.Tree) (path : Text) : Except Disk.Failure Disk.Tree :=
  disk.removeFile (s.resolve path)

end Store

end Redline.Write
