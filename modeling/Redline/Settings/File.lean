import Redline.Disk.Operations
import Redline.Settings.Basic

set_option autoImplicit false
set_option relaxedAutoImplicit false

/-!
The settings file: where it is looked for and what is made of it. How its bytes are read as a document is
up to a reader. A file that cannot be read, is malformed or holds no map counts as empty; any other fault
is passed on, also one in a value that is no setting.
-/

namespace Redline.Settings

open Data (Document)

def fileNames : List Text := [".udiff_writer.yaml", ".udiff_writer.yml"]

/-- The settings file: the given one, else one in the working directory, else one at home. -/
def findFile (disk : Disk.Tree) (here home : Text) (given : Option Text) : Option Text :=
  match given with
  | some (c :: t) => if disk.isFile (c :: t) then some (c :: t) else none
  | _ => ([here, home].flatMap fun dir => fileNames.map (Disk.joinPath dir)).find? disk.isFile

/-- What a reader makes of bytes. -/
inductive Reading where
  | document (d : Document)
  | malformed
  | fault (kind message : Text)

abbrev Reader := Text.Utf8.Bytes → Reading

/-- Why a settings file or its settings are refused. -/
inductive LoadFault where
  | document (kind message : Text)
  | settings (f : Fault)
  deriving Repr, DecidableEq

def LoadFault.kind : LoadFault → Text
  | .document kind _ => kind
  | .settings f => f.kind

def LoadFault.message : LoadFault → Text
  | .document _ message => message
  | .settings f => f.message

def mapOrEmpty (d : Document) : Document :=
  match d.part d.root with
  | .map _ => d
  | _ => .empty

def documentOfBytes (read : Reader) (b : Text.Utf8.Bytes) : Except LoadFault Document :=
  match read b with
  | .document d => .ok (mapOrEmpty d)
  | .malformed => .ok .empty
  | .fault kind message => .error (.document kind message)

def documentOfFile (read : Reader) (disk : Disk.Tree) (path : Text) :
    Except LoadFault Document :=
  match disk.readFile path with
  | .error _ => .ok .empty
  | .ok bytes => documentOfBytes read bytes

/-- The settings that hold for a disk, an environment and, possibly, a given settings file. -/
def load (read : Reader) (disk : Disk.Tree) (here home : Text) (environment : Environment)
    (given : Option Text) : Except LoadFault Settings :=
  let document :=
    match findFile disk here home given with
    | some path => documentOfFile read disk path
    | none => .ok .empty
  match document with
  | .error f => .error f
  | .ok file => (resolve ⟨environment, file⟩).mapError .settings

end Redline.Settings
