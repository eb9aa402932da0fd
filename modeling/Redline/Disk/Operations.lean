import Redline.Disk.Tree

set_option autoImplicit false
set_option relaxedAutoImplicit false

/-!
Operations on a disk by path. Each one either does all of its work or fails without a trace,
except `makeDirectories`, which keeps the directories made before a failure.
-/

namespace Redline.Disk

open Text.Utf8 (Bytes)

namespace Tree

/-- Runs a look at a path's last step; a failure names the path. -/
def atTarget {α : Type} (d : Tree) (path : Text) (look : Target → Except Problem α) :
    Except Failure α :=
  if holdsNull path then .error .nullInPath
  else match d.target path with
    | .error e => .error (.system e path)
    | .ok t => (look t).mapError fun e => .system e path

def find? (d : Tree) (path : Text) : Option Node :=
  if holdsNull path then none
  else match d.target path with
    | .ok (.itself _) => some .directory
    | .ok (.named p name slash) =>
      match d.node? (name :: p) with
      | some (.file b) => if slash then none else some (.file b)
      | n => n
    | .error _ => none

def isFile (d : Tree) (path : Text) : Bool :=
  match d.find? path with
  | some (.file _) => true
  | _ => false

def isDirectory (d : Tree) (path : Text) : Bool := d.find? path == some .directory

def exists? (d : Tree) (path : Text) : Bool := (d.find? path).isSome

def readFile (d : Tree) (path : Text) : Except Failure Bytes :=
  d.atTarget path fun
    | .itself _ => .error .directory
    | .named p name slash =>
      match d.node? (name :: p) with
      | none => .error .missing
      | some .directory => .error .directory
      | some (.file b) => if slash then .error .notDirectory else .ok b

/-- The place of a file that may be written, and its content so far. -/
def writable (d : Tree) : Target → Except Problem (Place × Bytes)
  | .itself _ => .error .directory
  | .named p name slash =>
    if slash then .error .directory
    else match d.node? (name :: p) with
      | some .directory => .error .directory
      | some (.file b) => .ok (name :: p, b)
      | none => .ok (name :: p, [])

def writeFile (d : Tree) (path : Text) (content : Bytes) : Except Failure Tree :=
  (d.atTarget path d.writable).map fun w => d.set w.1 (.file content)

def appendFile (d : Tree) (path : Text) (content : Bytes) : Except Failure Tree :=
  (d.atTarget path d.writable).map fun w => d.set w.1 (.file (w.2 ++ content))

def makeDirectory (d : Tree) (path : Text) : Except Failure Tree :=
  d.atTarget path fun
    | .itself _ => .error .taken
    | .named p name _ =>
      match d.node? (name :: p) with
      | some _ => .error .taken
      | none => .ok (d.set (name :: p) .directory)

/-- Whether a refusal to make a directory is of no concern, for it is there already. -/
def passesOver (d : Tree) (path : Text) (e : Failure) : Bool := e.isSystem && d.isDirectory path

/--
Makes the directories that lead to one, one after the other. A path that is taken is passed over
even by a file; what lies below it then fails.
-/
def makeLeading (d : Tree) : List Text → Except Failure Unit × Tree
  | [] => (.ok (), d)
  | path :: paths =>
    match d.makeDirectory path with
    | .ok d' => d'.makeLeading paths
    | .error e =>
      if d.passesOver path e || e == .system .taken path then d.makeLeading paths
      else (.error e, d)

def makeLast (d : Tree) (path : Text) : Except Failure Unit × Tree :=
  match d.makeDirectory path with
  | .ok d' => (.ok (), d')
  | .error e => if d.passesOver path e then (.ok (), d) else (.error e, d)

/-- The paths after the last one that leads to something. -/
def unmade (d : Tree) : List Text → List Text
  | [] => []
  | path :: paths =>
    if paths.any d.exists? then d.unmade paths
    else if d.exists? path then paths
    else path :: paths

def endsInDot (path : Text) : Bool := (pathParts path).getLast? == some ['.']

/--
Makes a directory and those that lead to it, as far as they are missing. Each of these takes one more
call, and nothing is made before the innermost one.
-/
def makeDirectories (room : Nat) (d : Tree) (path : Text) : Except Failure Unit × Tree :=
  let missing := d.unmade (leadingPaths path)
  if room < missing.length then (.error .tooDeep, d)
  else
    match d.makeLeading (missing.take 1 ++ (missing.drop 1).filter (!endsInDot ·)) with
    | (.error e, d) => (.error e, d)
    | (.ok (), d) => if !missing.isEmpty && endsInDot path then (.ok (), d) else d.makeLast path

/-- Moves a file from a last step to another one. -/
def moveBetween (d : Tree) : Target → Target → Except Problem Tree
  | .named p name slash, .named q name' slash' =>
    match d.node? (name :: p) with
    | none => .error .missing
    | some .directory => .error .directory
    | some (.file content) =>
      if slash || slash' then .error .notDirectory
      else if d.node? (name' :: q) = some .directory then .error .directory
      else .ok ((d.erase (name :: p)).set (name' :: q) (.file content))
  | _, _ => .error .busy

def moveFile (d : Tree) (source target : Text) : Except Failure Tree :=
  if holdsNull source || holdsNull target then .error .nullInPath
  else
    let moved : Except Problem Tree := do
      let s ← d.target source
      let t ← d.target target
      d.moveBetween s t
    moved.mapError fun e => .move e source target

def removeFile (d : Tree) (path : Text) : Except Failure Tree :=
  d.atTarget path fun
    | .itself _ => .error .directory
    | .named p name slash =>
      match d.node? (name :: p) with
      | none => .error .missing
      | some .directory => .error .directory
      | some (.file _) => if slash then .error .notDirectory else .ok (d.erase (name :: p))

def placePath (p : Place) : Text := '/' :: Text.joinWith ['/'] p.reverse

def herePath (d : Tree) : Text := placePath d.here

def pathBelow? (root p : Place) : Option Text :=
  if root.isSuffixOf p && decide (root.length < p.length) then
    some (Text.joinWith ['/'] (p.take (p.length - root.length)).reverse)
  else none

/-- A node as a line of a listing: directories have a slash and no content. -/
def listingLine (root : Place) (e : Place × Node) : Option (Text × Option Bytes) :=
  (pathBelow? root e.1).map fun path =>
    match e.2 with
    | .file b => (path, some b)
    | .directory => (path ++ ['/'], none)

def listing (d : Tree) (root : Place) : List (Text × Option Bytes) :=
  (d.nodes.filterMap (listingLine root)).mergeSort fun a b => !decide (b.1 < a.1)

end Tree

end Redline.Disk
