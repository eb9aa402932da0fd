import Redline.Disk.Path
import Redline.Text.Quoted
import Redline.Text.Utf8

set_option autoImplicit false
set_option relaxedAutoImplicit false

/-!
A disk: files and directories at places, and a working directory from which relative paths start.
Walking a path visits its parts one by one, so each but the last has to be a directory, also when
the next part leads back up.
-/

namespace Redline.Disk

open Text.Utf8 (Bytes)

/-- Where a file or directory is: the names that lead to it, innermost first. -/
abbrev Place := List Text

inductive Node where
  | file (content : Bytes)
  | directory
  deriving Repr, DecidableEq

/-- A disk. The root is always a directory. -/
structure Tree where
  /-- The working directory. -/
  here : Place
  nodes : List (Place × Node)
  deriving Repr, DecidableEq

def lookupNode (p : Place) : List (Place × Node) → Option Node
  | [] => none
  | (q, n) :: ns => if q = p then some n else lookupNode p ns

def setNode (p : Place) (n : Node) : List (Place × Node) → List (Place × Node)
  | [] => [(p, n)]
  | (q, m) :: ns => if q = p then (p, n) :: ns else (q, m) :: setNode p n ns

def eraseNode (p : Place) : List (Place × Node) → List (Place × Node)
  | [] => []
  | (q, m) :: ns => if q = p then eraseNode p ns else (q, m) :: eraseNode p ns

namespace Tree

def node? (d : Tree) (p : Place) : Option Node :=
  if p = [] then some .directory else lookupNode p d.nodes

def set (d : Tree) (p : Place) (n : Node) : Tree := { d with nodes := setNode p n d.nodes }

def erase (d : Tree) (p : Place) : Tree := { d with nodes := eraseNode p d.nodes }

end Tree

/-- Why the system refuses an operation on a path. -/
inductive Problem where
  | missing
  | busy
  | taken
  | notDirectory
  | directory
  | longName
  deriving Repr, DecidableEq

namespace Problem

def number : Problem → Nat
  | .missing => 2
  | .busy => 16
  | .taken => 17
  | .notDirectory => 20
  | .directory => 21
  | .longName => 36

def words : Problem → Text
  | .missing => "No such file or directory"
  | .busy => "Device or resource busy"
  | .taken => "File exists"
  | .notDirectory => "Not a directory"
  | .directory => "Is a directory"
  | .longName => "File name too long"

def kind : Problem → Text
  | .missing => "FileNotFoundError"
  | .busy => "OSError"
  | .taken => "FileExistsError"
  | .notDirectory => "NotADirectoryError"
  | .directory => "IsADirectoryError"
  | .longName => "OSError"

end Problem

/-- Why an operation on the disk fails. -/
inductive Failure where
  | system (problem : Problem) (path : Text)
  /-- Moving a file fails. -/
  | move (problem : Problem) (source target : Text)
  /-- A path holds a character that no path can hold. -/
  | nullInPath
  /-- More directories are missing than there is room for calls in each other. -/
  | tooDeep
  deriving Repr, DecidableEq

/-- The message where there is no room for one more call. -/
def tooDeepMessage : Text := "maximum recursion depth exceeded"

namespace Failure

def message : Failure → Text
  | .system p path =>
    "[Errno " ++ Number.showNat p.number ++ "] " ++ p.words ++ ": " ++ Text.quoted path
  | .move p source target =>
    "[Errno " ++ Number.showNat p.number ++ "] " ++ p.words ++ ": " ++ Text.quoted source ++
      " -> " ++ Text.quoted target
  | .nullInPath => "embedded null byte"
  | .tooDeep => tooDeepMessage

def kind : Failure → Text
  | .system p _ => p.kind
  | .move p _ _ => p.kind
  | .nullInPath => "ValueError"
  | .tooDeep => "RecursionError"

def isSystem : Failure → Bool
  | .nullInPath => false
  | .tooDeep => false
  | _ => true

end Failure

def maxNameSize : Nat := 255

def pathSizeLimit : Nat := 4096

def isLongName (name : Text) : Bool := decide (maxNameSize < Text.Utf8.size name)

/-- The directory that a part of a path leads to from a directory. -/
def Tree.enter (d : Tree) (p : Place) (part : Text) : Except Problem Place :=
  if part = ['.'] then .ok p
  else if part = ['.', '.'] then .ok p.tail
  else if isLongName part then .error .longName
  else match d.node? (part :: p) with
    | none => .error .missing
    | some (.file _) => .error .notDirectory
    | some .directory => .ok (part :: p)

def Tree.enterAll (d : Tree) (p : Place) : List Text → Except Problem Place
  | [] => .ok p
  | part :: parts =>
    match d.enter p part with
    | .error e => .error e
    | .ok q => d.enterAll q parts

/-- The last step of a path: a name in a directory, or the directory itself. -/
inductive Target where
  /-- The path ends in `.` or `..` or is the root. -/
  | itself (place : Place)
  /-- `slash` tells whether a slash follows the name. -/
  | named (parent : Place) (name : Text) (slash : Bool)
  deriving Repr, DecidableEq

/-- The last step of a path, when the parts before it lead to a directory. -/
def Tree.target (d : Tree) (path : Text) : Except Problem Target :=
  if path.isEmpty then .error .missing
  else if pathSizeLimit ≤ Text.Utf8.size path then .error .longName
  else
    let start : Place := if isAbsolute path then [] else d.here
    match (pathParts path).getLast? with
    | none => .ok (.itself start)
    | some name =>
      match d.enterAll start (pathParts path).dropLast with
      | .error e => .error e
      | .ok p =>
        if name = ['.'] then .ok (.itself p)
        else if name = ['.', '.'] then .ok (.itself p.tail)
        else if isLongName name then .error .longName
        else .ok (.named p name (Text.endsWith path ['/']))

def holdsNull (path : Text) : Bool := path.any fun c => c.toNat == 0

end Redline.Disk
