import Redline.Text.Basic

set_option autoImplicit false
set_option relaxedAutoImplicit false

/-!
Paths as text: joining, splitting off the last part, normalising, and the extension of a file name.
Only a slash separates the parts of a path.
-/

namespace Redline.Disk

def isAbsolute (p : Text) : Bool := Text.startsWith p ['/']

/-- A path seen from a base: an absolute path stands for itself. -/
def joinPath (base p : Text) : Text :=
  if isAbsolute p then p
  else if base.isEmpty || Text.endsWith base ['/'] then base ++ p
  else base ++ '/' :: p

def baseName (p : Text) : Text := (p.reverse.takeWhile (· != '/')).reverse

/-- The part before the last slash, without slashes at its end unless it has nothing else. -/
def parentPath (p : Text) : Text :=
  let head := p.take (p.length - (baseName p).length)
  let bare := (head.reverse.dropWhile (· == '/')).reverse
  if bare.isEmpty then head else bare

def pathParts (p : Text) : List Text :=
  (Text.splitAtEach (· == '/') p).filter fun part => !part.isEmpty

/-- One part of a path after those that stand in `done`, innermost first. -/
def normalStep (absolute : Bool) (done : List Text) (part : Text) : List Text :=
  if part = ['.'] then done
  else if part = ['.', '.'] then
    match done with
    | [] => if absolute then [] else [part]
    | d :: ds => if d = ['.', '.'] then part :: d :: ds else ds
  else part :: done

/-- A path without empty parts, `.` and `..`, as far as its text tells. -/
def normalPath (p : Text) : Text :=
  let slashes : Text :=
    if Text.startsWith p ['/', '/'] && !Text.startsWith p ['/', '/', '/'] then ['/', '/']
    else if isAbsolute p then ['/'] else []
  let parts := ((pathParts p).foldl (normalStep (isAbsolute p)) []).reverse
  let path := slashes ++ Text.joinWith ['/'] parts
  if path.isEmpty then ['.'] else path

/-- The extension of a file name with its dot. Dots at the start of a name begin none. -/
def extension (p : Text) : Text :=
  let stem := (baseName p).dropWhile (· == '.')
  if stem.elem '.' then '.' :: (stem.reverse.takeWhile (· != '.')).reverse else []

/--
The paths that lead to a path: its beginnings up to each slash that follows a name and that
another name follows. `before` is what has been passed already, in reverse.
-/
def leadingPathsFrom (before : Text) : Text → List Text
  | [] => []
  | c :: t =>
    if c == '/' && (before.head?.getD '/') != '/' && t.any (· != '/') then
      before.reverse :: leadingPathsFrom (c :: before) t
    else leadingPathsFrom (c :: before) t

def leadingPaths (p : Text) : List Text := leadingPathsFrom [] p

end Redline.Disk
