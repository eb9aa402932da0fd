import Redline.Diff.Alignment
import Redline.Number.Decimal
import Redline.Text.Row

set_option autoImplicit false
set_option relaxedAutoImplicit false

/-!
Unified diffs of two texts, as they are shown for review: changes with three lines of context,
joined into one hunk where their contexts meet. Lines are the rows of the texts with their breaks,
so that a changed break is a change too; a final line feed is not shown.
-/

namespace Redline.Diff

/-- A region of an alignment with its place in both texts, counted from zero. -/
structure Placed where
  oldAt : Nat
  newAt : Nat
  region : Region Line
  deriving Repr, DecidableEq

def placeFrom (oldAt newAt : Nat) : List (Region Line) → List Placed
  | [] => []
  | r :: rs =>
    ⟨oldAt, newAt, r⟩ :: placeFrom (oldAt + r.old.length) (newAt + r.new.length) rs

namespace Placed

def keepFirst (n : Nat) (p : Placed) : Placed :=
  match p.region with
  | .same ls => { p with region := .same (ls.take n) }
  | .changed _ _ => p

def keepLast (n : Nat) (p : Placed) : Placed :=
  match p.region with
  | .same ls =>
    let skipped := ls.length - n
    ⟨p.oldAt + skipped, p.newAt + skipped, .same (ls.drop skipped)⟩
  | .changed _ _ => p

def isLong (context : Nat) (p : Placed) : Bool :=
  match p.region with
  | .same ls => decide (context + context < ls.length)
  | .changed _ _ => false

def oldEnd (p : Placed) : Nat := p.oldAt + p.region.old.length

def newEnd (p : Placed) : Nat := p.newAt + p.region.new.length

end Placed

def trimFront (context : Nat) : List Placed → List Placed
  | [] => []
  | p :: ps => p.keepLast context :: ps

/-- Cuts the tail of the last region. -/
def trimBack (context : Nat) : List Placed → List Placed
  | [] => []
  | [p] => [p.keepFirst context]
  | p :: ps => p :: trimBack context ps

/-- Splits regions within each long one: the group at hand, and the groups after it. -/
def splitGroups (context : Nat) : List Placed → List Placed × List (List Placed)
  | [] => ([], [])
  | p :: ps =>
    let (group, groups) := splitGroups context ps
    if p.isLong context then
      ([p.keepFirst context], (p.keepLast context :: group) :: groups)
    else (p :: group, groups)

/-- The groups of neighbouring regions, each with a change, that make up the hunks. -/
def groups (context : Nat) (rs : List (Region Line)) : List (List Placed) :=
  let (group, more) :=
    splitGroups context (trimBack context (trimFront context (placeFrom 0 0 rs)))
  (group :: more).filter fun g => g.any fun p => p.region.isChange

/-- A range of lines in a header: empty ranges name the line before them. -/
def showRange (start length : Nat) : Text :=
  if length = 1 then Number.showNat (start + 1)
  else if length = 0 then Number.showNat start ++ ",0"
  else Number.showNat (start + 1) ++ ',' :: Number.showNat length

def groupHeader (g : List Placed) : Text :=
  let oldStart := (g.head?.map Placed.oldAt).getD 0
  let newStart := (g.head?.map Placed.newAt).getD 0
  let oldEnd := (g.getLast?.map Placed.oldEnd).getD 0
  let newEnd := (g.getLast?.map Placed.newEnd).getD 0
  "@@ -" ++ showRange oldStart (oldEnd - oldStart) ++ " +" ++
    showRange newStart (newEnd - newStart) ++ " @@"

def regionLines : Region Line → List Line
  | .same ls => ls.map (' ' :: ·)
  | .changed xs ys => xs.map ('-' :: ·) ++ ys.map ('+' :: ·)

def dropFinalFeeds (t : Text) : Text := (t.reverse.dropWhile (· == '\n')).reverse

def groupLines (g : List Placed) : List Line :=
  groupHeader g :: g.flatMap fun p => regionLines p.region

/-- How many unchanged lines surround a change. -/
def contextSize : Nat := 3

def changeGroups (old new : Text) : List (List Placed) :=
  groups contextSize (@alignment Line Text.decEq old.rowsWithBreaks new.rowsWithBreaks)

def fileHeader (path : Text) : List Line := ["--- a/" ++ path, "+++ b/" ++ path]

/-- The unified diff of two texts, or nothing when they are equal. -/
def unified? (path old new : Text) : Option Text :=
  if old = new then none
  else
    match changeGroups old new with
    | [] => none
    | gs =>
      some (Text.unlines ((fileHeader path ++ gs.flatMap groupLines).map dropFinalFeeds))

end Redline.Diff
