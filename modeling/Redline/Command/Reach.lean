import Redline.Command.Run

set_option autoImplicit false
set_option relaxedAutoImplicit false

/-!
The reach of a run: the paths that it may look at or change, as far as its arguments and settings
tell. A run on a disk that has all of them behaves as on the whole disk.
-/

namespace Redline.Command

def settingsReach (here home : Text) (given : Option Text) : List Text :=
  given.toList ++ [here, home].flatMap fun dir => Settings.fileNames.map (Disk.joinPath dir)

def Source.reach : Source → List Text
  | .file path => [path]
  | _ => []

def Job.reach (disk : Disk.Tree) : Job → List Text
  | .write a =>
    let root := absoluteRoot disk (a.root.getD [])
    let path := Disk.joinPath root a.path
    (a.diff.toList ++ a.content.toList).flatMap Source.reach ++
      [path, path ++ Write.besideSuffix, Metrics.journalPath root]
  | .check old candidate => old.reach ++ candidate.reach
  | .stats root _ => [Metrics.journalPath root]

def Invocation.reach (i : Invocation) (disk : Disk.Tree) (settings : Settings) (today : Moment) :
    List Text :=
  settings.logDirectory :: logFilePath disk settings.logDirectory today :: i.job.reach disk

def Job.readsInput : Job → Bool
  | .write a => (a.diff.toList ++ a.content.toList).elem .input
  | .check old candidate => [old, candidate].elem .input
  | .stats _ _ => false

end Redline.Command
