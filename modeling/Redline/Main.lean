import Redline.Command.Reach
import Redline.Platform
import Std.Time.DateTime.Timestamp

set_option autoImplicit false
set_option relaxedAutoImplicit false

/-!
The program at a terminal: the part of the disk that a run can reach is read, the run is worked out
on it, and what it has changed is written back. A review is repeated with one more line of input
until it ends in a decision.
-/

namespace Redline.Terminal

open Command (Invocation Performance Surroundings)

def string (t : Text) : String := String.ofList t

def lookAt (path : Text) : IO (Option Disk.Node) := do
  try
    discard <| IO.FS.realPath (string path ++ "/.")
    return some .directory
  catch _ =>
    try
      return some (.file (← IO.FS.readBinFile (string path)).toList)
    catch _ => return none

def reach (disk : Disk.Tree) (path : Text) : IO Disk.Tree := do
  let full := Disk.joinPath disk.herePath path
  let mut disk := disk
  for p in Disk.leadingPaths full ++ [full] do
    if let some node ← lookAt p then
      disk := disk.set (Disk.pathParts (Disk.normalPath p)).reverse node
  return disk

def reachAll (disk : Disk.Tree) (paths : List Text) : IO Disk.Tree := paths.foldlM reach disk

def writeBack (place : Disk.Place) : Disk.Node → IO Unit
  | .directory => IO.FS.createDirAll (string (Disk.Tree.placePath place))
  | .file content => do
    let path := string (Disk.Tree.placePath place)
    let beside := path ++ string Write.besideSuffix
    IO.FS.writeBinFile beside (ByteArray.mk content.toArray)
    IO.FS.rename beside path

def writeChanges (before after : Disk.Tree) : IO Unit := do
  for (place, node) in after.nodes do
    if before.node? place != some node then writeBack place node
  for (place, _) in before.nodes do
    if (after.node? place).isNone then
      IO.FS.removeFile (string (Disk.Tree.placePath place))

def settingNames : List String := [
  "UDIFF_DEDUPE_ON_RESYNC", "UDIFF_UPDATE_INTERVAL_MS", "UDIFF_SYNTAX_CHECK", "UDIFF_METRICS",
  "UDIFF_LOG_DIR", "UDIFF_REVIEW_UI"]

def environment : IO Settings.Environment :=
  settingNames.filterMapM fun name => do
    return (← IO.getEnv name).map fun value => (name.toList, value.toList)

def today : IO Moment := do
  let now ← Std.Time.Timestamp.now
  return Moment.ofSeconds now.toSecondsSinceUnixEpoch.val.toNat

/-- What a line means in the viewer: the name of a key, or feedback. -/
def eventOf (line : Text) : Review.Event :=
  let bare := Text.trim line
  if bare = ("ctrl+s" : Text) ∨ bare = ("escape" : Text) then .key bare else .submit bare

def screenText (widgets : List Review.Widget) : Text :=
  widgets.flatMap fun
    | .label _ t => t ++ ['\n']
    | .input _ t => t ++ ['\n']
    | .button _ t => t ++ ['\n']
    | .footer => "ctrl+s approves, escape rejects\n"

/-- What a performance shows before the approver gives the next line. -/
def pending (p : Performance) (shown : Nat) : Text :=
  match p.screen with
  | some widgets => screenText widgets
  | none => p.reviewed.drop shown

def answered (around : Surroundings) (line : Text) : Surroundings :=
  { around with input := around.input ++ line, events := around.events ++ [eventOf line] }

/-- Runs the program, with lines of input as long as a review asks for them. -/
def converse (around : Surroundings) (arguments : List Text) (ended : Bool) :
    IO Performance := do
  let input ← IO.getStdin
  let output ← IO.getStdout
  let mut around := around
  let mut shown := 0
  let mut ended := ended
  repeat
    let p := Command.run around arguments
    if ended || !p.awaiting then
      output.putStr (string (p.output.drop shown))
      return p
    output.putStr (string (pending p shown))
    output.flush
    shown := p.reviewed.length
    let line ← input.getLine
    if line.isEmpty then ended := true else around := answered around line.toList
  return Command.run around arguments

def wholeInput (i : Invocation) : IO Text := do
  if i.job.readsInput then
    let bytes ← (← IO.getStdin).readBinToEnd
    return (String.fromUTF8? bytes).getD "" |>.toList
  else return []

def surroundings (i : Invocation) : IO Surroundings := do
  let here := toString (← IO.currentDir)
  let home := ((← IO.getEnv "HOME").getD "/").toList
  let today ← today
  let environment ← environment
  let place := (Disk.pathParts here.toList).reverse
  let disk ← reachAll ⟨place, []⟩ (here.toList ::
    Command.settingsReach here.toList home i.settingsFile)
  let settings := Settings.load Platform.reader disk here.toList home environment i.settingsFile
  let disk ← match settings with
    | .ok settings => reachAll disk (i.reach disk settings today)
    | .error _ => pure disk
  return { disk, home, environment, input := ← wholeInput i, events := [], today
           reader := Platform.reader, parsers := fun _ _ => Syntax.Tree.clean
           loop := Platform.loop, rooms := Platform.rooms }

def close (p : Performance) : IO UInt32 := do
  match p.ending with
  | .stopped s => return s.exitCode.toUInt32
  | .code n => return n.toUInt32
  | .fault f =>
    IO.eprintln (string (f.kind ++ ": " ++ f.message))
    return 1

def usage : String :=
  "usage: redline [--config FILE] write PATH [--diff FILE] [--content FILE] [--root DIR]\n" ++
  "         [--ui textual|console|auto] [--auto] [--no-dedupe] [--no-syntax-check]\n" ++
  "         [--no-metrics]\n" ++
  "       redline [--config FILE] check OLD CANDIDATE\n" ++
  "       redline [--config FILE] stats [--root DIR] [--last NUMBER]"

def run (arguments : List Text) : IO UInt32 := do
  match Invocation.ofArguments arguments with
  | .error s =>
    if s = .help then IO.println usage else IO.eprintln usage
    return s.exitCode.toUInt32
  | .ok invocation =>
    let around ← surroundings invocation
    let p ← converse around arguments invocation.job.readsInput
    writeChanges around.disk p.disk
    close p

end Redline.Terminal

/-- Applies a diff or writes a new file after a review. -/
def main (arguments : List String) : IO UInt32 := Redline.Terminal.run (arguments.map String.toList)
