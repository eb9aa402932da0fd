import Redline.Platform
import Redline.Proofs.Command.Line
import Redline.Proofs.Write.Unattended

set_option autoImplicit false
set_option relaxedAutoImplicit false

/-!
Unattended writes from the line to the disk. A run that gets as far as its command ends with code 0 exactly
if the diff yields a text, which is then in the file to the byte, and with code 1 otherwise. No file changes
but this one, the log file and the write log.
-/

namespace Redline.Command

open Disk (Tree Place)
open Write (Yields)

def Surroundings.logPath (around : Surroundings) (settings : Settings) : Text :=
  logFilePath around.disk settings.logDirectory around.today

/-- The place of the write log of the working directory. -/
def Surroundings.journalPlace (around : Surroundings) : Place :=
  [Metrics.fileName, Metrics.folderName] ++ around.disk.here

/--
Whether a run on a sound disk gets as far as its command: there are settings, their interval is one that a
float can hold, and a log file has been opened, at the place `log` of the disk `opened`.
-/
structure Starts (around : Surroundings) (c : Job) (settings : Settings) (opened : Tree) (log : Place) :
    Prop where
  sound : around.disk.IsSound
  loads : Settings.load around.reader around.disk around.disk.herePath around.home around.environment
    none = .ok settings
  interval : (Write.intervalOf? settings.updateInterval).isSome
  opens : openLog around.rooms.log around.disk settings.logDirectory (around.logPath settings)
    around.today c = (.ok (), opened)
  logged : opened.place? (around.logPath settings) = some log

/--
Whether path and diff of a line are such that it can be told what becomes of them: the path leads down
from the working directory, not to a log, with nothing beside it; the diff is a text and not the log file.
-/
structure Aims (around : Surroundings) (opened : Tree) (log : Place) (path diffPath diff : Text) :
    Prop where
  undashedPath : Text.startsWith path ['-'] = false
  relative : Disk.isAbsolute path = false
  noUps : ['.', '.'] ∉ Disk.pathParts path
  notLog : opened.place? path ≠ some log
  notJournal : opened.place? path ≠ some around.journalPlace
  clear : opened.exists? (path ++ Write.besideSuffix) = false
  undashedDiff : Text.startsWith diffPath ['-'] = false
  readable : ∃ bytes, around.disk.readFile diffPath = .ok bytes ∧ Text.Utf8.decode bytes = .ok diff
  diffNotLog : around.disk.place? diffPath ≠ some log

def Surroundings.writer (around : Surroundings) (settings : Settings) (a : WriteArguments) : Write.Writer :=
  writerOf around settings a around.disk.herePath
    ((Write.intervalOf? settings.updateInterval).getD 0)

/-- Whether repeats are thinned out under some settings and flags. -/
def dedupes (settings : Settings) (flags : List Text) : Bool :=
  settings.dedupe && !flags.elem ("--no-dedupe" : Text)

/--
Whether an unattended write comes to its end: there is room for the calls that its entry in the write log
nests, and the check of a text that is saved, if there is one, comes to a verdict.
-/
structure Concludes (around : Surroundings) (settings : Settings) (opened : Tree)
    (path diffPath diff : Text) (flags : List Text) : Prop where
  roomy : (around.writer settings (unattendedWrite path diffPath flags)).HasLogRoom opened
  tells : ∀ result, Yields around.disk (dedupes settings flags) path diff result →
    (around.writer settings (unattendedWrite path diffPath flags)).Tells path result

variable {around : Surroundings} {settings : Settings} {opened : Tree} {log : Place}
  {path diffPath diff : Text} {flags : List Text} {c : Job}

/-! The logs. -/

private theorem appendLog_frame {d d' : Tree} {path : Text} {today : Moment} {notes : List Log.Record}
    (appended : appendLog d path today notes = .ok d') :
    ∃ p, d.place? path = some p ∧ d.Grows d' ∧ ∀ q, q ≠ p → d'.fileAt q = d.fileAt q := by
  obtain ⟨p, before, placed, free, rfl⟩ := Tree.appendFile_eq_ok appended
  have inside := Tree.place_ne_nil placed
  refine ⟨p, placed, .set_file inside free _, fun q other => ?_⟩
  rw [Tree.fileAt_set_file inside, if_neg other]

private theorem Starts.frame (starts : Starts around c settings opened log) :
    around.disk.Grows opened ∧ ∀ q, q ≠ log → opened.fileAt q = around.disk.fileAt q := by
  have directories := Tree.OnlyAddsDirectories.makeDirectories around.disk around.rooms.log
    settings.logDirectory
  have opens := starts.opens
  unfold openLog at opens
  split at opens
  · simp at opens
  · rename_i made ready
    rw [ready] at directories
    split at opens
    · simp at opens
    · rename_i d appended
      obtain rfl := (Prod.mk.inj opens).2
      obtain ⟨p, placed, grows, others⟩ := appendLog_frame appended
      obtain rfl := Option.some.inj ((grows.place? placed).symm.trans starts.logged)
      exact ⟨directories.grows.trans grows, fun q other => (others q other).trans (directories.fileAt q)⟩

private theorem keepLog_frame (d : Tree) (path : Text) (today : Moment) (notes : List Log.Record) :
    d.Grows (keepLog d path today notes) ∧
      ∀ q, d.place? path ≠ some q → (keepLog d path today notes).fileAt q = d.fileAt q := by
  unfold keepLog
  split
  · rename_i d' appended
    obtain ⟨p, placed, grows, others⟩ := appendLog_frame appended
    exact ⟨grows, fun q other => others q fun eq => other (eq ▸ placed)⟩
  · exact ⟨.refl d, fun _ _ => rfl⟩

private theorem journalPlace_eq {d : Tree} (home : d.IsHome) {p : Place}
    (placed : d.place? (Metrics.journalPath d.herePath) = some p) :
    p = [Metrics.fileName, Metrics.folderName] ++ d.here := by
  obtain ⟨-, parent, name, led, rfl⟩ := Tree.place?_eq_some_iff.mp placed
  obtain ⟨-, last, walked, -⟩ := Tree.target_eq_named led
  have parts : Disk.pathParts (Metrics.journalPath d.herePath) =
      (d.here.reverse ++ [Metrics.folderName]) ++ [Metrics.fileName] := by
    rw [Metrics.journalPath, Metrics.folderPath, Disk.pathParts_joinPath _ rfl,
      Disk.pathParts_joinPath _ rfl, Tree.herePath, Disk.pathParts_placePath home.names]
    rfl
  have absolute : Disk.isAbsolute (Metrics.journalPath d.herePath) = true :=
    Disk.isAbsolute_joinPath rfl (Disk.isAbsolute_joinPath rfl rfl)
  rw [parts, List.getLast?_concat] at last
  rw [parts, List.dropLast_concat, if_pos absolute, Tree.enterAll_append home.walk,
    Tree.enterAll_singleton] at walked
  obtain rfl := Option.some.inj last
  rcases Tree.enter_eq_ok walked with ⟨stay, -⟩ | ⟨up, -⟩ | ⟨-, -, -, -, rfl⟩
  · exact absurd stay (by decide)
  · exact absurd up (by decide)
  · rfl

/-! The run. -/

def Surroundings.approver (around : Surroundings) : Write.Approver :=
  .atSurface around.loop .unattended (Review.inputLines around.input) around.events

private theorem Starts.readSource (starts : Starts around c settings opened log)
    (aims : Aims around opened log path diffPath diff) (input : Text) :
    readSource? opened input (some (.file diffPath)) = .ok (some diff, input) := by
  obtain ⟨bytes, read, decoded⟩ := aims.readable
  obtain ⟨p, placed, file⟩ := Tree.readFile_eq_ok_iff.mp read
  have other : p ≠ log := fun eq => aims.diffNotLog (eq ▸ placed)
  have read' : opened.readFile diffPath = .ok bytes := Tree.readFile_eq_ok_iff.mpr
    ⟨p, starts.frame.1.place? placed, (starts.frame.2 p other).trans file⟩
  simp [readSource?, Command.readSource, read', decoded, Except.map]

private theorem Starts.perform (starts : Starts around c settings opened log)
    (aims : Aims around opened log path diffPath diff) (flags : List Text) :
    perform { around with disk := opened } settings (around.logPath settings)
        (.write (unattendedWrite path diffPath flags)) =
      answerRequest (around.writer settings (unattendedWrite path diffPath flags))
        { around with disk := opened } .unattended (around.logPath settings) around.input
        ⟨path, none, some diff⟩ := by
  obtain ⟨interval, held⟩ := Option.isSome_iff_exists.mp starts.interval
  have root : absoluteRoot opened ['.'] = around.disk.herePath := by
    rw [absoluteRoot, starts.frame.1.herePath]
    exact Disk.normalPath_placePath starts.sound.names
  have noContent : readSource? opened around.input none = .ok (none, around.input) := rfl
  have read := starts.readSource aims around.input
  unfold Surroundings.writer
  rw [held]
  simp only [Command.perform, performWrite, unattendedWrite, Option.isNone_some, Bool.false_and,
    Bool.false_eq_true, if_false, noContent, read, held, root]
  rfl

private theorem Starts.run (starts : Starts around c settings opened log) {arguments : List Text}
    (line : Invocation.ofArguments arguments = .ok ⟨none, c⟩) :
    let p := Command.perform { around with disk := opened } settings (around.logPath settings) c
    let after := Command.run around arguments
    after.ending = p.ending ∧ p.disk.Grows after.disk ∧
      ∀ q, p.disk.place? (around.logPath settings) ≠ some q → after.disk.fileAt q = p.disk.fileAt q := by
  have opens := starts.opens
  unfold Surroundings.logPath at opens ⊢
  simp only [Command.run, line, starts.loads, runCommand, opens]
  refine ⟨trivial, ?_⟩
  split
  · exact ⟨.refl _, fun _ _ => rfl⟩
  · exact keepLog_frame _ _ _ _

private theorem answerRequest_of_execute (around : Surroundings) (logPath : Text) {w : Write.Writer}
    {surface : Review.Surface} {input : Text} {r : Write.Request} {answer : Write.Response}
    {t : Write.Session} (executed : Write.execute w (.start around.disk) r
      (.atSurface around.loop surface (Review.inputLines input) around.events) = (.ok answer, t)) :
    (answerRequest w around surface logPath input r).ending = .code (answerCode answer) ∧
      (answerRequest w around surface logPath input r).disk = t.disk := by
  simp only [answerRequest, executed, and_self]

def Surroundings.logPlaces (around : Surroundings) (log : Place) : List Place :=
  [log, around.journalPlace]

private theorem journalPlace?_writer {a : WriteArguments} {d : Tree} (home : d.IsHome)
    (here : d.here = around.disk.here) {p : Place}
    (placed : (around.writer settings a).journalPlace? d = some p) : p = around.journalPlace := by
  unfold Write.Writer.journalPlace? Surroundings.writer writerOf at placed
  simp only at placed
  split at placed
  · simp at placed
  · have path : around.disk.herePath = d.herePath := by rw [Tree.herePath, Tree.herePath, here]
    rw [Surroundings.journalPlace, ← here]
    exact journalPlace_eq home (path ▸ placed)

private theorem logsAt_writer {a : WriteArguments} :
    (around.writer settings a).LogsAt around.disk.herePath := by
  intro root logged
  simp only [Surroundings.writer, writerOf] at logged
  split at logged
  · simp at logged
  · exact (Option.some.inj logged).symm

private theorem run_of_execute
    (starts : Starts around (.write (unattendedWrite path diffPath flags)) settings opened log)
    (aims : Aims around opened log path diffPath diff)
    (optional : ∀ f ∈ flags, f ∈ optionalFlags)
    {answer : Write.Response} {t : Write.Session} {d : Tree}
    (executed : Write.execute (around.writer settings (unattendedWrite path diffPath flags))
      (.start opened) ⟨path, none, some diff⟩ around.approver = (.ok answer, t))
    (grows : opened.Grows d)
    (logs : Write.OnlyLogs (around.writer settings (unattendedWrite path diffPath flags)) d t.disk) :
    let after := run around (unattendedLine path diffPath flags)
    after.ending = .code (answerCode answer) ∧ d.Grows after.disk ∧
      ∀ q, q ∉ around.logPlaces log → after.disk.fileAt q = d.fileAt q := by
  obtain ⟨ending, grown, kept⟩ :=
    starts.run (ofArguments_unattendedLine aims.undashedPath aims.undashedDiff optional)
  obtain ⟨ends, disk⟩ := answerRequest_of_execute { around with disk := opened }
    (around.logPath settings) executed
  rw [starts.perform aims flags, ends] at ending
  rw [starts.perform aims flags, disk] at grown kept
  refine ⟨ending, logs.grows.trans grown, fun q unlogged => ?_⟩
  simp only [Surroundings.logPlaces, List.mem_cons, List.not_mem_nil, or_false, not_or] at unlogged
  have logged := (grows.trans logs.grows).place? starts.logged
  rw [kept q fun placed => unlogged.1 (Option.some.inj (placed.symm.trans logged))]
  -- What the answer has changed on the disk is the write log, which is a place of the logs.
  have whole := starts.frame.1.trans (grows.trans logs.grows)
  exact Decidable.byContradiction fun changed => unlogged.2
    (journalPlace?_writer (whole.isHome starts.sound.isHome) whole.here (logs.logged q changed))

private theorem Starts.finds (starts : Starts around c settings opened log)
    (aims : Aims around opened log path diffPath diff)
    (concludes : Concludes around settings opened path diffPath diff flags) :
    Write.Finds (around.writer settings (unattendedWrite path diffPath flags)) around.disk opened path where
  root := rfl
  sound := starts.sound
  grows := starts.frame.1
  kept q placed := starts.frame.2 q fun eq => aims.notLog (eq ▸ placed)
  relative := aims.relative
  noUps := aims.noUps
  clear := aims.clear
  logs := logsAt_writer
  roomy := concludes.roomy

private theorem run_of_yields
    (starts : Starts around (.write (unattendedWrite path diffPath flags)) settings opened log)
    (aims : Aims around opened log path diffPath diff)
    (concludes : Concludes around settings opened path diffPath diff flags)
    (optional : ∀ f ∈ flags, f ∈ optionalFlags) {result : Text}
    (yields : Yields around.disk (dedupes settings flags) path diff result) :
    let after := run around (unattendedLine path diffPath flags)
    after.ending = .code 0 ∧ after.disk.readFile path = .ok (Text.Utf8.encode result) ∧
      ∀ q, after.disk.fileAt q ≠ around.disk.fileAt q →
        after.disk.place? path = some q ∨ q ∈ around.logPlaces log := by
  have finds := starts.finds aims concludes
  obtain ⟨answer, t, d, executed, success, wrote, logs⟩ :=
    finds.exists_saved (Write.Approver.assents_unattended _ _ _) yields (concludes.tells result yields)
  obtain ⟨p, resolved, content, beside, grows, others⟩ := Write.Store.write_eq_ok wrote
  obtain ⟨ending, grown, kept⟩ := run_of_execute starts aims optional executed grows logs
  obtain ⟨bytes, -, read, -⟩ := yields.applies
  obtain ⟨q, placed, -⟩ := Tree.readFile_eq_ok_iff.mp read
  have placedOpened := starts.frame.1.place? placed
  have placedAfter := (grows.trans grown).place? placedOpened
  obtain rfl := finds.eq_of_resolve grows resolved placedOpened
  have unlogged : p ∉ around.logPlaces log := by
    simp only [Surroundings.logPlaces, List.mem_cons, List.not_mem_nil, or_false, not_or]
    exact ⟨fun eq => aims.notLog (eq ▸ placedOpened), fun eq => aims.notJournal (eq ▸ placedOpened)⟩
  refine ⟨?_, Tree.readFile_eq_ok_iff.mpr ⟨p, placedAfter, (kept p unlogged).trans content⟩, ?_⟩
  · rw [ending, answerCode, success]
    rfl
  · intro q changed
    by_cases logged : q ∈ around.logPlaces log
    · exact .inr logged
    · have notLog : q ≠ log := fun eq => logged (eq ▸ List.mem_cons_self)
      rw [kept q logged, ← starts.frame.2 q notLog] at changed
      refine .inl (Decidable.byContradiction fun elsewhere => changed ?_)
      have notFile : q ≠ p := fun eq => elsewhere (eq ▸ placedAfter)
      by_cases next : q = p.lengthen Write.besideSuffix
      · have free := finds.free placedOpened yields.fits
        rw [next, beside, Tree.fileAt, free]
      · exact others q notFile next

private theorem run_of_barren
    (starts : Starts around (.write (unattendedWrite path diffPath flags)) settings opened log)
    (aims : Aims around opened log path diffPath diff)
    (concludes : Concludes around settings opened path diffPath diff flags)
    (optional : ∀ f ∈ flags, f ∈ optionalFlags)
    (barren : ∀ result, ¬ Yields around.disk (dedupes settings flags) path diff result) :
    let after := run around (unattendedLine path diffPath flags)
    after.ending = .code 1 ∧
      ∀ q, after.disk.fileAt q ≠ around.disk.fileAt q → q ∈ around.logPlaces log := by
  have finds := starts.finds aims concludes
  obtain ⟨e, t, executed, logs⟩ := finds.exists_failed (Write.Approver.assents_unattended _ _ _) barren
  obtain ⟨ending, -, kept⟩ := run_of_execute starts aims optional executed (.refl opened) logs
  refine ⟨ending, fun q changed => Decidable.byContradiction fun unlogged => changed ?_⟩
  have notLog : q ≠ log := fun eq => unlogged (eq ▸ List.mem_cons_self)
  exact (kept q unlogged).trans (starts.frame.2 q notLog)

/--
An unattended write ends with code 0 exactly if its diff yields a text. The file of its path is then the
bytes of that text and no other file has changed; otherwise it ends with code 1 and no file has changed at
all. Either way the log file and the write log are left out of account.
-/
theorem unattended_write_exact (starts : Starts around (.write (unattendedWrite path diffPath flags))
      settings opened log) (aims : Aims around opened log path diffPath diff)
    (concludes : Concludes around settings opened path diffPath diff flags)
    (optional : ∀ f ∈ flags, f ∈ optionalFlags) :
    let after := run around (unattendedLine path diffPath flags)
    let dedupe := dedupes settings flags
    (after.ending = .code 0 ↔ ∃ result, Yields around.disk dedupe path diff result) ∧
    (∀ result, Yields around.disk dedupe path diff result →
      after.disk.readFile path = .ok (Text.Utf8.encode result) ∧
      ∀ q, after.disk.fileAt q ≠ around.disk.fileAt q →
        after.disk.place? path = some q ∨ q ∈ around.logPlaces log) ∧
    ((∀ result, ¬ Yields around.disk dedupe path diff result) → after.ending = .code 1 ∧
      ∀ q, after.disk.fileAt q ≠ around.disk.fileAt q → q ∈ around.logPlaces log) := by
  refine ⟨⟨fun ended => ?_, fun ⟨result, yields⟩ => ?_⟩, fun result yields => ?_, fun barren => ?_⟩
  · refine Classical.byContradiction fun none => ?_
    obtain ⟨failed, -⟩ := run_of_barren starts aims concludes optional (not_exists.mp none)
    simp [ended] at failed
  · exact (run_of_yields starts aims concludes optional yields).1
  · exact (run_of_yields starts aims concludes optional yields).2
  · exact run_of_barren starts aims concludes optional barren

/-! Runs that renew a file, and runs that something keeps from doing so. -/

def renewal : Text := "@@ -1 +1 @@\n-old\n+new\n"

/-- A working directory with a file to renew, the diff and something else. -/
def desk (path : Text) (environment : Settings.Environment) (others : List (Place × Disk.Node)) :
    Surroundings where
  disk := ⟨["w"], (["w"], .directory) :: ([path, "w"], .file (Text.Utf8.encode "old\n")) ::
    (["d.diff", "w"], .file (Text.Utf8.encode renewal)) :: others⟩
  home := "/h"
  environment
  input := []
  events := []
  today := ⟨2024, 1, 2, 3, 4, 5⟩
  reader := Platform.reader
  parsers := fun _ _ => .clean
  loop := Platform.loop
  rooms := Platform.rooms

/-- The settings that hold without a settings file and variables. -/
def defaultSettings : Settings := ⟨true, 8, true, true, ".udiff_writer/logs", .console, []⟩

/-- The place of the log file under the default settings. -/
def deskLog : Place := ["write_20240102_030405.log", "logs", ".udiff_writer", "w"]

def deskOpened : Tree :=
  (openLog Platform.rooms.log (desk "a.py" [] []).disk defaultSettings.logDirectory
    ((desk "a.py" [] []).logPath defaultSettings) (desk "a.py" [] []).today
    (.write (unattendedWrite "a.py" "d.diff" []))).2

/-- With nothing in the way, the file is renewed. -/
theorem unattended_write_exact_renewal :
    Starts (desk "a.py" [] []) (.write (unattendedWrite "a.py" "d.diff" [])) defaultSettings
        deskOpened deskLog ∧
      Aims (desk "a.py" [] []) deskOpened deskLog "a.py" "d.diff" renewal ∧
      Concludes (desk "a.py" [] []) defaultSettings deskOpened "a.py" "d.diff" renewal [] ∧
      (run (desk "a.py" [] []) (unattendedLine "a.py" "d.diff" [])).ending = .code 0 ∧
      (run (desk "a.py" [] []) (unattendedLine "a.py" "d.diff" [])).disk.readFile "a.py" =
        .ok (Text.Utf8.encode "new\n") := by
  have starts : Starts (desk "a.py" [] []) (.write (unattendedWrite "a.py" "d.diff" []))
      defaultSettings deskOpened deskLog :=
    ⟨by decide, by decide +kernel, by decide +kernel, Prod.ext (by decide +kernel) rfl,
      by decide +kernel⟩
  have aims : Aims (desk "a.py" [] []) deskOpened deskLog "a.py" "d.diff" renewal :=
    ⟨rfl, rfl, by decide, by decide +kernel, by decide +kernel, by decide +kernel, rfl,
      ⟨Text.Utf8.encode renewal, by decide +kernel, by decide +kernel⟩, by decide +kernel⟩
  have yields : Yields (desk "a.py" [] []).disk true "a.py" renewal "new\n" :=
    ⟨⟨Text.Utf8.encode "old\n", "old\n", by decide +kernel, by decide +kernel, by decide +kernel⟩,
      by decide +kernel, by decide +kernel⟩
  have fits : Syntax.Tree.clean.height ≤ 980 := by decide
  have short : ∀ n ∈ Syntax.Tree.clean.preorder, n.hasLongPoint = false := by decide +kernel
  have concludes : Concludes (desk "a.py" [] []) defaultSettings deskOpened "a.py" "d.diff" renewal
      [] := by
    refine ⟨?_, fun _ _ _ _ _ => ⟨fits, short⟩⟩
    rintro root ⟨⟩
    show deskOpened.HasRoom 980 (Metrics.folderPath (desk "a.py" [] []).disk.herePath)
    decide +kernel
  have exact := unattended_write_exact starts aims concludes (by simp)
  exact ⟨starts, aims, concludes, exact.1.mpr ⟨_, yields⟩, (exact.2.1 _ yields).1⟩

/-- An attempt to renew a file by its name. -/
structure Attempt where
  path : Text
  around : Surroundings
  settings : Settings

/-- The exit code of an attempt, unless a fault ends it. -/
def Attempt.code? (x : Attempt) : Option Nat :=
  match (run x.around (unattendedLine x.path "d.diff" [])).ending with
  | .code n => some n
  | _ => none

/--
Whether all is as it was at the desk: the settings hold, the log directory can be made, the file and the
diff are there, nothing is beside the file, and the diff applies.
-/
structure Attempt.Promises (x : Attempt) : Prop where
  sound : x.around.disk.IsSound
  loads : Settings.load x.around.reader x.around.disk x.around.disk.herePath x.around.home
    x.around.environment none = .ok x.settings
  makes : (x.around.disk.makeDirectories x.around.rooms.log x.settings.logDirectory).1 = .ok ()
  name : Disk.pathParts x.path = [x.path]
  clear : x.around.disk.exists? (x.path ++ Write.besideSuffix) = false
  file : x.around.disk.readFile x.path = .ok (Text.Utf8.encode "old\n")
  diff : x.around.disk.readFile "d.diff" = .ok (Text.Utf8.encode renewal)
  applies : Diff.apply x.settings.dedupe "old\n" (.text renewal) = .ok ("new\n" : Text)

/-- A name so long that no path beside it is short enough. -/
def longNamed : Attempt :=
  let path := List.replicate 246 'a'
  ⟨path, desk path [] [], defaultSettings⟩

def unheld : Attempt :=
  ⟨"a.py", desk "a.py" [("UDIFF_UPDATE_INTERVAL_MS", '1' :: List.replicate 309 '0')] [],
    { defaultSettings with updateInterval := .ofNat (Nat.pow 10 309) }⟩

def occupied : Attempt :=
  ⟨"a.py", desk "a.py" [] [(deskLog, .directory), (deskLog.drop 1, .directory),
    (deskLog.drop 2, .directory)], defaultSettings⟩

/-- A log directory that takes the place beside the file. -/
def crowded : Attempt :=
  ⟨"a.py", desk "a.py" [("UDIFF_LOG_DIR", "a.py.udiff_tmp")] [],
    { defaultSettings with logDirectory := "a.py.udiff_tmp" }⟩

instance (x : Attempt) : Decidable x.Promises :=
  decidable_of_iff (x.around.disk.IsSound ∧
      Settings.load x.around.reader x.around.disk x.around.disk.herePath x.around.home
        x.around.environment none = .ok x.settings ∧
      (x.around.disk.makeDirectories x.around.rooms.log x.settings.logDirectory).1 = .ok () ∧
      Disk.pathParts x.path = [x.path] ∧
      x.around.disk.exists? (x.path ++ Write.besideSuffix) = false ∧
      x.around.disk.readFile x.path = .ok (Text.Utf8.encode "old\n") ∧
      x.around.disk.readFile "d.diff" = .ok (Text.Utf8.encode renewal) ∧
      Diff.apply x.settings.dedupe "old\n" (.text renewal) = .ok ("new\n" : Text))
    ⟨fun ⟨sound, loads, makes, name, clear, file, diff, applies⟩ =>
      ⟨sound, loads, makes, name, clear, file, diff, applies⟩,
    fun h => ⟨h.sound, h.loads, h.makes, h.name, h.clear, h.file, h.diff, h.applies⟩⟩

/-- A text whose tree has an error so far down that the search does not get there. -/
def delved : Attempt :=
  ⟨"a.py", { desk "a.py" [] [] with parsers := fun _ _ => .chain 1000 }, defaultSettings⟩

/--
A diff that applies to a file need not be written, for four reasons apart from file and diff, and where it
is written, the run may still come to no answer.
-/
theorem unattended_write_obstructed :
    (longNamed.Promises ∧ longNamed.code? = some 1) ∧ (unheld.Promises ∧ unheld.code? = none) ∧
      (occupied.Promises ∧ occupied.code? = none) ∧ (crowded.Promises ∧ crowded.code? = some 1) ∧
      (delved.Promises ∧ delved.code? = none) :=
  ⟨by decide +kernel, by decide +kernel, by decide +kernel, by decide +kernel, by decide +kernel⟩

end Redline.Command
