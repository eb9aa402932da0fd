import Redline.Command.Arguments
import Redline.Metrics.Statistics
import Redline.Number.Floating
import Redline.Settings.File
import Redline.Write.Execution

set_option autoImplicit false
set_option relaxedAutoImplicit false

/-!
Runs of the program. A run reads its settings, opens a log file, performs one command and ends with
an exit code; a fault that no command answers ends it early. What was logged is in the log file
also after a fault.
-/

namespace Redline.Command

open Number (showNat)

/-- How many calls may nest at the places of a run where they do. -/
structure Rooms where
  /-- Where the folder of the log file is made. -/
  log : Nat
  /-- Where the directories of a saved file are made. -/
  store : Nat
  /-- Where the folder of the write log is made. -/
  journal : Nat
  /-- Where a syntax tree is searched. -/
  search : Nat
  deriving Repr, DecidableEq

/-- What a run finds when it starts. -/
structure Surroundings where
  disk : Disk.Tree
  home : Text
  environment : Settings.Environment
  input : Text
  /-- What the approver does in the viewer. -/
  events : List Review.Event
  today : Moment
  reader : Settings.Reader
  parsers : Syntax.Parsers
  loop : Review.Loop
  rooms : Rooms

/-- What ends a run early. -/
inductive Fault where
  | settings (e : Settings.LoadFault)
  | disk (e : Disk.Failure)
  /-- A source is not text. -/
  | encoding (e : Text.Utf8.Fault)
  /-- A path is wanted and its place is empty. -/
  | noPath
  /-- A number of writes is wanted and its place is empty. -/
  | noCount
  /-- The update interval is too great for a float. -/
  | interval
  | write (e : Write.Failure)
  | statistics (e : Metrics.Fault)
  /-- A line with these units cannot be printed. -/
  | printing (units : List Nat)

def Fault.kind : Fault → Text
  | .settings e => e.kind
  | .disk e => e.kind
  | .encoding _ => "UnicodeDecodeError"
  | .noPath => "TypeError"
  | .noCount => "TypeError"
  | .interval => "OverflowError"
  | .write e => e.kind
  | .statistics e => e.kind
  | .printing _ => "UnicodeEncodeError"

def Fault.message : Fault → Text
  | .settings e => e.message
  | .disk e => e.message
  | .encoding e => e.message
  | .noPath => "expected str, bytes or os.PathLike object, not list"
  | .noCount => "bad operand type for unary -: 'list'"
  | .interval => "int too large to convert to float"
  | .write e => e.message
  | .statistics e => e.message
  | .printing units => Settings.noBytesMessage units

inductive Ending where
  /-- The arguments are no command. -/
  | stopped (s : Stop)
  | code (n : Nat)
  | fault (f : Fault)

/-- What a command does: its end, its output, its log and the disk it leaves. -/
structure Performance where
  ending : Ending
  /-- What the review printed. -/
  reviewed : Text
  /-- What was printed after it. -/
  printed : Text
  log : List Log.Record
  /-- Whether the log file itself was written anew. -/
  overLog : Bool
  /-- Whether the approver's lines or events ran out before there was a decision. -/
  awaiting : Bool
  /-- The screen of the viewer, when it was used. -/
  screen : Option (List Review.Widget)
  disk : Disk.Tree

def Performance.output (p : Performance) : Text := p.reviewed ++ p.printed

def Performance.saying (disk : Disk.Tree) (code : Nat) (printed : Text) (log : List Log.Record) :
    Performance :=
  ⟨.code code, [], printed, log, false, false, none, disk⟩

def Performance.failing (disk : Disk.Tree) (f : Fault) : Performance :=
  ⟨.fault f, [], [], [], false, false, none, disk⟩

def readSource (disk : Disk.Tree) (input : Text) : Source → Except Fault (Text × Text)
  | .input => .ok (input, [])
  | .nowhere => .error .noPath
  | .file path =>
    match disk.readFile path with
    | .error e => .error (.disk e)
    | .ok bytes =>
      match Text.Utf8.decode bytes with
      | .error e => .error (.encoding e)
      | .ok t => .ok (t, input)

def readSource? (disk : Disk.Tree) (input : Text) : Option Source →
    Except Fault (Option Text × Text)
  | none => .ok (none, input)
  | some source => (readSource disk input source).map fun r => (some r.1, r.2)

/-- The end of a command whose source cannot be read: a refusal by the system is told. -/
def sourceFailure (disk : Disk.Tree) : Fault → Performance
  | .disk e =>
    if e.isSystem then .saying disk 2 ("Error: " ++ e.message ++ "\n") []
    else .failing disk (.disk e)
  | f => .failing disk f

/-- Whether two paths end in the same name of the same directory. -/
def samePlace (disk : Disk.Tree) (a b : Text) : Bool :=
  match disk.target a, disk.target b with
  | .ok (.named p m _), .ok (.named q n _) => p == q && m == n
  | _, _ => false

def rulesOf (settings : Settings) : Omission.Rules :=
  Omission.defaultRules.extended settings.extraPhrases

def absoluteRoot (disk : Disk.Tree) (root : Text) : Text :=
  Disk.normalPath (Disk.joinPath disk.herePath root)

/-- The writer of a command, for files below an absolute root. -/
def writerOf (around : Surroundings) (settings : Settings) (a : WriteArguments) (root : Text)
    (interval : Float) : Write.Writer :=
  { store := ⟨root, around.rooms.store⟩
    dedupe := settings.dedupe && !a.keepRepeats
    rules := rulesOf settings
    interval
    checkSyntax := settings.checkSyntax && !a.skipSyntaxCheck
    parsers := around.parsers
    searchRoom := around.rooms.search
    journalRoot := if a.skipMetrics || !settings.metrics then none else some root
    journalRoom := around.rooms.journal
    today := around.today }

def answerText (path : Text) (answer : Write.Response) : Text :=
  answer.message ++ "\n" ++
    match answer.omission with
    | some report => if report.hasOmission then report.show path else []
    | none => []

def answerCode (answer : Write.Response) : Nat := if answer.status = .failure then 1 else 0

def isUndecided (loop : Review.Loop) (input : List Line) (events : List Review.Event) :
    Review.Surface → Bool
  | .console => input.all fun l => (Review.lineDecision? l).isNone
  | .viewer => !(loop .start events).exiting
  | .unattended => false

def answerRequest (writer : Write.Writer) (around : Surroundings) (surface : Review.Surface)
    (logPath input : Text) (request : Write.Request) : Performance :=
  let lines := Review.inputLines input
  let events := around.events
  let (result, session) :=
    Write.execute writer (.start around.disk) request
      (.atSurface around.loop surface lines events)
  let reviews := session.asked.map fun q => q.review around.loop surface lines events
  { ending := match result with
      | .ok answer => .code (answerCode answer)
      | .error e => .fault (.write e)
    reviewed := reviews.flatMap (·.printed)
    printed := match result with
      | .ok answer => answerText request.path answer
      | .error _ => []
    log := session.log
    overLog := match result with
      | .ok answer => decide (answer.status = .success) &&
          samePlace session.disk (writer.store.resolve request.path) logPath
      | .error _ => false
    awaiting := !reviews.isEmpty && isUndecided around.loop lines events surface
    screen := reviews.findSome? (·.screen)
    disk := session.disk }

def performWrite (around : Surroundings) (settings : Settings) (logPath : Text)
    (a : WriteArguments) : Performance :=
  if a.diff.isNone && a.content.isNone then
    .saying around.disk 2 "Error: one of --diff or --content is required\n" []
  else
    match readSource? around.disk around.input a.content with
    | .error f => sourceFailure around.disk f
    | .ok (content, input) =>
      match readSource? around.disk input a.diff with
      | .error f => sourceFailure around.disk f
      | .ok (diff, input) =>
        match a.root, Write.intervalOf? settings.updateInterval with
        | none, _ => .failing around.disk .noPath
        | some _, none => .failing around.disk .interval
        | some root, some interval =>
          answerRequest (writerOf around settings a (absoluteRoot around.disk root) interval)
            around (a.surface.getD settings.surface) logPath input ⟨a.path, content, diff⟩

def performCheck (around : Surroundings) (settings : Settings) (old candidate : Source) :
    Performance :=
  match readSource around.disk around.input old with
  | .error f => sourceFailure around.disk f
  | .ok (oldText, input) =>
    match readSource around.disk input candidate with
    | .error f => sourceFailure around.disk f
    | .ok (newText, _) =>
      let report := Omission.detect (rulesOf settings) oldText newText
      if report.hasOmission then
        .saying around.disk 1 (report.show candidate.name) report.notes
      else .saying around.disk 0 "  No omissions detected.\n" report.notes

def rateLine (label : Text) (rate : Float) : Text :=
  "  " ++ label ++ Number.oneDecimal rate ++ "%\n"

def ratesText (s : Metrics.Statistics) : Text :=
  "  Writes:        " ++ showNat s.total ++ "\n" ++
    rateLine "Success rate:  " s.successRate ++
    rateLine "Patch rate:    " s.patchRate ++
    rateLine "Omission rate: " s.omissionRate ++
    rateLine "Rejected:      " s.rejectionRate

/-- The count of an error kind as a line; a kind without bytes cannot be printed. -/
def kindLine (k : Data.Atom × Nat) : Except Fault Text :=
  let before : Text := "  Errors ("
  let after : Text := "): " ++ showNat k.2
  match k.1.plain with
  | .text t => .ok (before ++ t ++ after ++ "\n")
  | .broken ns => .error (.printing (before.map Char.toNat ++ ns ++ after.map Char.toNat))

/-- The lines about error kinds, up to the first that cannot be printed, and the fault in that one. -/
def kindLines : List (Data.Atom × Nat) → Text × Option Fault
  | [] => ([], none)
  | k :: ks =>
    match kindLine k with
    | .error f => ([], some f)
    | .ok line =>
      let (lines, fault) := kindLines ks
      (line ++ lines, fault)

def tellStatistics (disk : Disk.Tree) (s : Metrics.Statistics) : Performance :=
  let (lines, fault) := kindLines s.errorKinds
  { Performance.saying disk 0 (ratesText s ++ lines) [] with
    ending := match fault with
      | some f => .fault f
      | none => .code 0 }

def performStats (around : Surroundings) (root : Text) (last : Option Int) : Performance :=
  match Metrics.entries around.disk root, last with
  | .error e, _ => .failing around.disk (.statistics e)
  | .ok _, none => .failing around.disk .noCount
  | .ok entries, some last =>
    match Metrics.statisticsOf last entries with
    | .error e => .failing around.disk (.statistics e)
    | .ok s => tellStatistics around.disk s

def perform (around : Surroundings) (settings : Settings) (logPath : Text) : Job → Performance
  | .write a => performWrite around settings logPath a
  | .check old candidate => performCheck around settings old candidate
  | .stats root last => performStats around root last

def logFilePath (disk : Disk.Tree) (directory : Text) (today : Moment) : Text :=
  Disk.normalPath (Disk.joinPath disk.herePath
    (Disk.joinPath directory ("write_" ++ today.fileStamp ++ ".log")))

def appendLog (disk : Disk.Tree) (path : Text) (today : Moment) (log : List Log.Record) :
    Except Disk.Failure Disk.Tree :=
  disk.appendFile path (Text.Utf8.encode (log.flatMap (Log.Record.fileLine today.clock)))

/-- The disk with more records in its log file, as far as it takes them. -/
def keepLog (disk : Disk.Tree) (path : Text) (today : Moment) (log : List Log.Record) :
    Disk.Tree :=
  match appendLog disk path today log with
  | .ok disk => disk
  | .error _ => disk

def commandNote (c : Job) : Log.Record := ⟨.info, .command, "Command: " ++ c.name⟩

def openLog (room : Nat) (disk : Disk.Tree) (directory path : Text) (today : Moment) (c : Job) :
    Except Disk.Failure Unit × Disk.Tree :=
  match disk.makeDirectories room directory with
  | (.error e, disk) => (.error e, disk)
  | (.ok (), disk) =>
    match appendLog disk path today [commandNote c] with
    | .error e => (.error e, disk)
    | .ok disk => (.ok (), disk)

def runCommand (around : Surroundings) (settings : Settings) (c : Job) : Performance :=
  let path := logFilePath around.disk settings.logDirectory around.today
  match openLog around.rooms.log around.disk settings.logDirectory path around.today c with
  | (.error e, disk) => .failing disk (.disk e)
  | (.ok (), disk) =>
    let p := perform { around with disk } settings path c
    { p with
      log := commandNote c :: p.log
      disk := if p.overLog then p.disk else keepLog p.disk path around.today p.log }

def run (around : Surroundings) (arguments : List Text) : Performance :=
  match Invocation.ofArguments arguments with
  | .error s => ⟨.stopped s, [], [], [], false, false, none, around.disk⟩
  | .ok invocation =>
    match Settings.load around.reader around.disk around.disk.herePath around.home
        around.environment invocation.settingsFile with
    | .error e => .failing around.disk (.settings e)
    | .ok settings => runCommand around settings invocation.job

end Redline.Command
