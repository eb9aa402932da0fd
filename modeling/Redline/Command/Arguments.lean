import Redline.Command.Grammar
import Redline.Number.Decimal
import Redline.Review.Surface

set_option autoImplicit false
set_option relaxedAutoImplicit false

/-!
The commands of the program and their arguments: `write` a file, `check` a candidate for omissions,
and `stats` on past writes.
-/

namespace Redline.Command

open Review (Surface)

inductive Source where
  | input
  | file (path : Text)
  /-- The place where a source is wanted is empty. -/
  | nowhere
  deriving Repr, DecidableEq

/-- The source that a word names: a dash means the input. -/
def Source.ofWord (word : Text) : Source := if word = ['-'] then .input else .file word

def Source.name : Source → Text
  | .input => ['-']
  | .file path => path
  | .nowhere => []

structure WriteArguments where
  path : Text
  diff : Option Source
  content : Option Source
  /-- The root, unless its place is empty. -/
  root : Option Text
  /-- The surface, if it is not left to the settings. -/
  surface : Option Surface
  keepRepeats : Bool
  skipSyntaxCheck : Bool
  skipMetrics : Bool
  deriving Repr, DecidableEq

inductive Job where
  | write (a : WriteArguments)
  | check (old candidate : Source)
  /-- The number of writes is nothing if its place is empty. -/
  | stats (root : Text) (last : Option Int)
  deriving Repr, DecidableEq

def Job.name : Job → Text
  | .write _ => "write"
  | .check _ _ => "check"
  | .stats _ _ => "stats"

/-- A command and the settings file that is given for it. -/
structure Invocation where
  settingsFile : Option Text
  job : Job
  deriving Repr, DecidableEq

def anyValue (name : Text) : Flag := ⟨name, .value fun _ => true⟩

def plain (name : Text) : Flag := ⟨name, .nothing⟩

def surfaceNames : List Text := ["textual", "console", "auto"]

def isWhole (t : Text) : Bool := (Number.readInt t).isOk

/-- The grammar of the whole line, up to the name of the command. -/
def topGrammar : Grammar := ⟨[anyValue "config"], 1, true⟩

def writeGrammar : Grammar where
  flags := [
    anyValue "diff", anyValue "content", anyValue "root",
    ⟨"ui", .value fun v => surfaceNames.elem v⟩,
    plain "auto", plain "no-dedupe", plain "no-syntax-check", plain "no-metrics"]
  words := 1
  isOpen := false

def checkGrammar : Grammar := ⟨[], 2, false⟩

def statsGrammar : Grammar := ⟨[anyValue "root", ⟨"last", .value isWhole⟩], 0, false⟩

def Source.ofPlace : Option Text → Source
  | some w => .ofWord w
  | none => .nowhere

def sourceAt (words : List (Option Text)) (place : Nat) : Source := .ofPlace words[place]?.join

def surfaceGiven (t : Given) : Option Surface :=
  if t.has "auto" then some .unattended else (t.value? "ui").join.map Surface.ofName

def writeOf (t : Given) : Job :=
  .write {
    path := (t.words.head?.join).getD []
    diff := (t.value? "diff").map Source.ofPlace
    content := (t.value? "content").map Source.ofPlace
    root := (t.value? "root").getD (some ['.'])
    surface := surfaceGiven t
    keepRepeats := t.has "no-dedupe"
    skipSyntaxCheck := t.has "no-syntax-check"
    skipMetrics := t.has "no-metrics" }

def checkOf (t : Given) : Job := .check (sourceAt t.words 0) (sourceAt t.words 1)

/-- How many writes the statistics cover unless a number is given. -/
def defaultLast : Int := 50

/-- The whole number of a flag that accepts nothing else. -/
def wholeOf (t : Text) : Int :=
  match Number.readInt t with
  | .ok n => n
  | .error _ => defaultLast

def statsOf (t : Given) : Job :=
  .stats (((t.value? "root").getD (some ['.'])).getD [])
    (((t.value? "last").map (Option.map wholeOf)).getD (some defaultLast))

def commandNamed? (name : Text) : Option (Grammar × (Given → Job)) :=
  if name = ("write" : Text) then some (writeGrammar, writeOf)
  else if name = ("check" : Text) then some (checkGrammar, checkOf)
  else if name = ("stats" : Text) then some (statsGrammar, statsOf)
  else none

def Invocation.ofArguments (arguments : List Text) : Except Stop Invocation :=
  match topGrammar.read arguments with
  | .error s => .error s
  | .ok top =>
    match commandNamed? ((top.words.head?.join).getD []) with
    | none => .error .misuse
    | some (grammar, commandOf) =>
      match grammar.read top.rest with
      | .error s => .error s
      | .ok given =>
        if top.surplus || given.surplus then .error .misuse
        else .ok ⟨(top.value? "config").join, commandOf given⟩

def Stop.exitCode : Stop → Nat
  | .help => 0
  | .misuse => 2

end Redline.Command
