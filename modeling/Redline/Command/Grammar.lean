import Redline.Text.Digit

set_option autoImplicit false
set_option relaxedAutoImplicit false

/-!
Words and flags of a command line. A flag begins with two dashes and may be shortened as long as
only one flag begins so; its value follows it or an equals sign. A bare `--` ends the flags. What
is neither a known flag nor wanted is surplus.
-/

namespace Redline.Command

inductive Need where
  | nothing
  /-- A value, of which some are accepted. -/
  | value (accepts : Text → Bool)
  /-- The flag asks for help. -/
  | help

/-- A flag, by its name without dashes. -/
structure Flag where
  name : Text
  need : Need

def Flag.help : Flag := ⟨"help", .help⟩

/-- The flags of a command and the number of its words. -/
structure Grammar where
  flags : List Flag
  words : Nat
  /-- Whether all that follows the last word belongs to what that word names. -/
  isOpen : Bool

def Grammar.allFlags (g : Grammar) : List Flag := .help :: g.flags

/-- Why reading stops. -/
inductive Stop where
  | help
  | misuse
  deriving Repr, DecidableEq

inductive Reading where
  | word
  /-- The bare `--`. -/
  | separator
  | flag (f : Flag) (attached : Option Text)
  /-- Letters after a single dash, of which the first asks for help. -/
  | letters (s : Stop)
  | unknown

structure Argument where
  text : Text
  reading : Reading

def separator : Text := ['-', '-']

/-- Whether a text is digits, with or without a point among them that more digits follow. -/
def isNumeral (t : Text) : Bool :=
  match t.dropWhile Text.isDigit with
  | [] => !t.isEmpty
  | '.' :: fraction => !fraction.isEmpty && fraction.all Text.isDigit
  | _ => false

/-- Whether an argument is a negative number. One line feed may follow it. -/
def isNegativeNumeral : Text → Bool
  | '-' :: t => isNumeral t || (Text.endsWith t ['\n'] && isNumeral t.dropLast)
  | _ => false

/-- The reading of an argument with a dash that is no flag: numbers and phrases are words. -/
def dashedReading (argument : Text) : Reading :=
  if isNegativeNumeral argument || argument.elem ' ' then .word else .unknown

def sameLetters (t : Text) : Stop := if t.all (· == 'h') then .help else .misuse

/-- The outcome of what follows a first `h`: more of the same, also after an equals sign. -/
def lettersOutcome : Text → Stop
  | '=' :: t => if t.isEmpty then .misuse else sameLetters t
  | t => sameLetters t

def cutAtEquals (t : Text) : Text × Option Text :=
  match t.dropWhile (· != '=') with
  | [] => (t, none)
  | _ :: value => (t.takeWhile (· != '='), some value)

/-- The reading of an argument with two dashes; `body` is what follows them. -/
def Grammar.longReading (g : Grammar) (body : Text) : Except Stop Reading :=
  let (name, attached) := cutAtEquals body
  match g.allFlags.find? fun f => f.name == name with
  | some f => .ok (.flag f attached)
  | none =>
    match g.allFlags.filter fun f => Text.startsWith f.name name with
    | [] => .ok (dashedReading ('-' :: '-' :: body))
    | [f] => .ok (.flag f attached)
    | _ => .error .misuse

def Grammar.reading (g : Grammar) : Text → Except Stop Reading
  | '-' :: '-' :: body => g.longReading body
  | '-' :: 'h' :: letters => .ok (.letters (lettersOutcome letters))
  | '-' :: c :: t => .ok (dashedReading ('-' :: c :: t))
  | _ => .ok .word

def Grammar.readAll (g : Grammar) : List Text → Except Stop (List Argument)
  | [] => .ok []
  | a :: as =>
    if a = separator then .ok (⟨a, .separator⟩ :: as.map (⟨·, .word⟩))
    else
      match g.reading a with
      | .error s => .error s
      | .ok r => (g.readAll as).map (⟨a, r⟩ :: ·)

/-- What a command line has given. -/
structure Given where
  /-- The words; a `--` where a word is wanted gives an empty place. -/
  words : List (Option Text)
  /-- The values of flags, the last one first; a `--` after an equals sign gives an empty place. -/
  values : List (Text × Option Text)
  /-- The flags that have no value. -/
  switches : List Text
  surplus : Bool
  /-- What follows the last word of an open grammar. -/
  rest : List Text
  deriving Repr, DecidableEq

def Given.nothing : Given := ⟨[], [], [], false, []⟩

def Given.value? (t : Given) (name : Text) : Option (Option Text) := t.values.lookup name

def Given.has (t : Given) (name : Text) : Bool := t.switches.elem name

def Given.withValue (t : Given) (f : Flag) (value : Option Text) : Given :=
  { t with values := (f.name, value) :: t.values }

/-- What stands before an argument. -/
inductive Before where
  | word
  | separator
  | other
  deriving Repr, DecidableEq

/-- A wanted word: a `--` is one only directly after the bare `--`. -/
def wordOf (before : Before) (t : Text) : Option Text :=
  if t = separator ∧ before ≠ .separator then none else some t

def Grammar.take (g : Grammar) (before : Before) (t : Given) : List Argument → Except Stop Given
  | [] => if t.words.length < g.words then .error .misuse else .ok t
  | a :: as =>
    match a.reading with
    | .letters s => .error s
    | .unknown => g.take .other { t with surplus := true } as
    | .separator =>
      if g.isOpen then .error .misuse
      else if before = .word then g.take .other t as
      else if t.words.length < g.words then g.take .separator t as
      else g.take .other { t with surplus := true } as
    | .word =>
      if t.words.length < g.words then
        let t := { t with words := t.words ++ [wordOf before a.text] }
        if g.isOpen then .ok { t with rest := as.map Argument.text }
        else g.take .word t as
      else g.take .other { t with surplus := true } as
    | .flag f none =>
      match f.need with
      | .help => .error .help
      | .nothing => g.take .other { t with switches := f.name :: t.switches } as
      | .value accepts =>
        match as with
        | ⟨v, .word⟩ :: as =>
          if accepts v then g.take .other (t.withValue f (some v)) as
          else .error .misuse
        | _ => .error .misuse
    | .flag f (some v) =>
      match f.need with
      | .value accepts =>
        if v = separator then g.take .other (t.withValue f none) as
        else if accepts v then g.take .other (t.withValue f (some v)) as
        else .error .misuse
      | _ => .error .misuse

def Grammar.read (g : Grammar) (arguments : List Text) : Except Stop Given :=
  match g.readAll arguments with
  | .error s => .error s
  | .ok as => g.take .other .nothing as

end Redline.Command
