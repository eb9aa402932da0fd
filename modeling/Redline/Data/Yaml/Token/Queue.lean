import Redline.Data.Yaml.Token.Block
import Redline.Data.Yaml.Token.Label
import Redline.Data.Yaml.Token.Plain

set_option autoImplicit false
set_option relaxedAutoImplicit false

/-!
The tokens of a source in order. Whether a scalar is a key is known only when a colon follows it on
its line, so tokens wait in a queue as long as a mark for a key may still have to go before them. Tokens
that have left the queue before a fault stay valid.
-/

namespace Redline.Data.Yaml

/-- A token that is a key if a colon follows. -/
structure Candidate where
  /-- The number of brackets that are open around it. -/
  level : Nat
  /-- The number of tokens before it. -/
  number : Nat
  /-- Whether anything but a key would break the block that it stands in. -/
  required : Bool
  index : Nat
  line : Nat
  column : Nat
  deriving Repr, DecidableEq

/-- The tokens that are waiting and where the next ones are read. -/
structure Queue where
  cursor : Cursor
  tokens : List Token
  /-- The number of tokens that have left. -/
  taken : Nat
  /-- The number of brackets that are open. -/
  level : Nat
  /-- The column to the right of which the block's lines go on, or zero outside of all blocks. -/
  margin : Nat
  /-- The margins of the blocks around. -/
  outer : List Nat
  /-- Whether a key may begin at the next token. -/
  keyAllowed : Bool
  candidates : List Candidate
  /-- Whether the end has been read. -/
  isEnded : Bool

namespace Queue

def start (s : Source) : Queue := ⟨.start s, [], 0, 0, 0, [], true, [], false⟩

def push (q : Queue) (t : Token) : Queue := { q with tokens := q.tokens ++ [t] }

/-- Adds a token after which reading goes on at a position. -/
def pushAt (q : Queue) (t : Token) (c : Cursor) : Queue := { q.push t with cursor := c }

def insertAt (q : Queue) (number : Nat) (t : Token) : Queue :=
  let place := number - q.taken
  { q with tokens := q.tokens.take place ++ t :: q.tokens.drop place }

def inFlow (q : Queue) : Bool := q.level != 0

/-! ## Blocks -/

/-- Ends the blocks whose margins are to the right of a limit. -/
def unwindAll (limit : Nat) : List Nat → Queue → Queue
  | [], q => q
  | m :: ms, q =>
    if limit < q.margin then
      unwindAll limit ms { q.push .blockEnd with margin := m, outer := ms }
    else q

/-- Ends the blocks whose margins are to the right of a limit; brackets keep all open. -/
def unwind (limit : Nat) (q : Queue) : Queue :=
  if q.inFlow then q else unwindAll limit q.outer q

def opensAt (q : Queue) (column : Nat) : Bool := decide (q.margin ≤ column)

def openAt (q : Queue) (column : Nat) : Queue :=
  { q with margin := column + 1, outer := q.margin :: q.outer }

/-- Opens a block at the position if one begins there, outside of brackets. -/
def openBlock (q : Queue) (t : Token) : Queue :=
  if !q.inFlow && q.opensAt q.cursor.column then (q.openAt q.cursor.column).push t else q

/-! ## Candidates for keys -/

/-- Gives up the candidates for which a condition holds; a required one may not be given up. -/
def giveUp (q : Queue) (p : Candidate → Bool) : Except Fault Queue :=
  if q.candidates.any fun k => p k && k.required then .error .malformed
  else .ok { q with candidates := q.candidates.filter fun k => !p k }

/-- Gives up the candidate between the innermost brackets. -/
def giveUpHere (q : Queue) : Except Fault Queue := q.giveUp fun k => k.level == q.level

/-- The greatest distance of a colon from the start of its key. -/
def maxKeyLength : Nat := 1024

/-- Gives up candidates that are too far back. -/
def giveUpStale (q : Queue) : Except Fault Queue :=
  q.giveUp fun k =>
    k.line != q.cursor.line || decide (maxKeyLength < q.cursor.index - k.index)

/-- Makes the next token a candidate, if a key may begin at it. -/
def offer (q : Queue) : Except Fault Queue := do
  if !q.keyAllowed then return q
  let q ← q.giveUpHere
  let c := q.cursor
  let candidate : Candidate := {
    level := q.level, number := q.taken + q.tokens.length
    required := !q.inFlow && q.margin == c.column + 1
    index := c.index, line := c.line, column := c.column }
  return { q with candidates := candidate :: q.candidates }

/-! ## Tokens -/

/-- Passes over blanks, comments and line breaks before the next token. -/
def passGaps : Nat → Queue → Except Fault Queue
  | 0, q => .ok q
  | fuel + 1, q => do
    let c ← q.cursor.pass (· == ' ')
    let c ← if ← c.nextIs (· == '#') then c.pass fun ch => !isBreak ch else pure c
    if ← c.nextIs isBreak then
      passGaps fuel { q with cursor := ← c.move 1, keyAllowed := q.keyAllowed || !q.inFlow }
    else return { q with cursor := c }

/-- The position of the next token. A byte order mark may stand before the first one. -/
def passToToken (q : Queue) : Except Fault Queue := do
  let c := q.cursor
  let c ← if decide (c.index = 0) && (← c.nextIs (· == '\uFEFF')) then c.move 1 else pure c
  passGaps c.left.succ { q with cursor := c }

def closing (q : Queue) : Except Fault Queue := do
  let q ← (q.unwind 0).giveUpHere
  return { q with keyAllowed := false }

def readEnd (q : Queue) : Except Fault Queue := do
  let q ← q.closing
  return { q.push .streamEnd with candidates := [], isEnded := true }

def readDirectiveLine (q : Queue) : Except Fault Queue := do
  let q ← q.closing
  let (d, c) ← readDirective (← q.cursor.move 1)
  return q.pushAt (.directive d) c

/-- Reads the marker of a document's start or end. -/
def readMarker (t : Token) (q : Queue) : Except Fault Queue := do
  let q ← q.closing
  return q.pushAt t (← q.cursor.move 3)

def readOpening (t : Token) (q : Queue) : Except Fault Queue := do
  let q ← q.offer
  return { q.pushAt t (← q.cursor.move 1) with level := q.level + 1, keyAllowed := true }

def readClosing (t : Token) (q : Queue) : Except Fault Queue := do
  let q ← q.giveUpHere
  return { q.pushAt t (← q.cursor.move 1) with level := q.level - 1, keyAllowed := false }

def readComma (q : Queue) : Except Fault Queue := do
  let q ← { q with keyAllowed := true }.giveUpHere
  return q.pushAt .comma (← q.cursor.move 1)

/-- Outside of brackets a mark that opens a block may stand only where a key may begin. -/
def requireKey (q : Queue) : Except Fault Unit :=
  if !q.inFlow && !q.keyAllowed then .error .malformed else .ok ()

def readEntry (q : Queue) : Except Fault Queue := do
  q.requireKey
  let q ← { q.openBlock .blockList with keyAllowed := true }.giveUpHere
  return q.pushAt .entry (← q.cursor.move 1)

def readKey (q : Queue) : Except Fault Queue := do
  q.requireKey
  let q ← { q.openBlock .blockMap with keyAllowed := !q.inFlow }.giveUpHere
  return q.pushAt .key (← q.cursor.move 1)

/-- Puts the mark of a key before a candidate, and opens a block there if one begins. -/
def accept (q : Queue) (k : Candidate) : Queue :=
  let marked := q.insertAt k.number .key
  if !q.inFlow && q.opensAt k.column then (marked.openAt k.column).insertAt k.number .blockMap
  else marked

def readValue (q : Queue) : Except Fault Queue := do
  match q.candidates.find? fun k => k.level == q.level with
  | some k =>
    let q := { q.accept k with
      candidates := q.candidates.filter fun k => k.level != q.level, keyAllowed := false }
    return q.pushAt .value (← q.cursor.move 1)
  | none =>
    q.requireKey
    let q := { q.openBlock .blockMap with keyAllowed := !q.inFlow }
    return q.pushAt .value (← q.cursor.move 1)

def readLabel (read : Cursor → Except Fault (Token × Cursor)) (q : Queue) : Except Fault Queue := do
  let q ← q.offer
  let (t, c) ← read q.cursor
  return { q.pushAt t c with keyAllowed := false }

def readNamed (token : Text → Token) (c : Cursor) : Except Fault (Token × Cursor) := do
  let (name, c) ← readAnchor (← c.move 1)
  return (token name, c)

def readQuoted (read : Cursor → Except Fault (Wording × Cursor)) (c : Cursor) :
    Except Fault (Token × Cursor) := do
  let (w, c) ← read (← c.move 1)
  return (.scalar w false, c)

def readBlockScalar (folded : Bool) (q : Queue) : Except Fault Queue := do
  let q ← { q with keyAllowed := true }.giveUpHere
  let (w, c) ← readBlock folded q.margin (← q.cursor.move 1)
  return q.pushAt (.scalar w false) c

/-- Reads a plain scalar. A key may follow it if it ends with its line. -/
def readPlainScalar (q : Queue) : Except Fault Queue := do
  let q ← q.offer
  let (w, later, c) ← readPlain q.inFlow q.margin q.cursor
  return { q.pushAt (.scalar w true) c with keyAllowed := later }

/-- Whether the mark at the position stands alone, as it has to outside of brackets. -/
def standsAlone (q : Queue) : Except Fault Bool :=
  if q.inFlow then .ok true else (q.cursor.peekAt 1).map endsWord

/-- Reads what begins with a character that is no mark where it stands. -/
def readWordAt (q : Queue) (ch : Char) : Except Fault Queue := do
  if ← startsPlain q.inFlow q.cursor ch then q.readPlainScalar else throw .malformed

/-- Reads the token that begins with a character, outside of markers and directives. -/
def readAt (q : Queue) (ch : Char) : Except Fault Queue := do
  match ch with
  | '[' => q.readOpening .listOpen
  | '\x7b' => q.readOpening .mapOpen
  | ']' => q.readClosing .listClose
  | '\x7d' => q.readClosing .mapClose
  | ',' => q.readComma
  | '-' => if endsWord (← q.cursor.peekAt 1) then q.readEntry else q.readWordAt ch
  | '?' => if ← q.standsAlone then q.readKey else q.readWordAt ch
  | ':' => if ← q.standsAlone then q.readValue else q.readWordAt ch
  | '*' => q.readLabel (readNamed .alias)
  | '&' => q.readLabel (readNamed .anchor)
  | '!' => q.readLabel readTag
  | '|' => if q.inFlow then q.readWordAt ch else q.readBlockScalar false
  | '>' => if q.inFlow then q.readWordAt ch else q.readBlockScalar true
  | '\'' => q.readLabel (readQuoted readSingle)
  | '"' => q.readLabel (readQuoted readDouble)
  | _ => q.readWordAt ch

/-- Reads one more token, with the ends of the blocks that it closes before it. -/
def read (q : Queue) : Except Fault Queue := do
  let q ← (← q.passToToken).giveUpStale
  let q := q.unwind (q.cursor.column + 1)
  match ← q.cursor.peek with
  | none => q.readEnd
  | some ch =>
    if q.cursor.column = 0 then
      if ch == '%' then return ← q.readDirectiveLine
      if ch == '-' then
        if ← q.cursor.atMarker then return ← q.readMarker .documentStart
      if ch == '.' then
        if ← q.cursor.atMarker then return ← q.readMarker .documentEnd
    q.readAt ch

/-- The tokens that leave the queue: those before the first candidate. -/
def release (q : Queue) : Except Fault (List Token × Queue) := do
  let q ← q.giveUpStale
  let count :=
    match (q.candidates.map Candidate.number).min? with
    | some first => first - q.taken
    | none => q.tokens.length
  return (q.tokens.take count,
    { q with tokens := q.tokens.drop count, taken := q.taken + count })

/-- The tokens up to the end or to a fault; the fuel bounds their number. -/
def run : Nat → Queue → List Token × Option Fault
  | 0, _ => ([], some .malformed)
  | fuel + 1, q =>
    match q.read.bind release with
    | .error f => ([], some f)
    | .ok (ts, q) =>
      if q.isEnded then (ts, none)
      else let (more, fault) := run fuel q; (ts ++ more, fault)

end Queue

/-- The tokens of a source as far as they can be read, and the fault that ends them, if one does. -/
def Token.ofSource (s : Source) : List Token × Option Fault :=
  (Queue.start s).run (s.text.length + 2)

end Redline.Data.Yaml
