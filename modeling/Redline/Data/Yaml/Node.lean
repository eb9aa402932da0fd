import Redline.Data.Yaml.Tag
import Redline.Data.Yaml.Token.Queue

set_option autoImplicit false
set_option relaxedAutoImplicit false

/-!
Nodes: what the tokens of one document make up. Nodes are numbered, and the nodes of lists and maps
refer to their parts by number, so that an alias is the number of the node that it names. A node is
named before its parts are read, so that it may be one of them.
-/

namespace Redline.Data.Yaml

inductive Shape where
  | scalar (w : Wording)
  | list (items : List Nat)
  | map (entries : List (Nat × Nat))
  deriving Repr, DecidableEq

structure Node where
  tag : Tag
  shape : Shape
  deriving Repr, DecidableEq

namespace Node

def empty : Node := ⟨.null, .scalar (.text [])⟩

def emptyList (tag : Tag) : Node := ⟨tag, .list []⟩

def emptyMap (tag : Tag) : Node := ⟨tag, .map []⟩

end Node

/-- What has been read of a document. -/
structure Draft where
  /-- The tokens that come next. -/
  tokens : List Token
  /-- The fault that ends the tokens, if one does. -/
  fault : Option Fault
  nodes : Array Node
  /-- The numbers of the nodes that anchors have named. -/
  names : List (Text × Nat)
  /-- What the handles of tags stand for. -/
  handles : List (Text × Text)

abbrev Drafting := StateT Draft (Except Fault)

namespace Draft

def peek : Drafting Token := do
  let d ← get
  match d.tokens with
  | t :: _ => return t
  | [] => throw (d.fault.getD .malformed)

def take : Drafting Unit := modify fun d => { d with tokens := d.tokens.drop 1 }

def add (n : Node) : Drafting Nat :=
  modifyGet fun d => (d.nodes.size, { d with nodes := d.nodes.push n })

def put (number : Nat) (n : Node) : Drafting Unit :=
  modify fun d => { d with nodes := d.nodes.setIfInBounds number n }

/-- Adds a node under the name of its anchor, which may not be in use. -/
def addNamed (anchor : Option Text) (n : Node) : Drafting Nat := do
  match anchor with
  | none => add n
  | some name =>
    if ((← get).names.lookup name).isSome then throw .malformed
    let number ← add n
    modify fun d => { d with names := (name, number) :: d.names }
    return number

/-! ## Labels -/

def usualHandles : List (Text × Text) := [("!", "!"), ("!!", Tag.standardStart)]

/-- The written tag of a node; a bare mark is one that leaves the choice. -/
def tagText (handle : Option Text) (suffix : Text) : Drafting Text := do
  match handle with
  | none => return suffix
  | some h =>
    match (← get).handles.lookup h with
    | some start => return start ++ suffix
    | none => throw .malformed

def takeAnchor : Drafting (Option Text) := do
  match ← peek with
  | .anchor name =>
    take
    return some name
  | _ => return none

def takeTag : Drafting (Option (Option Text × Text)) := do
  match ← peek with
  | .tag handle suffix =>
    take
    return some (handle, suffix)
  | _ => return none

def takeLabels : Drafting (Option Text × Option Text) := do
  let before ← takeAnchor
  let tag ← takeTag
  let after ← if before.isNone && tag.isSome then takeAnchor else pure none
  match tag with
  | none => return (before, none)
  | some (handle, suffix) => return (before.or after, some (← tagText handle suffix))

def partsTag (usual : Tag) (written : Option Text) : Tag :=
  match written with
  | none => usual
  | some t => if t = ['!'] then usual else .ofText t

/-- The tag of a scalar. A bare mark has it read as if it were plain. -/
def scalarTag (written : Option Text) (isPlain : Bool) (w : Wording) : Tag :=
  match written with
  | none => if isPlain then .ofPlain w else .text
  | some t => if t = ['!'] then .ofPlain w else .ofText t

/-! ## Nodes -/

def takeComma : Drafting Unit := do
  if (← peek) = .comma then take else throw .malformed

def readList (anchor : Option Text) (tag : Tag) (marked : Bool) (items : Drafting (List Nat)) :
    Drafting Nat := do
  let number ← addNamed anchor (.emptyList tag)
  if marked then take
  let ns ← items
  put number ⟨tag, .list ns⟩
  return number

def readMap (anchor : Option Text) (tag : Tag) (entries : Drafting (List (Nat × Nat))) :
    Drafting Nat := do
  let number ← addNamed anchor (.emptyMap tag)
  take
  let es ← entries
  put number ⟨tag, .map es⟩
  return number

def endsBlockValue : Token → Bool
  | .key => true
  | .value => true
  | .blockEnd => true
  | _ => false

def endsFlowEntry (close : Token) (t : Token) : Bool := t == .comma || t == close

mutual
/--
A node. Blocks begin only where `inBlock` holds; the entries of a list without a block of its own follow
only where `level` holds.
-/
def readNode : Nat → Bool → Bool → Drafting Nat
  | 0, _, _ => throw .malformed
  | fuel + 1, inBlock, level => do
    if let .alias name ← peek then
      take
      match (← get).names.lookup name with
      | some number => return number
      | none => throw .malformed
    let (anchor, tag) ← takeLabels
    match ← peek with
    | .scalar w isPlain =>
      take
      addNamed anchor ⟨scalarTag tag isPlain w, .scalar w⟩
    | .listOpen => readList anchor (partsTag .list tag) true (readFlowItems fuel true)
    | .mapOpen => readMap anchor (partsTag .map tag) (readFlowEntries fuel true)
    | t =>
      if t = .entry ∧ level then
        readList anchor (partsTag .list tag) false (readLevelItems fuel)
      else if t = .blockList ∧ inBlock then
        readList anchor (partsTag .list tag) true (readBlockItems fuel)
      else if t = .blockMap ∧ inBlock then
        readMap anchor (partsTag .map tag) (readBlockEntries fuel)
      else if anchor.isSome || tag.isSome then
        addNamed anchor ⟨scalarTag tag true (.text []), .scalar (.text [])⟩
      else throw .malformed

def readBlockItems : Nat → Drafting (List Nat)
  | 0 => throw .malformed
  | fuel + 1 => do
    match ← peek with
    | .entry =>
      take
      let t ← peek
      let item ←
        if t = .entry ∨ t = .blockEnd then add .empty else readNode fuel true false
      return item :: (← readBlockItems fuel)
    | .blockEnd =>
      take
      return []
    | _ => throw .malformed

def readLevelItems : Nat → Drafting (List Nat)
  | 0 => throw .malformed
  | fuel + 1 => do
    match ← peek with
    | .entry =>
      take
      let t ← peek
      let item ←
        if t = .entry || endsBlockValue t then add .empty else readNode fuel true false
      return item :: (← readLevelItems fuel)
    | _ => return []

def readBlockEntries : Nat → Drafting (List (Nat × Nat))
  | 0 => throw .malformed
  | fuel + 1 => do
    match ← peek with
    | .key =>
      take
      let key ← if endsBlockValue (← peek) then add .empty else readNode fuel true true
      let value ←
        if (← peek) = .value then
          take
          if endsBlockValue (← peek) then add .empty else readNode fuel true true
        else add .empty
      return (key, value) :: (← readBlockEntries fuel)
    | .blockEnd =>
      take
      return []
    | _ => throw .malformed

/-- A key inside brackets after its mark, and its value, if it has one. -/
def readFlowEntry : Nat → Token → Drafting (Nat × Nat)
  | 0, _ => throw .malformed
  | fuel + 1, close => do
    let t ← peek
    let key ←
      if t = .value || endsFlowEntry close t then add .empty else readNode fuel false false
    let value ←
      if (← peek) = .value then
        take
        if endsFlowEntry close (← peek) then add .empty else readNode fuel false false
      else add .empty
    return (key, value)

/-- The items of a list in brackets. An entry with a key among them is a map. -/
def readFlowItems : Nat → Bool → Drafting (List Nat)
  | 0, _ => throw .malformed
  | fuel + 1, first => do
    if (← peek) = .listClose then
      take
      return []
    if !first then takeComma
    match ← peek with
    | .listClose =>
      take
      return []
    | .key =>
      take
      let number ← add (.emptyMap .map)
      let entry ← readFlowEntry fuel .listClose
      put number ⟨.map, .map [entry]⟩
      return number :: (← readFlowItems fuel false)
    | _ =>
      let item ← readNode fuel false false
      return item :: (← readFlowItems fuel false)

/-- The entries of a map in brackets. One without a mark has no value. -/
def readFlowEntries : Nat → Bool → Drafting (List (Nat × Nat))
  | 0, _ => throw .malformed
  | fuel + 1, first => do
    if (← peek) = .mapClose then
      take
      return []
    if !first then takeComma
    match ← peek with
    | .mapClose =>
      take
      return []
    | .key =>
      take
      let entry ← readFlowEntry fuel .mapClose
      return entry :: (← readFlowEntries fuel false)
    | _ =>
      let key ← readNode fuel false false
      discard peek
      let value ← add .empty
      return (key, value) :: (← readFlowEntries fuel false)
end

/-! ## Documents -/

/-- Takes the directives before a document; the fuel bounds their number. -/
def takeDirectives : Nat → Bool → Drafting Unit
  | 0, _ => throw .malformed
  | fuel + 1, versioned => do
    match ← peek with
    | .directive d =>
      take
      match d with
      | .version major =>
        if versioned ∨ major ≠ 1 then throw .malformed
        takeDirectives fuel true
      | .handle name start =>
        if ((← get).handles.lookup name).isSome then throw .malformed
        modify fun d => { d with handles := d.handles ++ [(name, start)] }
        takeDirectives fuel versioned
      | .other => takeDirectives fuel versioned
    | _ => modify fun d => { d with handles := d.handles ++ usualHandles }

def endsContent : Token → Bool
  | .directive _ => true
  | .documentStart => true
  | .documentEnd => true
  | .streamEnd => true
  | _ => false

def takeStart : Drafting Unit := do
  if (← peek) = .documentStart then take else throw .malformed

def readRoot (fuel : Nat) : Drafting (Option Nat) := do
  match ← peek with
  | .streamEnd => return none
  | t =>
    takeDirectives fuel false
    if endsContent t then
      takeStart
      if endsContent (← peek) then return some (← add .empty)
    return some (← readNode fuel true false)

/-- Requires that no other document follows. End markers may stand there. -/
def requireEnd : Nat → Drafting Unit
  | 0 => throw .malformed
  | fuel + 1 => do
    match ← peek with
    | .documentEnd =>
      take
      requireEnd fuel
    | .streamEnd => return
    | _ =>
      modify fun d => { d with handles := [] }
      takeDirectives fuel.succ false
      discard peek
      throw .malformed

def fuelFor (tokens : List Token) : Nat := 2 * tokens.length + 4

/-- The nodes of a source's document and the number of the whole, if there is a document. -/
def ofSource (s : Source) : Except Fault (Array Node × Option Nat) := do
  let (tokens, fault) := Token.ofSource s
  let fuel := fuelFor tokens
  let read : Drafting (Option Nat) := do
    let root ← readRoot fuel
    if root.isSome then requireEnd fuel
    return root
  let (root, d) ← read.run ⟨tokens, fault, #[], [], []⟩
  return (d.nodes, root)

end Draft

end Redline.Data.Yaml
