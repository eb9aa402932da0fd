import Redline.Data.Document
import Redline.Data.Yaml.Merge
import Redline.Data.Yaml.Scalar

set_option autoImplicit false
set_option relaxedAutoImplicit false

/-!
The document that nodes make up. Lists and maps are begun when they are met and filled one level after
the other, so a list or map may be part of itself, and of two faults the one on the outer level counts.
Each node gives the part with its number.
-/

namespace Redline.Data.Yaml

/-- A document that is being made. -/
structure Building where
  nodes : Nodes
  /-- The parts that nodes have given so far, by their numbers. -/
  parts : Array (Option Part)
  /-- The numbers of parts that wait to be filled, the last one first. -/
  waiting : List Nat

namespace Building

def start (g : Nodes) : Building := ⟨g, Array.replicate g.size none, []⟩

def put (b : Building) (n : Nat) (p : Part) : Building :=
  { b with parts := b.parts.setIfInBounds n (some p) }

/-- The wording of a node; the fuel bounds how often a key stands for its map. -/
def wordingWithin (g : Nodes) : Nat → Nat → Except Fault Wording
  | 0, _ => .error .malformed
  | fuel + 1, n =>
    match (g.node n).shape with
    | .scalar w => .ok w
    | .list _ => .error .malformed
    | .map es =>
      match es.find? fun e => (g.node e.1).tag == .value with
      | some e => wordingWithin g fuel e.2
      | none => .error .malformed

def scalar (b : Building) (n : Nat) : Except Fault Scalar := do
  let w ← wordingWithin b.nodes (b.nodes.size + 1) n
  match (b.nodes.node n).tag with
  | .timestamp => if b.nodes.isMap n then throw .timestampOfMap else valueOf .timestamp w
  | tag => valueOf tag w

def begin (b : Building) (n : Nat) (p : Part) : Building :=
  { b.put n p with waiting := n :: b.waiting }

def make (b : Building) (n : Nat) : Except Fault Building :=
  match (b.parts[n]?).join with
  | some _ => .ok b
  | none =>
    match (b.nodes.node n).tag with
    | .list => .ok (b.begin n (.list []))
    | .map => .ok (b.begin n (.map []))
    | .set => .ok (b.begin n (.set []))
    | .pairs => .ok (b.begin n (.pairs []))
    | .merge => .error .malformed
    | .value => .error .malformed
    | .other => .error .malformed
    | _ => (b.scalar n).map fun s => b.put n (.single s)

def key (b : Building) (n : Nat) : Except Fault Scalar :=
  match (b.parts[n]?).join with
  | some (.single s) => .ok s
  | _ => .error .malformed

/-- Makes the parts of a map's entries, after those before them. -/
def makeEntries (b : Building) (before : List (Scalar × Nat)) :
    List (Nat × Nat) → Except Fault (Building × List (Scalar × Nat))
  | [] => .ok (b, before)
  | (k, v) :: es => do
    let b ← b.make k
    let key ← b.key k
    let b ← b.make v
    makeEntries b (Scalar.insertEntry key v before) es

/-- The entries of a map, and the document with their parts. -/
def fillMap (b : Building) (n : Nat) : Except Fault (Building × List (Scalar × Nat)) := do
  if !b.nodes.isMap n then throw .malformed
  let nodes ← b.nodes.merge n
  { b with nodes }.makeEntries [] (nodes.entries n)

def items (b : Building) (n : Nat) : Except Fault (List Nat) :=
  match (b.nodes.node n).shape with
  | .list ns => .ok ns
  | _ => .error .malformed

/-- Makes the part of the one entry of a map. -/
def makePair (b : Building) (n : Nat) : Except Fault (Building × (Nat × Nat)) := do
  match b.nodes.entries n with
  | [(k, v)] =>
    let b ← b.make k
    let b ← b.make v
    return (b, (k, v))
  | _ => throw .malformed

def makePairs (b : Building) : List Nat → Except Fault (Building × List (Nat × Nat))
  | [] => .ok (b, [])
  | n :: ns => do
    let (b, pair) ← b.makePair n
    let (b, pairs) ← makePairs b ns
    return (b, pair :: pairs)

def fill (b : Building) (n : Nat) : Except Fault Building := do
  match (b.nodes.node n).tag with
  | .list =>
    let ns ← b.items n
    let b ← ns.foldlM make b
    return b.put n (.list ns)
  | .map =>
    let (b, es) ← b.fillMap n
    return b.put n (.map es)
  | .set =>
    let (b, es) ← b.fillMap n
    return b.put n (.set (Scalar.ordered (es.map Prod.fst)))
  | .pairs =>
    let (b, ps) ← b.makePairs (← b.items n)
    return b.put n (.pairs ps)
  | _ => return b

/-- Fills the parts that wait, one level after the other; the fuel bounds the number of levels. -/
def fillAll : Nat → Building → Except Fault Building
  | 0, b => .ok b
  | fuel + 1, b => do
    if b.waiting.isEmpty then return b
    let level := b.waiting.reverse
    fillAll fuel (← level.foldlM fill { b with waiting := [] })

def document (g : Nodes) (root : Nat) : Except Fault Document := do
  let b ← (Building.start g).make root
  let b ← b.fillAll (g.size + 1)
  return ⟨b.parts.map fun p => p.getD (.single .null), root⟩

end Building

/-- The document in a source. A source without one holds nothing. -/
def read (s : Source) : Except Fault Document := do
  match ← Draft.ofSource s with
  | (_, none) => return ⟨#[.single .null], 0⟩
  | (nodes, some root) => Building.document nodes root

end Redline.Data.Yaml
