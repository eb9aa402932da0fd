import Redline.Data.Yaml.Node

set_option autoImplicit false
set_option relaxedAutoImplicit false

/-!
Merging maps. The value of a merge key is a map or a list of maps, whose entries come before the map's
own; of several maps the first one's entries come last, so that they count. Each merge key is taken out
of its map before its value is looked at, so that merging ends also where maps merge themselves.
-/

namespace Redline.Data.Yaml

abbrev Nodes := Array Node

namespace Nodes

def node (g : Nodes) (n : Nat) : Node := (g[n]?).getD .empty

def entries (g : Nodes) (n : Nat) : List (Nat × Nat) :=
  match (g.node n).shape with
  | .map es => es
  | _ => []

def isMap (g : Nodes) (n : Nat) : Bool :=
  match (g.node n).shape with
  | .map _ => true
  | _ => false

def setEntries (g : Nodes) (n : Nat) (es : List (Nat × Nat)) : Nodes :=
  g.setIfInBounds n ⟨(g.node n).tag, .map es⟩

def plainKey (g : Nodes) (n : Nat) : Nodes :=
  if (g.node n).tag = .value then g.setIfInBounds n ⟨.text, (g.node n).shape⟩ else g

/-- Makes texts of those keys among entries that would stand for their map. -/
def plainKeys (g : Nodes) (es : List (Nat × Nat)) : Nodes := es.foldl (fun g e => g.plainKey e.1) g

def mergeCount (g : Nodes) : Nat :=
  g.foldl (fun n node => match node.shape with
    | .map es => n + es.countP fun e => (g.node e.1).tag == .merge
    | _ => n) 0

/--
Takes the merge keys of a map from a place on out of it and puts what they merge, after entries that are
merged already, before the map's own entries. The fuel bounds the number of merge keys.
-/
def mergeFrom : Nat → Nat → Nat → List (Nat × Nat) → Nodes → Except Fault Nodes
  | 0, _, _, _, _ => .error .malformed
  | fuel + 1, n, place, merged, g =>
    let ahead := (g.entries n).drop place
    match ahead.findIdx? fun e => (g.node e.1).tag == .merge with
    | none =>
      let g := g.plainKeys ahead
      .ok (if merged.isEmpty then g else g.setEntries n (merged ++ g.entries n))
    | some k => do
      let g := g.plainKeys (ahead.take k)
      let value := ((ahead[k]?).map Prod.snd).getD n
      let g := g.setEntries n ((g.entries n).eraseIdx (place + k))
      match (g.node value).shape with
      | .map _ =>
        let g ← mergeFrom fuel value 0 [] g
        mergeFrom fuel n (place + k) (merged ++ g.entries value) g
      | .list items =>
        let (g, parts) ← items.foldlM (fun (acc : Nodes × List (Nat × Nat)) item => do
          if !acc.1.isMap item then throw .malformed
          let g ← mergeFrom fuel item 0 [] acc.1
          return (g, g.entries item ++ acc.2)) (g, [])
        mergeFrom fuel n (place + k) (merged ++ parts) g
      | .scalar _ => throw .malformed

/-- The nodes after what a map's merge keys name has been merged into it. -/
def merge (g : Nodes) (n : Nat) : Except Fault Nodes := mergeFrom (g.mergeCount + 1) n 0 [] g

end Nodes

end Redline.Data.Yaml
