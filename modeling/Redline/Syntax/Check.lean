import Redline.Disk.Tree
import Redline.Log
import Redline.Number.Decimal
import Redline.Syntax.Tree
import Redline.Text.Lower

set_option autoImplicit false
set_option relaxedAutoImplicit false

/-!
The check whether a saved text still parses. The language follows from the extension of the file
name; the grammars themselves are given from outside. The verdict is advisory.
-/

namespace Redline.Syntax

inductive Language where
  | python
  | javascript
  | typescript
  | tsx
  deriving Repr, DecidableEq

def Language.name : Language → Text
  | .python => "python"
  | .javascript => "javascript"
  | .typescript => "typescript"
  | .tsx => "tsx"

def extensions : List (Text × Language) := [
  (".py", .python), (".js", .javascript), (".mjs", .javascript), (".cjs", .javascript),
  (".jsx", .javascript), (".ts", .typescript), (".tsx", .tsx)]

def Language.ofPath? (path : Text) : Option Language :=
  extensions.lookup (Text.lower (Disk.extension path))

abbrev Parsers := Language → Text → Tree

namespace Fault

def message : Fault → Text
  | .tooDeep => Disk.tooDeepMessage
  | .longNumber => Number.longMessage

def kind : Fault → Text
  | .tooDeep => "RecursionError"
  | .longNumber => "ValueError"

end Fault

/-- Whether the start point of a node, counted from one, cannot be written. -/
def Tree.hasLongPoint (t : Tree) : Bool := Number.isLong (t.row + 1) || Number.isLong (t.column + 1)

def faultMessage (language : Language) (t : Tree) : Text :=
  language.name ++ " syntax error near line " ++ Number.showInt (t.row + 1) ++ ", column " ++
    Number.showInt (t.column + 1)

/-- The words about what a search has found. -/
def verdict (language : Language) : Option Tree → Except Fault (Option Text)
  | none => .ok none
  | some t => if t.hasLongPoint then .error .longNumber else .ok (some (faultMessage language t))

/-- What is wrong with the text of a file, if its language is known and anything is wrong. -/
def check (room : Nat) (parsers : Parsers) (path content : Text) : Except Fault (Option Text) :=
  match Language.ofPath? path with
  | none => .ok none
  | some language =>
    match (parsers language content).firstFault room with
    | .error f => .error f
    | .ok found => verdict language found

def checkNotes (room : Nat) (parsers : Parsers) (path content : Text) : List Log.Record :=
  match check room parsers path content with
  | .ok (some m) => [⟨.debug, .syntaxTrees, "[Syntax] " ++ path ++ ": " ++ m⟩]
  | _ => []

end Redline.Syntax
