import Redline.Command.Run
import Redline.Data.Yaml.Document

set_option autoImplicit false
set_option relaxedAutoImplicit false

/-!
What the program is given by the platform it runs on: a reader of settings files, a loop of events for
the viewer, and room for calls in each other.
-/

namespace Redline.Platform

def reader : Settings.Reader := fun bytes =>
  match Data.Yaml.read (.ofBytes bytes) with
  | .ok d => .document d
  | .error .malformed => .malformed
  | .error f => .fault f.kind f.message

/-- Brings events to a viewer, one after the other, until it exits. -/
def loop : Review.Loop
  | v, [] => v
  | v, e :: es => if v.exiting then v else loop (v.handle e) es

/-- Of a thousand calls that may nest, a command uses some before it comes to these places. -/
def rooms : Command.Rooms := ⟨990, 980, 980, 980⟩

end Redline.Platform
