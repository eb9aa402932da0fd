import Redline.Text.Basic

set_option autoImplicit false
set_option relaxedAutoImplicit false

/-!
The framing that a model puts around the text of a file: a fence of three backticks before and
after it, and angle brackets and quotes written as entities. Unframing takes both away.
-/

namespace Redline.Write

def fence : Text := ['\x60', '\x60', '\x60']

/-- Puts the characters back for which the three entities stand. -/
def decodeEntities : Text → Text
  | [] => []
  | '&' :: 'g' :: 't' :: ';' :: t => '>' :: decodeEntities t
  | '&' :: 'l' :: 't' :: ';' :: t => '<' :: decodeEntities t
  | '&' :: 'q' :: 'u' :: 'o' :: 't' :: ';' :: t => '"' :: decodeEntities t
  | c :: t => c :: decodeEntities t

def openFence (t : Text) : Text :=
  if Text.startsWith t fence then Text.trim (Text.unlines (t.lines.drop 1)) else t

def closeFence (t : Text) : Text :=
  if Text.endsWith t fence then Text.trim (Text.unlines t.lines.dropLast) else t

def unframe (t : Text) : Text := decodeEntities (closeFence (openFence (Text.trim t)))

end Redline.Write
