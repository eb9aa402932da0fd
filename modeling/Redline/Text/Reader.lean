import Redline.Text.Utf8

set_option autoImplicit false
set_option relaxedAutoImplicit false

/-!
Reading the bytes of a file chunk by chunk. A character that a chunk leaves unfinished is completed by
the next one, so the position in a fault counts from the bytes that were kept for it. Line breaks
become line feeds, and a carriage return at the end of a chunk waits for what follows it. What was
read before a fault has been read.
-/

namespace Redline.Text

open Utf8 (Bytes Fault)

/-- A text in which a carriage return, also one before a line feed, has become a line feed. -/
def withLineFeeds : Text → Text
  | [] => []
  | '\r' :: '\n' :: t => '\n' :: withLineFeeds t
  | c :: t => (if c == '\r' then '\n' else c) :: withLineFeeds t

/-- A file that has been read in part. -/
structure Reader where
  /-- The bytes that come next. -/
  ahead : Bytes
  /-- The bytes of a character that is not complete. -/
  kept : Bytes
  /-- Whether a carriage return waits. -/
  held : Bool
  /-- The text that has been read and is not yet taken. -/
  ready : Text
  /-- The number of bytes of the last chunk and of the characters that it gave. -/
  density : Nat × Nat
  deriving Repr, DecidableEq

namespace Reader

def start (b : Bytes) : Reader := ⟨b, [], false, [], (0, 1)⟩

/-- The least number of bytes in a chunk, as long as there are so many. -/
def chunkSize : Nat := 8192

/-- The number of bytes to read for some characters, if these are as wide as the last ones. -/
def sizeFor (r : Reader) (characters : Nat) : Nat :=
  max chunkSize (max characters (r.density.1 * characters / r.density.2))

/-- Text after a carriage return that may have waited, and whether one waits at its end. -/
def release (held atEnd : Bool) (t : Text) : Text × Bool :=
  let all : Text := if held && (atEnd || !t.isEmpty) then '\r' :: t else t
  if !atEnd && Text.endsWith all ['\r'] then (all.dropLast, true)
  else (all, held && !atEnd && t.isEmpty)

/-- Reads one more chunk, and tells whether that gave anything. -/
def pull (size : Nat) (r : Reader) : Except Fault (Reader × Bool) :=
  let chunk := r.ahead.take size
  let read := if chunk.isEmpty then (Utf8.decode r.kept).map (·, []) else
    Utf8.decodeFrom 0 (r.kept ++ chunk)
  read.map fun (t, kept) =>
    let (released, held) := release r.held chunk.isEmpty t
    let text := withLineFeeds released
    ({ ahead := r.ahead.drop size, kept, held, ready := r.ready ++ text
       density := if text.isEmpty then (0, 1) else (chunk.length, text.length) },
      !(chunk.isEmpty && text.isEmpty))

def chunks (r : Reader) : Nat := r.ahead.length + 2

/-- The next characters, so many as there are up to a number; `pulls` bounds the chunks read. -/
def takeWithin (count : Nat) : Nat → Reader → Except Fault (Text × Reader)
  | 0, r => .ok (r.ready.take count, { r with ready := r.ready.drop count })
  | pulls + 1, r =>
    if count ≤ r.ready.length then
      .ok (r.ready.take count, { r with ready := r.ready.drop count })
    else
      match r.pull (r.sizeFor (count - r.ready.length)) with
      | .error f => .error f
      | .ok (r, true) => takeWithin count pulls r
      | .ok (r, false) => .ok (r.ready, { r with ready := [] })

/-- The portions of a text with so many characters each, as far as they can be read. -/
def portionsWithin (count : Nat) : Nat → Reader → List (Except Fault Text)
  | 0, _ => []
  | pulls + 1, r =>
    match takeWithin count r.chunks r with
    | .error f => [.error f]
    | .ok ([], _) => []
    | .ok (t, r) => .ok t :: portionsWithin count pulls r

/-- The portions of a file's text with so many characters each. The last one may be a fault. -/
def portions (count : Nat) (b : Bytes) : List (Except Fault Text) :=
  portionsWithin count (b.length + 1) (start b)

def readableWithin : Nat → Reader → Text × Option Fault
  | 0, r => (r.ready, none)
  | pulls + 1, r =>
    match r.pull chunkSize with
    | .error f => (r.ready, some f)
    | .ok (r, true) => readableWithin pulls r
    | .ok (r, false) => (r.ready, none)

/-- The text of a file as far as it can be read, and the fault that ends it, if one does. -/
def readable (b : Bytes) : Text × Option Fault := readableWithin (start b).chunks (start b)

end Reader

end Redline.Text
