import Redline.Data.Json
import Redline.Disk.Operations
import Redline.Log
import Redline.Moment

set_option autoImplicit false
set_option relaxedAutoImplicit false

/-!
The write log: a file with one JSON object per write, in the order of the writes. Each entry begins
with the time at which it was made. A system that refuses an entry is reported, not passed on.
-/

namespace Redline.Metrics

open Data (Value)

/-- The folder of the write log below a project's root. -/
def folderName : Text := ".udiff_writer"

def fileName : Text := "write_metrics.jsonl"

def folderPath (root : Text) : Text := Disk.joinPath root folderName

def journalPath (root : Text) : Text := Disk.joinPath (folderPath root) fileName

/-- The members of an entry: the time, then the given ones in order. -/
def entryMembers (now : Moment) (data : List (Text × Value)) : List (Wording × Value) :=
  data.foldl (fun es d => Value.insertEntry (.text d.1) d.2 es)
    [(.text "timestamp", .text now.stamp)]

def entryLine (now : Moment) (data : List (Text × Value)) : Text :=
  Data.Json.write (.map (entryMembers now data)) ++ "\n"

def refusedNote (e : Disk.Failure) : Log.Record :=
  ⟨.warning, .metrics, "[WriteFile] Failed to write metrics: " ++ e.message⟩

def refuse (e : Disk.Failure) : Except Disk.Failure (List Log.Record) :=
  if e.isSystem then .ok [refusedNote e] else .error e

/-- Adds an entry to the write log of a project. -/
def record (room : Nat) (disk : Disk.Tree) (root : Text) (now : Moment)
    (data : List (Text × Value)) : Except Disk.Failure (List Log.Record) × Disk.Tree :=
  match disk.makeDirectories room (folderPath root) with
  | (.error e, disk) => (refuse e, disk)
  | (.ok (), disk) =>
    match disk.appendFile (journalPath root) (Text.Utf8.encode (entryLine now data)) with
    | .error e => (refuse e, disk)
    | .ok disk => (.ok [], disk)

end Redline.Metrics
