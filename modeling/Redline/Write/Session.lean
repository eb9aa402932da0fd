import Redline.Metrics.Journal
import Redline.Syntax.Check
import Redline.Write.Preview
import Redline.Write.Response
import Redline.Write.Store

set_option autoImplicit false
set_option relaxedAutoImplicit false

/-!
The session of a writer: its disk, its preview, its clock and its log. Streamed content reaches the
preview through the session, not more often than the writer's interval allows and not while a
request is being finished. Every step gives its result and the session after it.
-/

namespace Redline.Write

/-- What does not change during a session. -/
structure Writer where
  store : Store
  /-- Whether repeated lines between hunks are dropped. -/
  dedupe : Bool
  rules : Omission.Rules
  /-- The least time between streamed updates, in seconds. -/
  interval : Float
  checkSyntax : Bool
  parsers : Syntax.Parsers
  /-- How many calls may nest when a syntax tree is searched. -/
  searchRoom : Nat
  /-- The root of the project whose write log gets an entry for every answer. -/
  journalRoot : Option Text
  /-- How many calls may nest when the folder of the write log is made. -/
  journalRoom : Nat
  /-- The time that entries of the write log bear. -/
  today : Moment

/-- A change that an approver was asked about. -/
structure Question where
  path : Text
  old : Text
  new : Text
  deriving Repr, DecidableEq

structure Session where
  disk : Disk.Tree
  preview : Preview
  /-- Whether a request is being finished. -/
  finishing : Bool
  /-- The time of the last streamed update, in seconds. -/
  lastUpdate : Float
  /-- The time, in seconds. -/
  now : Float
  /-- What approvers have been asked, in order. -/
  asked : List Question
  /-- What has been logged, in order. -/
  log : List Log.Record

abbrev After (α : Type) : Type := Except Failure α × Session

namespace Session

def start (disk : Disk.Tree) : Session := ⟨disk, Preview.empty, false, 0, 0, [], []⟩

def noted (s : Session) (notes : List Log.Record) : Session := { s with log := s.log ++ notes }

def asking (s : Session) (q : Question) : Session := { s with asked := s.asked ++ [q] }

def openPreview (s : Session) (path : Text) : Session :=
  { s with preview := s.preview.openFor path }.noted [openedNote path]

def ensureOpen (s : Session) (path : Text) : Session :=
  if s.preview.isOpen then s else s.openPreview path

def updatePreview (s : Session) (content : Text) (final : Bool) : After Unit :=
  match s.preview.update content with
  | .error e => (.error e, s)
  | .ok p => (.ok (), { s with preview := p }.noted (updateNotes p content final))

/-- The session with its preview closed and its content dropped. -/
def revertPreview (s : Session) : Session :=
  { s with preview := s.preview.close }.noted (revertNotes s.preview)

/-- Saves the preview and closes it. A refused save leaves it as it was. -/
def savePreview (store : Store) (s : Session) : After Saved :=
  match s.preview.toSave with
  | .error e => (.error e, s)
  | .ok (path, content) =>
    match store.write s.disk path content with
    | (.error e, disk) => (.error (.disk e), { s with disk })
    | (.ok (), disk) =>
      (.ok ⟨content, none⟩,
        { s with disk, preview := s.preview.close }.noted [savedNote path])

def requestNote (level : Log.Level) (message : Text) : Log.Record :=
  ⟨level, .tool, "[WriteFile] " ++ message⟩

def tooEarly (w : Writer) (s : Session) : Bool := s.now - s.lastUpdate < w.interval

/-- Shows content that is still being streamed, unless it comes too early or too late. -/
def stream (w : Writer) (s : Session) (path content : Text) : After Unit :=
  if s.finishing then
    (.ok (), s.noted [requestNote .debug ("Skipping partial update while finalizing " ++ path)])
  else if s.tooEarly w then (.ok (), s)
  else
    match (s.ensureOpen path).updatePreview content false with
    | (.error e, s) => (.error e, s)
    | (.ok (), s) => (.ok (), { s with lastUpdate := s.now })

def abort (s : Session) : Session := (s.noted [requestNote .info "Aborting write"]).revertPreview

end Session

/-- What can be done in a session apart from finishing a request. -/
inductive Action where
  /-- Time has gone on. -/
  | wait (now : Float)
  | stream (path content : Text)
  | abort
  | openPreview (path : Text)
  | updatePreview (content : Text) (final : Bool)
  | revertPreview
  | savePreview
  | has (path : Text)
  | read (path : Text)
  | write (path content : Text)
  | remove (path : Text)
  | fail (fault : ApproverFault) (text : Text)

/-- What an action gives. -/
inductive Result where
  | nothing
  | flag (b : Bool)
  | text (t : Text)
  | saved (s : Saved)
  deriving Repr, DecidableEq

def Action.perform (w : Writer) (s : Session) : Action → After Result
  | .wait now => (.ok .nothing, { s with now })
  | .stream path content =>
    match s.stream w path content with
    | (.error e, s) => (.error e, s)
    | (.ok (), s) => (.ok .nothing, s)
  | .abort => (.ok .nothing, s.abort)
  | .openPreview path => (.ok .nothing, s.openPreview path)
  | .updatePreview content final =>
    match s.updatePreview content final with
    | (.error e, s) => (.error e, s)
    | (.ok (), s) => (.ok .nothing, s)
  | .revertPreview => (.ok .nothing, s.revertPreview)
  | .savePreview =>
    match s.savePreview w.store with
    | (.error e, s) => (.error e, s)
    | (.ok saved, s) => (.ok (.saved saved), s)
  | .has path => (.ok (.flag (w.store.has s.disk path)), s)
  | .read path => ((w.store.read s.disk path).map .text, s)
  | .write path content =>
    match w.store.write s.disk path content with
    | (.error e, disk) => (.error (.disk e), { s with disk })
    | (.ok (), disk) => (.ok .nothing, { s with disk })
  | .remove path =>
    match w.store.remove s.disk path with
    | .error e => (.error (.disk e), s)
    | .ok disk => (.ok .nothing, { s with disk })
  | .fail fault text => (.error (.approver fault text), s)

def performAll (w : Writer) (s : Session) : List Action → After Unit
  | [] => (.ok (), s)
  | a :: as =>
    match a.perform w s with
    | (.error e, s) => (.error e, s)
    | (.ok _, s) => performAll w s as

end Redline.Write
