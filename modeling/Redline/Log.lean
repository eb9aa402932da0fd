import Redline.Text.Basic

set_option autoImplicit false
set_option relaxedAutoImplicit false

/-!
Log records: what the program reports about its own work, apart from its answers.
-/

namespace Redline

namespace Log

/-- How much a record matters. -/
inductive Level where
  | debug
  | info
  | warning
  | failure
  deriving Repr, DecidableEq

def Level.name : Level → Text
  | .debug => "DEBUG"
  | .info => "INFO"
  | .warning => "WARNING"
  | .failure => "ERROR"

/-- The part of the program that writes a record. -/
inductive Channel where
  | command
  | tool
  | workspace
  | hunks
  | patches
  | omissions
  | metrics
  | syntaxTrees
  deriving Repr, DecidableEq

def Channel.name : Channel → Text
  | .command => "udiff_writer"
  | .tool => "udiff_writer.writer"
  | .workspace => "udiff_writer.workspace"
  | .hunks => "udiff_writer.editing.hunk_parser"
  | .patches => "udiff_writer.editing.patch_applier"
  | .omissions => "udiff_writer.editing.omission"
  | .metrics => "udiff_writer.editing.metrics"
  | .syntaxTrees => "udiff_writer.editing.syntax_check"

structure Record where
  level : Level
  channel : Channel
  message : Text
  deriving Repr, DecidableEq

def Record.summary (r : Record) : Text := r.level.name ++ ' ' :: r.message

/-- A record as a line of a log file, written at the given time of day. -/
def Record.fileLine (time : Text) (r : Record) : Text :=
  time ++ " [" ++ r.level.name ++ "] " ++ r.channel.name ++ ": " ++ r.message ++ "\n"

end Log

end Redline
