import Redline.Text.Row

set_option autoImplicit false
set_option relaxedAutoImplicit false

/-!
Diffs in colour: each row of a diff is painted by its kind, for a terminal or as markup for the
full-screen viewer. Markup escapes the brackets that open its own tags.
-/

namespace Redline.Review

inductive RowKind where
  | fileHeader
  | hunkHeader
  | added
  | removed
  | plain
  deriving Repr, DecidableEq

def RowKind.ofRow (r : Text) : RowKind :=
  if Text.startsWith r ['+', '+', '+'] || Text.startsWith r ['-', '-', '-'] then .fileHeader
  else if Text.startsWith r ['@', '@'] then .hunkHeader
  else if Text.startsWith r ['+'] then .added
  else if Text.startsWith r ['-'] then .removed
  else .plain

def terminalCode (code : Text) : Text := '\x1b' :: '[' :: code ++ ['m']

def paint (code r : Text) : Text := terminalCode code ++ r ++ terminalCode "0"

def terminalRow (r : Text) : Text :=
  match RowKind.ofRow r with
  | .fileHeader => paint "1" r
  | .hunkHeader => paint "36" r
  | .added => paint "32" r
  | .removed => paint "31" r
  | .plain => r

def terminalDiff (diff : Text) : Text := Text.unlines (diff.rows.map terminalRow)

def escapeMarkup (t : Text) : Text := Text.expand (fun c => if c == '[' then ['\\', '['] else [c]) t

def tagged (tag t : Text) : Text := '[' :: tag ++ ']' :: t ++ '[' :: '/' :: tag ++ [']']

def markupRow (r : Text) : Text :=
  match RowKind.ofRow r with
  | .fileHeader => tagged "bold white" (escapeMarkup r)
  | .hunkHeader => tagged "cyan" (escapeMarkup r)
  | .added => tagged "green" (escapeMarkup r)
  | .removed => tagged "red" (escapeMarkup r)
  | .plain => escapeMarkup r

def markupDiff (diff : Text) : Text := Text.unlines (diff.rows.map markupRow)

end Redline.Review
