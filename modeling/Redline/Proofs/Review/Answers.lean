import Redline.Platform
import Redline.Proofs.Text.Lines

set_option autoImplicit false
set_option relaxedAutoImplicit false

/-!
Where decisions come from. On the console the first line that is not blank decides. In the viewer it is
the first event that means something, if the loop of the toolkit hands over the events in their order and
none once the viewer has asked to exit. Approval has to be spelled out: whatever else is said is feedback or
a rejection, and where nothing is said the change is rejected.
-/

namespace Redline.Review

/-! The console. -/

/-- The first line that is not blank, without surrounding blanks. -/
def answer? (ls : List Line) : Option Text := (ls.map Text.trim).find? fun t => !t.isEmpty

def approvals : List Text := ["a", "approve"]

/-- What rejects a change, in small letters. -/
def rejections : List Text := ["r", "reject"]

def decisionOf (answer : Text) : Decision :=
  if approvals.elem (Text.lower answer) then .approve
  else if rejections.elem (Text.lower answer) then .reject
  else .feedback (some answer)

variable {l : Line} {ls more : List Line} {a : Text} {d : Decision}

private theorem answer?_cons_of_blank (blank : Text.trim l = []) : answer? (l :: ls) = answer? ls := by
  rw [answer?, List.map_cons, List.find?_cons_of_neg (by simp [blank])]
  rfl

private theorem answer?_cons_of_filled (filled : Text.trim l ≠ []) :
    answer? (l :: ls) = some (Text.trim l) := by
  rw [answer?, List.map_cons, List.find?_cons_of_pos (by simpa using filled)]

private theorem ne_nil_of_answer? (answered : answer? ls = some a) : a ≠ [] := by
  simpa using List.find?_some answered

private theorem answer?_append (ls more : List Line) :
    answer? (ls ++ more) = (answer? ls).or (answer? more) := by
  rw [answer?, List.map_append, List.find?_append]
  rfl

private theorem lineDecision?_of_blank (blank : Text.trim l = []) : lineDecision? l = none := by
  rw [lineDecision?, blank]
  decide

private theorem lineDecision?_of_filled (filled : Text.trim l ≠ []) :
    lineDecision? l = some (decisionOf (Text.trim l)) := by
  have notEmpty : (Text.trim l).isEmpty = false := by simpa using filled
  unfold lineDecision? decisionOf
  simp only [List.elem_iff, approvals, rejections, List.mem_cons, List.not_mem_nil, or_false, notEmpty]
  split
  · rfl
  · split <;> rfl

private theorem ask_eq (ls : List Line) :
    (ask ls).decision = ((answer? ls).map decisionOf).getD .reject ∧
      (ask ls).unread = (ls.dropWhile fun l => (Text.trim l).isEmpty).tail := by
  induction ls with
  | nil => exact ⟨rfl, rfl⟩
  | cons l ls ih =>
    by_cases blank : Text.trim l = []
    · rw [ask, lineDecision?_of_blank blank, answer?_cons_of_blank blank,
        List.dropWhile_cons_of_pos (by simp [blank])]
      exact ih
    · rw [ask, lineDecision?_of_filled blank, answer?_cons_of_filled blank,
        List.dropWhile_cons_of_neg (by simpa using blank)]
      exact ⟨rfl, rfl⟩

private theorem ask_append (answered : answer? ls ≠ none) (more : List Line) :
    (ask (ls ++ more)).decision = (ask ls).decision ∧
      (ask (ls ++ more)).printed = (ask ls).printed := by
  induction ls with
  | nil => exact absurd rfl answered
  | cons l ls ih =>
    by_cases blank : Text.trim l = []
    · rw [answer?_cons_of_blank blank] at answered
      obtain ⟨decision, printed⟩ := ih answered
      rw [List.cons_append, ask, ask, lineDecision?_of_blank blank]
      exact ⟨decision, by simp only [printed]⟩
    · rw [List.cons_append, ask, ask, lineDecision?_of_filled blank]
      exact ⟨rfl, rfl⟩

/-! Which decision is in an answer. -/

private theorem decisionOf_eq_approve_iff : decisionOf a = .approve ↔ Text.lower a ∈ approvals := by
  simp only [decisionOf, List.elem_iff]
  split
  · rename_i approves
    simp [approves]
  · rename_i other
    split <;> simp [other]

private theorem decisionOf_eq_reject_iff : decisionOf a = .reject ↔ Text.lower a ∈ rejections := by
  have apart : ∀ t ∈ approvals, t ∉ rejections := by decide
  simp only [decisionOf, List.elem_iff]
  split
  · rename_i approves
    simp [apart _ approves]
  · split
    · rename_i rejects
      simp [rejects]
    · rename_i other
      simp [other]

private theorem decisionOf_eq_feedback_iff {t : Option Text} : decisionOf a = .feedback t ↔
    t = some a ∧ Text.lower a ∉ approvals ++ rejections := by
  simp only [decisionOf, List.elem_iff]
  rw [List.mem_append]
  split
  · rename_i approves
    simp [approves]
  · split
    · rename_i rejects
      simp [rejects]
    · rename_i notApproval notRejection
      simp [notApproval, notRejection, eq_comm]

/-! Lines of input. -/

private theorem exists_inputLines (input : Text) :
    ∃ closing, input.lines = inputLines input ++ closing ∧ answer? closing = none := by
  unfold inputLines
  simp only
  split
  · rename_i empty
    obtain ⟨ls, cut⟩ := List.getLast?_eq_some_iff.mp empty
    refine ⟨[[]], ?_, rfl⟩
    rw [cut, List.dropLast_concat]
  · exact ⟨[], (List.append_nil _).symm, rfl⟩

private theorem answer?_inputLines (input : Text) : answer? (inputLines input) = answer? input.lines := by
  obtain ⟨closing, cut, silent⟩ := exists_inputLines input
  rw [cut, answer?_append, silent, Option.or_none]

private theorem inputLines_append_feed (input more : Text) :
    inputLines (input ++ '\n' :: more) = input.lines ++ inputLines more := by
  have last : (input.lines ++ more.lines).getLast? = more.lines.getLast? := by
    rw [List.getLast?_append, List.getLast?_eq_some_getLast (Text.lines_ne_nil more)]
    rfl
  unfold inputLines
  rw [Text.lines_append_cons_feed]
  simp only [last]
  split
  · exact List.dropLast_append_of_ne_nil (Text.lines_ne_nil more)
  · rfl

structure DoesAnswer (reviewed : Text → Outcome) (input : Text) : Prop where
  approve : (reviewed input).decision = .approve ↔
    ∃ a, answer? input.lines = some a ∧ Text.lower a ∈ approvals
  reject : (reviewed input).decision = .reject ↔ answer? input.lines = none ∨
    ∃ a, answer? input.lines = some a ∧ Text.lower a ∈ rejections
  feedback : ∀ t, (reviewed input).decision = .feedback t ↔ ∃ a, answer? input.lines = some a ∧
    a ≠ [] ∧ t = some a ∧ Text.lower a ∉ approvals ++ rejections
  /-- The lines after the answer are left unread. -/
  unread : (reviewed input).unread =
    ((inputLines input).dropWhile fun l => (Text.trim l).isEmpty).tail
  later : answer? input.lines ≠ none → ∀ more,
    (reviewed (input ++ '\n' :: more)).decision = (reviewed input).decision ∧
      (reviewed (input ++ '\n' :: more)).printed = (reviewed input).printed

private theorem doesAnswer_console (loop : Loop) (path old new input : Text) (events : List Event) :
    DoesAnswer (fun input => review loop .console path old new (inputLines input) events) input := by
  have asked (input : Text) :
      (review loop .console path old new (inputLines input) events).decision =
        ((answer? input.lines).map decisionOf).getD .reject := by
    rw [← answer?_inputLines]
    exact (ask_eq (inputLines input)).1
  refine ⟨?_, ?_, ?_, (ask_eq (inputLines input)).2, ?_⟩
  · simp only [asked]
    cases answer? input.lines with
    | none => simp
    | some a => simp [decisionOf_eq_approve_iff]
  · simp only [asked]
    cases answer? input.lines with
    | none => simp
    | some a => simp [decisionOf_eq_reject_iff]
  · intro t
    simp only [asked]
    cases answered : answer? input.lines with
    | none => simp
    | some a => simp [decisionOf_eq_feedback_iff, ne_nil_of_answer? answered]
  · intro answered more
    rw [← answer?_inputLines] at answered
    obtain ⟨closing, cut, -⟩ := exists_inputLines input
    obtain ⟨decision, printed⟩ := ask_append answered (closing ++ inputLines more)
    have longer : inputLines (input ++ '\n' :: more) =
        inputLines input ++ (closing ++ inputLines more) := by
      rw [inputLines_append_feed, cut, List.append_assoc]
    simp only [longer]
    refine ⟨decision, ?_⟩
    exact congrArg (announcement (Change.between path old new) ++ ·) printed

/-! The viewer. -/

def Event.Means : Event → Decision → Prop
  | .press b, d => b = "approve-btn" ∧ d = .approve ∨ b = "reject-btn" ∧ d = .reject
  | .key k, d => k = "ctrl+s" ∧ d = .approve ∨ k = "escape" ∧ d = .reject
  | .submit t, d => Text.trim t ≠ [] ∧ d = .feedback (some (Text.trim t))

/-- Whether an event means nothing: a button or key that is not known, or blank feedback. -/
def Event.IsIdle : Event → Prop
  | .press b => b ≠ "approve-btn" ∧ b ≠ "reject-btn"
  | .key k => k ≠ "ctrl+s" ∧ k ≠ "escape"
  | .submit t => Text.trim t = []

instance : DecidablePred Event.IsIdle
  | .press b => inferInstanceAs (Decidable (b ≠ "approve-btn" ∧ b ≠ "reject-btn"))
  | .key k => inferInstanceAs (Decidable (k ≠ "ctrl+s" ∧ k ≠ "escape"))
  | .submit t => inferInstanceAs (Decidable (Text.trim t = []))

variable {e : Event} {events : List Event}

private theorem Event.means_or_isIdle (e : Event) : (∃ d, e.Means d) ∨ e.IsIdle := by
  cases e with
  | press b =>
    by_cases approves : b = "approve-btn"
    · exact .inl ⟨.approve, .inl ⟨approves, rfl⟩⟩
    · by_cases rejects : b = "reject-btn"
      · exact .inl ⟨.reject, .inr ⟨rejects, rfl⟩⟩
      · exact .inr ⟨approves, rejects⟩
  | key k =>
    by_cases approves : k = "ctrl+s"
    · exact .inl ⟨.approve, .inl ⟨approves, rfl⟩⟩
    · by_cases rejects : k = "escape"
      · exact .inl ⟨.reject, .inr ⟨rejects, rfl⟩⟩
      · exact .inr ⟨approves, rejects⟩
  | submit t =>
    by_cases blank : Text.trim t = []
    · exact .inr blank
    · exact .inl ⟨_, blank, rfl⟩

private theorem Viewer.handle_of_means (v : Viewer) (means : e.Means d) : v.handle e = v.settle d := by
  cases e with
  | press b => rcases means with ⟨rfl, rfl⟩ | ⟨rfl, rfl⟩ <;> rfl
  | key k => rcases means with ⟨rfl, rfl⟩ | ⟨rfl, rfl⟩ <;> rfl
  | submit t =>
    obtain ⟨filled, rfl⟩ := means
    rw [Viewer.handle, Viewer.submit, if_neg (by simpa using filled)]

private theorem Viewer.handle_of_isIdle (v : Viewer) (idle : e.IsIdle) : v.handle e = v := by
  cases e with
  | press b => rw [Viewer.handle, Viewer.press, if_neg idle.1, if_neg idle.2]
  | key k =>
    obtain ⟨notSave, notEscape⟩ := idle
    have unbound : Viewer.bindings.lookup k = none := by
      simp only [Viewer.bindings, List.lookup_cons, List.lookup_nil, beq_false_of_ne notSave,
        beq_false_of_ne notEscape]
    rw [Viewer.handle, Viewer.key, unbound]
  | submit t =>
    have blank : (Text.trim t).isEmpty = true := List.isEmpty_iff.mpr idle
    rw [Viewer.handle, Viewer.submit, if_pos blank]

/--
Whether a loop hands over events as the toolkit says: one after the other in their order, and none to a
viewer that has asked to exit.
-/
structure Loop.Delivers (loop : Loop) : Prop where
  nil : ∀ v, loop v [] = v
  exiting : ∀ v events, v.exiting = true → loop v events = v
  cons : ∀ v e events, v.exiting = false → loop v (e :: events) = loop (v.handle e) events

/-- Whether the first of some events that means anything means this decision, or none does. -/
def Decides (events : List Event) (d : Decision) : Prop :=
  (∃ before e after, events = before ++ e :: after ∧ (∀ b ∈ before, b.IsIdle) ∧ e.Means d) ∨
    (∀ e ∈ events, e.IsIdle) ∧ d = .reject

namespace Loop.Delivers

variable {loop : Loop}

private theorem decision_nil (delivers : loop.Delivers) : loop.decision [] = .reject := by
  rw [Loop.decision, delivers.nil]
  rfl

private theorem decision_cons_of_isIdle (delivers : loop.Delivers) (idle : e.IsIdle) (events : List Event) :
    loop.decision (e :: events) = loop.decision events := by
  rw [Loop.decision, delivers.cons _ _ _ rfl, Viewer.handle_of_isIdle _ idle, Loop.decision]

private theorem decision_cons_of_means (delivers : loop.Delivers) (means : e.Means d)
    (events : List Event) : loop.decision (e :: events) = d := by
  rw [Loop.decision, delivers.cons _ _ _ rfl, Viewer.handle_of_means _ means,
    delivers.exiting _ _ rfl]
  rfl

private theorem decision_append_idle (delivers : loop.Delivers) (idle : e.IsIdle)
    (before after : List Event) :
    loop.decision (before ++ e :: after) = loop.decision (before ++ after) := by
  induction before with
  | nil => exact delivers.decision_cons_of_isIdle idle after
  | cons b before ih =>
    rw [List.cons_append, List.cons_append]
    rcases b.means_or_isIdle with ⟨d, means⟩ | nothing
    · rw [delivers.decision_cons_of_means means, delivers.decision_cons_of_means means]
    · rw [delivers.decision_cons_of_isIdle nothing, delivers.decision_cons_of_isIdle nothing, ih]

private theorem decides_decision (delivers : loop.Delivers) (events : List Event) :
    Decides events (loop.decision events) := by
  induction events with
  | nil => exact .inr ⟨by simp, delivers.decision_nil⟩
  | cons e events ih =>
    rcases e.means_or_isIdle with ⟨d, means⟩ | idle
    · rw [delivers.decision_cons_of_means means]
      exact .inl ⟨[], e, events, rfl, by simp, means⟩
    · rw [delivers.decision_cons_of_isIdle idle]
      rcases ih with ⟨before, f, after, split, idles, means⟩ | ⟨idles, rejects⟩
      · have longer : ∀ b ∈ e :: before, b.IsIdle := List.forall_mem_cons.mpr ⟨idle, idles⟩
        exact .inl ⟨e :: before, f, after, by rw [split]; rfl, longer, means⟩
      · exact .inr ⟨List.forall_mem_cons.mpr ⟨idle, idles⟩, rejects⟩

private theorem decision_append_of_idles (delivers : loop.Delivers) (idles : ∀ e ∈ events, e.IsIdle)
    (after : List Event) : loop.decision (events ++ after) = loop.decision after := by
  induction events with
  | nil => rfl
  | cons e events ih =>
    obtain ⟨idle, others⟩ := List.forall_mem_cons.mp idles
    rw [List.cons_append, delivers.decision_cons_of_isIdle idle, ih others]

private theorem decision_eq_iff (delivers : loop.Delivers) :
    loop.decision events = d ↔ Decides events d := by
  constructor
  · rintro rfl
    exact delivers.decides_decision events
  · rintro (⟨before, e, after, rfl, idles, means⟩ | ⟨idles, rfl⟩)
    · rw [delivers.decision_append_of_idles idles, delivers.decision_cons_of_means means]
    · have none := delivers.decision_append_of_idles idles []
      rw [List.append_nil] at none
      exact none.trans delivers.decision_nil

end Loop.Delivers

private theorem delivers_loop : Loop.Delivers Platform.loop where
  nil v := by rw [Platform.loop]
  exiting v events exits := by
    cases events with
    | nil => rw [Platform.loop]
    | cons e events => rw [Platform.loop, if_pos exits]
  cons v e events goesOn := by rw [Platform.loop, goesOn, if_neg Bool.false_ne_true]

private theorem ofName_eq_console {ui : Text} (notAuto : ui ≠ "auto") (notTextual : ui ≠ "textual") :
    Surface.ofName ui = .console := by
  rw [Surface.ofName, if_neg notAuto, if_neg notTextual]

/--
On the console the first line that is not blank decides: it approves only if it spells an approval, a
rejection is spelled or nothing is said, and all else is feedback; later lines are not read. In a viewer to
which events are delivered the first one that means something decides, and the change is rejected if none
does.
-/
theorem approval_is_never_inferred (loop : Loop) (path old new : Text) :
    (∀ (ui input : Text) events, ui ≠ "auto" → ui ≠ "textual" →
      DoesAnswer (fun input => review loop (.ofName ui) path old new (inputLines input) events) input) ∧
    (loop.Delivers →
      (∀ lines events d,
        (review loop (.ofName "textual") path old new lines events).decision = d ↔ Decides events d) ∧
      ∀ lines before e after, e.IsIdle →
        (review loop (.ofName "textual") path old new lines (before ++ e :: after)).decision =
          (review loop (.ofName "textual") path old new lines (before ++ after)).decision) := by
  refine ⟨?_, fun delivers => ⟨?_, ?_⟩⟩
  · intro ui input events notAuto notTextual
    rw [ofName_eq_console notAuto notTextual]
    exact doesAnswer_console loop path old new input events
  · intro lines events d
    exact delivers.decision_eq_iff
  · intro lines before e after idle
    exact delivers.decision_append_idle idle before after

/-- An approval that comes after feedback, or after a rejection, comes too late. -/
theorem approval_is_never_inferred_late :
    (review Platform.loop (.ofName "console") "a.py" "" "x" (inputLines " \nnot yet \na") []).decision =
      .feedback (some "not yet") ∧
    (review Platform.loop (.ofName "console") "a.py" "" "x" (inputLines " \nnot yet \na") []).unread =
      [['a']] ∧
    (review Platform.loop (.ofName "textual") "a.py" "" "x" []
      [.key "a", .submit " ", .press "reject-btn", .key "ctrl+s"]).decision = .reject := by
  obtain ⟨console, viewer⟩ := approval_is_never_inferred Platform.loop "a.py" "" "x"
  have answered := console "console" " \nnot yet \na" [] (by decide) (by decide)
  have late : Decides [.key "a", .submit " ", .press "reject-btn", .key "ctrl+s"] .reject :=
    .inl ⟨[.key "a", .submit " "], .press "reject-btn", [.key "ctrl+s"], rfl, by decide,
      .inr ⟨rfl, rfl⟩⟩
  refine ⟨?_, ?_, ((viewer delivers_loop).1 [] _ _).mpr late⟩
  · exact (answered.feedback _).mpr ⟨"not yet", by decide, by decide, rfl, by decide⟩
  · exact answered.unread.trans (by decide)

end Redline.Review
