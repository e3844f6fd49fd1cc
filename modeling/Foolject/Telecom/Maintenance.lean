import Foolject.Telecom.Events

/-! What blocking, unblocking and resetting leave of a line.

The line that `open` makes is uninitialized, and a reset line is uninitialized again. Only
`OnInitialized` leads from there to the idle state, and no event runs it.
-/

set_option autoImplicit false

namespace Foolject.Telecom
open Transducer

/-- An event for which all that is asked of Global Call succeeds, except for addresses. -/
def MetaEvent.plain (type : GlobalCallEvent) (crn : Int) : MetaEvent :=
  ⟨type, crn, ⟨true, true, none, none, none⟩⟩

namespace TLine

variable {event : MetaEvent} {line : TLine}

/-- What is left when the line waits for calls. -/
theorem waitsForCall_fst (results : GcResults) (line : TLine) :
    (waitsForCall results line).1 =
      if results.waitCall = true ∧ line.state = .blocking then { line with state := .idle }
      else line := by
  unfold waitsForCall onUnblock
  cases results.waitCall with
  | false => simp
  | true =>
    by_cases blocked : line.state = .blocking
    · simp [onlyIf_pos, blocked]
    · simp [onlyIf_neg, blocked]

theorem reset_fst (results : GcResults) (line : TLine) :
    (reset results line).1 = { line with state := .uninitialized } := by
  have opened : (onOpened (onClosed line).1).1 = { line with state := .uninitialized } := by
    simp [onOpened, onClosed, onlyIf_pos]
  change (waitsForCall results (onOpened (onClosed line).1).1).1 = _
  rw [opened, waitsForCall_fst]
  simp

theorem input_unblocked (type : event.type = .unblocked) (found : event.results.getCRN = true) :
    (input (.event event) line).1 = (waitsForCall event.results line).1 := by
  rw [input_typed type found]
  rfl

theorem input_resetLineDev (type : event.type = .resetLineDev) (found : event.results.getCRN = true) :
    (input (.event event) line).1 = { line with state := .uninitialized } := by
  rw [input_typed type found]
  exact reset_fst event.results line

/-! ## Lines that wait for calls -/

/-- Without a call, the line is idle, and a seizure and an offer make the offered call incoming. -/
def TakesCall (line : TLine) : Prop :=
  line.callState = .invalid → line.state = .idle ∧
    ∀ detected offered : MetaEvent, detected.type = .detected → detected.results.getCRN = true →
      offered.type = .offered → offered.results.getCRN = true →
      (runAll input [.event detected, .event offered] line).1.callState = .incoming

theorem idle_incoming (idle : line.state = .idle) {detected offered : MetaEvent}
    (first : detected.type = .detected) (found : detected.results.getCRN = true)
    (second : offered.type = .offered) (foundToo : offered.results.getCRN = true) :
    (runAll input [.event detected, .event offered] line).1.callState = .incoming := by
  have seized : (input (.event detected) line).1.callState = .seizure := by
    rw [input_typed first found]
    simp [switch, onSeizureDetected, onlyIf_pos, idle, setCallDir]
  change (input (.event offered) (input (.event detected) line).1).1.callState = .incoming
  rw [input_typed second foundToo]
  simp [switch, TLine.offered, onIncoming, onlyIf_pos, seized]

theorem takesCall_iff : line.TakesCall ↔ (line.callState = .invalid → line.state = .idle) := by
  constructor
  · intro takes noCall
    exact (takes noCall).1
  · intro waits noCall
    refine ⟨waits noCall, fun detected offered first found second foundToo => ?_⟩
    exact idle_incoming (waits noCall) first found second foundToo

/-- Where `gc_WaitCall` succeeded, a line without a call can take one if and only if it was
unblocked, and not reset, and was blocked before or idle already. -/
theorem waitCall_takesCall (maintenance : event.type = .unblocked ∨ event.type = .resetLineDev)
    (found : event.results.getCRN = true) (waits : event.results.waitCall = true) :
    (input (.event event) line).1.TakesCall ↔ line.callState ≠ .invalid ∨
      event.type = .unblocked ∧ (line.state = .blocking ∨ line.state = .idle) := by
  rw [takesCall_iff]
  rcases maintenance with unblocked | resetLineDev
  · rw [input_unblocked unblocked found, waitsForCall_fst]
    by_cases blocked : line.state = .blocking
    · rw [if_pos ⟨waits, blocked⟩]
      simp [unblocked, blocked]
    · rw [if_neg fun both => blocked both.2]
      simp only [unblocked, blocked, true_and, false_or]
      exact Decidable.imp_iff_not_or
  · rw [input_resetLineDev resetLineDev found]
    simp [resetLineDev]

def started : TLine := (openLine true (fresh 0 [] [] 0)).1

theorem started_opened : started.Opened := ⟨0, [], [], 0, rfl⟩

theorem waitCall_takesCall_blocked :
    (input (.event (.plain .unblocked 0)) { started with state := .blocking }).1.TakesCall :=
  (@waitCall_takesCall (.plain .unblocked 0) { started with state := .blocking } (.inl rfl) rfl rfl).mpr
    (.inr ⟨rfl, .inl rfl⟩)

theorem waitCall_ignoresCall : ∃ line, system.Reaches System.Always line ∧
    Effect.waitCall ∈ (input (.event (.plain .unblocked 0)) line).2 ∧
    (input (.event (.plain .unblocked 0)) line).1.callState = .invalid ∧
    (input (.event (.plain .unblocked 0)) line).1.state = .uninitialized ∧
    ¬ (input (.event (.plain .unblocked 0)) line).1.TakesCall ∧
    (runAll input [.event (.plain .detected 0), .event (.plain .offered 7)]
      (input (.event (.plain .unblocked 0)) line).1).1.callState = .invalid := by
  -- A line that is opened and unblocked waits for calls and takes none.
  refine ⟨started, .start started_opened, by decide, by decide, by decide, ?_, by decide⟩
  intro takes
  exact absurd (takes (by decide)).1 (by decide)

/-! ## Lines that are reset -/

def marks (line : TLine) : TLineState × TCallState × Bool × Bool :=
  (line.state, line.callState, line.callEstablished, line.callNearDroped)

theorem marks_opened {opened : TLine} (isOpen : opened.Opened) {unblocked : MetaEvent}
    (type : unblocked.type = .unblocked) (found : unblocked.results.getCRN = true) :
    marks (input (.event unblocked) opened).1 = (.uninitialized, .invalid, false, true) := by
  obtain ⟨index, ani, dnis, crn, rfl⟩ := opened_eq isOpen
  rw [input_unblocked type found, waitsForCall_fst, if_neg fun both => by cases both.2]
  rfl

/-- A line that is reset is as if opened and unblocked if and only if no call has left its
marks on it. -/
theorem reset_marks (type : event.type = .resetLineDev) (found : event.results.getCRN = true)
    {opened : TLine} (isOpen : opened.Opened) {unblocked : MetaEvent}
    (typeToo : unblocked.type = .unblocked) (foundToo : unblocked.results.getCRN = true) :
    marks (input (.event event) line).1 = marks (input (.event unblocked) opened).1 ↔
      line.callState = .invalid ∧ line.callEstablished = false ∧ line.callNearDroped = true := by
  rw [marks_opened isOpen typeToo foundToo, input_resetLineDev type found]
  simp [marks]

theorem reset_marks_blocked :
    marks (input (.event (.plain .resetLineDev 0)) { started with state := .blocking }).1 =
      marks (input (.event (.plain .unblocked 0)) started).1 :=
  (@reset_marks (.plain .resetLineDev 0) { started with state := .blocking } rfl rfl
    started started_opened (.plain .unblocked 0) rfl rfl).mpr ⟨rfl, rfl, rfl⟩

theorem reset_keepsMarks : ∃ line, system.Reaches System.Always line ∧
    marks (input (.event (.plain .resetLineDev 0)) line).1 = (.uninitialized, .connected, true, false) ∧
    marks (input (.event (.plain .resetLineDev 0)) line).1 ≠
      marks (input (.event (.plain .unblocked 0)) started).1 := by
  -- A line that is reset when the far end has just dropped a connected call keeps all of it.
  have opens : system.Reaches System.Always started := .start started_opened
  obtain ⟨line, reached, left⟩ := opens.follow_any
    [.event (.plain .blocked 0), .event (.plain .unblocked 0), .event (.plain .detected 0),
      .event (.plain .offered 7), .event (.plain .answered 7), .event (.plain .disconnected 7)]
    (fun line => decide (marks (input (.event (.plain .resetLineDev 0)) line).1 =
      (.uninitialized, .connected, true, false))) (by decide +kernel)
  have marked := of_decide_eq_true left
  refine ⟨line, reached, marked, ?_⟩
  rw [marked]
  decide

end TLine

end Foolject.Telecom
