import Foolject.Telecom.Handlers
import Foolject.Telecom.Maintenance

/-! The release of each call when it is dropped.

The call that is offered or placed, and not dropped yet, is kept beside the line. An offer is
not tracked where the seizure before it was ignored; such a call is never released.
-/

set_option autoImplicit false

namespace Foolject.Telecom
open Transducer

/-- The call references that `gc_ReleaseCallEx` is called with. -/
def releases (effects : List Effect) : List Int := effects.filterMap fun effect =>
  match effect with
  | .releaseCallEx crn => some crn
  | _ => none

theorem releases_append (before after : List Effect) :
    releases (before ++ after) = releases before ++ releases after := List.filterMap_append

namespace TLine

variable {label : LineInput} {line : TLine} {event : MetaEvent}

/-! ## What a dropped call releases -/

theorem releases_setCallState (state : TCallState) (line : TLine) :
    releases (setCallState state line).2 = [] := by
  cases state with
  | _ => rfl

theorem releases_reportEvent (msg : List Char) (line : TLine) : releases (reportEvent msg line).2 = [] := by
  unfold reportEvent emit
  dsimp only
  split <;> rfl

theorem releases_onDisconnected (reason : List Char) (line : TLine) :
    releases (onDisconnected reason line).2 = if line.callState = .invalid then [] else [line.crn] := by
  unfold onDisconnected onlyIf
  by_cases none : line.callState = .invalid
  · rw [if_neg (not_not.mpr none), if_pos none]
    rfl
  · rw [if_pos none, if_neg none]
    change releases (_ ++ (_ ++ [Effect.releaseCallEx line.crn])) = _
    rw [releases_append, releases_append, releases_setCallState, releases_reportEvent]
    rfl

theorem releases_dropped (line : TLine) :
    releases (dropped line).2 = if line.callState = .invalid then [] else [line.crn] := by
  rw [dropped_eq]
  exact releases_onDisconnected _ line.exited

theorem releases_dropCall (type : event.type = .dropCall) (found : event.results.getCRN = true) :
    releases (input (.event event) line).2 = if line.callState = .invalid then [] else [line.crn] := by
  rw [input_typed type found]
  exact releases_dropped line

theorem releases_dropCall_lost (lost : event.results.getCRN = false) :
    releases (input (.event event) line).2 = [] := by
  rw [input_lost (ne_true_of_eq_false lost)]
  rfl

/-! ## The reference of the call -/

theorem crn_parts : Parts fun before _ after => after.crn = before.crn where
  composes := .same crn
  state _ _ := rfl
  callState state _ line := congrArg Prod.fst (setCallState_callPart state line)
  callDir _ _ := rfl
  numbers _ _ _ := rfl
  reportEvent _ _ := rfl
  request _ _ _ := rfl
  marks _ _ _ _ := rfl

theorem crn_released (found : event.results.getCRN = true) (type : event.type = .releaseCall) :
    (input (.event event) line).1.crn = line.crn := by
  rw [input_typed type found]
  rfl

theorem crn_kept (none : begins label = none) : (input label line).1.crn = line.crn := by
  by_cases ends : Handles .releaseCall label
  · cases label with
    | event event => exact crn_released ends.2 ends.1
    | voice event => cases ends
    | command command => cases ends
  · exact crn_parts.input none ends line

def Found : LineInput → Prop
  | .event event => event.type = .offered → event.results.getCRN = true
  | _ => True

theorem crn_begins {crn : Int} (begun : begins label = some crn) (found : Found label) :
    (input label line).1.crn = crn := by
  cases label with
  | event event =>
    obtain ⟨type, same⟩ := Option.ite_none_right_eq_some.mp begun
    cases same
    rw [input_typed type (found type)]
    exact congrArg Prod.fst (callPart_run (.incoming _ _) { line with crn := event.crn })
  | voice event => cases begun
  | command command =>
    cases command with
    | makeCall ani dnis placed =>
      cases begun
      exact congrArg Prod.fst (callPart_run .outboundInitiated
        { line with crn := crn, ani := ani.take 63, dnis := dnis.take 63 })
    | _ => cases begun

theorem inCall_begins {crn : Int} (begun : begins label = some crn) (found : Found label)
    (seized : (∃ event, label = .event event) → InCall line) : InCall (input label line).1 := by
  -- A call that is placed is in progress; so is one that is offered to a line that is busy.
  cases label with
  | event event =>
    obtain ⟨type, -⟩ := Option.ite_none_right_eq_some.mp begun
    rw [input_typed type (found type)]
    exact inCall_parts.run (by simp : On.incoming _ _ ≠ .released) { line with crn := event.crn }
      (seized ⟨event, rfl⟩)
  | voice event => cases begun
  | command command =>
    cases command with
    | makeCall ani dnis placed =>
      cases begun
      change InCall (onOutboundInitiated { line with crn := crn, ani := ani.take 63, dnis := dnis.take 63 }).1
      unfold onOutboundInitiated onlyIf
      -- A line that is in a call ignores the placing of another one, and stays in its call.
      split
      · exact fun ends => by cases ends
      · assumption
    | _ => cases begun

end TLine

/-! ## Runs with one call at a time -/

structure CallRun where
  line : TLine
  call : Option Int
  deriving DecidableEq

namespace CallRun
open TLine

def ends : LineInput → Bool
  | .event event => event.type = .dropCall
  | _ => false

def next (run : CallRun) (label : LineInput) : CallRun :=
  ⟨(input label run.line).1, if ends label then none else (begins label).or run.call⟩

def system : System CallRun LineInput :=
  .ofStep (fun run => Opened run.line ∧ run.call = none) fun run label => some (run.next label)

def OneCall (run : CallRun) (label : LineInput) : Prop :=
  (begins label ≠ none → run.call = none) ∧ Found label

/-- The call is offered after a seizure that was not ignored, and no other call is reported as
released while it lasts. -/
def Tracked (run : CallRun) (label : LineInput) : Prop :=
  run.OneCall label ∧ (Handles .offered label → InCall run.line) ∧
    (Handles .releaseCall label → run.call = none)

instance : DecidablePred Found
  | .event _ => inferInstanceAs (Decidable (_ → _))
  | .voice _ => .isTrue trivial
  | .command _ => .isTrue trivial

instance (run : CallRun) (label : LineInput) : Decidable (OneCall run label) :=
  inferInstanceAs (Decidable ((_ → _) ∧ _))

instance : DecidablePred InCall := fun _ => inferInstanceAs (Decidable (_ ≠ _))

instance (run : CallRun) (label : LineInput) : Decidable (Tracked run label) :=
  inferInstanceAs (Decidable (_ ∧ (_ → _) ∧ (_ → _)))

variable {run : CallRun} {label : LineInput} {crn : Int}

def Numbered (run : CallRun) : Prop := ∀ crn, run.call = some crn → run.line.crn = crn

/-- A step either begins a call, or ends one, or leaves it as it is. -/
theorem next_call (call : (run.next label).call = some crn) :
    begins label = some crn ∨ begins label = none ∧ run.call = some crn := by
  unfold next at call
  by_cases ended : ends label = true
  · rw [if_pos ended] at call
    cases call
  · rw [if_neg ended] at call
    cases begun : begins label with
    | none =>
      rw [begun, Option.none_or] at call
      exact .inr ⟨rfl, call⟩
    | some begun_ =>
      rw [begun, Option.some_or] at call
      exact .inl call

theorem numbered_next (numbered : run.Numbered) (found : Found label) : (run.next label).Numbered := by
  intro crn call
  rcases next_call call with begun | ⟨none, lasts⟩
  · exact crn_begins begun found
  · exact (crn_kept none).trans (numbered crn lasts)

theorem inCall_next (inCall : run.call ≠ none → InCall run.line) (tracked : run.Tracked label) :
    (run.next label).call ≠ none → InCall (run.next label).line := by
  obtain ⟨⟨-, found⟩, seized, quiet⟩ := tracked
  intro some_
  obtain ⟨crn, call⟩ := Option.ne_none_iff_exists'.mp some_
  rcases next_call call with begun | ⟨none, lasts⟩
  · apply inCall_begins begun found
    rintro ⟨event, rfl⟩
    obtain ⟨type, -⟩ := Option.ite_none_right_eq_some.mp begun
    exact seized ⟨type, found type⟩
  · -- The call was there before the step, so the step cannot be the release of another one.
    have progress : run.call ≠ Option.none := by simp [lasts]
    exact inCall_parts.input none (fun released => progress (quiet released)) run.line (inCall progress)

theorem numbered_reached (reached : system.Reaches OneCall run) : run.Numbered := by
  apply reached.invariant Numbered
  · intro run initial crn call
    rw [initial.2] at call
    cases call
  · intro run label after numbered allowed stepped
    cases stepped
    exact numbered_next numbered allowed.2

theorem inCall_reached (reached : system.Reaches Tracked run) (call : run.call ≠ none) : InCall run.line := by
  have invariant : run.call ≠ none → InCall run.line := by
    apply reached.invariant fun run => run.call ≠ none → InCall run.line
    · intro run initial call
      exact absurd initial.2 call
    · intro run label after inCall tracked stepped
      cases stepped
      exact inCall_next inCall tracked
  exact invariant call

/-- In every run with one call at a time, the drop of the call releases it once and releases nothing
else if and only if the drop is found and the line is in a call. -/
theorem releases_iff {event : MetaEvent} (reached : system.Reaches OneCall run) (call : run.call = some crn)
    (type : event.type = .dropCall) : releases (input (.event event) run.line).2 = [crn] ↔
      event.results.getCRN = true ∧ run.line.callState ≠ .invalid := by
  cases found : event.results.getCRN with
  | false =>
    rw [releases_dropCall_lost found]
    simp
  | true =>
    rw [releases_dropCall type found, numbered_reached reached crn call]
    by_cases ended : run.line.callState = .invalid
    · simp [ended]
    · simp [ended]

/-- In every run of tracked calls, the drop of the call that goes on releases it once and nothing else. -/
theorem dropCall_releases {event : MetaEvent} (call : run.call = some crn) (type : event.type = .dropCall) :
    (system.Reaches Tracked run → event.results.getCRN = true →
      releases (input (.event event) run.line).2 = [crn]) ∧
    (system.Reaches OneCall run → (releases (input (.event event) run.line).2 = [crn] ↔
      event.results.getCRN = true ∧ run.line.callState ≠ .invalid)) := by
  constructor
  · rintro ⟨trace, tracked⟩ found
    have oneCall : system.Reaches OneCall run := ⟨trace, tracked.mono fun _ _ allowed => allowed.1⟩
    have progress : InCall run.line := inCall_reached ⟨trace, tracked⟩ (by simp [call])
    exact (releases_iff oneCall call type).mpr ⟨found, progress⟩
  · exact fun reached => releases_iff reached call type

def opening : CallRun := ⟨started, none⟩

theorem dropCall_releases_answered : ∃ run, system.Reaches Tracked run ∧ run.call = some 7 ∧
    releases (input (.event (.plain .dropCall 7)) run.line).2 = [7] := by
  have opens : system.Reaches Tracked opening := .start ⟨started_opened, rfl⟩
  obtain ⟨run, reached, called⟩ := opens.follow_any
    [.event (.plain .blocked 0), .event (.plain .unblocked 0), .event (.plain .detected 0),
      .event (.plain .offered 7), .event (.plain .answered 7)]
    (fun run => decide (run.call = some 7)) (by decide +kernel)
  have call := of_decide_eq_true called
  exact ⟨run, reached, call, (@dropCall_releases run 7 (.plain .dropCall 7) call rfl).1 reached rfl⟩

theorem dropCall_leaks : ∃ run, system.Reaches OneCall run ∧ run.call = some 7 ∧
    releases (input (.event (.plain .dropCall 7)) run.line).2 = [] := by
  -- A line that was only ever unblocked ignores the seizure, and the
  -- call that is offered then is not released when it is dropped.
  have opens : system.Reaches OneCall opening := .start ⟨started_opened, rfl⟩
  obtain ⟨run, reached, left⟩ := opens.follow_any
    [.event (.plain .unblocked 0), .event (.plain .detected 0), .event (.plain .offered 7)]
    (fun run => decide (run.call = some 7 ∧
      releases (input (.event (.plain .dropCall 7)) run.line).2 = [])) (by decide +kernel)
  exact ⟨run, reached, of_decide_eq_true left⟩

end CallRun

end Foolject.Telecom
