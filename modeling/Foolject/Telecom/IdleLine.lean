import Foolject.Telecom.Maintenance

/-! An idle line has no call, unless it is unblocked in the middle of one.

A blocked line keeps its call; when it is unblocked it is idle, call or no call.
-/

set_option autoImplicit false

namespace Foolject.Telecom
open Transducer

namespace TLine

def IdleFree (line : TLine) : Prop := line.state = .idle → line.callState = .invalid

def UnblocksFree (line : TLine) : LineInput → Prop
  | .event event => event.type = .unblocked → event.results.getCRN = true →
    event.results.waitCall = true → line.state = .blocking → line.callState = .invalid
  | _ => True

instance : ∀ line label, Decidable (UnblocksFree line label)
  | _, .event _ => inferInstanceAs (Decidable (_ → _))
  | _, .voice _ => .isTrue trivial
  | _, .command _ => .isTrue trivial

/-! ## Handlers one by one -/

theorem keeps_reportEvent (msg : List Char) : Keeps IdleFree (reportEvent msg) := fun _ free => free

theorem keeps_reported {change : Handler} (inner : Keeps IdleFree change) (msg : List Char) :
    Keeps IdleFree (andThen change (reportEvent msg)) := inner.andThen (keeps_reportEvent msg)

theorem keeps_modify {change : TLine → TLine} (state : ∀ line, (change line).state = line.state)
    (callState : ∀ line, (change line).callState = line.callState) : Keeps IdleFree (modify change : Handler) := by
  intro line free idle
  have before : line.state = .idle := (state line).symm.trans idle
  exact (callState line).trans (free before)

theorem keeps_request (request : TLine → List Effect) : Keeps IdleFree (emit request) := fun _ free => free

theorem keeps_skip : Keeps IdleFree (skip : Handler) := fun _ free => free

theorem idleFree_setState {state : TLineState} (busy : state ≠ .idle) (line : TLine) :
    IdleFree (setState state line).1 := fun idle => absurd idle busy

theorem idleFree_setCallState {state : TCallState}
    (moves : state = .invalid ∨ state = .seizure ∨ state = .outboundInitiated) (line : TLine) :
    IdleFree (setCallState state line).1 := by
  -- A call state that ends or begins a call sets the state of the line with it.
  rcases moves with rfl | rfl | rfl
  · exact fun _ => rfl
  · exact fun idle => by cases idle
  · exact fun idle => by cases idle

theorem idleFree_setCallState_call (state : TCallState) {line : TLine} (call : line.callState ≠ .invalid)
    (free : IdleFree line) : IdleFree (setCallState state line).1 := by
  -- During a call the line is not idle, and a further call state leaves it as it is.
  have busy : line.state ≠ .idle := fun idle => call (free idle)
  cases state with
  | invalid => exact idleFree_setCallState (.inl rfl) line
  | seizure => exact idleFree_setCallState (.inr (.inl rfl)) line
  | outboundInitiated => exact idleFree_setCallState (.inr (.inr rfl)) line
  | _ => exact fun idle => absurd idle busy

/-- A change of the call state behind a test that a call is in progress. -/
theorem keeps_progress {test : TLine → Prop} [DecidablePred test] (state : TCallState)
    (call : ∀ line, test line → line.callState ≠ .invalid) :
    Keeps IdleFree (onlyIf test (setCallState state)) :=
  .onlyIf fun line passes free => idleFree_setCallState_call state (call line passes) free

theorem keeps_onBlock : Keeps IdleFree onBlock :=
  keeps_reported (fun line _ => idleFree_setState (by decide) line) _

theorem keeps_onSeizureDetected : Keeps IdleFree onSeizureDetected := by
  apply Keeps.onlyIf
  intro line _ _
  exact idleFree_setCallState (.inr (.inl rfl)) line

theorem keeps_onOutboundInitiated : Keeps IdleFree onOutboundInitiated := by
  apply Keeps.onlyIf
  intro line _ _
  exact idleFree_setCallState (.inr (.inr rfl)) line

theorem keeps_onDigitReceived (digit : Char) : Keeps IdleFree (onDigitReceived digit) :=
  keeps_reported (keeps_progress _ fun line passes => by simp [passes]) _

theorem keeps_offered (crn : Int) (results : GcResults) : Keeps IdleFree (offered crn results) := by
  apply Keeps.andThen
  · exact keeps_modify (fun _ => rfl) fun _ => rfl
  · apply keeps_reported
    apply Keeps.onlyIf
    intro line passes free
    apply idleFree_setCallState_call .incoming _ free
    rcases passes with seized | digits
    · simp [seized]
    · simp [digits]

theorem keeps_onAccepting : Keeps IdleFree onAccepting := by
  apply Keeps.onlyIf
  intro line incoming free
  exact idleFree_setCallState_call .accepting (by simp [incoming]) free

theorem keeps_fromIncoming (state : TCallState) :
    Keeps IdleFree (onlyIf (fun line => line.callState = .incoming ∨ line.callState = .accepting)
      (setCallState state)) :=
  keeps_progress state fun line passes => by rcases passes with at_ | at_ <;> simp [at_]

theorem keeps_onPlacing : Keeps IdleFree onPlacing :=
  keeps_reported (keeps_progress _ fun line passes => by simp [passes]) _

theorem keeps_onProceeding : Keeps IdleFree onProceeding :=
  keeps_reported (keeps_progress _ fun line passes => by
    rcases passes with at_ | at_ <;> simp [at_]) _

theorem keeps_onAlerting : Keeps IdleFree onAlerting :=
  keeps_reported (keeps_progress _ fun line passes => by
    rcases passes with at_ | at_ | at_ <;> simp [at_]) _

theorem keeps_onConnected (reason : List Char) : Keeps IdleFree (onConnected reason) := by
  apply Keeps.onlyIf
  intro line passes free
  apply idleFree_setCallState_call .connected _ free
  rcases passes with at_ | at_ | at_ | at_ | at_ | at_ <;> simp [at_]

theorem keeps_onDisconnected (reason : List Char) : Keeps IdleFree (onDisconnected reason) := by
  apply Keeps.onlyIf
  intro line call free
  exact idleFree_setCallState_call .disconnected call free

theorem keeps_onReleased : Keeps IdleFree onReleased :=
  keeps_reported (fun line _ => idleFree_setCallState (.inl rfl) line) _

theorem keeps_farEndDrops (resultInfo : Option GcValue) : Keeps IdleFree (farEndDrops resultInfo) := by
  apply Keeps.andThen
  · intro line free
    dsimp only
    split
    · exact free
    · cases resultInfo with
      | none => exact free
      | some value => exact free
  · exact Keeps.andThen (keeps_modify (fun _ => rfl) fun _ => rfl) (keeps_request _)

theorem keeps_dropped : Keeps IdleFree dropped := by
  apply Keeps.andThen
  · exact .onlyIf fun _ _ free => free
  · exact fun line => keeps_onDisconnected _ line

/-! ## Maintenance events -/

theorem idleFree_waitsForCall {results : GcResults} {line : TLine} (free : IdleFree line)
    (noCall : results.waitCall = true → line.state = .blocking → line.callState = .invalid) :
    IdleFree (waitsForCall results line).1 := by
  rw [waitsForCall_fst]
  split
  · rename_i unblocks
    exact fun _ => noCall unblocks.1 unblocks.2
  · exact free

theorem idleFree_switch {event : MetaEvent} {line : TLine} (free : IdleFree line)
    (noCall : event.type = .unblocked → event.results.waitCall = true → line.state = .blocking →
      line.callState = .invalid) : IdleFree (switch event line).1 := by
  unfold switch
  -- Only the unblocking of a blocked line makes it idle without a look at its call.
  cases type : event.type with
  | blocked => exact keeps_onBlock line free
  | unblocked => exact idleFree_waitsForCall free (noCall type)
  | detected => exact keeps_onSeizureDetected line free
  | offered => exact keeps_offered _ _ line free
  | accept => exact keeps_onAccepting line free
  | answered =>
    have connects : Keeps IdleFree (andThen onAnswering (onConnected "GCEV_ANSWERED".toList)) :=
      Keeps.andThen (keeps_reported (keeps_fromIncoming _) _) (keeps_onConnected _)
    apply connects
    exact free
  | dialing => exact keeps_onPlacing line free
  | proceeding => exact keeps_onProceeding line free
  | alerting => exact keeps_onAlerting line free
  | connected =>
    have connects := keeps_onConnected "GCEV_CONNECTED".toList line free
    exact connects
  | callStatus => exact keeps_farEndDrops _ line free
  | disconnected => exact keeps_farEndDrops _ line free
  | dropCall => exact keeps_dropped line free
  | releaseCall =>
    have releases := keeps_onReleased line free
    exact releases
  | fatalError => exact free
  | taskFail => exact free
  | resetLineDev =>
    -- The line is not idle any more, whatever it was before.
    dsimp only
    rw [reset_fst]
    exact fun idle => by cases idle
  | unknown => exact free

theorem keeps_run (command : Command) : Keeps IdleFree (run command) := by
  cases command with
  | makeCall ani dnis placed =>
    apply Keeps.andThen (keeps_request _)
    cases placed with
    | none => exact keeps_skip
    | some crn => exact Keeps.andThen (keeps_modify (fun _ => rfl) fun _ => rfl) keeps_onOutboundInitiated
  | rejectCall => exact Keeps.andThen (keeps_reported (keeps_fromIncoming _) _) (keeps_request _)
  | answerCall | acceptCall | hangupCall | releaseCall => exact keeps_request _

theorem idleFree_input {label : LineInput} {line : TLine} (free : IdleFree line)
    (allowed : line.UnblocksFree label) : IdleFree (input label line).1 := by
  cases label with
  | event event =>
    by_cases found : event.results.getCRN = true
    · rw [input_found found]
      exact idleFree_switch free fun type => allowed type found
    · rw [input_lost found]
      exact free
  | voice event =>
    cases event with
    | play termReason => exact free
    | digit digit => exact keeps_onDigitReceived digit line free
    | other => exact free
  | command command => exact keeps_run command line free

theorem idleFree_reached {line : TLine} (reached : system.Reaches UnblocksFree line) : line.IdleFree := by
  apply reached.invariant IdleFree
  · intro line opened
    obtain ⟨index, ani, dnis, crn, rfl⟩ := opened_eq opened
    exact fun idle => by cases idle
  · intro line label after free allowed stepped
    cases stepped
    exact idleFree_input free allowed

/-- As long as the line is not unblocked in the middle of a call, an idle line has none, and a
seizure starts the first call on it. A line that is unblocked in the middle of a call is idle with it. -/
theorem idle_noCall (line : TLine) (label : LineInput) :
    (system.Reaches UnblocksFree line → line.IdleFree ∧
      ((onSeizureDetected line).1 ≠ line → line.callState = .invalid)) ∧
    (¬ line.UnblocksFree label →
      (input label line).1.state = .idle ∧ (input label line).1.callState ≠ .invalid) := by
  constructor
  · intro reached
    have free : line.IdleFree := idleFree_reached reached
    refine ⟨free, fun starts => free ?_⟩
    by_contra busy
    have same : onSeizureDetected line = (line, []) := onlyIf_neg busy
    exact starts (congrArg Prod.fst same)
  · intro breaks
    cases label with
    | event event =>
      simp only [UnblocksFree, Classical.not_imp] at breaks
      obtain ⟨type, found, waits, blocked, call⟩ := breaks
      rw [input_unblocked type found, waitsForCall_fst, if_pos ⟨waits, blocked⟩]
      exact ⟨rfl, call⟩
    | voice event => exact absurd trivial breaks
    | command command => exact absurd trivial breaks

theorem idle_noCall_seized : ∃ line, system.Reaches UnblocksFree line ∧ line.IdleFree ∧
    (onSeizureDetected line).1 ≠ line ∧ line.callState = .invalid := by
  -- A line that was unblocked while it had no call, and is seized then.
  have opens : system.Reaches UnblocksFree started := .start started_opened
  obtain ⟨line, reached, seized⟩ := opens.follow_any
    [.event (.plain .blocked 0), .event (.plain .unblocked 0)]
    (fun line => decide ((onSeizureDetected line).1 ≠ line)) (by decide +kernel)
  have starts := of_decide_eq_true seized
  obtain ⟨free, noCall⟩ := (idle_noCall line (.event (.plain .detected 0))).1 reached
  exact ⟨line, reached, free, starts, noCall starts⟩

theorem idle_inCall : ∃ line, system.Reaches System.Always line ∧
    (line.state = .idle ∧ line.callState = .connected) ∧
    (onSeizureDetected line).1.callState = .seizure ∧ ¬ line.IdleFree := by
  -- A connected call on an idle line, and the seizure that starts another one on top of it.
  have opens : system.Reaches System.Always started := .start started_opened
  obtain ⟨line, reached, left⟩ := opens.follow_any
    [.event (.plain .blocked 0), .event (.plain .unblocked 0), .event (.plain .detected 0),
      .event (.plain .offered 7), .event (.plain .answered 7), .event (.plain .blocked 0),
      .event (.plain .unblocked 0)]
    (fun line => decide ((line.state = .idle ∧ line.callState = .connected) ∧
      (onSeizureDetected line).1.callState = .seizure)) (by decide +kernel)
  obtain ⟨states, seized⟩ := of_decide_eq_true left
  refine ⟨line, reached, states, seized, fun free => ?_⟩
  have none := free states.1
  rw [states.2] at none
  cases none

end TLine

end Foolject.Telecom
