import Foolject.Telecom.Events

/-! All the handlers of a line as one family.

A handler changes the two states, the direction and the numbers of a call and nothing else.
Only `OnReleased` ends a call. What all handlers keep, the events and the commands keep.
-/

set_option autoImplicit false

namespace Foolject.Telecom
open Transducer

inductive On where
  | closed
  | opened
  | initialized
  | uninitialized
  | block
  | unblock
  | outOfService (reason : List Char)
  | inService
  | playFileDone (reason : List Char)
  | dtmf (digit : Char)
  | seizureDetected
  | digitReceived (digit : Char)
  | incoming (ani dnis : List Char)
  | accepting
  | rejecting
  | answering
  | outboundInitiated
  | placing
  | proceeding
  | alerting
  | connected (reason : List Char)
  | disconnected (reason : List Char)
  | released
  deriving DecidableEq

open TLine in
def On.run : On → Handler
  | .closed => onClosed
  | .opened => onOpened
  | .initialized => onInitialized
  | .uninitialized => onUninitialized
  | .block => onBlock
  | .unblock => onUnblock
  | .outOfService reason => onOutOfService reason
  | .inService => onInService
  | .playFileDone reason => onPlayFileDone reason
  | .dtmf digit => onDTMF digit
  | .seizureDetected => onSeizureDetected
  | .digitReceived digit => onDigitReceived digit
  | .incoming ani dnis => onIncoming ani dnis
  | .accepting => onAccepting
  | .rejecting => onRejecting
  | .answering => onAnswering
  | .outboundInitiated => onOutboundInitiated
  | .placing => onPlacing
  | .proceeding => onProceeding
  | .alerting => onAlerting
  | .connected reason => onConnected reason
  | .disconnected reason => onDisconnected reason
  | .released => onReleased

namespace TLine

/-! ## What all of them respect -/

structure Pieces (rel : TLine → List Effect → TLine → Prop) : Prop where
  composes : Composes rel
  state : ∀ state, Respects rel (setState state)
  callState : ∀ state, state ≠ .invalid → Respects rel (setCallState state)
  callDir : ∀ dir, Respects rel (setCallDir dir)
  numbers : ∀ ani dnis, Respects rel (modify fun line => { line with ani := ani, dnis := dnis })
  reportEvent : ∀ msg, Respects rel (reportEvent msg)
  request : ∀ request : TLine → Effect, (∀ line before after, request line ≠ .countState before after) →
    Respects rel (emit fun line => [request line])

variable {rel : TLine → List Effect → TLine → Prop}

theorem Pieces.andThen {first second : Handler} (pieces : Pieces rel) (one : Respects rel first)
    (two : Respects rel second) : Respects rel (andThen first second) := one.andThen pieces.composes two

theorem Pieces.reported {change : Handler} (pieces : Pieces rel) (inner : Respects rel change) (msg : List Char) :
    Respects rel (Transducer.andThen change (TLine.reportEvent msg)) :=
  pieces.andThen inner (pieces.reportEvent msg)

theorem Pieces.onlyIf {change : Handler} (pieces : Pieces rel) (inner : Respects rel change)
    {test : TLine → Prop} [DecidablePred test] : Respects rel (onlyIf test change) :=
  inner.onlyIf pieces.composes

theorem Pieces.moves (pieces : Pieces rel) {test : TLine → Prop} [DecidablePred test] (state : TLineState)
    (msg : List Char) : Respects rel
      (Transducer.andThen (Transducer.onlyIf test (setState state)) (TLine.reportEvent msg)) :=
  pieces.reported (pieces.onlyIf (pieces.state state)) msg

theorem Pieces.progress (pieces : Pieces rel) {test : TLine → Prop} [DecidablePred test] {state : TCallState}
    (call : state ≠ .invalid) (msg : List Char) : Respects rel
      (Transducer.andThen (Transducer.onlyIf test (setCallState state)) (TLine.reportEvent msg)) :=
  pieces.reported (pieces.onlyIf (pieces.callState state call)) msg

theorem Pieces.guarded (pieces : Pieces rel) {test : TLine → Prop} [DecidablePred test] {state : TCallState}
    (call : state ≠ .invalid) (msg : List Char) : Respects rel
      (Transducer.onlyIf test (Transducer.andThen (setCallState state) (TLine.reportEvent msg))) :=
  pieces.onlyIf (pieces.reported (pieces.callState state call) msg)

theorem Pieces.starts (pieces : Pieces rel) {test : TLine → Prop} [DecidablePred test] {state : TCallState}
    (call : state ≠ .invalid) (dir : Nat) (msg : List Char) : Respects rel
      (Transducer.onlyIf test (Transducer.andThen (setCallState state)
        (Transducer.andThen (setCallDir dir) (TLine.reportEvent msg)))) :=
  pieces.onlyIf (pieces.andThen (pieces.callState state call) (pieces.reported (pieces.callDir dir) msg))

theorem Pieces.run (pieces : Pieces rel) {on : On} (goesOn : on ≠ .released) : Respects rel on.run := by
  cases on with
  | closed => exact pieces.reported (pieces.state _) _
  | opened => exact pieces.moves _ _
  | initialized => exact pieces.moves _ _
  | uninitialized => exact pieces.reported (pieces.state _) _
  | block => exact pieces.reported (pieces.state _) _
  | unblock => exact pieces.moves _ _
  | outOfService reason => exact pieces.reported (pieces.state _) _
  | inService => exact pieces.moves _ _
  | playFileDone reason => exact pieces.reportEvent _
  | dtmf digit => exact pieces.reportEvent _
  | seizureDetected => exact pieces.starts (by decide) _ _
  | digitReceived digit => exact pieces.progress (by decide) _
  | incoming ani dnis =>
    -- The only handler that writes the numbers of a call.
    apply pieces.reported
    apply pieces.onlyIf
    exact pieces.andThen (pieces.callState _ (by decide)) (pieces.numbers _ _)
  | accepting => exact pieces.guarded (by decide) _
  | rejecting => exact pieces.progress (by decide) _
  | answering => exact pieces.progress (by decide) _
  | outboundInitiated => exact pieces.starts (by decide) _ _
  | placing => exact pieces.progress (by decide) _
  | proceeding => exact pieces.progress (by decide) _
  | alerting => exact pieces.progress (by decide) _
  | connected reason => exact pieces.guarded (by decide) _
  | disconnected reason =>
    apply pieces.onlyIf
    apply pieces.andThen
    · exact pieces.callState _ (by decide)
    · exact pieces.andThen (pieces.reportEvent _) (pieces.request _ fun _ _ _ => by simp)
  | released => exact absurd rfl goesOn

theorem Pieces.released (pieces : Pieces rel) (ends : Respects rel (setCallState .invalid)) :
    Respects rel onReleased := pieces.reported ends _

/-! ## What the events and commands respect -/

def Handles (type : GlobalCallEvent) : LineInput → Prop
  | .event event => event.type = type ∧ event.results.getCRN = true
  | _ => False

instance (type : GlobalCallEvent) : DecidablePred (Handles type)
  | .event _ => inferInstanceAs (Decidable (_ ∧ _))
  | .voice _ => .isFalse id
  | .command _ => .isFalse id

def begins : LineInput → Option Int
  | .event event => if event.type = .offered then some event.crn else none
  | .command (.makeCall _ _ placed) => placed
  | _ => none

structure Parts (rel : TLine → List Effect → TLine → Prop) : Prop extends Pieces rel where
  marks : ∀ (established near : TLine → Bool) (reason : TLine → CallExitReason),
    Respects rel (modify fun line =>
      { line with
        callEstablished := established line
        callNearDroped := near line
        callExitReason := reason line })

theorem Parts.established (parts : Parts rel) :
    Respects rel (modify fun line => { line with callEstablished := true } : Handler) :=
  parts.marks (fun _ => true) (·.callNearDroped) (·.callExitReason)

theorem Parts.reason (parts : Parts rel) (reason : CallExitReason) :
    Respects rel (modify fun line => { line with callExitReason := reason } : Handler) :=
  parts.marks (·.callEstablished) (·.callNearDroped) fun _ => reason

theorem Parts.getCallStatus (parts : Parts rel) (resultInfo : Option GcValue) :
    Respects rel (getCallStatus resultInfo) := by
  cases resultInfo with
  | none => exact Respects.skip parts.composes
  | some value => exact parts.reason value.reason

theorem Parts.farEndDrops (parts : Parts rel) (resultInfo : Option GcValue) :
    Respects rel (farEndDrops resultInfo) := by
  apply parts.andThen
  · intro line
    dsimp only
    split
    · exact parts.reason .farEnd line
    · exact parts.getCallStatus resultInfo line
  · apply parts.andThen
    · exact parts.marks (·.callEstablished) (fun _ => false) (·.callExitReason)
    · exact parts.request _ fun _ _ _ => by simp

theorem Parts.dropped (parts : Parts rel) : Respects rel dropped := by
  apply parts.andThen
  · exact parts.onlyIf (parts.reason .nearEnd)
  · exact fun line => parts.run (by simp : On.disconnected line.callExitReason.name ≠ .released) line

theorem Parts.waitsForCall (parts : Parts rel) (results : GcResults) : Respects rel (waitsForCall results) := by
  apply parts.andThen
  · exact parts.request _ fun _ _ _ => by simp
  · split
    · exact parts.run (by decide : On.unblock ≠ .released)
    · exact Respects.skip parts.composes

theorem Parts.switch (parts : Parts rel) {event : MetaEvent} (other : event.type ≠ .offered)
    (goesOn : event.type ≠ .releaseCall) : Respects rel (switch event) := by
  have on (handler : On) (lasts : handler ≠ .released) : Respects rel handler.run := parts.run lasts
  unfold TLine.switch
  cases type : event.type with
  | blocked => exact on .block (by decide)
  | unblocked => exact parts.waitsForCall _
  | detected => exact on .seizureDetected (by decide)
  | offered => exact absurd type other
  | accept => exact on .accepting (by decide)
  | answered =>
    apply parts.andThen parts.established
    exact parts.andThen (on .answering (by decide)) (on (.connected _) (by simp))
  | dialing => exact on .placing (by decide)
  | proceeding => exact on .proceeding (by decide)
  | alerting => exact on .alerting (by decide)
  | connected => exact parts.andThen (on (.connected _) (by simp)) parts.established
  | callStatus | disconnected => exact parts.farEndDrops _
  | dropCall => exact parts.dropped
  | releaseCall => exact absurd type goesOn
  | fatalError | taskFail => exact parts.request _ fun _ _ _ => by simp
  | resetLineDev =>
    -- A reset is three handlers in a row, and none of them is for calls.
    apply parts.andThen (on .closed (by decide))
    exact parts.andThen (on .opened (by decide)) (parts.waitsForCall _)
  | unknown => exact Respects.skip parts.composes

theorem Parts.input (parts : Parts rel) {label : LineInput} (none : begins label = none)
    (goesOn : ¬ Handles .releaseCall label) : Respects rel (input label) := by
  cases label with
  | event event =>
    intro line
    by_cases found : event.results.getCRN = true
    · rw [input_found found]
      apply parts.switch
      · exact fun offered => by simp [begins, offered] at none
      · exact fun released => goesOn ⟨released, found⟩
    · rw [input_lost found]
      exact parts.composes.nothing line
  | voice event =>
    cases event with
    | play termReason => exact parts.reportEvent _
    | digit digit => exact parts.run (by simp : On.digitReceived digit ≠ .released)
    | other => exact Respects.skip parts.composes
  | command command =>
    cases command with
    | makeCall ani dnis placed =>
      cases placed with
      | none =>
        apply parts.andThen
        · exact parts.request _ fun _ _ _ => by simp
        · exact Respects.skip parts.composes
      | some crn =>
        -- A call that is placed begins with its own reference.
        cases none
    | rejectCall =>
      apply parts.andThen
      · exact parts.run (by decide : On.rejecting ≠ .released)
      · exact parts.request _ fun _ _ _ => by simp
    | answerCall | acceptCall | hangupCall | releaseCall => exact parts.request _ fun _ _ _ => by simp

/-! ## The call stays in progress -/

def InCall (line : TLine) : Prop := line.callState ≠ .invalid

theorem inCall_parts : Parts fun before _ after => InCall before → InCall after where
  composes := .invariant InCall
  state _ _ call := call
  callState state goesOn line _ := by
    unfold InCall
    rw [setCallState_callState]
    exact goesOn
  callDir _ _ call := call
  numbers _ _ _ call := call
  reportEvent _ _ call := call
  request _ _ _ call := call
  marks _ _ _ _ call := call

/-! ## The part of a line that no handler touches -/

def callPart (line : TLine) : Int × Bool × Bool × CallExitReason :=
  (line.crn, line.callEstablished, line.callNearDroped, line.callExitReason)

theorem setCallState_callPart (state : TCallState) (line : TLine) :
    (setCallState state line).1.callPart = line.callPart := by
  cases state with
  | _ => rfl

theorem callPart_pieces : Pieces fun before _ after => after.callPart = before.callPart where
  composes := .same callPart
  state _ _ := rfl
  callState state _ line := setCallState_callPart state line
  callDir _ _ := rfl
  numbers _ _ _ := rfl
  reportEvent _ _ := rfl
  request _ _ _ := rfl

theorem callPart_run (on : On) (line : TLine) : (on.run line).1.callPart = line.callPart := by
  by_cases ends : on = .released
  · subst ends
    exact callPart_pieces.released (setCallState_callPart .invalid) line
  · exact callPart_pieces.run ends line

def exited (line : TLine) : TLine :=
  { line with callExitReason := if line.callNearDroped = true then .nearEnd else line.callExitReason }

theorem dropped_eq (line : TLine) :
    dropped line = onDisconnected line.exited.callExitReason.name line.exited := by
  cases line with
  | mk index state callState callDir ani dnis crn established near reason =>
    cases near with
    | _ => rfl

end TLine

end Foolject.Telecom
