import Foolject.Telecom.Handlers
import Foolject.Telecom.Maintenance

/-! What the application is told of the changes of a line.

A report is written after the change. It is left out if its text does not fit, and the only
text that need not fit is the one with both numbers of an incoming call.
-/

set_option autoImplicit false

namespace Foolject.Telecom
open Transducer

def reports (effects : List Effect) : List (Nat × List Char) := effects.filterMap fun effect =>
  match effect with
  | .eventHandler index text => some (index, text)
  | _ => none

theorem reports_append (before after : List Effect) :
    reports (before ++ after) = reports before ++ reports after := List.filterMap_append

def Tells (line : TLine) (result : TLine × List Effect) : Prop :=
  ∃ text, reports result.2 = [(line.index, text)] ∧ result.1.fields <:+ text

def Quiet (before : TLine) (effects : List Effect) (after : TLine) : Prop :=
  reports effects = [] ∧ after.index = before.index

theorem quiet_composes : Composes Quiet where
  nothing _ := ⟨rfl, rfl⟩
  compose first second := by
    constructor
    · rw [reports_append, first.1, second.1]
      rfl
    · exact second.2.trans first.2

namespace TLine

variable {line : TLine} {change piece : Handler} {test : TLine → Prop} [DecidablePred test]
  {msg : List Char}

theorem quiet_setState (state : TLineState) : Respects Quiet (setState state) := fun _ => ⟨rfl, rfl⟩

theorem quiet_setCallState (state : TCallState) : Respects Quiet (setCallState state) := by
  intro line
  cases state with
  | _ => exact ⟨rfl, rfl⟩

theorem quiet_onlyIf (quiet : Respects Quiet change) : Respects Quiet (onlyIf test change) :=
  quiet.onlyIf quiet_composes

theorem quiet_setCallDir (dir : Nat) : Respects Quiet (setCallDir dir) := fun _ => ⟨rfl, rfl⟩

/-! ## Reports that fit -/

theorem reports_fits (fits : msg.length ≤ 200) (line : TLine) : reports (reportEvent msg line).2 =
    [(line.index, (msg.take 199).takeWhile (· ≠ Char.ofNat 0) ++ line.fields)] := by
  unfold reportEvent emit vsnprintf
  rw [if_pos fits]
  rfl

theorem reports_overlong (overlong : 200 < msg.length) (line : TLine) :
    reports (reportEvent msg line).2 = [] := by
  unfold reportEvent emit vsnprintf
  rw [if_neg (Nat.not_le.mpr overlong)]
  rfl

theorem tells_reported (quiet : Respects Quiet change) (fits : msg.length ≤ 200) (line : TLine) :
    Tells line (andThen change (reportEvent msg) line) := by
  obtain ⟨silent, same⟩ := quiet line
  refine ⟨(msg.take 199).takeWhile (· ≠ Char.ofNat 0) ++ (change line).1.fields, ?_, List.suffix_append _ _⟩
  change reports ((change line).2 ++ (reportEvent msg (change line).1).2) = _
  rw [reports_append, silent, reports_fits fits, same]
  rfl

theorem tells_request {request : TLine → List Effect} (tells : Tells line (piece line))
    (silent : ∀ line, reports (request line) = []) : Tells line (andThen piece (emit request) line) := by
  obtain ⟨text, told, fields⟩ := tells
  refine ⟨text, ?_, fields⟩
  change reports ((piece line).2 ++ request (piece line).1) = _
  rw [reports_append, told, silent]
  rfl

def Changes (line after : TLine) : Prop := after.state ≠ line.state ∨ after.callState ≠ line.callState

theorem changes_irrefl (line : TLine) : ¬ Changes line line := by
  intro changes
  rcases changes with state | callState
  · exact state rfl
  · exact callState rfl

theorem tells_onlyIf (inner : Tells line (piece line)) (changes : Changes line (onlyIf test piece line).1) :
    Tells line (onlyIf test piece line) := by
  by_cases passes : test line
  · rw [onlyIf_pos passes]
    exact inner
  · rw [onlyIf_neg passes] at changes
    exact absurd changes (changes_irrefl line)

end TLine

/-! ## The handlers -/

namespace On
open TLine

/-- The strings are no longer than Global Call can deliver. -/
def Deliverable : On → Prop
  | .outOfService reason | .playFileDone reason | .connected reason | .disconnected reason =>
    reason.length < gcAddrSize
  | .incoming ani dnis => ani.length < gcAddrSize ∧ dnis.length < gcAddrSize
  | _ => True

def Reported (on : On) (line : TLine) : Prop := Changes line (on.run line).1 → Tells line (on.run line)

def Overlong (line : TLine) : On → Prop
  | .incoming ani dnis => (line.callState = .seizure ∨ line.callState = .receivingDigits) ∧
    173 < ani.length + dnis.length
  | _ => False

variable {line : TLine}

theorem reason_fits {label reason : List Char} (short : reason.length < gcAddrSize)
    (labelled : label.length ≤ 72) : (label ++ reason).length ≤ 200 := by
  rw [List.length_append]
  unfold gcAddrSize at short
  omega

theorem digit_fits (digit : Char) : ("evt=DigitReceived|digit=".toList ++ [digit]).length ≤ 200 := by
  rw [List.length_append]
  exact (by decide : "evt=DigitReceived|digit=".toList.length + 1 ≤ 200)

theorem incoming_length (ani dnis : List Char) :
    ("evt=IncomingCall|ANI=".toList ++ ani ++ "|DNIS=".toList ++ dnis).length =
      27 + (ani.length + dnis.length) := by
  have first : "evt=IncomingCall|ANI=".toList.length = 21 := by decide
  have second : "|DNIS=".toList.length = 6 := by decide
  simp only [List.length_append, first, second]
  omega

theorem quiet_incoming (ani dnis : List Char) :
    Respects Quiet (onlyIf (fun line => line.callState = .seizure ∨ line.callState = .receivingDigits)
      (andThen (setCallState .incoming)
        (Transducer.modify fun line => { line with ani := ani.take 63, dnis := dnis.take 63 }))) := by
  apply quiet_onlyIf
  apply Respects.andThen quiet_composes
  · exact quiet_setCallState _
  · exact fun _ => ⟨rfl, rfl⟩

theorem reported_incoming (ani dnis : List Char) :
    Reported (.incoming ani dnis) line ↔ ¬ Overlong line (.incoming ani dnis) := by
  constructor
  · -- The state is changed first, and the text that is too long is dropped after that.
    rintro reported ⟨call, overlong⟩
    have changes : Changes line (onIncoming ani dnis line).1 := by
      right
      unfold onIncoming onlyIf
      rw [andThen_fst, if_pos call]
      rcases call with seized | digits
      · simp [seized]
      · simp [digits]
    obtain ⟨text, told, -⟩ := reported changes
    have silent : reports (onIncoming ani dnis line).2 = [] := by
      unfold onIncoming
      change reports (_ ++ _) = []
      rw [reports_append, (quiet_incoming ani dnis line).1, reports_overlong]
      · rfl
      · rw [incoming_length]
        omega
    change reports (onIncoming ani dnis line).2 = _ at told
    rw [silent] at told
    cases told
  · intro fits changes
    by_cases call : line.callState = .seizure ∨ line.callState = .receivingDigits
    · apply tells_reported (quiet_incoming ani dnis)
      rw [incoming_length]
      have short : ¬ 173 < ani.length + dnis.length := fun overlong => fits ⟨call, overlong⟩
      omega
    · change Changes line (onIncoming ani dnis line).1 at changes
      unfold onIncoming onlyIf at changes
      rw [andThen_fst, if_neg call] at changes
      exact absurd changes (changes_irrefl line)

/-- The texts of all the other reports fit. -/
theorem reported_other {on : On} (delivered : on.Deliverable) (other : ∀ ani dnis, on ≠ .incoming ani dnis) :
    on.Reported line := by
  intro changes
  cases on with
  | closed | uninitialized | block => exact tells_reported (quiet_setState _) (by decide) line
  | opened | initialized | unblock | inService =>
    exact tells_reported (quiet_onlyIf (quiet_setState _)) (by decide) line
  | outOfService reason =>
    exact tells_reported (quiet_setState _) (reason_fits delivered (by decide)) line
  -- Reports without a change of state.
  | playFileDone reason => exact absurd changes (changes_irrefl line)
  | dtmf digit => exact absurd changes (changes_irrefl line)
  | digitReceived digit => exact tells_reported (quiet_onlyIf (quiet_setCallState _)) (digit_fits digit) line
  | incoming ani dnis => exact absurd rfl (other ani dnis)
  | rejecting | answering | placing | proceeding | alerting =>
    exact tells_reported (quiet_onlyIf (quiet_setCallState _)) (by decide) line
  | seizureDetected | outboundInitiated =>
    apply tells_onlyIf _ changes
    rw [← andThen_assoc]
    apply tells_reported _ (by decide)
    exact Respects.andThen quiet_composes (quiet_setCallState _) (quiet_setCallDir _)
  | accepting => exact tells_onlyIf (tells_reported (quiet_setCallState _) (by decide) line) changes
  | connected reason =>
    have fits := reason_fits delivered (by decide : "evt=CallConnected|reason=".toList.length ≤ 72)
    exact tells_onlyIf (tells_reported (quiet_setCallState _) fits line) changes
  | disconnected reason =>
    have fits := reason_fits delivered (by decide : "evt=CallDisconnected|reason=".toList.length ≤ 72)
    apply tells_onlyIf _ changes
    rw [← andThen_assoc]
    exact tells_request (tells_reported (quiet_setCallState _) fits line) fun _ => rfl
  | released => exact tells_reported (quiet_setCallState _) (by decide) line

/-- On any line, a change of a state is followed by one report of it, with the fields after the
change, unless a call comes in with numbers that are too long together. -/
theorem changes_reported (on : On) (delivered : on.Deliverable) (line : TLine) :
    on.Reported line ↔ ¬ on.Overlong line := by
  cases on with
  | incoming ani dnis => exact reported_incoming ani dnis
  | _ => exact iff_of_true (reported_other delivered fun _ _ => by simp) id

theorem changes_reported_seized :
    Reported (.incoming "5551234".toList "100".toList) { started with callState := .seizure } :=
  (changes_reported (.incoming "5551234".toList "100".toList) ⟨by decide, by decide⟩ _).mpr
    fun overlong => absurd overlong.2 (by decide)

theorem incoming_notReported : ∃ line, system.Reaches System.Always line ∧ ∃ ani dnis,
    Deliverable (.incoming ani dnis) ∧ (onIncoming ani dnis line).1.callState = .incoming ∧
    reports (onIncoming ani dnis line).2 = [] ∧ ¬ Reported (.incoming ani dnis) line := by
  -- Numbers of a hundred characters each: the call comes in, and nobody is told.
  have opens : system.Reaches System.Always started := .start started_opened
  obtain ⟨line, reached, left⟩ := opens.follow_any
    [.event (.plain .blocked 0), .event (.plain .unblocked 0), .event (.plain .detected 0)]
    (fun line => decide (line.callState = .seizure ∧
      (onIncoming (List.replicate 100 '1') (List.replicate 100 '2') line).1.callState = .incoming ∧
      reports (onIncoming (List.replicate 100 '1') (List.replicate 100 '2') line).2 = []))
    (by decide +kernel)
  obtain ⟨seized, comes, silent⟩ := of_decide_eq_true left
  have changes : Changes line (onIncoming (List.replicate 100 '1') (List.replicate 100 '2') line).1 := by
    right
    rw [comes, seized]
    decide
  refine ⟨line, reached, List.replicate 100 '1', List.replicate 100 '2', ⟨by decide, by decide⟩, comes,
    silent, ?_⟩
  intro reported
  obtain ⟨text, told, -⟩ := reported changes
  exact List.cons_ne_nil _ _ (told.symm.trans silent)

end On

end Foolject.Telecom
