import Foolject.Telecom.Reports

/-! What the commands of a call return, and what they leave behind when they fail.

Each sends one request. `acceptCall` compares its result the other way, and `rejectCall` changes the state of the
call and reports it before the request; `makeCall` does both only once its request has been taken.
-/

set_option autoImplicit false

namespace Foolject.Telecom
open Transducer

def Command.taken : Command → Bool
  | .makeCall _ _ placed => placed.isSome
  | .answerCall taken | .acceptCall taken | .rejectCall taken | .hangupCall taken | .releaseCall taken => taken

def Command.Regular : Command → Prop
  | .acceptCall _ => False
  | .rejectCall taken => taken = true
  | _ => True

namespace TLine

def status (line : TLine) : TLineState × TCallState × Nat × List Char × List Char :=
  (line.state, line.callState, line.callDir, line.ani, line.dnis)

def Truthful (command : Command) : Prop := returns command = true ↔ command.taken = true

def FailsCleanly (command : Command) (line : TLine) : Prop :=
  returns command = false → (run command line).1.status = line.status ∧ reports (run command line).2 = []

variable {line : TLine} {command : Command}

theorem rejectCall_reports (line : TLine) : Tells line (rejectCall line) := by
  -- The report is written whatever state the call is in.
  have quiet : Respects Quiet (onlyIf (fun line => line.callState = .incoming ∨ line.callState = .accepting)
      (setCallState .rejecting)) := quiet_onlyIf (quiet_setCallState .rejecting)
  exact tells_request (tells_reported quiet (by decide) line) fun _ => rfl

theorem truthful_of_regular (regular : command.Regular) : Truthful command := by
  cases command with
  | acceptCall taken => exact regular.elim
  | _ => exact Iff.rfl

theorem failsCleanly_of_regular (regular : command.Regular) : FailsCleanly command line := by
  -- Only a call that was not placed gets here with a change behind its request.
  intro failed
  cases command with
  | acceptCall taken => exact regular.elim
  | rejectCall taken =>
    rw [show taken = true from regular] at failed
    cases failed
  | makeCall ani dnis placed =>
    cases placed with
    | none => exact ⟨rfl, rfl⟩
    | some crn => cases failed
  | answerCall taken => exact ⟨rfl, rfl⟩
  | hangupCall taken => exact ⟨rfl, rfl⟩
  | releaseCall taken => exact ⟨rfl, rfl⟩

/-- The commands but `acceptCall`, and `rejectCall` with a request that is taken. -/
theorem command_convention (command : Command) (line : TLine) :
    Truthful command ∧ FailsCleanly command line ↔ command.Regular := by
  constructor
  · rintro ⟨truthful, clean⟩
    cases command with
    | acceptCall taken =>
      -- The comparison is the other way for both results.
      cases taken with
      | true => exact absurd (truthful.mpr rfl) (by decide)
      | false => exact absurd (truthful.mp rfl) (by decide)
    | rejectCall taken =>
      -- A refused request leaves a report behind.
      by_contra refused
      obtain ⟨text, told, -⟩ := rejectCall_reports line
      have silent : reports (rejectCall line).2 = [] := (clean (Bool.eq_false_iff.mpr refused)).2
      rw [silent] at told
      cases told
    | _ => exact trivial
  · exact fun regular => ⟨truthful_of_regular regular, failsCleanly_of_regular regular⟩

def ringing : TLine := { fresh 0 [] [] 1 with state := .active, callState := .incoming }

theorem command_irregular :
    ¬ Truthful (.acceptCall true) ∧ returns (.rejectCall false) = false ∧
      (run (.rejectCall false) ringing).1.callState = .rejecting ∧ ¬ FailsCleanly (.rejectCall false) ringing := by
  -- The request of `acceptCall` is taken and it returns FALSE; the request
  -- of `rejectCall` is refused, and the call is being rejected all the same.
  refine ⟨fun truthful => absurd (truthful.mpr rfl) (by decide), rfl, rfl, fun clean => ?_⟩
  have same : TCallState.rejecting = TCallState.incoming :=
    congrArg (fun status => status.2.1) (clean rfl).1
  exact absurd same (by decide)

end TLine

end Foolject.Telecom
