import Foolject.Redundancy.Connected
import Foolject.Redundancy.Detection

/-! The way out: what `uninit` waits for, and what a word to quit from the mate leads to.

Neither thread looks at the flag in the middle of an iteration. What is left of the two
iterations is bounded, whatever arrives and whichever thread is faster.
-/

set_option autoImplicit false

namespace Foolject
open VNClib

namespace Heartbeat

variable {heap : Memory} {received : HeartbeatReceived} {rddcp : Redundancy} {thread : Heartbeat}

def untilReturned (pc : HeartbeatPc) : Nat :=
  match pc with
  | .returned => 0
  | .whileNotQuit => 1
  | .setOwnIp | .setQuit | .sendPassiveQuit | .resetErrCount => 2
  | .setPassiveQuitString | .compareMate | .foolWait => 3
  | .takeOver => 4
  | .vnRecvMsg => 5
  | .sendHeartbeat => 6
  | .setHeartbeatString => 7
  | .getMyRole => 8

theorem untilReturned_le (pc : HeartbeatPc) : untilReturned pc ≤ 8 := by
  cases pc <;> decide

theorem receivedPc_untilReturned (received : HeartbeatReceived) (thread : Heartbeat) :
    untilReturned (thread.receivedPc received) ≤ 4 := by
  cases received with
  | message sender text =>
    dsimp only [receivedPc]
    decide
  | failed =>
    dsimp only [receivedPc]
    decide
  | timeout =>
    dsimp only [receivedPc]
    split <;> decide

theorem step_untilReturned {after : Redundancy × Heartbeat} (told : rddcp.quitInnerThread = true)
    (stepped : thread.step heap received rddcp = some after) :
    untilReturned after.2.pc ≤ untilReturned thread.pc - 1 := by
  unfold step at stepped
  cases here : thread.pc with
  | setOwnIp =>
    simp only [here] at stepped
    obtain ⟨set, -, rfl⟩ := Option.map_eq_some_iff.mp stepped
    dsimp only
    decide
  | setHeartbeatString | setPassiveQuitString =>
    simp only [here] at stepped
    split at stepped
    · obtain ⟨set, -, rfl⟩ := Option.map_eq_some_iff.mp stepped
      dsimp only
      decide
    · cases stepped
      dsimp only
      decide
  | whileNotQuit =>
    simp only [here, told, if_true] at stepped
    cases stepped
    dsimp only
    decide
  | getMyRole =>
    simp only [here] at stepped
    cases stepped
    dsimp only
    split <;> decide
  | vnRecvMsg =>
    simp only [here] at stepped
    obtain ⟨stored, got, rfl⟩ := Option.map_eq_some_iff.mp stepped
    dsimp only
    rw [(receive_some got).2.1]
    exact receivedPc_untilReturned received thread
  | compareMate =>
    simp only [here] at stepped
    cases stepped
    dsimp only
    rcases compareMate_pc rddcp thread with back | quits
    · rw [back]
      decide
    · rw [quits]
      decide
  | returned =>
    simp only [here] at stepped
    cases stepped
    rw [here]
    decide
  | _ =>
    simp only [here] at stepped
    cases stepped
    dsimp only
    decide

end Heartbeat

namespace Negotiate

variable {rddcp : Redundancy} {thread : Negotiate}

def untilReturned (pc : NegotiatePc) : Nat :=
  match pc with
  | .returned => 0
  | .setEvent => 1
  | .broadcastQuit => 2
  | .setActiveQuitEr => 3
  | .whileNotQuit => 4
  | .broadcastMyRole | .promoteByAddress | .vnConnect | .clearMateIp => 5
  | .setWhoAmI | .copyMateIp | .vnDisconnect => 6
  | .becomePrimary | .becomeBackup | .loseMate => 7
  | .answerCandidate => 8
  | .recvBroadCastMsg => 9
  | .getMyRoleAgain => 10
  | .promoteByCount => 11
  | .checkCount => 12
  | .getMyRole => 13

theorem untilReturned_le (pc : NegotiatePc) : untilReturned pc ≤ 13 := by
  cases pc <;> decide

/-- The exit has not been announced yet, nor has it been skipped. -/
def GoesOn (pc : NegotiatePc) : Prop := pc ≠ .broadcastQuit ∧ pc ≠ .setEvent ∧ pc ≠ .returned

instance : DecidablePred GoesOn := fun _ => inferInstanceAs (Decidable (_ ∧ _ ∧ _))

def Behind (pc : NegotiatePc) : Prop :=
  GoesOn pc ∧ pc ≠ .getMyRole ∧ pc ≠ .getMyRoleAgain ∧ pc ≠ .checkCount ∧ pc ≠ .recvBroadCastMsg

instance : DecidablePred Behind := fun _ => inferInstanceAs (Decidable (_ ∧ _ ∧ _ ∧ _ ∧ _))

theorem reaction_bounds (remote role : TRole) (higher : Bool) :
    untilReturned (reaction remote role higher) ≤ 8 ∧ reaction remote role higher ≠ .returned ∧
      (role ≠ .whoAmI → Behind (reaction remote role higher)) := by
  cases remote <;> cases role <;> cases higher <;> decide

theorem receive_bounds (received : Received) :
    untilReturned (thread.receive rddcp received).pc ≤ 8 ∧
      (thread.receive rddcp received).pc ≠ .returned ∧
      (thread.role ≠ .whoAmI → Behind (thread.receive rddcp received).pc) := by
  cases received with
  | null =>
    rw [receive_null]
    dsimp only
    split
    · exact ⟨by decide, by decide, fun _ => by decide⟩
    · exact ⟨by decide, by decide, fun _ => by decide⟩
  | datagram ip serverId role =>
    by_cases ignored : serverId.getD thread.remoteServerId ≠ rddcp.serverId ∨ ip = rddcp.ip
    · rw [receive_ignored ignored]
      exact ⟨by dsimp only; decide, by dsimp only; decide, fun _ => by dsimp only; decide⟩
    · obtain ⟨group, other⟩ := not_or.mp ignored
      rw [receive_group (not_not.mp group) other, react]
      dsimp only
      split
      · exact ⟨by decide, by decide, fun _ => by decide⟩
      · exact reaction_bounds _ _ _

theorem step_untilReturned (answer : Answer) (told : rddcp.quitInnerThread = true) :
    untilReturned (thread.step answer rddcp).2.pc ≤ untilReturned thread.pc - 1 := by
  unfold step
  cases here : thread.pc with
  | recvBroadCastMsg => exact (receive_bounds answer.received).1
  | whileNotQuit =>
    simp only [told, if_true]
    decide
  | checkCount =>
    dsimp only
    split <;> decide
  | returned =>
    dsimp only
    rw [here]
    decide
  | _ =>
    dsimp only
    decide

theorem step_returned {answer : Answer} (reported : thread.pc = .returned → rddcp.reportQuit = true)
    (returned : (thread.step answer rddcp).2.pc = .returned) :
    (thread.step answer rddcp).1.reportQuit = true := by
  unfold step at returned ⊢
  cases here : thread.pc with
  | returned => exact reported here
  | setEvent => rfl
  | recvBroadCastMsg =>
    simp only [here] at returned
    exact absurd returned (receive_bounds answer.received).2.1
  | whileNotQuit | checkCount =>
    simp only [here] at returned
    split at returned <;> cases returned
  | _ =>
    simp only [here] at returned
    cases returned

/-- The thread cannot leave without a word: it has not left the loop, and is no candidate in front of
a receive. -/
structure Announces (rddcp : Redundancy) (thread : Negotiate) : Prop where
  goesOn : GoesOn thread.pc
  reads : thread.pc = .getMyRole ∨ thread.pc = .getMyRoleAgain → rddcp.iAm ≠ .whoAmI
  read : thread.pc = .checkCount ∨ thread.pc = .recvBroadCastMsg → thread.role ≠ .whoAmI

theorem Behind.announces (behind : Behind thread.pc) : Announces rddcp thread := by
  obtain ⟨goesOn, head, again, count, receives⟩ := behind
  exact ⟨goesOn, fun here => (here.elim head again).elim, fun here => (here.elim count receives).elim⟩

theorem Announces.step (announces : Announces rddcp thread) (answer : Answer)
    (told : rddcp.quitInnerThread = true) (before : thread.pc ≠ .setActiveQuitEr) :
    Announces (thread.step answer rddcp).1 (thread.step answer rddcp).2 := by
  obtain ⟨⟨broadcasts, sets, returned⟩, reads, read⟩ := announces
  unfold Negotiate.step
  cases here : thread.pc with
  | setActiveQuitEr => exact absurd here before
  | broadcastQuit => exact absurd here broadcasts
  | setEvent => exact absurd here sets
  | returned => exact absurd here returned
  | recvBroadCastMsg =>
    exact ((receive_bounds answer.received).2.2 (read (.inr here))).announces
  | whileNotQuit =>
    simp only [told, if_true]
    exact Behind.announces (by dsimp only; decide)
  | checkCount =>
    have candidate := read (.inl here)
    simp only [candidate, and_false, if_false]
    exact ⟨by simp [GoesOn], by simp, fun _ => candidate⟩
  | getMyRole =>
    have role := reads (.inl here)
    exact ⟨by simp [GoesOn], by simp, fun _ => role⟩
  | getMyRoleAgain =>
    have role := reads (.inr here)
    exact ⟨by simp [GoesOn], by simp, fun _ => role⟩
  | promoteByCount => exact ⟨by simp [GoesOn], by simp [Redundancy.setMyRole], by simp⟩
  | _ => exact Behind.announces (by dsimp only; decide)

end Negotiate

namespace ThreadStep

def negotiates : ThreadStep → Bool
  | .negotiate _ => true
  | _ => false

end ThreadStep

namespace Threads

variable {fresh heap : Memory} {ip : IpAddress} {threads : Threads}

theorem told_apply {label : ThreadStep} {next : Threads} (told : threads.rddcp.quitInnerThread = true)
    (stepped : threads.apply heap label = some next) : next.rddcp.quitInnerThread = true := by
  cases label with
  | negotiate answer =>
    cases stepped
    exact (Negotiate.step_quitInnerThread ..).trans told
  | quit =>
    cases stepped
    rfl
  | heartbeat received =>
    obtain ⟨after, executed, rfl⟩ := Option.map_eq_some_iff.mp stepped
    rcases Heartbeat.step_rddcp executed with same | quits | takes
    · rw [same]
      exact told
    · rw [quits]
    · rw [takes]
      exact told

theorem turn_untilReturned {label : ThreadStep} {next : Threads}
    (told : threads.rddcp.quitInnerThread = true) (stepped : threads.apply heap label = some next) :
    Heartbeat.untilReturned next.heartbeat.pc ≤
      Heartbeat.untilReturned threads.heartbeat.pc - if label.turn then 1 else 0 := by
  cases label with
  | negotiate answer =>
    cases stepped
    exact Nat.le_refl _
  | quit =>
    cases stepped
    exact Nat.le_refl _
  | heartbeat received =>
    obtain ⟨after, executed, rfl⟩ := Option.map_eq_some_iff.mp stepped
    exact Heartbeat.step_untilReturned told executed

theorem negotiates_untilReturned {label : ThreadStep} {next : Threads}
    (told : threads.rddcp.quitInnerThread = true) (stepped : threads.apply heap label = some next) :
    Negotiate.untilReturned next.negotiate.pc ≤
      Negotiate.untilReturned threads.negotiate.pc - if label.negotiates then 1 else 0 := by
  cases label with
  | negotiate answer =>
    cases stepped
    exact Negotiate.step_untilReturned answer told
  | quit =>
    cases stepped
    exact Nat.le_refl _
  | heartbeat received =>
    obtain ⟨after, executed, rfl⟩ := Option.map_eq_some_iff.mp stepped
    exact Nat.le_refl _

section Run
variable {steps : List ThreadStep} {last : Threads} (told : threads.rddcp.quitInnerThread = true)
  (ran : steps.foldlM (apply heap) threads = some last)
include told ran

theorem heartbeat_returns (enough : 8 ≤ steps.countP ThreadStep.turn) :
    last.heartbeat.pc = .returned := by
  have fell := System.foldlM_rank ThreadStep.turn
    (fun threads : Threads => threads.rddcp.quitInnerThread = true)
    (fun threads => Heartbeat.untilReturned threads.heartbeat.pc)
    (fun _ _ _ told stepped => ⟨told_apply told stepped, turn_untilReturned told stepped⟩) steps told ran
  have most := Heartbeat.untilReturned_le threads.heartbeat.pc
  have none : Heartbeat.untilReturned last.heartbeat.pc = 0 := by omega
  revert none
  cases last.heartbeat.pc <;> simp [Heartbeat.untilReturned]

theorem negotiate_returns (enough : 13 ≤ steps.countP ThreadStep.negotiates) :
    last.negotiate.pc = .returned := by
  have fell := System.foldlM_rank ThreadStep.negotiates
    (fun threads : Threads => threads.rddcp.quitInnerThread = true)
    (fun threads => Negotiate.untilReturned threads.negotiate.pc)
    (fun _ _ _ told stepped => ⟨told_apply told stepped, negotiates_untilReturned told stepped⟩)
    steps told ran
  have most := Negotiate.untilReturned_le threads.negotiate.pc
  have none : Negotiate.untilReturned last.negotiate.pc = 0 := by omega
  revert none
  cases last.negotiate.pc <;> simp [Negotiate.untilReturned]

end Run

/-- The main thread is told before `negotiate` returns. -/
theorem reportQuit_of_returned (reached : (system fresh heap ip).Reaches System.Always threads) :
    threads.negotiate.pc = .returned → threads.rddcp.reportQuit = true := by
  refine reached.invariant
    (fun threads => threads.negotiate.pc = .returned → threads.rddcp.reportQuit = true) ?_ ?_
  · rintro threads ⟨rddcp, -, -, rfl⟩ here
    cases here
  · intro threads label next reported _ stepped returned
    cases label with
    | negotiate answer =>
      cases stepped
      exact Negotiate.step_returned reported returned
    | quit =>
      cases stepped
      exact reported returned
    | heartbeat received =>
      obtain ⟨after, executed, rfl⟩ := Option.map_eq_some_iff.mp stepped
      have before := reported returned
      rcases Heartbeat.step_rddcp executed with same | quits | takes
      · rw [same]
        exact before
      · rw [quits]
        exact before
      · rw [takes]
        exact before

/-- The exit is announced, or the thread is still on its way to the announcement. -/
theorem announces_apply {label : ThreadStep} {next : Threads}
    (told : threads.rddcp.quitInnerThread = true)
    (before : threads.announced = true ∨ Negotiate.Announces threads.rddcp threads.negotiate)
    (stepped : threads.apply heap label = some next) :
    next.announced = true ∨ Negotiate.Announces next.rddcp next.negotiate := by
  cases label with
  | negotiate answer =>
    cases stepped
    rcases before with done | announces
    · exact .inl (by simp [done])
    · by_cases now : threads.negotiate.pc = .setActiveQuitEr
      · exact .inl (by simp [now])
      · exact .inr (announces.step answer told now)
  | quit =>
    cases stepped
    rcases before with done | ⟨goesOn, reads, read⟩
    · exact .inl done
    · exact .inr ⟨goesOn, reads, read⟩
  | heartbeat received =>
    obtain ⟨after, executed, rfl⟩ := Option.map_eq_some_iff.mp stepped
    rcases before with done | ⟨goesOn, reads, read⟩
    · exact .inl done
    · refine .inr ⟨goesOn, fun here => ?_, read⟩
      rcases Heartbeat.step_rddcp executed with same | quits | takes
      · rw [same]
        exact reads here
      · rw [quits]
        exact reads here
      · rw [takes]
        simp [Redundancy.setMyRole]

end Threads

end Foolject
