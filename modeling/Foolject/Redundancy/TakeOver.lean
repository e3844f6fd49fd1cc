import Foolject.Redundancy.Threads

/-! What the heartbeat thread does to the role of its server, while the negotiate thread
changes it too.

The count of timeouts is reset in two places, neither of which is a pairing. The role that
the thread acts on is the one that it read before the receive.
-/

set_option autoImplicit false

namespace Foolject
open VNClib

namespace Heartbeat

variable {heap : Memory} {received : HeartbeatReceived} {rddcp : Redundancy} {thread : Heartbeat}

/-- A setter of the message to send changes that message only. -/
theorem setStringParam_some {id : Int} {value : CString} {after : Heartbeat}
    (set : thread.setStringParam heap id value = some after) :
    ∃ result, thread.sndMsg.setStringParam heap sndMsgFuel id value = some result ∧
      after = { thread with sndMsg := result.2 } := by
  obtain ⟨result, added, same⟩ := Option.map_eq_some_iff.mp set
  exact ⟨result, added, same.symm⟩

/-- The thread changes the count in three places: a timeout, a heartbeat of the mate, and the
branch for a server without a mate. -/
def countAfter (rddcp : Redundancy) (thread : Heartbeat) (received : HeartbeatReceived) : Nat :=
  if thread.Resets rddcp ∨ thread.pc = .resetErrCount then 0
  else if thread.Misses received then thread.errCount + 1 else thread.errCount

theorem receive_misses {after : Heartbeat} (here : thread.pc = .vnRecvMsg)
    (stored : thread.receive received = some after) :
    after.errCount = if thread.Misses received then thread.errCount + 1 else thread.errCount := by
  rw [(receive_some stored).2.2]
  cases received with
  | message sender text => rfl
  | failed => rfl
  | timeout => exact (if_pos here).symm

theorem compareMate_errCount (here : thread.pc = .compareMate) :
    (thread.compareMate rddcp).errCount = if thread.Resets rddcp then 0 else thread.errCount := by
  by_cases mate : thread.fromMate rddcp
  · by_cases ping : thread.tells Foolject.heartbeatString
    · simp [compareMate, Resets, here, mate, ping]
    · by_cases quits : thread.tells passiveQuitString
      · simp [compareMate, Resets, mate, ping, quits]
      · simp [compareMate, Resets, mate, ping, quits]
  · simp [compareMate, Resets, mate]

theorem compareMate_pc (rddcp : Redundancy) (thread : Heartbeat) :
    (thread.compareMate rddcp).pc = .whileNotQuit ∨ (thread.compareMate rddcp).pc = .setQuit := by
  unfold compareMate
  split
  · split
    · exact .inl rfl
    · split
      · exact .inr rfl
      · exact .inl rfl
  · exact .inl rfl

theorem receive_takeOver {after : Heartbeat} (stored : thread.receive received = some after)
    (takes : after.pc = .takeOver) : received = .timeout ∧ maxHeartbeatErrorCount < thread.errCount := by
  rw [(receive_some stored).2.1] at takes
  cases received with
  | message sender text => cases takes
  | failed => cases takes
  | timeout =>
    refine ⟨rfl, ?_⟩
    by_contra few
    cases (if_neg few : thread.receivedPc .timeout = .whileNotQuit).symm.trans takes

structure StepEffect (received : HeartbeatReceived) (rddcp : Redundancy) (thread : Heartbeat)
    (after : Redundancy × Heartbeat) : Prop where
  errCount : after.2.errCount = thread.countAfter rddcp received
  iAm : after.1.iAm = if thread.pc = .takeOver then .primaryWithoutBackup else rddcp.iAm
  takeOver : after.2.pc = .takeOver → thread.Misses received ∧ maxHeartbeatErrorCount < thread.errCount
  unpaired : thread.pc = .foolWait → after.2.pc = .resetErrCount

def Plain (pc : HeartbeatPc) : Prop :=
  pc ≠ .vnRecvMsg ∧ pc ≠ .compareMate ∧ pc ≠ .takeOver ∧ pc ≠ .foolWait ∧ pc ≠ .resetErrCount

theorem stepEffect_plain {after : Redundancy × Heartbeat} (plain : Plain thread.pc)
    (count : after.2.errCount = thread.errCount) (role : after.1.iAm = rddcp.iAm)
    (elsewhere : after.2.pc ≠ .takeOver) : StepEffect received rddcp thread after := by
  obtain ⟨receives, compares, takes, waits, resets⟩ := plain
  have silent : ¬ thread.Misses received := by
    intro misses
    cases received with
    | timeout => exact receives misses
    | message sender text => exact misses
    | failed => exact misses
  refine ⟨?_, ?_, fun at_ => absurd at_ elsewhere, fun at_ => absurd at_ waits⟩
  · simp [countAfter, Resets, compares, resets, silent, count]
  · simp [takes, role]

theorem stepEffect_setter {after : Redundancy × Heartbeat} (plain : Plain thread.pc) {id : Int}
    {value : CString} {pc : HeartbeatPc} (elsewhere : pc ≠ .takeOver)
    (stepped : (thread.setStringParam heap id value).map
      (fun set => (rddcp, { set with pc := pc })) = some after) :
    StepEffect received rddcp thread after := by
  obtain ⟨set, done, rfl⟩ := Option.map_eq_some_iff.mp stepped
  obtain ⟨result, -, rfl⟩ := setStringParam_some done
  exact stepEffect_plain plain rfl rfl elsewhere

theorem stepEffect {after : Redundancy × Heartbeat}
    (stepped : thread.step heap received rddcp = some after) :
    StepEffect received rddcp thread after := by
  unfold step at stepped
  cases here : thread.pc with
  | setOwnIp =>
    simp only [here] at stepped
    exact stepEffect_setter (by simp [Plain, here]) (by decide) stepped
  | setHeartbeatString =>
    simp only [here] at stepped
    split at stepped
    · exact stepEffect_setter (by simp [Plain, here]) (by decide) stepped
    · cases stepped
      exact stepEffect_plain (by simp [Plain, here]) rfl rfl (by simp)
  | setPassiveQuitString =>
    simp only [here] at stepped
    split at stepped
    · exact stepEffect_setter (by simp [Plain, here]) (by decide) stepped
    · cases stepped
      exact stepEffect_plain (by simp [Plain, here]) rfl rfl (by simp)
  | whileNotQuit =>
    simp only [here] at stepped
    cases stepped
    refine stepEffect_plain (by simp [Plain, here]) rfl rfl ?_
    dsimp only
    split <;> decide
  | getMyRole =>
    simp only [here] at stepped
    cases stepped
    refine stepEffect_plain (by simp [Plain, here]) rfl rfl ?_
    dsimp only
    split <;> decide
  | sendHeartbeat | setQuit | sendPassiveQuit =>
    simp only [here] at stepped
    cases stepped
    exact stepEffect_plain (by simp [Plain, here]) rfl rfl (by simp)
  | returned =>
    simp only [here] at stepped
    cases stepped
    exact stepEffect_plain (by simp [Plain, here]) rfl rfl (by simp [here])
  | vnRecvMsg =>
    simp only [here] at stepped
    obtain ⟨after, stored, rfl⟩ := Option.map_eq_some_iff.mp stepped
    refine ⟨?_, by simp [here], fun at_ => ?_, by simp [here]⟩
    · rw [receive_misses here stored]
      simp [countAfter, Resets, here]
    · obtain ⟨timeout, many⟩ := receive_takeOver stored at_
      rw [timeout]
      exact ⟨here, many⟩
  | compareMate =>
    simp only [here] at stepped
    cases stepped
    refine ⟨?_, by simp [here], fun at_ => ?_, by simp [here]⟩
    · have silent : ¬ thread.Misses received := by
        cases received <;> simp [Misses, here]
      rw [compareMate_errCount here]
      simp [countAfter, here, silent]
    · rcases compareMate_pc rddcp thread with back | quits
      · exact absurd (back.symm.trans at_) (by decide)
      · exact absurd (quits.symm.trans at_) (by decide)
  | takeOver | foolWait | resetErrCount =>
    simp only [here] at stepped
    cases stepped
    have silent : ¬ thread.Misses received := by
      cases received <;> simp [Misses, here]
    exact ⟨by simp [countAfter, Resets, here, silent], by simp [here, Redundancy.setMyRole], by simp,
      by simp [here]⟩

end Heartbeat

namespace Threads

variable {fresh heap : Memory} {ip : IpAddress} {threads : Threads}

/-! ## The count at a take-over -/

/-- A pairing finds no timeouts counted, or the thread in the branch that will reset the count. -/
def PairsAfresh (threads : Threads) : ThreadStep → Prop
  | .negotiate _ => threads.negotiate.Pairs →
    threads.heartbeat.errCount = 0 ∨ threads.heartbeat.pc = .foolWait ∨
      threads.heartbeat.pc = .resetErrCount
  | _ => True

instance (threads : Threads) : DecidablePred threads.PairsAfresh
  | .negotiate _ => inferInstanceAs (Decidable (_ → _))
  | .heartbeat _ => .isTrue trivial
  | .quit => .isTrue trivial

/-- But for a count that is about to be reset, no more is counted than was missed. -/
structure Counted (threads : Threads) : Prop where
  missed : threads.heartbeat.pc ≠ .foolWait → threads.heartbeat.pc ≠ .resetErrCount →
    threads.heartbeat.errCount ≤ threads.missed
  enough : threads.heartbeat.pc = .takeOver →
    maxHeartbeatErrorCount + 2 ≤ threads.heartbeat.errCount

theorem Counted.heartbeat {received : HeartbeatReceived} {after : Redundancy × Heartbeat}
    (counted : threads.Counted)
    (stepped : threads.heartbeat.step heap received threads.rddcp = some after) :
    Counted { threads with
      rddcp := after.1
      heartbeat := after.2
      missed := if threads.heartbeat.Resets threads.rddcp then 0
        else if threads.heartbeat.Misses received then threads.missed + 1 else threads.missed
      sent := threads.sent ++ threads.heartbeat.sends } := by
  have effect := Heartbeat.stepEffect stepped
  have count := effect.errCount
  unfold Heartbeat.countAfter at count
  constructor
  · intro _ notReset
    have notWaiting : threads.heartbeat.pc ≠ .foolWait := fun waits => notReset (effect.unpaired waits)
    dsimp only
    rw [count]
    by_cases resets : threads.heartbeat.Resets threads.rddcp
    · simp [resets]
    · -- Both counts grow by one, or neither does.
      by_cases clears : threads.heartbeat.pc = .resetErrCount
      · simp [clears]
      · have before := counted.missed notWaiting clears
        simp only [resets, clears, or_self, if_false]
        split <;> omega
  · intro takes
    obtain ⟨misses, many⟩ := effect.takeOver takes
    have receives : threads.heartbeat.pc = .vnRecvMsg := by
      cases received with
      | timeout => exact misses
      | message sender text => exact misses.elim
      | failed => exact misses.elim
    have kept : ¬ (threads.heartbeat.Resets threads.rddcp ∨ threads.heartbeat.pc = .resetErrCount) := by
      simp [Heartbeat.Resets, receives]
    dsimp only
    rw [count, if_neg kept, if_pos misses]
    exact Nat.succ_le_succ many

theorem counted (reached : (system fresh heap ip).Reaches PairsAfresh threads) : threads.Counted := by
  refine reached.invariant Counted ?_ ?_
  · rintro threads ⟨rddcp, -, -, rfl⟩
    exact ⟨fun _ _ => le_refl 0, by simp [start, Heartbeat.start]⟩
  · intro threads label after counted allowed stepped
    cases label with
    | negotiate answer =>
      cases stepped
      refine ⟨fun notWaiting notReset => ?_, counted.enough⟩
      by_cases pairs : threads.negotiate.Pairs
      · rcases allowed pairs with none | waits | resets
        · simp only [pairs, if_true, none, le_refl]
        · exact absurd waits notWaiting
        · exact absurd resets notReset
      · simp only [pairs, if_false]
        exact counted.missed notWaiting notReset
    | heartbeat received =>
      obtain ⟨result, executed, rfl⟩ := Option.map_eq_some_iff.mp stepped
      exact counted.heartbeat executed
    | quit =>
      cases stepped
      exact ⟨counted.missed, counted.enough⟩

/-- While pairings find nothing counted, a server takes over from a mate that has been
silent for five timeouts. -/
theorem takeOver_missed (reached : (system fresh heap ip).Reaches PairsAfresh threads)
    (takes : threads.heartbeat.pc = .takeOver) : maxHeartbeatErrorCount + 2 ≤ threads.missed := by
  have counted := counted reached
  have enough := counted.enough takes
  have missed := counted.missed (by simp [takes]) (by simp [takes])
  omega

theorem takeOver_missed_fifth : ∃ threads : Threads,
    threads.heartbeat.pc = .takeOver ∧ maxHeartbeatErrorCount + 2 ≤ threads.missed := by
  -- The backup takes over at the fifth timeout.
  have started : (system (fun _ => 0) (fun _ => 0) (threeAddresses 1)).Reaches PairsAfresh newThreads :=
    .start newThreads_fresh
  obtain ⟨threads, reached, takes⟩ := started.follow_any
    (becomesBackup ++ .heartbeat .timeout :: misses 5)
    (fun threads => decide (threads.heartbeat.pc = .takeOver)) (by decide +kernel)
  have takes := of_decide_eq_true takes
  exact ⟨threads, takes, takeOver_missed reached takes⟩

theorem takeOver_firstTimeout : ∃ threads : Threads,
    (system (fun _ => 0) (fun _ => 0) (threeAddresses 1)).Reaches System.Always threads ∧
    threads.heartbeat.pc = .takeOver ∧ threads.missed = 1 := by
  -- Four timeouts of a mate that then leaves, and the first one of its successor.
  have started : (system (fun _ => 0) (fun _ => 0) (threeAddresses 1)).Reaches System.Always newThreads :=
    .start newThreads_fresh
  obtain ⟨threads, reached, holds⟩ := started.follow_any
    (becomesBackup ++ .heartbeat .timeout :: misses 4 ++ List.replicate 4 (.heartbeat .timeout) ++
      changesMate ++ [.heartbeat .timeout])
    (fun threads => decide (threads.heartbeat.pc = .takeOver ∧ threads.missed = 1)) (by decide +kernel)
  exact ⟨threads, reached, of_decide_eq_true holds⟩

/-! ## The role of a server that leaves -/

/-- `negotiate` announces the exit when the heartbeat thread is not about to take over; and
none of the receives that outlast the announcement is one timeout too many. -/
def StandsBack (threads : Threads) : ThreadStep → Prop
  | .negotiate _ => threads.negotiate.pc = .setActiveQuitEr → threads.heartbeat.pc ≠ .takeOver
  | .heartbeat received => threads.announced = true → threads.heartbeat.Misses received →
    threads.heartbeat.errCount ≤ maxHeartbeatErrorCount
  | .quit => True

instance (threads : Threads) : DecidablePred threads.StandsBack
  | .negotiate _ => inferInstanceAs (Decidable (_ → _))
  | .heartbeat _ => inferInstanceAs (Decidable (_ → _ → _))
  | .quit => .isTrue trivial

def Final (threads : Threads) : Prop :=
  threads.announced = true → threads.rddcp.iAm = .activeQuitEr ∧
    ∀ role ∈ threads.negotiate.broadcast threads.rddcp, role = .activeQuitEr

/-- Behind the announcement `negotiate` runs to its end, and the heartbeat thread has no
take-over before it. -/
structure Leaving (threads : Threads) : Prop where
  iAm : threads.rddcp.iAm = .activeQuitEr
  rest : threads.negotiate.pc = .broadcastQuit ∨ threads.negotiate.pc = .setEvent ∨
    threads.negotiate.pc = .returned
  noTakeOver : threads.heartbeat.pc ≠ .takeOver

theorem Leaving.final (leaving : threads.Leaving) : threads.Final := by
  refine fun _ => ⟨leaving.iAm, fun role broadcast => ?_⟩
  obtain ⟨-, same⟩ := Option.ite_none_right_eq_some.mp broadcast
  cases same
  exact leaving.iAm

theorem Leaving.negotiate (leaving : threads.Leaving) (answer : Answer) :
    (threads.negotiate.step answer threads.rddcp).1.iAm = .activeQuitEr ∧
    ((threads.negotiate.step answer threads.rddcp).2.pc = .setEvent ∨
      (threads.negotiate.step answer threads.rddcp).2.pc = .returned) := by
  rcases leaving.rest with at_ | at_ | at_
  · simp only [Negotiate.step, at_]
    exact ⟨leaving.iAm, .inl trivial⟩
  · simp only [Negotiate.step, at_]
    exact ⟨leaving.iAm, .inr trivial⟩
  · simp only [Negotiate.step, at_]
    exact ⟨leaving.iAm, .inr trivial⟩

theorem leaving (reached : (system fresh heap ip).Reaches StandsBack threads)
    (announced : threads.announced = true) : threads.Leaving := by
  refine reached.invariant (fun threads => threads.announced = true → threads.Leaving) ?_ ?_ announced
  · rintro threads ⟨rddcp, -, -, rfl⟩ announced
    cases announced
  · intro threads label after leaving allowed stepped announced
    cases label with
    | negotiate answer =>
      cases stepped
      by_cases now : threads.negotiate.pc = .setActiveQuitEr
      · have first := allowed now
        refine ⟨?_, .inl ?_, first⟩
        · simp [Negotiate.step, now, Redundancy.setMyRole]
        · simp [Negotiate.step, now]
      · have leaving := leaving (by simpa [now] using announced)
        obtain ⟨role, rest⟩ := leaving.negotiate answer
        exact ⟨role, .inr rest, leaving.noTakeOver⟩
    | heartbeat received =>
      obtain ⟨result, executed, rfl⟩ := Option.map_eq_some_iff.mp stepped
      have effect := Heartbeat.stepEffect executed
      have leaving := leaving announced
      refine ⟨?_, leaving.rest, fun takes => ?_⟩
      · dsimp only
        rw [effect.iAm, if_neg leaving.noTakeOver, leaving.iAm]
      · obtain ⟨misses, many⟩ := effect.takeOver takes
        exact absurd many (not_lt.mpr (allowed announced misses))
    | quit =>
      cases stepped
      have leaving := leaving announced
      exact ⟨leaving.iAm, leaving.rest, leaving.noTakeOver⟩

theorem takeOver_of_not_standsBack {label : ThreadStep} {after : Threads}
    (stepped : threads.apply heap label = some after) (breaks : ¬ threads.StandsBack label) :
    after.announced = true ∧ after.heartbeat.pc = .takeOver := by
  -- A step that the condition excludes leads to a take-over behind the announcement.
  cases label with
  | negotiate answer =>
    cases stepped
    obtain ⟨now, takes⟩ := Classical.not_imp.mp breaks
    exact ⟨by simp [now], not_not.mp takes⟩
  | heartbeat received =>
    obtain ⟨result, executed, rfl⟩ := Option.map_eq_some_iff.mp stepped
    obtain ⟨announced, breaks⟩ := Classical.not_imp.mp breaks
    obtain ⟨misses, many⟩ := Classical.not_imp.mp breaks
    refine ⟨announced, ?_⟩
    cases received with
    | timeout =>
      have receives : threads.heartbeat.pc = .vnRecvMsg := misses
      simp only [Heartbeat.step, receives] at executed
      obtain ⟨after, stored, rfl⟩ := Option.map_eq_some_iff.mp executed
      exact (Heartbeat.receive_some stored).2.1.trans (if_pos (not_le.mp many))
    | message sender text => exact misses.elim
    | failed => exact misses.elim
  | quit => exact absurd trivial breaks

/-- While the heartbeat thread stands back, the role that a leaving server announces is its
last one. Whenever it does not, it can go on to change that role. -/
theorem activeQuitEr_final (fresh heap : Memory) (ip : IpAddress) :
    (∀ threads, (system fresh heap ip).Reaches StandsBack threads → threads.Final) ∧
    ∀ threads label after, (system fresh heap ip).Reaches StandsBack threads →
      (system fresh heap ip).step threads label after → ¬ threads.StandsBack label →
      ∃ last, (system fresh heap ip).step after (.heartbeat .timeout) last ∧ ¬ last.Final := by
  constructor
  · intro threads reached announced
    exact (leaving reached announced).final announced
  · intro threads label after _ stepped breaks
    obtain ⟨announced, takes⟩ := takeOver_of_not_standsBack stepped breaks
    obtain ⟨result, executed⟩ : ∃ result,
        after.heartbeat.step heap .timeout after.rddcp = some result := by
      simp [Heartbeat.step, takes]
    refine ⟨_, (congrArg (Option.map _) executed).trans (Option.map_some ..), fun final => ?_⟩
    have role := (Heartbeat.stepEffect executed).iAm
    rw [if_pos takes] at role
    have kept := (final announced).1
    rw [role] at kept
    cases kept

def leavesInReceive : List ThreadStep :=
  becomesBackup ++ .heartbeat .timeout :: misses 4 ++ List.replicate 4 (.heartbeat .timeout) ++
    .quit :: negotiates 2 0 .whoAmI

theorem activeQuitEr_final_inReceive :
    (∃ threads : Threads, threads.announced = true ∧ threads.Final) ∧
    ∃ last : Threads, last.announced = true ∧ ¬ last.Final := by
  obtain ⟨final, broken⟩ := activeQuitEr_final (fun _ => 0) (fun _ => 0) (threeAddresses 1)
  have started : (system (fun _ => 0) (fun _ => 0) (threeAddresses 1)).Reaches StandsBack newThreads :=
    .start newThreads_fresh
  obtain ⟨threads, reached, holds⟩ := started.follow_any leavesInReceive
    (fun threads => decide (threads.announced = true ∧ threads.heartbeat.pc = .vnRecvMsg ∧
      threads.heartbeat.errCount < intMax ∧ ¬ threads.StandsBack (.heartbeat .timeout))) (by decide +kernel)
  obtain ⟨announced, receives, inRange, breaks⟩ := of_decide_eq_true holds
  refine ⟨⟨threads, announced, final threads reached⟩, ?_⟩
  obtain ⟨stored, received⟩ : ∃ stored, threads.heartbeat.receive .timeout = some stored :=
    Heartbeat.receive_of_fits trivial inRange
  obtain ⟨result, executed⟩ : ∃ result,
      threads.heartbeat.step (fun _ => 0) .timeout threads.rddcp = some result := by
    simp [Heartbeat.step, receives, received]
  obtain ⟨last, stepped, changed⟩ := broken threads (.heartbeat .timeout) _ reached
    ((congrArg (Option.map _) executed).trans (Option.map_some ..)) breaks
  refine ⟨last, ?_, changed⟩
  obtain ⟨-, -, rfl⟩ := Option.map_eq_some_iff.mp stepped
  exact announced

theorem activeQuitEr_overwritten : ∃ threads : Threads,
    (system (fun _ => 0) (fun _ => 0) (threeAddresses 1)).Reaches System.Always threads ∧
    threads.announced = true ∧ threads.rddcp.iAm = .primaryWithoutBackup ∧
    threads.negotiate.broadcast threads.rddcp = some .primaryWithoutBackup := by
  -- The fifth timeout comes behind the announcement: the broadcast tells the role of a primary.
  have started : (system (fun _ => 0) (fun _ => 0) (threeAddresses 1)).Reaches System.Always newThreads :=
    .start newThreads_fresh
  obtain ⟨threads, reached, holds⟩ := started.follow_any
    (leavesInReceive ++ List.replicate 2 (.heartbeat .timeout))
    (fun threads => decide (threads.announced = true ∧ threads.rddcp.iAm = .primaryWithoutBackup ∧
      threads.negotiate.broadcast threads.rddcp = some .primaryWithoutBackup)) (by decide +kernel)
  exact ⟨threads, reached, of_decide_eq_true holds⟩

end Threads

end Foolject
