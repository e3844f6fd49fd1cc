import Foolject.Redundancy.Fencing

/-! A mate that falls silent is noticed, and within how many turns of the heartbeat thread.

Nothing is asked of the negotiate thread, which may change the mate in between: what
counts is that the thread finds its server paired whenever it looks.
-/

set_option autoImplicit false

namespace Foolject
open VNClib

/-! ## The thread always has a next step -/

section Setters
variable {heap : Memory} {ip : IpAddress} {msg : CVNNetMsg} {params : List Param}

theorem holds_settable (holds : msg.Holds params) (few : params.length < sndMsgFuel) (id : Int)
    {value : CString} (fits : msg.pos + 6 + value.bytes.length < 2 ^ 31) :
    ∃ result, msg.setStringParam heap sndMsgFuel id value = some result := by
  cases found : lookup id params with
  | some param => exact ⟨_, holds.addParam_present few found⟩
  | none =>
    obtain ⟨next, added, -, -⟩ := holds.addParam_absent few found fits
    exact ⟨_, added⟩

end Setters

section Stamped
variable {heap : Memory} {received : HeartbeatReceived} {rddcp : Redundancy} {thread : Heartbeat}
  {sent : List (Purpose × CVNNetMsg)}

theorem Stamped.settable {ip : IpAddress} (stamped : Stamped ip thread sent) (id : Int) {value : CString}
    (short : value.bytes.length ≤ 15) : ∃ after, thread.setStringParam heap id value = some after := by
  suffices set : ∃ result, thread.sndMsg.setStringParam heap sndMsgFuel id value = some result by
    obtain ⟨result, set⟩ := set
    exact ⟨_, Option.map_eq_some_iff.mpr ⟨result, set, rfl⟩⟩
  have own := ip.short
  cases stamped with
  | fresh _ holds _ =>
    have pos := holds.pos
    simp only [endOfHeader, encodeAll_nil, List.length_nil] at pos
    exact holds_settable holds (by decide) id (by omega)
  | addressed _ holds _ =>
    have pos := holds.pos
    simp only [endOfHeader, encodeAll_cons, encodeAll_nil, List.append_nil, Param.length_encode,
      ParamValue.param] at pos
    exact holds_settable holds (by simp [sndMsgFuel]) id (by omega)
  | worded first _ holds _ _ =>
    have pos := holds.pos
    have size := first.text_length
    simp only [Purpose.params, endOfHeader, encodeAll_cons, encodeAll_nil, List.append_nil,
      List.length_append, Param.length_encode, ParamValue.param] at pos
    exact holds_settable holds (by simp [Purpose.params, sndMsgFuel]) id (by omega)

theorem Stamped.step_some (stamped : Stamped rddcp.ip thread sent)
    (defined : thread.pc = .vnRecvMsg → received.Fits ∧ thread.errCount < intMax) :
    ∃ after, thread.step heap received rddcp = some after := by
  have word (purpose : Purpose) : ∃ set, thread.setStringParam heap 1 purpose.text = some set :=
    stamped.settable 1 (by rw [purpose.text_length]; decide)
  unfold Heartbeat.step
  cases here : thread.pc with
  | setOwnIp =>
    obtain ⟨set, done⟩ : ∃ set, thread.setStringParam heap 0 rddcp.ip.text = some set :=
      stamped.settable 0 rddcp.ip.short
    exact ⟨_, Option.map_eq_some_iff.mpr ⟨set, done, rfl⟩⟩
  | setHeartbeatString =>
    obtain ⟨set, done⟩ := word .heartbeat
    dsimp only
    split
    · exact ⟨_, Option.map_eq_some_iff.mpr ⟨set, done, rfl⟩⟩
    · exact ⟨_, rfl⟩
  | setPassiveQuitString =>
    obtain ⟨set, done⟩ := word .fence
    dsimp only
    split
    · exact ⟨_, Option.map_eq_some_iff.mpr ⟨set, done, rfl⟩⟩
    · exact ⟨_, rfl⟩
  | vnRecvMsg =>
    obtain ⟨fits, inRange⟩ := defined here
    obtain ⟨stored, got⟩ : ∃ stored, thread.receive received = some stored :=
      Heartbeat.receive_of_fits fits inRange
    exact ⟨_, Option.map_eq_some_iff.mpr ⟨stored, got, rfl⟩⟩
  | _ => exact ⟨_, rfl⟩

end Stamped

namespace Threads

variable {fresh heap : Memory} {ip : IpAddress} {threads : Threads}

/-- A receive does not write behind a buffer, nor count past the range of `int`. -/
def Defined (threads : Threads) : ThreadStep → Prop
  | .heartbeat received => threads.heartbeat.pc = .vnRecvMsg →
    received.Fits ∧ threads.heartbeat.errCount < intMax
  | _ => True

theorem apply_some (reached : (system fresh heap ip).Reaches System.Always threads) (label : ThreadStep)
    (defined : threads.Defined label) : ∃ next, threads.apply heap label = some next := by
  cases label with
  | negotiate answer => exact ⟨_, rfl⟩
  | quit => exact ⟨_, rfl⟩
  | heartbeat received =>
    obtain ⟨after, stepped⟩ : ∃ after, threads.heartbeat.step heap received threads.rddcp = some after :=
      (stamped reached).step_some defined
    exact ⟨_, Option.map_eq_some_iff.mpr ⟨after, stepped, rfl⟩⟩

theorem apply_errCount {label : ThreadStep} {next : Threads} (stepped : threads.apply heap label = some next) :
    next.heartbeat.errCount ≤ threads.heartbeat.errCount + 1 := by
  cases label with
  | negotiate answer =>
    cases stepped
    exact Nat.le_succ _
  | quit =>
    cases stepped
    exact Nat.le_succ _
  | heartbeat received =>
    obtain ⟨after, executed, rfl⟩ := Option.map_eq_some_iff.mp stepped
    dsimp only
    rw [(Heartbeat.stepEffect executed).errCount, Heartbeat.countAfter]
    split
    · exact Nat.zero_le _
    · split
      · exact Nat.le_refl _
      · exact Nat.le_succ _

theorem stays_defined (steps : List ThreadStep)
    (fits : ∀ received, ThreadStep.heartbeat received ∈ steps → received.Fits)
    (inRange : threads.heartbeat.errCount + steps.length ≤ intMax) :
    System.Stays Defined (apply heap) threads steps := by
  -- The count grows by one at a step, at most.
  induction steps generalizing threads with
  | nil => trivial
  | cons label rest ih =>
    rw [List.length_cons] at inRange
    refine ⟨?_, fun next stepped => ih (fun received later => fits received (List.mem_cons_of_mem _ later)) ?_⟩
    · cases label with
      | negotiate answer => trivial
      | quit => trivial
      | heartbeat received => exact fun _ => ⟨fits received List.mem_cons_self, by omega⟩
    · have grown := apply_errCount stepped
      omega

/-- Whatever the threads do and in whichever order, a run goes on to its end. -/
theorem run_some (reached : (system fresh heap ip).Reaches System.Always threads) (steps : List ThreadStep)
    (fits : ∀ received, ThreadStep.heartbeat received ∈ steps → received.Fits)
    (inRange : threads.heartbeat.errCount + steps.length ≤ intMax) :
    ∃ last, steps.foldlM (apply heap) threads = some last :=
  System.foldlM_some (fun threads => (system fresh heap ip).Reaches System.Always threads)
    (fun _ label reached defined => apply_some reached label defined)
    (fun _ _ _ reached stepped => reached.next trivial stepped) steps reached (stays_defined steps fits inRange)

end Threads

/-! ## The turns that are left -/

def HeartbeatReceived.stray : HeartbeatReceived → Bool
  | .timeout => false
  | _ => true

namespace Heartbeat

variable {heap : Memory} {received : HeartbeatReceived} {rddcp : Redundancy} {thread : Heartbeat}

/-- Five turns for each timeout that is still missing, the first and the last one included. -/
def missing (errCount : Nat) : Nat := 5 * (maxHeartbeatErrorCount + 1 - errCount) + 5

/-- The turns until the thread stands at the take-over, if its mate is silent. -/
def rank (thread : Heartbeat) : Nat :=
  match thread.pc with
  | .whileNotQuit => missing thread.errCount
  | .getMyRole => missing thread.errCount - 1
  | .setHeartbeatString => missing thread.errCount - 2
  | .sendHeartbeat => missing thread.errCount - 3
  | .vnRecvMsg => missing thread.errCount - 4
  | .compareMate | .setOwnIp | .setQuit | .sendPassiveQuit => missing thread.errCount + 1
  | .setPassiveQuitString => missing thread.errCount + 2
  | .resetErrCount => missing 0 + 1
  | .foolWait => missing 0 + 2
  | .takeOver | .returned => 0

theorem missing_bounds (errCount : Nat) : 5 ≤ missing errCount ∧ missing errCount ≤ missing 0 := by
  simp only [missing, maxHeartbeatErrorCount]
  omega

theorem rank_le (thread : Heartbeat) : thread.rank ≤ 27 := by
  have bounds := missing_bounds thread.errCount
  have most : missing 0 = 25 := rfl
  unfold rank
  split <;> omega

/-- What the thread sees of a mate that is silent, in a server that stays paired and is not told
to quit. -/
structure MateSilent (rddcp : Redundancy) (thread : Heartbeat) : Prop where
  goesOn : thread.pc = .whileNotQuit → rddcp.quitInnerThread = false
  paired : thread.pc = .getMyRole → rddcp.getMyRole.Paired
  silent : thread.pc = .compareMate → ¬ thread.fromMate rddcp

theorem mateSilent_iff : (thread.pc = .whileNotQuit → rddcp.quitInnerThread = false) ∧
    (thread.pc = .getMyRole → rddcp.getMyRole.Paired) ∧
    (thread.pc = .compareMate → ¬ thread.fromMate rddcp) ↔ thread.MateSilent rddcp := by
  constructor
  · rintro ⟨goesOn, paired, silent⟩
    exact ⟨goesOn, paired, silent⟩
  · rintro ⟨goesOn, paired, silent⟩
    exact ⟨goesOn, paired, silent⟩

instance (rddcp : Redundancy) (thread : Heartbeat) : Decidable (thread.MateSilent rddcp) :=
  decidable_of_iff _ mateSilent_iff

/-- A timeout brings the take-over closer by one, and anything else throws the thread back to the head of the loop. -/
theorem rank_receive {stored : Heartbeat} (here : thread.pc = .vnRecvMsg)
    (got : thread.receive received = some stored) :
    stored.rank + 1 ≤ thread.rank + 6 * (if received.stray then 1 else 0) ∧ stored.pc ≠ .returned := by
  obtain ⟨five, most⟩ := missing_bounds thread.errCount
  obtain ⟨-, next, count⟩ := receive_some got
  cases received with
  | message sender text =>
    simp only [receivedPc] at next
    simp only [missed, Nat.add_zero] at count
    simp only [rank, next, count, here, HeartbeatReceived.stray, if_true]
    exact ⟨by omega, by decide⟩
  | failed =>
    simp only [receivedPc] at next
    simp only [missed, Nat.add_zero] at count
    simp only [rank, next, count, here, HeartbeatReceived.stray, if_true]
    exact ⟨by omega, by decide⟩
  | timeout =>
    by_cases many : thread.errCount > maxHeartbeatErrorCount
    · simp only [receivedPc, if_pos many] at next
      simp only [rank, next, here]
      exact ⟨by omega, by decide⟩
    · have fewer : missing (thread.errCount + 1) + 5 = missing thread.errCount := by
        simp only [missing, maxHeartbeatErrorCount] at many ⊢
        omega
      simp only [receivedPc, if_neg many] at next
      simp only [missed] at count
      simp only [rank, next, count, here]
      exact ⟨by omega, by decide⟩

theorem rank_step {after : Redundancy × Heartbeat} (silent : thread.MateSilent rddcp)
    (before : thread.pc ≠ .takeOver) (running : thread.pc ≠ .returned)
    (stepped : thread.step heap received rddcp = some after) :
    after.2.rank + 1 ≤ thread.rank + 6 * (if received.stray then 1 else 0) ∧
      after.2.pc ≠ .returned := by
  obtain ⟨five, most⟩ := missing_bounds thread.errCount
  unfold step at stepped
  cases here : thread.pc with
  | takeOver => exact absurd here before
  | returned => exact absurd here running
  | setOwnIp =>
    simp only [here] at stepped
    obtain ⟨set, done, rfl⟩ := Option.map_eq_some_iff.mp stepped
    obtain ⟨result, -, rfl⟩ := setStringParam_some done
    simp [rank, here]
  | setHeartbeatString =>
    simp only [here] at stepped
    split at stepped
    · obtain ⟨set, done, rfl⟩ := Option.map_eq_some_iff.mp stepped
      obtain ⟨result, -, rfl⟩ := setStringParam_some done
      simp only [rank, here]
      exact ⟨by omega, by decide⟩
    · cases stepped
      simp only [rank, here]
      exact ⟨by omega, by decide⟩
  | setPassiveQuitString =>
    simp only [here] at stepped
    split at stepped
    · obtain ⟨set, done, rfl⟩ := Option.map_eq_some_iff.mp stepped
      obtain ⟨result, -, rfl⟩ := setStringParam_some done
      simp [rank, here]
    · cases stepped
      simp only [rank, here]
      exact ⟨by omega, by decide⟩
  | whileNotQuit =>
    simp only [here, silent.goesOn here, Bool.false_eq_true, if_false] at stepped
    cases stepped
    simp only [rank, here]
    exact ⟨by omega, by decide⟩
  | getMyRole =>
    simp only [here, silent.paired here, if_true] at stepped
    cases stepped
    simp only [rank, here]
    exact ⟨by omega, by decide⟩
  | compareMate =>
    simp only [here] at stepped
    cases stepped
    simp [compareMate, silent.silent here, rank, here]
  | vnRecvMsg =>
    simp only [here] at stepped
    obtain ⟨stored, got, rfl⟩ := Option.map_eq_some_iff.mp stepped
    exact rank_receive here got
  | sendHeartbeat | setQuit | sendPassiveQuit | foolWait | resetErrCount =>
    simp only [here] at stepped
    cases stepped
    simp only [rank, here]
    exact ⟨by omega, by decide⟩

end Heartbeat

namespace ThreadStep

def turn : ThreadStep → Bool
  | .heartbeat _ => true
  | _ => false

def stray : ThreadStep → Bool
  | .heartbeat received => received.stray
  | _ => false

end ThreadStep

namespace Threads

variable {fresh heap : Memory} {ip : IpAddress} {threads : Threads}

def Unattended (threads : Threads) : ThreadStep → Prop
  | .heartbeat _ => threads.heartbeat.MateSilent threads.rddcp
  | _ => True

instance (threads : Threads) : DecidablePred threads.Unattended
  | .heartbeat _ => inferInstanceAs (Decidable (Heartbeat.MateSilent _ _))
  | .negotiate _ => .isTrue trivial
  | .quit => .isTrue trivial

def TakesOver (threads : Threads) (label : ThreadStep) : Prop :=
  threads.heartbeat.pc = .takeOver ∧ label.turn = true

theorem rank_apply {label : ThreadStep} {next : Threads} (unattended : threads.Unattended label)
    (before : ¬ threads.TakesOver label) (running : threads.heartbeat.pc ≠ .returned)
    (stepped : threads.apply heap label = some next) :
    next.heartbeat.rank + (if label.turn then 1 else 0) ≤
      threads.heartbeat.rank + 6 * (if label.stray then 1 else 0) ∧
    next.heartbeat.pc ≠ .returned := by
  cases label with
  | negotiate answer =>
    cases stepped
    exact ⟨le_refl _, running⟩
  | quit =>
    cases stepped
    exact ⟨le_refl _, running⟩
  | heartbeat received =>
    obtain ⟨after, executed, rfl⟩ := Option.map_eq_some_iff.mp stepped
    exact Heartbeat.rank_step unattended (fun here => before ⟨here, rfl⟩) running executed

end Threads

end Foolject
