import Foolject.Redundancy.TakeOver
import Foolject.VNClib.RoundTrip

/-! What the messages of the heartbeat thread carry.

The thread has one message for heartbeats and for the word to quit. A parameter that is
present is not set again, so that the first of the two texts stays in it for good.
-/

set_option autoImplicit false

namespace Foolject
open VNClib

namespace Purpose

def text : Purpose → CString
  | .heartbeat => heartbeatString
  | .fence => passiveQuitString

def sets : Purpose → HeartbeatPc
  | .heartbeat => .setHeartbeatString
  | .fence => .setPassiveQuitString

def sends : Purpose → HeartbeatPc
  | .heartbeat => .sendHeartbeat
  | .fence => .sendPassiveQuit

/-- What a receiver with enough turns reads of a message: the server's address, and what the
message was sent for. -/
structure Tells (purpose : Purpose) (ip : IpAddress) (msg : CVNNetMsg) : Prop where
  sender : ∀ fuel, 2 < fuel → (ParamValue.string ip.text).ReadBack fuel msg 0
  word : ∀ fuel, 2 < fuel → (ParamValue.string purpose.text).ReadBack fuel msg 1

/-- The two parameters of a message whose first text was that of the purpose. -/
def params (ip : IpAddress) (purpose : Purpose) : List Param :=
  [(ParamValue.string ip.text).param 0, (ParamValue.string purpose.text).param 1]

variable {ip : IpAddress} {purpose first : Purpose} {msg : CVNNetMsg}

theorem text_length (purpose : Purpose) : purpose.text.bytes.length = 4 := by
  cases purpose <;> rfl

theorem reads_sender (holds : msg.Holds (params ip first)) {fuel : Nat} (enough : 2 < fuel) :
    (ParamValue.string ip.text).ReadBack fuel msg 0 :=
  @ParamValue.readBack_carries _ _ _ 0 _ holds.toCarries enough rfl

theorem reads_word (holds : msg.Holds (params ip first)) {fuel : Nat} (enough : 2 < fuel) :
    (ParamValue.string first.text).ReadBack fuel msg 1 :=
  @ParamValue.readBack_carries _ _ _ 1 _ holds.toCarries enough rfl

theorem tells_iff (holds : msg.Holds (params ip first)) : purpose.Tells ip msg ↔ purpose = first := by
  -- A message is right for one purpose, the one that came first.
  constructor
  · intro tells
    have asked := tells.word 3 (by decide) 5 (by rw [text_length]; decide)
    have found := reads_word holds (by decide : 2 < 3) 5 (by rw [text_length]; decide)
    have same : purpose.text.array = first.text.array :=
      congrArg CVNNetMsg.StringResult.written (Option.some.inj (asked.symm.trans found))
    revert same
    cases purpose <;> cases first <;> decide
  · rintro rfl
    exact ⟨fun _ => reads_sender holds, fun _ => reads_word holds⟩

end Purpose

namespace Heartbeat

variable {heap : Memory} {received : HeartbeatReceived} {rddcp : Redundancy} {thread : Heartbeat}

/-- The statements that neither send the message nor come before the address is in it. -/
def Silent (pc : HeartbeatPc) : Prop :=
  pc ≠ .setOwnIp ∧ pc ≠ .sendHeartbeat ∧ pc ≠ .sendPassiveQuit

instance : DecidablePred Silent := fun _ => inferInstanceAs (Decidable (_ ∧ _ ∧ _))

inductive MessageEffect (heap : Memory) (rddcp : Redundancy) (thread : Heartbeat) :
    Heartbeat → Prop where
  | address {result : Bool × CVNNetMsg} {after : Heartbeat} : thread.pc = .setOwnIp →
      thread.sndMsg.setStringParam heap sndMsgFuel 0 rddcp.ip.text = some result →
      after.sndMsg = result.2 → Silent after.pc → MessageEffect heap rddcp thread after
  | word (purpose : Purpose) {result : Bool × CVNNetMsg} {after : Heartbeat} : thread.pc = purpose.sets →
      thread.sndMsg.setStringParam heap sndMsgFuel 1 purpose.text = some result →
      after.sndMsg = result.2 → after.pc = purpose.sends → MessageEffect heap rddcp thread after
  | none {after : Heartbeat} : thread.pc ≠ .setOwnIp → after.sndMsg = thread.sndMsg →
      Silent after.pc → MessageEffect heap rddcp thread after

theorem compareMate_sndMsg (rddcp : Redundancy) (thread : Heartbeat) :
    (thread.compareMate rddcp).sndMsg = thread.sndMsg := by
  unfold compareMate
  split
  · split
    · rfl
    · split <;> rfl
  · rfl

theorem silent_received (received : HeartbeatReceived) (thread : Heartbeat) :
    Silent (thread.receivedPc received) := by
  cases received with
  | message sender text => exact (by decide : Silent .compareMate)
  | failed => exact (by decide : Silent .whileNotQuit)
  | timeout =>
    dsimp only [receivedPc]
    split <;> decide

theorem messageEffect {after : Redundancy × Heartbeat}
    (stepped : thread.step heap received rddcp = some after) :
    after.1.ip = rddcp.ip ∧ MessageEffect heap rddcp thread after.2 := by
  unfold step at stepped
  cases here : thread.pc with
  | setOwnIp =>
    simp only [here] at stepped
    obtain ⟨set, done, rfl⟩ := Option.map_eq_some_iff.mp stepped
    obtain ⟨result, added, rfl⟩ := setStringParam_some done
    exact ⟨rfl, .address here added rfl (by simp [Silent])⟩
  | setHeartbeatString =>
    simp only [here] at stepped
    split at stepped
    · obtain ⟨set, done, rfl⟩ := Option.map_eq_some_iff.mp stepped
      obtain ⟨result, added, rfl⟩ := setStringParam_some done
      exact ⟨rfl, .word .heartbeat here added rfl rfl⟩
    · cases stepped
      exact ⟨rfl, .none (by simp [here]) rfl (by simp [Silent])⟩
  | setPassiveQuitString =>
    simp only [here] at stepped
    split at stepped
    · obtain ⟨set, done, rfl⟩ := Option.map_eq_some_iff.mp stepped
      obtain ⟨result, added, rfl⟩ := setStringParam_some done
      exact ⟨rfl, .word .fence here added rfl rfl⟩
    · cases stepped
      exact ⟨rfl, .none (by simp [here]) rfl (by simp [Silent])⟩
  | vnRecvMsg =>
    simp only [here] at stepped
    obtain ⟨after, stored, rfl⟩ := Option.map_eq_some_iff.mp stepped
    obtain ⟨kept, next, -⟩ := receive_some stored
    refine ⟨rfl, .none (by simp [here]) kept ?_⟩
    rw [next]
    exact silent_received received thread
  | compareMate =>
    simp only [here] at stepped
    cases stepped
    refine ⟨rfl, .none (by simp [here]) (compareMate_sndMsg rddcp thread) ?_⟩
    rcases compareMate_pc rddcp thread with at_ | at_
    · simp [Silent, at_]
    · simp [Silent, at_]
  | whileNotQuit | getMyRole =>
    simp only [here] at stepped
    cases stepped
    refine ⟨rfl, .none (by simp [here]) rfl ?_⟩
    dsimp only
    split <;> decide
  | sendHeartbeat | setQuit | takeOver | sendPassiveQuit | foolWait | resetErrCount =>
    simp only [here] at stepped
    cases stepped
    exact ⟨rfl, .none (by simp [here]) rfl (by simp [Silent])⟩
  | returned =>
    simp only [here] at stepped
    cases stepped
    exact ⟨rfl, .none (by simp [here]) rfl (by simp [Silent, here])⟩

theorem sends_silent (silent : Silent thread.pc) : thread.sends = [] := by
  obtain ⟨-, notHeartbeat, notFence⟩ := silent
  unfold sends
  split
  · contradiction
  · contradiction
  · rfl

theorem sends_purpose {purpose : Purpose} (here : thread.pc = purpose.sends) :
    thread.sends = [(purpose, thread.sndMsg)] := by
  cases purpose <;> simp [sends, here, Purpose.sends]

theorem sends_eq (thread : Heartbeat) :
    thread.sends = [] ∨ ∃ purpose, thread.sends = [(purpose, thread.sndMsg)] := by
  unfold sends
  split
  · exact .inr ⟨_, rfl⟩
  · exact .inr ⟨_, rfl⟩
  · exact .inl rfl

end Heartbeat

/-! ## The setters on the message -/

section Setters
variable {heap : Memory} {ip : IpAddress} {msg : CVNNetMsg} {result : Bool × CVNNetMsg}

theorem holds_address (holds : msg.Holds [])
    (added : msg.setStringParam heap sndMsgFuel 0 ip.text = some result) :
    result.2.Holds [(ParamValue.string ip.text).param 0] := by
  have pos := holds.pos
  have short := ip.short
  simp only [endOfHeader, encodeAll_nil, List.length_nil] at pos
  obtain ⟨next, stored, held, -⟩ : ∃ next, msg.setStringParam heap sndMsgFuel 0 ip.text =
      some (true, next) ∧ _ ∧ _ := holds.addParam_absent (by decide) rfl (by omega)
  rw [stored] at added
  cases added
  exact held

theorem holds_word {purpose : Purpose} (holds : msg.Holds [(ParamValue.string ip.text).param 0])
    (added : msg.setStringParam heap sndMsgFuel 1 purpose.text = some result) :
    result.2.Holds (purpose.params ip) := by
  have pos := holds.pos
  have short := ip.short
  have size := purpose.text_length
  simp only [endOfHeader, encodeAll_cons, encodeAll_nil, List.append_nil, Param.length_encode,
    ParamValue.param] at pos
  obtain ⟨next, stored, held, -⟩ : ∃ next, msg.setStringParam heap sndMsgFuel 1 purpose.text =
      some (true, next) ∧ _ ∧ _ := holds.addParam_absent (by simp [sndMsgFuel]) rfl (by omega)
  rw [stored] at added
  cases added
  exact held

theorem holds_again {purpose first : Purpose} (holds : msg.Holds (first.params ip))
    (added : msg.setStringParam heap sndMsgFuel 1 purpose.text = some result) : result.2 = msg := by
  -- The second text is not set.
  have kept : msg.setStringParam heap sndMsgFuel 1 purpose.text = some (false, msg) :=
    holds.addParam_present (by simp [Purpose.params, sndMsgFuel]) rfl
  rw [kept] at added
  cases added
  rfl

end Setters

/-- The message before its address, before its text, and with the text that was first. -/
inductive Stamped (ip : IpAddress) (thread : Heartbeat) (sent : List (Purpose × CVNNetMsg)) : Prop where
  | fresh : thread.pc = .setOwnIp → thread.sndMsg.Holds [] → sent = [] → Stamped ip thread sent
  | addressed : Heartbeat.Silent thread.pc →
      thread.sndMsg.Holds [(ParamValue.string ip.text).param 0] → sent = [] → Stamped ip thread sent
  | worded (first : Purpose) : thread.pc ≠ .setOwnIp → thread.sndMsg.Holds (first.params ip) →
      (∀ message ∈ sent, message.2.Holds (first.params ip)) →
      ((sent = [] ∧ thread.pc = first.sends) ∨ ∃ msg, (first, msg) ∈ sent) → Stamped ip thread sent

section Stamped
variable {heap : Memory} {received : HeartbeatReceived} {rddcp : Redundancy} {thread after : Heartbeat}
  {sent : List (Purpose × CVNNetMsg)}

theorem Stamped.step (stamped : Stamped rddcp.ip thread sent)
    (effect : Heartbeat.MessageEffect heap rddcp thread after) :
    Stamped rddcp.ip after (sent ++ thread.sends) := by
  cases stamped with
  | fresh here holds none =>
    have silent : thread.sends = [] := by simp [Heartbeat.sends, here]
    cases effect with
    | address _ added same silent' =>
      refine .addressed silent' ?_ (by simp [none, silent])
      rw [same]
      exact holds_address holds added
    | word purpose at_ => cases purpose <;> cases here.symm.trans at_
    | none elsewhere => exact absurd here elsewhere
  | addressed before holds none =>
    have silent := Heartbeat.sends_silent before
    cases effect with
    | address here => exact absurd here before.1
    | word purpose _ added same sends =>
      refine .worded purpose ?_ ?_ (by simp [none, silent]) (.inl ⟨by simp [none, silent], sends⟩)
      · rw [sends]
        cases purpose <;> decide
      · rw [same]
        exact holds_word holds added
    | none _ same silent' =>
      refine .addressed silent' ?_ (by simp [none, silent])
      rw [same]
      exact holds
  | worded first elsewhere holds all chosen =>
    have kept : after.sndMsg = thread.sndMsg ∧ after.pc ≠ .setOwnIp := by
      cases effect with
      | address here => exact absurd here elsewhere
      | word purpose _ added same sends =>
        rw [same, sends]
        refine ⟨holds_again holds added, ?_⟩
        cases purpose <;> decide
      | none _ same silent => exact ⟨same, silent.1⟩
    refine .worded first kept.2 ?_ ?_ (.inr ?_)
    · rw [kept.1]
      exact holds
    · intro message member
      rcases List.mem_append.mp member with old | new
      · exact all message old
      · rcases thread.sends_eq with none | ⟨purpose, one⟩
        · rw [none] at new
          cases new
        · rw [one, List.mem_singleton] at new
          rw [new]
          exact holds
    · rcases chosen with ⟨-, sends⟩ | ⟨msg, member⟩
      · refine ⟨thread.sndMsg, List.mem_append_right _ ?_⟩
        rw [Heartbeat.sends_purpose sends]
        exact List.mem_singleton_self _
      · exact ⟨msg, List.mem_append_left _ member⟩

end Stamped

namespace Threads

variable {fresh heap : Memory} {ip : IpAddress} {threads : Threads}

theorem stamped (reached : (system fresh heap ip).Reaches System.Always threads) :
    Stamped threads.rddcp.ip threads.heartbeat threads.sent := by
  refine reached.invariant
    (fun threads => Stamped threads.rddcp.ip threads.heartbeat threads.sent) ?_ ?_
  · rintro threads ⟨rddcp, -, -, rfl⟩
    exact .fresh rfl (CVNNetMsg.holds_initEmptyMsg fresh .request (by decide)) rfl
  · intro threads label after stamped _ stepped
    cases label with
    | negotiate answer =>
      cases stepped
      simpa only [Negotiate.step_ip] using stamped
    | heartbeat received =>
      obtain ⟨result, executed, rfl⟩ := Option.map_eq_some_iff.mp stepped
      obtain ⟨same, effect⟩ := Heartbeat.messageEffect executed
      dsimp only
      rw [same]
      exact stamped.step effect
    | quit =>
      cases stepped
      exact stamped

/-- All messages are right exactly as long as they have all been sent for the same purpose. -/
theorem sent_tells (reached : (system fresh heap ip).Reaches System.Always threads) :
    (∀ message ∈ threads.sent, message.1.Tells threads.rddcp.ip message.2) ↔
      ¬ ((∃ msg, (Purpose.heartbeat, msg) ∈ threads.sent) ∧
        ∃ msg, (Purpose.fence, msg) ∈ threads.sent) := by
  cases stamped reached with
  | fresh _ _ none => simp [none]
  | addressed _ _ none => simp [none]
  | worded first _ _ all chosen =>
    constructor
    · rintro told ⟨⟨heartbeat, asHeartbeat⟩, fence, asFence⟩
      have one := (Purpose.tells_iff (all _ asHeartbeat)).mp (told _ asHeartbeat)
      have two := (Purpose.tells_iff (all _ asFence)).mp (told _ asFence)
      cases one.trans two.symm
    · rintro one ⟨purpose, msg⟩ member
      refine (Purpose.tells_iff (all _ member)).mpr ?_
      rcases chosen with ⟨none, -⟩ | ⟨before, sent⟩
      · rw [none] at member
        cases member
      · -- The other text has not been sent next to the first one.
        cases purpose <;> cases first
        · rfl
        · exact absurd ⟨⟨msg, member⟩, before, sent⟩ one
        · exact absurd ⟨⟨before, sent⟩, msg, member⟩ one
        · rfl

theorem sent_tells_heartbeat : ∃ threads : Threads, threads.sent ≠ [] ∧
    ∀ message ∈ threads.sent, message.1.Tells threads.rddcp.ip message.2 := by
  -- One heartbeat, and no word to quit.
  have started : (system (fun _ => 0) (fun _ => 0) (threeAddresses 1)).Reaches System.Always newThreads :=
    .start newThreads_fresh
  obtain ⟨threads, reached, holds⟩ := started.follow_any
    (becomesBackup ++ .heartbeat .timeout :: misses 1)
    (fun threads => decide (threads.sent.map Prod.fst = [.heartbeat])) (by decide +kernel)
  have one : threads.sent.map Prod.fst = [.heartbeat] := of_decide_eq_true holds
  refine ⟨threads, by rintro none; simp [none] at one, (sent_tells reached).mpr ?_⟩
  rintro ⟨-, msg, member⟩
  have purpose := List.mem_map_of_mem (f := Prod.fst) member
  rw [one] at purpose
  cases List.mem_singleton.mp purpose

theorem fence_carriesHeartbeat : ∃ threads : Threads, ∃ msg,
    (system (fun _ => 0) (fun _ => 0) (threeAddresses 1)).Reaches System.Always threads ∧
    (Purpose.fence, msg) ∈ threads.sent ∧
    msg.getStringParam 3 1 5 = some ⟨true, heartbeatString.array⟩ ∧
    ¬ Purpose.fence.Tells threads.rddcp.ip msg := by
  -- Five heartbeats without an answer; the word to quit is the sixth one.
  have started : (system (fun _ => 0) (fun _ => 0) (threeAddresses 1)).Reaches System.Always newThreads :=
    .start newThreads_fresh
  obtain ⟨threads, reached, holds⟩ := started.follow_any
    (becomesBackup ++ .heartbeat .timeout :: misses 5 ++ List.replicate 3 (.heartbeat .timeout))
    (fun threads => threads.sent.any fun message => decide (message.1 = .fence ∧
      message.2.getStringParam 3 1 5 = some ⟨true, heartbeatString.array⟩)) (by decide +kernel)
  obtain ⟨⟨purpose, msg⟩, member, values⟩ := List.any_eq_true.mp holds
  obtain ⟨rfl, read⟩ := of_decide_eq_true values
  refine ⟨threads, msg, reached, member, read, fun tells => ?_⟩
  have told := tells.word 3 (by decide) 5 (by decide)
  rw [read] at told
  exact absurd told (by decide)

end Threads

end Foolject
