import Foolject.Redundancy.Iteration
import Foolject.Redundancy.Heartbeat
import Foolject.VNClib.Getters

/-! Received messages that lack a parameter.

Neither loop looks at what its getters return, so that a missing parameter leaves the
variable as an earlier message left it, and a string parameter of another type is
stored all the same. What an iteration then does depends on what earlier messages left.
-/

set_option autoImplicit false

namespace Foolject
open VNClib

namespace Server

structure SameState (before after : Server) : Prop where
  iAm : after.iAm = before.iAm
  mateIp : after.mateIp = before.mateIp
  connectionId : after.connectionId = before.connectionId

structure Quiet (before : Server) (result : List Server × Server) : Prop where
  passed : ∀ state ∈ result.1, before.SameState state ∧ ¬ state.Broadcasts
  last : before.SameState result.2

/-- What a server acts on, of the roles that it is told. It logs the others, or quits. -/
def ActsOn (own told : TRole) (higher : Bool) : Prop :=
  match told with
  | .whoAmI => own = .whoAmI ∧ higher = true ∨ own = .primaryWithoutBackup ∨ own.Paired
  | .activeQuitEr => own.Paired
  | .primaryWithoutBackup => own = .whoAmI
  | .primaryWithBackup | .backupWithPrimary => False

instance (own told : TRole) (higher : Bool) : Decidable (ActsOn own told higher) :=
  match told with
  | .whoAmI => inferInstanceAs (Decidable (_ ∨ _ ∨ _))
  | .activeQuitEr => inferInstanceAs (Decidable own.Paired)
  | .primaryWithoutBackup => inferInstanceAs (Decidable (_ = _))
  | .primaryWithBackup | .backupWithPrimary => .isFalse id

/-- The count of the server has not run out, and the server id is another group's, the sender is the
server itself, or the role is none that the server acts on. -/
def Deaf (server : Server) (ip : IpAddress) (serverId role : Int) : Prop :=
  ¬ (server.negotiateCount > negotiateMaxCount ∧ server.iAm = .whoAmI) ∧
  (serverId = server.serverId → ip ≠ server.ip →
    ∀ told : TRole, told.code = role → ¬ ActsOn server.iAm told (decide (0 < server.ip.stricmp ip)))

variable {server : Server} {answer : Answer} {ip : IpAddress} {serverId role : Option Int}
  {connection : Int}

theorem not_actsOn_iff (own told : TRole) (higher : Bool) :
    ¬ ActsOn own told higher ↔ Negotiate.reaction told own higher = .whileNotQuit ∨
      Negotiate.reaction told own higher = .setEvent := by
  cases told <;> cases own <;> cases higher <;>
    simp [ActsOn, Negotiate.reaction, TRole.Paired]

theorem SameState.refl (server : Server) : server.SameState server := ⟨rfl, rfl, rfl⟩

theorem reaction_effects (told role : TRole) (higher : Bool) :
    Negotiate.reaction told role higher = .whileNotQuit ∨
    Negotiate.reaction told role higher = .setEvent ∨
    Negotiate.reaction told role higher = .broadcastMyRole ∨
    Negotiate.reaction told role higher = .answerCandidate ∨
    (Negotiate.reaction told role higher = .promoteByAddress ∧ role = .whoAmI) ∨
    (Negotiate.reaction told role higher = .becomeBackup ∧ role = .whoAmI) ∨
    Negotiate.reaction told role higher = .loseMate ∧ role.Paired := by
  cases told <;> cases role <;> cases higher <;> decide

theorem Quiet.broadcasts {result : List Server × Server} (quiet : Quiet server result) :
    ∀ state ∈ result.1, ¬ state.Broadcasts := fun state member => (quiet.passed state member).2

/-- Only two of the reactions are without effect. -/
theorem upTo_quiet (told : TRole) (higher : Bool)
    (react : server.pc = Negotiate.reaction told server.iAm higher) :
    Quiet server (server.upTo NegotiatePc.Ends answer 5) ↔
      server.pc = .whileNotQuit ∨ server.pc = .setEvent := by
  have goesOn : ¬ server.pc.Ends → server ∈ (server.upTo NegotiatePc.Ends answer 5).1 := by
    intro goesOn
    simp only [upTo, if_neg goesOn, List.mem_cons_self]
  rcases reaction_effects told server.iAm higher with at_ | at_ | at_ | at_ | ⟨at_, role⟩ |
    ⟨at_, role⟩ | ⟨at_, role⟩
  · have here := react.trans at_
    refine ⟨fun _ => .inl here, fun _ => ?_⟩
    simp only [upTo, here, NegotiatePc.Ends, true_or, if_true]
    exact ⟨by simp, .refl server⟩
  · have here := react.trans at_
    refine ⟨fun _ => .inr here, fun _ => ?_⟩
    simp only [upTo, here, Server.step, Negotiate.step, NegotiatePc.Ends]
    refine ⟨?_, ⟨rfl, rfl, rfl⟩⟩
    simp [SameState.refl, Negotiate.Broadcasts, here]
  · have here := react.trans at_
    refine ⟨fun quiet => absurd (.inl here) (quiet.broadcasts server (goesOn ?_)), ?_⟩
    · simp [here, NegotiatePc.Ends]
    · simp [here]
  · have here := react.trans at_
    refine ⟨fun quiet => absurd (.inr (.inl here)) (quiet.broadcasts server (goesOn ?_)), ?_⟩
    · simp [here, NegotiatePc.Ends]
    · simp [here]
  · have here := react.trans at_
    refine ⟨fun quiet => ?_, by simp [here]⟩
    have changed := quiet.last.iAm
    simp [upTo, here, Server.step, Negotiate.step, NegotiatePc.Ends, Redundancy.setMyRole, role] at changed
  · have here := react.trans at_
    refine ⟨fun quiet => ?_, by simp [here]⟩
    have changed := quiet.last.iAm
    simp [upTo, here, Server.step, Negotiate.step, NegotiatePc.Ends, Redundancy.setMyRole,
      Redundancy.vnConnect, role] at changed
  · have here := react.trans at_
    refine ⟨fun quiet => ?_, by simp [here]⟩
    have changed := quiet.last.iAm
    simp [upTo, here, Server.step, Negotiate.step, NegotiatePc.Ends, Redundancy.setMyRole,
      Redundancy.vnDisconnect] at changed
    rcases role with role | role <;> rw [role] at changed <;> cases changed

theorem iteration_quiet (head : server.pc = .whileNotQuit) (stays : server.quitInnerThread = false)
    (few : ¬ (server.negotiateCount > negotiateMaxCount ∧ server.iAm = .whoAmI)) :
    Quiet server (server.iteration answer) ↔ Quiet server.atRecv (server.atRecv.handle answer) := by
  have role : server.arrivingRole = server.iAm := if_neg few
  have same : ∀ state, server.SameState state ↔ server.atRecv.SameState state := by
    intro state
    refine ⟨fun ⟨iAm, mateIp, connection⟩ => ⟨iAm.trans role.symm, mateIp, connection⟩,
      fun ⟨iAm, mateIp, connection⟩ => ⟨iAm.trans role, mateIp, connection⟩⟩
  rw [iteration, arrive_keeps head stays few]
  constructor
  · rintro ⟨passed, last⟩
    refine ⟨fun state member => ?_, (same _).mp last⟩
    obtain ⟨unchanged, silent⟩ := passed state (List.mem_append_right _ member)
    exact ⟨(same _).mp unchanged, silent⟩
  · rintro ⟨passed, last⟩
    refine ⟨fun state member => ?_, (same _).mpr last⟩
    rcases List.mem_append.mp member with before | after
    · simp only [List.mem_cons, List.not_mem_nil, or_false] at before
      rcases before with rfl | rfl | rfl
      · exact ⟨.refl _, by simp [Negotiate.Broadcasts, head]⟩
      · exact ⟨⟨rfl, rfl, rfl⟩, by simp [Negotiate.Broadcasts]⟩
      · exact ⟨⟨rfl, rfl, rfl⟩, by simp [Negotiate.Broadcasts]⟩
    · obtain ⟨unchanged, silent⟩ := passed state after
      exact ⟨(same _).mpr unchanged, silent⟩

/-- A state that shares the object goes on as the one before it would. -/
theorem quiet_cons_iff {stored : Server} (shared : stored.toRedundancy = server.toRedundancy)
    (silent : ¬ server.Broadcasts) {result : List Server × Server} :
    Quiet server (server :: result.1, result.2) ↔ Quiet stored result := by
  have same : ∀ state, server.SameState state ↔ stored.SameState state := by
    intro state
    constructor <;> rintro ⟨iAm, mateIp, connection⟩
    · exact ⟨by rw [shared, iAm], by rw [shared, mateIp], by rw [shared, connection]⟩
    · exact ⟨by rw [iAm, shared], by rw [mateIp, shared], by rw [connection, shared]⟩
  refine ⟨fun quiet => ⟨fun state member => ?_, (same _).mp quiet.last⟩,
    fun quiet => ⟨fun state member => ?_, (same _).mpr quiet.last⟩⟩
  · exact (quiet.passed state (List.mem_cons_of_mem _ member)).imp_left (same _).mp
  · rcases List.mem_cons.mp member with rfl | later
    · exact ⟨.refl _, silent⟩
    · exact (quiet.passed state later).imp_left (same _).mpr

theorem handle_quiet (here : server.pc = .recvBroadCastMsg) (read : server.role = server.iAm) :
    Quiet server (server.handle ⟨.datagram ip serverId role, connection⟩) ↔
      (serverId.getD server.remoteServerId = server.serverId → ip ≠ server.ip →
        ∀ told : TRole, told.code = role.getD server.remoteRole →
          ¬ ActsOn server.iAm told (decide (0 < server.ip.stricmp ip))) := by
  have itself : server.SameState server ∧ ¬ server.Broadcasts :=
    ⟨.refl server, by simp [Negotiate.Broadcasts, here]⟩
  by_cases ignored : serverId.getD server.remoteServerId ≠ server.serverId ∨ ip = server.ip
  · rw [handle_ignored here ignored]
    refine ⟨fun _ group other => ?_, fun _ => ⟨fun state member => ?_, ⟨rfl, rfl, rfl⟩⟩⟩
    · exact (ignored.elim (absurd group) other).elim
    · rw [List.mem_singleton.mp member]
      exact itself
  · obtain ⟨group, other⟩ := not_or.mp ignored
    rw [forall_prop_of_true (not_not.mp group), forall_prop_of_true other]
    obtain ⟨stored, storedEq⟩ : ∃ stored, stored = server.reacting ip serverId role := ⟨_, rfl⟩
    have shared : stored.toRedundancy = server.toRedundancy := by rw [storedEq]; rfl
    rw [handle_group here (not_not.mp group) other, quiet_cons_iff (storedEq ▸ shared) itself.2, ← storedEq]
    have pc := reacting_pc server ip serverId role
    rw [← storedEq, read] at pc
    cases known : TRole.ofCode (role.getD server.remoteRole) with
    | none =>
      rw [known] at pc
      refine ⟨fun _ told code => ?_, fun _ => ?_⟩
      · -- The number left is no role.
        rw [← code, TRole.ofCode_code] at known
        cases known
      · simp only [upTo, pc, NegotiatePc.Ends, true_or, if_true]
        exact ⟨by simp, .refl stored⟩
    | some told =>
      rw [known] at pc
      have role : stored.iAm = server.iAm := congrArg Redundancy.iAm shared
      rw [upTo_quiet told _ (by rw [role]; exact pc), pc, ← not_actsOn_iff]
      refine ⟨fun quiet other code => ?_, fun quiet => quiet told (TRole.code_of_ofCode known)⟩
      rw [← code, TRole.ofCode_code] at known
      rw [Option.some.inj known]
      exact quiet

/-- An iteration without effect, from any state of the loop and for any datagram. -/
theorem iteration_quiet_iff (head : server.pc = .whileNotQuit) (stays : server.quitInnerThread = false) :
    Quiet server (server.iteration ⟨.datagram ip serverId role, connection⟩) ↔
      server.Deaf ip (serverId.getD server.remoteServerId) (role.getD server.remoteRole) := by
  by_cases many : server.negotiateCount > negotiateMaxCount ∧ server.iAm = .whoAmI
  · refine ⟨fun quiet => ?_, fun deaf => absurd many deaf.1⟩
    have promoted : server.atRecv ∈
        (server.iteration ⟨.datagram ip serverId role, connection⟩).1 := by
      rw [iteration, arrive_promotes head stays many]
      obtain ⟨rest, path⟩ := handle_first ⟨.datagram ip serverId role, connection⟩
        (rfl : server.atRecv.pc = .recvBroadCastMsg)
      rw [path]
      exact List.mem_append_right _ List.mem_cons_self
    have changed := (quiet.passed _ promoted).1.iAm
    rw [many.2] at changed
    have role : server.atRecv.iAm = .primaryWithoutBackup := if_pos many
    rw [role] at changed
    cases changed
  · have role : server.atRecv.iAm = server.iAm := if_neg many
    rw [iteration_quiet head stays many, handle_quiet rfl rfl, Deaf, role]
    exact ⟨fun quiet => ⟨many, quiet⟩, And.right⟩

end Server

/-! ## The frames of the heartbeat -/

/-- What `GetStringParam` finds for a buffer of the given size. Of a parameter of another type the
bytes are copied before the getter returns FALSE; of a missing one, none. -/
inductive FoundString (size : Nat) where
  | unread (copied : List UInt8) (room : copied.length ≤ size)
  | string (value : List UInt8) (room : value.length ≤ size)

namespace FoundString

variable {size : Nat}

def result : FoundString size → CVNNetMsg.StringResult
  | unread copied _ => ⟨false, copied⟩
  | string value _ => ⟨true, value ++ [0]⟩

def Fills : FoundString size → Prop
  | unread _ _ => False
  | string value _ => value.length = size

/-- The text in the buffer afterwards: bytes of another type stand in front of what an earlier
frame left, and nothing else of it stays where a string is found. -/
def leaves (stale : List UInt8) : FoundString size → List UInt8
  | unread copied _ => untilNul (copied ++ stale.drop copied.length)
  | string value _ => untilNul value

/-- These are the outcomes of the getter, for every frame. -/
theorem exists_of_getStringParam {fuel : Nat} {frame : CVNNetMsg} {id : Int} {result : CVNNetMsg.StringResult}
    (bounds : frame.WalkInBounds id size) (returns : frame.getStringParam fuel id size = some result) :
    ∃ found : FoundString size, found.result = result := by
  obtain ⟨got, walked, became⟩ := Option.map_eq_some_iff.mp returns
  have room : got.copied.length ≤ size :=
    Int.ofNat_le.mp (CVNNetMsg.getParam_copied_le (Int.natCast_nonneg size) bounds walked)
  split at became
  · exact ⟨.unread got.copied room, became⟩
  · exact ⟨.string got.copied room, became⟩

theorem length_written_le_iff (found : FoundString size) :
    found.result.written.length ≤ size ↔ ¬ found.Fills := by
  cases found with
  | unread copied room => exact iff_of_true room id
  | string value room =>
    dsimp only [result, Fills]
    rw [List.length_append, List.length_singleton]
    omega

theorem untilNul_overlay (found : FoundString size) (stale : List UInt8) :
    untilNul (overlay found.result.written stale) = found.leaves stale := by
  cases found with
  | unread copied room => rfl
  | string value room =>
    dsimp only [result, leaves, overlay]
    rw [List.append_assoc, List.singleton_append]
    exact untilNul_append_nul value _

end FoundString

namespace Heartbeat

/-- The address is not the mate's, or the text is no heartbeat when there is a count to reset, nor the
word to quit when there is a flag to set. -/
def Deaf (rddcp : Redundancy) (thread : Heartbeat) (address text : List UInt8) : Prop :=
  stricmp address rddcp.mateIp.text.bytes = 0 →
    (stricmp text Foolject.heartbeatString.bytes = 0 → thread.errCount = 0) ∧
    (stricmp text passiveQuitString.bytes = 0 → rddcp.quitInnerThread = true)

theorem word_apart {text : List UInt8} (ping : stricmp text Foolject.heartbeatString.bytes = 0) :
    ¬ stricmp text passiveQuitString.bytes = 0 := by
  intro quits
  have same := (stricmp_eq_zero.mp ping).symm.trans (stricmp_eq_zero.mp quits)
  revert same
  decide

/-- The iteration that receives these two neither resets the count nor sets the flag. -/
def Unmoved (heap : Memory) (rddcp : Redundancy) (thread : Heartbeat) (sender : FoundString sizeofRemoteIp)
    (text : FoundString sizeofHeartbeatString) : Prop :=
  ∃ after, handle heap (.message sender.result text.result) 3 (rddcp, thread) = some after ∧
    after.2.errCount = thread.errCount ∧ after.1.quitInnerThread = rddcp.quitInnerThread

theorem handle_stored {heap : Memory} {sender text : CVNNetMsg.StringResult} {rddcp : Redundancy}
    {thread stored : Heartbeat} (here : thread.pc = .vnRecvMsg)
    (got : thread.receive (.message sender text) = some stored) :
    (∃ after, handle heap (.message sender text) 3 (rddcp, thread) = some after ∧
      after.2.errCount = thread.errCount ∧ after.1.quitInnerThread = rddcp.quitInnerThread) ↔
    thread.Deaf rddcp (untilNul stored.remoteIp) (untilNul stored.heartbeatString) := by
  have count : stored.errCount = thread.errCount := (receive_some got).2.2
  rw [handle_message here got, Deaf]
  by_cases mate : stored.fromMate rddcp
  · have same : stricmp (untilNul stored.remoteIp) rddcp.mateIp.text.bytes = 0 := mate
    rw [if_pos mate]
    by_cases ping : stored.tells Foolject.heartbeatString
    · have pings : stricmp (untilNul stored.heartbeatString) Foolject.heartbeatString.bytes = 0 := ping
      rw [if_pos ping]
      simp [same, pings, word_apart pings, @eq_comm Nat 0]
    · have notPing : ¬ stricmp (untilNul stored.heartbeatString) Foolject.heartbeatString.bytes = 0 := ping
      rw [if_neg ping]
      by_cases quits : stored.tells passiveQuitString
      · have told : stricmp (untilNul stored.heartbeatString) passiveQuitString.bytes = 0 := quits
        rw [if_pos quits]
        simp [same, notPing, told, count, @eq_comm Bool true]
      · have untold : ¬ stricmp (untilNul stored.heartbeatString) passiveQuitString.bytes = 0 := quits
        rw [if_neg quits]
        simp [same, notPing, untold, count]
  · have other : ¬ stricmp (untilNul stored.remoteIp) rddcp.mateIp.text.bytes = 0 := mate
    rw [if_neg mate]
    simp [other, count]

theorem unmoved_iff {heap : Memory} {sender : FoundString sizeofRemoteIp}
    {text : FoundString sizeofHeartbeatString} {rddcp : Redundancy} {thread : Heartbeat}
    (here : thread.pc = .vnRecvMsg) :
    thread.Unmoved heap rddcp sender text ↔ ¬ sender.Fills ∧ ¬ text.Fills ∧
      thread.Deaf rddcp (sender.leaves thread.remoteIp) (text.leaves thread.heartbeatString) := by
  unfold Unmoved
  rw [← sender.length_written_le_iff, ← text.length_written_le_iff, ← and_assoc]
  by_cases fits : sender.result.written.length ≤ sizeofRemoteIp ∧ text.result.written.length ≤ sizeofHeartbeatString
  · obtain ⟨stored, got⟩ : ∃ stored, thread.receive (.message sender.result text.result) = some stored :=
      ⟨_, if_pos fits⟩
    obtain ⟨address, word⟩ : untilNul stored.remoteIp = sender.leaves thread.remoteIp ∧
        untilNul stored.heartbeatString = text.leaves thread.heartbeatString := by
      cases Option.some.inj ((if_pos fits).symm.trans got)
      exact ⟨sender.untilNul_overlay _, text.untilNul_overlay _⟩
    rw [handle_stored here got, and_iff_right fits, address, word]
  · have overruns : thread.receive (.message sender.result text.result) = none := if_neg fits
    rw [handle_overrun here overruns]
    refine iff_of_false ?_ fun both => fits both.1
    rintro ⟨after, ends, -⟩
    cases ends

end Heartbeat

def reminded : Server :=
  ⟨⟨1, threeAddresses 1, .whoAmI, .empty, -1, [], false, false⟩,
    { Negotiate.start with pc := .whileNotQuit, remoteServerId := 1, remoteIp := threeAddresses 2 }, true⟩

def remindedBackup : Redundancy × Heartbeat :=
  (⟨1, threeAddresses 1, .backupWithPrimary, threeAddresses 2, 1, [1], false, false⟩,
    { Heartbeat.start fun _ => 0 with
      pc := .vnRecvMsg
      remoteIp := overlay (threeAddresses 2).text.array (List.replicate 16 0)
      heartbeatString := heartbeatString.array
      errCount := 4 })

end Foolject
