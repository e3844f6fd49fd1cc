import Foolject.Redundancy.Fencing
import Foolject.VNClib.Connection

/-! Whether a server that has a mate has a connection to it.

The two threads are put together with the table of connections. What `VNConnect` returns is
not arbitrary any more: it depends on the network, and on the entries of earlier pairings.
-/

set_option autoImplicit false

namespace Foolject
open VNClib

theorem Negotiate.reaction_ne_vnConnect (remote role : TRole) (higher : Bool) :
    reaction remote role higher ≠ .vnConnect := by
  cases remote <;> cases role <;> cases higher <;> decide

theorem Negotiate.receive_ne_vnConnect (rddcp : Redundancy) (thread : Negotiate)
    (received : Received) : (thread.receive rddcp received).pc ≠ .vnConnect := by
  cases received with
  | null =>
    rw [receive_null]
    dsimp only
    split <;> decide
  | datagram ip serverId role =>
    by_cases ignored : serverId.getD thread.remoteServerId ≠ rddcp.serverId ∨ ip = rddcp.ip
    · rw [receive_ignored ignored]
      simp
    · obtain ⟨group, other⟩ := not_or.mp ignored
      rw [receive_group (not_not.mp group) other, react]
      dsimp only
      split
      · decide
      · exact reaction_ne_vnConnect _ _ _

theorem Negotiate.copyMateIp_of_vnConnect {answer : Answer} {rddcp : Redundancy} {thread : Negotiate}
    (next : (thread.step answer rddcp).2.pc = .vnConnect) : thread.pc = .copyMateIp := by
  -- The connection is made right after the mate's address has been stored.
  unfold step at next
  cases here : thread.pc with
  | copyMateIp => rfl
  | recvBroadCastMsg =>
    simp only [here] at next
    exact absurd next (receive_ne_vnConnect rddcp thread answer.received)
  | whileNotQuit =>
    simp only [here] at next
    split at next <;> cases next
  | checkCount =>
    simp only [here] at next
    split at next <;> cases next
  | _ =>
    simp only [here] at next
    cases next

/-- What the heartbeat thread does to the shared object. -/
theorem Heartbeat.step_rddcp {heap : Memory} {received : HeartbeatReceived} {rddcp : Redundancy}
    {thread : Heartbeat} {after : Redundancy × Heartbeat}
    (stepped : thread.step heap received rddcp = some after) :
    after.1 = rddcp ∨ after.1 = { rddcp with quitInnerThread := true } ∨
      after.1 = rddcp.setMyRole .primaryWithoutBackup := by
  unfold step at stepped
  cases here : thread.pc with
  | setOwnIp =>
    simp only [here] at stepped
    obtain ⟨set, -, rfl⟩ := Option.map_eq_some_iff.mp stepped
    exact .inl rfl
  | setHeartbeatString | setPassiveQuitString =>
    simp only [here] at stepped
    split at stepped
    · obtain ⟨set, -, rfl⟩ := Option.map_eq_some_iff.mp stepped
      exact .inl rfl
    · cases stepped
      exact .inl rfl
  | setQuit =>
    simp only [here] at stepped
    cases stepped
    exact .inr (.inl rfl)
  | takeOver =>
    simp only [here] at stepped
    cases stepped
    exact .inr (.inr rfl)
  | vnRecvMsg =>
    simp only [here] at stepped
    obtain ⟨stored, -, rfl⟩ := Option.map_eq_some_iff.mp stepped
    exact .inl rfl
  | _ =>
    simp only [here] at stepped
    cases stepped
    exact .inl rfl

/-- When `VNConnect` is called, the mate is the server it is called for. -/
theorem Threads.mateIp_eq {fresh heap : Memory} {ip : IpAddress} {threads : Threads}
    (reached : (system fresh heap ip).Reaches System.Always threads) :
    threads.negotiate.pc = .vnConnect → threads.rddcp.mateIp = threads.negotiate.remoteIp := by
  apply reached.invariant
    (fun threads => threads.negotiate.pc = .vnConnect →
      threads.rddcp.mateIp = threads.negotiate.remoteIp)
  · rintro threads ⟨rddcp, -, -, rfl⟩ here
    cases here
  · intro threads label after named _ stepped here
    cases label with
    | negotiate answer =>
      cases stepped
      have copies := Negotiate.copyMateIp_of_vnConnect here
      simp [Negotiate.step, copies]
    | heartbeat received =>
      obtain ⟨result, executed, rfl⟩ := Option.map_eq_some_iff.mp stepped
      have before := named here
      rcases Heartbeat.step_rddcp executed with same | quits | takes
      · rw [same]
        exact before
      · rw [quits]
        exact before
      · rw [takes]
        exact before
    | quit =>
      cases stepped
      exact named here

/-! ## The threads and the table -/

structure Networked where
  threads : Threads
  connection : CVNConnection

inductive NetworkStep where
  | negotiate (received : Received) (answer : ConnectAnswer)
  /-- `reconnects` is what a connection gives that `VNSendMsg` makes again, if it does. -/
  | heartbeat (received : HeartbeatReceived) (reconnects : Option ConnectAnswer)
  | quit

namespace Networked

variable (inetAddr : CString → Int)

/-- What `VNConnect` returns and leaves, if `negotiate` calls it now. -/
def attempt (networked : Networked) (answer : ConnectAnswer) : Int × CVNConnection :=
  networked.connection.vnConnect inetAddr networked.threads.negotiate.remoteIp.text answer

def threadStep (networked : Networked) : NetworkStep → ThreadStep
  | .negotiate received answer => .negotiate ⟨received, (networked.attempt inetAddr answer).1⟩
  | .heartbeat received _ => .heartbeat received
  | .quit => .quit

def nextConnection (networked : Networked) : NetworkStep → CVNConnection
  | .negotiate _ answer =>
    if networked.threads.negotiate.pc = .vnConnect then (networked.attempt inetAddr answer).2
    else if networked.threads.negotiate.pc = .vnDisconnect then networked.connection.vnDisconnect
    else networked.connection
  | .heartbeat _ (some answer) =>
    if networked.threads.heartbeat.sends.isEmpty then networked.connection
    else networked.connection.reconnect networked.threads.rddcp.connectionId answer
  | .heartbeat _ none => networked.connection
  | .quit => networked.connection

def apply (heap : Memory) (networked : Networked) (label : NetworkStep) : Option Networked :=
  (networked.threads.apply heap (networked.threadStep inetAddr label)).map fun threads =>
    ⟨threads, networked.nextConnection inetAddr label⟩

def system (fresh heap : Memory) (ip : IpAddress) : System Networked NetworkStep :=
  .ofStep (fun networked => (Threads.system fresh heap ip).init networked.threads ∧
    networked.connection = ⟨[]⟩) (apply inetAddr heap)

def MateConnected (networked : Networked) : Prop :=
  networked.connection.Connected networked.threads.rddcp.connectionId
    (inetAddr networked.threads.rddcp.mateIp.text)

variable {inetAddr} {fresh heap : Memory} {ip : IpAddress} {networked after : Networked}

/-- Runs with the table are runs of the threads. -/
theorem threads_reached (reached : (system inetAddr fresh heap ip).Reaches System.Always networked) :
    (Threads.system fresh heap ip).Reaches System.Always networked.threads := by
  apply reached.invariant
    (fun networked => (Threads.system fresh heap ip).Reaches System.Always networked.threads)
  · rintro networked ⟨initial, -⟩
    exact .start initial
  · intro networked label after before _ stepped
    obtain ⟨threads, executed, rfl⟩ := Option.map_eq_some_iff.mp stepped
    exact before.next trivial executed

/-- A pairing ends with a connection to the mate exactly if the first entry for its address has
been connected before, or there is none and the attempt succeeds. -/
theorem pairing_connected
    (reached : (system inetAddr fresh heap ip).Reaches System.Always networked)
    (here : networked.threads.negotiate.pc = .vnConnect) {received : Received} {answer : ConnectAnswer}
    (stepped : (system inetAddr fresh heap ip).step networked (.negotiate received answer) after) :
    after.threads.negotiate.pc = .whileNotQuit ∧ (after.MateConnected inetAddr ↔
      networked.connection.Connects (inetAddr networked.threads.negotiate.remoteIp.text) answer) := by
  have mate := Threads.mateIp_eq (threads_reached reached) here
  obtain ⟨threads, executed, rfl⟩ := Option.map_eq_some_iff.mp stepped
  cases executed
  simp only [MateConnected, nextConnection, here, if_true, Negotiate.step, Redundancy.vnConnect, mate]
  exact ⟨trivial, CVNConnection.vnConnect_connected _ _ _ _⟩

/-! ## Runs of a server that has just been started -/

/-- `inet_addr` on a little-endian host, for addresses of four decimal numbers. -/
def dottedQuad (s : CString) : Int :=
  let numbers := s.bytes.foldl (fun (done, current) c =>
    if c = 46 then (done ++ [current], 0) else (done, current * 10 + (c.toNat - 48))) ([], 0)
  match numbers.1 ++ [numbers.2] with
  | [a, b, c, d] =>
    if a < 256 ∧ b < 256 ∧ c < 256 ∧ d < 256 then
      Words.wrap 32 (a + 256 * (b : Int) + 65536 * (c : Int) + 16777216 * (d : Int))
    else inaddrNone
  | _ => inaddrNone

def newNetworked : Networked := ⟨Threads.newThreads, ⟨[]⟩⟩

theorem newNetworked_fresh :
    (system dottedQuad (fun _ => 0) (fun _ => 0) (threeAddresses 1)).init newNetworked :=
  ⟨Threads.newThreads_fresh, rfl⟩

def negotiates (count : Nat) (role : TRole) (answer : ConnectAnswer) : List NetworkStep :=
  List.replicate count (.negotiate (.datagram (threeAddresses 2) (some 1) (some role.code)) answer)

theorem pairing_connected_backup : ∃ networked : Networked,
    networked.threads.rddcp.iAm = .backupWithPrimary ∧ networked.MateConnected dottedQuad := by
  -- The highest server answers the connection.
  have started : (system dottedQuad (fun _ => 0) (fun _ => 0) (threeAddresses 1)).Reaches
      System.Always newNetworked := .start newNetworked_fresh
  obtain ⟨networked, reached, holds⟩ := started.follow_any
    (negotiates 8 .primaryWithoutBackup .notOpened)
    (fun networked => decide (networked.threads.negotiate.pc = .vnConnect ∧
      networked.connection.sendChan = [] ∧ networked.threads.negotiate.remoteIp = threeAddresses 2 ∧
      networked.threads.rddcp.iAm = .backupWithPrimary)) (by decide +kernel)
  obtain ⟨here, empty, mate, role⟩ := of_decide_eq_true holds
  obtain ⟨after, stepped⟩ : ∃ after, (system dottedQuad (fun _ => 0) (fun _ => 0)
      (threeAddresses 1)).step networked (.negotiate .null (.message MsgType.control.code)) after :=
    ⟨_, rfl⟩
  refine ⟨after, ?_, (pairing_connected reached here stepped).2.mpr ?_⟩
  · obtain ⟨threads, executed, rfl⟩ := Option.map_eq_some_iff.mp stepped
    cases executed
    simp [Negotiate.step, here, Redundancy.vnConnect, role]
  · rw [mate]
    refine ⟨by decide +kernel, ?_⟩
    rw [empty]
    exact ⟨by decide, rfl⟩

theorem pairing_notConnected : (∃ networked : Networked,
      (system dottedQuad (fun _ => 0) (fun _ => 0) (threeAddresses 1)).Reaches System.Always networked ∧
      networked.threads.negotiate.pc = .whileNotQuit ∧
      networked.threads.rddcp.iAm = .backupWithPrimary ∧
      networked.threads.rddcp.connectionId = -1 ∧ ¬ networked.MateConnected dottedQuad) ∧
    ∃ networked : Networked,
      (system dottedQuad (fun _ => 0) (fun _ => 0) (threeAddresses 1)).Reaches System.Always networked ∧
      networked.threads.negotiate.pc = .whileNotQuit ∧
      networked.threads.rddcp.iAm = .primaryWithBackup ∧
      networked.threads.rddcp.connectionId = 0 ∧ ¬ networked.MateConnected dottedQuad := by
  -- The mate does not answer the connection; after the take-over
  -- it comes back, and the entry of the failed attempt is used.
  have started : (system dottedQuad (fun _ => 0) (fun _ => 0) (threeAddresses 1)).Reaches
      System.Always newNetworked := .start newNetworked_fresh
  constructor
  · obtain ⟨networked, reached, holds⟩ := started.follow_any
      (negotiates 9 .primaryWithoutBackup .notOpened)
      (fun networked => decide (networked.threads.negotiate.pc = .whileNotQuit ∧
        networked.threads.rddcp.iAm = .backupWithPrimary ∧
        networked.threads.rddcp.connectionId = -1)) (by decide +kernel)
    obtain ⟨here, role, id⟩ := of_decide_eq_true holds
    refine ⟨networked, reached, here, role, id, ?_⟩
    rintro ⟨i, same, -⟩
    omega
  · obtain ⟨networked, reached, holds⟩ := started.follow_any
      (negotiates 9 .primaryWithoutBackup .notOpened ++
        List.replicate 23 (.heartbeat .timeout none) ++ negotiates 8 .whoAmI .notOpened)
      (fun networked => decide (networked.threads.negotiate.pc = .whileNotQuit ∧
        networked.threads.rddcp.iAm = .primaryWithBackup ∧
        networked.threads.rddcp.connectionId = 0 ∧
        networked.connection.sendChan = [⟨dottedQuad (threeAddresses 2).text, false⟩]))
      (by decide +kernel)
    obtain ⟨here, role, id, table⟩ := of_decide_eq_true holds
    refine ⟨networked, reached, here, role, id, ?_⟩
    rintro ⟨i, same, channel, member, -, connected⟩
    obtain rfl : i = 0 := by omega
    rw [table] at member
    have entry := Option.some.inj member
    rw [← entry] at connected
    exact absurd connected Bool.false_ne_true

end Networked

end Foolject
