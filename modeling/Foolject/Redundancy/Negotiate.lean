import Foolject.Redundancy.Basic

/-! The negotiate thread, one statement at a time.

Each step executes one statement that touches the shared object or the network,
so that the steps of several threads and servers can be interleaved. Log lines
and the role callback are left out.
-/

set_option autoImplicit false

namespace Foolject

/-- The statement of `negotiate` that is executed next. -/
inductive NegotiatePc where
  | setWhoAmI
  /-- A broadcast behind which the loop starts again: the first one, the one after a
  timeout, and the one that tells a paired server's role to a newcomer. -/
  | broadcastMyRole
  | whileNotQuit
  | getMyRole
  | checkCount
  | promoteByCount
  | getMyRoleAgain
  /-- The receive, and the tests on what it got. -/
  | recvBroadCastMsg
  | promoteByAddress
  | answerCandidate
  | becomePrimary
  | becomeBackup
  | copyMateIp
  | vnConnect
  | loseMate
  | vnDisconnect
  | clearMateIp
  | setActiveQuitEr
  | broadcastQuit
  | setEvent
  | returned
  deriving DecidableEq, Repr

structure Negotiate where
  pc : NegotiatePc
  role : TRole
  negotiateCount : Nat
  remoteServerId : Int
  remoteRole : Int
  remoteIp : IpAddress
  deriving DecidableEq

/-- What `VNRecvBroadCastMsg` gives: the sender's address, and what `GetInt32Param` finds
as the parameters 0 and 1, if it succeeds. -/
inductive Received where
  | null
  | datagram (ip : IpAddress) (serverId role : Option Int)
  deriving DecidableEq

/-- What the calls of one step get from outside. -/
structure Answer where
  received : Received
  connection : Int
  deriving DecidableEq

namespace Negotiate

def start : Negotiate := ⟨.setWhoAmI, .whoAmI, 0, 0, 0, .empty⟩

/-- The two nested switches. `higher` is the comparison of the addresses. -/
def reaction (remote role : TRole) (higher : Bool) : NegotiatePc :=
  match remote, role with
  -- Of two candidates the one with the higher address becomes primary, and the other goes on waiting.
  | .whoAmI, .whoAmI => if higher then .promoteByAddress else .whileNotQuit
  | .whoAmI, .primaryWithoutBackup => .answerCandidate
  | .whoAmI, .primaryWithBackup => .broadcastMyRole
  | .whoAmI, .backupWithPrimary => .broadcastMyRole
  | .activeQuitEr, .primaryWithBackup => .loseMate
  | .activeQuitEr, .backupWithPrimary => .loseMate
  | .primaryWithoutBackup, .whoAmI => .becomeBackup
  -- There is a pair already.
  | .primaryWithBackup, .whoAmI => .setEvent
  | .backupWithPrimary, .whoAmI => .setEvent
  | _, _ => .whileNotQuit

def react (rddcp : Redundancy) (thread : Negotiate) : NegotiatePc :=
  match TRole.ofCode thread.remoteRole with
  | none => .whileNotQuit
  | some remote => reaction remote thread.role (decide (0 < rddcp.ip.stricmp thread.remoteIp))

def store (thread : Negotiate) (ip : IpAddress) (serverId role : Option Int) : Negotiate :=
  { thread with
    remoteIp := ip
    remoteServerId := serverId.getD thread.remoteServerId
    remoteRole := role.getD thread.remoteRole }

/-- The part of the loop behind `VNRecvBroadCastMsg`. The results of `GetInt32Param` are
not looked at: a getter that fails leaves its variable as it was. -/
def receive (rddcp : Redundancy) (thread : Negotiate) : Received → Negotiate
  | .null =>
    if thread.role = .whoAmI then
      { thread with negotiateCount := thread.negotiateCount + 1, pc := .broadcastMyRole }
    else { thread with pc := .whileNotQuit }
  | .datagram ip serverId role =>
    let thread := thread.store ip serverId role
    -- A datagram of another group, or an echo.
    if thread.remoteServerId ≠ rddcp.serverId ∨ thread.remoteIp.stricmp rddcp.ip = 0 then
      if thread.role = .whoAmI then
        { thread with negotiateCount := thread.negotiateCount + 1, pc := .whileNotQuit }
      else { thread with pc := .whileNotQuit }
    else { thread with pc := thread.react rddcp }

def step (answer : Answer) (rddcp : Redundancy) (thread : Negotiate) : Redundancy × Negotiate :=
  match thread.pc with
  | .setWhoAmI => (rddcp.setMyRole .whoAmI, { thread with pc := .broadcastMyRole })
  | .broadcastMyRole => (rddcp, { thread with pc := .whileNotQuit })
  | .whileNotQuit =>
    (rddcp, { thread with pc := if rddcp.quitInnerThread then .setActiveQuitEr else .getMyRole })
  | .getMyRole => (rddcp, { thread with role := rddcp.getMyRole, pc := .checkCount })
  | .checkCount =>
    (rddcp, { thread with pc :=
      if thread.negotiateCount > negotiateMaxCount ∧ thread.role = .whoAmI then .promoteByCount
      else .recvBroadCastMsg })
  | .promoteByCount => (rddcp.setMyRole .primaryWithoutBackup, { thread with pc := .getMyRoleAgain })
  | .getMyRoleAgain => (rddcp, { thread with role := rddcp.getMyRole, pc := .recvBroadCastMsg })
  | .recvBroadCastMsg => (rddcp, thread.receive rddcp answer.received)
  | .promoteByAddress => (rddcp.setMyRole .primaryWithoutBackup, { thread with pc := .whileNotQuit })
  | .answerCandidate => (rddcp, { thread with pc := .becomePrimary })
  | .becomePrimary => (rddcp.setMyRole .primaryWithBackup, { thread with pc := .copyMateIp })
  | .becomeBackup => (rddcp.setMyRole .backupWithPrimary, { thread with pc := .copyMateIp })
  | .copyMateIp => ({ rddcp with mateIp := thread.remoteIp }, { thread with pc := .vnConnect })
  | .vnConnect => (rddcp.vnConnect answer.connection, { thread with pc := .whileNotQuit })
  | .loseMate => (rddcp.setMyRole .primaryWithoutBackup, { thread with pc := .vnDisconnect })
  | .vnDisconnect => (rddcp.vnDisconnect, { thread with pc := .clearMateIp })
  | .clearMateIp => ({ rddcp with mateIp := .empty }, { thread with pc := .whileNotQuit })
  | .setActiveQuitEr => (rddcp.setMyRole .activeQuitEr, { thread with pc := .broadcastQuit })
  | .broadcastQuit => (rddcp, { thread with pc := .setEvent })
  | .setEvent => ({ rddcp with reportQuit := true }, { thread with pc := .returned })
  | .returned => (rddcp, thread)

def Broadcasts (thread : Negotiate) : Prop :=
  thread.pc = .broadcastMyRole ∨ thread.pc = .answerCandidate ∨ thread.pc = .broadcastQuit

instance (thread : Negotiate) : Decidable thread.Broadcasts := inferInstanceAs (Decidable (_ ∨ _ ∨ _))

def broadcast (rddcp : Redundancy) (thread : Negotiate) : Option TRole :=
  if thread.Broadcasts then some rddcp.getMyRole else none

section Constants
variable (answer : Answer) (rddcp : Redundancy) (thread : Negotiate)

@[simp] theorem step_serverId : (thread.step answer rddcp).1.serverId = rddcp.serverId := by
  unfold step
  split <;> rfl

@[simp] theorem step_ip : (thread.step answer rddcp).1.ip = rddcp.ip := by
  unfold step
  split <;> rfl

@[simp] theorem step_quitInnerThread :
    (thread.step answer rddcp).1.quitInnerThread = rddcp.quitInnerThread := by
  unfold step
  split <;> rfl

end Constants

section Receive
variable {rddcp : Redundancy} {thread : Negotiate} {ip : IpAddress} {serverId role : Option Int}

theorem receive_null :
    thread.receive rddcp .null =
      { thread with
        negotiateCount := thread.negotiateCount + if thread.role = .whoAmI then 1 else 0
        pc := if thread.role = .whoAmI then .broadcastMyRole else .whileNotQuit } := by
  simp only [receive]
  split <;> simp_all

/-- A datagram of another group and the server's own echo count like a timeout, but are not
answered. -/
theorem receive_ignored
    (ignored : serverId.getD thread.remoteServerId ≠ rddcp.serverId ∨ ip = rddcp.ip) :
    thread.receive rddcp (.datagram ip serverId role) =
      { thread.store ip serverId role with
        negotiateCount := thread.negotiateCount + if thread.role = .whoAmI then 1 else 0
        pc := .whileNotQuit } := by
  have test : (thread.store ip serverId role).remoteServerId ≠ rddcp.serverId ∨
      (thread.store ip serverId role).remoteIp.stricmp rddcp.ip = 0 := by
    simpa [store] using ignored
  simp only [receive, test, if_true]
  split <;> simp_all [store]

theorem receive_group (group : serverId.getD thread.remoteServerId = rddcp.serverId)
    (other : ip ≠ rddcp.ip) :
    thread.receive rddcp (.datagram ip serverId role) =
      { thread.store ip serverId role with pc := (thread.store ip serverId role).react rddcp } := by
  have test : ¬ ((thread.store ip serverId role).remoteServerId ≠ rddcp.serverId ∨
      (thread.store ip serverId role).remoteIp.stricmp rddcp.ip = 0) := by
    simp [store, group, other]
  simp only [receive, test, if_false]

theorem react_store (thread : Negotiate) (remote : TRole) :
    (thread.store ip serverId (some remote.code)).react rddcp =
      reaction remote thread.role (decide (0 < rddcp.ip.stricmp ip)) := by
  simp only [react, store, Option.getD_some, TRole.ofCode_code]
  rfl

theorem reaction_ne (remote role : TRole) (higher : Bool) :
    reaction remote role higher ≠ .copyMateIp ∧ reaction remote role higher ≠ .becomePrimary ∧
    reaction remote role higher ≠ .setActiveQuitEr ∧ reaction remote role higher ≠ .promoteByCount := by
  cases remote <;> cases role <;> cases higher <;> decide

theorem reaction_becomeBackup {remote role : TRole} {higher : Bool}
    (reacts : reaction remote role higher = .becomeBackup) :
    remote = .primaryWithoutBackup ∧ role = .whoAmI := by
  revert reacts
  cases remote <;> cases role <;> cases higher <;> decide

/-- A receive never leads straight into the middle of a pairing, to the exit or to the promotion
at the loop head. -/
theorem receive_ne (received : Received) :
    (thread.receive rddcp received).pc ≠ .copyMateIp ∧
    (thread.receive rddcp received).pc ≠ .becomePrimary ∧
    (thread.receive rddcp received).pc ≠ .setActiveQuitEr ∧
    (thread.receive rddcp received).pc ≠ .promoteByCount := by
  cases received with
  | null =>
    rw [receive_null]
    dsimp only
    split <;> decide
  | datagram ip serverId role =>
    by_cases ignored : serverId.getD thread.remoteServerId ≠ rddcp.serverId ∨ ip = rddcp.ip
    · rw [receive_ignored ignored]
      simp
    · obtain ⟨group, other⟩ := not_or.mp ignored
      rw [receive_group (not_not.mp group) other, react]
      dsimp only
      split
      · decide
      · exact reaction_ne _ _ _

end Receive

end Negotiate

end Foolject
