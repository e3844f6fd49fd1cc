import Foolject.Redundancy.Regular

/-! One iteration of the loop of `negotiate`, as the steps of a single server.

A turn of the loop has two parts: up to the receive it depends on the server alone,
behind it on what was received.
-/

set_option autoImplicit false

namespace Foolject

def NegotiatePc.Ends (pc : NegotiatePc) : Prop := pc = .whileNotQuit ∨ pc = .returned

def NegotiatePc.Behind (pc : NegotiatePc) : Prop :=
  pc ≠ .getMyRole ∧ pc ≠ .checkCount ∧ pc ≠ .recvBroadCastMsg ∧ pc ≠ .setWhoAmI ∧
  pc ≠ .promoteByCount ∧ pc ≠ .getMyRoleAgain ∧ pc ≠ .setActiveQuitEr ∧ pc ≠ .broadcastQuit

instance (pc : NegotiatePc) : Decidable pc.Ends := inferInstanceAs (Decidable (_ ∨ _))
instance (pc : NegotiatePc) : Decidable pc.Behind := inferInstanceAs (Decidable (_ ∧ _))

/-- What others can see of a server at a step: its role, its mate and what it broadcasts. -/
structure Effect where
  role : TRole
  mateIp : IpAddress
  broadcast : Option TRole
  deriving DecidableEq

namespace Server

def effect (server : Server) : Effect :=
  ⟨server.iAm, server.mateIp, server.toNegotiate.broadcast server.toRedundancy⟩

/-- The states in which a step is taken until the thread comes to the given statements, and
the state in which it does. -/
def upTo (stops : NegotiatePc → Prop) [DecidablePred stops] (answer : Answer) :
    Nat → Server → List Server × Server
  | 0, server => ([], server)
  | fuel + 1, server =>
    if stops server.pc then ([], server)
    else
      let rest := (server.step answer).upTo stops answer fuel
      (server :: rest.1, rest.2)

def arrive (server : Server) : List Server × Server :=
  server.upTo (fun pc => pc = .recvBroadCastMsg ∨ pc = .returned) ⟨.null, -1⟩ 6

def handle (answer : Answer) (server : Server) : List Server × Server :=
  if server.pc = .recvBroadCastMsg then
    let rest := (server.step answer).upTo NegotiatePc.Ends answer 5
    (server :: rest.1, rest.2)
  else ([], server)

def iteration (answer : Answer) (server : Server) : List Server × Server :=
  let first := server.arrive
  let second := first.2.handle answer
  (first.1 ++ second.1, second.2)

def arrivingRole (server : Server) : TRole :=
  if server.negotiateCount > negotiateMaxCount ∧ server.iAm = .whoAmI then .primaryWithoutBackup
  else server.iAm

def atRecv (server : Server) : Server :=
  { server with iAm := server.arrivingRole, role := server.arrivingRole, pc := .recvBroadCastMsg }

variable {server : Server}

theorem arrivingRole_whoAmI :
    server.arrivingRole = .whoAmI ↔ server.iAm = .whoAmI ∧ server.negotiateCount ≤ 15 := by
  by_cases many : server.negotiateCount > negotiateMaxCount ∧ server.iAm = .whoAmI
  · have limit : ¬ server.negotiateCount ≤ 15 := Nat.not_le.mpr many.1
    simp [arrivingRole, many, limit]
  · rw [arrivingRole, if_neg many]
    exact ⟨fun asks => ⟨asks, Nat.not_lt.mp fun more => many ⟨more, asks⟩⟩, And.left⟩

theorem arrive_promotes (head : server.pc = .whileNotQuit) (stays : server.quitInnerThread = false)
    (many : server.negotiateCount > negotiateMaxCount ∧ server.iAm = .whoAmI) :
    server.arrive.2 = server.atRecv := by
  have limit : server.negotiateCount > 15 := many.1
  simp [arrive, upTo, head, stays, Server.step, Negotiate.step, atRecv, arrivingRole, limit, many.2,
    Redundancy.getMyRole, Redundancy.setMyRole]

theorem arrive_keeps (head : server.pc = .whileNotQuit) (stays : server.quitInnerThread = false)
    (few : ¬ (server.negotiateCount > negotiateMaxCount ∧ server.iAm = .whoAmI)) :
    server.arrive =
      ([server, { server with pc := .getMyRole }, { server with role := server.iAm, pc := .checkCount }],
        server.atRecv) := by
  -- Without the promotion the way to the receive shows nothing.
  have limit : ¬ (server.negotiateCount > 15 ∧ server.iAm = .whoAmI) := few
  cases server with | mk rddcp thread bound =>
    cases rddcp
    cases thread
    cases head
    cases stays
    simp [arrive, upTo, Server.step, Negotiate.step, atRecv, arrivingRole, limit,
      Redundancy.getMyRole]

theorem arrive_last (head : server.pc = .whileNotQuit) (stays : server.quitInnerThread = false) :
    server.arrive.2 = server.atRecv := by
  by_cases many : server.negotiateCount > negotiateMaxCount ∧ server.iAm = .whoAmI
  · exact arrive_promotes head stays many
  · rw [arrive_keeps head stays many]

/-! ## Behind the receive -/

variable {connection : Int} {ip : IpAddress} {serverId role : Option Int}

theorem handle_null (here : server.pc = .recvBroadCastMsg) :
    server.handle ⟨.null, connection⟩ =
      if server.role = .whoAmI then
        ([server, { server with negotiateCount := server.negotiateCount + 1, pc := .broadcastMyRole }],
          { server with negotiateCount := server.negotiateCount + 1, pc := .whileNotQuit })
      else ([server], { server with pc := .whileNotQuit }) := by
  rw [handle, if_pos here, step_null here]
  by_cases asks : server.role = .whoAmI
  · simp [asks, upTo, Server.step, Negotiate.step, NegotiatePc.Ends]
  · simp [asks, upTo, NegotiatePc.Ends]

theorem handle_ignored (here : server.pc = .recvBroadCastMsg)
    (ignored : serverId.getD server.remoteServerId ≠ server.serverId ∨ ip = server.ip) :
    server.handle ⟨.datagram ip serverId role, connection⟩ =
      ([server], { server with
        toNegotiate := { server.toNegotiate.store ip serverId role with
          negotiateCount := server.negotiateCount + if server.role = .whoAmI then 1 else 0
          pc := .whileNotQuit } }) := by
  rw [handle, if_pos here, Server.step, Negotiate.step]
  simp only [here, Negotiate.receive_ignored ignored]
  simp [upTo, NegotiatePc.Ends]

def reacting (server : Server) (ip : IpAddress) (serverId role : Option Int) : Server :=
  { server with
    toNegotiate := { server.toNegotiate.store ip serverId role with
      pc := (server.toNegotiate.store ip serverId role).react server.toRedundancy } }

theorem handle_group (here : server.pc = .recvBroadCastMsg)
    (group : serverId.getD server.remoteServerId = server.serverId) (other : ip ≠ server.ip) :
    server.handle ⟨.datagram ip serverId role, connection⟩ =
      (server :: ((server.reacting ip serverId role).upTo NegotiatePc.Ends
          ⟨.datagram ip serverId role, connection⟩ 5).1,
        ((server.reacting ip serverId role).upTo NegotiatePc.Ends
          ⟨.datagram ip serverId role, connection⟩ 5).2) := by
  rw [handle, if_pos here, Server.step, Negotiate.step]
  simp only [here, Negotiate.receive_group group other]
  rfl

theorem reacting_pc (server : Server) (ip : IpAddress) (serverId role : Option Int) :
    (server.reacting ip serverId role).pc =
      match TRole.ofCode (role.getD server.remoteRole) with
      | none => .whileNotQuit
      | some remote =>
        Negotiate.reaction remote server.role (decide (0 < server.ip.stricmp ip)) := rfl

theorem react_behind (rddcp : Redundancy) (thread : Negotiate) : (thread.react rddcp).Behind := by
  rw [Negotiate.react]
  split
  · decide
  · rename_i remote _
    cases remote <;> cases thread.role <;>
      cases decide (0 < rddcp.ip.stricmp thread.remoteIp) <;> decide

theorem receive_behind (rddcp : Redundancy) (thread : Negotiate) (received : Received) :
    (thread.receive rddcp received).pc.Behind := by
  cases received with
  | null =>
    rw [Negotiate.receive_null]
    dsimp only
    split <;> decide
  | datagram ip serverId role =>
    by_cases ignored : serverId.getD thread.remoteServerId ≠ rddcp.serverId ∨ ip = rddcp.ip
    · rw [Negotiate.receive_ignored ignored]
      exact (by decide : NegotiatePc.whileNotQuit.Behind)
    · obtain ⟨group, other⟩ := not_or.mp ignored
      rw [Negotiate.receive_group (not_not.mp group) other]
      exact react_behind _ _

/-! ## The count is not looked at behind the receive -/

def withCount (server : Server) (count : Nat) : Server := { server with negotiateCount := count }

variable {answer : Answer} (count : Nat)

theorem step_withCount (behind : server.pc.Behind) :
    (server.withCount count).step answer = (server.step answer).withCount count := by
  obtain ⟨rddcp, ⟨pc, role, negotiateCount, remoteServerId, remoteRole, remoteIp⟩, bound⟩ := server
  cases pc with
  | checkCount => exact absurd rfl behind.2.1
  | recvBroadCastMsg => exact absurd rfl behind.2.2.1
  | _ => rfl

theorem step_behind (behind : server.pc.Behind) (goesOn : ¬ server.pc.Ends) :
    (server.step answer).pc.Behind := by
  obtain ⟨rddcp, ⟨pc, role, negotiateCount, remoteServerId, remoteRole, remoteIp⟩, bound⟩ := server
  have here : pc.Behind := behind
  cases pc with
  | getMyRole | checkCount | recvBroadCastMsg | setWhoAmI | promoteByCount | getMyRoleAgain | setActiveQuitEr
  | broadcastQuit => exact absurd here (by decide)
  | whileNotQuit => exact absurd (.inl rfl) goesOn
  | returned => exact absurd (.inr rfl) goesOn
  -- What is left leads from one of these statements to another.
  | broadcastMyRole | promoteByAddress | vnConnect | clearMateIp =>
    exact (by decide : NegotiatePc.whileNotQuit.Behind)
  | answerCandidate => exact (by decide : NegotiatePc.becomePrimary.Behind)
  | becomePrimary | becomeBackup => exact (by decide : NegotiatePc.copyMateIp.Behind)
  | copyMateIp => exact (by decide : NegotiatePc.vnConnect.Behind)
  | loseMate => exact (by decide : NegotiatePc.vnDisconnect.Behind)
  | vnDisconnect => exact (by decide : NegotiatePc.clearMateIp.Behind)
  | setEvent => exact (by decide : NegotiatePc.returned.Behind)

theorem upTo_withCount (fuel : Nat) (behind : server.pc.Behind) :
    (server.withCount count).upTo NegotiatePc.Ends answer fuel =
      (((server.upTo NegotiatePc.Ends answer fuel).1.map (withCount · count)),
        (server.upTo NegotiatePc.Ends answer fuel).2.withCount count) := by
  induction fuel generalizing server with
  | zero => rfl
  | succ fuel ih =>
    have same : (server.withCount count).pc = server.pc := rfl
    by_cases ends : server.pc.Ends
    · simp only [upTo, same, ends, if_true]
      rfl
    · simp only [upTo, same, ends, if_false]
      rw [step_withCount count behind, ih (step_behind behind ends)]
      rfl

@[simp] theorem effect_withCount : (server.withCount count).effect = server.effect := rfl

theorem upTo_count (fuel : Nat) (behind : server.pc.Behind) :
    (server.upTo NegotiatePc.Ends answer fuel).2.negotiateCount = server.negotiateCount := by
  have same : server.upTo NegotiatePc.Ends answer fuel = _ :=
    upTo_withCount server.negotiateCount fuel behind
  rw [same]
  rfl

/-! ## What an iteration comes to -/

theorem upTo_ends (behind : server.pc.Behind) :
    (server.upTo NegotiatePc.Ends answer 5).2.pc.Ends := by
  obtain ⟨rddcp, ⟨pc, role, negotiateCount, remoteServerId, remoteRole, remoteIp⟩, bound⟩ := server
  have here : pc.Behind := behind
  cases pc with
  | getMyRole | checkCount | recvBroadCastMsg | setWhoAmI | promoteByCount | getMyRoleAgain | setActiveQuitEr
  | broadcastQuit => exact absurd here (by decide)
  | setEvent | returned => exact .inr rfl
  | _ => exact .inl rfl

structure SameParameters (before after : Server) : Prop where
  serverId : after.serverId = before.serverId
  ip : after.ip = before.ip
  quit : after.quitInnerThread = before.quitInnerThread

theorem step_parameters : server.SameParameters (server.step answer) :=
  ⟨Negotiate.step_serverId _ _ _, Negotiate.step_ip _ _ _, Negotiate.step_quitInnerThread _ _ _⟩

theorem SameParameters.trans {first second third : Server} (one : first.SameParameters second)
    (two : second.SameParameters third) : first.SameParameters third :=
  ⟨two.serverId.trans one.serverId, two.ip.trans one.ip, two.quit.trans one.quit⟩

theorem upTo_parameters (stops : NegotiatePc → Prop) [DecidablePred stops] (fuel : Nat) :
    server.SameParameters (server.upTo stops answer fuel).2 := by
  induction fuel generalizing server with
  | zero => exact ⟨rfl, rfl, rfl⟩
  | succ fuel ih =>
    by_cases ends : stops server.pc
    · simp only [upTo, ends, if_true]
      exact ⟨rfl, rfl, rfl⟩
    · simp only [upTo, ends, if_false]
      exact step_parameters.trans ih

theorem iteration_parameters (server : Server) (answer : Answer) :
    server.SameParameters (server.iteration answer).2 := by
  have first : server.SameParameters server.arrive.2 := upTo_parameters _ _
  refine first.trans ?_
  rw [iteration, handle]
  split
  · exact step_parameters.trans (upTo_parameters _ _)
  · exact ⟨rfl, rfl, rfl⟩

theorem step_role (behind : server.pc.Behind) (role : server.iAm ≠ .whoAmI) :
    (server.step answer).iAm ≠ .whoAmI := by
  obtain ⟨rddcp, ⟨pc, role_, negotiateCount, remoteServerId, remoteRole, remoteIp⟩, bound⟩ := server
  have here : pc.Behind := behind
  cases pc with
  | setWhoAmI => exact absurd here (by decide)
  | promoteByCount | promoteByAddress | becomePrimary | becomeBackup | loseMate | setActiveQuitEr => exact nofun
  | _ => exact role

/-- No iteration makes a server forget its role. -/
theorem upTo_role (fuel : Nat) (behind : server.pc.Behind) (role : server.iAm ≠ .whoAmI) :
    (server.upTo NegotiatePc.Ends answer fuel).2.iAm ≠ .whoAmI := by
  induction fuel generalizing server with
  | zero => exact role
  | succ fuel ih =>
    by_cases ends : server.pc.Ends
    · simpa only [upTo, ends, if_true] using role
    · simp only [upTo, ends, if_false]
      exact ih (step_behind behind ends) (step_role behind role)

theorem handle_first (answer : Answer) (here : server.pc = .recvBroadCastMsg) :
    ∃ rest, (server.handle answer).1 = server :: rest := by
  rw [handle, if_pos here]
  exact ⟨_, rfl⟩

theorem handle_ends (here : server.pc = .recvBroadCastMsg) : (server.handle answer).2.pc.Ends := by
  rw [handle, if_pos here]
  refine upTo_ends ?_
  simp only [Server.step, Negotiate.step, here]
  exact receive_behind _ _ _

theorem handle_role (here : server.pc = .recvBroadCastMsg) (role : server.iAm ≠ .whoAmI) :
    (server.handle answer).2.iAm ≠ .whoAmI := by
  rw [handle, if_pos here]
  refine upTo_role 5 ?_ ?_
  · simp only [Server.step, Negotiate.step, here]
    exact receive_behind _ _ _
  · simpa only [Server.step, Negotiate.step, here] using role

end Server

end Foolject
