import Foolject.Redundancy.Lan

/-! Servers that nobody tells to quit, in a group where nobody quits. -/

set_option autoImplicit false

namespace Foolject

def TRole.At : TRole → NegotiatePc → Prop
  | _, .whileNotQuit | _, .getMyRole | _, .checkCount | _, .recvBroadCastMsg => True
  | role, .broadcastMyRole => role ≠ .primaryWithoutBackup
  | role, .setWhoAmI | role, .promoteByCount | role, .promoteByAddress | role, .becomeBackup
  | role, .setEvent | role, .returned => role = .whoAmI
  | role, .getMyRoleAgain | role, .answerCandidate | role, .becomePrimary =>
    role = .primaryWithoutBackup
  | role, .copyMateIp | role, .vnConnect => role.Paired
  | _, .loseMate | _, .vnDisconnect | _, .clearMateIp | _, .setActiveQuitEr | _, .broadcastQuit => False

/-- The role read at the loop head is the current one up to the reaction, and a server
that still asks comes to the receive only below the limit. -/
structure Server.Regular (server : Server) : Prop where
  quit : server.quitInnerThread = false
  active : server.iAm ≠ .activeQuitEr
  here : server.iAm.At server.pc
  read : server.pc = .checkCount ∨ server.pc = .recvBroadCastMsg → server.role = server.iAm
  below : server.pc = .recvBroadCastMsg → server.iAm = .whoAmI → server.negotiateCount ≤ 15

inductive Received.Staying : Received → Prop where
  | null : Staying .null
  | datagram (ip : IpAddress) (serverId : Int) {role : TRole} : role ≠ .activeQuitEr →
      Staying (.datagram ip (some serverId) (some role.code))

theorem Negotiate.reaction_at {remote role : TRole} (higher : Bool) (stays : remote ≠ .activeQuitEr)
    (active : role ≠ .activeQuitEr) : role.At (reaction remote role higher) ∧
      reaction remote role higher ≠ .checkCount ∧ reaction remote role higher ≠ .recvBroadCastMsg := by
  cases remote <;> cases role <;> cases higher <;> simp_all [reaction, TRole.At]

namespace Server
variable {server : Server} {connection : Int}

/-! ## The steps that branch -/

theorem step_checkCount {answer : Answer} (here : server.pc = .checkCount) :
    server.step answer = { server with
      pc := if server.negotiateCount > negotiateMaxCount ∧ server.role = .whoAmI then .promoteByCount
        else .recvBroadCastMsg } := by
  simp only [step, Negotiate.step, here]

theorem step_null (here : server.pc = .recvBroadCastMsg) :
    server.step ⟨.null, connection⟩ = { server with
      negotiateCount := server.negotiateCount + if server.role = .whoAmI then 1 else 0
      pc := if server.role = .whoAmI then .broadcastMyRole else .whileNotQuit } := by
  simp only [step, Negotiate.step, here, Negotiate.receive_null]

variable {ip : IpAddress} {serverId : Int} {remote : TRole}

theorem step_ignored (here : server.pc = .recvBroadCastMsg)
    (ignored : serverId ≠ server.serverId ∨ ip = server.ip) :
    server.step ⟨.datagram ip (some serverId) (some remote.code), connection⟩ =
      { server with
        negotiateCount := server.negotiateCount + if server.role = .whoAmI then 1 else 0
        remoteServerId := serverId
        remoteRole := remote.code
        remoteIp := ip
        pc := .whileNotQuit } := by
  have test : (some serverId).getD server.remoteServerId ≠ server.serverId ∨ ip = server.ip := ignored
  simp only [step, Negotiate.step, here]
  rw [Negotiate.receive_ignored test]
  rfl

theorem step_group (here : server.pc = .recvBroadCastMsg) (other : ip ≠ server.ip) :
    server.step ⟨.datagram ip (some server.serverId) (some remote.code), connection⟩ =
      { server with
        remoteServerId := server.serverId
        remoteRole := remote.code
        remoteIp := ip
        pc := Negotiate.reaction remote server.role (decide (0 < server.ip.stricmp ip)) } := by
  simp only [step, Negotiate.step, here]
  rw [Negotiate.receive_group rfl other, Negotiate.react_store]
  rfl

theorem Regular.step (regular : server.Regular) {answer : Answer}
    (staying : answer.received.Staying) : (server.step answer).Regular := by
  rcases answer with ⟨received, connection⟩
  obtain ⟨quit, active, at_, read, below⟩ := regular
  cases here : server.pc with
  | recvBroadCastMsg =>
    have read := read (.inr here)
    cases staying with
    | null =>
      rw [step_null here, read]
      by_cases asks : server.iAm = .whoAmI
      · constructor <;> simp_all [TRole.At]
      · constructor <;> simp_all [TRole.At]
    | @datagram ip serverId remote stays =>
      by_cases ignored : serverId ≠ server.serverId ∨ ip = server.ip
      · rw [step_ignored here ignored]
        constructor <;> simp_all [TRole.At]
      · obtain ⟨rfl, other⟩ : serverId = server.serverId ∧ ip ≠ server.ip := by
          simpa using ignored
        have reaches := Negotiate.reaction_at (decide (0 < server.ip.stricmp ip)) stays active
        rw [step_group here other, read]
        constructor <;> simp_all
  | checkCount =>
    have read := read (.inl here)
    rw [step_checkCount here]
    by_cases many : server.negotiateCount > negotiateMaxCount ∧ server.role = .whoAmI
    · rw [if_pos many]
      constructor <;> simp_all [TRole.At]
    · have few : server.iAm = .whoAmI → server.negotiateCount ≤ 15 := fun asks =>
        Nat.not_lt.mp fun more => many ⟨more, read.trans asks⟩
      rw [if_neg many]
      exact ⟨quit, active, trivial, fun _ => read, fun _ => few⟩
  | _ =>
    constructor <;> simp_all [Server.step, Negotiate.step, TRole.At, Redundancy.setMyRole,
      Redundancy.getMyRole, Redundancy.vnConnect, TRole.Paired]

end Server

namespace Lan
variable {ι : Type} [DecidableEq ι]

/-- No server has started. What `m_mate_ip` holds is not defined yet. -/
structure Fresh (serverId : Int) (ip : ι → IpAddress) (lan : Lan ι) : Prop where
  server : ∀ i, ∃ mateIp, lan.server i =
    ⟨⟨serverId, ip i, .whoAmI, mateIp, -1, [], false, false⟩, .start, false⟩
  inbox : ∀ i, lan.inbox i = []
  heard : ∀ i, lan.heard i = []

/-- The servers of one group, none of which has quit or been told to. -/
structure Group (serverId : Int) (ip : ι → IpAddress) (lan : Lan ι) : Prop where
  serverId : ∀ i, (lan.server i).serverId = serverId
  ip : ∀ i, (lan.server i).ip = ip i
  regular : ∀ i, (lan.server i).Regular
  staying : ∀ i, ∀ datagram ∈ lan.inbox i, datagram.role ≠ .activeQuitEr

def NoQuit : LanStep ι → Prop
  | .quit _ => False
  | _ => True

instance : DecidablePred (NoQuit (ι := ι))
  | .quit _ => .isFalse id
  | .start _ => .isTrue trivial
  | .run _ _ _ => .isTrue trivial

variable {serverId : Int} {ip : ι → IpAddress} {lan next : Lan ι}

omit [DecidableEq ι] in
theorem Fresh.group (fresh : lan.Fresh serverId ip) : lan.Group serverId ip := by
  constructor
  · intro i
    obtain ⟨mateIp, same⟩ := fresh.server i
    rw [same]
  · intro i
    obtain ⟨mateIp, same⟩ := fresh.server i
    rw [same]
  · intro i
    obtain ⟨mateIp, same⟩ := fresh.server i
    rw [same]
    constructor <;> simp [Negotiate.start, TRole.At]
  · intro i datagram member
    rw [fresh.inbox i] at member
    cases member

omit [DecidableEq ι] in
theorem Group.takes (group : lan.Group serverId ip) {i : ι} {pick : Option Nat} {received : Received}
    {left : List (Datagram ι)} (takes : lan.Takes i pick received left) : received.Staying := by
  cases takes with
  | nothing => exact .null
  | datagram _ found => exact .datagram _ _ (group.staying i _ (List.mem_of_getElem? found))

theorem Group.apply (group : lan.Group serverId ip) {label : LanStep ι} (noQuit : NoQuit label)
    (applied : lan.apply label = some next) : next.Group serverId ip := by
  cases label with
  | quit i => cases noQuit
  | start i =>
    obtain ⟨-, -, inbox, -, each, -⟩ := apply_start applied
    constructor
    · intro j
      obtain ⟨bound, same⟩ := each j
      rw [same]
      exact group.serverId j
    · intro j
      obtain ⟨bound, same⟩ := each j
      rw [same]
      exact group.ip j
    · intro j
      obtain ⟨bound, same⟩ := each j
      obtain ⟨quit, active, here, read, below⟩ := group.regular j
      rw [same]
      exact ⟨quit, active, here, read, below⟩
    · rw [inbox]
      exact group.staying
  | run i pick connection =>
    obtain ⟨-, received, left, takes, rfl⟩ := apply_run applied
    constructor
    · refine advance_server_forall _ _ (fun _ server => server.serverId = serverId) ?_
        fun j _ => group.serverId j
      exact (Negotiate.step_serverId _ _ _).trans (group.serverId i)
    · refine advance_server_forall _ _ (fun j server => server.ip = ip j) ?_ fun j _ => group.ip j
      exact (Negotiate.step_ip _ _ _).trans (group.ip i)
    · exact advance_server_forall _ _ (fun _ server => server.Regular)
        ((group.regular i).step (group.takes takes)) fun j _ => group.regular j
    · intro j datagram member
      rcases mem_advance_inbox _ takes member with old | new
      · exact group.staying j datagram old
      · obtain ⟨-, -, rfl⟩ := mem_delivered new
        exact (group.regular i).active

omit [DecidableEq ι] in
theorem Group.step_received (group : lan.Group serverId ip) {i : ι} {datagram : Datagram ι}
    {connection : Int} (here : (lan.server i).pc = .recvBroadCastMsg)
    (other : ip datagram.source ≠ ip i) :
    (lan.server i).step ⟨lan.received datagram, connection⟩ = { lan.server i with
      remoteServerId := serverId
      remoteRole := datagram.role.code
      remoteIp := ip datagram.source
      pc := Negotiate.reaction datagram.role (lan.server i).role
        (decide (0 < (ip i).stricmp (ip datagram.source))) } := by
  have differ : (lan.server datagram.source).ip ≠ (lan.server i).ip := by
    rwa [group.ip, group.ip]
  have same := group.serverId i
  rw [received, group.serverId, ← same, Server.step_group here differ, group.ip, group.ip]

omit [DecidableEq ι] in
theorem Group.step_echo (group : lan.Group serverId ip) {i : ι} {datagram : Datagram ι}
    {connection : Int} (here : (lan.server i).pc = .recvBroadCastMsg)
    (own : ip datagram.source = ip i) :
    (lan.server i).step ⟨lan.received datagram, connection⟩ = { lan.server i with
      negotiateCount := (lan.server i).negotiateCount + if (lan.server i).role = .whoAmI then 1 else 0
      remoteServerId := serverId
      remoteRole := datagram.role.code
      remoteIp := ip i
      pc := .whileNotQuit } := by
  have same : (lan.server datagram.source).ip = (lan.server i).ip := by
    rwa [group.ip, group.ip]
  rw [received, group.serverId, Server.step_ignored here (.inr same), group.ip, own]

end Lan

end Foolject
