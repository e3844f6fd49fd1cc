import Mathlib.Logic.Function.Basic
import Foolject.VNClib.Channel
import Foolject.VNClib.Connection

/-! The send channels with their ports and sockets, and the three calls that use them.

A call that finds a null entry where it does not look for one has no result. What a call asks of
the network is in its environment.
-/

set_option autoImplicit false

namespace Foolject.VNClib
open Words

@[simp] def maxQueueCnt : Nat := 1024
@[simp] def maxHostAddrLen : Nat := 256

structure Peer where
  /-- `m_Socket` is not `INVALID_SOCKET`. -/
  socket : Bool
  addrPeer : Int
  port : Int
  deriving DecidableEq

/-- How an attempt to connect goes: it may fail at `OpenCore`, or at the first `RecvMsg`, which
keeps the socket open if it only times out. -/
inductive Attempt where
  | notOpened
  | timedOut
  | failed
  | message (type : Int)
  deriving DecidableEq

namespace Peer

def new : Peer := ⟨false, inaddrNone, 0⟩

/-- An argument of -1 stands for what the channel has. -/
def withTarget (peer : Peer) (addr port : Int) : Peer :=
  { peer with
    addrPeer := if addr ≠ -1 then addr else peer.addrPeer
    port := if port ≠ -1 then port else peer.port }

def openCore (peer : Peer) (opens : Bool) : Bool × Peer :=
  if peer.socket = true ∨ peer.addrPeer = inaddrNone then (false, peer)
  else (opens, { peer with socket := opens })

def connect (peer : Peer) (servAddr port : Int) (attempt : Attempt) : Bool × Peer :=
  let opened := (peer.withTarget servAddr port).openCore (attempt ≠ .notOpened)
  if opened.1 = false then (false, opened.2)
  else
    match attempt with
    | .message type => (decide (type = MsgType.control.code), opened.2)
    | .timedOut => (false, opened.2)
    | _ => (false, { opened.2 with socket := false })

def sendMsg (peer : Peer) (msg : CVNNetMsg) (answers : List SendAnswer) : SendMsg :=
  (⟨peer.socket, [], []⟩ : CVNChannel).sendMsg msg answers

end Peer

/-- The array and its counter. Of each `ChannelConnect` that has succeeded since the last
`VNDisconnect`, the slot, the address and the port are noted beside them. -/
structure SendTable where
  sendChan : Nat → Option Peer
  sndCnt : Nat
  connects : List (Nat × Int × Int)

/-- `host` is null or a string; `queueGroup` tells whether `m_QueueGroup` is set. -/
structure ConnectCall where
  host : Option CString
  port : Nat
  queueGroup : Bool
  attempt : Attempt

/-- What `VNSendMsg` meets: the answers to the first send, the attempt to connect again, whether the
receive thread closes the new socket before the second send, and the answers to that. -/
structure SendEnv where
  first : List SendAnswer
  attempt : Attempt
  lost : Bool
  second : List SendAnswer

inductive SendResult where
  | blocked (handed : List (List UInt8))
  | returned (rs : Int) (handed : List (List UInt8)) (table : SendTable)

def handedOver : List SendAnswer → List UInt8 → List UInt8
  | .sent count :: answers, next :: left =>
    let count := min count (next :: left).length
    (next :: left).take count ++ handedOver answers ((next :: left).drop count)
  | _, _ => []

namespace SendTable

def initial : SendTable := ⟨fun _ => none, 0, []⟩

def put (table : SendTable) (i : Nat) (peer : Peer) : SendTable :=
  { table with sendChan := Function.update table.sendChan i (some peer) }

def note (table : SendTable) (i : Nat) (connected : Bool) (peer : Peer) : SendTable :=
  if connected then { table with connects := (i, peer.addrPeer, peer.port) :: table.connects } else table

def channelConnect (table : SendTable) (sendChanID : Nat) (servAddr port : Int) (attempt : Attempt) :
    Bool × SendTable :=
  let outcome := ((table.sendChan sendChanID).getD .new).connect servAddr port attempt
  (outcome.1, (table.put sendChanID outcome.2).note sendChanID outcome.1 outcome.2)

/-! ## VNConnect -/

def peerLong (inetAddr : CString → Int) (call : ConnectCall) : Option Int :=
  match call.host with
  | none => none
  | some host =>
    if 65535 < call.port ∨ maxHostAddrLen < host.bytes.length ∨ call.queueGroup = false ∨
        inetAddr host = inaddrNone then none
    else some (inetAddr host)

def findPeer (table : SendTable) (host : Int) : Nat → Nat → Option Nat
  | 0, i => some i
  | left + 1, i =>
    match table.sendChan i with
    | none => none
    | some peer => if peer.addrPeer = host then some i else table.findPeer host left (i + 1)

def vnConnect (inetAddr : CString → Int) (table : SendTable) (call : ConnectCall) : Option (Int × SendTable) :=
  match peerLong inetAddr call with
  | none => some (-1, table)
  | some host =>
    match table.findPeer host table.sndCnt 0 with
    | none => none
    | some i =>
      if i = table.sndCnt then
        if i = maxSendChan then some (-1, table)
        else
          -- The entry is counted before the attempt, and stays if it fails.
          let attempt := { table with sndCnt := table.sndCnt + 1 }.channelConnect i host call.port call.attempt
          some (if attempt.1 then i else -1, attempt.2)
      -- The port of an entry that is found is not looked at.
      else some (i, table)

/-! ## VNSendMsg -/

def resend (table : SendTable) (id : Nat) (handed : List UInt8) (msg : CVNNetMsg) (env : SendEnv) : SendResult :=
  let peer := (table.sendChan id).getD .new
  let peer := if env.lost then { peer with socket := false } else peer
  match peer.sendMsg msg env.second with
  | .blocked => .blocked [handed, handedOver env.second msg.getBuffer]
  | .returned rc chan _ =>
    .returned (if 0 < rc then RSINFO.success.code else rc) [handed, chan.written]
      (table.put id { peer with socket := chan.valid })

def sendTo (table : SendTable) (id : Nat) (peer : Peer) (msg : CVNNetMsg) (env : SendEnv) : SendResult :=
  match peer.sendMsg msg env.first with
  | .blocked => .blocked [handedOver env.first msg.getBuffer]
  | .returned rc chan _ =>
    let table := table.put id { peer with socket := chan.valid }
    -- A timeout may leave a part of the message on the socket, and nothing is sent again.
    if rc = RSINFO.timeout.code then .returned RSINFO.timeout.code [chan.written] table
    else if rc < 0 then
      let again := table.channelConnect id (-1) (-1) env.attempt
      if again.1 = false then .returned RSINFO.failed.code [chan.written] again.2
      else again.2.resend id chan.written msg env
    else .returned RSINFO.success.code [chan.written] table

def vnSendMsg (host : ByteOrder) (table : SendTable) (connectionID : Int) (srcQueueID desQueueID : Nat)
    (msg : CVNNetMsg) (env : SendEnv) : SendResult :=
  if connectionID < 0 ∨ maxSendChan ≤ connectionID then .returned RSINFO.failed.code [] table
  else if maxQueueCnt ≤ srcQueueID ∨ maxQueueCnt ≤ desQueueID then .returned RSINFO.failed.code [] table
  else
    match table.sendChan connectionID.toNat with
    | none => .returned RSINFO.failed.code [] table
    | some peer =>
      table.sendTo connectionID.toNat peer
        ((msg.setSrcQueueID host srcQueueID).setDesQueueID host desQueueID) env

/-! ## Runs -/

/-- The calls, and the end of a receive thread that closes a socket. -/
inductive Call where
  | connect (call : ConnectCall)
  | send (connectionID : Int) (srcQueueID desQueueID : Nat) (msg : CVNNetMsg) (env : SendEnv)
  | disconnect
  | lost (id : Nat)

def step (inetAddr : CString → Int) (host : ByteOrder) (table : SendTable) : Call → Option SendTable
  | .connect call => (table.vnConnect inetAddr call).map Prod.snd
  | .send connectionID srcQueueID desQueueID msg env =>
    match table.vnSendMsg host connectionID srcQueueID desQueueID msg env with
    | .blocked _ => none
    | .returned _ _ table => some table
  | .disconnect => some initial
  | .lost id => (table.sendChan id).map fun peer => table.put id { peer with socket := false }

def system (inetAddr : CString → Int) (host : ByteOrder) : System SendTable Call :=
  .ofStep (fun table => table = initial) (step inetAddr host)

end SendTable

/-! ## What a call does to the table -/

namespace Peer

variable {servAddr port_ : Int} {attempt : Attempt}

def SameTarget (one two : Peer) : Prop := two.addrPeer = one.addrPeer ∧ two.port = one.port

theorem withTarget_keep (peer : Peer) : peer.withTarget (-1) (-1) = peer := rfl

theorem withTarget_both (peer : Peer) (addr : servAddr ≠ -1) (port : port_ ≠ -1) :
    (peer.withTarget servAddr port_).addrPeer = servAddr ∧ (peer.withTarget servAddr port_).port = port_ :=
  ⟨if_pos addr, if_pos port⟩

theorem openCore_target (peer : Peer) (opens : Bool) : peer.SameTarget (peer.openCore opens).2 := by
  unfold openCore
  split
  · exact ⟨rfl, rfl⟩
  · exact ⟨rfl, rfl⟩

theorem connect_target (peer : Peer) (servAddr port_ : Int) (attempt : Attempt) :
    (peer.withTarget servAddr port_).SameTarget (peer.connect servAddr port_ attempt).2 := by
  have opened := openCore_target (peer.withTarget servAddr port_) (attempt ≠ .notOpened)
  unfold connect
  dsimp only
  split
  · exact opened
  · cases attempt with
    | message | timedOut | failed | notOpened => exact opened

theorem openCore_free {peer : Peer} (closed : peer.socket = false) (known : peer.addrPeer ≠ inaddrNone)
    (opens : Bool) : peer.openCore opens = (opens, { peer with socket := opens }) := by
  unfold openCore
  rw [if_neg]
  rintro (valid | unknown)
  · exact absurd (valid.symm.trans closed) (by decide)
  · exact known unknown

theorem openCore_refused {peer : Peer} (refused : peer.socket = true ∨ peer.addrPeer = inaddrNone)
    (opens : Bool) : peer.openCore opens = (false, peer) := if_pos refused

theorem connect_new (known : servAddr ≠ -1) :
    (new.connect servAddr port_ attempt).1 = true ↔ attempt = .message MsgType.control.code := by
  have target : (new.withTarget servAddr port_).addrPeer = servAddr := if_pos known
  have free : (new.withTarget servAddr port_).addrPeer ≠ inaddrNone := by
    rw [target]
    exact known
  unfold connect
  rw [openCore_free rfl free]
  cases attempt with
  | notOpened | timedOut | failed => simp
  | message type => simp

end Peer

namespace SendTable

variable {table next last : SendTable} {i : Nat} {peer after : Peer}

/-- One channel has got another socket at most, and connects to its host and port are noted. -/
structure Touches (i : Nat) (table next : SendTable) : Prop where
  channel : ∃ peer after, table.sendChan i = some peer ∧ peer.SameTarget after ∧
    next.sendChan = Function.update table.sendChan i (some after) ∧
    ∀ entry ∈ next.connects, entry ∈ table.connects ∨ entry = (i, peer.addrPeer, peer.port)
  kept : ∀ entry ∈ table.connects, entry ∈ next.connects
  count : next.sndCnt = table.sndCnt

theorem Touches.put (there : table.sendChan i = some peer) (same : peer.SameTarget after) :
    Touches i table (table.put i after) where
  channel := ⟨peer, after, there, same, rfl, fun _ => .inl⟩
  kept _ := id
  count := rfl

theorem Touches.trans (one : Touches i table next) (two : Touches i next last) : Touches i table last := by
  obtain ⟨peer, after, there, same, changed, noted⟩ := one.channel
  obtain ⟨middle, final, thereNow, sameNow, changedNow, notedNow⟩ := two.channel
  rw [changed, Function.update_self] at thereNow
  cases thereNow
  constructor
  · refine ⟨peer, final, there, ⟨sameNow.1.trans same.1, sameNow.2.trans same.2⟩, ?_, ?_⟩
    · rw [changedNow, changed, Function.update_idem]
    · intro entry member
      rcases notedNow entry member with before | own
      · exact noted entry before
      · rw [same.1, same.2] at own
        exact .inr own
  · exact fun entry member => two.kept entry (one.kept entry member)
  · exact two.count.trans one.count

theorem Touches.channelConnect (there : table.sendChan i = some peer) (attempt : Attempt) :
    Touches i table (table.channelConnect i (-1) (-1) attempt).2 := by
  have same := peer.connect_target (-1) (-1) attempt
  rw [Peer.withTarget_keep] at same
  unfold SendTable.channelConnect
  rw [there, Option.getD_some]
  dsimp only
  obtain ⟨channel, kept, count⟩ := Touches.put there same
  unfold note
  split
  · refine ⟨⟨peer, _, there, same, rfl, fun entry member => ?_⟩, ?_, rfl⟩
    · rw [same.1, same.2] at member
      exact (List.mem_cons.mp member).symm
    · exact fun entry member => List.mem_cons_of_mem _ member
  · exact ⟨channel, kept, count⟩

theorem resend_touches {handed : List UInt8} {msg : CVNNetMsg} {env : SendEnv} {rs : Int}
    {pieces : List (List UInt8)} (there : table.sendChan i = some peer)
    (returns : table.resend i handed msg env = .returned rs pieces next) : Touches i table next := by
  unfold resend at returns
  rw [there, Option.getD_some] at returns
  dsimp only at returns
  split at returns
  · cases returns
  · cases returns
    apply Touches.put there
    split
    · exact ⟨rfl, rfl⟩
    · exact ⟨rfl, rfl⟩

theorem sendTo_touches {msg : CVNNetMsg} {env : SendEnv} {rs : Int} {pieces : List (List UInt8)}
    (there : table.sendChan i = some peer)
    (returns : table.sendTo i peer msg env = .returned rs pieces next) : Touches i table next := by
  unfold sendTo at returns
  split at returns
  · cases returns
  · rename_i rc chan answers sent
    have closed : Touches i table (table.put i { peer with socket := chan.valid }) := .put there ⟨rfl, rfl⟩
    have now : (table.put i { peer with socket := chan.valid }).sendChan i = some { peer with socket := chan.valid } :=
      Function.update_self _ _ _
    have again := Touches.channelConnect now env.attempt
    dsimp only at returns
    split at returns
    · cases returns
      exact closed
    · split at returns
      · split at returns
        · cases returns
          exact closed.trans again
        · obtain ⟨_, after, _, _, changed, _⟩ := again.channel
          have reconnected : ((table.put i { peer with socket := chan.valid }).channelConnect i (-1) (-1)
              env.attempt).2.sendChan i = some after := by
            rw [changed, Function.update_self]
          exact (closed.trans again).trans (resend_touches reconnected returns)
      · cases returns
        exact closed

/-- A call of `VNSendMsg` that returns leaves the table, or touches one channel. -/
theorem vnSendMsg_touches {host : ByteOrder} {connectionID : Int} {srcQueueID desQueueID : Nat}
    {msg : CVNNetMsg} {env : SendEnv} {rs : Int} {pieces : List (List UInt8)}
    (returns : table.vnSendMsg host connectionID srcQueueID desQueueID msg env = .returned rs pieces next) :
    next = table ∨ ∃ i, Touches i table next := by
  unfold vnSendMsg at returns
  split at returns
  · cases returns
    exact .inl rfl
  · split at returns
    · cases returns
      exact .inl rfl
    · split at returns
      · cases returns
        exact .inl rfl
      · rename_i there
        exact .inr ⟨_, sendTo_touches there returns⟩

end SendTable

end Foolject.VNClib
