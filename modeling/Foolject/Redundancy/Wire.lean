import Mathlib.Data.List.Forall2
import Foolject.Redundancy.AtMostOnePrimary
import Foolject.VNClib.RoundTrip

/-! The negotiation over the bytes of its datagrams.

A role is broadcast as a message with two parameters, and read with the getters out of what the broadcast socket
gives. The group of servers that puts roles into inboxes is the same, but for the bytes.
-/

set_option autoImplicit false

namespace Foolject
open VNClib Words

@[simp] def maxPacketSize : Int := 256

/-- What memory holds that is not written: the buffers that messages are made in, and the locals of the getters. -/
structure Garbage where
  fresh : Memory
  first : Memory
  second : Memory
  received : Memory
  stack : List UInt8
  later : List UInt8

/-- A datagram under way, with the sender's address as `recvfrom` gives it. -/
structure Packet (ι : Type) where
  source : ι
  sender : IpAddress
  bytes : List UInt8

/-- The loops over parameters have at most two of them to pass. -/
def turns : Nat := 3

/-- `broadcast_my_role`, with the role that it gets, up to the bytes that `sendto` takes. -/
def Redundancy.broadcastMyRole (garbage : Garbage) (rddcp : Redundancy) (role : TRole) : Option (List UInt8) :=
  ((CVNNetMsg.ofType garbage.fresh .request).setInt32Param garbage.first turns 0 rddcp.serverId).bind fun one =>
    (one.2.setInt32Param garbage.second turns 1 role.code).map fun two => two.2.getBuffer

def Packet.answer {ι : Type} (chCast : CVNChannel) (packet : Packet ι) : DatagramAnswer :=
  if chCast.valid = false then .selectError else .datagram packet.bytes packet.sender.text

def Packet.read {ι : Type} (garbage : Garbage) (chCast : CVNChannel) (packet : Packet ι) :
    Option (Received × CVNChannel) :=
  (chCast.recvBroadCastMsg garbage.received maxPacketSize (packet.answer chCast)).bind fun result =>
    match result.1 with
    | none => some (.null, result.2)
    | some (msg, _) =>
      (msg.getInt32Param garbage.stack turns 0).bind fun serverId =>
        (msg.getInt32Param garbage.later turns 1).map fun role =>
          (.datagram packet.sender serverId role, result.2)

structure WireLan (ι : Type) where
  server : ι → Server
  chCast : ι → CVNChannel
  inbox : ι → List (Packet ι)

namespace WireLan
variable {ι : Type} [DecidableEq ι]

def sent (wire : WireLan ι) (garbage : Garbage) (i : ι) : Option (List (Packet ι)) :=
  match (wire.server i).broadcast (wire.server i).toRedundancy with
  | none => some []
  | some role =>
    ((wire.server i).broadcastMyRole garbage role).map fun bytes => [⟨i, (wire.server i).ip, bytes⟩]

def advance (wire : WireLan ι) (garbage : Garbage) (i : ι) (answer : Answer) (left : List (Packet ι)) :
    Option (WireLan ι) :=
  (wire.sent garbage i).map fun packets =>
    { server := Function.update wire.server i ((wire.server i).step answer)
      chCast := wire.chCast
      inbox := fun j => Function.update wire.inbox i left j ++ if (wire.server j).bound then packets else [] }

/-- A step of the group. It has no result also where something is stored behind the end of a message. -/
def apply (wire : WireLan ι) : LanStep ι × Garbage → Option (WireLan ι)
  | (.start i, _) =>
    if (wire.server i).bound then none
    else some { wire with
      server := Function.update wire.server i { wire.server i with bound := true }
      chCast := Function.update wire.chCast i ⟨true, [], []⟩ }
  | (.quit i, _) =>
    if (wire.server i).bound then
      some { wire with
        server := Function.update wire.server i { wire.server i with quitInnerThread := true } }
    else none
  | (.run i pick connection, garbage) =>
    if (wire.server i).bound = false then none
    else if (wire.server i).pc ≠ .recvBroadCastMsg then
      wire.advance garbage i ⟨.null, connection⟩ (wire.inbox i)
    else match pick with
      | none => wire.advance garbage i ⟨.null, connection⟩ (wire.inbox i)
      | some k =>
        ((wire.inbox i)[k]?).bind fun packet =>
          (packet.read garbage (wire.chCast i)).bind fun result =>
            { wire with chCast := Function.update wire.chCast i result.2 }.advance garbage i
              ⟨result.1, connection⟩ ((wire.inbox i).eraseIdx k)

end WireLan

/-! ## The message of a role -/

def roleSettings {serverId : Int} (fits : Fits 32 serverId) (role : TRole) : List Setting :=
  [.param 0 (.int32 ⟨serverId, fits⟩), .param 1 (.int32 ⟨role.code, by cases role <;> decide⟩)]

def TellsRole (serverId : Int) (role : TRole) (bytes : List UInt8) : Prop :=
  ∃ (fits : Fits 32 serverId) (sent : CVNNetMsg), sent.Holds (parameters (roleSettings fits role)) ∧
    (∀ field : HeaderField, field.get .little sent = headerValue .request field (roleSettings fits role)) ∧
    bytes = sent.getBuffer

theorem nodup_roleSettings {serverId : Int} (fits : Fits 32 serverId) (role : TRole) :
    ((parameters (roleSettings fits role)).map Param.id).Nodup := by
  change ([0, 1] : List UInt8).Nodup
  decide

theorem length_roleSettings {serverId : Int} (fits : Fits 32 serverId) (role : TRole) :
    (encodeAll (parameters (roleSettings fits role))).length = 20 := by
  have params : parameters (roleSettings fits role) =
      [⟨0, NetParamType.int32.code, bigEndian 4 serverId⟩, ⟨1, NetParamType.int32.code, bigEndian 4 role.code⟩] := rfl
  rw [params]
  simp [Param.encode]

theorem broadcastMyRole_tells (garbage : Garbage) {rddcp : Redundancy} (fits : Fits 32 rddcp.serverId) (role : TRole) :
    ∃ bytes, rddcp.broadcastMyRole garbage role = some bytes ∧ TellsRole rddcp.serverId role bytes := by
  let heap (left : Nat) : Memory := if left = 1 then garbage.first else garbage.second
  have same : rddcp.broadcastMyRole garbage role =
      (build .little heap turns (CVNNetMsg.ofType garbage.fresh .request) (roleSettings fits role)).map
        CVNNetMsg.getBuffer := by
    change (((CVNNetMsg.ofType garbage.fresh .request).setInt32Param garbage.first turns 0 rddcp.serverId).bind _) =
      ((((CVNNetMsg.ofType garbage.fresh .request).setInt32Param garbage.first turns 0 rddcp.serverId).map
        Prod.snd).bind _).map _
    generalize (CVNNetMsg.ofType garbage.fresh .request).setInt32Param garbage.first turns 0 rddcp.serverId = first
    cases first with
    | none => rfl
    | some one =>
      change ((one.2.setInt32Param garbage.second turns 1 role.code).map _) =
        (((one.2.setInt32Param garbage.second turns 1 role.code).map Prod.snd).bind _).map _
      generalize one.2.setInt32Param garbage.second turns 1 role.code = second
      cases second with
      | none => rfl
      | some two => rfl
  have enough : (roleSettings fits role).length < turns := Nat.lt_succ_self 2
  rcases CVNNetMsg.build_initEmptyMsg heap garbage.fresh .request (show defMsgLength < 2 ^ 31 by decide)
      (roleSettings fits role) (nodup_roleSettings fits role) enough with
    ⟨sent, built, holds, header⟩ | ⟨-, large⟩
  · refine ⟨sent.getBuffer, ?_, fits, sent, holds, header, rfl⟩
    rw [same]
    exact congrArg (Option.map CVNNetMsg.getBuffer) built
  · rw [length_roleSettings] at large
    omega

/-- What is read of such a datagram, whatever memory held before. -/
theorem read_tells {ι : Type} (garbage : Garbage) {chCast : CVNChannel} (valid : chCast.valid = true)
    {packet : Packet ι} {serverId : Int} {role : TRole} (tells : TellsRole serverId role packet.bytes) :
    packet.read garbage chCast = some (.datagram packet.sender (some serverId) (some role.code), chCast) := by
  obtain ⟨fits, sent, holds, header, bytes⟩ := tells
  have size := holds.length_getBuffer
  rw [length_roleSettings, ← bytes] at size
  have isHeader : endOfHeader ≤ packet.bytes.length := by
    rw [size]
    decide
  obtain ⟨msg, returns⟩ := @recvBroadCastMsg_returns garbage.received chCast maxPacketSize packet.bytes
    packet.sender.text isHeader (by rw [size]; decide) (by decide)
  obtain ⟨same, -, -⟩ := recvBroadCastMsg_bytes isHeader returns
  have roundTrip : RoundTrip .little .request (roleSettings fits role) msg :=
    roundTrip_received (nodup_roleSettings fits role) holds header (same.trans bytes)
  have enough : (roleSettings fits role).length < turns := Nat.lt_succ_self 2
  have readId : msg.getInt32Param garbage.stack turns 0 = some (some serverId) :=
    roundTrip.set 0 (.int32 ⟨serverId, fits⟩) List.mem_cons_self turns enough garbage.stack
  have readRole : msg.getInt32Param garbage.later turns 1 = some (some role.code) :=
    roundTrip.set 1 (.int32 ⟨role.code, _⟩) (List.mem_cons_of_mem _ List.mem_cons_self) turns enough garbage.later
  unfold Packet.read Packet.answer
  rw [if_neg (by rw [valid]; decide), returns, Option.bind_some]
  dsimp only
  rw [readId, Option.bind_some, readRole, Option.map_some]

/-! ## The two levels -/

namespace WireLan
variable {ι : Type} [DecidableEq ι]

structure Same (server : ι → Server) (packet : Packet ι) (datagram : Datagram ι) : Prop where
  source : packet.source = datagram.source
  sender : packet.sender = (server datagram.source).ip
  tells : TellsRole (server datagram.source).serverId datagram.role packet.bytes

/-- The servers are the same, and what is under way tells the same roles. -/
structure Abstracts (wire : WireLan ι) (lan : Lan ι) : Prop where
  server : wire.server = lan.server
  fits : ∀ i, Fits 32 (lan.server i).serverId
  sockets : ∀ i, (lan.server i).bound = true → (wire.chCast i).valid = true
  inbox : ∀ i, List.Forall₂ (Same lan.server) (wire.inbox i) (lan.inbox i)

section Lists
variable {α β : Type} {rel : α → β → Prop} {first : List α} {second : List β}

theorem getElem?_rel (related : List.Forall₂ rel first second) (k : Nat) :
    Option.Rel rel first[k]? second[k]? := by
  have behind := List.forall₂_drop k related
  rw [← List.head?_drop, ← List.head?_drop]
  generalize first.drop k = left at behind
  generalize second.drop k = right at behind
  cases behind with
  | nil => exact .none
  | cons here _ => exact .some here

theorem eraseIdx_rel (related : List.Forall₂ rel first second) (k : Nat) :
    List.Forall₂ rel (first.eraseIdx k) (second.eraseIdx k) := by
  rw [List.eraseIdx_eq_take_drop_succ, List.eraseIdx_eq_take_drop_succ]
  exact List.rel_append (List.forall₂_take k related) (List.forall₂_drop (k + 1) related)

end Lists

variable {wire : WireLan ι} {lan : Lan ι} {i : ι}

omit [DecidableEq ι] in
theorem Same.mono {before after : ι → Server} {packet : Packet ι} {datagram : Datagram ι}
    (stays : ∀ j, (after j).ip = (before j).ip ∧ (after j).serverId = (before j).serverId)
    (same : Same before packet datagram) : Same after packet datagram where
  source := same.source
  sender := same.sender.trans (stays _).1.symm
  tells := by
    rw [(stays _).2]
    exact same.tells

omit [DecidableEq ι] in
/-- What a server sends on the one level it sends on the other. -/
theorem sent_same (abstracts : Abstracts wire lan) (garbage : Garbage) (i : ι) :
    ∃ packets, wire.sent garbage i = some packets ∧
      List.Forall₂ (Same lan.server) packets (lan.sent i).toList := by
  unfold sent Lan.sent
  rw [abstracts.server]
  cases (lan.server i).broadcast (lan.server i).toRedundancy with
  | none => exact ⟨[], rfl, .nil⟩
  | some role =>
    obtain ⟨bytes, built, tells⟩ := broadcastMyRole_tells garbage (abstracts.fits i) role
    refine ⟨[⟨i, (lan.server i).ip, bytes⟩], ?_, .cons ⟨rfl, rfl, tells⟩ .nil⟩
    dsimp only
    rw [built, Option.map_some]

theorem advance_rel (abstracts : Abstracts wire lan) (garbage : Garbage) (answer : Answer) {left : List (Packet ι)}
    {left' : List (Datagram ι)} (stays : List.Forall₂ (Same lan.server) left left') :
    Option.Rel Abstracts (wire.advance garbage i answer left) (some (lan.advance i answer left')) := by
  obtain ⟨packets, sends, same⟩ := sent_same abstracts garbage i
  have constant (j : ι) : ((lan.advance i answer left').server j).ip = (lan.server j).ip ∧
      ((lan.advance i answer left').server j).serverId = (lan.server j).serverId ∧
      ((lan.advance i answer left').server j).bound = (lan.server j).bound := by
    refine Lan.advance_server_forall answer left' (fun j server => server.ip = (lan.server j).ip ∧
      server.serverId = (lan.server j).serverId ∧ server.bound = (lan.server j).bound) ?_ ?_ j
    · exact ⟨Negotiate.step_ip _ _ _, Negotiate.step_serverId _ _ _, rfl⟩
    · exact fun _ _ => ⟨rfl, rfl, rfl⟩
  unfold advance
  rw [sends, Option.map_some]
  refine .some ⟨?_, fun j => ?_, fun j bound => ?_, fun j => ?_⟩
  · exact congrArg (fun server => Function.update server i ((server i).step answer)) abstracts.server
  · rw [(constant j).2.1]
    exact abstracts.fits j
  · exact abstracts.sockets j ((constant j).2.2 ▸ bound)
  · refine List.Forall₂.imp (fun packet datagram => Same.mono fun j => ⟨(constant j).1, (constant j).2.1⟩) ?_
    change List.Forall₂ (Same lan.server) (Function.update wire.inbox i left j ++ _)
      (Function.update lan.inbox i left' j ++ lan.delivered i j)
    refine List.rel_append ?_ ?_
    · by_cases self_ : j = i
      · subst self_
        rw [Function.update_self, Function.update_self]
        exact stays
      · rw [Function.update_of_ne self_, Function.update_of_ne self_]
        exact abstracts.inbox j
    · unfold Lan.delivered
      rw [abstracts.server]
      split
      · exact same
      · exact .nil

theorem Abstracts.flagged (abstracts : Abstracts wire lan) {change : Server → Server} {chCast : ι → CVNChannel}
    (ip : (change (lan.server i)).ip = (lan.server i).ip)
    (serverId : (change (lan.server i)).serverId = (lan.server i).serverId)
    (sockets : ∀ j, (Function.update lan.server i (change (lan.server i)) j).bound = true → (chCast j).valid = true) :
    Abstracts { wire with server := Function.update lan.server i (change (lan.server i)), chCast := chCast }
      { lan with server := Function.update lan.server i (change (lan.server i)) } := by
  have constant (j : ι) : (Function.update lan.server i (change (lan.server i)) j).ip = (lan.server j).ip ∧
      (Function.update lan.server i (change (lan.server i)) j).serverId = (lan.server j).serverId := by
    by_cases self_ : j = i
    · subst self_
      rw [Function.update_self]
      exact ⟨ip, serverId⟩
    · rw [Function.update_of_ne self_]
      exact ⟨rfl, rfl⟩
  refine ⟨rfl, fun j => ?_, sockets, fun j => ?_⟩
  · dsimp only
    rw [(constant j).2]
    exact abstracts.fits j
  · exact List.Forall₂.imp (fun packet datagram => Same.mono constant) (abstracts.inbox j)

/-- Each step is possible on both levels or on neither. -/
theorem apply_rel (abstracts : Abstracts wire lan) (label : LanStep ι × Garbage) :
    Option.Rel Abstracts (wire.apply label) (lan.apply label.1) := by
  obtain ⟨step, garbage⟩ := label
  cases step with
  | start i =>
    unfold apply Lan.apply
    dsimp only
    rw [abstracts.server]
    by_cases bound : (lan.server i).bound = true
    · rw [if_pos bound, if_pos bound]
      exact .none
    · rw [if_neg bound, if_neg bound]
      refine .some (@Abstracts.flagged _ _ _ _ i abstracts (fun server => { server with bound := true }) _ rfl rfl ?_)
      intro j boundNow
      by_cases self_ : j = i
      · subst self_
        rw [Function.update_self]
      · rw [Function.update_of_ne self_] at boundNow ⊢
        exact abstracts.sockets j boundNow
  | quit i =>
    unfold apply Lan.apply
    dsimp only
    rw [abstracts.server]
    by_cases bound : (lan.server i).bound = true
    · rw [if_pos bound, if_pos bound]
      refine .some (@Abstracts.flagged _ _ _ _ i abstracts (fun server => { server with quitInnerThread := true }) _
        rfl rfl ?_)
      intro j boundNow
      by_cases self_ : j = i
      · subst self_
        exact abstracts.sockets j bound
      · rw [Function.update_of_ne self_] at boundNow
        exact abstracts.sockets j boundNow
    · rw [if_neg bound, if_neg bound]
      exact .none
  | run i pick connection =>
    unfold apply Lan.apply
    dsimp only
    rw [abstracts.server]
    by_cases bound : (lan.server i).bound = false
    · rw [if_pos bound, if_pos bound]
      exact .none
    rw [if_neg bound, if_neg bound]
    by_cases elsewhere : (lan.server i).pc ≠ .recvBroadCastMsg
    · rw [if_pos elsewhere, if_pos elsewhere]
      exact advance_rel abstracts garbage _ (abstracts.inbox i)
    rw [if_neg elsewhere, if_neg elsewhere]
    cases pick with
    | none => exact advance_rel abstracts garbage _ (abstracts.inbox i)
    | some k =>
      dsimp only
      have waits := getElem?_rel (abstracts.inbox i) k
      generalize (wire.inbox i)[k]? = packet at waits
      generalize (lan.inbox i)[k]? = datagram at waits
      cases waits with
      | none => exact .none
      | some same =>
        next packet datagram =>
        have valid := abstracts.sockets i ((Bool.not_eq_false _).mp bound)
        have received : lan.received datagram = .datagram packet.sender
            (some (lan.server datagram.source).serverId) (some datagram.role.code) := by
          rw [same.sender]
          rfl
        rw [Option.bind_some, read_tells garbage valid same.tells, Option.bind_some, Option.map_some, received]
        dsimp only
        have whole : (⟨lan.server, wire.chCast, wire.inbox⟩ : WireLan ι) = wire := by rw [← abstracts.server]
        rw [Function.update_eq_self, whole]
        exact advance_rel abstracts garbage _ (eraseIdx_rel (abstracts.inbox i) k)

omit [DecidableEq ι] in
theorem Abstracts.fresh {serverId : Int} (fits : Fits 32 serverId) {ip : ι → IpAddress}
    (fresh : lan.Fresh serverId ip) (chCast : ι → CVNChannel) :
    Abstracts ⟨lan.server, chCast, fun _ => []⟩ lan where
  server := rfl
  fits j := by
    obtain ⟨mateIp, server⟩ := fresh.server j
    rw [server]
    exact fits
  sockets j bound := by
    obtain ⟨mateIp, server⟩ := fresh.server j
    rw [server] at bound
    cases bound
  inbox j := by
    rw [fresh.inbox j]
    exact .nil

/-- Whatever memory holds that is not written, a group goes through the same states over bytes as over roles: the
same orders of steps are possible, and they lead to the same servers. -/
theorem wire_follows {serverId : Int} (fits : Fits 32 serverId) {ip : ι → IpAddress} (fresh : lan.Fresh serverId ip)
    (chCast : ι → CVNChannel) (labels : List (LanStep ι × Garbage)) :
    Option.Rel Abstracts (labels.foldlM apply ⟨lan.server, chCast, fun _ => []⟩)
      ((labels.map Prod.fst).foldlM Lan.apply lan) :=
  System.foldlM_rel (fun label related => apply_rel related label) labels (.fresh fits fresh chCast)

def zeros : Garbage := ⟨fun _ => 0, fun _ => 0, fun _ => 0, fun _ => 0, [], []⟩

theorem wire_follows_pairing : ∃ wire,
    ((Lan.pairing 1 0).map fun label => (label, zeros)).foldlM apply
      ⟨Lan.twoServers.server, fun _ => ⟨false, [], []⟩, fun _ => []⟩ = some wire ∧
    (wire.server 1).iAm = .primaryWithBackup ∧ (wire.server 0).iAm = .backupWithPrimary := by
  -- Two servers that become a pair.
  have follows := wire_follows (show Fits 32 1 by decide) Lan.twoServers_fresh (fun _ => ⟨false, [], []⟩)
    ((Lan.pairing 1 0).map fun label => (label, zeros))
  have labels : ((Lan.pairing 1 0).map fun label => (label, zeros)).map Prod.fst = Lan.pairing (1 : Fin 2) 0 := by
    rw [List.map_map]
    exact List.map_id _
  have observed : ((Lan.pairing 1 0).foldlM Lan.apply Lan.twoServers).map
      (fun lan => ((lan.server 1).iAm, (lan.server 0).iAm)) = some (.primaryWithBackup, .backupWithPrimary) := by
    decide +kernel
  obtain ⟨lan, ends, values⟩ := Option.map_eq_some_iff.mp observed
  obtain ⟨primary, backup⟩ := Prod.mk.inj values
  rw [labels, ends] at follows
  generalize ((Lan.pairing 1 0).map fun label => (label, zeros)).foldlM apply _ = last at follows
  cases follows with
  | some abstracts => exact ⟨_, rfl, by rw [abstracts.server]; exact primary, by rw [abstracts.server]; exact backup⟩

end WireLan

end Foolject
