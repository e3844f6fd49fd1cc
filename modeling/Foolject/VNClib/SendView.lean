import Foolject.VNClib.SendSlots

/-! The table of connections is what is left of the send channels when their ports and sockets
are forgotten: of each channel its address, and whether a connect of it has succeeded.
-/

set_option autoImplicit false

namespace Foolject.VNClib
open Words

/-! ## The runs of the table -/

inductive TableCall where
  | connect (host : CString) (answer : ConnectAnswer)
  | reconnect (id : Int) (answer : ConnectAnswer)
  | disconnect

namespace CVNConnection

def apply (inetAddr : CString → Int) (connection : CVNConnection) : TableCall → CVNConnection
  | .connect host answer => (connection.vnConnect inetAddr host answer).2
  | .reconnect id answer => connection.reconnect id answer
  | .disconnect => connection.vnDisconnect

def system (inetAddr : CString → Int) : System CVNConnection TableCall where
  init connection := connection = ⟨[]⟩
  step connection label next := next = connection.apply inetAddr label

end CVNConnection

def Attempt.answer : Attempt → ConnectAnswer
  | .notOpened => .notOpened
  | .timedOut => .noMessage
  | .failed => .noMessage
  | .message type => .message type

namespace SendTable

def everConnected (table : SendTable) (i : Nat) : Bool := table.connects.any fun entry => entry.1 = i

def channelAt (table : SendTable) (i : Nat) : Option SendChannel :=
  (table.sendChan i).map fun peer => ⟨peer.addrPeer, table.everConnected i⟩

structure Viewed (table : SendTable) (connection : CVNConnection) : Prop where
  channels : ∀ i, connection.sendChan[i]? = table.channelAt i
  noted : ∀ entry ∈ table.connects, entry.1 < table.sndCnt

variable {table next : SendTable} {connection : CVNConnection} {i : Nat} {host : Int}
  {inetAddr : CString → Int} {call : ConnectCall}

theorem viewed_initial : initial.Viewed ⟨[]⟩ where
  channels _ := rfl
  noted _ member := by cases member

theorem everConnected_iff : table.everConnected i = true ↔ ∃ entry ∈ table.connects, entry.1 = i := by
  unfold everConnected
  rw [List.any_eq_true]
  simp only [decide_eq_true_eq]

theorem Viewed.channel (viewed : table.Viewed connection) {peer : Peer} (there : table.sendChan i = some peer) :
    connection.sendChan[i]? = some ⟨peer.addrPeer, table.everConnected i⟩ := by
  rw [viewed.channels, channelAt, there, Option.map_some]

theorem Viewed.peer (viewed : table.Viewed connection) {channel : SendChannel}
    (there : connection.sendChan[i]? = some channel) :
    ∃ peer, table.sendChan i = some peer ∧ peer.addrPeer = channel.addrPeer := by
  rw [viewed.channels] at there
  obtain ⟨peer, at_, rfl⟩ := Option.map_eq_some_iff.mp there
  exact ⟨peer, at_, rfl⟩

theorem Viewed.length (viewed : table.Viewed connection) (ordered : table.Ordered) :
    connection.sendChan.length = table.sndCnt := by
  apply le_antisymm
  · rw [← List.getElem?_eq_none_iff, viewed.channels, channelAt, ordered.empty _ (le_refl _)]
    rfl
  · by_contra fewer
    obtain ⟨peer, there, -⟩ := ordered.known _ (not_le.mp fewer)
    have member := viewed.channel there
    rw [List.getElem?_eq_none (le_refl _)] at member
    cases member

/-! ## The loop over the entries -/

theorem Viewed.findPeer_known (viewed : table.Viewed connection) (ordered : table.Ordered) {peer : Peer}
    (there : table.sendChan i = some peer) (same : peer.addrPeer = host) :
    CVNConnection.findPeer host connection.sendChan = some i := by
  cases found : CVNConnection.findPeer host connection.sendChan with
  | none =>
    have absent := List.find?_eq_none.mp (CVNConnection.findPeer_none found)
    have member := List.mem_of_getElem? (viewed.channel there)
    exact absurd (decide_eq_true same) (absent _ member)
  | some j =>
    obtain ⟨channel, at_, first⟩ := CVNConnection.findPeer_some found
    obtain ⟨other, there', addr⟩ := viewed.peer at_
    have target := addr.trans (CVNConnection.find_addrPeer first)
    rw [ordered.distinct i j peer other there there' (same.trans target.symm)]

theorem Viewed.findPeer_missing (viewed : table.Viewed connection)
    (others : ∀ j peer, table.sendChan j = some peer → peer.addrPeer ≠ host) :
    CVNConnection.findPeer host connection.sendChan = none := by
  cases found : CVNConnection.findPeer host connection.sendChan with
  | none => rfl
  | some j =>
    obtain ⟨channel, at_, first⟩ := CVNConnection.findPeer_some found
    obtain ⟨other, there, addr⟩ := viewed.peer at_
    exact absurd (addr.trans (CVNConnection.find_addrPeer first)) (others j other there)

/-! ## What the calls do to the view -/

theorem Ordered.channelConnect_new (ordered : table.Ordered) (asked : peerLong inetAddr call = some host) :
    SendChannel.new.channelConnect host call.attempt.answer =
      ((table.attempted host call).1, ⟨host, (table.attempted host call).1⟩) := by
  obtain ⟨-, -, -, -, -, succeeds, -⟩ := ordered.attempted asked
  obtain ⟨addr, greets, flag⟩ := CVNConnection.channelConnect_new call.attempt.answer (peerLong_known asked)
  have sameAnswer : call.attempt.answer = .message MsgType.control.code ↔
      call.attempt = .message MsgType.control.code := by
    cases call.attempt with
    | message type => simp [Attempt.answer]
    | notOpened | timedOut | failed => simp [Attempt.answer]
  have same : (SendChannel.new.channelConnect host call.attempt.answer).1 = (table.attempted host call).1 :=
    Bool.eq_iff_iff.mpr (greets.trans (sameAnswer.trans succeeds.symm))
  rw [← same]
  generalize SendChannel.new.channelConnect host call.attempt.answer = outcome at addr flag ⊢
  obtain ⟨attempted, addrPeer, connected⟩ := outcome
  obtain rfl : addrPeer = host := addr
  obtain rfl : connected = attempted := flag
  rfl

theorem Viewed.everConnected_new (viewed : table.Viewed connection) :
    table.everConnected table.sndCnt = false := by
  rw [Bool.eq_false_iff, Ne, everConnected_iff]
  rintro ⟨entry, member, at_⟩
  exact absurd (viewed.noted entry member) (at_ ▸ Nat.lt_irrefl _)

theorem Viewed.everConnected_attempted (viewed : table.Viewed connection) (ordered : table.Ordered)
    (asked : peerLong inetAddr call = some host) (j : Nat) :
    (table.attempted host call).2.everConnected j =
      if j = table.sndCnt then (table.attempted host call).1 else table.everConnected j := by
  obtain ⟨-, -, -, -, -, -, connects⟩ := ordered.attempted asked
  have fresh := viewed.everConnected_new
  unfold everConnected at fresh ⊢
  rw [connects]
  by_cases success : (table.attempted host call).1 = true
  · rw [if_pos success, List.any_cons, success]
    by_cases new : j = table.sndCnt
    · simp [new]
    · simp [new, Ne.symm new]
  · rw [if_neg success]
    by_cases new : j = table.sndCnt
    · rw [if_pos new, new, fresh, Bool.eq_false_iff.mpr success]
    · rw [if_neg new]

theorem Viewed.attempted (viewed : table.Viewed connection) (ordered : table.Ordered)
    (asked : peerLong inetAddr call = some host) :
    (table.attempted host call).2.Viewed
      ⟨connection.sendChan ++ [⟨host, (table.attempted host call).1⟩]⟩ := by
  obtain ⟨peer, target, -, chans, count, -, connects⟩ := ordered.attempted asked
  have length := viewed.length ordered
  constructor
  · intro j
    rw [channelAt, chans, viewed.everConnected_attempted ordered asked]
    rcases Nat.lt_trichotomy j table.sndCnt with below | new | above
    · rw [Function.update_of_ne below.ne, if_neg below.ne, ← channelAt, ← viewed.channels,
        List.getElem?_append_left (length ▸ below)]
    · rw [new, Function.update_self, if_pos rfl, Option.map_some, target, ← length, List.getElem?_concat_length]
    · rw [Function.update_of_ne above.ne', ordered.empty j above.le, Option.map_none, List.getElem?_eq_none]
      rw [List.length_append, length, List.length_singleton]
      exact above
  · intro entry member
    rw [count]
    rw [connects] at member
    split at member
    · rcases List.mem_cons.mp member with rfl | before
      · exact Nat.lt_succ_self _
      · exact Nat.lt_succ_of_lt (viewed.noted entry before)
    · exact Nat.lt_succ_of_lt (viewed.noted entry member)

/-- A call of `VNConnect` whose arguments are taken returns the same here and for the table. -/
theorem Viewed.vnConnect (viewed : table.Viewed connection) (ordered : table.Ordered)
    (asked : peerLong inetAddr call = some host) :
    ∃ name ∈ call.host, ∃ id next after, table.vnConnect inetAddr call = some (id, next) ∧
      connection.vnConnect inetAddr name call.attempt.answer = (id, after) ∧ next.Viewed after := by
  obtain ⟨name, given, rfl⟩ := peerLong_host asked
  obtain ⟨id, next, returned, outcome⟩ := ordered.vnConnect inetAddr call
  refine ⟨name, given, id, next, ?_⟩
  unfold CVNConnection.vnConnect
  dsimp only
  rw [if_neg (peerLong_known asked)]
  cases outcome with
  | refused none => cases none.symm.trans asked
  | known asked' there same =>
    cases asked'.symm.trans asked
    rw [viewed.findPeer_known ordered there same]
    exact ⟨connection, returned, rfl, viewed⟩
  | full asked' others full =>
    cases asked'.symm.trans asked
    rw [viewed.findPeer_missing others]
    dsimp only
    rw [if_pos ((viewed.length ordered).trans full)]
    exact ⟨connection, returned, rfl, viewed⟩
  | tried asked' others room =>
    cases asked'.symm.trans asked
    rw [viewed.findPeer_missing others]
    dsimp only
    rw [if_neg ((viewed.length ordered).trans_ne room), ordered.channelConnect_new asked, viewed.length ordered]
    exact ⟨_, returned, rfl, viewed.attempted ordered asked⟩

theorem Touches.everConnected_of_ne (touches : Touches i table next) {j : Nat} (other : j ≠ i) :
    next.everConnected j = table.everConnected j := by
  obtain ⟨peer, after, -, -, -, own⟩ := touches.channel
  rw [Bool.eq_iff_iff, everConnected_iff, everConnected_iff]
  constructor
  · rintro ⟨entry, member, at_⟩
    rcases own entry member with before | rfl
    · exact ⟨entry, before, at_⟩
    · exact absurd at_.symm other
  · rintro ⟨entry, member, at_⟩
    exact ⟨entry, touches.kept entry member, at_⟩

theorem Touches.everConnected (touches : Touches i table next) :
    next.everConnected i = table.everConnected i ∨ next.everConnected i = true := by
  cases before : table.everConnected i with
  | false => exact (Bool.eq_false_or_eq_true _).symm
  | true =>
    obtain ⟨entry, member, at_⟩ := everConnected_iff.mp before
    exact .inl (everConnected_iff.mpr ⟨entry, touches.kept entry member, at_⟩)

theorem Viewed.touches (viewed : table.Viewed connection) (ordered : table.Ordered) (touches : Touches i table next) :
    next.Viewed connection ∨ next.Viewed (connection.reconnect i (.message MsgType.control.code)) := by
  obtain ⟨peer, after, there, target, changed, own⟩ := touches.channel
  have noted : ∀ entry ∈ next.connects, entry.1 < next.sndCnt := by
    intro entry member
    rw [touches.count]
    rcases own entry member with before | rfl
    · exact viewed.noted entry before
    · exact ordered.below there
  have elsewhere : ∀ j ≠ i, next.channelAt j = connection.sendChan[j]? := by
    intro j other
    rw [viewed.channels, channelAt, channelAt, changed, Function.update_of_ne other, touches.everConnected_of_ne other]
  have here : next.channelAt i = some ⟨peer.addrPeer, next.everConnected i⟩ := by
    rw [channelAt, changed, Function.update_self, Option.map_some, target.1]
  rcases touches.everConnected with same | connected
  · refine .inl ⟨fun j => ?_, noted⟩
    by_cases touched : j = i
    · rw [touched, here, same, viewed.channel there]
    · rw [elsewhere j touched]
  · refine .inr ⟨fun j => ?_, noted⟩
    unfold CVNConnection.reconnect
    rw [if_pos (Int.natCast_nonneg i), Int.toNat_natCast]
    by_cases touched : j = i
    · -- A connect with -1 for the address keeps the address and sets the flag.
      rw [touched, List.getElem?_modify_eq, viewed.channel there, here, connected]
      rfl
    · exact (List.getElem?_modify_ne _ _ (Ne.symm touched)).trans (elsewhere j touched).symm

theorem Viewed.step {order : ByteOrder} {label : Call} (viewed : table.Viewed connection) (ordered : table.Ordered)
    (stepped : SendTable.step inetAddr order table label = some next) :
    next.Viewed connection ∨
      ∃ matched after, (CVNConnection.system inetAddr).step connection matched after ∧ next.Viewed after := by
  rcases step_cases ordered stepped with ⟨call, id, rfl, outcome⟩ | rfl | ⟨i, touches⟩ | rfl
  · cases asked : peerLong inetAddr call with
    | none =>
      cases outcome with
      | refused => exact .inl viewed
      | known asked' | full asked' | tried asked' => cases asked.symm.trans asked'
    | some host =>
      obtain ⟨name, -, id, other, after, returned, matched, afterwards⟩ := viewed.vnConnect ordered asked
      have result : (table.vnConnect inetAddr call).map Prod.snd = some next := stepped
      rw [returned] at result
      cases result
      exact .inr ⟨.connect name call.attempt.answer, after, congrArg Prod.snd matched.symm, afterwards⟩
  · exact .inl viewed
  · rcases viewed.touches ordered touches with same | again
    · exact .inl same
    · exact .inr ⟨.reconnect i (.message MsgType.control.code), _, rfl, again⟩
  · exact .inr ⟨.disconnect, _, rfl, viewed_initial⟩

/-- The runs of the channels are runs of the table of connections. -/
theorem viewed_reached {order : ByteOrder} (reached : (system inetAddr order).Reaches System.Always table) :
    ∃ connection, (CVNConnection.system inetAddr).Reaches System.Always connection ∧ table.Viewed connection := by
  have simulated : ∃ connection, (CVNConnection.system inetAddr).Reaches System.Always connection ∧
      table.Ordered ∧ table.Viewed connection := by
    apply reached.simulated fun table connection => table.Ordered ∧ table.Viewed connection
    · rintro _ rfl
      exact ⟨_, rfl, ordered_initial, viewed_initial⟩
    · rintro table label next connection ⟨ordered, viewed⟩ - stepped
      have after := ordered.step stepped
      rcases viewed.step ordered stepped with same | ⟨matched, other, otherStep, related⟩
      · exact .inl ⟨after, same⟩
      · exact .inr ⟨matched, other, otherStep, after, related⟩
  obtain ⟨connection, connectionReached, -, viewed⟩ := simulated
  exact ⟨connection, connectionReached, viewed⟩

end SendTable

end Foolject.VNClib
