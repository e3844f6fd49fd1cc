import Foolject.VNClib.SendTable

/-! The invariant of the send channels, and what an id that `VNConnect` returns stands for.

An entry is made before the attempt to connect and stays when the attempt fails, and it is found
again by its address alone. So an id is that of a connected channel only while attempts succeed
and hosts keep their ports.
-/

set_option autoImplicit false

namespace Foolject.VNClib
open Words

namespace SendTable

variable {table next : SendTable} {i : Nat} {host : Int} {inetAddr : CString → Int} {call : ConnectCall}

/-! ## The invariant -/

structure Ordered (table : SendTable) : Prop where
  count : table.sndCnt ≤ maxSendChan
  known : ∀ i < table.sndCnt, ∃ peer, table.sendChan i = some peer ∧ peer.addrPeer ≠ inaddrNone
  empty : ∀ i, table.sndCnt ≤ i → table.sendChan i = none
  distinct : ∀ i j one two, table.sendChan i = some one → table.sendChan j = some two →
    one.addrPeer = two.addrPeer → i = j

theorem ordered_initial : initial.Ordered where
  count := Nat.zero_le _
  known _ below := absurd below (Nat.not_lt_zero _)
  empty _ _ := rfl
  distinct _ _ _ _ there := by cases there

theorem Ordered.below (ordered : table.Ordered) {peer : Peer} (there : table.sendChan i = some peer) :
    i < table.sndCnt := by
  by_contra above
  rw [ordered.empty i (not_lt.mp above)] at there
  cases there

theorem Touches.channelAt {j : Nat} {two : Peer} (touches : Touches i table next)
    (there : next.sendChan j = some two) : ∃ one, table.sendChan j = some one ∧ one.SameTarget two := by
  obtain ⟨peer, after, before, same, changed, -⟩ := touches.channel
  rw [changed] at there
  by_cases here : j = i
  · subst here
    rw [Function.update_self] at there
    cases there
    exact ⟨peer, before, same⟩
  · rw [Function.update_of_ne here] at there
    exact ⟨two, there, rfl, rfl⟩

theorem Touches.channelAfter {j : Nat} {one : Peer} (touches : Touches i table next)
    (there : table.sendChan j = some one) : ∃ two, next.sendChan j = some two ∧ one.SameTarget two := by
  obtain ⟨peer, after, before, same, changed, -⟩ := touches.channel
  rw [changed]
  by_cases here : j = i
  · subst here
    rw [Function.update_self]
    cases before.symm.trans there
    exact ⟨after, rfl, same⟩
  · rw [Function.update_of_ne here]
    exact ⟨one, there, rfl, rfl⟩

theorem Ordered.touches (ordered : table.Ordered) (touches : Touches i table next) : next.Ordered where
  count := touches.count ▸ ordered.count
  known j below := by
    rw [touches.count] at below
    obtain ⟨one, there, known⟩ := ordered.known j below
    obtain ⟨two, now, same⟩ := touches.channelAfter there
    exact ⟨two, now, same.1 ▸ known⟩
  empty j above := by
    rw [touches.count] at above
    cases now : next.sendChan j with
    | none => rfl
    | some two =>
      obtain ⟨one, there, -⟩ := touches.channelAt now
      exact absurd (ordered.below there) (not_lt.mpr above)
  distinct j k one two there there' same := by
    obtain ⟨one', before, target⟩ := touches.channelAt there
    obtain ⟨two', before', target'⟩ := touches.channelAt there'
    exact ordered.distinct j k one' two' before before' (target.1.symm.trans (same.trans target'.1))

/-! ## The loop of VNConnect -/

inductive Found (table : SendTable) (host : Int) : Nat → Prop
  | entry {j : Nat} {peer : Peer} : table.sendChan j = some peer → peer.addrPeer = host → Found table host j
  | missing : (∀ j peer, table.sendChan j = some peer → peer.addrPeer ≠ host) → Found table host table.sndCnt

theorem Ordered.findPeer_from (ordered : table.Ordered) (left : Nat) :
    ∀ i, i + left = table.sndCnt → (∀ j peer, j < i → table.sendChan j = some peer → peer.addrPeer ≠ host) →
      ∃ j, table.findPeer host left i = some j ∧ Found table host j := by
  induction left with
  | zero =>
    intro i reached others
    refine ⟨i, rfl, ?_⟩
    have atEnd : i = table.sndCnt := reached
    subst atEnd
    exact .missing fun j peer there => others j peer (ordered.below there) there
  | succ left ih =>
    intro i reached others
    obtain ⟨peer, there, -⟩ := ordered.known i (by omega)
    rw [findPeer, there]
    by_cases same : peer.addrPeer = host
    · exact ⟨i, if_pos same, .entry there same⟩
    · obtain ⟨j, found, result⟩ := ih (i + 1) (by omega) fun j other below at_ => by
        rcases Nat.lt_succ_iff_lt_or_eq.mp below with earlier | rfl
        · exact others j other earlier at_
        · cases there.symm.trans at_
          exact same
      exact ⟨j, (if_neg same).trans found, result⟩

theorem Ordered.findPeer (ordered : table.Ordered) (host : Int) :
    ∃ j, table.findPeer host table.sndCnt 0 = some j ∧ Found table host j :=
  ordered.findPeer_from table.sndCnt 0 (Nat.zero_add _) fun _ _ below => absurd below (Nat.not_lt_zero _)

def attempted (table : SendTable) (host : Int) (call : ConnectCall) : Bool × SendTable :=
  { table with sndCnt := table.sndCnt + 1 }.channelConnect table.sndCnt host call.port call.attempt

inductive ConnectOutcome (inetAddr : CString → Int) (table : SendTable) (call : ConnectCall) :
    Int → SendTable → Prop
  | refused : peerLong inetAddr call = none → ConnectOutcome inetAddr table call (-1) table
  | known {host : Int} {j : Nat} {peer : Peer} : peerLong inetAddr call = some host →
      table.sendChan j = some peer → peer.addrPeer = host → ConnectOutcome inetAddr table call j table
  | full {host : Int} : peerLong inetAddr call = some host →
      (∀ j peer, table.sendChan j = some peer → peer.addrPeer ≠ host) → table.sndCnt = maxSendChan →
      ConnectOutcome inetAddr table call (-1) table
  | tried {host : Int} : peerLong inetAddr call = some host →
      (∀ j peer, table.sendChan j = some peer → peer.addrPeer ≠ host) → table.sndCnt ≠ maxSendChan →
      ConnectOutcome inetAddr table call (if (table.attempted host call).1 then table.sndCnt else -1)
        (table.attempted host call).2

theorem Ordered.vnConnect (ordered : table.Ordered) (inetAddr : CString → Int) (call : ConnectCall) :
    ∃ id next, table.vnConnect inetAddr call = some (id, next) ∧ ConnectOutcome inetAddr table call id next := by
  unfold SendTable.vnConnect
  cases asked : peerLong inetAddr call with
  | none => exact ⟨-1, table, rfl, .refused asked⟩
  | some host =>
    obtain ⟨j, found, result⟩ := ordered.findPeer host
    dsimp only
    rw [found]
    dsimp only
    cases result with
    | entry there same =>
      rw [if_neg (ordered.below there).ne]
      exact ⟨j, table, rfl, .known asked there same⟩
    | missing others =>
      rw [if_pos rfl]
      by_cases full : table.sndCnt = maxSendChan
      · rw [if_pos full]
        exact ⟨-1, table, rfl, .full asked others full⟩
      · rw [if_neg full]
        exact ⟨_, _, rfl, .tried asked others full⟩

theorem peerLong_known (asked : peerLong inetAddr call = some host) : host ≠ inaddrNone := by
  unfold peerLong at asked
  split at asked
  · cases asked
  · split at asked
    · cases asked
    · rename_i taken
      cases asked
      exact fun none => taken (.inr (.inr (.inr none)))

/-- What is in the table after the attempt: one more channel, to this host and port. -/
theorem Ordered.attempted (ordered : table.Ordered) (asked : peerLong inetAddr call = some host) :
    ∃ peer : Peer, peer.addrPeer = host ∧ peer.port = call.port ∧
      (table.attempted host call).2.sendChan = Function.update table.sendChan table.sndCnt (some peer) ∧
      (table.attempted host call).2.sndCnt = table.sndCnt + 1 ∧
      ((table.attempted host call).1 = true ↔ call.attempt = .message MsgType.control.code) ∧
      (table.attempted host call).2.connects = if (table.attempted host call).1 = true then
        (table.sndCnt, host, (call.port : Int)) :: table.connects else table.connects := by
  have known := peerLong_known asked
  have free : table.sendChan table.sndCnt = none := ordered.empty _ (le_refl _)
  obtain ⟨sameAddr, samePort⟩ := Peer.connect_target .new host call.port call.attempt
  obtain ⟨toAddr, toPort⟩ := Peer.withTarget_both .new known (show (call.port : Int) ≠ -1 by omega)
  have addr := sameAddr.trans toAddr
  have port := samePort.trans toPort
  unfold SendTable.attempted SendTable.channelConnect
  dsimp only
  rw [free, Option.getD_none]
  refine ⟨_, addr, port, ?_, ?_, Peer.connect_new known, ?_⟩
  · unfold note
    split
    · rfl
    · rfl
  · unfold note
    split
    · rfl
    · rfl
  · unfold note
    split
    · rw [addr, port]
      rfl
    · rfl

theorem Ordered.tried (ordered : table.Ordered) (asked : peerLong inetAddr call = some host)
    (others : ∀ j peer, table.sendChan j = some peer → peer.addrPeer ≠ host) (room : table.sndCnt ≠ maxSendChan) :
    (table.attempted host call).2.Ordered := by
  obtain ⟨peer, addr, -, chans, count, -⟩ := ordered.attempted asked
  have atNew : (table.attempted host call).2.sendChan table.sndCnt = some peer := by
    rw [chans, Function.update_self]
  have elsewhere : ∀ j ≠ table.sndCnt, (table.attempted host call).2.sendChan j = table.sendChan j :=
    fun j other => by rw [chans, Function.update_of_ne other]
  constructor
  · rw [count]
    exact lt_of_le_of_ne ordered.count room
  · intro j below
    by_cases here : j = table.sndCnt
    · subst here
      exact ⟨peer, atNew, addr ▸ peerLong_known asked⟩
    · rw [elsewhere j here]
      exact ordered.known j (by omega)
  · intro j above
    rw [elsewhere j (by omega)]
    exact ordered.empty j (by omega)
  · intro j k one two there there' same
    by_cases here : j = table.sndCnt
    · by_cases here' : k = table.sndCnt
      · rw [here, here']
      · rw [elsewhere k here'] at there'
        rw [here, atNew] at there
        cases there
        exact absurd (same.symm.trans addr) (others k two there')
    · rw [elsewhere j here] at there
      by_cases here' : k = table.sndCnt
      · rw [here', atNew] at there'
        cases there'
        exact absurd (same.trans addr) (others j one there)
      · rw [elsewhere k here'] at there'
        exact ordered.distinct j k one two there there' same

theorem Ordered.outcome {id : Int} (ordered : table.Ordered)
    (outcome : ConnectOutcome inetAddr table call id next) : next.Ordered := by
  cases outcome with
  | refused | known | full => exact ordered
  | tried asked others room => exact ordered.tried asked others room

/-- The three kinds of steps: a connect, a call that touches a channel, and the bulk disconnect. -/
theorem step_cases {order : ByteOrder} {label : Call} (ordered : table.Ordered)
    (stepped : step inetAddr order table label = some next) :
    (∃ call id, label = .connect call ∧ ConnectOutcome inetAddr table call id next) ∨
      next = table ∨ (∃ i, Touches i table next) ∨ next = initial := by
  cases label with
  | connect call =>
    obtain ⟨id, after, returned, outcome⟩ := ordered.vnConnect inetAddr call
    unfold step at stepped
    dsimp only at stepped
    rw [returned] at stepped
    cases stepped
    exact .inl ⟨call, id, rfl, outcome⟩
  | send connectionID srcQueueID desQueueID msg env =>
    unfold step at stepped
    dsimp only at stepped
    split at stepped
    · cases stepped
    · rename_i returns
      cases stepped
      rcases vnSendMsg_touches returns with same | touches
      · exact .inr (.inl same)
      · exact .inr (.inr (.inl touches))
  | disconnect =>
    cases stepped
    exact .inr (.inr (.inr rfl))
  | lost id =>
    obtain ⟨peer, there, rfl⟩ := Option.map_eq_some_iff.mp stepped
    exact .inr (.inr (.inl ⟨id, .put there ⟨rfl, rfl⟩⟩))

theorem Ordered.step {order : ByteOrder} {label : Call} (ordered : table.Ordered)
    (stepped : SendTable.step inetAddr order table label = some next) : next.Ordered := by
  rcases step_cases ordered stepped with ⟨call, id, -, outcome⟩ | rfl | ⟨i, touches⟩ | rfl
  · exact ordered.outcome outcome
  · exact ordered
  · exact ordered.touches touches
  · exact ordered_initial

theorem ordered_reached {order : ByteOrder} {guard : SendTable → Call → Prop}
    (reached : (system inetAddr order).Reaches guard table) : table.Ordered := by
  apply reached.invariant Ordered
  · rintro _ rfl
    exact ordered_initial
  · intro table label next ordered _ stepped
    exact ordered.step stepped

/-- The channels are those below the counter, each with a host of its own, so that no call of
`VNConnect` finds a null entry. -/
theorem sendTable_ordered {order : ByteOrder} (reached : (system inetAddr order).Reaches System.Always table) :
    table.sndCnt ≤ maxSendChan ∧
    (∀ i < table.sndCnt, ∃ peer, table.sendChan i = some peer ∧ peer.addrPeer ≠ inaddrNone) ∧
    (∀ i j one two, table.sendChan i = some one → table.sendChan j = some two →
      one.addrPeer = two.addrPeer → i = j) ∧
    (∀ i, table.sndCnt ≤ i → table.sendChan i = none) ∧
    ∀ call, ∃ id next, table.vnConnect inetAddr call = some (id, next) := by
  have ordered := ordered_reached reached
  refine ⟨ordered.count, ordered.known, ordered.distinct, ordered.empty, fun call => ?_⟩
  obtain ⟨id, next, returned, -⟩ := ordered.vnConnect inetAddr call
  exact ⟨id, next, returned⟩

def lengthAddr (host : CString) : Int := host.bytes.length

def callOf (port : Nat) (attempt : Attempt) : ConnectCall := ⟨some .empty, port, true, attempt⟩

theorem sendTable_ordered_twoHosts : ∃ table, (system lengthAddr .big).Reaches System.Always table ∧
    table.sndCnt = 2 ∧ ∀ i j one two, table.sendChan i = some one → table.sendChan j = some two →
      one.addrPeer = two.addrPeer → i = j := by
  -- Two hosts, of which the second one does not greet.
  have made : (system lengthAddr .big).Reaches System.Always initial := .start rfl
  obtain ⟨table, reached, count⟩ := made.follow_any
    [.connect (callOf 10 (.message MsgType.control.code)),
      .connect ⟨some ⟨[49], by decide⟩, 10, true, .timedOut⟩, .lost 0]
    (fun table => decide (table.sndCnt = 2)) (by decide +kernel)
  exact ⟨table, reached, of_decide_eq_true count, (sendTable_ordered reached).2.2.1⟩

/-! ## What an id stands for -/

/-- A non-negative result is the slot of a channel that has been connected to the host and port
since the last bulk disconnect; and a result of -1 leaves the counter and the slots. -/
def Truthful (inetAddr : CString → Int) (call : ConnectCall) (id : Int) (table next : SendTable) : Prop :=
  (0 ≤ id → ∃ host ∈ call.host, ∃ i : Nat, id = i ∧ (i, inetAddr host, (call.port : Int)) ∈ next.connects) ∧
  (id = -1 → next.sndCnt = table.sndCnt ∧ ∀ i, (next.sendChan i).isSome = (table.sendChan i).isSome)

/-- A host that has a slot is asked for with the port of its channel, and the attempt to connect a
new one succeeds, unless there is no room. -/
def Meets (inetAddr : CString → Int) (table : SendTable) (call : ConnectCall) : Prop :=
  ∀ host, peerLong inetAddr call = some host →
    (∀ i peer, table.sendChan i = some peer → peer.addrPeer = host → peer.port = call.port) ∧
    ((∀ i peer, table.sendChan i = some peer → peer.addrPeer ≠ host) →
      table.sndCnt = maxSendChan ∨ call.attempt = .message MsgType.control.code)

def Guard (inetAddr : CString → Int) (table : SendTable) : Call → Prop
  | .connect call => Meets inetAddr table call
  | _ => True

/-- The connects that are noted are those of the channels that are there, as they are. -/
def Noted (table : SendTable) : Prop :=
  ∀ i addr port, (i, addr, port) ∈ table.connects ↔
    ∃ peer, table.sendChan i = some peer ∧ peer.addrPeer = addr ∧ peer.port = port

theorem noted_initial : initial.Noted := by
  intro i addr port
  constructor
  · intro member
    cases member
  · rintro ⟨peer, there, -⟩
    cases there

theorem Noted.touches (noted : table.Noted) (touches : Touches i table next) : next.Noted := by
  obtain ⟨peer, after, there, same, changed, own⟩ := touches.channel
  intro j addr port
  constructor
  · intro member
    have before : ∃ one, table.sendChan j = some one ∧ one.addrPeer = addr ∧ one.port = port := by
      rcases own _ member with earlier | now
      · exact (noted j addr port).mp earlier
      · cases now
        exact ⟨peer, there, rfl, rfl⟩
    obtain ⟨one, at_, rfl, rfl⟩ := before
    obtain ⟨two, now, target⟩ := touches.channelAfter at_
    exact ⟨two, now, target⟩
  · rintro ⟨two, now, rfl, rfl⟩
    obtain ⟨one, at_, target⟩ := touches.channelAt now
    exact touches.kept _ ((noted j _ _).mpr ⟨one, at_, target.1.symm, target.2.symm⟩)

theorem peerLong_host (asked : peerLong inetAddr call = some host) : ∃ name ∈ call.host, inetAddr name = host := by
  unfold peerLong at asked
  split at asked
  · cases asked
  · rename_i name given
    split at asked
    · cases asked
    · cases asked
      exact ⟨name, given, rfl⟩

theorem Noted.outcome {id : Int} (noted : table.Noted) (ordered : table.Ordered) (meets : Meets inetAddr table call)
    (outcome : ConnectOutcome inetAddr table call id next) : next.Noted := by
  cases outcome with
  | refused | known | full => exact noted
  | tried asked others room =>
    obtain ⟨peer, addr, port, chans, -, succeeds, connects⟩ := ordered.attempted asked
    have success := succeeds.mpr (((meets _ asked).2 others).resolve_left room)
    rw [if_pos success] at connects
    intro j a p
    rw [connects, chans, List.mem_cons]
    by_cases here : j = table.sndCnt
    · subst here
      have unused : ¬ ∃ one, table.sendChan table.sndCnt = some one ∧ one.addrPeer = a ∧ one.port = p := by
        rintro ⟨one, there, -⟩
        exact absurd (ordered.below there) (Nat.lt_irrefl _)
      rw [Function.update_self, noted, or_iff_left unused]
      constructor
      · intro same
        cases same
        exact ⟨peer, rfl, addr, port⟩
      · rintro ⟨one, same, rfl, rfl⟩
        cases same
        rw [addr, port]
    · rw [Function.update_of_ne here, noted]
      refine or_iff_right fun same => here ?_
      exact congrArg Prod.fst same

theorem noted_reached {order : ByteOrder} (reached : (system inetAddr order).Reaches (Guard inetAddr) table) :
    table.Ordered ∧ table.Noted := by
  apply reached.invariant fun table => table.Ordered ∧ table.Noted
  · rintro _ rfl
    exact ⟨ordered_initial, noted_initial⟩
  · rintro table label next ⟨ordered, noted⟩ guarded stepped
    refine ⟨ordered.step stepped, ?_⟩
    rcases step_cases ordered stepped with ⟨call, id, rfl, outcome⟩ | rfl | ⟨i, touches⟩ | rfl
    · exact noted.outcome ordered guarded outcome
    · exact noted
    · exact noted.touches touches
    · exact noted_initial

theorem truthful_unchanged : Truthful inetAddr call (-1) table table :=
  ⟨fun connected => absurd connected (by decide), fun _ => ⟨rfl, fun _ => rfl⟩⟩

theorem Noted.truthful_known (noted : table.Noted) (ordered : table.Ordered) {peer : Peer}
    (asked : peerLong inetAddr call = some host) (there : table.sendChan i = some peer) (same : peer.addrPeer = host) :
    Truthful inetAddr call i table table ↔ Meets inetAddr table call := by
  -- The id of a channel that is there is the truth if its port is the one asked for.
  constructor
  · rintro ⟨connected, -⟩ host' again
    cases asked.symm.trans again
    obtain ⟨name, given, j, sameSlot, member⟩ := connected (Int.natCast_nonneg i)
    obtain rfl : i = j := Int.ofNat.inj sameSlot
    -- What is noted of the slot is its host and its port.
    obtain ⟨one, now, -, port⟩ := (noted _ _ _).mp member
    cases there.symm.trans now
    refine ⟨fun k two there' same' => ?_, fun others => absurd same (others i peer there)⟩
    obtain rfl := ordered.distinct k i two peer there' there (same'.trans same.symm)
    cases there.symm.trans there'
    exact port
  · intro meets
    obtain ⟨name, given, addr⟩ := peerLong_host asked
    have port := (meets host asked).1 i peer there same
    refine ⟨fun _ => ⟨name, given, i, rfl, ?_⟩, fun none => by omega⟩
    exact (noted _ _ _).mpr ⟨peer, there, same.trans addr.symm, port⟩

theorem Ordered.truthful_tried (ordered : table.Ordered) (asked : peerLong inetAddr call = some host)
    (others : ∀ j peer, table.sendChan j = some peer → peer.addrPeer ≠ host) (room : table.sndCnt ≠ maxSendChan) :
    Truthful inetAddr call (if (table.attempted host call).1 then table.sndCnt else -1) table
      (table.attempted host call).2 ↔ Meets inetAddr table call := by
  -- What a new entry stands for is the truth if its attempt succeeds.
  obtain ⟨-, -, -, -, count, succeeds, connects⟩ := ordered.attempted asked
  have meets_iff : Meets inetAddr table call ↔ (table.attempted host call).1 = true := by
    rw [succeeds]
    constructor
    · exact fun meets => ((meets host asked).2 others).resolve_left room
    · intro success host' again
      cases asked.symm.trans again
      exact ⟨fun j peer there same => absurd same (others j peer there), fun _ => .inr success⟩
  rw [meets_iff]
  by_cases success : (table.attempted host call).1 = true
  · rw [if_pos success] at connects ⊢
    obtain ⟨name, given, same⟩ := peerLong_host asked
    refine iff_of_true ⟨fun _ => ⟨name, given, table.sndCnt, rfl, ?_⟩, fun none => by omega⟩ success
    rw [connects, same]
    exact List.mem_cons_self
  · rw [if_neg success]
    refine iff_of_false ?_ success
    -- The failed attempt returns -1 and has moved the counter.
    rintro ⟨-, unchanged⟩
    have same := (unchanged rfl).1
    rw [count] at same
    omega

/-- After calls that all met the condition, `VNConnect` tells the truth exactly if it meets it too. -/
theorem vnConnect_truthful {order : ByteOrder} (reached : (system inetAddr order).Reaches (Guard inetAddr) table)
    (call : ConnectCall) :
    ∃ id next, table.vnConnect inetAddr call = some (id, next) ∧
      (Truthful inetAddr call id table next ↔ Meets inetAddr table call) := by
  obtain ⟨ordered, noted⟩ := noted_reached reached
  obtain ⟨id, next, returned, outcome⟩ := ordered.vnConnect inetAddr call
  refine ⟨id, next, returned, ?_⟩
  cases outcome with
  | refused none =>
    refine iff_of_true truthful_unchanged fun host asked => ?_
    cases none.symm.trans asked
  | full asked others full =>
    refine iff_of_true truthful_unchanged fun host again => ?_
    cases asked.symm.trans again
    exact ⟨fun j peer there same => absurd same (others j peer there), fun _ => .inl full⟩
  | known asked there same => exact noted.truthful_known ordered asked there same
  | tried asked others room => exact ordered.truthful_tried asked others room

theorem meets_of_below (ordered : table.Ordered) (below : ∀ host ∈ peerLong inetAddr call,
    (∀ i < table.sndCnt, ∀ peer ∈ table.sendChan i, peer.addrPeer = host → peer.port = call.port) ∧
    ((∀ i < table.sndCnt, ∀ peer ∈ table.sendChan i, peer.addrPeer ≠ host) →
      table.sndCnt = maxSendChan ∨ call.attempt = .message MsgType.control.code)) : Meets inetAddr table call := by
  intro host asked
  obtain ⟨ports, new⟩ := below host asked
  refine ⟨fun i peer there => ports i (ordered.below there) peer there, fun others => ?_⟩
  exact new fun i _ peer there => others i peer there

theorem vnConnect_truthful_twoHosts : ∃ table id next, (system lengthAddr .big).Reaches (Guard lengthAddr) table ∧
    table.sndCnt = 2 ∧ table.vnConnect lengthAddr (callOf 10 .notOpened) = some (id, next) ∧
    Truthful lengthAddr (callOf 10 .notOpened) id table next := by
  -- Two hosts, of which the first is lost and asked for again.
  let greeted : Attempt := .message MsgType.control.code
  let other : ConnectCall := ⟨some ⟨[49], by decide⟩, 20, true, greeted⟩
  have made : (system lengthAddr .big).Reaches (Guard lengthAddr) initial := .start rfl
  have one := made.next (show Guard lengthAddr initial (.connect (callOf 10 greeted)) from
    meets_of_below (noted_reached made).1 (by decide)) rfl
  have two := one.next (show Guard lengthAddr _ (.connect other) from
    meets_of_below (noted_reached one).1 (by decide)) rfl
  have lost := two.next (show Guard lengthAddr _ (.lost 0) from trivial) rfl
  obtain ⟨id, next, returned, truthful⟩ := vnConnect_truthful lost (callOf 10 .notOpened)
  exact ⟨_, id, next, lost, rfl, returned, truthful.mpr (meets_of_below (noted_reached lost).1 (by decide))⟩

theorem vnConnect_lies :
    (∃ next, initial.vnConnect lengthAddr (callOf 10 .notOpened) = some (-1, next) ∧
      ¬ Truthful lengthAddr (callOf 10 .notOpened) (-1) initial next) ∧
    ∃ table, (system lengthAddr .big).Reaches System.Always table ∧
      ∃ next, table.vnConnect lengthAddr (callOf 11 .notOpened) = some (0, next) ∧
        ¬ Truthful lengthAddr (callOf 11 .notOpened) 0 table next := by
  -- A connect that fails leaves its entry, and the next one to the host returns it.
  constructor
  · refine ⟨_, rfl, fun truthful => ?_⟩
    exact absurd (truthful.2 rfl).1 (by decide)
  · have made : (system lengthAddr .big).Reaches System.Always initial := .start rfl
    have stepped : (system lengthAddr .big).step initial (.connect (callOf 10 .notOpened))
        ⟨Function.update initial.sendChan 0 (some ⟨false, 0, 10⟩), 1, []⟩ := rfl
    refine ⟨_, made.next trivial stepped, _, rfl, fun truthful => ?_⟩
    obtain ⟨host, -, i, -, member⟩ := truthful.1 (le_refl 0)
    cases member

end SendTable

end Foolject.VNClib
