import Foolject.VNClib.AddParam
import Foolject.VNClib.Listener

/-! To whom a reply goes.

`ServRecvThreadProc` stamps the id of its slot on the messages that it queues, and
`VNSendReplyMsg` finds the channel by that id, when the message has waited and the slot may be
another client's. Its test of the id is that of the table of send channels, which is shorter.
-/

set_option autoImplicit false

namespace Foolject.VNClib
open Words

/-! ## A reply -/

/-- `rs` is absent if the call never returns. `sent` is what each connection has been handed. -/
structure Reply where
  rs : Option Int
  sent : List (Nat × List UInt8)
  listener : Listener

namespace Listener

/-- The last index that it lets pass is behind the array. -/
def returnChannelPointer (listener : Listener) (chanID : Nat) : Option RecvChan :=
  if maxRecvChan < chanID then none else listener.recvChan chanID

def put (listener : Listener) (chanID : Nat) (chan : RecvChan) : Listener :=
  { listener with recvChan := Function.update listener.recvChan chanID (some chan) }

def socketOf (listener : Listener) (chanID : Nat) : Option Nat := (listener.recvChan chanID).bind RecvChan.socket

def vnSendReplyMsg (host : ByteOrder) (listener : Listener) (connectionID : Int) (srcQueueID desQueueID : Nat)
    (msg : CVNNetMsg) (answers : List SendAnswer) : Reply :=
  if connectionID < 0 ∨ maxSendChan ≤ connectionID then ⟨some RSINFO.failed.code, [], listener⟩
  else if maxQueueCnt ≤ srcQueueID ∨ maxQueueCnt ≤ desQueueID then ⟨some RSINFO.failed.code, [], listener⟩
  else
    match listener.returnChannelPointer connectionID.toNat with
    | none => ⟨some RSINFO.failed.code, [], listener⟩
    | some chan =>
      let msg := (msg.setSrcQueueID host srcQueueID).setDesQueueID host desQueueID
      match chan.sendMsg msg answers with
      | .blocked => ⟨none, chan.socket.toList.map fun k => (k, handedOver answers msg.getBuffer), listener⟩
      | .returned rc sent _ =>
        ⟨some (if 0 < rc then RSINFO.success.code else rc), chan.socket.toList.map fun k => (k, sent.written),
          listener.put connectionID.toNat (chan.behind sent.valid)⟩

/-- `ReduceAFreeChannel` and the start of the thread for the channel. The socket that `accept` gives
is that of the connection with this number, and the greeting is sent on it. -/
def accept (listener : Listener) (number : Nat) (heap : Memory) (accepted : Bool) (answers : List SendAnswer) :
    Option Listener :=
  let free := listener.threads.slots.headerFree
  (listener.threads.step (.accept accepted)).bind fun threads =>
    if accepted = true ∧ free < maxRecvChan then
      match (RecvChan.mk (some number)).sendMsg (.ofType heap .control) answers with
      | .blocked => none
      | .returned _ sent _ =>
        some ({ listener with threads := threads }.put free ((RecvChan.mk (some number)).behind sent.valid))
    else some { listener with threads := threads }

end Listener

/-! ## Runs -/

inductive ServEvent where
  | listen (port : Nat) (qg : Option Nat) (env : ListenEnv)
  | setVNCQueue (qg : Option Nat)
  | accept (heap : Memory) (accepted : Bool) (answers : List SendAnswer)
  /-- `RecvMsg` gives the thread of this slot a message; `inserted` is what `insertMsg` returns. -/
  | message (chanID : Nat) (msg : CVNNetMsg) (inserted : Bool)
  /-- `RecvMsg` fails and closes the socket. -/
  | closed (chanID : Nat)
  | ended (chanID : Nat)
  | reply (connectionID : Int) (srcQueueID desQueueID : Nat) (msg : CVNNetMsg) (answers : List SendAnswer)
  | haltServer

/-- `queued` are all the messages that were ever queued, with the connections they came on. -/
structure Serving where
  listener : Listener
  /-- The number of the next connection. -/
  number : Nat
  queued : List (CVNNetMsg × Nat)

namespace Serving

def step (host : ByteOrder) (serving : Serving) : ServEvent → Option Serving
  | .listen port qg env => some { serving with listener := (serving.listener.vnListen port qg env).2 }
  | .setVNCQueue qg => some { serving with listener := { serving.listener with queueGroup := qg } }
  | .accept heap accepted answers =>
    if serving.listener.thrdLisn = false then none
    else
      (serving.listener.accept serving.number heap accepted answers).map fun listener =>
        { serving with listener := listener, number := serving.number + 1 }
  | .message chanID msg inserted =>
    match serving.listener.socketOf chanID, serving.listener.queueGroup with
    | some k, some _ =>
      some { serving with
        queued := if inserted then serving.queued ++ [(msg.setConnectionID chanID, k)] else serving.queued }
    -- The group is not tested: without one the thread has no defined step.
    | _, _ => none
  | .closed chanID =>
    if (serving.listener.socketOf chanID).isSome then
      some { serving with listener := serving.listener.put chanID ⟨none⟩ }
    else none
  | .ended chanID =>
    if serving.listener.socketOf chanID = none then
      (serving.listener.threads.step (.ended chanID)).map fun threads =>
        { serving with listener := { serving.listener with threads := threads } }
    else none
  | .reply connectionID srcQueueID desQueueID msg answers =>
    let reply := serving.listener.vnSendReplyMsg host connectionID srcQueueID desQueueID msg answers
    reply.rs.map fun _ => { serving with listener := reply.listener }
  | .haltServer => some { serving with listener := serving.listener.clearListenerHandle }

def system (host : ByteOrder) : System Serving ServEvent :=
  .ofStep (fun serving => serving = ⟨.initialConnection, 0, []⟩) (step host)

end Serving

/-! ## One reply -/

theorem handedOver_nil (answers : List SendAnswer) : handedOver answers [] = [] := by
  cases answers with
  | nil => rfl
  | cons answer _ =>
    cases answer with
    | selectError | timeout | sendError | sent => rfl

theorem sendLoop_handedOver {answers left : List SendAnswer} {rc rc' : Int} {accepted accepted' rest : List UInt8}
    (ends : sendLoop answers rc accepted rest = .ends rc' accepted' left) :
    accepted' = accepted ++ handedOver answers rest := by
  fun_induction sendLoop answers rc accepted rest with
  | case1 =>
    cases ends
    rw [handedOver_nil, List.append_nil]
  | case2 => cases ends
  | case3 | case4 | case5 =>
    cases ends
    exact (List.append_nil _).symm
  | case6 answers rc accepted next rest offered count ih =>
    rw [ih ends, List.append_assoc]
    rfl

theorem RecvChan.sendMsg_handedOver {chan : RecvChan} {k : Nat} {msg : CVNNetMsg} {answers left : List SendAnswer}
    {rc : Int} {sent : CVNChannel} (valid : chan.socket = some k)
    (returns : chan.sendMsg msg answers = .returned rc sent left) :
    sent.written = handedOver answers msg.getBuffer := by
  unfold sendMsg CVNChannel.sendMsg at returns
  rw [valid, Option.isSome_some, if_neg (by decide)] at returns
  split at returns
  · cases returns
  · rename_i core
    cases returns
    exact sendLoop_handedOver core

theorem RecvChan.behind_socket {chan : RecvChan} {valid : Bool} {k : Nat}
    (held : (chan.behind valid).socket = some k) : chan.socket = some k := by
  unfold behind at held
  cases valid with
  | true => exact held
  | false => cases held

namespace Listener

variable {host : ByteOrder} {listener next : Listener} {id srcQueueID desQueueID : Nat} {msg : CVNNetMsg}
  {answers : List SendAnswer}

theorem vnSendReplyMsg_above (above : maxSendChan ≤ id) :
    listener.vnSendReplyMsg host id srcQueueID desQueueID msg answers = ⟨some RSINFO.failed.code, [], listener⟩ :=
  if_pos (.inr (Int.ofNat_le.mpr above))

theorem returnChannelPointer_below (below : id < maxSendChan) :
    listener.returnChannelPointer id = listener.recvChan id := if_neg (not_lt.mpr (below.le.trans (by decide)))

theorem vnSendReplyMsg_below (below : id < maxSendChan) (src : srcQueueID < maxQueueCnt)
    (des : desQueueID < maxQueueCnt) :
    listener.vnSendReplyMsg host id srcQueueID desQueueID msg answers =
      match listener.recvChan id with
      | none => ⟨some RSINFO.failed.code, [], listener⟩
      | some chan =>
        let msg := (msg.setSrcQueueID host srcQueueID).setDesQueueID host desQueueID
        match chan.sendMsg msg answers with
        | .blocked => ⟨none, chan.socket.toList.map fun k => (k, handedOver answers msg.getBuffer), listener⟩
        | .returned rc sent _ =>
          ⟨some (if 0 < rc then RSINFO.success.code else rc), chan.socket.toList.map fun k => (k, sent.written),
            listener.put id (chan.behind sent.valid)⟩ := by
  unfold vnSendReplyMsg
  rw [if_neg (not_or.mpr ⟨by omega, not_le.mpr (Int.ofNat_lt.mpr below)⟩),
    if_neg (not_or.mpr ⟨not_le.mpr src, not_le.mpr des⟩), Int.toNat_natCast, returnChannelPointer_below below]

theorem vnSendReplyMsg_none (below : id < maxSendChan) (src : srcQueueID < maxQueueCnt)
    (des : desQueueID < maxQueueCnt) (closed : listener.socketOf id = none) :
    (listener.vnSendReplyMsg host id srcQueueID desQueueID msg answers).rs = some RSINFO.failed.code ∧
      (listener.vnSendReplyMsg host id srcQueueID desQueueID msg answers).sent = [] := by
  rw [vnSendReplyMsg_below below src des]
  unfold socketOf at closed
  cases channel : listener.recvChan id with
  | none => exact ⟨rfl, rfl⟩
  | some chan =>
    rw [channel, Option.bind_some] at closed
    have refused (msg : CVNNetMsg) :
        chan.sendMsg msg answers = .returned RSINFO.failed.code ⟨false, [], []⟩ answers := by
      unfold RecvChan.sendMsg CVNChannel.sendMsg
      rw [closed, if_pos (by rfl)]
      rfl
    dsimp only
    rw [refused, closed]
    exact ⟨rfl, rfl⟩

theorem vnSendReplyMsg_some {k : Nat} (below : id < maxSendChan) (src : srcQueueID < maxQueueCnt)
    (des : desQueueID < maxQueueCnt) (valid : listener.socketOf id = some k) :
    (listener.vnSendReplyMsg host id srcQueueID desQueueID msg answers).sent =
      [(k, handedOver answers ((msg.setSrcQueueID host srcQueueID).setDesQueueID host desQueueID).getBuffer)] := by
  rw [vnSendReplyMsg_below below src des]
  obtain ⟨chan, channel, socket⟩ := Option.bind_eq_some_iff.mp valid
  rw [channel]
  dsimp only
  cases sending : chan.sendMsg ((msg.setSrcQueueID host srcQueueID).setDesQueueID host desQueueID) answers with
  | blocked => exact congrArg (List.map _ ·.toList) socket
  | returned rc sent left =>
    dsimp only
    rw [socket, RecvChan.sendMsg_handedOver socket sending]
    rfl

/-! ## What a step does to the sockets -/

structure Closes (listener next : Listener) : Prop where
  conserved : (∃ trace free, RecvSlots.Conserved trace listener.threads free) →
    ∃ trace free, RecvSlots.Conserved trace next.threads free
  sockets : ∀ c k, next.socketOf c = some k → listener.socketOf c = some k
  used : ∀ c, (next.socketOf c).isSome → c ∈ listener.threads.used → c ∈ next.threads.used

theorem socketOf_put (listener : Listener) (id : Nat) (chan : RecvChan) (c : Nat) :
    (listener.put id chan).socketOf c = if c = id then chan.socket else listener.socketOf c := by
  unfold socketOf put
  dsimp only
  rw [Function.update_apply]
  split
  · rfl
  · rfl

theorem Closes.same (threads : next.threads = listener.threads) (recvChan : next.recvChan = listener.recvChan) :
    listener.Closes next where
  conserved kept := threads ▸ kept
  sockets c k held := by
    unfold socketOf at held ⊢
    rwa [recvChan] at held
  used c _ member := threads ▸ member

theorem Closes.cleared (threads : next.threads = ⟨RecvSlots.clearListenerHandle, []⟩)
    (recvChan : next.recvChan = fun _ => none) : listener.Closes next where
  conserved _ := ⟨_, _, threads ▸ RecvSlots.conserved_halted []⟩
  sockets c k held := by
    unfold socketOf at held
    rw [recvChan] at held
    cases held
  used c held _ := by
    unfold socketOf at held
    rw [recvChan] at held
    cases held

theorem Closes.put {chan : RecvChan} (within : ∀ k, chan.socket = some k → listener.socketOf id = some k) :
    listener.Closes (listener.put id chan) where
  conserved kept := kept
  sockets c k held := by
    rw [socketOf_put] at held
    split at held
    · rename_i same
      subst same
      exact within k held
    · exact held
  used _ _ member := member

theorem Closes.vnListen (port : Nat) (qg : Option Nat) (env : ListenEnv) :
    listener.Closes (listener.vnListen port qg env).2 := by
  unfold Listener.vnListen
  dsimp only
  split
  · exact .same rfl rfl
  · split
    · exact .same rfl rfl
    · split
      · exact .cleared rfl rfl
      · split
        · exact .cleared rfl rfl
        · split
          · exact .same rfl rfl
          · exact .same rfl rfl

theorem Closes.ended {threads : RecvSlots.Server} (closed : listener.socketOf id = none)
    (stepped : listener.threads.step (.ended id) = some threads) :
    listener.Closes { listener with threads := threads } where
  conserved := by
    rintro ⟨trace, free, conserved⟩
    obtain ⟨free, after⟩ := conserved.ended stepped
    exact ⟨_, free, after⟩
  sockets _ _ held := held
  used c held member := by
    obtain ⟨-, given⟩ := Option.ite_none_right_eq_some.mp stepped
    cases given
    -- The slot that is given back has no socket.
    have other : c ≠ id := by
      rintro rfl
      change (listener.socketOf c).isSome = true at held
      rw [closed] at held
      cases held
    exact (List.mem_erase_of_ne other).mpr member

theorem Closes.reply (connectionID : Int) :
    listener.Closes (listener.vnSendReplyMsg host connectionID srcQueueID desQueueID msg answers).listener := by
  unfold vnSendReplyMsg
  split
  · exact .same rfl rfl
  · split
    · exact .same rfl rfl
    · split
      · exact .same rfl rfl
      · rename_i chan found
        have there : listener.recvChan connectionID.toNat = some chan :=
          (Option.ite_none_left_eq_some.mp found).2
        dsimp only
        split
        · exact .same rfl rfl
        · refine .put fun k held => ?_
          unfold socketOf
          rw [there]
          exact RecvChan.behind_socket held

theorem reduceAFreeChannel_accepted (slots : RecvSlots) :
    (slots.reduceAFreeChannel true).1 = slots.headerFree := by
  unfold RecvSlots.reduceAFreeChannel
  dsimp only
  rw [if_neg (by decide)]
  split
  · split
    · rfl
    · rfl
  · rfl

/-- An accept that returns leaves all as it was, or puts a channel into the slot it takes. -/
theorem accept_cases {number : Nat} {heap : Memory} {accepted : Bool}
    (returns : listener.accept number heap accepted answers = some next) :
    ∃ threads, listener.threads.step (.accept accepted) = some threads ∧
      (next = { listener with threads := threads } ∧ threads.used = listener.threads.used ∨
        ∃ free chan, free = listener.threads.slots.headerFree ∧ free < maxRecvChan ∧
          threads.used = free :: listener.threads.used ∧ (∀ k, chan.socket = some k → k = number) ∧
          next = { listener with threads := threads }.put free chan) := by
  unfold accept at returns
  obtain ⟨threads, stepped, returns⟩ := Option.bind_eq_some_iff.mp returns
  refine ⟨threads, stepped, ?_⟩
  have taken := Option.some.inj stepped
  cases accepted with
  | false =>
    cases returns
    refine .inl ⟨rfl, ?_⟩
    rw [← taken]
    rfl
  | true =>
    rw [reduceAFreeChannel_accepted] at taken
    by_cases valid : listener.threads.slots.headerFree < maxRecvChan
    · rw [if_pos valid] at taken
      rw [if_pos ⟨rfl, valid⟩] at returns
      cases greeting : (RecvChan.mk (some number)).sendMsg (.ofType heap .control) answers with
      | blocked =>
        rw [greeting] at returns
        cases returns
      | returned rc sent left =>
        rw [greeting] at returns
        refine .inr ⟨_, (RecvChan.mk (some number)).behind sent.valid, rfl, valid, ?_, fun k held => ?_, ?_⟩
        · rw [← taken]
        · exact (Option.some.inj (RecvChan.behind_socket held)).symm
        · exact (Option.some.inj returns).symm
    · rw [if_neg valid] at taken
      rw [if_neg fun both => valid both.2] at returns
      refine .inl ⟨(Option.some.inj returns).symm, ?_⟩
      rw [← taken]

end Listener

namespace Serving

variable {host : ByteOrder} {serving next : Serving}

/-- A connection is held by one slot at most. The slot of a channel with a socket is in use, and a message that
was queued has the id of the slot that holds its connection, if any slot still does. -/
structure Inv (serving : Serving) : Prop where
  conserved : ∃ trace free, RecvSlots.Conserved trace serving.listener.threads free
  held : ∀ c k, serving.listener.socketOf c = some k → c ∈ serving.listener.threads.used ∧ k < serving.number
  distinct : ∀ c d k, serving.listener.socketOf c = some k → serving.listener.socketOf d = some k → c = d
  queued : ∀ msg k, (msg, k) ∈ serving.queued → k < serving.number ∧
    ∃ c : Nat, msg.getConnectionID = c ∧ ∀ d, serving.listener.socketOf d = some k → d = c

theorem Inv.closes (inv : serving.Inv) {listener : Listener} (closes : serving.listener.Closes listener) :
    Inv { serving with listener := listener } where
  conserved := closes.conserved inv.conserved
  held c k now := by
    obtain ⟨used, counted⟩ := inv.held c k (closes.sockets c k now)
    exact ⟨closes.used c (Option.isSome_of_eq_some now) used, counted⟩
  distinct c d k one two := inv.distinct c d k (closes.sockets c k one) (closes.sockets d k two)
  queued msg k member := by
    obtain ⟨counted, c, id, only⟩ := inv.queued msg k member
    exact ⟨counted, c, id, fun d now => only d (closes.sockets d k now)⟩

theorem getConnectionID_setConnectionID (msg : CVNNetMsg) {c : Nat} (small : c < maxRecvChan) :
    (msg.setConnectionID c).getConnectionID = c := by
  have stored : ((msg.setConnectionID c).getConnectionID) = (c : Int) % 256 ^ 2 :=
    CVNNetMsg.getField_setField_self _ _ _
  rw [stored]
  simp only [maxRecvChan] at small
  omega

theorem Inv.accept (inv : serving.Inv) {heap : Memory} {accepted : Bool} {answers : List SendAnswer}
    {listener : Listener}
    (returns : serving.listener.accept serving.number heap accepted answers = some listener) :
    Inv { serving with listener := listener, number := serving.number + 1 } := by
  -- The new connection has a number that no slot holds and no message has.
  obtain ⟨threads, stepped, became⟩ := Listener.accept_cases returns
  obtain ⟨trace, free, conserved⟩ := inv.conserved
  obtain ⟨free', after⟩ := conserved.accept accepted stepped
  rcases became with ⟨rfl, used⟩ | ⟨slot, chan, header, valid, used, own, rfl⟩
  · refine ⟨⟨_, free', after⟩, fun c k now => ?_, inv.distinct, fun msg k member => ?_⟩
    · obtain ⟨member, counted⟩ := inv.held c k now
      exact ⟨used ▸ member, Nat.lt_succ_of_lt counted⟩
    · obtain ⟨counted, rest⟩ := inv.queued msg k member
      exact ⟨Nat.lt_succ_of_lt counted, rest⟩
  -- What holds a connection that is not the new one held it before.
  have before : ∀ c k, ({ serving.listener with threads := threads }.put slot chan).socketOf c = some k →
      (c = slot ∧ k = serving.number) ∨ (c ≠ slot ∧ serving.listener.socketOf c = some k) := by
    intro c k now
    rw [Listener.socketOf_put] at now
    split at now
    · rename_i same
      exact .inl ⟨same, own k now⟩
    · rename_i other
      exact .inr ⟨other, now⟩
  refine ⟨⟨_, free', after⟩, fun c k now => ?_, fun c d k one two => ?_, fun msg k member => ?_⟩
  · change c ∈ threads.used ∧ _
    rw [used]
    rcases before c k now with ⟨rfl, rfl⟩ | ⟨-, held⟩
    · exact ⟨List.mem_cons_self, Nat.lt_succ_self _⟩
    · obtain ⟨member, counted⟩ := inv.held c k held
      exact ⟨List.mem_cons_of_mem _ member, Nat.lt_succ_of_lt counted⟩
  · rcases before c k one with ⟨rfl, rfl⟩ | ⟨-, heldOne⟩
    · rcases before d _ two with ⟨rfl, -⟩ | ⟨-, heldTwo⟩
      · rfl
      · exact absurd (inv.held d _ heldTwo).2 (Nat.lt_irrefl _)
    · rcases before d k two with ⟨-, rfl⟩ | ⟨-, heldTwo⟩
      · exact absurd (inv.held c _ heldOne).2 (Nat.lt_irrefl _)
      · exact inv.distinct c d k heldOne heldTwo
  · obtain ⟨counted, c, id, only⟩ := inv.queued msg k member
    refine ⟨Nat.lt_succ_of_lt counted, c, id, fun d now => ?_⟩
    rcases before d k now with ⟨-, rfl⟩ | ⟨-, held⟩
    · exact absurd counted (Nat.lt_irrefl _)
    · exact only d held

theorem Inv.message (inv : serving.Inv) {c k : Nat} (msg : CVNNetMsg)
    (here : serving.listener.socketOf c = some k) :
    Inv { serving with queued := serving.queued ++ [(msg.setConnectionID c, k)] } where
  conserved := inv.conserved
  held := inv.held
  distinct := inv.distinct
  queued msg' k' member := by
  -- The message has the number of the connection that the slot holds.
    rcases List.mem_append.mp member with before | last
    · exact inv.queued msg' k' before
    · cases List.mem_singleton.mp last
      obtain ⟨used, counted⟩ := inv.held c k here
      obtain ⟨trace, free, conserved⟩ := inv.conserved
      have valid := conserved.valid c (List.mem_append_right _ used)
      exact ⟨counted, c, getConnectionID_setConnectionID msg valid, fun d now => inv.distinct d c k now here⟩

theorem Inv.step (inv : serving.Inv) {event : ServEvent} (stepped : serving.step host event = some next) :
    next.Inv := by
  cases event with
  | listen port qg env =>
    cases stepped
    exact inv.closes (.vnListen port qg env)
  | setVNCQueue qg =>
    cases stepped
    exact inv.closes (.same rfl rfl)
  | accept heap accepted answers =>
    obtain ⟨-, stepped⟩ := Option.ite_none_left_eq_some.mp stepped
    obtain ⟨listener, returns, rfl⟩ := Option.map_eq_some_iff.mp stepped
    exact inv.accept returns
  | message chanID msg inserted =>
    dsimp only [Serving.step] at stepped
    split at stepped
    · rename_i here _
      cases stepped
      cases inserted with
      | true => exact inv.message msg here
      | false => exact inv
    · cases stepped
  | closed chanID =>
    obtain ⟨-, became⟩ := Option.ite_none_right_eq_some.mp stepped
    cases became
    exact inv.closes (.put nofun)
  | ended chanID =>
    obtain ⟨closed, stepped⟩ := Option.ite_none_right_eq_some.mp stepped
    obtain ⟨threads, ended, rfl⟩ := Option.map_eq_some_iff.mp stepped
    exact inv.closes (.ended closed ended)
  | reply connectionID srcQueueID desQueueID msg answers =>
    obtain ⟨rs, -, rfl⟩ := Option.map_eq_some_iff.mp stepped
    exact inv.closes (.reply connectionID)
  | haltServer =>
    cases stepped
    exact inv.closes (.cleared rfl rfl)

theorem inv_reached (reached : (system host).Reaches System.Always serving) : serving.Inv := by
  -- The induction is on the run.
  apply reached.invariant Inv
  · rintro serving rfl
    exact ⟨⟨_, _, RecvSlots.conserved_initial⟩, nofun, nofun, nofun⟩
  · intro serving event next inv _ stepped
    exact inv.step stepped

end Serving

/-! ## Replies to messages that were queued -/

namespace Listener

def Holds (listener : Listener) (k : Nat) : Prop := ∃ c, listener.socketOf c = some k

/-- Every reply to a message with this id that came on connection `k` is sent on that connection while it is
open, and fails without a byte to any client when it is not. -/
def RepliesTo (host : ByteOrder) (listener : Listener) (id : Int) (k : Nat) : Prop :=
  ∀ (srcQueueID desQueueID : Nat) (msg : CVNNetMsg) (answers : List SendAnswer),
    srcQueueID < maxQueueCnt → desQueueID < maxQueueCnt →
    let frame := ((msg.setSrcQueueID host srcQueueID).setDesQueueID host desQueueID).getBuffer
    let reply := listener.vnSendReplyMsg host id srcQueueID desQueueID msg answers
    (listener.Holds k → reply.sent = [(k, handedOver answers frame)]) ∧
      (¬ listener.Holds k → (∃ code < 0, reply.rs = some code) ∧ ∀ piece ∈ reply.sent, piece.2 = [])

end Listener

namespace Serving

variable {host : ByteOrder} {serving : Serving} {msg : CVNNetMsg} {k : Nat}

/-- In every state that is reached, the replies to a queued message go to the client that asked or nowhere,
exactly if its id is below the number of send channels while that client is connected, and if it is not below
that number or its slot has no open socket once that client is gone. -/
theorem reply_goesToAsker (reached : (system host).Reaches System.Always serving) (waits : (msg, k) ∈ serving.queued) :
    serving.listener.RepliesTo host msg.getConnectionID k ↔
      (serving.listener.Holds k → msg.getConnectionID < maxSendChan) ∧
      (¬ serving.listener.Holds k →
        maxSendChan ≤ msg.getConnectionID ∨ serving.listener.socketOf msg.getConnectionID.toNat = none) := by
  obtain ⟨-, c, id, only⟩ := (inv_reached reached).queued msg k waits
  rw [id, Int.toNat_natCast, Int.ofNat_lt, Int.ofNat_le]
  have small : 0 < maxQueueCnt := by decide
  constructor
  · intro replies
    constructor
    · intro open_
      by_contra above
      obtain ⟨sent, -⟩ := replies 0 0 msg [] small small
      have handed := sent open_
      rw [Listener.vnSendReplyMsg_above (not_lt.mp above)] at handed
      cases handed
    · intro gone
      by_contra reused
      obtain ⟨below, taken⟩ := not_or.mp reused
      obtain ⟨j, other⟩ := Option.ne_none_iff_exists'.mp taken
      obtain ⟨-, nothing⟩ := (replies 0 0 (.ofType (fun _ => 0) .response) [.sent 22] small small).2 gone
      rw [Listener.vnSendReplyMsg_some (not_le.mp below) small small other] at nothing
      have unsent := nothing _ (List.mem_singleton_self _)
      cases unsent
  · rintro ⟨whileOpen, onceGone⟩ srcQueueID desQueueID reply answers src des
    constructor
    · rintro ⟨d, held⟩
      obtain rfl := only d held
      exact Listener.vnSendReplyMsg_some (whileOpen ⟨d, held⟩) src des held
    · intro gone
      by_cases below : c < maxSendChan
      · have closed := (onceGone gone).resolve_left (not_le.mpr below)
        obtain ⟨failed, nothing⟩ := Listener.vnSendReplyMsg_none below src des closed
        rw [nothing]
        exact ⟨⟨_, by decide, failed⟩, nofun⟩
      · rw [Listener.vnSendReplyMsg_above (not_lt.mp below)]
        exact ⟨⟨_, by decide, rfl⟩, nofun⟩

def request : List ServEvent :=
  [.listen 80 (some 1) ⟨false, true, true, true⟩, .accept (fun _ => 0) true [.sent 22],
    .message 0 (.ofType (fun _ => 0) .request) true]

def restart : List ServEvent :=
  [.haltServer, .listen 80 (some 1) ⟨false, true, true, true⟩, .accept (fun _ => 0) true [.sent 22]]

theorem reply_goesToAsker_connected : ∃ serving msg, (system .big).Reaches System.Always serving ∧
    (msg, 0) ∈ serving.queued ∧ serving.listener.RepliesTo .big msg.getConnectionID 0 := by
  -- A request whose client is still there.
  have made : (system .big).Reaches System.Always ⟨.initialConnection, 0, []⟩ := .start rfl
  have asked := made.follow request rfl
  refine ⟨_, _, asked, List.mem_singleton_self _, (reply_goesToAsker asked (List.mem_singleton_self _)).mpr ?_⟩
  exact ⟨fun _ => by decide, fun gone => absurd ⟨0, rfl⟩ gone⟩

theorem reply_goesToOther : ∃ serving msg, (system .big).Reaches System.Always serving ∧
    (msg, 0) ∈ serving.queued ∧ ¬ serving.listener.Holds 0 ∧
    (serving.listener.vnSendReplyMsg .big msg.getConnectionID 0 0 msg [.sent 22]).rs = some RSINFO.success.code ∧
    (serving.listener.vnSendReplyMsg .big msg.getConnectionID 0 0 msg [.sent 22]).sent.map
      (fun piece => (piece.1, piece.2.length)) = [(1, 22)] := by
  -- The reply to the request of the first client, which is gone, goes to the second one.
  have made : (system .big).Reaches System.Always ⟨.initialConnection, 0, []⟩ := .start rfl
  have other := made.follow (request ++ restart) rfl
  refine ⟨_, _, other, List.mem_singleton_self _, ?_, rfl, rfl⟩
  rintro ⟨c, held⟩
  cases c with
  | zero => cases held
  | succ c => cases held

end Serving

end Foolject.VNClib
