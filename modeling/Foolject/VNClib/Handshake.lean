import Foolject.VNClib.RecvFraming
import Foolject.VNClib.SendTable

/-! `ChannelConnect` down to the answers of the network: `OpenCore`, and the `RecvMsg` that waits
for the greeting of the server.

`RecvMsg` closes the socket unless it returns a message or has timed out in the header, and
`ChannelConnect` itself closes nothing. So a channel may be left open that was not greeted.
-/

set_option autoImplicit false

namespace Foolject.VNClib

/-- What `OpenCore` meets, what the server sends, and the answers to the first `RecvMsg`. -/
structure ConnectEnv where
  socketMade : Bool
  nonBlocking : Bool
  connects : Bool
  /-- `FD_ISSET`, which is looked at whatever `select` has returned. -/
  isSet : Bool
  soError : Int
  heap : Memory
  answers : List RecvAnswer
  incoming : List UInt8

inductive Handshake where
  | blocked
  | wild
  | returned (connected : Bool) (peer : Peer)

namespace ConnectEnv

def openCore (env : ConnectEnv) (peer : Peer) : Bool × Peer :=
  if peer.socket = true then (false, peer)
  else if peer.addrPeer = inaddrNone then (false, peer)
  else if env.socketMade = false then (false, peer)
  -- The new socket stays open here, but the channel does not get it.
  else if env.nonBlocking = false then (false, peer)
  else
    let connected := if env.connects = true then true else env.isSet && decide (env.soError = 0)
    (connected, if connected then { peer with socket := true } else peer)

def greet (env : ConnectEnv) (peer : Peer) : Handshake :=
  match (⟨peer.socket, env.incoming, []⟩ : CVNChannel).recvMsg env.heap env.answers with
  | .blocked => .blocked
  | .wild => .wild
  -- Nothing is closed here: the socket is what `RecvMsg` has left of it.
  | .returned none _ chan _ => .returned false { peer with socket := chan.valid }
  | .returned (some msg) _ chan _ =>
    .returned (decide (msg.getType = MsgType.control.code)) { peer with socket := chan.valid }

def connect (env : ConnectEnv) (peer : Peer) (servAddr port : Int) : Handshake :=
  let opened := env.openCore (peer.withTarget servAddr port)
  if opened.1 = false then .returned false opened.2 else env.greet opened.2

def channelConnect (env : ConnectEnv) (table : SendTable) (sendChanID : Nat) (servAddr port : Int) :
    Option (Bool × SendTable) :=
  match env.connect ((table.sendChan sendChanID).getD .new) servAddr port with
  | .blocked => none
  | .wild => none
  | .returned connected peer =>
    some (connected, (table.put sendChanID peer).note sendChanID connected peer)

/-! ## The outcome of an attempt -/

def opens (env : ConnectEnv) : Bool :=
  env.socketMade && env.nonBlocking && (env.connects || (env.isSet && decide (env.soError = 0)))

/-- What becomes of an attempt to connect that `OpenCore` does not refuse, if anything does. -/
def attempt (env : ConnectEnv) : Option Attempt :=
  if env.opens = false then some .notOpened
  else
    match (⟨true, env.incoming, []⟩ : CVNChannel).recvMsg env.heap env.answers with
    | .blocked => none
    | .wild => none
    | .returned none exterr _ _ => some (if exterr = .timeout then .timedOut else .failed)
    | .returned (some msg) _ _ _ => some (.message msg.getType)

end ConnectEnv

theorem recvBody_rc {msg next : CVNNetMsg} {answers left : List RecvAnswer} {incoming rest : List UInt8}
    {rc : RSINFO} (ends : recvBody msg answers incoming = .ends rc next left rest) :
    rc = .success ∨ rc = .failed := by
  -- A timeout in the body has the code of a failure.
  unfold recvBody at ends
  split at ends
  · cases ends
  · rename_i loop
    split at ends
    · cases ends
    · cases ends
      rcases recvLoop_rc loop with code | code | code
      · exact .inl code
      · exact .inr code
      · exact .inr code

/-- `RecvMsg` keeps the socket for a message and for a timeout in the header only. -/
theorem CVNChannel.recvMsg_valid {heap : Memory} {chan next : CVNChannel} {answers left : List RecvAnswer}
    {msg : Option CVNNetMsg} {exterr : RSINFO} (valid : chan.valid = true)
    (returns : chan.recvMsg heap answers = .returned msg exterr next left) :
    next.valid = true ↔ (msg.isSome = true ∨ exterr = .timeout) := by
  unfold recvMsg at returns
  rw [if_neg (by simp [valid])] at returns
  cases loop : recvHeader answers chan.incoming with
  | blocked =>
    rw [loop] at returns
    cases returns
  | ends rc header answers₁ incoming₁ =>
    rw [loop] at returns
    dsimp only at returns
    generalize CVNNetMsg.ofHeader heap header = built at returns
    split at returns
    · cases body : recvBody built answers₁ incoming₁ with
      | blocked | wild =>
        rw [body] at returns
        cases returns
      | ends rc' msg' answers₂ incoming₂ =>
        rw [body] at returns
        dsimp only at returns
        split at returns
        · cases returns
          exact iff_of_true valid (.inl rfl)
        · rename_i failing
          cases returns
          refine iff_of_false Bool.false_ne_true ?_
          rintro (message | timeout)
          · cases message
          · rw [timeout] at body
            exact absurd (recvBody_rc body) (by decide)
    · cases returns
      simp

theorem Peer.with_socket {peer : Peer} {socket : Bool} (same : peer.socket = socket) :
    { peer with socket := socket } = peer := by
  subst same
  rfl

namespace ConnectEnv

variable {env : ConnectEnv} {peer next : Peer} {connected : Bool} {servAddr port : Int}

theorem openCore_eq (env : ConnectEnv) (peer : Peer) : env.openCore peer = peer.openCore env.opens := by
  unfold openCore Peer.openCore opens
  by_cases valid : peer.socket = true
  · rw [if_pos valid, if_pos (.inl valid)]
  rw [if_neg valid]
  by_cases unknown : peer.addrPeer = inaddrNone
  · rw [if_pos unknown, if_pos (.inr unknown)]
  rw [if_neg unknown, if_neg (not_or.mpr ⟨valid, unknown⟩)]
  have closed : { peer with socket := false } = peer := Peer.with_socket (Bool.not_eq_true _ ▸ valid)
  cases env.socketMade with
  | false => exact congrArg (Prod.mk false) closed.symm
  | true =>
    cases env.nonBlocking with
    | false => exact congrArg (Prod.mk false) closed.symm
    | true =>
      cases env.connects with
      | true => rfl
      | false =>
        rw [Bool.false_or]
        cases env.isSet && decide (env.soError = 0) with
        | true => rfl
        | false => exact congrArg (Prod.mk false) closed.symm

theorem greet_attempt (valid : peer.socket = true) (made : env.opens = true)
    (returns : env.greet peer = .returned connected next) :
    (∃ type, env.attempt = some (.message type) ∧ connected = decide (type = MsgType.control.code) ∧ next = peer) ∨
      (env.attempt = some .timedOut ∧ connected = false ∧ next = peer) ∨
      (env.attempt = some .failed ∧ connected = false ∧ next = { peer with socket := false }) := by
  unfold greet at returns
  unfold attempt
  rw [valid] at returns
  rw [if_neg (by rw [made]; decide)]
  cases received : (⟨true, env.incoming, []⟩ : CVNChannel).recvMsg env.heap env.answers with
  | blocked | wild =>
    rw [received] at returns
    cases returns
  | returned msg exterr chan left =>
    have kept := CVNChannel.recvMsg_valid rfl received
    rw [received] at returns
    cases msg with
    | some msg =>
      cases returns
      exact .inl ⟨_, rfl, rfl, Peer.with_socket (valid.trans (kept.mpr (.inl rfl)).symm)⟩
    | none =>
      cases returns
      by_cases timeout : exterr = .timeout
      · refine .inr (.inl ⟨congrArg some (if_pos timeout), rfl, ?_⟩)
        exact Peer.with_socket (valid.trans (kept.mpr (.inr timeout)).symm)
      · refine .inr (.inr ⟨congrArg some (if_neg timeout), rfl, ?_⟩)
        have lost : chan.valid = false := by
          rw [← Bool.not_eq_true, kept]
          rintro (message | same)
          · cases message
          · exact timeout same
        rw [lost]

theorem connect_attempt (returns : env.connect peer servAddr port = .returned connected next) :
    ∃ attempt, (env.attempt = some attempt ∨ (peer.withTarget servAddr port).socket = true ∨
        (peer.withTarget servAddr port).addrPeer = inaddrNone) ∧
      peer.connect servAddr port attempt = (connected, next) := by
  unfold connect at returns
  dsimp only at returns
  rw [openCore_eq] at returns
  unfold Peer.connect
  generalize peer.withTarget servAddr port = target at returns ⊢
  by_cases refused : target.socket = true ∨ target.addrPeer = inaddrNone
  · -- Whatever the network would have done.
    refine ⟨.notOpened, .inr refused, ?_⟩
    rw [Peer.openCore_refused refused] at returns ⊢
    cases returns
    rfl
  obtain ⟨closed, known⟩ := not_or.mp refused
  rw [Bool.not_eq_true] at closed
  simp only [Peer.openCore_free closed known] at returns ⊢
  cases made : env.opens with
  | false =>
    rw [made] at returns
    cases returns
    exact ⟨.notOpened, .inl (if_pos made), rfl⟩
  | true =>
    rw [made] at returns
    rcases greet_attempt rfl made returns with ⟨type, outcome, rfl, rfl⟩ | ⟨outcome, rfl, rfl⟩ | ⟨outcome, rfl, rfl⟩
    · exact ⟨_, .inl outcome, rfl⟩
    · exact ⟨_, .inl outcome, rfl⟩
    · exact ⟨_, .inl outcome, rfl⟩

theorem channelConnect_attempt {table next : SendTable} {id : Nat}
    (returns : env.channelConnect table id servAddr port = some (connected, next)) :
    ∃ attempt, (env.attempt = some attempt ∨
        (((table.sendChan id).getD .new).withTarget servAddr port).socket = true ∨
        (((table.sendChan id).getD .new).withTarget servAddr port).addrPeer = inaddrNone) ∧
      table.channelConnect id servAddr port attempt = (connected, next) := by
  unfold channelConnect at returns
  cases ended : env.connect ((table.sendChan id).getD .new) servAddr port with
  | blocked | wild =>
    rw [ended] at returns
    cases returns
  | returned ok peer =>
    rw [ended] at returns
    cases returns
    obtain ⟨attempt, outcome, same⟩ := connect_attempt ended
    refine ⟨attempt, outcome, ?_⟩
    unfold SendTable.channelConnect
    rw [same]

end ConnectEnv

/-! ## A failed attempt -/

structure Peer.Closed (peer : Peer) : Prop where
  socket : peer.socket = false
  silent : ∀ msg answers, peer.sendMsg msg answers = .returned RSINFO.failed.code ⟨false, [], []⟩ answers
  reopens : ∀ servAddr port, (peer.withTarget servAddr port).addrPeer ≠ inaddrNone →
    ((peer.withTarget servAddr port).openCore true).1 = true

theorem Peer.closed_iff {peer : Peer} : peer.Closed ↔ peer.socket = false := by
  refine ⟨Closed.socket, fun closed => ⟨closed, fun msg answers => ?_, fun servAddr port known => ?_⟩⟩
  · unfold sendMsg CVNChannel.sendMsg
    rw [if_pos closed, closed]
  · rw [openCore_free (show (peer.withTarget servAddr port).socket = false from closed) known]

/-- A failed attempt on a closed channel with an address leaves it closed exactly if no connection is made or
`RecvMsg` fails. -/
theorem Peer.connect_closed {peer next : Peer} {servAddr port : Int} {attempt : Attempt}
    (closed : peer.socket = false) (known : (peer.withTarget servAddr port).addrPeer ≠ inaddrNone)
    (failing : peer.connect servAddr port attempt = (false, next)) :
    next.socket = false ↔ attempt = .notOpened ∨ attempt = .failed := by
  unfold connect at failing
  rw [openCore_free (show (peer.withTarget servAddr port).socket = false from closed) known] at failing
  cases attempt with
  | notOpened | failed =>
    cases failing
    simp
  | timedOut =>
    cases failing
    simp
  | message type =>
    -- A message of any type has come over a socket that is still open.
    obtain ⟨-, rfl⟩ := Prod.mk.inj failing
    simp

/-- A channel that was closed is closed after a failed `ChannelConnect` exactly if its address was refused, no
connection was made, or `RecvMsg` failed: after a timeout in the header, and after a message of another type,
it is open. -/
theorem channelConnect_closes {env : ConnectEnv} {table next : SendTable} {id : Nat} {servAddr port : Int}
    (closed : ((table.sendChan id).getD .new).socket = false)
    (failing : env.channelConnect table id servAddr port = some (false, next)) :
    (∃ peer, next.sendChan id = some peer ∧ peer.Closed) ↔
      (((table.sendChan id).getD .new).withTarget servAddr port).addrPeer = inaddrNone ∨
        env.attempt = some .notOpened ∨ env.attempt = some .failed := by
  obtain ⟨attempt, outcome, ended⟩ := ConnectEnv.channelConnect_attempt failing
  obtain ⟨refused, rfl⟩ := Prod.mk.inj ended
  generalize (table.sendChan id).getD .new = peer at closed outcome refused ⊢
  have left : ((table.put id (peer.connect servAddr port attempt).2).note id
      (peer.connect servAddr port attempt).1 (peer.connect servAddr port attempt).2).sendChan id =
      some (peer.connect servAddr port attempt).2 := by
    rw [refused]
    exact Function.update_self _ _ _
  have after : ∀ next, some (peer.connect servAddr port attempt).2 = some next ∧ next.Closed ↔
      next = (peer.connect servAddr port attempt).2 ∧ next.socket = false := by
    intro next
    rw [Peer.closed_iff, Option.some_inj, eq_comm]
  simp only [left, after, exists_eq_left]
  by_cases unknown : (peer.withTarget servAddr port).addrPeer = inaddrNone
  · refine iff_of_true ?_ (.inl unknown)
    unfold Peer.connect
    rw [Peer.openCore_refused (.inr unknown)]
    exact closed
  · rw [Peer.connect_closed closed unknown (Prod.ext refused rfl)]
    rcases outcome with decided | valid | unknown'
    · rw [decided, Option.some_inj, Option.some_inj]
      exact (or_iff_right unknown).symm
    · exact absurd (valid.symm.trans closed) (by decide)
    · exact absurd unknown' unknown

def refusedEnv : ConnectEnv where
  socketMade := true
  nonBlocking := true
  connects := false
  isSet := true
  soError := 111
  heap _ := 0
  answers := []
  incoming := []

def silentEnv : ConnectEnv := { refusedEnv with connects := true, answers := [.timeout] }

theorem channelConnect_closes_refused :
    (∃ peer, (SendTable.initial.put 0 ⟨false, 5, 10⟩).sendChan 0 = some peer ∧ peer.Closed) ↔
      (Peer.new.withTarget 5 10).addrPeer = inaddrNone ∨
        refusedEnv.attempt = some .notOpened ∨ refusedEnv.attempt = some .failed :=
  @channelConnect_closes refusedEnv .initial _ 0 5 10 rfl rfl

theorem channelConnect_leavesOpen : ∃ next peer msg,
    silentEnv.channelConnect .initial 0 5 10 = some (false, next) ∧ next.sendChan 0 = some peer ∧
      peer.socket = true ∧ peer.sendMsg msg [.sent 22] = .returned 21 ⟨true, [], msg.getBuffer⟩ [] ∧
      msg.getBuffer.length = 22 ∧ peer.openCore true = (false, peer) :=
  -- The channel of the silent server takes messages, and is refused when it is to be connected again.
  ⟨_, ⟨true, 5, 10⟩, .ofType (fun _ => 0) .request, rfl, rfl, rfl, rfl, rfl, rfl⟩

end Foolject.VNClib
