import Foolject.VNClib.Delivery
import Foolject.VNClib.RecvSlots

/-! The server's half of a `CVNConnection`: `VNListen`, the channels of the clients and the replies.

The connections of clients are counted in the order in which they are accepted. The socket of a
channel is known by the number of its connection.
-/

set_option autoImplicit false

namespace Foolject.VNClib

structure RecvChan where
  /-- The connection that `m_Socket` belongs to, if it is not `INVALID_SOCKET`. -/
  socket : Option Nat
  deriving DecidableEq

namespace RecvChan

def sendMsg (chan : RecvChan) (msg : CVNNetMsg) (answers : List SendAnswer) : SendMsg :=
  (⟨chan.socket.isSome, [], []⟩ : CVNChannel).sendMsg msg answers

def behind (chan : RecvChan) (valid : Bool) : RecvChan := ⟨if valid then chan.socket else none⟩

end RecvChan

structure Listener where
  /-- `m_QueueGroup`, which may be null. -/
  queueGroup : Option Nat
  port : Nat
  /-- `m_sListener` is not `INVALID_SOCKET`. -/
  sListener : Bool
  /-- The thread of `VNListenCore` runs. -/
  thrdLisn : Bool
  threads : RecvSlots.Server
  recvChan : Nat → Option RecvChan

structure ListenEnv where
  posix : Bool
  socketMade : Bool
  bound : Bool
  threadMade : Bool
  deriving DecidableEq

namespace Listener

def initialConnection : Listener where
  queueGroup := none
  port := 0
  sListener := false
  thrdLisn := false
  threads := ⟨RecvSlots.initialConnection, []⟩
  recvChan _ := none

/-- The sockets are closed, and the threads have been waited for. -/
def clearListenerHandle (listener : Listener) : Listener :=
  { listener with
    sListener := false
    thrdLisn := false
    threads := ⟨RecvSlots.clearListenerHandle, []⟩
    recvChan := fun _ => none }

def vnListen (listener : Listener) (port : Nat) (qg : Option Nat) (env : ListenEnv) : Bool × Listener :=
  if 65535 < port then (false, listener)
  else
    -- The test for a missing group is an assignment, and what it assigns counts as false.
    let cleared := { listener with queueGroup := none }
    if listener.sListener = true then (false, cleared)
    else if env.socketMade = false then (false, cleared.clearListenerHandle)
    else
      let opened := { cleared with sListener := true, port := port }
      if env.bound = false then (false, opened.clearListenerHandle)
      else
        let listening := { opened with queueGroup := qg }
        -- What `_beginthreadex` returns is not looked at.
        if env.posix = true ∧ env.threadMade = false then (false, listening)
        else (true, { listening with thrdLisn := env.threadMade })

/-! ## Listening -/

variable {listener next : Listener} {port : Nat} {qg : Option Nat} {env : ListenEnv}

/-- The group is that of before, and of a listener that was running nothing else has changed either. -/
structure Untouched (listener next : Listener) : Prop where
  group : next.queueGroup = listener.queueGroup
  running : listener.sListener = true → { next with queueGroup := listener.queueGroup } = listener

/-- What a call that fails leaves of a connection that is not listening, or of one that is. -/
theorem vnListen_failed (inRange : ¬ 65535 < port) (failing : listener.vnListen port qg env = (false, next)) :
    next.queueGroup = (if listener.sListener = false ∧ env.socketMade = true ∧ env.bound = true then qg else none) ∧
      (listener.sListener = true → next = { listener with queueGroup := none }) := by
  obtain ⟨posix, socketMade, bound, threadMade⟩ := env
  unfold vnListen at failing
  rw [if_neg inRange] at failing
  cases running : listener.sListener with
  | true =>
    simp only [running, if_true] at failing
    cases failing
    exact ⟨rfl, fun _ => rfl⟩
  | false =>
    simp only [running, Bool.false_eq_true, if_false] at failing
    refine ⟨?_, nofun⟩
    cases socketMade with
    | false =>
      cases failing
      rfl
    | true =>
      cases bound with
      | false =>
        cases failing
        rfl
      | true =>
        simp only [Bool.true_eq_false, if_false] at failing
        split at failing
        · cases failing
          rfl
        · cases failing

/-- A call that fails never touches a running listener but for its group. The group is kept if the port is out
of range, or else if it was the one that the call leaves: the new one if only the thread is missing, and none in
every other case. -/
theorem vnListen_atomic (failing : listener.vnListen port qg env = (false, next)) :
    listener.Untouched next ↔ 65535 < port ∨ listener.queueGroup =
      (if listener.sListener = false ∧ env.socketMade = true ∧ env.bound = true then qg else none) := by
  by_cases high : 65535 < port
  · unfold vnListen at failing
    rw [if_pos high] at failing
    cases failing
    exact iff_of_true ⟨rfl, fun _ => rfl⟩ (.inl high)
  · obtain ⟨group, running⟩ := vnListen_failed high failing
    rw [or_iff_right high, ← group]
    refine ⟨fun untouched => untouched.group.symm, fun same => ⟨same.symm, fun listens => ?_⟩⟩
    rw [running listens]

theorem vnListen_atomic_listening :
    ∃ running next, initialConnection.vnListen 80 (some 1) ⟨false, true, true, true⟩ = (true, running) ∧
      running.vnListen 65536 (some 2) ⟨false, true, true, true⟩ = (false, next) ∧ next.sListener = true ∧
      (running.Untouched next ↔ 65535 < 65536 ∨ running.queueGroup =
        (if running.sListener = false ∧ true = true ∧ true = true then some 2 else none)) :=
  -- A connection that listens is asked to listen again, at a port out of range.
  ⟨_, _, rfl, rfl, rfl, @vnListen_atomic _ _ 65536 (some 2) ⟨false, true, true, true⟩ rfl⟩

theorem vnListen_clears :
    ∃ running next, initialConnection.vnListen 80 (some 1) ⟨false, true, true, true⟩ = (true, running) ∧
      running.vnListen 81 (some 2) ⟨false, true, true, true⟩ = (false, next) ∧
      running.queueGroup = some 1 ∧ next.queueGroup = none ∧ next.thrdLisn = true :=
  -- A second call on a connection that listens takes the group away from the running threads.
  ⟨_, _, rfl, rfl, rfl, rfl, rfl⟩

end Listener

end Foolject.VNClib
