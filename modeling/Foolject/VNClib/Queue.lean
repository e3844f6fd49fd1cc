import Foolject.Lib.Transition
import Foolject.VNClib.Channel

/-! A queue of a group, with the semaphore that `VNRecvMsg` waits for.

`insertNode` links the node and then releases the semaphore, whatever comes of that. The semaphore
counts to 0xFFFF only, and the list has no bound.
-/

set_option autoImplicit false

namespace Foolject.VNClib

@[simp] def maxSemaphoreCount : Nat := 0xFFFF

variable {Msg : Type}

structure CVNQueue (Msg : Type) where
  nodes : List Msg
  count : Int
  semaphore : Nat

namespace CVNQueue

def new : CVNQueue Msg := ⟨[], 0, 0⟩

/-- `ReleaseSemaphore` fails where the count would pass the maximum, and changes nothing. -/
def releaseSemaphore (queue : CVNQueue Msg) : Bool × CVNQueue Msg :=
  if maxSemaphoreCount < queue.semaphore + 1 then (false, queue)
  else (true, { queue with semaphore := queue.semaphore + 1 })

def insertNode (queue : CVNQueue Msg) (msg : Msg) : CVNQueue Msg :=
  let queue := { queue with nodes := queue.nodes ++ [msg] }
  -- What `ReleaseSemaphore` returns is not looked at.
  let queue := queue.releaseSemaphore.2
  { queue with count := queue.count + 1 }

/-- The wait of `WaitForQueueNotEmpty`: it takes one from the count, or has to time out. -/
def waitForQueueNotEmpty (queue : CVNQueue Msg) : Bool × CVNQueue Msg :=
  if 0 < queue.semaphore then (true, { queue with semaphore := queue.semaphore - 1 }) else (false, queue)

def getNode (queue : CVNQueue Msg) : Option Msg × CVNQueue Msg :=
  match queue.nodes with
  | [] => (none, queue)
  | msg :: rest => (some msg, { queue with nodes := rest, count := queue.count - 1 })

variable {queue : CVNQueue Msg}

theorem releaseSemaphore_room (room : queue.semaphore < maxSemaphoreCount) :
    queue.releaseSemaphore = (true, { queue with semaphore := queue.semaphore + 1 }) := if_neg (not_lt.mpr room)

theorem releaseSemaphore_full (full : maxSemaphoreCount ≤ queue.semaphore) :
    queue.releaseSemaphore = (false, queue) := if_pos (Nat.lt_succ_of_le full)

end CVNQueue

/-! ## Runs -/

inductive QueueEvent (Msg : Type) where
  | insertMsg (msg : Msg)
  /-- The wait of this call of `VNRecvMsg` ends. -/
  | wait (caller : Nat)
  /-- The call takes the message that it has waited for. -/
  | getNode (caller : Nat)

/-- `claimed` are the calls of `VNRecvMsg` whose wait has succeeded and that have not taken their message.
`refused` counts the nodes that were linked when the semaphore was full. -/
structure Queueing (Msg : Type) where
  queue : CVNQueue Msg
  claimed : List Nat
  refused : Nat

namespace Queueing

def step (queueing : Queueing Msg) : QueueEvent Msg → Option (Queueing Msg)
  | .insertMsg msg =>
    some { queueing with
      queue := queueing.queue.insertNode msg
      refused := if queueing.queue.releaseSemaphore.1 then queueing.refused else queueing.refused + 1 }
  | .wait caller =>
    if caller ∈ queueing.claimed then none
    else
      let waited := queueing.queue.waitForQueueNotEmpty
      some { queueing with
        queue := waited.2
        claimed := if waited.1 then caller :: queueing.claimed else queueing.claimed }
  | .getNode caller =>
    if caller ∈ queueing.claimed then
      some { queueing with queue := queueing.queue.getNode.2, claimed := queueing.claimed.erase caller }
    else none

/-- The call of `VNRecvMsg` that a step ends, and its result. -/
def vnRecvMsg (queueing : Queueing Msg) : QueueEvent Msg → Option (Nat × RSINFO)
  | .insertMsg _ => none
  | .wait caller => if queueing.queue.waitForQueueNotEmpty.1 then none else some (caller, .timeout)
  | .getNode caller => some (caller, if queueing.queue.getNode.1.isNone then .failed else .success)

def system : System (Queueing Msg) (QueueEvent Msg) := .ofStep (fun queueing => queueing = ⟨.new, [], 0⟩) step

/-- Each node is counted by the semaphore, claimed by a call, or was refused by the semaphore. -/
structure Inv (queueing : Queueing Msg) : Prop where
  accounted : queueing.queue.nodes.length =
    queueing.queue.semaphore + queueing.claimed.length + queueing.refused
  within : queueing.queue.semaphore ≤ maxSemaphoreCount
  count : queueing.queue.count = queueing.queue.nodes.length

variable {queueing next : Queueing Msg} {event : QueueEvent Msg} {caller : Nat}

theorem insertMsg_room (room : queueing.queue.semaphore < maxSemaphoreCount) (msg : Msg) :
    queueing.step (.insertMsg msg) = some
      ⟨⟨queueing.queue.nodes ++ [msg], queueing.queue.count + 1, queueing.queue.semaphore + 1⟩, queueing.claimed,
        queueing.refused⟩ := by
  have linked : ({ queueing.queue with nodes := queueing.queue.nodes ++ [msg] }).releaseSemaphore = _ :=
    CVNQueue.releaseSemaphore_room room
  unfold step CVNQueue.insertNode
  rw [CVNQueue.releaseSemaphore_room room]
  dsimp only
  rw [linked]
  rfl

theorem insertMsg_full (full : maxSemaphoreCount ≤ queueing.queue.semaphore) (msg : Msg) :
    queueing.step (.insertMsg msg) = some
      ⟨⟨queueing.queue.nodes ++ [msg], queueing.queue.count + 1, queueing.queue.semaphore⟩, queueing.claimed,
        queueing.refused + 1⟩ := by
  have linked : ({ queueing.queue with nodes := queueing.queue.nodes ++ [msg] }).releaseSemaphore = _ :=
    CVNQueue.releaseSemaphore_full full
  unfold step CVNQueue.insertNode
  rw [CVNQueue.releaseSemaphore_full full]
  dsimp only
  rw [linked]
  rfl

theorem Inv.insertMsg (inv : queueing.Inv) (msg : Msg) (stepped : queueing.step (.insertMsg msg) = some next) :
    next.Inv := by
  obtain ⟨accounted, within, count⟩ := inv
  rcases lt_or_ge queueing.queue.semaphore maxSemaphoreCount with room | full
  · rw [insertMsg_room room] at stepped
    cases stepped
    constructor
    · simp only [List.length_append, List.length_singleton, accounted]
      omega
    · exact room
    · simp only [List.length_append, List.length_singleton, count]
      omega
  · rw [insertMsg_full full] at stepped
    cases stepped
    constructor
    · simp only [List.length_append, List.length_singleton, accounted]
      omega
    · exact within
    · simp only [List.length_append, List.length_singleton, count]
      omega

theorem Inv.wait (inv : queueing.Inv) (stepped : queueing.step (.wait caller) = some next) : next.Inv := by
  obtain ⟨accounted, within, count⟩ := inv
  obtain ⟨-, became⟩ := Option.ite_none_left_eq_some.mp stepped
  cases became
  unfold CVNQueue.waitForQueueNotEmpty
  by_cases counted : 0 < queueing.queue.semaphore
  · rw [if_pos counted]
    refine ⟨?_, (Nat.sub_le _ _).trans within, count⟩
    simp only [accounted, if_true, List.length_cons]
    omega
  · rw [if_neg counted]
    exact ⟨accounted, within, count⟩

/-- A call that has claimed a node finds one. -/
theorem Inv.node (inv : queueing.Inv) (claimed : caller ∈ queueing.claimed) :
    ∃ msg rest, queueing.queue.nodes = msg :: rest := by
  apply List.exists_cons_of_length_pos
  have one := List.length_pos_of_mem claimed
  rw [inv.accounted]
  omega

theorem Inv.getNode (inv : queueing.Inv) (stepped : queueing.step (.getNode caller) = some next) : next.Inv := by
  obtain ⟨claimed, became⟩ := Option.ite_none_right_eq_some.mp stepped
  obtain ⟨msg, rest, nodes⟩ := inv.node claimed
  have one := List.length_pos_of_mem claimed
  obtain ⟨accounted, within, count⟩ := inv
  cases became
  unfold CVNQueue.getNode
  rw [nodes] at accounted count ⊢
  refine ⟨?_, within, ?_⟩
  · simp only [List.length_cons, List.length_erase_of_mem claimed] at accounted ⊢
    omega
  · simp only [List.length_cons] at count ⊢
    omega

theorem inv_reached (reached : (@system Msg).Reaches System.Always queueing) : queueing.Inv := by
  apply reached.invariant Inv
  · rintro queueing rfl
    exact ⟨rfl, Nat.zero_le _, rfl⟩
  · intro queueing event next inv _ stepped
    cases event with
    | insertMsg msg => exact inv.insertMsg msg stepped
    | wait caller => exact inv.wait stepped
    | getNode caller => exact inv.getNode stepped

/-- No call fails. A call times out with no node in the queue but those that are claimed, exactly if the semaphore
has refused none so far. -/
theorem vnRecvMsg_truthful {rs : RSINFO} (reached : system.Reaches System.Always queueing)
    (possible : (queueing.step event).isSome = true) (returns : queueing.vnRecvMsg event = some (caller, rs)) :
    (rs ≠ .failed ∧ (rs = .timeout → queueing.queue.nodes.length ≤ queueing.claimed.length)) ↔
      caller ∈ queueing.claimed ∨ queueing.refused = 0 := by
  have inv := inv_reached reached
  cases event with
  | insertMsg msg => cases returns
  | wait caller' =>
    obtain ⟨empty, same⟩ := Option.ite_none_left_eq_some.mp returns
    cases same
    have unclaimed : caller ∉ queueing.claimed := by
      intro claimed
      rw [step, if_pos claimed] at possible
      cases possible
    have drained : queueing.queue.semaphore = 0 := by
      unfold CVNQueue.waitForQueueNotEmpty at empty
      by_contra counted
      rw [if_pos (Nat.pos_of_ne_zero counted)] at empty
      exact empty rfl
    have accounted := inv.accounted
    rw [or_iff_right unclaimed]
    -- With the semaphore at zero the nodes are those that were claimed and those that were refused.
    constructor
    · rintro ⟨-, told⟩
      have most := told rfl
      omega
    · intro none_
      exact ⟨by decide, fun _ => by omega⟩
  | getNode caller' =>
    cases returns
    have claimed : caller ∈ queueing.claimed := by
      by_contra unclaimed
      rw [step, if_neg unclaimed] at possible
      cases possible
    obtain ⟨msg, rest, nodes⟩ := inv.node claimed
    refine iff_of_true ?_ (.inl claimed)
    unfold CVNQueue.getNode
    rw [nodes]
    exact ⟨nofun, nofun⟩

theorem vnRecvMsg_truthful_second : ∃ queueing : Queueing Nat, system.Reaches System.Always queueing ∧
    queueing.vnRecvMsg (.getNode 6) = some (6, .success) ∧
    ((RSINFO.success ≠ .failed ∧ (RSINFO.success = .timeout →
      queueing.queue.nodes.length ≤ queueing.claimed.length)) ↔ 6 ∈ queueing.claimed ∨ queueing.refused = 0) := by
  -- Two messages come in. One call has taken its message, and another one takes the second.
  have made : (@system Nat).Reaches System.Always ⟨.new, [], 0⟩ := .start rfl
  obtain ⟨queueing, reached, second⟩ := made.follow_any
    [.insertMsg 1, .wait 5, .insertMsg 2, .wait 6, .getNode 5]
    (fun queueing => decide ((queueing.step (.getNode 6)).isSome = true ∧
      queueing.vnRecvMsg (.getNode 6) = some (6, .success))) (by decide)
  obtain ⟨possible, returns⟩ := of_decide_eq_true second
  exact ⟨queueing, reached, returns, vnRecvMsg_truthful reached possible returns⟩

/-! ## A full semaphore -/

theorem drained (reached : system.Reaches System.Always queueing) : ∃ next : Queueing Msg,
    system.Reaches System.Always next ∧ next.claimed = [] ∧ next.queue.semaphore = 0 ∧
      next.refused = queueing.refused := by
  -- The calls that have waited take their messages, and others come until the
  -- semaphore is empty. The induction is on how many such steps are left.
  induction left : 2 * queueing.queue.semaphore + queueing.claimed.length using Nat.strong_induction_on
    generalizing queueing with
  | _ left ih =>
    subst left
    cases claimed : queueing.claimed with
    | cons caller rest =>
      have mine : caller ∈ queueing.claimed := claimed ▸ List.mem_cons_self
      obtain ⟨msg, others, nodes⟩ := (inv_reached reached).node mine
      have taken := reached.next trivial (show queueing.step (.getNode caller) = some _ from if_pos mine)
      have fewer : 2 * queueing.queue.getNode.2.semaphore + (queueing.claimed.erase caller).length <
          2 * queueing.queue.semaphore + queueing.claimed.length := by
        unfold CVNQueue.getNode
        rw [nodes, claimed, List.erase_cons_head, List.length_cons]
        exact Nat.lt_succ_self _
      obtain ⟨next, ended, rest⟩ := ih _ fewer taken rfl
      exact ⟨next, ended, rest⟩
    | nil =>
      cases counted : queueing.queue.semaphore with
      | zero => exact ⟨queueing, reached, claimed, counted, rfl⟩
      | succ semaphore =>
        have free : 0 ∉ queueing.claimed := by
          rw [claimed]
          exact List.not_mem_nil
        have waited := reached.next trivial (show queueing.step (.wait 0) = some _ from if_neg free)
        have fewer : 2 * queueing.queue.waitForQueueNotEmpty.2.semaphore +
            (if queueing.queue.waitForQueueNotEmpty.1 then 0 :: queueing.claimed else queueing.claimed).length <
            2 * queueing.queue.semaphore + queueing.claimed.length := by
          unfold CVNQueue.waitForQueueNotEmpty
          rw [counted, if_pos (Nat.succ_pos _), claimed]
          simp only [if_true, List.length_cons, List.length_nil]
          omega
        obtain ⟨next, ended, rest⟩ := ih _ fewer waited rfl
        exact ⟨next, ended, rest⟩

theorem filled (msg : Msg) (count : Nat) : ∃ next : Queueing Msg, system.Reaches System.Always next ∧
    next.claimed = [] ∧ next.queue.semaphore = min count maxSemaphoreCount ∧
      next.refused = count - maxSemaphoreCount := by
  -- Messages that nobody waits for are all refused from the maximum on.
  induction count with
  | zero => exact ⟨_, .start rfl, rfl, rfl, rfl⟩
  | succ count ih =>
    obtain ⟨queueing, reached, claimed, semaphore, refused⟩ := ih
    rcases lt_or_ge count maxSemaphoreCount with below | above
    · rw [min_eq_left below.le] at semaphore
      have room : queueing.queue.semaphore < maxSemaphoreCount := semaphore ▸ below
      refine ⟨_, reached.next trivial (insertMsg_room room msg), claimed, ?_, ?_⟩
      · rw [min_eq_left below]
        exact congrArg (· + 1) semaphore
      · rw [Nat.sub_eq_zero_of_le below]
        exact refused.trans (Nat.sub_eq_zero_of_le below.le)
    · rw [min_eq_right above] at semaphore
      refine ⟨_, reached.next trivial (insertMsg_full semaphore.ge msg), claimed, ?_, ?_⟩
      · rw [min_eq_right (above.trans (Nat.le_succ count))]
        exact semaphore
      · rw [Nat.succ_sub above]
        exact congrArg (· + 1) refused

theorem vnRecvMsg_timesOut : ∃ queueing : Queueing Unit, system.Reaches System.Always queueing ∧
    queueing.queue.nodes.length = 1 ∧ queueing.claimed = [] ∧
    queueing.vnRecvMsg (.wait 0) = some (0, .timeout) := by
  -- Behind 65536 messages that nobody has waited for and 65535 that are received,
  -- a call times out although there is a message that nobody has claimed.
  obtain ⟨full, reached, -, -, refused⟩ := filled () (maxSemaphoreCount + 1)
  obtain ⟨queueing, reached, claimed, semaphore, same⟩ := drained reached
  have accounted := (inv_reached reached).accounted
  rw [semaphore, claimed, same, refused] at accounted
  refine ⟨queueing, reached, accounted, claimed, ?_⟩
  unfold vnRecvMsg CVNQueue.waitForQueueNotEmpty
  rw [semaphore]
  rfl

end Queueing

end Foolject.VNClib
