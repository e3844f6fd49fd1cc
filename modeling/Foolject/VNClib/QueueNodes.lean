import Mathlib.Data.Fintype.Card
import Foolject.Lib.Chain
import Foolject.Lib.Words

/-! The nodes of a queue in memory, and the list that they stand for.

`getNode` leaves `m_Tail` as it is when it takes the last node, and `insertNode` looks at `m_Header`
before it follows `m_Tail`. A step is `none` where it would follow a pointer to a node that has been
deleted. The lock is held throughout each operation, and the semaphore counts no more than the nodes.
-/

set_option autoImplicit false

namespace Foolject.VNClib.QueueNodes
open Words

/-- Nodes of eight bytes in a memory of 2^32. -/
def nodePlaces : Nat := 536870912

abbrev Address := Fin nodePlaces

variable {Msg : Type}

structure CVNQueue (Msg : Type) where
  heap : Heap Address Msg
  count : Int
  header : Option Address
  tail : Option Address

def CVNQueue.new : CVNQueue Msg := ⟨fun _ => none, 0, none, none⟩

/-- A call, with the message that is inserted and the address that `new` gives, if they are not null. -/
inductive Call (Msg : Type) where
  | insertNode (msg : Option Msg) (new : Option Address)
  | getNode
  | resetQueue
  deriving DecidableEq, Repr

inductive Answer (Msg : Type) where
  | inserted (done : Bool)
  | got (msg : Option Msg)
  | deleted (msgs : List Msg)
  deriving DecidableEq, Repr

namespace CVNQueue

def link (heap : Heap Address Msg) (header tail : Option Address) (node : Address) :
    Option (Heap Address Msg × Option Address) :=
  match header with
  | none => some (heap, some node)
  | some first =>
    tail.bind fun last => (heap last).map fun cell =>
      (Function.update heap last (some { cell with next := some node }), some first)

def insertNode (queue : CVNQueue Msg) : Option Msg → Option Address → Option (CVNQueue Msg × Bool)
  | none, _ => some (queue, false)
  | some _, none => some (queue, false)
  | some msg, some node =>
    (link (Function.update queue.heap node (some ⟨msg, none⟩)) queue.header queue.tail node).map fun linked =>
      ({ heap := linked.1, count := wrap 32 (queue.count + 1), header := linked.2, tail := some node }, true)

def getNode (queue : CVNQueue Msg) : Option (CVNQueue Msg × Option Msg) :=
  match queue.header, queue.tail with
  | some node, some _ =>
    (queue.heap node).map fun cell =>
      ({ queue with
          heap := Function.update queue.heap node none
          header := cell.next
          count := wrap 32 (queue.count - 1) },
        some cell.value)
  | _, _ => some (queue, none)

def resetLoop : Nat → Heap Address Msg → (curnode nextnode : Option Address) → List Msg →
    Option (Heap Address Msg × List Msg)
  | _, heap, none, _, deleted => some (heap, deleted)
  | 0, _, some _, _, _ => none
  | fuel + 1, heap, some curnode, nextnode, deleted =>
    (heap curnode).bind fun cell =>
      let heap := Function.update heap curnode none
      match nextnode with
      | none => resetLoop fuel heap none none (deleted ++ [cell.value])
      | some following =>
        (heap following).bind fun next => resetLoop fuel heap (some following) next.next (deleted ++ [cell.value])

/-- There are no more turns than places for nodes. -/
def resetQueue (queue : CVNQueue Msg) : Option (CVNQueue Msg × List Msg) :=
  match queue.header with
  | none => some (⟨queue.heap, 0, none, none⟩, [])
  | some curnode =>
    (queue.heap curnode).bind fun cell =>
      (resetLoop nodePlaces queue.heap (some curnode) cell.next []).map fun emptied =>
        (⟨emptied.1, 0, none, none⟩, emptied.2)

def step (queue : CVNQueue Msg) : Call Msg → Option (CVNQueue Msg × Answer Msg)
  | .insertNode msg new => (queue.insertNode msg new).map fun after => (after.1, .inserted after.2)
  | .getNode => queue.getNode.map fun after => (after.1, .got after.2)
  | .resetQueue => queue.resetQueue.map fun after => (after.1, .deleted after.2)

def run : CVNQueue Msg → List (Call Msg) → Option (CVNQueue Msg × List (Answer Msg))
  | queue, [] => some (queue, [])
  | queue, call :: rest =>
    (queue.step call).bind fun after => (run after.1 rest).map fun last => (last.1, after.2 :: last.2)

def Allocates : CVNQueue Msg → List (Call Msg) → Prop
  | _, [] => True
  | queue, call :: rest =>
    (∀ msg new, call = .insertNode msg (some new) → queue.heap new = none) ∧
      ∀ after, queue.step call = some after → Allocates after.1 rest

end CVNQueue

/-! ## The list that a queue stands for -/

def fifoStep (list : List Msg) : Call Msg → List Msg × Answer Msg
  | .insertNode (some msg) (some _) => (list ++ [msg], .inserted true)
  | .insertNode _ _ => (list, .inserted false)
  | .getNode => (list.tail, .got list.head?)
  | .resetQueue => ([], .deleted list)

def fifoRun : List Msg → List (Call Msg) → List Msg × List (Answer Msg)
  | list, [] => (list, [])
  | list, call :: rest =>
    ((fifoRun (fifoStep list call).1 rest).1, (fifoStep list call).2 :: (fifoRun (fifoStep list call).1 rest).2)

/-- The nodes from the header on, of which the last is the one that the tail points to. -/
structure Represents (queue : CVNQueue Msg) (nodes : List (Address × Msg)) : Prop where
  chain : Chain queue.heap queue.header nodes
  distinct : (nodes.map Prod.fst).Nodup
  tail : ∀ last, nodes.getLast? = some last → queue.tail = some last.1
  count : queue.count = nodes.length
  owned : ∀ address, queue.heap address ≠ none → address ∈ nodes.map Prod.fst

variable {queue : CVNQueue Msg} {nodes : List (Address × Msg)}

theorem wrap_count {n : Nat} (within : n ≤ nodePlaces) : wrap 32 (n : Int) = n := by
  apply wrap_of_fits (by decide)
  unfold nodePlaces at within
  constructor
  · omega
  · omega

namespace Represents

theorem length_le (represents : Represents queue nodes) : nodes.length ≤ nodePlaces := by
  have places := represents.distinct.length_le_card
  rw [List.length_map, Fintype.card_fin] at places
  exact places

theorem new : Represents (CVNQueue.new : CVNQueue Msg) [] where
  chain := rfl
  distinct := List.nodup_nil
  tail _ ends := by cases ends
  count := rfl
  owned _ allocated := absurd rfl allocated

theorem unowned (represents : Represents queue nodes) {address : Address} (free : queue.heap address = none) :
    address ∉ nodes.map Prod.fst := fun inside => represents.chain.found inside free

theorem owned_new (represents : Represents queue nodes) (node : Address) (msg : Msg) (cell : Cell Address Msg) :
    ∀ address, Function.update queue.heap node (some cell) address ≠ none →
      address ∈ (nodes ++ [(node, msg)]).map Prod.fst := by
  intro address allocated
  rw [List.map_append]
  by_cases same : address = node
  · rw [same]
    exact List.mem_append_right _ List.mem_cons_self
  · rw [Function.update_of_ne same] at allocated
    exact List.mem_append_left _ (represents.owned address allocated)

theorem link_last (represents : Represents queue nodes) {node : Address} (msg : Msg) (free : queue.heap node = none) :
    ∃ heap, CVNQueue.link (Function.update queue.heap node (some ⟨msg, none⟩)) queue.header queue.tail node =
        some (heap, (queue.header.or (some node))) ∧
      Chain heap (queue.header.or (some node)) (nodes ++ [(node, msg)]) ∧
      ∀ address, heap address ≠ none → address ∈ (nodes ++ [(node, msg)]).map Prod.fst := by
  -- The tail is followed only where it is the last node.
  have notIn := represents.unowned free
  have stored : Function.update queue.heap node (some (Cell.mk msg none)) node = some ⟨msg, none⟩ :=
    Function.update_self ..
  have owned := represents.owned_new node msg ⟨msg, none⟩
  rcases List.eq_nil_or_concat' nodes with rfl | ⟨list, ⟨last, value⟩, rfl⟩
  · -- The header is null, and the tail, which may point to a deleted node, is not looked at.
    have header : queue.header = none := represents.chain
    refine ⟨Function.update queue.heap node (some ⟨msg, none⟩), ?_, ?_, owned⟩
    · unfold CVNQueue.link
      rw [header]
      rfl
    · rw [header]
      exact ⟨rfl, none, stored, rfl⟩
  · obtain ⟨first, header⟩ : ∃ first, queue.header = some first := by
      apply Option.ne_none_iff_exists'.mp
      intro none
      exact List.append_ne_nil_of_right_ne_nil list (List.cons_ne_nil _ _) (represents.chain.start_eq_none.mp none)
    -- The tail points to the last node, which is there, and gets the new one for its link.
    have tail : queue.tail = some last := represents.tail _ List.getLast?_concat
    have other : last ≠ node := by
      rintro rfl
      apply notIn
      rw [List.map_append]
      exact List.mem_append_right _ List.mem_cons_self
    have found : Function.update queue.heap node (some (Cell.mk msg none)) last = some ⟨value, none⟩ := by
      rw [Function.update_of_ne other]
      exact represents.chain.last
    have chain := (represents.chain.update notIn (some ⟨msg, none⟩)).snoc represents.distinct stored notIn
    refine ⟨Function.update (Function.update queue.heap node (some ⟨msg, none⟩)) last (some ⟨value, some node⟩),
      ?_, ?_, ?_⟩
    · unfold CVNQueue.link
      rw [header, tail]
      dsimp only [Option.bind_some]
      rw [found, Option.map_some, Option.some_or]
    · rw [header, Option.some_or, ← header, List.append_assoc]
      exact chain
    · intro address allocated
      by_cases same : address = last
      · rw [same, List.map_append, List.map_append]
        exact List.mem_append_left _ (List.mem_append_right _ List.mem_cons_self)
      · rw [Function.update_of_ne same] at allocated
        exact owned address allocated

theorem insertNode (represents : Represents queue nodes) {node : Address} (msg : Msg) (free : queue.heap node = none) :
    ∃ after, queue.insertNode (some msg) (some node) = some (after, true) ∧
      Represents after (nodes ++ [(node, msg)]) := by
  obtain ⟨heap, linked, chain, owned⟩ := represents.link_last msg free
  have distinct : ((nodes ++ [(node, msg)]).map Prod.fst).Nodup := by
    rw [List.map_append]
    exact represents.distinct.append (List.nodup_singleton node)
      (List.disjoint_singleton.mpr (represents.unowned free))
  have places := distinct.length_le_card
  rw [List.length_map, Fintype.card_fin, List.length_append, List.length_singleton] at places
  refine ⟨⟨heap, wrap 32 (queue.count + 1), queue.header.or (some node), some node⟩, ?_, chain, distinct, ?_, ?_, owned⟩
  · unfold CVNQueue.insertNode
    dsimp only
    rw [linked, Option.map_some]
  · intro last ends
    rw [List.getLast?_append, List.getLast?_singleton, Option.some_or] at ends
    cases ends
    rfl
  · rw [List.length_append, List.length_singleton, represents.count, ← Nat.cast_succ]
    exact wrap_count places

theorem getNode_empty (represents : Represents queue []) : queue.getNode = some (queue, none) := by
  have header : queue.header = none := represents.chain
  unfold CVNQueue.getNode
  rw [header]

theorem getNode {node : Address} {msg : Msg} (represents : Represents queue ((node, msg) :: nodes)) :
    ∃ after, queue.getNode = some (after, some msg) ∧ Represents after nodes := by
  obtain ⟨header, next, found, rest⟩ := represents.chain
  obtain ⟨apart, distinct⟩ := List.nodup_cons.mp represents.distinct
  obtain ⟨last, ends⟩ : ∃ last, ((node, msg) :: nodes).getLast? = some last :=
    ⟨_, List.getLast?_eq_some_getLast (List.cons_ne_nil _ _)⟩
  have tail := represents.tail last ends
  refine ⟨⟨Function.update queue.heap node none, wrap 32 (queue.count - 1), next, queue.tail⟩, ?_, ?_⟩
  · unfold CVNQueue.getNode
    rw [header, tail]
    dsimp only
    rw [found, Option.map_some]
  · refine ⟨rest.update apart none, distinct, ?_, ?_, ?_⟩
    · -- The tail stays: it is that of the remaining nodes, or of none if this was the last.
      intro after atEnd
      cases nodes with
      | nil => cases atEnd
      | cons second nodes =>
        rw [List.getLast?_cons_cons] at ends
        exact represents.tail after (by rw [List.getLast?_cons_cons]; exact atEnd)
    · have within : nodes.length ≤ nodePlaces := Nat.le_of_succ_le represents.length_le
      rw [represents.count, List.length_cons, Nat.cast_succ, add_sub_cancel_right]
      exact wrap_count within
    · intro address allocated
      obtain ⟨other, allocated⟩ := Chain.allocated_free allocated
      exact (List.mem_cons.mp (represents.owned address allocated)).resolve_left other

theorem resetLoop_chain {heap : Heap Address Msg} {node : Address} {msg : Msg} {next : Option Address}
    (found : heap node = some ⟨msg, next⟩) (chain : Chain heap next nodes)
    (distinct : (((node, msg) :: nodes).map Prod.fst).Nodup) (deleted : List Msg) {fuel : Nat}
    (turns : nodes.length < fuel) :
    ∃ emptied, CVNQueue.resetLoop fuel heap (some node) next deleted =
        some (emptied, deleted ++ ((node, msg) :: nodes).map Prod.snd) ∧
      ∀ address, emptied address ≠ none → heap address ≠ none ∧ address ∉ ((node, msg) :: nodes).map Prod.fst := by
  -- The loop deletes the nodes of the chain and their messages, and follows none that is deleted.
  obtain ⟨fuel, rfl⟩ : ∃ left, fuel = left + 1 := ⟨fuel - 1, by omega⟩
  induction nodes generalizing heap node msg next deleted fuel with
  | nil =>
    obtain rfl : next = none := chain
    refine ⟨Function.update heap node none, ?_, ?_⟩
    · unfold CVNQueue.resetLoop
      rw [found]
      unfold CVNQueue.resetLoop
      rfl
    · intro address allocated
      obtain ⟨other, allocated⟩ := Chain.allocated_free allocated
      exact ⟨allocated, List.not_mem_cons_of_ne_of_not_mem other List.not_mem_nil⟩
  | cons second nodes ih =>
    obtain ⟨rfl, after, follows, rest⟩ := chain
    obtain ⟨apart, distinct⟩ := List.nodup_cons.mp distinct
    obtain ⟨left, rfl⟩ : ∃ left, fuel = left + 1 := ⟨fuel - 1, by rw [List.length_cons] at turns; omega⟩
    have remains : Function.update heap node none second.1 = some ⟨second.2, after⟩ := by
      rw [Function.update_of_ne (Ne.symm (List.ne_of_not_mem_cons apart))]
      exact follows
    have chain := rest.update (List.not_mem_of_not_mem_cons apart) none
    obtain ⟨emptied, loop, none⟩ := ih remains chain distinct (deleted ++ [msg]) left (Nat.lt_of_succ_lt_succ turns)
    refine ⟨emptied, ?_, ?_⟩
    · unfold CVNQueue.resetLoop
      rw [found]
      dsimp only [Option.bind_some]
      rw [remains]
      dsimp only [Option.bind_some]
      rw [loop, List.append_assoc]
      rfl
    · intro address allocated
      obtain ⟨before, notIn⟩ := none address allocated
      obtain ⟨other, before⟩ := Chain.allocated_free before
      exact ⟨before, List.not_mem_cons_of_ne_of_not_mem other notIn⟩

theorem resetQueue (represents : Represents queue nodes) :
    ∃ after, queue.resetQueue = some (after, nodes.map Prod.snd) ∧ Represents after [] := by
  have emptied : ∀ heap : Heap Address Msg, (∀ address, heap address = none) →
      Represents (⟨heap, 0, none, none⟩ : CVNQueue Msg) [] := by
    intro heap empty
    refine ⟨rfl, List.nodup_nil, ?_, rfl, fun address allocated => absurd (empty address) allocated⟩
    intro last ends
    cases ends
  cases nodes with
  | nil =>
    have header : queue.header = none := represents.chain
    refine ⟨⟨queue.heap, 0, none, none⟩, ?_, emptied _ fun address => ?_⟩
    · unfold CVNQueue.resetQueue
      rw [header]
      rfl
    · by_contra allocated
      cases represents.owned address allocated
  | cons first nodes =>
    obtain ⟨header, next, found, chain⟩ := represents.chain
    have turns : nodes.length < nodePlaces := represents.length_le
    obtain ⟨heap, loop, none⟩ := resetLoop_chain found chain represents.distinct [] turns
    refine ⟨⟨heap, 0, .none, .none⟩, ?_, emptied heap fun address => ?_⟩
    · unfold CVNQueue.resetQueue
      rw [header]
      dsimp only
      rw [found, Option.bind_some]
      dsimp only
      rw [loop, Option.map_some, List.nil_append]
    · by_contra allocated
      obtain ⟨before, notIn⟩ := none address allocated
      exact notIn (represents.owned address before)

end Represents

/-- `insertNode` takes no place but the one that it is given. -/
theorem CVNQueue.insertNode_heap {queue after : CVNQueue Msg} {msg : Msg} {node address : Address} {done : Bool}
    (inserted : queue.insertNode (some msg) (some node) = some (after, done)) (taken : after.heap address ≠ none) :
    address = node ∨ queue.heap address ≠ none := by
  obtain ⟨linked, link, same⟩ := Option.map_eq_some_iff.mp inserted
  cases same
  have stored {place : Address} (here : Function.update queue.heap node (some ⟨msg, none⟩) place ≠ none) :
      place = node ∨ queue.heap place ≠ none := by
    by_cases new : place = node
    · exact Or.inl new
    · rw [Function.update_of_ne new] at here
      exact Or.inr here
  unfold CVNQueue.link at link
  split at link
  · cases link
    exact stored taken
  · obtain ⟨last, -, link⟩ := Option.bind_eq_some_iff.mp link
    obtain ⟨cell, found, same⟩ := Option.map_eq_some_iff.mp link
    cases same
    by_cases atLast : address = last
    · rw [atLast]
      exact stored (by rw [found]; exact Option.some_ne_none cell)
    · dsimp only at taken
      rw [Function.update_of_ne atLast] at taken
      exact stored taken

/-! ## Runs -/

/-- A call does to the nodes what it does to the list. -/
theorem step_refines {call : Call Msg} (represents : Represents queue nodes)
    (allocates : ∀ msg new, call = .insertNode msg (some new) → queue.heap new = none) :
    ∃ after nodes', queue.step call = some (after, (fifoStep (nodes.map Prod.snd) call).2) ∧
      Represents after nodes' ∧ nodes'.map Prod.snd = (fifoStep (nodes.map Prod.snd) call).1 := by
  cases call with
  | insertNode msg new =>
    cases msg with
    | none => exact ⟨queue, nodes, rfl, represents, rfl⟩
    | some msg =>
      cases new with
      | none => exact ⟨queue, nodes, rfl, represents, rfl⟩
      | some node =>
        obtain ⟨after, inserted, stands⟩ := represents.insertNode msg (allocates (some msg) node rfl)
        refine ⟨after, nodes ++ [(node, msg)], ?_, stands, ?_⟩
        · unfold CVNQueue.step
          dsimp only
          rw [inserted, Option.map_some]
          rfl
        · rw [List.map_append]
          rfl
  | getNode =>
    cases nodes with
    | nil =>
      refine ⟨queue, [], ?_, represents, rfl⟩
      unfold CVNQueue.step
      dsimp only
      rw [represents.getNode_empty, Option.map_some]
      rfl
    | cons first nodes =>
      obtain ⟨after, taken, stands⟩ := represents.getNode
      refine ⟨after, nodes, ?_, stands, rfl⟩
      unfold CVNQueue.step
      dsimp only
      rw [taken, Option.map_some]
      rfl
  | resetQueue =>
    obtain ⟨after, reset, stands⟩ := represents.resetQueue
    refine ⟨after, [], ?_, stands, rfl⟩
    unfold CVNQueue.step
    dsimp only
    rw [reset, Option.map_some]
    rfl

theorem run_refines {calls : List (Call Msg)} (represents : Represents queue nodes)
    (allocates : CVNQueue.Allocates queue calls) :
    ∃ after nodes', queue.run calls = some (after, (fifoRun (nodes.map Prod.snd) calls).2) ∧
      Represents after nodes' ∧ nodes'.map Prod.snd = (fifoRun (nodes.map Prod.snd) calls).1 := by
  induction calls generalizing queue nodes with
  | nil => exact ⟨queue, nodes, rfl, represents, rfl⟩
  | cons call rest ih =>
    obtain ⟨middle, between, stepped, stands, list⟩ := step_refines represents allocates.1
    obtain ⟨after, last, ran, ends, final⟩ := ih stands (allocates.2 _ stepped)
    rw [list] at ran final
    refine ⟨after, last, ?_, ends, final⟩
    unfold CVNQueue.run
    rw [stepped, Option.bind_some]
    dsimp only
    rw [ran, Option.map_some]
    rfl

def entered (calls : List (Call Msg)) : List Msg := calls.flatMap fun call =>
  match call with
  | .insertNode (some msg) (some _) => [msg]
  | _ => []

def gone (answers : List (Answer Msg)) : List Msg := answers.flatMap fun answer =>
  match answer with
  | .got msg => msg.toList
  | .deleted msgs => msgs
  | .inserted _ => []

theorem fifoStep_conserves (list : List Msg) (call : Call Msg) :
    list ++ entered [call] = gone [(fifoStep list call).2] ++ (fifoStep list call).1 := by
  cases call with
  | insertNode msg new =>
    cases msg with
    | none => exact List.append_nil list
    | some msg =>
      cases new with
      | none => exact List.append_nil list
      | some node => rfl
  | getNode =>
    cases list with
    | nil => rfl
    | cons msg rest => exact List.append_nil (msg :: rest)
  | resetQueue =>
    calc list ++ [] = list := List.append_nil list
      _ = list ++ [] ++ [] := by rw [List.append_nil, List.append_nil]

/-- What was there and what comes goes once, in this order, or remains. -/
theorem fifoRun_conserves (list : List Msg) (calls : List (Call Msg)) :
    list ++ entered calls = gone (fifoRun list calls).2 ++ (fifoRun list calls).1 := by
  induction calls generalizing list with
  | nil => exact List.append_nil list
  | cons call rest ih =>
    have comes : entered ([call] ++ rest) = entered [call] ++ entered rest := List.flatMap_append
    have goes : gone ([(fifoStep list call).2] ++ (fifoRun (fifoStep list call).1 rest).2) =
        gone [(fifoStep list call).2] ++ gone (fifoRun (fifoStep list call).1 rest).2 := List.flatMap_append
    calc list ++ entered (call :: rest) = list ++ entered [call] ++ entered rest := by
          rw [List.append_assoc, ← comes]
          rfl
      _ = gone [(fifoStep list call).2] ++ ((fifoStep list call).1 ++ entered rest) := by
          rw [fifoStep_conserves, List.append_assoc]
      _ = gone [(fifoStep list call).2] ++ gone (fifoRun (fifoStep list call).1 rest).2 ++
            (fifoRun (fifoStep list call).1 rest).1 := by
          rw [ih, List.append_assoc]
      _ = gone (fifoRun list (call :: rest)).2 ++ (fifoRun list (call :: rest)).1 := by
          rw [← goes]
          rfl

/-- The queue answers as the list does, follows no pointer to a deleted node, and counts its messages. -/
theorem run_isFifo (calls : List (Call Msg)) (allocates : CVNQueue.Allocates CVNQueue.new calls) :
    ∃ after nodes, (CVNQueue.new : CVNQueue Msg).run calls = some (after, (fifoRun [] calls).2) ∧
      Represents after nodes ∧ nodes.map Prod.snd = (fifoRun [] calls).1 ∧
      after.count = (fifoRun [] calls).1.length ∧
      entered calls = gone (fifoRun [] calls).2 ++ (fifoRun [] calls).1 := by
  obtain ⟨after, nodes, ran, stands, list⟩ := run_refines Represents.new allocates
  refine ⟨after, nodes, ran, stands, list, ?_, fifoRun_conserves [] calls⟩
  rw [stands.count]
  exact congrArg Nat.cast ((List.length_map Prod.snd).symm.trans (congrArg List.length list))

theorem run_isFifo_reused : ∃ calls : List (Call Nat), CVNQueue.Allocates CVNQueue.new calls ∧
    calls = [.insertNode (some 7) (some ⟨3, by decide⟩), .getNode, .insertNode (some 8) (some ⟨3, by decide⟩)] ∧
    ∃ after nodes, (CVNQueue.new : CVNQueue Nat).run calls = some (after, (fifoRun [] calls).2) ∧
      Represents after nodes ∧ nodes.map Prod.snd = (fifoRun [] calls).1 ∧
      after.count = (fifoRun [] calls).1.length ∧
      entered calls = gone (fifoRun [] calls).2 ++ (fifoRun [] calls).1 := by
  -- The place of the first node is used again while the tail still points to it.
  have allocates : CVNQueue.Allocates (CVNQueue.new : CVNQueue Nat)
      [.insertNode (some 7) (some ⟨3, by decide⟩), .getNode, .insertNode (some 8) (some ⟨3, by decide⟩)] := by
    refine ⟨?_, ?_⟩
    · rintro msg node ⟨⟩
      rfl
    rintro after ⟨⟩
    refine ⟨?_, ?_⟩
    · rintro msg node same
      cases same
    rintro after ⟨⟩
    refine ⟨?_, ?_⟩
    · rintro msg node ⟨⟩
      dsimp only
      rw [Function.update_self]
    · exact fun _ _ => trivial
  exact ⟨_, allocates, rfl, run_isFifo _ allocates⟩

end Foolject.VNClib.QueueNodes
