import Mathlib.Data.List.Range
import Foolject.Lib.Linked
import Foolject.Lib.Transition
import Foolject.VNClib.Connection

/-! The slots for the connections of clients, as `CVNConnection` keeps them.

The free slots are a list that is threaded through an array, with its first and its last element.
The constructor sets the last one from the counter of its loop over the send channels, which are
fewer. `VNHaltServer` sets it to the last slot.
-/

set_option autoImplicit false

namespace Foolject.VNClib
open Linked

@[simp] def maxRecvChan : Nat := 1024

structure RecvSlots where
  arrayRecvFree : Nat → Nat
  headerFree : Nat
  tailFree : Nat
  recCnt : Int

namespace RecvSlots

def initialConnection : RecvSlots where
  arrayRecvFree i := i + 1
  headerFree := 0
  tailFree := maxSendChan - 1
  recCnt := 0

def clearListenerHandle : RecvSlots where
  arrayRecvFree i := i + 1
  headerFree := 0
  tailFree := maxRecvChan - 1
  recCnt := 0

def addAFreeChannel (slots : RecvSlots) (chanID : Nat) : RecvSlots :=
  -- With no slot free there is no last one to link.
  let free :=
    if slots.tailFree < maxRecvChan then Function.update slots.arrayRecvFree slots.tailFree chanID
    else slots.arrayRecvFree
  { arrayRecvFree := Function.update free chanID maxRecvChan
    headerFree := if slots.headerFree = maxRecvChan then chanID else slots.headerFree
    tailFree := chanID
    recCnt := slots.recCnt - 1 }

def reduceAFreeChannel (slots : RecvSlots) (accepted : Bool) : Nat × RecvSlots :=
  let free := slots.headerFree
  if accepted = false then (maxRecvChan, slots)
  else if free < maxRecvChan then
    -- The last one of the list, whether or not its link goes on.
    if slots.headerFree = slots.tailFree then
      (free, { slots with headerFree := maxRecvChan, tailFree := maxRecvChan, recCnt := slots.recCnt + 1 })
    else (free, { slots with headerFree := slots.arrayRecvFree free, recCnt := slots.recCnt + 1 })
  else (free, slots)

/-! ## Runs -/

inductive Event where
  | accept (accepted : Bool)
  /-- The thread that serves this slot ends. -/
  | ended (chanID : Nat)
  | haltServer
  deriving DecidableEq, Repr

/-- The slots, with the ids that were handed out and whose threads have not ended. -/
structure Server where
  slots : RecvSlots
  used : List Nat

def Server.step (server : Server) : Event → Option Server
  | .accept accepted =>
    let result := server.slots.reduceAFreeChannel accepted
    some ⟨result.2, if result.1 < maxRecvChan then result.1 :: server.used else server.used⟩
  | .ended chanID =>
    if chanID ∈ server.used then some ⟨server.slots.addAFreeChannel chanID, server.used.erase chanID⟩
    else none
  -- `VNHaltServer` waits for the threads before it clears the array.
  | .haltServer => if server.used = [] then some ⟨clearListenerHandle, []⟩ else none

def system : System Server Event := .ofStep (fun server => server = ⟨initialConnection, []⟩) Server.step

/-! ## The list of free slots -/

/-- The free slots that the links lead to, up to the last one. -/
structure Chains (slots : RecvSlots) (free : List Nat) : Prop where
  links : Links slots.arrayRecvFree free
  header : slots.headerFree = free.head?.getD maxRecvChan
  tail : slots.tailFree = free.getLast?.getD maxRecvChan

variable {slots : RecvSlots} {free : List Nat} {chanID : Nat}

theorem Chains.range {last : Nat} : Chains ⟨fun i => i + 1, 0, last, 0⟩ (List.range (last + 1)) where
  links := (List.isChain_range_succ _ last).mpr fun _ _ => rfl
  header := by rw [List.head?_range, if_neg (Nat.succ_ne_zero last), Option.getD_some]
  tail := by
    rw [List.range_succ, List.getLast?_concat, Option.getD_some]

theorem Chains.reduce_nil (chains : slots.Chains []) : slots.reduceAFreeChannel true = (maxRecvChan, slots) := by
  have empty : slots.headerFree = maxRecvChan := chains.header
  unfold reduceAFreeChannel
  rw [empty, if_neg (by decide), if_neg (Nat.lt_irrefl _)]

theorem Chains.reduce_cons (chains : slots.Chains (chanID :: free)) (distinct : (chanID :: free).Nodup)
    (valid : chanID < maxRecvChan) : ∃ next, slots.reduceAFreeChannel true = (chanID, next) ∧
      next.Chains free ∧ next.recCnt = slots.recCnt + 1 := by
  have first : slots.headerFree = chanID := chains.header
  have last := chains.tail
  unfold reduceAFreeChannel
  rw [first, if_neg (by decide), if_pos valid]
  cases free with
  | nil =>
    have single : slots.tailFree = chanID := last
    rw [if_pos single.symm]
    exact ⟨_, rfl, ⟨List.isChain_nil, rfl, rfl⟩, rfl⟩
  | cons second rest =>
    -- The last one is another one than the first.
    have other : chanID ≠ slots.tailFree := by
      rintro same
      obtain ⟨fresh, -⟩ := List.nodup_cons.mp distinct
      rw [List.getLast?_cons_cons, List.getLast?_eq_some_getLast (List.cons_ne_nil _ _), Option.getD_some] at last
      exact fresh (same ▸ last ▸ List.getLast_mem _)
    rw [if_neg other]
    refine ⟨_, rfl, ⟨chains.links.tail, ?_, ?_⟩, rfl⟩
    · exact chains.links.second
    · rw [List.getLast?_cons_cons] at last
      exact last

theorem Chains.add (chains : slots.Chains free) (distinct : (free ++ [chanID]).Nodup)
    (valid : ∀ i ∈ free, i < maxRecvChan) : (slots.addAFreeChannel chanID).Chains (free ++ [chanID]) := by
  obtain ⟨distinctFree, -, apart⟩ := List.nodup_append.mp distinct
  have absent : chanID ∉ free := fun member => apart chanID member chanID (List.mem_singleton_self _) rfl
  have header := chains.header
  have tail := chains.tail
  cases free using List.reverseRecOn with
  | nil =>
    have empty : slots.headerFree = maxRecvChan := header
    have none : slots.tailFree = maxRecvChan := tail
    constructor
    · exact List.isChain_singleton chanID
    · unfold addAFreeChannel
      rw [if_pos empty]
      rfl
    · rfl
  | append_singleton front last _ =>
    rw [List.getLast?_concat, Option.getD_some] at tail
    have inside : slots.tailFree < maxRecvChan := by
      rw [tail]
      exact valid last (List.mem_append_right _ (List.mem_singleton_self _))
    obtain ⟨first, starts⟩ : ∃ first, (front ++ [last]).head? = some first :=
      Option.isSome_iff_exists.mp (List.isSome_head?.mpr (List.append_ne_nil_of_right_ne_nil _ (List.cons_ne_nil _ _)))
    rw [starts, Option.getD_some] at header
    have some_ : slots.headerFree ≠ maxRecvChan := by
      rw [header]
      exact (valid first (List.mem_of_head? starts)).ne
    have linked : Links (Function.update slots.arrayRecvFree last chanID) (front ++ [last] ++ [chanID]) :=
      chains.links.snoc distinctFree List.getLast?_concat
    unfold addAFreeChannel
    rw [if_pos inside, if_neg some_, tail]
    constructor
    · exact linked.update distinct (fun _ => List.getLast?_concat) maxRecvChan
    · rw [List.head?_append, starts]
      exact header
    · rw [List.getLast?_concat]
      rfl

/-! ## What holds in every run -/

def listed (halted : Prop) [Decidable halted] : Nat := if halted then maxRecvChan else maxSendChan

/-- The free slots and those in use are distinct and valid, and there are as many as were listed. -/
structure Conserved (trace : List Event) (server : Server) (free : List Nat) : Prop where
  chains : server.slots.Chains free
  distinct : (free ++ server.used).Nodup
  valid : ∀ i ∈ free ++ server.used, i < maxRecvChan
  count : server.slots.recCnt = server.used.length
  total : free.length + server.used.length = listed (.haltServer ∈ trace)

variable {trace : List Event} {server next : Server}

theorem conserved_initial : Conserved [] ⟨initialConnection, []⟩ (List.range maxSendChan) where
  chains := .range
  distinct := by rw [List.append_nil]; exact List.nodup_range
  valid i member := by
    rw [List.append_nil] at member
    exact lt_trans (List.mem_range.mp member) (by decide)
  count := rfl
  total := by
    rw [List.length_range, listed, if_neg (by simp)]
    rfl

theorem conserved_halted (trace : List Event) :
    Conserved (trace ++ [.haltServer]) ⟨clearListenerHandle, []⟩ (List.range maxRecvChan) where
  chains := .range
  distinct := by rw [List.append_nil]; exact List.nodup_range
  valid i member := by
    rw [List.append_nil] at member
    exact List.mem_range.mp member
  count := rfl
  total := by
    rw [List.length_range, listed, if_pos (by simp)]
    rfl

theorem listed_snoc {event : Event} (goesOn : event ≠ .haltServer) :
    listed (.haltServer ∈ trace ++ [event]) = listed (.haltServer ∈ trace) := by
  have same : (.haltServer ∈ trace ++ [event]) ↔ .haltServer ∈ trace := by
    rw [List.mem_append, List.mem_singleton]
    exact or_iff_left fun halt => goesOn halt.symm
  unfold listed
  simp only [same]

theorem Conserved.same (conserved : Conserved trace server free) {event : Event} (goesOn : event ≠ .haltServer) :
    Conserved (trace ++ [event]) server free :=
  ⟨conserved.chains, conserved.distinct, conserved.valid, conserved.count, by
    rw [listed_snoc goesOn]
    exact conserved.total⟩

theorem Conserved.accept (conserved : Conserved trace server free) (accepted : Bool)
    (stepped : server.step (.accept accepted) = some next) :
    ∃ free, Conserved (trace ++ [.accept accepted]) next free := by
  have goesOn : Event.accept accepted ≠ .haltServer := by nofun
  unfold Server.step at stepped
  cases accepted with
  | false =>
    cases stepped
    exact ⟨free, conserved.same goesOn⟩
  | true =>
    cases free with
    | nil =>
      simp only [conserved.chains.reduce_nil, Nat.lt_irrefl, if_false] at stepped
      cases stepped
      exact ⟨[], conserved.same goesOn⟩
    | cons chanID rest =>
      have valid : chanID < maxRecvChan := conserved.valid chanID (List.mem_cons_self)
      have distinct := conserved.distinct
      obtain ⟨slots, reduced, chains, count⟩ :=
        conserved.chains.reduce_cons (List.nodup_append.mp distinct).1 valid
      simp only [reduced, if_pos valid] at stepped
      cases stepped
      -- The slot moves from the free ones to those in use.
      have moved : (rest ++ chanID :: server.used).Perm (chanID :: rest ++ server.used) := List.perm_middle
      refine ⟨rest, chains, moved.nodup_iff.mpr distinct, fun i member => ?_, ?_, ?_⟩
      · exact conserved.valid i (moved.mem_iff.mp member)
      · rw [count, conserved.count, List.length_cons]
        rfl
      · have total := conserved.total
        rw [listed_snoc goesOn, ← total, List.length_cons, List.length_cons]
        omega

theorem Conserved.ended (conserved : Conserved trace server free) {chanID : Nat}
    (stepped : server.step (.ended chanID) = some next) :
    ∃ free, Conserved (trace ++ [.ended chanID]) next free := by
  have goesOn : Event.ended chanID ≠ .haltServer := by nofun
  obtain ⟨inUse, given⟩ := Option.ite_none_right_eq_some.mp stepped
  cases given
  -- The slot moves from those in use to the end of the free ones.
  have moved : (free ++ [chanID] ++ server.used.erase chanID).Perm (free ++ server.used) := by
    rw [List.append_assoc, List.singleton_append]
    exact (List.perm_cons_erase inUse).symm.append_left free
  have distinct := moved.nodup_iff.mpr conserved.distinct
  have valid : ∀ i ∈ free, i < maxRecvChan := fun i member => conserved.valid i (List.mem_append_left _ member)
  refine ⟨free ++ [chanID], ?_, distinct, fun i member => ?_, ?_, ?_⟩
  · exact conserved.chains.add (List.nodup_append.mp distinct).1 valid
  · exact conserved.valid i (moved.mem_iff.mp member)
  · have one : 0 < server.used.length := List.length_pos_of_mem inUse
    have count := conserved.count
    rw [List.length_erase_of_mem inUse]
    change server.slots.recCnt - 1 = _
    omega
  · rw [listed_snoc goesOn, ← conserved.total, ← List.length_append, ← List.length_append]
    exact moved.length_eq

theorem conserved_run (run : system.Run System.Always trace server) : ∃ free, Conserved trace server free := by
  -- The induction is on the run; what is listed depends on whether it has halted the server.
  apply run.invariant fun trace server => ∃ free, Conserved trace server free
  · rintro server rfl
    exact ⟨_, conserved_initial⟩
  · rintro trace server event next ⟨free, conserved⟩ - stepped
    cases event with
    | accept accepted => exact conserved.accept accepted stepped
    | ended chanID => exact conserved.ended stepped
    | haltServer =>
      obtain ⟨-, cleared⟩ := Option.ite_none_right_eq_some.mp stepped
      cases cleared
      exact ⟨_, conserved_halted trace⟩

/-- What a client that is accepted gets: the first free slot, or nothing. -/
theorem Conserved.reduce (conserved : Conserved trace server free) :
    (server.slots.reduceAFreeChannel true).1 = free.head?.getD maxRecvChan := by
  cases free with
  | nil => rw [conserved.chains.reduce_nil, List.head?_nil, Option.getD_none]
  | cons chanID rest =>
    have distinct := (List.nodup_append.mp conserved.distinct).1
    obtain ⟨slots, reduced, -⟩ :=
      conserved.chains.reduce_cons distinct (conserved.valid chanID List.mem_cons_self)
    rw [reduced, List.head?_cons, Option.getD_some]

/-- A client is turned away only when all slots are in use, exactly if the server has been halted once,
or if fewer slots are in use than there are send channels. -/
theorem reduce_turnsAway (run : system.Run System.Always trace server) :
    ((server.slots.reduceAFreeChannel true).1 = maxRecvChan → server.used.length = maxRecvChan) ↔
      (.haltServer ∈ trace ∨ server.used.length < maxSendChan) := by
  obtain ⟨free, conserved⟩ := conserved_run run
  have total := conserved.total
  rw [conserved.reduce]
  unfold listed at total
  simp only [maxRecvChan, maxSendChan] at total ⊢
  cases free with
  | nil =>
    rw [List.length_nil, Nat.zero_add] at total
    rw [List.head?_nil, Option.getD_none, total]
    by_cases halted : .haltServer ∈ trace
    · simp [halted]
    · simp [halted]
  | cons chanID rest =>
    have valid : chanID < 1024 := conserved.valid chanID List.mem_cons_self
    rw [List.length_cons] at total
    rw [List.head?_cons, Option.getD_some]
    constructor
    · intro _
      by_cases halted : .haltServer ∈ trace
      · exact .inl halted
      · rw [if_neg halted] at total
        exact .inr (by omega)
    · intro _ away
      omega

theorem reduce_turnsAway_halted : ∃ server, server.used.length = 2 ∧
    system.Run System.Always [.accept true, .accept true, .ended 0, .ended 1, .haltServer, .accept true, .accept true]
      server ∧
    ((server.slots.reduceAFreeChannel true).1 = maxRecvChan → server.used.length = maxRecvChan) := by
  -- A server that is halted when its first two clients have left, and then gets two others.
  have made : system.Run System.Always [] ⟨initialConnection, []⟩ := .start rfl
  obtain ⟨server, followed, used⟩ := (Option.any_eq_true (fun server : Server => decide (server.used.length = 2)) _).mp
    (show (System.follow System.Always Server.step ⟨initialConnection, []⟩
      [.accept true, .accept true, .ended 0, .ended 1, .haltServer, .accept true, .accept true]).any _ = true from by
        decide +kernel)
  have run := made.follow _ followed
  exact ⟨server, of_decide_eq_true used, run, (reduce_turnsAway run).mpr (.inl (by decide))⟩

theorem reduce_turnsAway_early : ∃ server, system.Reaches System.Always server ∧
    (server.slots.reduceAFreeChannel true).1 = maxRecvChan ∧ server.used.length = 256 := by
  -- The 257th client of a server that has not been halted.
  have made : system.Reaches System.Always ⟨initialConnection, []⟩ := .start rfl
  obtain ⟨server, reached, full⟩ := made.follow_any (List.replicate 256 (.accept true))
    (fun server => decide ((server.slots.reduceAFreeChannel true).1 = maxRecvChan ∧ server.used.length = 256))
    (by decide +kernel)
  exact ⟨server, reached, of_decide_eq_true full⟩

/-- A slot that is handed out has no owner, and the counter is the number of slots that have one. -/
theorem reduce_unowned (reached : system.Reaches System.Always server) (accepted : Bool) :
    (server.slots.reduceAFreeChannel accepted).1 ≤ maxRecvChan ∧
    ((server.slots.reduceAFreeChannel accepted).1 < maxRecvChan →
      (server.slots.reduceAFreeChannel accepted).1 ∉ server.used) ∧
    server.used.Nodup ∧ server.slots.recCnt = server.used.length := by
  obtain ⟨trace, run⟩ := reached
  obtain ⟨free, conserved⟩ := conserved_run run
  obtain ⟨-, distinct, apart⟩ := List.nodup_append.mp conserved.distinct
  refine ⟨?_, ?_, distinct, conserved.count⟩
  · cases accepted with
    | false => exact le_refl _
    | true =>
      rw [conserved.reduce]
      cases free with
      | nil => exact le_refl _
      | cons chanID rest => exact (conserved.valid chanID List.mem_cons_self).le
  · intro handed owned
    cases accepted with
    | false => exact absurd handed (Nat.lt_irrefl _)
    | true =>
      rw [conserved.reduce] at handed owned
      cases free with
      | nil => exact absurd handed (Nat.lt_irrefl _)
      | cons chanID rest => exact apart chanID List.mem_cons_self chanID owned rfl

theorem reduce_unowned_third : ∃ server, system.Reaches System.Always server ∧
    (server.slots.reduceAFreeChannel true).1 = 2 ∧ 2 ∉ server.used ∧ server.slots.recCnt = 1 := by
  -- The third client of a server, after the first one has left.
  have made : system.Reaches System.Always ⟨initialConnection, []⟩ := .start rfl
  obtain ⟨server, reached, after⟩ := made.follow_any [.accept true, .accept true, .ended 0]
    (fun server => decide ((server.slots.reduceAFreeChannel true).1 = 2 ∧ server.used = [1])) (by decide +kernel)
  obtain ⟨third, used⟩ := of_decide_eq_true after
  obtain ⟨-, unowned, -, count⟩ := reduce_unowned reached true
  rw [third] at unowned
  rw [used] at count
  exact ⟨server, reached, third, unowned (by decide), count⟩

end RecvSlots

end Foolject.VNClib
