import Foolject.Lib.Transducer
import Foolject.VNClib.QueueNodes
import Foolject.VNClib.SendTable

/-! A group of queues, from `createQueueGroup` to `freeQueueGroup` and beyond.

A creation that fails leaves the number of queues with no array, and `freeQueueGroup` leaves the pointer
to the array that it deletes. `none` is a call that follows such a pointer. The group is the same
whatever its queues are: the nodes in memory, or the lists that they stand for.
-/

set_option autoImplicit false

namespace Foolject.VNClib.QueueGroup
open QueueNodes Transducer

variable {Msg Queue Other : Type}

inductive Storage (Queue : Type) where
  | null
  | live (queues : Nat → Queue)
  | deleted

structure CVNQueueGroup (Queue : Type) where
  count : Nat
  queueGroup : Storage Queue

inductive GroupCall (Msg : Type) where
  /-- `initialised` tells whether `InitQueue` succeeds for every queue. -/
  | createQueueGroup (count : Nat) (initialised : Bool)
  | freeQueueGroup
  | insertMsg (queueID : Nat) (msg : Option Msg) (new : Option Address)
  | getMsg (queueID : Nat)
  /-- With what the semaphore of the queue answers. -/
  | waitForQueueNotEmpty (queueID : Nat) (signalled : Bool)
  | resetQueue (queueID : Nat)
  deriving DecidableEq

inductive GroupAnswer (Msg : Type) where
  /-- TRUE or FALSE from the group itself, or null from `getMsg`. -/
  | told (done : Bool)
  | freed (msgs : List Msg)
  /-- What a queue of the group answers. -/
  | queue (queueID : Nat) (answer : QueueNodes.Answer Msg)
  deriving DecidableEq

structure Queues (Msg Queue : Type) where
  new : Queue
  step : Queue → Call Msg → Option (Queue × QueueNodes.Answer Msg)

def inMemory : Queues Msg (QueueNodes.CVNQueue Msg) := ⟨.new, QueueNodes.CVNQueue.step⟩

def asLists : Queues Msg (List Msg) := ⟨[], fun list call => some (fifoStep list call)⟩

namespace CVNQueueGroup

def new : CVNQueueGroup Queue := ⟨0, .null⟩

section Steps
variable (kind : Queues Msg Queue) (group : CVNQueueGroup Queue)

def createQueueGroup (count : Nat) (initialised : Bool) : CVNQueueGroup Queue × Bool :=
  if maxQueueCnt < count then (group, false)
  else if count = 0 ∨ initialised = true then (⟨count, .live fun _ => kind.new⟩, true)
  else (⟨count, .null⟩, false)

/-- The loop of `freeQueueGroup`: the messages that are deleted. -/
def resetAll (queues : Nat → Queue) : List Nat → Option (List Msg)
  | [] => some []
  | i :: rest => (kind.step (queues i) .resetQueue).bind fun after =>
    (resetAll queues rest).map fun later => gone [after.2] ++ later

def freeQueueGroup : Option (CVNQueueGroup Queue × List Msg) :=
  match group.queueGroup with
  | .null => some (group, [])
  | .deleted => none
  | .live queues =>
    (resetAll kind queues (List.range group.count)).map fun msgs => ({ group with queueGroup := .deleted }, msgs)

def onQueue (queues : Nat → Queue) (queueID : Nat) (call : Call Msg) : Option (CVNQueueGroup Queue × GroupAnswer Msg) :=
  (kind.step (queues queueID) call).map fun after =>
    ({ group with queueGroup := .live (Function.update queues queueID after.1) }, .queue queueID after.2)

/-- `getMsg` and `ResetQueue`: only the number of queues is looked at. -/
def unchecked (queueID : Nat) (call : Call Msg) : Option (CVNQueueGroup Queue × GroupAnswer Msg) :=
  if group.count ≤ queueID then some (group, .told false)
  else
    match group.queueGroup with
    | .live queues => onQueue kind group queues queueID call
    | _ => none

def insertMsg (queueID : Nat) (msg : Option Msg) (new : Option Address) :
    Option (CVNQueueGroup Queue × GroupAnswer Msg) :=
  match group.queueGroup with
  | .null => some (group, .told false)
  | _ => unchecked kind group queueID (.insertNode msg new)

def waitForQueueNotEmpty (queueID : Nat) (signalled : Bool) : Option (CVNQueueGroup Queue × GroupAnswer Msg) :=
  if group.count ≤ queueID then some (group, .told false)
  else
    match group.queueGroup with
    | .live _ => some (group, .told signalled)
    | _ => none

def step : GroupCall Msg → Option (CVNQueueGroup Queue × GroupAnswer Msg)
  | .createQueueGroup count initialised =>
    some ((createQueueGroup kind group count initialised).1, .told (createQueueGroup kind group count initialised).2)
  | .freeQueueGroup => (freeQueueGroup kind group).map fun after => (after.1, .freed after.2)
  | .insertMsg queueID msg new => insertMsg kind group queueID msg new
  | .getMsg queueID => unchecked kind group queueID .getNode
  | .waitForQueueNotEmpty queueID signalled => waitForQueueNotEmpty group queueID signalled
  | .resetQueue queueID => unchecked kind group queueID .resetQueue

end Steps

def run (kind : Queues Msg Queue) : CVNQueueGroup Queue → List (GroupCall Msg) → Option (List (GroupAnswer Msg))
  | _, [] => some []
  | group, call :: rest => (step kind group call).bind fun after => (run kind after.1 rest).map (after.2 :: ·)

/-- `new` gives a place that holds no node of any queue. -/
def Fresh (group : CVNQueueGroup (QueueNodes.CVNQueue Msg)) (call : GroupCall Msg) : Prop :=
  ∀ queueID msg address queues, call = .insertMsg queueID msg (some address) → group.queueGroup = .live queues →
    ∀ i, (queues i).heap address = none

def Allocates : CVNQueueGroup (QueueNodes.CVNQueue Msg) → List (GroupCall Msg) → Prop
  | _, [] => True
  | group, call :: rest => Fresh group call ∧ ∀ after, step inMemory group call = some after → Allocates after.1 rest

end CVNQueueGroup

/-! ## Nodes and lists -/

def StandFor (queues : Nat → QueueNodes.CVNQueue Msg) (lists : Nat → List Msg) : Prop :=
  ∀ i, ∃ nodes, Represents (queues i) nodes ∧ nodes.map Prod.snd = lists i

inductive Stands : Storage (QueueNodes.CVNQueue Msg) → Storage (List Msg) → Prop where
  | null : Stands .null .null
  | deleted : Stands .deleted .deleted
  | live {queues : Nat → QueueNodes.CVNQueue Msg} {lists : Nat → List Msg} :
      StandFor queues lists → Stands (.live queues) (.live lists)

/-- A call of both groups ends in the same way, and if it does not fail, they go on alike. -/
inductive Matches : Option (CVNQueueGroup (QueueNodes.CVNQueue Msg) × GroupAnswer Msg) →
    Option (CVNQueueGroup (List Msg) × GroupAnswer Msg) → Prop where
  | fails : Matches none none
  | goesOn {group : CVNQueueGroup (QueueNodes.CVNQueue Msg)} {lists : CVNQueueGroup (List Msg)}
      (answer : GroupAnswer Msg) : group.count = lists.count → Stands group.queueGroup lists.queueGroup →
      Matches (some (group, answer)) (some (lists, answer))

namespace CVNQueueGroup

variable {queues : Nat → QueueNodes.CVNQueue Msg} {lists : Nat → List Msg}

theorem onQueue_matches (stands : StandFor queues lists)
    {group : CVNQueueGroup (QueueNodes.CVNQueue Msg)} {other : CVNQueueGroup (List Msg)}
    (counts : group.count = other.count) {queueID : Nat} {call : Call Msg}
    (allocates : ∀ msg new, call = .insertNode msg (some new) → (queues queueID).heap new = none) :
    Matches (onQueue inMemory group queues queueID call) (onQueue asLists other lists queueID call) := by
  obtain ⟨nodes, represents, same⟩ := stands queueID
  obtain ⟨after, nodes', stepped, represents', same'⟩ := step_refines represents allocates
  have inNodes : onQueue inMemory group queues queueID call = some
      ({ group with queueGroup := .live (Function.update queues queueID after) },
        .queue queueID (fifoStep (lists queueID) call).2) := by
    rw [← same]
    exact congrArg (Option.map _) stepped
  rw [inNodes]
  refine .goesOn _ counts (.live fun i => ?_)
  by_cases this : i = queueID
  · subst this
    rw [Function.update_self, Function.update_self]
    exact ⟨nodes', represents', by rw [same', same]⟩
  · rw [Function.update_of_ne this, Function.update_of_ne this]
    exact stands i

theorem resetAll_matches (stands : StandFor queues lists)
    (ids : List Nat) : resetAll inMemory queues ids = some (ids.flatMap lists) ∧
      resetAll asLists lists ids = some (ids.flatMap lists) := by
  induction ids with
  | nil => exact ⟨rfl, rfl⟩
  | cons i rest ih =>
    obtain ⟨nodes, represents, same⟩ := stands i
    obtain ⟨after, reset, -⟩ := represents.resetQueue
    have stepped : inMemory.step (queues i) .resetQueue = some (after, .deleted (lists i)) := by
      rw [← same]
      exact congrArg (Option.map _) reset
    have deletes : gone [QueueNodes.Answer.deleted (lists i)] = lists i := List.append_nil _
    rw [List.flatMap_cons]
    constructor
    · rw [resetAll, stepped, Option.bind_some, ih.1, Option.map_some, deletes]
    · change ((resetAll asLists lists rest).map fun later => gone [.deleted (lists i)] ++ later) = _
      rw [ih.2, Option.map_some, deletes]

theorem unchecked_matches {group : CVNQueueGroup (QueueNodes.CVNQueue Msg)} {other : CVNQueueGroup (List Msg)}
    (counts : group.count = other.count) (stands : Stands group.queueGroup other.queueGroup) {queueID : Nat}
    {call : Call Msg} (allocates : ∀ msg new queues, call = .insertNode msg (some new) →
      group.queueGroup = .live queues → (queues queueID).heap new = none) :
    Matches (unchecked inMemory group queueID call) (unchecked asLists other queueID call) := by
  unfold unchecked
  rw [← counts]
  by_cases outside : group.count ≤ queueID
  · rw [if_pos outside, if_pos outside]
    exact .goesOn _ counts stands
  · rw [if_neg outside, if_neg outside]
    obtain ⟨count, storage⟩ := group
    obtain ⟨count', storage'⟩ := other
    cases stands with
    | null => exact .fails
    | deleted => exact .fails
    | live stands => exact onQueue_matches stands counts fun msg new same => allocates msg new _ same rfl

theorem step_matches {group : CVNQueueGroup (QueueNodes.CVNQueue Msg)} {other : CVNQueueGroup (List Msg)}
    (counts : group.count = other.count) (stands : Stands group.queueGroup other.queueGroup) {call : GroupCall Msg}
    (fresh : Fresh group call) : Matches (step inMemory group call) (step asLists other call) := by
  cases call with
  | createQueueGroup count initialised =>
    unfold step createQueueGroup
    dsimp only
    by_cases large : maxQueueCnt < count
    · rw [if_pos large, if_pos large]
      exact .goesOn _ counts stands
    · rw [if_neg large, if_neg large]
      by_cases all : count = 0 ∨ initialised = true
      · rw [if_pos all, if_pos all]
        exact .goesOn _ rfl (.live fun _ => ⟨[], .new, rfl⟩)
      · rw [if_neg all, if_neg all]
        exact .goesOn _ rfl .null
  | freeQueueGroup =>
    unfold step freeQueueGroup
    obtain ⟨count, storage⟩ := group
    obtain ⟨count', storage'⟩ := other
    obtain rfl : count = count' := counts
    cases stands with
    | null => exact .goesOn _ rfl .null
    | deleted => exact .fails
    | live stands =>
      obtain ⟨reset, resetLists⟩ := resetAll_matches stands (List.range count)
      dsimp only
      rw [reset, resetLists]
      exact .goesOn _ rfl .deleted
  | insertMsg queueID msg new =>
    have inside := @unchecked_matches _ _ _ counts stands queueID (.insertNode msg new) fun message address queues same
      live => by
        cases same
        exact fresh queueID msg address queues rfl live queueID
    unfold step insertMsg
    obtain ⟨count, storage⟩ := group
    obtain ⟨count', storage'⟩ := other
    cases stands with
    | null => exact .goesOn _ counts .null
    | deleted => exact inside
    | live stands => exact inside
  | getMsg queueID => exact unchecked_matches counts stands fun _ _ _ same => by cases same
  | waitForQueueNotEmpty queueID signalled =>
    unfold step waitForQueueNotEmpty
    dsimp only
    rw [← counts]
    by_cases outside : group.count ≤ queueID
    · rw [if_pos outside, if_pos outside]
      exact .goesOn _ counts stands
    · rw [if_neg outside, if_neg outside]
      obtain ⟨count, storage⟩ := group
      obtain ⟨count', storage'⟩ := other
      cases stands with
      | null => exact .fails
      | deleted => exact .fails
      | live stands => exact .goesOn _ counts (.live stands)
  | resetQueue queueID => exact unchecked_matches counts stands fun _ _ _ same => by cases same

theorem run_matches {group : CVNQueueGroup (QueueNodes.CVNQueue Msg)} {other : CVNQueueGroup (List Msg)}
    (counts : group.count = other.count) (stands : Stands group.queueGroup other.queueGroup)
    {calls : List (GroupCall Msg)} (allocates : Allocates group calls) :
    run inMemory group calls = run asLists other calls := by
  induction calls generalizing group other with
  | nil => rfl
  | cons call rest ih =>
    have both := step_matches counts stands allocates.1
    have later := allocates.2
    unfold run
    cases first : step inMemory group call with
    | none =>
      rw [first] at both
      generalize step asLists other call = second at both
      cases both
      rfl
    | some after =>
      rw [first] at both
      generalize step asLists other call = second at both
      cases both with
      | goesOn answer counts stands =>
        rw [Option.bind_some, Option.bind_some, ih counts stands (later _ first)]

end CVNQueueGroup

/-! ## The pointer to the array -/

inductive Life where
  | null
  | live
  | deleted
  deriving DecidableEq, Repr

structure View where
  count : Nat
  life : Life
  deriving DecidableEq, Repr

def View.after (view : View) : GroupCall Msg → View
  | .createQueueGroup count initialised =>
    if maxQueueCnt < count then view
    else ⟨count, if count = 0 ∨ initialised = true then .live else .null⟩
  | .freeQueueGroup => { view with life := if view.life = .null then .null else .deleted }
  | _ => view

/-- A second `freeQueueGroup` is not, nor a call of a queue of an array that has been deleted or never made. Only
`insertMsg` looks whether there is one. -/
def View.Allows (view : View) : GroupCall Msg → Prop
  | .createQueueGroup _ _ => True
  | .freeQueueGroup => view.life ≠ .deleted
  | .insertMsg queueID _ _ => view.life = .deleted → view.count ≤ queueID
  | .getMsg queueID | .waitForQueueNotEmpty queueID _ | .resetQueue queueID =>
    view.life ≠ .live → view.count ≤ queueID

def Storage.life : Storage Queue → Life
  | .null => .null
  | .live _ => .live
  | .deleted => .deleted

namespace CVNQueueGroup

def view (group : CVNQueueGroup Queue) : View := ⟨group.count, group.queueGroup.life⟩

variable {group : CVNQueueGroup (List Msg)} {queueID : Nat}

theorem unchecked_lists (call : Call Msg) :
    (∃ after, unchecked asLists group queueID call = some after ∧ after.1.view = group.view) ∧
        (group.queueGroup.life ≠ .live → group.count ≤ queueID) ∨
      unchecked asLists group queueID call = none ∧ ¬ (group.queueGroup.life ≠ .live → group.count ≤ queueID) := by
  unfold unchecked
  by_cases outside : group.count ≤ queueID
  · rw [if_pos outside]
    exact Or.inl ⟨⟨_, rfl, rfl⟩, fun _ => outside⟩
  · rw [if_neg outside]
    obtain ⟨count, storage⟩ := group
    cases storage with
    | null => exact Or.inr ⟨rfl, fun allowed => outside (allowed (by rintro ⟨⟩))⟩
    | deleted => exact Or.inr ⟨rfl, fun allowed => outside (allowed (by rintro ⟨⟩))⟩
    | live lists => exact Or.inl ⟨⟨_, rfl, rfl⟩, fun dead => absurd rfl dead⟩

/-- A call on lists returns exactly if it is allowed, and it leaves what its view does. -/
theorem step_lists (group : CVNQueueGroup (List Msg)) (call : GroupCall Msg) :
    (∃ after, step asLists group call = some after ∧ after.1.view = group.view.after call) ∧ group.view.Allows call ∨
      step asLists group call = none ∧ ¬ group.view.Allows call := by
  cases call with
  | createQueueGroup count initialised =>
    refine Or.inl ⟨⟨_, rfl, ?_⟩, trivial⟩
    unfold createQueueGroup View.after
    dsimp only
    by_cases large : maxQueueCnt < count
    · rw [if_pos large, if_pos large]
    · rw [if_neg large, if_neg large]
      by_cases all : count = 0 ∨ initialised = true
      · rw [if_pos all, if_pos all]
        rfl
      · rw [if_neg all, if_neg all]
        rfl
  | freeQueueGroup =>
    obtain ⟨count, storage⟩ := group
    cases storage with
    | null => exact Or.inl ⟨⟨_, rfl, rfl⟩, by rintro ⟨⟩⟩
    | deleted => exact Or.inr ⟨rfl, fun allowed => allowed rfl⟩
    | live lists =>
      have reset : ∀ ids, ∃ msgs, resetAll (asLists : Queues Msg (List Msg)) lists ids = some msgs := by
        intro ids
        induction ids with
        | nil => exact ⟨[], rfl⟩
        | cons i rest ih =>
          obtain ⟨msgs, later⟩ := ih
          refine ⟨gone [.deleted (lists i)] ++ msgs, ?_⟩
          change ((resetAll asLists lists rest).map fun later => gone [.deleted (lists i)] ++ later) = _
          rw [later, Option.map_some]
      obtain ⟨msgs, reset⟩ := reset (List.range count)
      refine Or.inl ⟨⟨(⟨count, .deleted⟩, .freed msgs), ?_, rfl⟩, by rintro ⟨⟩⟩
      unfold step freeQueueGroup
      dsimp only
      rw [reset]
      rfl
  | insertMsg queueID msg new =>
    have inside := @unchecked_lists _ group queueID (.insertNode msg new)
    unfold step insertMsg
    obtain ⟨count, storage⟩ := group
    cases storage with
    | null => exact Or.inl ⟨⟨_, rfl, rfl⟩, by rintro ⟨⟩⟩
    | deleted =>
      rcases inside with ⟨returns, allowed⟩ | ⟨fails, refused⟩
      · exact Or.inl ⟨returns, fun _ => allowed (by rintro ⟨⟩)⟩
      · exact Or.inr ⟨fails, fun allowed => refused fun _ => allowed rfl⟩
    | live lists =>
      rcases inside with ⟨returns, -⟩ | ⟨-, refused⟩
      · exact Or.inl ⟨returns, by rintro ⟨⟩⟩
      · exact absurd (fun dead => absurd rfl dead) refused
  | getMsg queueID => exact unchecked_lists .getNode
  | waitForQueueNotEmpty queueID signalled =>
    unfold step waitForQueueNotEmpty
    by_cases outside : group.count ≤ queueID
    · dsimp only
      rw [if_pos outside]
      exact Or.inl ⟨⟨_, rfl, rfl⟩, fun _ => outside⟩
    · dsimp only
      rw [if_neg outside]
      obtain ⟨count, storage⟩ := group
      cases storage with
      | null => exact Or.inr ⟨rfl, fun allowed => outside (allowed (by rintro ⟨⟩))⟩
      | deleted => exact Or.inr ⟨rfl, fun allowed => outside (allowed (by rintro ⟨⟩))⟩
      | live lists => exact Or.inl ⟨⟨_, rfl, rfl⟩, fun dead => absurd rfl dead⟩
  | resetQueue queueID => exact unchecked_lists .resetQueue

theorem run_lists_isSome_iff (group : CVNQueueGroup (List Msg)) (calls : List (GroupCall Msg)) :
    (run asLists group calls).isSome = true ↔ Along View.after View.Allows group.view calls := by
  induction calls generalizing group with
  | nil => exact iff_of_true rfl trivial
  | cons call rest ih =>
    unfold run
    rw [Along]
    rcases step_lists group call with ⟨⟨after, stepped, view⟩, allowed⟩ | ⟨fails, refused⟩
    · rw [stepped, Option.bind_some, Option.isSome_map, ih, view, and_iff_right allowed]
    · rw [fails]
      exact iff_of_false Bool.false_ne_true fun both => refused both.1

end CVNQueueGroup

/-! ## From creation to the end -/

def Use : GroupCall Msg → Prop
  | .createQueueGroup _ _ | .freeQueueGroup => False
  | _ => True

def callAt (i : Nat) : GroupCall Msg → Option (Call Msg)
  | .insertMsg queueID msg new => if queueID = i then some (.insertNode msg new) else none
  | .getMsg queueID => if queueID = i then some .getNode else none
  | .resetQueue queueID => if queueID = i then some .resetQueue else none
  | _ => none

def callsAt (i : Nat) (calls : List (GroupCall Msg)) : List (Call Msg) := calls.filterMap (callAt i)

def answerAt (i : Nat) : GroupAnswer Msg → Option (QueueNodes.Answer Msg)
  | .queue queueID answer => if queueID = i then some answer else none
  | _ => none

def answersAt (i : Nat) (answers : List (GroupAnswer Msg)) : List (QueueNodes.Answer Msg) :=
  answers.filterMap (answerAt i)

def turn (list : List Msg) (call : Option (Call Msg)) : List Msg × Option (QueueNodes.Answer Msg) :=
  match call with
  | none => (list, none)
  | some call => ((fifoStep list call).1, some (fifoStep list call).2)

namespace CVNQueueGroup

theorem unchecked_live {count : Nat} (lists : Nat → List Msg) (queueID : Nat) (call : Call Msg) :
    ∃ after answer, unchecked asLists ⟨count, .live lists⟩ queueID call = some (⟨count, .live after⟩, answer) ∧
      ∀ i < count, turn (lists i) (if queueID = i then some call else none) = (after i, answerAt i answer) := by
  unfold unchecked
  by_cases outside : count ≤ queueID
  · rw [if_pos outside]
    refine ⟨lists, .told false, rfl, fun i inside => ?_⟩
    rw [if_neg (by omega)]
    rfl
  · rw [if_neg outside]
    refine ⟨Function.update lists queueID (fifoStep (lists queueID) call).1, .queue queueID (fifoStep (lists queueID)
      call).2, rfl, fun i _ => ?_⟩
    unfold answerAt
    by_cases this : queueID = i
    · subst this
      rw [if_pos rfl, Function.update_self]
      dsimp only
      rw [if_pos rfl]
      rfl
    · rw [if_neg this, Function.update_of_ne (Ne.symm this)]
      dsimp only
      rw [if_neg this]
      rfl

theorem use_live {count : Nat} (lists : Nat → List Msg) {call : GroupCall Msg} (use : Use call) :
    ∃ after answer, step asLists ⟨count, .live lists⟩ call = some (⟨count, .live after⟩, answer) ∧
      ∀ i < count, turn (lists i) (callAt i call) = (after i, answerAt i answer) := by
  cases call with
  | createQueueGroup count initialised => cases use
  | freeQueueGroup => cases use
  | insertMsg queueID msg new => exact unchecked_live lists queueID (.insertNode msg new)
  | getMsg queueID => exact unchecked_live lists queueID .getNode
  | resetQueue queueID => exact unchecked_live lists queueID .resetQueue
  | waitForQueueNotEmpty queueID signalled =>
    unfold step waitForQueueNotEmpty
    by_cases outside : count ≤ queueID
    · dsimp only
      rw [if_pos outside]
      exact ⟨lists, .told false, rfl, fun i _ => rfl⟩
    · dsimp only
      rw [if_neg outside]
      exact ⟨lists, .told signalled, rfl, fun i _ => rfl⟩

/-- Each list goes through the calls of its own queue. -/
theorem run_live {count : Nat} (lists : Nat → List Msg) {uses : List (GroupCall Msg)} (only : ∀ call ∈ uses, Use call)
    (rest : List (GroupCall Msg)) : ∃ after answers,
      run asLists ⟨count, .live lists⟩ (uses ++ rest) = (run asLists ⟨count, .live after⟩ rest).map (answers ++ ·) ∧
      ∀ i < count, fifoRun (lists i) (callsAt i uses) = (after i, answersAt i answers) := by
  induction uses generalizing lists with
  | nil => exact ⟨lists, [], Option.map_id'.symm, fun i _ => rfl⟩
  | cons call uses ih =>
    obtain ⟨middle, answer, stepped, first⟩ := @use_live _ count lists call (only call List.mem_cons_self)
    obtain ⟨after, answers, ran, later⟩ := ih middle fun other inside => only other (List.mem_cons_of_mem _ inside)
    refine ⟨after, answer :: answers, ?_, fun i inside => ?_⟩
    · rw [List.cons_append, run, stepped, Option.bind_some, ran, Option.map_map]
      rfl
    · have here := first i inside
      have behind := later i inside
      unfold callsAt answersAt at behind ⊢
      rw [List.filterMap_cons, List.filterMap_cons]
      cases asks : callAt i call with
      | none =>
        rw [asks] at here
        obtain ⟨same, silent⟩ := Prod.mk.inj here
        rw [← silent, same]
        exact behind
      | some inner =>
        rw [asks] at here
        obtain ⟨same, told⟩ := Prod.mk.inj here
        rw [← told]
        dsimp only
        rw [fifoRun, same, behind]

theorem use_stands {count : Nat} {queues : Nat → QueueNodes.CVNQueue Msg} {lists : Nat → List Msg}
    (stands : StandFor queues lists) {call : GroupCall Msg}
    (use : Use call) (fresh : Fresh ⟨count, .live queues⟩ call) :
    ∃ (queues' : Nat → QueueNodes.CVNQueue Msg) (after : Nat → List Msg) (answer : GroupAnswer Msg),
      step inMemory ⟨count, .live queues⟩ call = some (⟨count, .live queues'⟩, answer) ∧
      StandFor queues' after ∧
      ∀ i < count, turn (lists i) (callAt i call) = (after i, answerAt i answer) := by
  obtain ⟨after, answer, stepped, each⟩ := @use_live _ count lists call use
  have both := @step_matches _ ⟨count, .live queues⟩ ⟨count, .live lists⟩ rfl (.live stands) call fresh
  rw [stepped] at both
  generalize inNodes : step inMemory ⟨count, .live queues⟩ call = result at both
  cases both with
  | @goesOn group _ _ counts stands =>
    obtain ⟨count', storage⟩ := group
    obtain rfl : count' = count := counts
    cases stands with
    | @live queues' _ stands => exact ⟨queues', after, answer, rfl, stands, each⟩

theorem turn_conserves {list after : List Msg} {call : Option (Call Msg)} {answer : Option (QueueNodes.Answer Msg)}
    (goes : turn list call = (after, answer)) : gone answer.toList ++ after = list ++ entered call.toList := by
  cases call with
  | none =>
    cases goes
    exact (List.append_nil list).symm
  | some call =>
    cases goes
    exact (fifoStep_conserves list call).symm

theorem resetAll_lists (lists : Nat → List Msg) (ids : List Nat) :
    resetAll asLists lists ids = some (ids.flatMap lists) := by
  induction ids with
  | nil => rfl
  | cons i rest ih =>
    change ((resetAll asLists lists rest).map fun later => gone [.deleted (lists i)] ++ later) = _
    have deletes : gone [QueueNodes.Answer.deleted (lists i)] = lists i := List.append_nil _
    rw [ih, Option.map_some, deletes, List.flatMap_cons]

/-- Where a run fails, and that from creation to the end every message that enters a queue is returned or deleted
once, in the order of that queue. -/
theorem run_conserves {calls : List (GroupCall Msg)} (allocates : Allocates new calls) :
    ((run inMemory new calls).isSome = true ↔ Along View.after View.Allows ⟨0, .null⟩ calls) ∧
      ∀ count uses, count ≤ maxQueueCnt → (∀ call ∈ uses, Use call) →
        calls = .createQueueGroup count true :: uses ++ [.freeQueueGroup] →
        ∃ answers left, run inMemory new calls =
            some (.told true :: answers ++ [.freed ((List.range count).flatMap left)]) ∧
          ∀ i < count, answersAt i answers = (fifoRun [] (callsAt i uses)).2 ∧
            entered (callsAt i uses) = gone (answersAt i answers) ++ left i := by
  have same : run inMemory new calls = run asLists new calls := run_matches rfl .null allocates
  rw [same]
  refine ⟨run_lists_isSome_iff new calls, ?_⟩
  rintro count uses within only rfl
  obtain ⟨left, answers, ran, each⟩ := @run_live _ count (fun _ => []) uses only [.freeQueueGroup]
  have created : createQueueGroup asLists (new : CVNQueueGroup (List Msg)) count true =
      (⟨count, .live fun _ => []⟩, true) := by
    unfold createQueueGroup
    rw [if_neg (not_lt.mpr within), if_pos (Or.inr rfl)]
    rfl
  have freed : run asLists (⟨count, .live left⟩ : CVNQueueGroup (List Msg)) [.freeQueueGroup] =
      some [.freed ((List.range count).flatMap left)] := by
    unfold run step freeQueueGroup
    dsimp only
    rw [resetAll_lists]
    rfl
  refine ⟨answers, left, ?_, fun i inside => ?_⟩
  · rw [List.cons_append, run, step, created, Option.bind_some, ran, freed]
    rfl
  · have conserved := fifoRun_conserves [] (callsAt i uses)
    rw [each i inside] at conserved ⊢
    exact ⟨rfl, conserved⟩

def twoQueues : List (GroupCall Nat) :=
  [.createQueueGroup 2 true, .insertMsg 0 (some 7) (some ⟨3, by decide⟩), .insertMsg 1 (some 8) (some ⟨4, by decide⟩),
    .getMsg 0, .freeQueueGroup]

theorem run_conserves_twoQueues : ∃ answers left, run inMemory new twoQueues =
    some (.told true :: answers ++ [.freed ((List.range 2).flatMap left)]) ∧ left 1 = [8] := by
  have allocates : Allocates new twoQueues := by
    refine ⟨by rintro _ _ _ _ ⟨⟩, ?_⟩
    rintro after ⟨⟩
    refine ⟨?_, ?_⟩
    · rintro queueID msg address queues ⟨⟩ ⟨⟩ i
      rfl
    rintro after ⟨⟩
    refine ⟨?_, ?_⟩
    · rintro queueID msg address queues ⟨⟩ ⟨⟩ i
      by_cases first : i = 0
      · subst first
        rfl
      · rw [Function.update_of_ne first]
        rfl
    rintro after ⟨⟩
    refine ⟨by rintro _ _ _ _ ⟨⟩, ?_⟩
    rintro after ⟨⟩
    refine ⟨by rintro _ _ _ _ ⟨⟩, fun _ _ => trivial⟩
  have uses : ∀ call ∈ [GroupCall.insertMsg 0 (some 7) (some ⟨3, by decide⟩), .insertMsg 1 (some 8)
      (some ⟨4, by decide⟩), .getMsg 0], Use call := by
    intro call inside
    simp only [List.mem_cons, List.not_mem_nil, or_false] at inside
    rcases inside with rfl | rfl | rfl
    · trivial
    · trivial
    · trivial
  obtain ⟨answers, left, ran, each⟩ := (run_conserves allocates).2 2 _ (by decide) uses rfl
  obtain ⟨told, conserved⟩ := each 1 (by decide)
  refine ⟨answers, left, ran, ?_⟩
  rw [told] at conserved
  exact conserved.symm

end CVNQueueGroup

end Foolject.VNClib.QueueGroup
