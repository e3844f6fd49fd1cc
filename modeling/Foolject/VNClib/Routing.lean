import Foolject.VNClib.AddParam
import Foolject.VNClib.QueueGroup
import Foolject.VNClib.RecvFraming

/-! From the connections of a process to its queues.

Each connection has a thread, `ServRecvThreadProc` or `ClientRecvThreadProc`, that puts every message it
receives into the queue that the message names, with the number of its channel in it, and deletes one that
the group does not take. Others take messages out or reset a queue. A step that would follow a bad
pointer may lead anywhere.
-/

set_option autoImplicit false

namespace Foolject.VNClib.Routing
open Words QueueGroup QueueNodes

structure Arrived where
  msg : CVNNetMsg
  connection : Nat

structure Process where
  group : CVNQueueGroup (QueueNodes.CVNQueue Arrived)
  connections : Nat → ServRecv
  answers : List (GroupAnswer Arrived)

inductive Event where
  /-- A turn of the loop of a thread, with the place for a node. -/
  | turn (k : Nat) (call : RecvCall) (new : Address)
  | getMsg (queueID : Nat)
  | resetQueue (queueID : Nat)

namespace Process

def called (process : Process) (call : GroupCall Arrived) : Option Process :=
  (CVNQueueGroup.step inMemory process.group call).map fun after =>
    { process with group := after.1, answers := process.answers ++ [after.2] }

/-- The thread behind a call of `RecvMsg`. Connections whose channels have been the same have the same number. -/
def received (host : ByteOrder) (chanID : Nat → Nat) (process : Process) (k : Nat) (msg : Option CVNNetMsg)
    (nErr : RSINFO) (chan : CVNChannel) (new : Address) : Option Process :=
  let process := { process with
    connections := Function.update process.connections k ((process.connections k).after msg nErr chan) }
  if nErr = .event ∨ nErr = .closed ∨ nErr = .failed ∨ nErr = .timeout then some process
  else msg.bind fun msg =>
    process.called (.insertMsg (msg.getDesQueueID host).toNat (some ⟨msg.setConnectionID (chanID k), k⟩) (some new))

end Process

def system (host : ByteOrder) (chanID : Nat → Nat) (incoming : Nat → List UInt8) (count : Nat) :
    System Process Event where
  init process := process.group = (CVNQueueGroup.createQueueGroup inMemory .new count true).1 ∧
    (∀ k, (process.connections k).chan = ⟨true, incoming k, []⟩ ∧ (process.connections k).running = true ∧
      (process.connections k).received = []) ∧ process.answers = []
  step process event next :=
    match event with
    | .turn k call new => (process.connections k).running = true ∧
      match (process.connections k).chan.recvMsg call.heap call.answers with
      | .blocked => False
      | .wild => True
      | .returned msg nErr chan _ =>
        ∀ after, process.received host chanID k msg nErr chan new = some after → next = after
    | .getMsg queueID => ∀ after, process.called (.getMsg queueID) = some after → next = after
    | .resetQueue queueID => ∀ after, process.called (.resetQueue queueID) = some after → next = after

abbrev framed (host : ByteOrder) (chanID : Nat → Nat) (streams : Nat → List Frame) (count : Nat) :
    System Process Event := system host chanID (fun k => streamOf (streams k)) count

/-- No call of `RecvMsg` times out inside a header, and `new` gives places where no node is. -/
def Regular (process : Process) : Event → Prop
  | .turn k call new => timesOutInHeader call.answers 0 (process.connections k).chan.incoming.length = false ∧
      ∀ queues, process.group.queueGroup = .live queues → ∀ i, (queues i).heap new = none
  | _ => True

def ofConnection (k : Nat) (arrived : List Arrived) : List CVNNetMsg :=
  arrived.filterMap fun one => if one.connection = k then some one.msg else none

def desQueueID (host : ByteOrder) (frame : Frame) : Nat := host.decode ((frame.header.drop desQueueOffset).take 2)

def stamped (chanID : Nat) (frame : Frame) : List UInt8 :=
  frame.bytes.take connectionIDOffset ++ bigEndian 2 chanID ++ frame.bytes.drop (connectionIDOffset + 2)

/-! ## The fields of a message that has the bytes of a frame -/

section Fields
variable {msg : CVNNetMsg} {frame : Frame} (same : msg.getBuffer = frame.bytes)
include same

theorem pos_of_frame : msg.pos.toNat = 22 + frame.body.length := by
  have length := congrArg List.length same
  rw [CVNNetMsg.getBuffer, Memory.length_load, Frame.bytes, List.length_append, frame.headerLength] at length
  exact length

theorem getDesQueueID_frame (host : ByteOrder) : msg.getDesQueueID host = desQueueID host frame := by
  have header : frame.header = msg.data.load 0 22 := by
    have front := congrArg (List.take 22) same
    have kept : frame.bytes.take 22 = frame.header := List.take_left' frame.headerLength
    rw [kept, CVNNetMsg.getBuffer, ← List.drop_zero (l := msg.data.load 0 msg.pos.toNat),
      Memory.take_drop_load (by rw [pos_of_frame same]; omega)] at front
    exact front.symm
  unfold CVNNetMsg.getDesQueueID CVNNetMsg.getField desQueueID
  rw [header, Memory.take_drop_load (by decide)]
  rfl

theorem getBuffer_stamped (chanID : Nat) : (msg.setConnectionID chanID).getBuffer = stamped chanID frame := by
  have size := pos_of_frame same
  obtain ⟨rest, pos⟩ : ∃ rest, msg.pos.toNat = 8 + (2 + rest) := ⟨12 + frame.body.length, by omega⟩
  have bytes : frame.bytes = msg.data.load 0 8 ++ (msg.data.load 8 2 ++ msg.data.load 10 rest) := by
    rw [← same, CVNNetMsg.getBuffer, pos, Memory.load_add, Memory.load_add]
    rfl
  have changed : (msg.setConnectionID chanID).getBuffer = (msg.setConnectionID chanID).data.load 0 8 ++
      ((msg.setConnectionID chanID).data.load 8 2 ++ (msg.setConnectionID chanID).data.load 10 rest) := by
    rw [CVNNetMsg.getBuffer, show (msg.setConnectionID chanID).pos = msg.pos from rfl, pos, Memory.load_add,
      Memory.load_add]
    rfl
  have before : (msg.setConnectionID chanID).data.load 0 8 = msg.data.load 0 8 := Memory.load_store_below (by decide)
  have here : (msg.setConnectionID chanID).data.load 8 2 = bigEndian 2 chanID := Memory.load_store_self
  have behind : (msg.setConnectionID chanID).data.load 10 rest = msg.data.load 10 rest :=
    Memory.load_store_above (by rw [ByteOrder.length_encode]; decide)
  have front : frame.bytes.take 8 = msg.data.load 0 8 := by
    rw [bytes]
    exact List.take_left' (Memory.length_load 8)
  have rear : frame.bytes.drop 10 = msg.data.load 10 rest := by
    rw [bytes, ← List.append_assoc]
    refine List.drop_left' ?_
    rw [List.length_append, Memory.length_load, Memory.length_load]
  rw [changed, before, here, behind, stamped, connectionIDOffset, front, rear, List.append_assoc]

end Fields

/-! ## What holds in every run -/

variable {host : ByteOrder} {chanID : Nat → Nat} {streams : Nat → List Frame} {count : Nat} {process next : Process}
  {queues : Nat → QueueNodes.CVNQueue Arrived} {lists : Nat → List Arrived}

def filed (host : ByteOrder) (chanID i : Nat) (msgs : List CVNNetMsg) : List CVNNetMsg :=
  (msgs.filter fun msg => msg.getDesQueueID host = (i : Int)).map fun msg => msg.setConnectionID chanID

/-- Of each connection, what has left a queue and what is in it are the messages received that name the queue. -/
structure Delivers (host : ByteOrder) (chanID : Nat → Nat) (streams : Nat → List Frame) (count : Nat)
    (process : Process) (queues : Nat → QueueNodes.CVNQueue Arrived) (lists : Nat → List Arrived) : Prop where
  group : process.group = ⟨count, .live queues⟩
  stands : StandFor queues lists
  aligned : ∀ k, Aligned (streams k) (process.connections k)
  comes : ∀ i < count, ∀ k, ofConnection k (gone (answersAt i process.answers) ++ lists i) =
    filed host (chanID k) i (process.connections k).received

theorem ofConnection_append (k : Nat) (before later : List Arrived) :
    ofConnection k (before ++ later) = ofConnection k before ++ ofConnection k later := List.filterMap_append

theorem filed_append (chanID i : Nat) (before later : List CVNNetMsg) :
    filed host chanID i (before ++ later) = filed host chanID i before ++ filed host chanID i later := by
  unfold filed
  rw [List.filter_append, List.map_append]

theorem ofConnection_entered (chanID i k : Nat) (msg : CVNNetMsg) (new : Address) :
    ofConnection k (entered (callAt i (.insertMsg (msg.getDesQueueID host).toNat
      (some ⟨msg.setConnectionID chanID, k⟩) (some new))).toList) = filed host chanID i [msg] := by
  have named : (msg.getDesQueueID host).toNat = i ↔ msg.getDesQueueID host = (i : Int) := by
    unfold CVNNetMsg.getDesQueueID
    rw [Int.toNat_natCast, Nat.cast_inj]
  unfold callAt filed
  dsimp only
  by_cases here : msg.getDesQueueID host = (i : Int)
  · have kept : [msg].filter (fun one => one.getDesQueueID host = (i : Int)) = [msg] := by simp [here]
    rw [if_pos (named.mpr here), kept]
    exact List.filterMap_cons_some (if_pos rfl)
  · have dropped : [msg].filter (fun one => one.getDesQueueID host = (i : Int)) = [] := by simp [here]
    rw [if_neg (mt named.mp here), dropped]
    rfl

theorem ofConnection_entered_ne {j k : Nat} (other : j ≠ k) (i queueID : Nat) (msg : CVNNetMsg) (new : Address) :
    ofConnection j (entered (callAt i (.insertMsg queueID (some ⟨msg, k⟩) (some new))).toList) = [] := by
  unfold callAt
  dsimp only
  by_cases here : queueID = i
  · rw [if_pos here]
    exact List.filterMap_cons_none (if_neg (Ne.symm other))
  · rw [if_neg here]
    rfl

/-- What a call of the group does to a queue, whichever call it is. -/
theorem called_accounts (group : process.group = ⟨count, .live queues⟩)
    (stands : StandFor queues lists) {call : GroupCall Arrived}
    (use : Use call) (fresh : CVNQueueGroup.Fresh ⟨count, .live queues⟩ call) :
    ∃ (queues' : Nat → QueueNodes.CVNQueue Arrived) (after : Nat → List Arrived) (answer : GroupAnswer Arrived),
      process.called call = some ⟨⟨count, .live queues'⟩, process.connections, process.answers ++ [answer]⟩ ∧
      StandFor queues' after ∧
      ∀ i < count, gone (answersAt i (process.answers ++ [answer])) ++ after i =
        gone (answersAt i process.answers) ++ lists i ++ entered (callAt i call).toList := by
  obtain ⟨queues', after, answer, stepped, stands, each⟩ := CVNQueueGroup.use_stands stands use fresh
  refine ⟨queues', after, answer, ?_, stands, fun i inside => ?_⟩
  · unfold Process.called
    rw [group, stepped]
    rfl
  · have answers : answersAt i (process.answers ++ [answer]) =
        answersAt i process.answers ++ (answerAt i answer).toList := by
      unfold answersAt
      rw [List.filterMap_append]
      cases told : answerAt i answer with
      | none => rw [List.filterMap_cons, told]; rfl
      | some inner => rw [List.filterMap_cons, told]; rfl
    have goes : ∀ first later : List (QueueNodes.Answer Arrived), gone (first ++ later) = gone first ++ gone later :=
      fun first later => List.flatMap_append
    rw [answers, goes, List.append_assoc, CVNQueueGroup.turn_conserves (each i inside), List.append_assoc]

theorem delivers_start (within : count ≤ maxQueueCnt) (start : (framed host chanID streams count).init process) :
    Delivers host chanID streams count process (fun _ => .new) fun _ => [] := by
  obtain ⟨group, threads, answers⟩ := start
  refine ⟨?_, fun i => ⟨[], .new, rfl⟩, fun k => ?_, fun i inside k => ?_⟩
  · rw [group]
    unfold CVNQueueGroup.createQueueGroup
    rw [if_neg (not_lt.mpr within), if_pos (Or.inr rfl)]
    rfl
  · obtain ⟨chan, running, received⟩ := threads k
    refine ⟨[], streams k, rfl, ?_, fun _ => ?_⟩
    · rw [received]
      rfl
    · rw [chan]
      exact ⟨rfl, rfl⟩
  · rw [(threads k).2.2, answers]
    rfl

theorem delivers_called (delivers : Delivers host chanID streams count process queues lists)
    {call : GroupCall Arrived} (use : Use call) (fresh : CVNQueueGroup.Fresh ⟨count, .live queues⟩ call)
    (nothing : ∀ i, entered (callAt i call).toList = [])
    (stepped : ∀ after, process.called call = some after → next = after) :
    ∃ queues lists, Delivers host chanID streams count next queues lists := by
  obtain ⟨queues', after, answer, called, stands, each⟩ := called_accounts delivers.group delivers.stands use fresh
  obtain rfl := stepped _ called
  refine ⟨queues', after, rfl, stands, delivers.aligned, fun i inside k => ?_⟩
  rw [each i inside, nothing, List.append_nil]
  exact delivers.comes i inside k

theorem aligned_update (aligned : ∀ k, Aligned (streams k) (process.connections k)) {k : Nat} {serv : ServRecv}
    (here : Aligned (streams k) serv) (j : Nat) :
    Aligned (streams j) (Function.update process.connections k serv j) := by
  by_cases same : j = k
  · subst same
    rw [Function.update_self]
    exact here
  · rw [Function.update_of_ne same]
    exact aligned j

theorem delivers_received (delivers : Delivers host chanID streams count process queues lists) {k : Nat}
    {msg : CVNNetMsg} {chan : CVNChannel} {new : Address}
    (fresh : ∀ i, (queues i).heap new = none)
    (aligned : Aligned (streams k) ((process.connections k).after (some msg) .success chan))
    (stepped : ∀ after, process.received host chanID k (some msg) .success chan new = some after → next = after) :
    ∃ queues lists, Delivers host chanID streams count next queues lists := by
  obtain ⟨queues', after, answer, called, stands, each⟩ := @called_accounts count
    { process with
      connections := Function.update process.connections k ((process.connections k).after (some msg) .success chan) }
    queues lists delivers.group delivers.stands (.insertMsg (msg.getDesQueueID host).toNat
      (some ⟨msg.setConnectionID (chanID k), k⟩) (some new)) trivial (by
        rintro queueID one address live ⟨⟩ ⟨⟩
        exact fresh)
  obtain rfl := stepped _ called
  refine ⟨queues', after, rfl, stands, aligned_update delivers.aligned aligned, fun i inside j => ?_⟩
  have before := delivers.comes i inside j
  rw [ofConnection_append] at before
  rw [each i inside, ofConnection_append, ofConnection_append, before]
  dsimp only
  by_cases same : j = k
  · subst same
    have grown : ((process.connections j).after (some msg) .success chan).received =
        (process.connections j).received ++ [msg] := rfl
    rw [Function.update_self, grown, filed_append, ofConnection_entered]
  · -- Nothing comes in for another connection.
    rw [Function.update_of_ne same, ofConnection_entered_ne same, List.append_nil]

theorem delivers_idle (delivers : Delivers host chanID streams count process queues lists) {k : Nat}
    {nErr : RSINFO} {chan : CVNChannel} {new : Address} (idle : nErr = .failed ∨ nErr = .timeout)
    (stepped : ∀ after, process.received host chanID k none nErr chan new = some after → next = after)
    (aligned : Aligned (streams k) ((process.connections k).after none nErr chan)) :
    ∃ queues lists, Delivers host chanID streams count next queues lists := by
  have same : ((process.connections k).after none nErr chan).received = (process.connections k).received := by
    rcases idle with rfl | rfl
    · rfl
    · rfl
  obtain rfl := stepped _ (if_pos (idle.elim (fun failed => Or.inr (Or.inr (Or.inl failed))) fun timeout =>
    Or.inr (Or.inr (Or.inr timeout))))
  refine ⟨queues, lists, delivers.group, delivers.stands, aligned_update delivers.aligned aligned, fun i inside j => ?_⟩
  rw [delivers.comes i inside j]
  congr 1
  by_cases this : j = k
  · subst this
    exact (congrArg ServRecv.received (Function.update_self ..)).trans same |>.symm
  · exact congrArg ServRecv.received (Function.update_of_ne this ..).symm

theorem delivers_step (small : ∀ k, ∀ frame ∈ streams k, frame.bytes.length < 2 ^ 31)
    (delivers : Delivers host chanID streams count process queues lists) {event : Event}
    (regular : Regular process event)
    (stepped : (framed host chanID streams count).step process event next) :
    ∃ queues lists, Delivers host chanID streams count next queues lists := by
  cases event with
  | getMsg queueID =>
    refine @delivers_called _ _ _ _ _ _ _ _ delivers (.getMsg queueID) trivial ?_ (fun i => ?_) stepped
    · rintro _ _ _ _ ⟨⟩
    · change entered (if queueID = i then some Call.getNode else none).toList = []
      split <;> rfl
  | resetQueue queueID =>
    refine @delivers_called _ _ _ _ _ _ _ _ delivers (.resetQueue queueID) trivial ?_ (fun i => ?_) stepped
    · rintro _ _ _ _ ⟨⟩
    · change entered (if queueID = i then some Call.resetQueue else none).toList = []
      split <;> rfl
  | turn k call new =>
    obtain ⟨running, result⟩ := stepped
    obtain ⟨whole, allocates⟩ := regular
    have fresh := allocates queues (by rw [delivers.group])
    obtain ⟨done, todo, frames, taken, onStream⟩ := delivers.aligned k
    obtain ⟨valid, stream⟩ := onStream running
    have outcome := recvMsg_outcome call.heap valid stream (fun frame member => small k frame
      (by rw [frames]; exact List.mem_append_right _ member)) whole
    generalize (process.connections k).chan.recvMsg call.heap call.answers = ended at outcome result
    cases outcome with
    | blocked => cases result
    | @frame frame rest msg chan left parts bytes valid behind =>
      refine delivers_received delivers fresh ⟨done ++ [frame], rest, ?_, ?_, fun _ => ⟨valid, behind⟩⟩ result
      · rw [frames, parts, List.append_assoc, List.singleton_append]
      · have grown : ((process.connections k).after (some msg) .success chan).received =
            (process.connections k).received ++ [msg] := rfl
        rw [grown, List.map_append, List.map_append, taken, List.map_singleton, List.map_singleton, bytes]
    | again valid stream =>
      exact delivers_idle delivers (Or.inr rfl) result ⟨done, todo, frames, taken, fun _ => ⟨valid, stream⟩⟩
    | failed =>
      exact delivers_idle delivers (Or.inl rfl) result ⟨done, todo, frames, taken, fun on => Bool.noConfusion on⟩

theorem filed_frames (chanID i : Nat) {msgs : List CVNNetMsg} {frames : List Frame}
    (same : msgs.map CVNNetMsg.getBuffer = frames.map Frame.bytes) :
    (filed host chanID i msgs).map CVNNetMsg.getBuffer =
      (frames.filter fun frame => desQueueID host frame = i).map (stamped chanID) := by
  induction msgs generalizing frames with
  | nil =>
    cases frames with
    | nil => rfl
    | cons frame frames => cases same
  | cons msg msgs ih =>
    cases frames with
    | nil => cases same
    | cons frame frames =>
      obtain ⟨bytes, rest⟩ := List.cons.inj same
      have split : filed host chanID i (msg :: msgs) = filed host chanID i [msg] ++ filed host chanID i msgs :=
        filed_append chanID i [msg] msgs
      have named : msg.getDesQueueID host = (i : Int) ↔ desQueueID host frame = i := by
        rw [getDesQueueID_frame bytes, Nat.cast_inj]
      rw [split, List.map_append, ih rest]
      by_cases here : desQueueID host frame = i
      · have kept : filed host chanID i [msg] = [msg.setConnectionID chanID] := by simp [filed, named.mpr here]
        rw [kept, List.map_singleton, getBuffer_stamped bytes]
        simp [here]
      · have dropped : filed host chanID i [msg] = [] := by simp [filed, mt named.mp here]
        rw [dropped]
        simp [here]

theorem delivers_reached (within : count ≤ maxQueueCnt)
    (small : ∀ k, ∀ frame ∈ streams k, frame.bytes.length < 2 ^ 31)
    (reached : (framed host chanID streams count).Reaches Regular process) :
    ∃ queues lists, Delivers host chanID streams count process queues lists := by
  apply reached.invariant fun process => ∃ queues lists, Delivers host chanID streams count process queues lists
  · intro process start
    exact ⟨_, _, delivers_start within start⟩
  · rintro process event next ⟨queues, lists, delivers⟩ regular stepped
    exact delivers_step small delivers regular stepped

/-- In every run, whatever the order of the steps, there are frames at the front of each stream such that of the
connection exactly those of them that name a queue have come into it, each once and in order, with the number
of the channel. Those in the queue are its nodes. -/
theorem routed_inOrder (within : count ≤ maxQueueCnt)
    (small : ∀ k, ∀ frame ∈ streams k, frame.bytes.length < 2 ^ 31)
    (reached : (framed host chanID streams count).Reaches Regular process) :
    ∃ (queues : Nat → QueueNodes.CVNQueue Arrived) (lists : Nat → List Arrived),
      process.group = ⟨count, .live queues⟩ ∧ StandFor queues lists ∧
      ∀ k, ∃ done, done <+: streams k ∧
        (process.connections k).received.map CVNNetMsg.getBuffer = done.map Frame.bytes ∧ ∀ i < count,
        (ofConnection k (gone (answersAt i process.answers) ++ lists i)).map CVNNetMsg.getBuffer =
          (done.filter fun frame => desQueueID host frame = i).map (stamped (chanID k)) := by
  obtain ⟨queues, lists, delivers⟩ := delivers_reached within small reached
  refine ⟨queues, lists, delivers.group, delivers.stands, fun k => ?_⟩
  obtain ⟨done, todo, frames, taken, -⟩ := delivers.aligned k
  refine ⟨done, ⟨todo, frames.symm⟩, taken, fun i inside => ?_⟩
  rw [delivers.comes i inside k]
  exact filed_frames (chanID k) i taken

/-! ## A run -/

def Roomy (n : Nat) (process : Process) : Prop :=
  ∀ queues, process.group.queueGroup = .live queues → ∀ i (address : Address), n ≤ address.val →
    (queues i).heap address = none

theorem insertMsg_heap {queues queues' : Nat → QueueNodes.CVNQueue Arrived} {queueID : Nat} {one : Arrived}
    {node address : Address} {after : CVNQueueGroup (QueueNodes.CVNQueue Arrived) × GroupAnswer Arrived}
    (inserted : CVNQueueGroup.step inMemory ⟨count, .live queues⟩ (.insertMsg queueID (some one) (some node)) =
      some after) (live : after.1.queueGroup = .live queues') (i : Nat) (taken : (queues' i).heap address ≠ none) :
    address = node ∨ (queues i).heap address ≠ none := by
  change CVNQueueGroup.unchecked inMemory ⟨count, .live queues⟩ queueID _ = _ at inserted
  unfold CVNQueueGroup.unchecked at inserted
  split at inserted
  · cases inserted
    cases live
    exact Or.inr taken
  · obtain ⟨after, stepped, same⟩ := Option.map_eq_some_iff.mp inserted
    cases same
    cases live
    obtain ⟨⟨queue, done⟩, linked, same⟩ := Option.map_eq_some_iff.mp stepped
    cases same
    by_cases here : i = queueID
    · subst here
      rw [Function.update_self] at taken
      exact QueueNodes.CVNQueue.insertNode_heap linked taken
    · rw [Function.update_of_ne here] at taken
      exact Or.inr taken

theorem turn_received (within : count ≤ maxQueueCnt) (small : ∀ k, ∀ frame ∈ streams k, frame.bytes.length < 2 ^ 31)
    (reached : (framed host chanID streams count).Reaches Regular process) {n : Nat} (room : Roomy n process)
    (places : n < nodePlaces) {k : Nat} {frame : Frame} {rest : List UInt8}
    (running : (process.connections k).running = true) (valid : (process.connections k).chan.valid = true)
    (stream : (process.connections k).chan.incoming = frame.bytes ++ rest) (fits : frame.bytes.length < 2 ^ 31) :
    ∃ msg next, (framed host chanID streams count).Reaches Regular next ∧ Roomy (n + 1) next ∧
      next.connections = Function.update process.connections k ⟨{ (process.connections k).chan with incoming := rest },
        (process.connections k).received ++ [msg], (process.connections k).running⟩ := by
  obtain ⟨queues, lists, delivers⟩ := delivers_reached within small reached
  let call : RecvCall := ⟨fun _ => 0, List.replicate frame.bytes.length (.data 0)⟩
  have data := all_data frame.bytes.length 0
  obtain ⟨msg, left, -, returns⟩ := recvMsg_returns call valid stream fits data List.length_replicate.ge
  have free (i : Nat) (address : Address) (beyond : n ≤ address.val) : (queues i).heap address = none :=
    room queues (by rw [delivers.group]) i address beyond
  let serv := (process.connections k).after (some msg) .success { (process.connections k).chan with incoming := rest }
  obtain ⟨queues', after, answer, called, -⟩ := @called_accounts count
    { process with connections := Function.update process.connections k serv } queues lists delivers.group
    delivers.stands (.insertMsg (msg.getDesQueueID host).toNat (some ⟨msg.setConnectionID (chanID k), k⟩)
      (some ⟨n, places⟩)) trivial (by
        rintro queueID one address live ⟨⟩ ⟨⟩
        exact fun i => free i _ (le_refl n))
  have regular : Regular process (.turn k call ⟨n, places⟩) :=
    ⟨timesOutInHeader_data data _ _, fun queues live i => room queues live i _ (le_refl n)⟩
  refine ⟨msg, ⟨⟨count, .live queues'⟩, Function.update process.connections k serv, process.answers ++ [answer]⟩,
    ?_, ?_, rfl⟩
  · refine reached.next regular ⟨running, ?_⟩
    rw [returns]
    intro next taken
    exact Option.some.inj (called.symm.trans taken)
  · rintro _ ⟨⟩ i address beyond
    obtain ⟨stepped, inserted, same⟩ := Option.map_eq_some_iff.mp called
    rw [delivers.group] at inserted
    by_contra taken
    have sameGroup := congrArg (fun next : Process => next.group.queueGroup) same
    rcases insertMsg_heap inserted sameGroup i taken with rfl | before
    · exact absurd beyond (Nat.not_succ_le_self n)
    · exact before (free i address (Nat.le_of_succ_le beyond))

theorem frames_received {one two : Frame} (fits : one.bytes.length < 2 ^ 31) (fits' : two.bytes.length < 2 ^ 31) :
    ∃ process : Process, (framed .little (· % 8) (fun _ => [one, two]) 2).Reaches Regular process ∧
      (process.connections 7).received.length = 2 ∧ (process.connections 4).received.length = 1 := by
  -- Two queues, and two frames on every connection. One of the threads receives both of
  -- them and another one the first, in turns, and then a message is taken out of a queue.
  have small : ∀ _ : Nat, ∀ frame ∈ [one, two], frame.bytes.length < 2 ^ 31 := by
    intro _ frame member
    rcases List.mem_cons.mp member with rfl | member
    · exact fits
    · rw [List.mem_singleton.mp member]
      exact fits'
  have within : 2 ≤ maxQueueCnt := by decide
  let start : Process := ⟨⟨2, .live fun _ => .new⟩, fun _ => ⟨⟨true, streamOf [one, two], []⟩, [], true⟩, []⟩
  have begun : (framed .little (· % 8) (fun _ => [one, two]) 2).Reaches Regular start :=
    .start ⟨rfl, fun _ => ⟨rfl, rfl, rfl⟩, rfl⟩
  have room : Roomy 1 start := by
    rintro _ ⟨⟩ _ _ _
    rfl
  obtain ⟨first, process, reached, room, turn⟩ :=
    @turn_received _ _ _ _ start within small begun 1 room (by decide) 7 one (streamOf [two]) rfl rfl rfl fits
  obtain ⟨other, process', reached, room, turn'⟩ :=
    @turn_received _ _ _ _ process within small reached 2 room (by decide) 4 one (streamOf [two]) (by rw [turn]; rfl)
      (by rw [turn]; rfl) (by rw [turn]; rfl) fits
  obtain ⟨second, process'', reached, -, turn''⟩ :=
    @turn_received _ _ _ _ process' within small reached 3 room (by decide) 7 two [] (by rw [turn', turn]; rfl)
      (by rw [turn', turn]; rfl) (by rw [turn', turn]; rfl) fits'
  obtain ⟨queues, lists, delivers⟩ := delivers_reached within small reached
  obtain ⟨queues', after, answer, called, -⟩ := @called_accounts _ _ _ _ delivers.group delivers.stands (.getMsg 0)
    trivial (by rintro _ _ _ _ ⟨⟩)
  refine ⟨⟨⟨2, .live queues'⟩, process''.connections, process''.answers ++ [answer]⟩, ?_, ?_, ?_⟩
  · refine reached.next (show Regular _ (.getMsg 0) from trivial) fun next taken => ?_
    exact Option.some.inj (called.symm.trans taken)
  · rw [turn'', turn', turn]
    rfl
  · rw [turn'', turn', turn]
    rfl

theorem routed_inOrder_twoFrames : ∃ (process : Process) (lists : Nat → List Arrived) (done : Nat → List Frame),
    (process.connections 7).received.length = 2 ∧ (process.connections 4).received.length = 1 ∧
    ∀ k, done k <+: [bodyFrame, emptyFrame] ∧
      (process.connections k).received.map CVNNetMsg.getBuffer = (done k).map Frame.bytes ∧ ∀ i < 2,
      (ofConnection k (gone (answersAt i process.answers) ++ lists i)).map CVNNetMsg.getBuffer =
        ((done k).filter fun frame => desQueueID .little frame = i).map (stamped (k % 8)) := by
  obtain ⟨process, reached, both, first⟩ := @frames_received bodyFrame emptyFrame (by decide) (by decide)
  obtain ⟨-, lists, -, -, each⟩ := @routed_inOrder .little (· % 8) (fun _ => [bodyFrame, emptyFrame]) 2 process
    (by decide) (fun _ => by decide) reached
  choose done each using each
  exact ⟨process, lists, done, both, first, each⟩

end Foolject.VNClib.Routing
