import Mathlib.Data.List.Forall2
import Foolject.VNClib.RecvSlots
import Foolject.VNClib.RoundTrip
import Foolject.VNClib.Routing
import Foolject.VNClib.SendFraming

/-! From the setters of the senders to the queues of the receiver.

Each connection has a sender of its own. What is on its way is what the sender has written to the socket
and keeps open.
-/

set_option autoImplicit false

namespace Foolject.VNClib.EndToEnd
open Words QueueGroup QueueNodes Routing

structure Composed (host : ByteOrder) (type : MsgType) (settings : List Setting) (msg : CVNNetMsg) : Prop where
  distinct : ((parameters settings).map Param.id).Nodup
  built : ∃ fresh heap fuel capacity, capacity < 2 ^ 31 ∧ settings.length < fuel ∧
    build host heap fuel (.initEmptyMsg fresh type capacity) settings = some msg

def Sends (host : ByteOrder) (sender : Sender) (call : SendCall) : Prop :=
  WholeMessage sender call ∧ ∃ type settings, Composed host type settings call.msg

theorem holds_connectionID {chanID : Nat} (inside : chanID < maxRecvChan) :
    HeaderField.connectionID.Holds (chanID : Int) := by
  refine ⟨Int.natCast_nonneg _, ?_⟩
  change (chanID : Int) < 65536
  simp only [maxRecvChan] at inside
  omega

def numbered {chanID : Nat} (inside : chanID < maxRecvChan) : Setting :=
  .header .connectionID ⟨chanID, holds_connectionID inside⟩

variable {host : ByteOrder} {type : MsgType} {settings : List Setting} {msg : CVNNetMsg}

theorem Composed.holds (composed : Composed host type settings msg) : msg.Holds (parameters settings) ∧
    ∀ field : HeaderField, field.get host msg = headerValue type field settings := by
  obtain ⟨fresh, heap, fuel, capacity, small, enough, built⟩ := composed.built
  rcases CVNNetMsg.build_initEmptyMsg heap fresh type small settings composed.distinct enough with
    ⟨sent, builds, facts⟩ | ⟨stuck, -⟩
  · cases built.symm.trans builds
    exact facts
  · cases built.symm.trans stuck

/-- A message with the bytes of one that was built, but for the number of the channel, is read as one that was built
with that number. -/
theorem Composed.roundTrip (composed : Composed host type settings msg) {chanID : Nat} (inside : chanID < maxRecvChan)
    {received : CVNNetMsg} (same : received.getBuffer = (msg.setConnectionID chanID).getBuffer) :
    RoundTrip host type (settings ++ [numbered inside]) received := by
  obtain ⟨holds, header⟩ := composed.holds
  have params : parameters (settings ++ [numbered inside]) = parameters settings := by
    unfold parameters
    rw [List.filterMap_append]
    exact List.append_nil _
  have stays : (msg.setConnectionID chanID).Holds (parameters settings) :=
    holds.setField (HeaderField.untouched .connectionID)
  refine roundTrip_received ?_ ?_ ?_ same
  · rw [params]
    exact composed.distinct
  · rw [params]
    exact stays
  · intro field
    unfold headerValue
    rw [List.foldl_append]
    refine (HeaderField.get_set (holds_connectionID inside)).trans ?_
    rw [header field]
    rfl

/-! ## The senders -/

/-- While the socket is open, it has taken whole messages that were built, in the order of the calls. -/
structure Sent (host : ByteOrder) (sender : Sender) : Prop where
  whole : WholeMessages sender
  composed : ∀ msg ∈ sender.passed, ∃ type settings, Composed host type settings msg

theorem sent_reached {incoming : List UInt8} {sender : Sender}
    (reached : (sendMsgs incoming).Reaches (Sends host) sender) : Sent host sender := by
  apply reached.invariant (Sent host)
  · rintro sender rfl
    exact ⟨fun _ => ⟨[], List.Sublist.refl _, rfl⟩, fun msg none => absurd none List.not_mem_nil⟩
  · rintro sender call next ⟨whole, composed⟩ ⟨atOnce, built⟩ step
    refine ⟨whole.step atOnce step, ?_⟩
    unfold sendMsgs at step
    dsimp only at step
    cases sends : sender.chan.sendMsg call.msg call.answers with
    | blocked =>
      rw [sends] at step
      cases step
    | returned rc chan left =>
      rw [sends] at step
      subst step
      intro msg passed
      rcases List.mem_append.mp passed with before | last
      · exact composed msg before
      · rw [List.mem_singleton.mp last]
        exact built

theorem exists_frames {msgs : List CVNNetMsg}
    (composed : ∀ msg ∈ msgs, ∃ type settings, Composed host type settings msg) :
    ∃ frames : List Frame, msgs.map CVNNetMsg.getBuffer = frames.map Frame.bytes ∧
      ∀ frame ∈ frames, frame.bytes.length < 2 ^ 31 := by
  induction msgs with
  | nil => exact ⟨[], rfl, fun frame none => absurd none List.not_mem_nil⟩
  | cons msg msgs ih =>
    obtain ⟨type, settings, here⟩ := composed msg List.mem_cons_self
    obtain ⟨frames, same, small⟩ := ih fun other later => composed other (List.mem_cons_of_mem _ later)
    obtain ⟨holds, -⟩ := here.holds
    refine ⟨holds.frame :: frames, ?_, ?_⟩
    · rw [List.map_cons, List.map_cons, holds.bytes_frame, same]
    · intro frame member
      rcases List.mem_cons.mp member with rfl | later
      · have bound := holds.bound
        have length := holds.length_getBuffer
        simp only [endOfHeader] at bound
        rw [holds.bytes_frame]
        omega
      · exact small frame later

/-! ## The whole way -/

def ReadAs (host : ByteOrder) {chanID : Nat} (inside : chanID < maxRecvChan) (received sent : CVNNetMsg) : Prop :=
  ∃ type settings, Composed host type settings sent ∧ RoundTrip host type (settings ++ [numbered inside]) received

variable {chanID : Nat → Nat} {count : Nat} {senders : Nat → Sender} {process : Process}

/-- Whatever the order of the steps, what has come into a queue from a connection are messages passed to its sender
that name the queue, each at most once and in order, and each is read as it was built. -/
theorem delivered_asBuilt (sends : ∀ k, (sendMsgs []).Reaches (Sends host) (senders k))
    (stays : ∀ k, (senders k).chan.valid = true) (inside : ∀ k, chanID k < maxRecvChan)
    (within : count ≤ maxQueueCnt)
    (reached : (system host chanID (fun k => (senders k).chan.written) count).Reaches Regular process) :
    ∃ (queues : Nat → QueueNodes.CVNQueue Arrived) (lists : Nat → List Arrived),
      process.group = ⟨count, .live queues⟩ ∧ StandFor queues lists ∧
      ∀ k, ∃ done, List.Sublist done (senders k).passed ∧ ∀ i < count,
        List.Forall₂ (ReadAs host (inside k)) (ofConnection k (gone (answersAt i process.answers) ++ lists i))
          (done.filter fun msg => msg.getDesQueueID host = (i : Int)) := by
  have each : ∀ k, ∃ (whole : List CVNNetMsg) (frames : List Frame), whole.Sublist (senders k).passed ∧
      (∀ msg ∈ whole, ∃ type settings, Composed host type settings msg) ∧
      (senders k).chan.written = streamOf frames ∧ whole.map CVNNetMsg.getBuffer = frames.map Frame.bytes ∧
      ∀ frame ∈ frames, frame.bytes.length < 2 ^ 31 := by
    intro k
    obtain ⟨sent, composed⟩ := sent_reached (sends k)
    obtain ⟨whole, passed, written⟩ := sent (stays k)
    have built : ∀ msg ∈ whole, ∃ type settings, Composed host type settings msg := fun msg member =>
      composed msg (passed.subset member)
    obtain ⟨frames, same, small⟩ := exists_frames built
    refine ⟨whole, frames, passed, built, ?_, same, small⟩
    rw [written, streamOf, List.flatMap_def, same, ← List.flatMap_def]
  choose whole frames passed built written same small using each
  have streams : (fun k => (senders k).chan.written) = fun k => streamOf (frames k) := funext written
  rw [streams] at reached
  obtain ⟨queues, lists, delivers⟩ := delivers_reached within small reached
  refine ⟨queues, lists, delivers.group, delivers.stands, fun k => ?_⟩
  obtain ⟨front, rest, parts, taken, -⟩ := delivers.aligned k
  -- The frames that were received are those of the first messages.
  have firsts : ((whole k).take front.length).map CVNNetMsg.getBuffer = front.map Frame.bytes := by
    rw [List.map_take, same, parts, List.map_append, List.take_left' (List.length_map _)]
  refine ⟨(whole k).take front.length, (List.take_sublist _ _).trans (passed k), fun i valid => ?_⟩
  have bytes : (ofConnection k (gone (answersAt i process.answers) ++ lists i)).map CVNNetMsg.getBuffer =
      (((whole k).take front.length).filter fun msg => msg.getDesQueueID host = (i : Int)).map fun msg =>
        (msg.setConnectionID (chanID k)).getBuffer := by
    rw [delivers.comes i valid k, filed_frames (chanID k) i taken, ← filed_frames (chanID k) i firsts, filed,
      List.map_map]
    rfl
  have pairs := List.forall₂_map_right_iff.mp (List.forall₂_map_left_iff.mp (Eq.mpr
    (congrFun (congrFun List.forall₂_eq_eq_eq _) _) bytes))
  refine List.forall₂_of_length_eq_of_get ?_ ?_
  · exact pairs.length_eq
  · intro j before after
    have member : (((whole k).take front.length).filter fun msg => msg.getDesQueueID host = (i : Int)).get ⟨j, after⟩ ∈
        whole k := (List.take_sublist _ _).subset (List.mem_of_mem_filter (List.get_mem _ _))
    obtain ⟨type, settings, composed⟩ := built k _ member
    exact ⟨type, settings, composed, composed.roundTrip (inside k) (pairs.get before after)⟩

theorem composed_emptyMsg : Composed .little .request [] emptyMsg :=
  ⟨List.nodup_nil, fun _ => 0, fun _ _ => 0, 1, defMsgLength, by decide, by decide, rfl⟩

def queueSettings : List Setting := [.header .desQueueID ⟨1, by decide, by decide⟩, .param 3 (.int16 ⟨-300, by decide⟩)]

theorem composed_queueSettings : ∃ msg, Composed .little .request queueSettings msg := by
  rcases @CVNNetMsg.build_initEmptyMsg .little 3 (fun _ _ => 0) (fun _ => 0) .request defMsgLength (by decide)
    queueSettings (by decide) (by decide) with ⟨msg, built, -⟩ | ⟨-, large⟩
  · exact ⟨msg, by decide, fun _ => 0, fun _ _ => 0, 3, defMsgLength, by decide, by decide, built⟩
  · exact absurd large (by decide)

theorem message_sent {incoming : List UInt8} {sender : Sender}
    (reached : (sendMsgs incoming).Reaches (Sends host) sender) (valid : sender.chan.valid = true)
    (composed : Composed host type settings msg) : (sendMsgs incoming).Reaches (Sends host)
      ⟨{ sender.chan with written := sender.chan.written ++ msg.getBuffer }, sender.passed ++ [msg]⟩ := by
  obtain ⟨rc, left, returns⟩ := sendMsg_atOnce valid msg
  have allowed : Sends host sender ⟨msg, [.sent msg.getBuffer.length]⟩ :=
    ⟨fun _ => timesOutInMessage_atOnce _, type, settings, composed⟩
  refine reached.next allowed ?_
  unfold sendMsgs
  dsimp only
  rw [returns]

theorem delivered_asBuilt_twoMessages : ∃ (process : Process) (lists : Nat → List Arrived) (one : CVNNetMsg),
    Composed .little .request queueSettings one ∧
    (process.connections 7).received.length = 2 ∧ (process.connections 4).received.length = 1 ∧
    ∀ k, ∃ done, List.Sublist done [one, emptyMsg] ∧ ∀ i < 2,
      List.Forall₂ (ReadAs .little (show k % 8 < maxRecvChan by unfold maxRecvChan; omega))
        (ofConnection k (gone (answersAt i process.answers) ++ lists i))
        (done.filter fun msg => msg.getDesQueueID .little = (i : Int)) := by
  -- Every sender passes one message for each of two queues. The threads of two of the connections take turns.
  obtain ⟨one, composed⟩ := composed_queueSettings
  let sender : Sender := ⟨⟨true, [], one.getBuffer ++ emptyMsg.getBuffer⟩, [one, emptyMsg]⟩
  have sent : (sendMsgs []).Reaches (Sends .little) sender :=
    message_sent (message_sent (.start rfl) rfl composed) rfl composed_emptyMsg
  obtain ⟨frames, same, small⟩ := @exists_frames .little [one, emptyMsg] fun msg member => by
    rcases List.mem_cons.mp member with rfl | member
    · exact ⟨_, _, composed⟩
    · rw [List.mem_singleton.mp member]
      exact ⟨_, _, composed_emptyMsg⟩
  have two : frames.length = 2 := by
    have length := congrArg List.length same
    rw [List.length_map, List.length_map] at length
    exact length.symm
  obtain ⟨first, second, rfl⟩ := List.length_eq_two.mp two
  have written : sender.chan.written = streamOf [first, second] := by
    have joined := congrArg List.flatten same
    simpa [streamOf] using joined
  obtain ⟨process, reached, both, alone⟩ :=
    @frames_received first second (small first (by simp)) (small second (by simp))
  obtain ⟨-, lists, -, -, each⟩ := @delivered_asBuilt .little (· % 8) 2 (fun _ => sender) process (fun _ => sent)
    (fun _ => rfl) (fun k => by unfold maxRecvChan; omega) (by decide) (by rw [written]; exact reached)
  exact ⟨process, lists, one, composed, both, alone, each⟩

end Foolject.VNClib.EndToEnd
