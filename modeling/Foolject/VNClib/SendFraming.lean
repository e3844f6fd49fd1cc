import Foolject.VNClib.Channel

/-! What a run of `SendMsg` calls leaves on the socket.

After a timeout the socket stays open whatever part of the message it has
accepted, so the bytes written stay a sequence of whole messages only while no
call times out inside its message.
-/

set_option autoImplicit false

namespace Foolject.VNClib

structure SendCall where
  msg : CVNNetMsg
  answers : List SendAnswer

structure Sender where
  chan : CVNChannel
  passed : List CVNNetMsg

def sendMsgs (incoming : List UInt8) : System Sender SendCall where
  init sender := sender = ⟨⟨true, incoming, []⟩, []⟩
  step sender call next :=
    match sender.chan.sendMsg call.msg call.answers with
    | .blocked => False
    | .returned _ chan _ => next = ⟨chan, sender.passed ++ [call.msg]⟩

def WholeMessages (sender : Sender) : Prop :=
  sender.chan.valid = true → ∃ whole : List CVNNetMsg, whole.Sublist sender.passed ∧
    sender.chan.written = whole.flatMap CVNNetMsg.getBuffer

/-- The answers let the send loop time out when the socket has accepted some of the
message, but not all of it. -/
def timesOutInMessage : List SendAnswer → Nat → Nat → Bool
  | [], _, _ => false
  | answer :: answers, pos, left =>
    if left = 0 then false
    else match answer with
      | .timeout => decide (0 < pos)
      | .sent count => timesOutInMessage answers (pos + min count left) (left - min count left)
      | .selectError => false
      | .sendError => false

def WholeMessage (sender : Sender) (call : SendCall) : Prop :=
  sender.chan.valid = true → timesOutInMessage call.answers 0 call.msg.getBuffer.length = false

theorem sendLoop_outcome {answers left : List SendAnswer} {rc rc' : Int}
    {accepted accepted' rest : List UInt8}
    (ends : sendLoop answers rc accepted rest = .ends rc' accepted' left)
    (whole : timesOutInMessage answers accepted.length rest.length = false) :
    accepted' = accepted ++ rest ∨ rc' = RSINFO.failed.code ∨ accepted' = [] := by
  fun_induction sendLoop answers rc accepted rest with
  | case1 =>
    cases ends
    exact .inl (List.append_nil _).symm
  | case2 => cases ends
  | case3 | case5 =>
    cases ends
    exact .inr (.inl rfl)
  | case4 answers rc accepted next rest =>
    cases ends
    rw [timesOutInMessage.eq_def] at whole
    exact .inr (.inr (by simpa using whole))
  | case6 answers rc accepted next rest offered count ih =>
    rw [timesOutInMessage.eq_def] at whole
    have step := ih ends
    rw [List.append_assoc, List.take_append_drop, List.length_append, List.length_take,
      List.length_drop, min_eq_left (Nat.min_le_right _ _)] at step
    exact step whole

theorem sendMsg_outcome {chan chan' : CVNChannel} {msg : CVNNetMsg} {answers left : List SendAnswer}
    {rc : Int} (returns : chan.sendMsg msg answers = .returned rc chan' left)
    (whole : chan.valid = true → timesOutInMessage answers 0 msg.getBuffer.length = false)
    (valid : chan'.valid = true) :
    chan.valid = true ∧
    (chan'.written = chan.written ++ msg.getBuffer ∨ chan'.written = chan.written) := by
  unfold CVNChannel.sendMsg at returns
  split at returns
  · rename_i closed
    cases returns
    rw [closed] at valid
    cases valid
  · rename_i open_
    have before : chan.valid = true := by simpa using open_
    refine ⟨before, ?_⟩
    cases core : sendMsgCore msg answers with
    | blocked =>
      rw [core] at returns
      cases returns
    | ends rc' accepted left' =>
      rw [core] at returns
      cases returns
      rcases sendLoop_outcome core (whole before) with all | failed | nothing
      · exact .inl (congrArg _ all)
      · subst failed
        cases valid
      · subst nothing
        exact .inr (List.append_nil _)

theorem WholeMessages.step {incoming : List UInt8} {sender next : Sender} {call : SendCall}
    (framed : WholeMessages sender) (whole : WholeMessage sender call)
    (step : (sendMsgs incoming).step sender call next) : WholeMessages next := by
  intro valid
  simp only [sendMsgs] at step
  split at step
  · cases step
  · rename_i rc chan left returns
    subst step
    obtain ⟨before, written⟩ := sendMsg_outcome returns whole valid
    obtain ⟨messages, passed, bytes⟩ := framed before
    rcases written with added | same
    · refine ⟨messages ++ [call.msg], passed.append (List.Sublist.refl _), ?_⟩
      simp [added, bytes]
    · exact ⟨messages, passed.trans (List.sublist_append_left _ _), same.trans bytes⟩

theorem sendMsgs_wholeMessages {incoming : List UInt8} {sender : Sender}
    (reached : (sendMsgs incoming).Reaches WholeMessage sender) : WholeMessages sender := by
  refine reached.invariant WholeMessages ?_ fun _ _ _ => WholeMessages.step
  rintro _ rfl
  exact fun _ => ⟨[], List.Sublist.refl _, rfl⟩

/-- A socket that takes the whole message at once. -/
theorem sendMsg_atOnce {chan : CVNChannel} (valid : chan.valid = true) (msg : CVNNetMsg) : ∃ rc left,
    chan.sendMsg msg [.sent msg.getBuffer.length] =
      .returned rc { chan with written := chan.written ++ msg.getBuffer } left := by
  have core : ∃ rc left, (rc = RSINFO.timeout.code ∨ 0 ≤ rc) ∧
      sendMsgCore msg [.sent msg.getBuffer.length] = .ends rc msg.getBuffer left := by
    unfold sendMsgCore
    cases msg.getBuffer with
    | nil => exact ⟨-1, _, .inl rfl, rfl⟩
    | cons next rest =>
      refine ⟨-1 + ((next :: rest).length : Nat), [], .inr ?_, ?_⟩
      · rw [List.length_cons]
        omega
      · unfold sendLoop
        dsimp only
        rw [min_self, List.take_length, List.drop_length, List.nil_append]
        rfl
  obtain ⟨rc, left, kept, ends⟩ := core
  refine ⟨rc, left, ?_⟩
  unfold CVNChannel.sendMsg
  rw [if_neg (by rw [valid]; decide), ends]
  dsimp only
  rw [decide_eq_true kept, valid]

theorem timesOutInMessage_atOnce (count : Nat) : timesOutInMessage [.sent count] 0 count = false := by
  change (if count = 0 then false else false) = false
  rw [ite_self]

def emptyMsg : CVNNetMsg := .ofType (fun _ => 0) .request

theorem sendMsgs_wholeMessages_emptyMsg :
    ∃ sender : Sender, sender.chan.written = emptyMsg.getBuffer ∧ WholeMessages sender := by
  have first : (sendMsgs []).Reaches WholeMessage ⟨⟨true, [], []⟩, [emptyMsg]⟩ :=
    .next (.start rfl) (fun _ => rfl) (show (sendMsgs []).step _ ⟨emptyMsg, [.timeout]⟩ _ from rfl)
  have second : (sendMsgs []).Reaches WholeMessage
      ⟨⟨true, [], emptyMsg.getBuffer⟩, [emptyMsg, emptyMsg]⟩ :=
    first.next (fun _ => rfl) (show (sendMsgs []).step _ ⟨emptyMsg, [.sent 9, .sent 30]⟩ _ from rfl)
  exact ⟨_, rfl, sendMsgs_wholeMessages second⟩

theorem sendMsgs_cuts_message :
    ∃ sender, (sendMsgs []).Reaches System.Always sender ∧ ¬ WholeMessages sender := by
  -- A timeout after the first nine bytes.
  have cut : (sendMsgs []).Reaches System.Always
      ⟨⟨true, [], emptyMsg.getBuffer.take 9⟩, [emptyMsg]⟩ :=
    .next (.start rfl) trivial (show (sendMsgs []).step _ ⟨emptyMsg, [.sent 9, .timeout]⟩ _ from rfl)
  refine ⟨_, cut, fun framed => ?_⟩
  obtain ⟨whole, passed, written⟩ := framed rfl
  have size := congrArg List.length written
  cases passed with
  | cons _ nothing =>
    cases nothing
    revert size
    decide
  | cons_cons _ nothing =>
    cases nothing
    revert size
    decide

end Foolject.VNClib
