import Foolject.VNClib.SendTable

/-! How often one call of `VNSendMsg` delivers its message, and what it tells of it.

`SendMsgCore` counts the bytes from -1 on, so the count of a whole frame is not negative and
every other result is a code that is. After a code other than the timeout the frame is sent once
more, and then the first socket has taken a part of it at most.
-/

set_option autoImplicit false

namespace Foolject.VNClib
open Words

/-- The socket has taken the whole frame. A frame without bytes, which no constructor makes,
is never delivered. -/
def Complete (frame piece : List UInt8) : Prop := piece = frame ∧ piece ≠ []

instance (frame piece : List UInt8) : Decidable (Complete frame piece) :=
  inferInstanceAs (Decidable (piece = frame ∧ piece ≠ []))

def copies (frame : List UInt8) (handed : List (List UInt8)) : Nat := handed.countP fun piece => Complete frame piece

variable {frame piece : List UInt8}

theorem Complete.of_eq (same : piece = frame) : Complete frame piece ↔ 0 < frame.length := by
  subst same
  exact ⟨fun complete => List.length_pos_iff.mpr complete.2, fun bytes => ⟨rfl, List.length_pos_iff.mp bytes⟩⟩

theorem not_complete (shorter : piece.length < frame.length) : ¬ Complete frame piece :=
  fun complete => Nat.lt_irrefl _ (complete.1 ▸ shorter)

theorem copies_cons (handed : List (List UInt8)) :
    copies frame (piece :: handed) = copies frame handed + if Complete frame piece then 1 else 0 := by
  unfold copies
  rw [List.countP_cons]
  split
  · rename_i complete
    rw [if_pos (of_decide_eq_true complete)]
  · rename_i complete
    rw [if_neg fun whole => complete (decide_eq_true whole)]

theorem copies_one : copies frame [piece] = if Complete frame piece then 1 else 0 := by
  rw [copies_cons]
  exact Nat.zero_add _

theorem copies_behind (part : ¬ Complete frame piece) (handed : List (List UInt8)) :
    copies frame (piece :: handed) = copies frame handed := by
  rw [copies_cons, if_neg part, add_zero]

/-! ## One send -/

/-- A loop that ends has had the whole rest accepted and counted, or it has failed or timed out before. -/
theorem sendLoop_ends {answers left : List SendAnswer} {rc rc' : Int} {accepted accepted' rest : List UInt8}
    (ends : sendLoop answers rc accepted rest = .ends rc' accepted' left) :
    (accepted' = accepted ++ rest ∧ rc' = rc + rest.length) ∨
      (rc' < 0 ∧ accepted'.length < accepted.length + rest.length) := by
  have cut : ∀ (accepted : List UInt8) (next : UInt8) (rest : List UInt8),
      accepted.length < accepted.length + (next :: rest).length := by
    intro accepted next rest
    exact Nat.lt_add_of_pos_right (Nat.succ_pos _)
  fun_induction sendLoop answers rc accepted rest with
  | case1 =>
    cases ends
    exact .inl ⟨(List.append_nil _).symm, (add_zero _).symm⟩
  | case2 => cases ends
  | case3 | case4 | case5 =>
    cases ends
    exact .inr ⟨by decide, cut _ _ _⟩
  | case6 answers rc accepted next rest offered count ih =>
    have counted : count ≤ (next :: rest).length := Nat.min_le_right _ _
    rcases ih ends with ⟨all, total⟩ | ⟨failed, part⟩
    · refine .inl ⟨?_, ?_⟩
      · rw [all, List.append_assoc, List.take_append_drop]
      · rw [total, List.length_drop]
        omega
    · refine .inr ⟨failed, ?_⟩
      rw [List.length_append, List.length_take, List.length_drop] at part
      omega

theorem sendLoop_blocked {answers : List SendAnswer} {rc : Int} {accepted rest : List UInt8}
    (blocked : sendLoop answers rc accepted rest = .blocked) : (handedOver answers rest).length < rest.length := by
  fun_induction sendLoop answers rc accepted rest with
  | case1 => cases blocked
  -- The answers have run out before the bytes.
  | case2 => exact Nat.succ_pos _
  | case3 | case4 | case5 => cases blocked
  | case6 answers rc accepted next rest offered count ih =>
    have more := ih blocked
    have counted : count ≤ (next :: rest).length := Nat.min_le_right _ _
    rw [List.length_drop] at more
    change ((next :: rest).take count ++ handedOver answers ((next :: rest).drop count)).length < _
    rw [List.length_append, List.length_take]
    omega

namespace Peer

variable {peer : Peer} {msg : CVNNetMsg} {answers : List SendAnswer}

theorem sendMsg_blocked (blocked : peer.sendMsg msg answers = .blocked) :
    ¬ Complete msg.getBuffer (handedOver answers msg.getBuffer) := by
  unfold sendMsg CVNChannel.sendMsg at blocked
  split at blocked
  · cases blocked
  · split at blocked
    · rename_i core
      exact not_complete (sendLoop_blocked core)
    · cases blocked

/-- The result of a send is not negative exactly if it has handed over the whole frame. -/
theorem sendMsg_returned {rc : Int} {chan : CVNChannel} {left : List SendAnswer}
    (returns : peer.sendMsg msg answers = .returned rc chan left) :
    0 ≤ rc ↔ Complete msg.getBuffer chan.written := by
  unfold sendMsg CVNChannel.sendMsg at returns
  split at returns
  · cases returns
    exact ⟨fun failed => absurd failed (by decide), fun complete => absurd rfl complete.2⟩
  · split at returns
    · cases returns
    · rename_i rc accepted left core
      cases returns
      change 0 ≤ rc ↔ Complete msg.getBuffer ([] ++ accepted)
      rw [List.nil_append]
      rcases sendLoop_ends core with ⟨all, total⟩ | ⟨failed, part⟩
      · rw [Complete.of_eq (show accepted = msg.getBuffer from all)]
        omega
      · rw [List.length_nil, Nat.zero_add] at part
        exact ⟨fun whole => absurd whole (not_le.mpr failed), fun complete => absurd complete (not_complete part)⟩

end Peer

/-! ## One call -/

def SendResult.Delivers (frame : List UInt8) : SendResult → Prop
  | .blocked handed => copies frame handed = 0
  | .returned rs handed _ => copies frame handed ≤ 1 ∧ (rs = RSINFO.success.code ↔ copies frame handed = 1)

theorem SendResult.Delivers.one {rs : Int} {table : SendTable}
    (tells : rs = RSINFO.success.code ↔ Complete frame piece) :
    (SendResult.returned rs [piece] table).Delivers frame := by
  change copies frame [piece] ≤ 1 ∧ (rs = RSINFO.success.code ↔ copies frame [piece] = 1)
  rw [tells, copies_one]
  split
  · rename_i complete
    exact ⟨le_refl 1, iff_of_true complete rfl⟩
  · rename_i part
    exact ⟨Nat.zero_le 1, iff_of_false part Nat.zero_ne_one⟩

namespace SendTable

variable {table : SendTable} {id : Nat} {msg : CVNNetMsg} {env : SendEnv}

theorem resend_delivers {part : List UInt8} (incomplete : ¬ Complete msg.getBuffer part) :
    (table.resend id part msg env).Delivers msg.getBuffer := by
  -- Behind a part of the frame, the second send alone decides.
  unfold resend
  dsimp only
  generalize (if env.lost then _ else _ : Peer) = peer
  cases sent : peer.sendMsg msg env.second with
  | blocked =>
    change copies _ _ = 0
    rw [copies_behind incomplete, copies_one, if_neg (Peer.sendMsg_blocked sent)]
  | returned rc chan left =>
    have whole := Peer.sendMsg_returned sent
    have tells : (if 0 < rc then RSINFO.success.code else rc) = RSINFO.success.code ↔
        Complete msg.getBuffer chan.written := by
      rw [← whole]
      simp only [RSINFO.code]
      omega
    obtain ⟨once, told⟩ := @SendResult.Delivers.one _ _ _ table tells
    change copies _ _ ≤ 1 ∧ (_ ↔ copies _ _ = 1)
    rw [copies_behind incomplete]
    exact ⟨once, told⟩

theorem sendTo_delivers (peer : Peer) : (table.sendTo id peer msg env).Delivers msg.getBuffer := by
  unfold sendTo
  cases sent : peer.sendMsg msg env.first with
  | blocked =>
    change copies _ _ = 0
    rw [copies_one, if_neg (Peer.sendMsg_blocked sent)]
  | returned rc chan left =>
    have whole := Peer.sendMsg_returned sent
    dsimp only
    split
    · rename_i timeout
      subst timeout
      exact .one (iff_of_false (by decide) (whole.not.mp (by decide)))
    · split
      -- A socket that has failed has a part of the frame at most. The frame starts again on the new one.
      · rename_i failed
        have part : ¬ Complete msg.getBuffer chan.written := whole.not.mp (not_le.mpr failed)
        split
        · exact .one (iff_of_false (by decide) part)
        · exact resend_delivers part
      · rename_i taken
        exact .one (iff_of_true rfl (whole.mp (not_lt.mp taken)))

/-- Whatever the sockets take and wherever they fail, one call hands over one copy of the frame at
most, and `RS_Success` stands for one. -/
theorem vnSendMsg_delivers (host : ByteOrder) (table : SendTable) (connectionID : Int)
    (srcQueueID desQueueID : Nat) (msg : CVNNetMsg) (env : SendEnv) :
    let frame := ((msg.setSrcQueueID host srcQueueID).setDesQueueID host desQueueID).getBuffer
    match table.vnSendMsg host connectionID srcQueueID desQueueID msg env with
    | .blocked handed => copies frame handed = 0
    | .returned rs handed _ =>
      copies frame handed ≤ 1 ∧ (rs = RSINFO.success.code ↔ copies frame handed = 1) := by
  intro frame
  change (table.vnSendMsg host connectionID srcQueueID desQueueID msg env).Delivers frame
  have refused : (SendResult.returned RSINFO.failed.code [] table).Delivers frame :=
    ⟨Nat.zero_le 1, iff_of_false (by decide) Nat.zero_ne_one⟩
  unfold vnSendMsg
  split
  · exact refused
  · split
    · exact refused
    · cases table.sendChan connectionID.toNat with
      | none => exact refused
      | some peer => exact sendTo_delivers peer

/-- The first socket fails inside the frame; the second one takes it in two pieces. -/
example : ∃ handed table,
    (initial.put 0 ⟨true, 5, 10⟩).vnSendMsg .big 0 0 0 (.ofType (fun _ => 0) .request)
      ⟨[.sent 9, .sendError], .message MsgType.control.code, false, [.sent 20, .sent 9]⟩ =
      .returned RSINFO.success.code handed table ∧ handed.map List.length = [9, 22] :=
  ⟨_, _, rfl, rfl⟩

end SendTable

end Foolject.VNClib
