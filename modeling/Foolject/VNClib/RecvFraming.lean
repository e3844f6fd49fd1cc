import Foolject.VNClib.Channel

/-! What the receive thread of a connection gets out of a stream of frames.

A peer writes whole frames, one after another. Each call of `RecvMsg` takes its
own share of answers from the socket. The bytes that a header loop had stored
when it timed out are in a local of the call and lost with it, so the thread
stays on frame boundaries only while no call times out inside a header.
-/

set_option autoImplicit false

namespace Foolject.VNClib
open Words

structure Frame where
  header : List UInt8
  body : List UInt8
  headerLength : header.length = endOfHeader
  lengthField : value ((header.drop msgLengthOffset).take 4) = body.length

def Frame.bytes (frame : Frame) : List UInt8 := frame.header ++ frame.body

def streamOf (frames : List Frame) : List UInt8 := frames.flatMap Frame.bytes

/-! ## The two receive loops -/

section Loop
variable {onTimeout rc : RSINFO} {want : Nat} {answers left : List RecvAnswer}
  {got incoming got' incoming' : List UInt8}

/-- What a loop has stored was taken off the front of the stream. -/
theorem recvLoop_conserves
    (ends : recvLoop onTimeout want answers got incoming = .ends rc got' left incoming') :
    got' ++ incoming' = got ++ incoming := by
  fun_induction recvLoop onTimeout want answers got incoming with
  | case2 => cases ends
  | case1 | case3 | case4 | case5 | case6 | case7 =>
    cases ends
    rfl
  | case8 rest got incoming _ more count _ ih =>
    rw [ih ends, List.append_assoc, List.take_append_drop]

theorem recvLoop_rc
    (ends : recvLoop onTimeout want answers got incoming = .ends rc got' left incoming') :
    rc = .success ∨ rc = .failed ∨ rc = onTimeout := by
  fun_induction recvLoop onTimeout want answers got incoming with
  | case2 => cases ends
  | case8 _ _ _ _ _ _ _ ih => exact ih ends
  | case1 | case3 =>
    cases ends
    exact .inl rfl
  | case4 | case6 | case7 =>
    cases ends
    exact .inr (.inl rfl)
  | case5 =>
    cases ends
    exact .inr (.inr rfl)

theorem recvLoop_length (within : got.length ≤ want)
    (ends : recvLoop onTimeout want answers got incoming = .ends rc got' left incoming') :
    got'.length ≤ want := by
  fun_induction recvLoop onTimeout want answers got incoming with
  | case2 => cases ends
  | case8 rest got incoming _ more count _ ih =>
    refine ih ?_ ends
    rw [List.length_append, List.length_take]
    omega
  | case1 | case3 | case4 | case5 | case6 | case7 =>
    cases ends
    exact within

theorem recvLoop_success (failing : onTimeout ≠ .success)
    (ends : recvLoop onTimeout want answers got incoming = .ends .success got' left incoming') :
    want ≤ got'.length := by
  fun_induction recvLoop onTimeout want answers got incoming with
  | case2 | case4 | case6 | case7 => cases ends
  | case8 _ _ _ _ _ _ _ ih => exact ih ends
  | case5 =>
    cases ends
    exact absurd rfl failing
  | case1 got _ full | case3 _ _ got _ full =>
    cases ends
    exact full

/-- A loop that wants just the front piece of the stream gets that piece. -/
theorem recvLoop_piece {piece rest : List UInt8} (failing : onTimeout ≠ .success)
    (ends : recvLoop onTimeout piece.length answers [] (piece ++ rest) =
      .ends .success got' left incoming') : got' = piece ∧ incoming' = rest :=
  List.append_inj ((recvLoop_conserves ends).trans (List.nil_append _))
    (le_antisymm (recvLoop_length (Nat.zero_le _) ends) (recvLoop_success failing ends))

theorem recvLoop_data (data : ∀ answer ∈ answers, ∃ more, answer = .data more)
    (available : want ≤ got.length + incoming.length) :
    recvLoop onTimeout want answers got incoming = .blocked ∧ got.length + answers.length < want ∨
    ∃ got' left incoming', recvLoop onTimeout want answers got incoming =
        .ends .success got' left incoming' ∧
      (∀ answer ∈ left, ∃ more, answer = .data more) ∧
      got.length + answers.length ≤ got'.length + left.length := by
  fun_induction recvLoop onTimeout want answers got incoming with
  | case1 got incoming full => exact .inr ⟨got, [], incoming, rfl, data, le_refl _⟩
  | case2 got incoming short => exact .inl ⟨rfl, not_le.mp short⟩
  | case3 answer rest got incoming full => exact .inr ⟨got, _, incoming, rfl, data, le_refl _⟩
  | case4 | case5 | case6 =>
    obtain ⟨_, wrong⟩ := data _ List.mem_cons_self
    cases wrong
  | case7 rest got incoming short more count none_ => omega
  | case8 rest got incoming short more count some_ ih =>
    rw [List.length_append, List.length_take, List.length_drop] at ih
    rw [List.length_cons]
    rcases ih (fun answer member => data answer (List.mem_cons_of_mem _ member)) (by omega) with
      ⟨blocked, few⟩ | ⟨got', left, incoming', ended, data, most⟩
    · exact .inl ⟨blocked, by omega⟩
    · exact .inr ⟨got', left, incoming', ended, data, by omega⟩

end Loop

/-- The answers let the header loop time out when it has stored some of the header,
but not all of it. `available` counts the bytes of the stream still to come. -/
def timesOutInHeader : List RecvAnswer → Nat → Nat → Bool
  | [], _, _ => false
  | answer :: rest, pos, available =>
    if endOfHeader ≤ pos then false
    else match answer with
      | .timeout => decide (0 < pos)
      | .data more =>
        let count := min (more + 1) (min (endOfHeader - pos) available)
        if count = 0 then false else timesOutInHeader rest (pos + count) (available - count)
      | .selectError => false
      | .recvError => false

theorem recvLoop_timeout {answers left : List RecvAnswer} {got incoming got' incoming' : List UInt8}
    (ends : recvLoop .timeout endOfHeader answers got incoming = .ends .timeout got' left incoming')
    (whole : timesOutInHeader answers got.length incoming.length = false) : got' = [] := by
  fun_induction recvLoop .timeout endOfHeader answers got incoming with
  | case1 | case2 | case3 | case4 | case6 | case7 => cases ends
  | case5 rest got incoming short =>
    rw [timesOutInHeader.eq_def] at whole
    simp only [if_neg short] at whole
    cases ends
    simpa using whole
  | case8 rest got incoming short more count some_ ih =>
    rw [timesOutInHeader.eq_def] at whole
    simp only [if_neg short] at whole
    refine ih ends ?_
    rw [List.length_append, List.length_drop, List.length_take, min_eq_left (by omega)]
    exact (if_neg some_).symm.trans whole

/-! ## The header and the body of a frame -/

theorem getLength_stored (mem : Memory) {header : List UInt8} (whole : header.length = endOfHeader)
    (pos maxLength : Int) : (CVNNetMsg.mk (mem.store 0 header) pos maxLength).getLength =
      wrap 32 (value ((header.drop msgLengthOffset).take 4)) := by
  have parts : header = header.take 2 ++ (header.drop 2).take 4 ++ (header.drop 2).drop 4 := by
    rw [List.append_assoc, List.take_append_drop, List.take_append_drop]
  have loaded : (mem.store 0 header).load 0 header.length = header := Memory.load_store_self
  have piece := Memory.load_piece loaded _ _ _ parts
  have before : (header.take 2).length = 2 := by
    rw [List.length_take, whole]
    rfl
  have four : ((header.drop 2).take 4).length = 4 := by
    rw [List.length_take, List.length_drop, whole]
    rfl
  rw [before, four] at piece
  exact congrArg (fun bytes => wrap 32 (value bytes)) piece

section Header
variable (heap : Memory) {frame : Frame} (small : frame.bytes.length < 2 ^ 31)
include small

theorem lengthField_ofHeader :
    wrap 32 (value ((frame.header.drop msgLengthOffset).take 4)) = frame.body.length := by
  simp only [Frame.bytes, List.length_append] at small
  rw [frame.lengthField]
  exact wrap_of_fits (by decide) ⟨by omega, by omega⟩

theorem getLength_ofHeader : (CVNNetMsg.ofHeader heap frame.header).getLength = frame.body.length := by
  have kept : frame.header.take endOfHeader = frame.header :=
    List.take_of_length_le frame.headerLength.le
  rw [← lengthField_ofHeader small, CVNNetMsg.ofHeader, kept]
  exact getLength_stored heap frame.headerLength _ _

theorem room_ofHeader :
    (endOfHeader : Int) + frame.body.length ≤ (CVNNetMsg.ofHeader heap frame.header).maxLength := by
  have total : wrap 32 (endOfHeader + wrap 32 (value ((frame.header.drop msgLengthOffset).take 4))) =
      endOfHeader + frame.body.length := by
    have headerLength := frame.headerLength
    rw [lengthField_ofHeader small]
    simp only [Frame.bytes, List.length_append, endOfHeader] at small headerLength
    exact wrap_of_fits (by decide) ⟨by simp only [endOfHeader]; omega, by simp only [endOfHeader]; omega⟩
  rw [← total]
  exact le_max_right _ _

omit small in
theorem getBuffer_ofHeader {msg : CVNNetMsg}
    (stored : (CVNNetMsg.ofHeader heap frame.header).write endOfHeader frame.body = some msg) :
    (msg.incrBufferPos frame.body.length).getBuffer = frame.bytes := by
  have headerLength := frame.headerLength
  have kept : frame.header.take endOfHeader = frame.header :=
    List.take_of_length_le headerLength.le
  have loaded : (heap.store 0 frame.header).load 0 frame.header.length = frame.header :=
    Memory.load_store_self
  have size : (((endOfHeader : Nat) : Int) + frame.body.length).toNat =
      frame.header.length + frame.body.length := by
    rw [headerLength]
    omega
  obtain ⟨-, written⟩ := Option.ite_none_right_eq_some.mp stored
  cases written
  simp only [CVNNetMsg.getBuffer, CVNNetMsg.incrBufferPos, CVNNetMsg.ofHeader, kept, size]
  rw [Memory.load_add, Memory.load_store_below (by rw [headerLength]; omega), loaded, headerLength,
    Int.zero_add, Memory.load_store_self]
  rfl

end Header

section Body
variable {msg : CVNNetMsg} {body : List UInt8} {answers : List RecvAnswer} (rest : List UInt8)
  (length : msg.getLength = body.length) (room : (endOfHeader : Int) + body.length ≤ msg.maxLength)
include length room

/-- The ways the body loop ends on a buffer with room for the whole body. -/
theorem recvBody_cases :
    recvBody msg answers (body ++ rest) = .blocked ∨
    (∃ next left, msg.write endOfHeader body = some next ∧
      recvBody msg answers (body ++ rest) =
        .ends .success (next.incrBufferPos body.length) left rest) ∨
    ∃ next left incoming, recvBody msg answers (body ++ rest) = .ends .failed next left incoming := by
  unfold recvBody
  rw [length, Int.toNat_natCast]
  cases loop : recvLoop .failed body.length answers [] (body ++ rest) with
  | blocked => exact .inl rfl
  | ends rc got left incoming =>
    have most := recvLoop_length (Nat.zero_le _) loop
    obtain ⟨next, stored⟩ : ∃ next, msg.write endOfHeader got = some next :=
      ⟨_, if_pos ⟨Int.natCast_nonneg _, by omega⟩⟩
    rcases recvLoop_rc loop with rfl | rfl | rfl
    · obtain ⟨rfl, rfl⟩ := recvLoop_piece (by decide) loop
      exact .inr (.inl ⟨next, left, stored, by simp only [stored, if_true]⟩)
    · exact .inr (.inr ⟨next, left, incoming, by simp only [stored]; rfl⟩)
    · exact .inr (.inr ⟨next, left, incoming, by simp only [stored]; rfl⟩)

theorem recvBody_data (data : ∀ answer ∈ answers, ∃ more, answer = .data more) :
    recvBody msg answers (body ++ rest) = .blocked ∧ answers.length < body.length ∨
    ∃ next left, msg.write endOfHeader body = some next ∧
      recvBody msg answers (body ++ rest) =
        .ends .success (next.incrBufferPos body.length) left rest := by
  unfold recvBody
  rw [length, Int.toNat_natCast]
  rcases @recvLoop_data .failed body.length answers [] (body ++ rest) data (by simp) with
    ⟨blocked, few⟩ | ⟨got, left, incoming, loop, -, -⟩
  · exact .inl ⟨by rw [blocked], by simpa using few⟩
  · obtain ⟨rfl, rfl⟩ := recvLoop_piece (by decide) loop
    obtain ⟨next, stored⟩ : ∃ next, msg.write endOfHeader got = some next :=
      ⟨_, if_pos ⟨Int.natCast_nonneg _, room⟩⟩
    exact .inr ⟨next, left, stored, by rw [loop]; simp only [stored, if_true]⟩

end Body

/-! ## One call -/

inductive RecvOutcome (frames : List Frame) : RecvMsg → Prop where
  | blocked : RecvOutcome frames .blocked
  | frame {frame : Frame} {rest : List Frame} {msg : CVNNetMsg} {chan : CVNChannel}
      {left : List RecvAnswer} : frames = frame :: rest → msg.getBuffer = frame.bytes →
      chan.valid = true → chan.incoming = streamOf rest →
      RecvOutcome frames (.returned (some msg) .success chan left)
  | again {chan : CVNChannel} {left : List RecvAnswer} : chan.valid = true →
      chan.incoming = streamOf frames → RecvOutcome frames (.returned none .timeout chan left)
  | failed {chan : CVNChannel} {left : List RecvAnswer} :
      RecvOutcome frames (.returned none .failed chan left)

theorem recvMsg_outcome (heap : Memory) {frames : List Frame} {chan : CVNChannel}
    {answers : List RecvAnswer} (valid : chan.valid = true) (stream : chan.incoming = streamOf frames)
    (small : ∀ frame ∈ frames, frame.bytes.length < 2 ^ 31)
    (whole : timesOutInHeader answers 0 chan.incoming.length = false) :
    RecvOutcome frames (chan.recvMsg heap answers) := by
  unfold CVNChannel.recvMsg
  rw [if_neg (by simp [valid])]
  cases loop : recvHeader answers chan.incoming with
  | blocked => exact .blocked
  | ends rc header answers₁ incoming₁ =>
    have taken : header ++ incoming₁ = chan.incoming :=
      (recvLoop_conserves loop).trans (List.nil_append _)
    rcases recvLoop_rc loop with rfl | rfl | rfl
    · have full : header.length = endOfHeader :=
        le_antisymm (recvLoop_length (Nat.zero_le _) loop) (recvLoop_success (by decide) loop)
      simp only [if_true]
      -- A full header is the header of the next frame.
      cases frames with
      | nil =>
        rw [stream, streamOf, List.flatMap_nil, List.append_eq_nil_iff] at taken
        rw [taken.1] at full
        cases full
      | cons frame rest =>
        have parts : header ++ incoming₁ = frame.header ++ (frame.body ++ streamOf rest) := by
          rw [taken, stream, streamOf, List.flatMap_cons, Frame.bytes, List.append_assoc]
          rfl
        obtain ⟨rfl, rfl⟩ := List.append_inj parts (full.trans frame.headerLength.symm)
        have fits := small frame List.mem_cons_self
        rcases recvBody_cases (streamOf rest) (getLength_ofHeader heap fits)
            (room_ofHeader heap fits) with ended | ⟨msg, left, stored, ended⟩ | ⟨msg, left, incoming, ended⟩
        · rw [ended]
          exact .blocked
        · rw [ended]
          exact .frame rfl (getBuffer_ofHeader heap stored) valid rfl
        · rw [ended]
          exact .failed
    · exact .failed
    · have nothing := recvLoop_timeout loop whole
      rw [nothing, List.nil_append] at taken
      exact .again rfl (taken.trans stream)

/-- A call that gets bytes only and no timeout or error delivers the next frame. -/
theorem recvMsg_delivers (heap : Memory) {frame : Frame} {rest : List UInt8} {chan : CVNChannel}
    {answers : List RecvAnswer} (valid : chan.valid = true) (stream : chan.incoming = frame.bytes ++ rest)
    (small : frame.bytes.length < 2 ^ 31) (data : ∀ answer ∈ answers, ∃ more, answer = .data more) :
    chan.recvMsg heap answers = .blocked ∧ answers.length < frame.bytes.length ∨
    ∃ msg left, msg.getBuffer = frame.bytes ∧
      chan.recvMsg heap answers =
        .returned (some msg) .success { chan with incoming := rest } left := by
  have parts : chan.incoming = frame.header ++ (frame.body ++ rest) := by
    rw [stream, Frame.bytes, List.append_assoc]
  have size : frame.bytes.length = frame.header.length + frame.body.length := List.length_append
  unfold CVNChannel.recvMsg recvHeader
  rw [if_neg (by simp [valid]), parts, ← frame.headerLength]
  rcases @recvLoop_data .timeout frame.header.length answers [] (frame.header ++ (frame.body ++ rest))
      data (by simp) with ⟨blocked, few⟩ | ⟨header, answers₁, incoming₁, loop, data₁, most⟩
  · rw [blocked]
    rw [List.length_nil] at few
    exact .inl ⟨rfl, by omega⟩
  · obtain ⟨rfl, rfl⟩ := recvLoop_piece (by decide) loop
    rw [List.length_nil] at most
    rw [loop]
    simp only [if_true]
    rcases recvBody_data rest (getLength_ofHeader heap small) (room_ofHeader heap small) data₁ with
      ⟨blocked, few⟩ | ⟨msg, left, stored, ended⟩
    · rw [blocked]
      exact .inl ⟨rfl, by omega⟩
    · rw [ended]
      exact .inr ⟨_, left, getBuffer_ofHeader heap stored, rfl⟩

/-! ## The thread -/

def InOrder (frames : List Frame) (received : List CVNNetMsg) : Prop :=
  ∃ k ≤ frames.length, received.map CVNNetMsg.getBuffer = (frames.take k).map Frame.bytes

def WholeHeader (serv : ServRecv) (call : RecvCall) : Prop :=
  timesOutInHeader call.answers 0 serv.chan.incoming.length = false

def Aligned (frames : List Frame) (serv : ServRecv) : Prop :=
  ∃ done todo, frames = done ++ todo ∧
    serv.received.map CVNNetMsg.getBuffer = done.map Frame.bytes ∧
    (serv.running = true → serv.chan.valid = true ∧ serv.chan.incoming = streamOf todo)

theorem Aligned.step {frames : List Frame} {chan : CVNChannel} {serv next : ServRecv} {call : RecvCall}
    (small : ∀ frame ∈ frames, frame.bytes.length < 2 ^ 31)
    (aligned : Aligned frames serv) (whole : WholeHeader serv call)
    (step : (servRecvThreadProc chan).step serv call next) : Aligned frames next := by
  obtain ⟨done, todo, rfl, received, onStream⟩ := aligned
  obtain ⟨running, result⟩ := step
  obtain ⟨valid, stream⟩ := onStream running
  have outcome := recvMsg_outcome call.heap valid stream
    (fun frame member => small frame (List.mem_append_right _ member)) whole
  generalize serv.chan.recvMsg call.heap call.answers = ended at outcome result
  cases outcome with
  | blocked => cases result
  | @frame frame rest msg chan left parts bytes valid behind =>
    subst result parts
    refine ⟨done ++ [frame], rest, by simp, ?_, fun _ => ⟨valid, behind⟩⟩
    simp [ServRecv.after, received, bytes]
  | again valid stream =>
    subst result
    exact ⟨done, todo, rfl, received, fun _ => ⟨valid, stream⟩⟩
  | failed =>
    subst result
    exact ⟨done, todo, rfl, received, fun on => Bool.noConfusion on⟩

theorem servRecvThreadProc_inOrder {frames : List Frame} {written : List UInt8} {serv : ServRecv}
    (small : ∀ frame ∈ frames, frame.bytes.length < 2 ^ 31)
    (reached : (servRecvThreadProc ⟨true, streamOf frames, written⟩).Reaches WholeHeader serv) :
    InOrder frames serv.received := by
  have aligned : Aligned frames serv := by
    refine reached.invariant (Aligned frames) ?_ fun _ _ _ => Aligned.step small
    rintro _ rfl
    exact ⟨[], frames, rfl, rfl, fun _ => ⟨rfl, rfl⟩⟩
  obtain ⟨done, todo, rfl, received, -⟩ := aligned
  exact ⟨done.length, by simp, by rw [List.take_left, received]⟩

def emptyFrame : Frame := ⟨2 :: List.replicate 21 0, [], rfl, rfl⟩

def bodyFrame : Frame := ⟨[2, 0, 0, 0, 0, 3, 0, 0, 0, 0, 0, 0, 1, 0, 0, 0, 0, 0, 0, 0, 0, 0], [4, 5, 6], rfl, rfl⟩

theorem servRecvThreadProc_returns {start : CVNChannel} {serv : ServRecv} (call : RecvCall)
    {msg : Option CVNNetMsg} {nErr : RSINFO} {chan : CVNChannel} {left : List RecvAnswer}
    (running : serv.running = true)
    (returns : serv.chan.recvMsg call.heap call.answers = .returned msg nErr chan left) :
    (servRecvThreadProc start).step serv call (serv.after msg nErr chan) := by
  refine ⟨running, ?_⟩
  rw [returns]

theorem all_data (count more : Nat) :
    ∀ answer ∈ List.replicate count (RecvAnswer.data more), ∃ more, answer = .data more :=
  fun _ member => ⟨more, List.eq_of_mem_replicate member⟩

theorem timesOutInHeader_data {answers : List RecvAnswer} (data : ∀ answer ∈ answers, ∃ more, answer = .data more)
    (pos available : Nat) : timesOutInHeader answers pos available = false := by
  induction answers generalizing pos available with
  | nil => rfl
  | cons answer rest ih =>
    obtain ⟨more, rfl⟩ := data answer List.mem_cons_self
    unfold timesOutInHeader
    split
    · rfl
    · dsimp only
      split
      · rfl
      · exact ih (fun answer later => data answer (List.mem_cons_of_mem _ later)) _ _

theorem recvMsg_returns (call : RecvCall) {frame : Frame} {rest : List UInt8} {chan : CVNChannel}
    (valid : chan.valid = true) (stream : chan.incoming = frame.bytes ++ rest)
    (small : frame.bytes.length < 2 ^ 31) (data : ∀ answer ∈ call.answers, ∃ more, answer = .data more)
    (enough : frame.bytes.length ≤ call.answers.length) : ∃ msg left, msg.getBuffer = frame.bytes ∧
      chan.recvMsg call.heap call.answers = .returned (some msg) .success { chan with incoming := rest } left :=
  (recvMsg_delivers call.heap valid stream small data).resolve_left fun blocked => by omega

theorem frame_received {start : CVNChannel} {serv : ServRecv} {frame : Frame} {rest : List UInt8}
    (reached : (servRecvThreadProc start).Reaches WholeHeader serv) (call : RecvCall) (running : serv.running = true)
    (valid : serv.chan.valid = true) (stream : serv.chan.incoming = frame.bytes ++ rest)
    (small : frame.bytes.length < 2 ^ 31) (data : ∀ answer ∈ call.answers, ∃ more, answer = .data more)
    (enough : frame.bytes.length ≤ call.answers.length) : ∃ msg, (servRecvThreadProc start).Reaches WholeHeader
      ⟨{ serv.chan with incoming := rest }, serv.received ++ [msg], serv.running⟩ := by
  obtain ⟨msg, left, -, returns⟩ := recvMsg_returns call valid stream small data enough
  exact ⟨msg, reached.next (timesOutInHeader_data data _ _) (servRecvThreadProc_returns call running returns)⟩

theorem servRecvThreadProc_inOrder_threeFrames : ∃ serv : ServRecv, serv.received.length = 3 ∧
    InOrder [bodyFrame, emptyFrame, bodyFrame] serv.received := by
  -- Three frames, of which two have bodies. There is a timeout behind the first of them.
  let chan : CVNChannel := ⟨true, streamOf [bodyFrame, emptyFrame, bodyFrame], []⟩
  let call : RecvCall := ⟨fun _ => 0, List.replicate 25 (.data 9)⟩
  have data := all_data 25 9
  obtain ⟨first, reached⟩ := @frame_received chan _ bodyFrame (streamOf [emptyFrame, bodyFrame]) (.start rfl) call
    rfl rfl rfl (by decide) data (by decide)
  have waited := reached.next (show WholeHeader _ ⟨fun _ => 0, [.timeout]⟩ from rfl)
    (servRecvThreadProc_returns _ rfl rfl)
  obtain ⟨second, reached⟩ := @frame_received chan _ emptyFrame (streamOf [bodyFrame]) waited call rfl rfl rfl
    (by decide) data (by decide)
  obtain ⟨third, reached⟩ := @frame_received chan _ bodyFrame [] reached call rfl rfl rfl (by decide) data (by decide)
  exact ⟨_, rfl, servRecvThreadProc_inOrder (by decide) reached⟩

/-- The last thirteen bytes of one header and the first nine of the next. -/
def mixedFrame : Frame := ⟨List.replicate 13 0 ++ 2 :: List.replicate 8 0, [], rfl, rfl⟩

theorem servRecvThreadProc_mixes :
    ∃ serv, (servRecvThreadProc ⟨true, streamOf [emptyFrame, emptyFrame, emptyFrame], []⟩).Reaches
        System.Always serv ∧ ¬ InOrder [emptyFrame, emptyFrame, emptyFrame] serv.received := by
  let chan : CVNChannel := ⟨true, streamOf [emptyFrame, emptyFrame, emptyFrame], []⟩
  let chan' : CVNChannel := { chan with incoming := chan.incoming.drop 9 }
  have dropped : chan.recvMsg (fun _ => 0) [.data 8, .timeout] = .returned none .timeout chan' [] := rfl
  obtain ⟨msg, left, bytes, returns⟩ :=
    @recvMsg_delivers (fun _ => 0) mixedFrame (emptyFrame.bytes.drop 9 ++ emptyFrame.bytes) chan'
      (List.replicate 22 (.data 21)) rfl rfl (by decide) (all_data 22 21)
      |>.resolve_left fun blocked => absurd blocked.2 (by decide)
  have first : (servRecvThreadProc chan).Reaches System.Always
      (ServRecv.after ⟨chan, [], true⟩ none .timeout chan') :=
    .next (.start rfl) trivial (servRecvThreadProc_returns ⟨_, _⟩ rfl dropped)
  refine ⟨_, first.next trivial (servRecvThreadProc_returns ⟨_, _⟩ rfl returns), ?_⟩
  rintro ⟨k, -, received⟩
  have alone : [mixedFrame.bytes] = ([emptyFrame, emptyFrame, emptyFrame].take k).map Frame.bytes := by
    rw [← bytes]
    exact received
  cases k with
  | zero => cases alone
  | succ k =>
    have same := (List.cons.inj alone).1
    revert same
    decide

end Foolject.VNClib
