import Mathlib.Data.List.Nodup
import Foolject.VNClib.RecvFraming
import Foolject.VNClib.Settings

/-! From the setters of the sender to the getters of the receiver, over a
connection and over a datagram. -/

set_option autoImplicit false

namespace Foolject.VNClib
open Words

namespace CVNNetMsg

section Getters
variable {msg : CVNNetMsg} {params : List Param} {id : Int} {fuel : Nat}

theorem getIntParam_carries (width : Nat) (type : NetParamType) (carries : msg.Carries params)
    (enough : params.length < fuel) {p : Param} (found : lookup id params = some p) {v : Int}
    (typed : p.type = type.code) (stored : p.data = bigEndian width v) (positive : 0 < width)
    (fits : Fits (8 * width) v) (stack : List UInt8) :
    getIntParam width type stack fuel msg id = some (some v) := by
  have sized : p.data.length = width := by rw [stored, length_bigEndian]
  have copied : (overlay p.data stack).take width = bigEndian width v := by
    rw [← stored, ← sized]
    exact List.take_left
  simp [getIntParam, getParam_carries carries id _ _ enough, found, answer, typed, sized, copied,
    wrap_value_bigEndian width positive fits]

theorem getStringParam_carries (carries : msg.Carries params) (enough : params.length < fuel) {p : Param}
    (found : lookup id params = some p) (typed : p.type = NetParamType.string.code) {length : Int}
    (room : p.data.length ≤ length) :
    getStringParam fuel msg id length = some ⟨true, p.data ++ [0]⟩ := by
  simp [getStringParam, getParam_carries carries id _ _ enough, found, answer, typed, not_lt.mpr room]

def Fails (fuel : Nat) (msg : CVNNetMsg) (id : Int) : Prop :=
  (∀ stack, getInt8Param stack fuel msg id = some none ∧ getInt16Param stack fuel msg id = some none ∧
    getInt32Param stack fuel msg id = some none) ∧
  ∀ length, (getStringParam fuel msg id length).map StringResult.ok = some false

theorem fails_of_lookup (carries : msg.Carries params) (enough : params.length < fuel)
    (absent : lookup id params = none) : msg.Fails fuel id := by
  have missing : ∀ width type stack, getIntParam width type stack fuel msg id = some none := by
    intro width type stack
    simp [getIntParam, getParam_carries carries id _ _ enough, absent, answer]
  refine ⟨fun stack => ⟨missing _ _ _, missing _ _ _, missing _ _ _⟩, fun length => ?_⟩
  simp [getStringParam, getParam_carries carries id _ _ enough, absent, answer]

end Getters

/-! ## Messages with the same bytes -/

section SameBytes
variable {sent received : CVNNetMsg} {params : List Param} (holds : sent.Holds params)
  (same : received.getBuffer = sent.getBuffer)

theorem Holds.length_getBuffer {msg : CVNNetMsg} (holds : msg.Holds params) :
    msg.getBuffer.length = 22 + (encodeAll params).length := by
  have pos := holds.pos
  simp only [endOfHeader] at pos
  rw [getBuffer, Memory.length_load]
  omega

include holds same

theorem pos_received : received.pos = sent.pos := by
  have pos := holds.pos
  have sizes := congrArg List.length same
  simp only [getBuffer, Memory.length_load, endOfHeader] at pos sizes
  omega

theorem load_received {first count : Nat} (within : first + count ≤ 22 + (encodeAll params).length) :
    received.data.load first count = sent.data.load first count := by
  have pos := holds.pos
  simp only [endOfHeader] at pos
  rw [getBuffer, getBuffer, pos_received holds same] at same
  have inside := Memory.load_inside same (show first + count ≤ sent.pos.toNat by omega)
  simpa using inside

theorem getField_received (order : ByteOrder) {offset width : Nat} (inside : offset + width ≤ 22) :
    received.getField order offset width = sent.getField order offset width := by
  unfold getField
  rw [load_received holds same (by omega)]

theorem carries_received : received.Carries params where
  body := (load_received holds same (le_refl _)).trans holds.body
  pos := (pos_received holds same).trans holds.pos
  bound := holds.bound

end SameBytes

end CVNNetMsg

/-! ## The round trip -/

def ParamValue.ReadBack (fuel : Nat) (msg : CVNNetMsg) (id : Int) : ParamValue → Prop
  | int8 v => ∀ stack, CVNNetMsg.getInt8Param stack fuel msg id = some (some v.val)
  | int16 v => ∀ stack, CVNNetMsg.getInt16Param stack fuel msg id = some (some v.val)
  | int32 v => ∀ stack, CVNNetMsg.getInt32Param stack fuel msg id = some (some v.val)
  | string s => ∀ length : Int, (s.bytes.length : Int) + 1 ≤ length →
      CVNNetMsg.getStringParam fuel msg id length = some ⟨true, s.array⟩

/-- What the getters return of a message that was built by the settings. -/
structure RoundTrip (host : ByteOrder) (type : MsgType) (settings : List Setting) (msg : CVNNetMsg) :
    Prop where
  header : ∀ field : HeaderField, field.get host msg = headerValue type field settings
  length : msg.getLength = (encodeAll (parameters settings)).length
  count : msg.getParamCount = (parameters settings).length
  set : ∀ id value, Setting.param id value ∈ settings →
    ∀ fuel, settings.length < fuel → value.ReadBack fuel msg id.toNat
  unset : ∀ id : Int, (∀ p ∈ parameters settings, id ≠ p.id.toNat) →
    ∀ fuel, settings.length < fuel → msg.Fails fuel id

theorem ParamValue.readBack_carries {msg : CVNNetMsg} {params : List Param} {fuel : Nat} {id : UInt8}
    {value : ParamValue} (carries : msg.Carries params) (enough : params.length < fuel)
    (found : lookup id.toNat params = some (value.param id)) : value.ReadBack fuel msg id.toNat := by
  cases value with
  | int8 v => exact CVNNetMsg.getIntParam_carries 1 .int8 carries enough found rfl rfl (by decide) v.2
  | int16 v => exact CVNNetMsg.getIntParam_carries 2 .int16 carries enough found rfl rfl (by decide) v.2
  | int32 v => exact CVNNetMsg.getIntParam_carries 4 .int32 carries enough found rfl rfl (by decide) v.2
  | string s =>
    intro length room
    have fits : (s.bytes.length : Int) ≤ length := by omega
    exact CVNNetMsg.getStringParam_carries carries enough found rfl fits

theorem length_le_of_distinct {params : List Param} (distinct : (params.map Param.id).Nodup) :
    params.length ≤ 256 := by
  have numbers : ((params.map Param.id).map UInt8.toNat).Nodup :=
    List.Nodup.map (fun _ _ => UInt8.toNat_inj.mp) distinct
  have inside : (params.map Param.id).map UInt8.toNat ⊆ List.range 256 := by
    intro n member
    obtain ⟨id, -, rfl⟩ := List.mem_map.mp member
    exact List.mem_range.mpr id.toNat_lt
  simpa using numbers.length_le_of_subset inside

theorem length_parameters_le (settings : List Setting) :
    (parameters settings).length ≤ settings.length :=
  List.length_filterMap_le _ _

theorem mem_parameters {settings : List Setting} {id : UInt8} {value : ParamValue}
    (member : Setting.param id value ∈ settings) : value.param id ∈ parameters settings :=
  List.mem_filterMap.mpr ⟨_, member, rfl⟩

section
variable {host : ByteOrder} {type : MsgType} {settings : List Setting} {sent : CVNNetMsg}
  (distinct : ((parameters settings).map Param.id).Nodup) (holds : sent.Holds (parameters settings))
  (header : ∀ field : HeaderField, field.get host sent = headerValue type field settings)
include distinct holds header

theorem roundTrip_received {received : CVNNetMsg} (same : received.getBuffer = sent.getBuffer) :
    RoundTrip host type settings received where
  header := by
    intro field
    rw [← header, HeaderField.get_eq, HeaderField.get_eq,
      CVNNetMsg.getField_received holds same _ field.untouched.1]
  length := by
    rw [← holds.getLength_eq]
    exact congrArg (fun field : Nat => wrap 32 field)
      (CVNNetMsg.getField_received holds same _ (by decide))
  count := by
    have few := length_le_of_distinct distinct
    have stored := (CVNNetMsg.getField_received holds same .big (by decide)).trans holds.count
    rw [Nat.mod_eq_of_lt (by omega)] at stored
    exact congrArg Nat.cast stored
  set := by
    intro id value member fuel enough
    have few := length_parameters_le settings
    have found := lookup_of_nodup distinct (mem_parameters member)
    rw [ParamValue.param_id] at found
    exact ParamValue.readBack_carries (CVNNetMsg.carries_received holds same) (by omega) found
  unset := by
    intro id absent fuel enough
    have few := length_parameters_le settings
    exact CVNNetMsg.fails_of_lookup (CVNNetMsg.carries_received holds same) (by omega)
      (lookup_eq_none absent)

end

theorem CVNNetMsg.Holds.headerLength {msg : CVNNetMsg} {params : List Param} (holds : msg.Holds params) :
    (msg.getBuffer.take endOfHeader).length = endOfHeader := by
  rw [List.length_take, holds.length_getBuffer, endOfHeader]
  omega

theorem CVNNetMsg.Holds.lengthField {msg : CVNNetMsg} {params : List Param} (holds : msg.Holds params) :
    value (((msg.getBuffer.take endOfHeader).drop msgLengthOffset).take 4) =
      (msg.getBuffer.drop endOfHeader).length := by
  have pos := holds.pos
  simp only [endOfHeader] at pos
  rw [List.length_drop, holds.length_getBuffer, List.drop_take, List.take_take,
    show min 4 (endOfHeader - msgLengthOffset) = 4 from rfl, CVNNetMsg.getBuffer,
    Memory.take_drop_load (by simp only [msgLengthOffset]; omega)]
  exact holds.length.trans (by simp)

def CVNNetMsg.Holds.frame {msg : CVNNetMsg} {params : List Param} (holds : msg.Holds params) : Frame where
  header := msg.getBuffer.take endOfHeader
  body := msg.getBuffer.drop endOfHeader
  headerLength := holds.headerLength
  lengthField := holds.lengthField

theorem CVNNetMsg.Holds.bytes_frame {msg : CVNNetMsg} {params : List Param} (holds : msg.Holds params) :
    holds.frame.bytes = msg.getBuffer :=
  List.take_append_drop _ _

theorem le_maxLength_initEmptyMsg (heap : Memory) (type : MsgType) (length : Int) :
    length ≤ (CVNNetMsg.initEmptyMsg heap type length).maxLength := by
  change length ≤ if length < endOfHeader then (endOfHeader : Int) else length
  split <;> omega

section Datagram
variable {heap : Memory} {chan : CVNChannel} {nLen : Int} {bytes : List UInt8} {sender : CString}
  (header : endOfHeader ≤ bytes.length)
include header

theorem recvBroadCastMsg_bytes {chan' : CVNChannel} {msg : CVNNetMsg} {origin : CString}
    (returns : chan.recvBroadCastMsg heap nLen (.datagram bytes sender) =
      some (some (msg, origin), chan')) :
    msg.getBuffer = bytes ∧ origin = sender ∧ chan' = chan := by
  simp only [CVNChannel.recvBroadCastMsg] at returns
  split at returns
  · cases returns
  · obtain ⟨stored, written, result⟩ := Option.map_eq_some_iff.mp returns
    cases result
    obtain ⟨-, written⟩ := Option.ite_none_right_eq_some.mp written
    cases written
    refine ⟨?_, rfl, rfl⟩
    rw [CVNNetMsg.setWritePos]
    split
    · -- A datagram that is a bare header leaves the write position where it is.
      have bare : endOfHeader = bytes.length := by omega
      exact (congrArg (Memory.load _ 0) bare).trans Memory.load_store_self
    · exact Memory.load_store_self

theorem recvBroadCastMsg_returns (within : bytes.length ≤ nLen) (small : nLen + defExtraMsgSpace < 2 ^ 31) :
    ∃ msg, chan.recvBroadCastMsg heap nLen (.datagram bytes sender) =
      some (some (msg, sender), chan) := by
  simp only [CVNChannel.recvBroadCastMsg]
  simp only [endOfHeader] at header
  rw [if_neg (by omega)]
  have extra : defExtraMsgSpace = 54 := rfl
  have room : (bytes.length : Int) ≤ (CVNNetMsg.ofTypeLength heap .request nLen).maxLength := by
    have capacity := le_maxLength_initEmptyMsg heap .request (wrap 32 (defExtraMsgSpace + nLen))
    have wrapped : wrap 32 (54 + nLen) = 54 + nLen := wrap_of_fits (by decide) ⟨by omega, by omega⟩
    rw [extra, wrapped] at capacity
    rw [CVNNetMsg.ofTypeLength, extra, wrapped]
    omega
  have stored : ∃ msg, (CVNNetMsg.ofTypeLength heap .request nLen).write 0 bytes = some msg :=
    ⟨_, if_pos ⟨le_refl _, by omega⟩⟩
  obtain ⟨msg, stored⟩ := stored
  exact ⟨_, by rw [stored]; rfl⟩

theorem recvBroadCastMsg_wraps (within : bytes.length ≤ nLen) (int : nLen < 2 ^ 31)
    (wraps : 2 ^ 31 ≤ nLen + defExtraMsgSpace) :
    (∃ msg, chan.recvBroadCastMsg heap nLen (.datagram bytes sender) = some (some (msg, sender), chan)) ↔
      bytes.length = endOfHeader := by
  -- Where the size of the new message wraps, its buffer is as long as a header.
  have extra : defExtraMsgSpace = 54 := rfl
  have size : (CVNNetMsg.ofTypeLength heap .request nLen).maxLength = endOfHeader := by
    have wrapped : wrap 32 (defExtraMsgSpace + nLen) = 54 + nLen - 2 ^ 32 := by
      change (54 + nLen + 2 ^ 31) % 2 ^ 32 - 2 ^ 31 = _
      omega
    have negative : wrap 32 (defExtraMsgSpace + nLen) < endOfHeader := by
      rw [wrapped]
      simp only [endOfHeader]
      omega
    exact if_pos negative
  have sized : ¬ (bytes.length = 0 ∨ nLen < bytes.length) := by
    simp only [endOfHeader] at header
    omega
  simp only [CVNChannel.recvBroadCastMsg, if_neg sized, CVNNetMsg.write, size]
  by_cases bare : bytes.length = endOfHeader
  · rw [if_pos ⟨le_refl _, by omega⟩]
    exact iff_of_true ⟨_, rfl⟩ bare
  · rw [if_neg (by omega)]
    refine iff_of_false ?_ bare
    rintro ⟨msg, returns⟩
    cases returns

end Datagram

theorem encodeAll_eq_nil_iff (params : List Param) : (encodeAll params).length = 0 ↔ params = [] := by
  cases params with
  | nil => exact iff_of_true rfl rfl
  | cons p rest =>
    refine iff_of_false ?_ (List.cons_ne_nil p rest)
    rw [encodeAll_cons, List.length_append, Param.length_encode]
    omega

/-- What is returned is as it was sent, so what is left to ask is whether anything is. -/
theorem recvBroadCastMsg_roundTrip {host : ByteOrder} {type : MsgType} {settings : List Setting} {sent : CVNNetMsg}
    {heap : Memory} {chan : CVNChannel} {nLen : Int} {sender : CString}
    (agrees : ∀ received : CVNNetMsg, received.getBuffer = sent.getBuffer → RoundTrip host type settings received)
    (size : sent.getBuffer.length = endOfHeader + (encodeAll (parameters settings)).length)
    (within : sent.getBuffer.length ≤ nLen) (int : nLen < 2 ^ 31) :
    (∃ received, chan.recvBroadCastMsg heap nLen (.datagram sent.getBuffer sender) =
        some (some (received, sender), chan) ∧ RoundTrip host type settings received) ↔
      nLen + defExtraMsgSpace < 2 ^ 31 ∨ parameters settings = [] := by
  have whole : endOfHeader ≤ sent.getBuffer.length := by
    rw [size]
    exact Nat.le_add_right _ _
  have trip : (∃ received, chan.recvBroadCastMsg heap nLen (.datagram sent.getBuffer sender) =
        some (some (received, sender), chan) ∧ RoundTrip host type settings received) ↔
      ∃ received, chan.recvBroadCastMsg heap nLen (.datagram sent.getBuffer sender) =
        some (some (received, sender), chan) := by
    refine exists_congr fun received => and_iff_left_of_imp fun returns => ?_
    exact agrees received (recvBroadCastMsg_bytes whole returns).1
  rw [trip]
  by_cases room : nLen + defExtraMsgSpace < 2 ^ 31
  · exact iff_of_true (recvBroadCastMsg_returns whole within room) (.inl room)
  · rw [recvBroadCastMsg_wraps whole within int (not_lt.mp room), or_iff_right room,
      ← encodeAll_eq_nil_iff, size, endOfHeader]
    omega

/-- A message built by any settings with distinct ids, and what both receivers make of its bytes.
The calls give a message exactly when it stays within the range of int. A datagram makes the round
trip exactly if the size of the new message does not wrap, or it has no parameter. -/
theorem message_roundTrip (host : ByteOrder) (fresh : Memory) (heap : Nat → Memory) (type : MsgType)
    {capacity : Int} (small : capacity < 2 ^ 31) {settings : List Setting}
    (distinct : ((parameters settings).map Param.id).Nodup) {fuel : Nat} (enough : settings.length < fuel) :
    (22 + (encodeAll (parameters settings)).length < 2 ^ 31 →
      ∃ sent, build host heap fuel (.initEmptyMsg fresh type capacity) settings = some sent) ∧
    ∀ sent, build host heap fuel (.initEmptyMsg fresh type capacity) settings = some sent →
      (∀ (heap : Memory) (chan : CVNChannel) (rest : List UInt8) (answers : List RecvAnswer),
        chan.valid = true → chan.incoming = sent.getBuffer ++ rest →
        (∀ answer ∈ answers, ∃ more, answer = .data more) →
        chan.recvMsg heap answers = .blocked ∧ answers.length < sent.getBuffer.length ∨
        ∃ received left, chan.recvMsg heap answers =
            .returned (some received) .success { chan with incoming := rest } left ∧
          RoundTrip host type settings received) ∧
      ∀ (heap : Memory) (chan : CVNChannel) (nLen : Int) (sender : CString),
        sent.getBuffer.length ≤ nLen → nLen < 2 ^ 31 →
        ((∃ received, chan.recvBroadCastMsg heap nLen (.datagram sent.getBuffer sender) =
            some (some (received, sender), chan) ∧ RoundTrip host type settings received) ↔
          nLen + defExtraMsgSpace < 2 ^ 31 ∨ parameters settings = []) := by
  rcases CVNNetMsg.build_initEmptyMsg heap fresh type small settings distinct enough with
    ⟨sent, built, holds, header⟩ | ⟨stuck, large⟩
  · refine ⟨fun _ => ⟨sent, built⟩, fun sent' built' => ?_⟩
    obtain rfl : sent = sent' := Option.some.inj (built.symm.trans built')
    have bound := holds.bound
    have size := holds.length_getBuffer
    simp only [endOfHeader] at bound
    have agrees : ∀ received : CVNNetMsg, received.getBuffer = sent.getBuffer →
        RoundTrip host type settings received := fun received same =>
      roundTrip_received distinct holds header same
    refine ⟨fun heap chan rest answers valid stream data => ?_, fun heap chan nLen sender within int => ?_⟩
    · rw [← holds.bytes_frame] at stream ⊢
      have short : holds.frame.bytes.length < 2 ^ 31 := by
        rw [holds.bytes_frame]
        omega
      rcases recvMsg_delivers heap valid stream short data with blocked | ⟨received, left, same, returns⟩
      · exact .inl blocked
      · exact .inr ⟨received, left, returns, agrees received (same.trans holds.bytes_frame)⟩
    · exact recvBroadCastMsg_roundTrip agrees size within int
  · constructor
    · intro within
      omega
    · intro sent built
      rw [stuck] at built
      cases built

theorem ping_noNul : (0 : UInt8) ∉ [80, 73, 78, 71] := by decide

def heartbeatSettings : List Setting :=
  [.header .flags ⟨7, by decide, by decide⟩, .param 0 (.int32 ⟨-2, by decide⟩),
    .param 255 (.string ⟨[80, 73, 78, 71], ping_noNul⟩)]

theorem message_roundTrip_heartbeatSettings :
    ∃ sent, build .little (fun _ _ => 0) 4 (.ofType (fun _ => 0) .request) heartbeatSettings = some sent ∧
      (∃ received left, CVNChannel.recvMsg (fun _ => 0) ⟨true, sent.getBuffer ++ [], []⟩
          (List.replicate sent.getBuffer.length (.data 0)) =
            .returned (some received) .success ⟨true, [], []⟩ left ∧
        RoundTrip .little .request heartbeatSettings received) ∧
      ∃ received, CVNChannel.recvBroadCastMsg (fun _ => 0) ⟨true, [], []⟩ 1000
          (.datagram sent.getBuffer .empty) = some (some (received, .empty), ⟨true, [], []⟩) ∧
        RoundTrip .little .request heartbeatSettings received := by
  obtain ⟨defined, receive⟩ := @message_roundTrip .little (fun _ => 0) (fun _ _ => 0) .request
    defMsgLength (by decide) heartbeatSettings (by decide) 4 (by decide)
  obtain ⟨sent, built⟩ := defined (by decide)
  obtain ⟨stream, datagram⟩ := receive sent built
  have size : (sent.getBuffer.length : Int) ≤ 1000 := by
    rcases @CVNNetMsg.build_initEmptyMsg .little 4 (fun _ _ => 0) (fun _ => 0) .request defMsgLength (by decide)
      heartbeatSettings (by decide) (by decide) with ⟨next, same, holds, -⟩ | ⟨-, large⟩
    · obtain rfl : sent = next := Option.some.inj (built.symm.trans same)
      have params : (encodeAll (parameters heartbeatSettings)).length = 20 := by decide
      rw [holds.length_getBuffer, params]
      decide
    · exact absurd large (by decide)
  refine ⟨sent, built, ?_, (datagram _ _ 1000 .empty size (by decide)).mpr (.inl (by decide))⟩
  rcases stream (fun _ => 0) ⟨true, sent.getBuffer ++ [], []⟩ [] (List.replicate sent.getBuffer.length (.data 0))
    rfl rfl (all_data _ _) with ⟨-, few⟩ | ⟨received, left, returns, same⟩
  · rw [List.length_replicate] at few
    exact absurd few (lt_irrefl _)
  · exact ⟨received, left, returns, same⟩

theorem message_roundTrip_greatestLength :
    ∃ sent, build .little (fun _ _ => 0) 4 (.ofType (fun _ => 0) .request) heartbeatSettings = some sent ∧
      (sent.getBuffer.length : Int) ≤ 2147483647 ∧
      ¬ ∃ received, CVNChannel.recvBroadCastMsg (fun _ => 0) ⟨true, [], []⟩ 2147483647
          (.datagram sent.getBuffer .empty) = some (some (received, .empty), ⟨true, [], []⟩) ∧
        RoundTrip .little .request heartbeatSettings received := by
  -- With the greatest length, the buffer of the new message is too short for a single parameter.
  rcases @CVNNetMsg.build_initEmptyMsg .little 4 (fun _ _ => 0) (fun _ => 0) .request defMsgLength (by decide)
    heartbeatSettings (by decide) (by decide) with ⟨sent, built, holds, -⟩ | ⟨-, large⟩
  · have size := holds.length_getBuffer
    have params : (encodeAll (parameters heartbeatSettings)).length = 20 := by decide
    rw [params] at size
    refine ⟨sent, built, by omega, ?_⟩
    rintro ⟨received, returns, -⟩
    have bare := (recvBroadCastMsg_wraps (by rw [size, endOfHeader]; decide) (by omega) (by decide)
      (by decide)).mp ⟨received, returns⟩
    rw [size] at bare
    cases bare
  · exact absurd large (by decide)

end Foolject.VNClib
