import Foolject.VNClib.Params

/-! `AddParam` and the header setters on a message under construction.

`Holds` ties the buffer of a message to the parameters added so far. Adding a
new parameter appends it and touches no other header field than the length and
the count; adding an id that is present changes nothing.
-/

set_option autoImplicit false

namespace Foolject.VNClib
open Words

namespace CVNNetMsg

section Fields
variable (order other : ByteOrder) {offset width at_ count : Nat} (v : Int) (msg : CVNNetMsg)

@[simp] theorem setField_pos : (msg.setField order offset width v).pos = msg.pos := rfl

@[simp] theorem setField_maxLength :
    (msg.setField order offset width v).maxLength = msg.maxLength := rfl

theorem getField_setField_self :
    ((msg.setField order offset width v).getField order offset width : Int) = v % 256 ^ width := by
  have stored : (msg.data.store offset (order.encode width v)).load offset
      (order.encode width v).length = order.encode width v := Memory.load_store_self
  rw [ByteOrder.length_encode] at stored
  rw [getField, setField, stored, ByteOrder.decode_encode]

theorem getField_setField_of_disjoint (disjoint : offset + width ≤ at_ ∨ at_ + count ≤ offset) :
    (msg.setField order offset width v).getField other at_ count = msg.getField other at_ count := by
  unfold getField setField
  congr 1
  rcases disjoint with above | below
  · exact Memory.load_store_above (by rw [ByteOrder.length_encode]; omega)
  · exact Memory.load_store_below (by omega)

theorem load_setField {base : Int} (above : (offset : Int) + width ≤ base) :
    (msg.setField order offset width v).data.load base count = msg.data.load base count :=
  Memory.load_store_above (by rw [ByteOrder.length_encode]; exact above)

end Fields

def Untouched (offset width : Nat) : Prop :=
  offset + width ≤ 22 ∧ (offset + width ≤ 2 ∨ 6 ≤ offset) ∧ (offset + width ≤ 16 ∨ 18 ≤ offset)

instance (offset width : Nat) : Decidable (Untouched offset width) :=
  inferInstanceAs (Decidable (_ ∧ _))

structure Holds (msg : CVNNetMsg) (params : List Param) : Prop extends Carries msg params where
  room : msg.pos ≤ msg.maxLength
  capacity : msg.maxLength < 2 ^ 31
  length : msg.getField .big 2 4 = (encodeAll params).length
  count : msg.getField .big 16 2 = params.length % 65536

variable {msg : CVNNetMsg} {params : List Param}

theorem Holds.setField {order : ByteOrder} {offset width : Nat} {v : Int}
    (holds : msg.Holds params) (untouched : Untouched offset width) :
    (msg.setField order offset width v).Holds params where
  body := by
    rw [load_setField _ _ _ (by have := untouched.1; simp only [endOfHeader]; omega)]
    exact holds.body
  pos := holds.pos
  bound := holds.bound
  room := holds.room
  capacity := holds.capacity
  length := by
    rw [getField_setField_of_disjoint _ _ _ _ (by have := untouched.2.1; omega)]
    exact holds.length
  count := by
    rw [getField_setField_of_disjoint _ _ _ _ (by have := untouched.2.2; omega)]
    exact holds.count

theorem load_zeros (heap : Memory) {offset count : Nat} (inside : offset + count ≤ 22) :
    (heap.store 0 (List.replicate 22 0)).load offset count = List.replicate count 0 := by
  refine Memory.load_eq_of_getD _ (by simp) fun i bound => ?_
  have index : ((offset : Int) + i - 0).toNat < 22 := by omega
  rw [Memory.store, if_pos (by simp only [List.length_replicate]; omega)]
  simp only [List.getD_eq_getElem?_getD, List.getElem?_replicate, index, bound, if_true]

theorem holds_initEmptyMsg (heap : Memory) (type : MsgType) {length : Int} (small : length < 2 ^ 31) :
    (initEmptyMsg heap type length).Holds [] := by
  let fresh : CVNNetMsg :=
    { data := heap.store 0 (List.replicate endOfHeader 0)
      pos := endOfHeader
      maxLength := if length < endOfHeader then (endOfHeader : Int) else length }
  have start : fresh.Holds [] := by
    refine ⟨⟨rfl, rfl, by decide⟩, ?_, ?_, ?_, ?_⟩
    · simp only [fresh]
      split <;> omega
    · by_cases short : length < 22
      · simp [fresh, short]
      · simpa [fresh, short] using small
    · simp only [getField, fresh, endOfHeader]
      rw [load_zeros heap (by decide)]
      rfl
    · simp only [getField, fresh, endOfHeader]
      rw [load_zeros heap (by decide)]
      rfl
  exact start.setField (by decide)

theorem getType_initEmptyMsg (heap : Memory) (type : MsgType) (length : Int) :
    (initEmptyMsg heap type length).getType = type.code := by
  have stored : ((initEmptyMsg heap type length).getField .big 0 1 : Int) = type.code % 256 ^ 1 :=
    getField_setField_self _ _ _
  refine stored.trans ?_
  cases type <;> rfl

theorem getField_initEmptyMsg (heap : Memory) (type : MsgType) (length : Int) (order : ByteOrder)
    {offset width : Nat} (behind : 1 ≤ offset) (inside : offset + width ≤ 22) :
    (initEmptyMsg heap type length).getField order offset width = 0 := by
  refine (getField_setField_of_disjoint _ _ _ _ (.inl behind)).trans ?_
  exact (congrArg order.decode (load_zeros heap inside)).trans (order.decode_replicate_zero width)

/-- Growing the buffer keeps everything in it. -/
theorem Holds.grow (heap : Memory) (holds : msg.Holds params) (size : Int)
    (larger : msg.maxLength ≤ size) (small : size < 2 ^ 31) :
    (msg.grow heap size).Holds params ∧
    ∀ order offset width, offset + width ≤ 22 →
      (msg.grow heap size).getField order offset width = msg.getField order offset width := by
  have pos := holds.pos
  have room := holds.room
  simp only [endOfHeader] at pos
  have copied : ∀ base count : Nat, (base : Int) + count ≤ msg.pos →
      (msg.grow heap size).data.load base count = msg.data.load base count := by
    intro base count inside
    exact Memory.load_copy (by omega) (by omega)
  have fields : ∀ order offset width, offset + width ≤ 22 →
      (msg.grow heap size).getField order offset width = msg.getField order offset width := by
    intro order offset width inside
    simp only [getField]
    rw [copied offset width (by omega)]
  refine ⟨⟨⟨?_, holds.pos, holds.bound⟩, room.trans larger, small, ?_, ?_⟩, fields⟩
  · rw [copied _ _ (by rw [pos]; exact le_refl _)]
    exact holds.body
  · rw [fields _ _ _ (by decide), holds.length]
  · rw [fields _ _ _ (by decide), holds.count]

theorem wrap_int (v : Int) (low : 0 ≤ v) (high : v < 2 ^ 31) : wrap 32 v = v :=
  wrap_of_fits (by decide) ⟨by omega, by omega⟩

theorem Holds.getLength_eq (holds : msg.Holds params) :
    msg.getLength = (encodeAll params).length := by
  have bound := holds.bound
  simp only [endOfHeader] at bound
  rw [getLength, msgLengthOffset, holds.length, wrap_int _ (by omega) (by omega)]

def stored (msg : CVNNetMsg) (p : Param) : CVNNetMsg :=
  { msg.setParamCount (msg.getParamCount + 1) with
    data := (msg.setParamCount (msg.getParamCount + 1)).data.store msg.pos p.encode
    pos := msg.pos + p.encode.length }

def appended (msg : CVNNetMsg) (p : Param) : CVNNetMsg :=
  (msg.stored p).setLength (msg.getLength + p.encode.length)

theorem Holds.stored_header (holds : msg.Holds params) (p : Param) (order : ByteOrder)
    {offset width : Nat} (inside : offset + width ≤ 22) :
    (msg.stored p).getField order offset width =
      (msg.setParamCount (msg.getParamCount + 1)).getField order offset width := by
  -- The store behind the write position is invisible to the header.
  have pos := holds.pos
  simp only [endOfHeader] at pos
  unfold getField stored
  rw [Memory.load_store_below (by omega)]

theorem Holds.appended_field (holds : msg.Holds params) (p : Param) (order : ByteOrder)
    {offset width : Nat} (untouched : Untouched offset width) :
    (msg.appended p).getField order offset width = msg.getField order offset width := by
  obtain ⟨inside, fromLength, fromCount⟩ := untouched
  calc (msg.appended p).getField order offset width
      = (msg.stored p).getField order offset width :=
        getField_setField_of_disjoint _ _ _ _ (by simp only [msgLengthOffset]; omega)
    _ = (msg.setParamCount (msg.getParamCount + 1)).getField order offset width :=
        holds.stored_header p order inside
    _ = msg.getField order offset width :=
        getField_setField_of_disjoint _ _ _ _ (by simp only [paramCountOffset]; omega)

theorem Holds.appended_body (holds : msg.Holds params) (p : Param) :
    (msg.appended p).data.load endOfHeader (encodeAll (params ++ [p])).length =
      encodeAll (params ++ [p]) := by
  have pos := holds.pos
  have behind : ∀ (base : Int) count, 22 ≤ base →
      (msg.appended p).data.load base count = (msg.stored p).data.load base count :=
    fun base count above => load_setField _ _ _ (by simp only [msgLengthOffset]; omega)
  have old : (msg.appended p).data.load endOfHeader (encodeAll params).length = encodeAll params := by
    rw [behind _ _ (by simp), stored, Memory.load_store_below (by omega)]
    exact (load_setField _ _ _ (by simp)).trans holds.body
  have new : (msg.appended p).data.load msg.pos p.encode.length = p.encode := by
    rw [behind _ _ (by simp only [pos, endOfHeader]; omega), stored, Memory.load_store_self]
  simp only [encodeAll_append, encodeAll_cons, encodeAll_nil, List.append_nil, List.length_append,
    Memory.load_add]
  rw [old, ← pos, new]

theorem Holds.appended (holds : msg.Holds params) {p : Param}
    (fits : msg.pos + p.encode.length ≤ msg.maxLength) : (msg.appended p).Holds (params ++ [p]) := by
  have pos := holds.pos
  have capacity := holds.capacity
  have length := holds.getLength_eq
  simp only [endOfHeader] at pos
  have size : (encodeAll (params ++ [p])).length = (encodeAll params).length + p.encode.length := by
    simp
  refine ⟨⟨holds.appended_body p, ?_, ?_⟩, fits, capacity, ?_, ?_⟩
  · change msg.pos + p.encode.length = _
    simp only [size, endOfHeader]
    omega
  · simp only [size, endOfHeader]
    omega
  · have read : (((msg.stored p).setField .big 2 4 (msg.getLength + p.encode.length)).getField
        .big 2 4 : Int) = _ := getField_setField_self _ _ _
    rw [Int.emod_eq_of_lt (by omega) (by omega)] at read
    change ((msg.appended p).getField .big 2 4 : Int) = _ at read
    omega
  · have outer : (msg.appended p).getField .big 16 2 =
        (msg.setParamCount (msg.getParamCount + 1)).getField .big 16 2 :=
      (getField_setField_of_disjoint _ _ _ _ (by decide)).trans
        (holds.stored_header p .big (by decide))
    have read : ((msg.setField .big 16 2 (msg.getParamCount + 1)).getField .big 16 2 : Int) = _ :=
      getField_setField_self _ _ _
    have before : msg.getParamCount = (msg.getField .big 16 2 : Int) := rfl
    have count := holds.count
    change ((msg.setParamCount (msg.getParamCount + 1)).getField .big 16 2 : Int) = _ at read
    simp only [outer, List.length_append, List.length_cons, List.length_nil]
    omega

/-- No int that `AddParam` computes overflows when there is room for the parameter. -/
theorem Holds.appendParam_eq (holds : msg.Holds params) (id : Int) (type : UInt8) (data : List UInt8)
    (fits : msg.pos + 6 + data.length ≤ msg.maxLength) :
    msg.appendParam id type data = some (msg.appended ⟨byte id, type, data⟩) := by
  have capacity := holds.capacity
  have pos := holds.pos
  have length := holds.getLength_eq
  simp only [endOfHeader] at pos
  obtain ⟨p, shape⟩ : ∃ p : Param, p = ⟨byte id, type, data⟩ := ⟨_, rfl⟩
  have added : (p.encode.length : Int) = 6 + data.length := by simp [shape]
  have bytes : byte id :: type :: bigEndian 4 (wrap 32 data.length) ++ data = p.encode := by
    rw [shape, wrap_int _ (by omega) (by omega)]
    rfl
  have required : wrap 32 ((paramDataStartOffset : Nat) + wrap 32 data.length) = p.encode.length := by
    rw [wrap_int data.length (by omega) (by omega), added]
    exact wrap_int _ (by simp; omega) (by simp; omega)
  have room : 0 ≤ msg.pos ∧ msg.pos + p.encode.length ≤
      (msg.setParamCount (msg.getParamCount + 1)).maxLength :=
    ⟨by omega, by rw [added]; exact le_trans (by omega) fits⟩
  have sameLength : (msg.stored p).getLength = msg.getLength := by
    have read : (msg.stored p).getField .big 2 4 = msg.getField .big 2 4 :=
      (holds.stored_header p .big (by decide)).trans (getField_setField_of_disjoint _ _ _ _ (by decide))
    simp only [getLength, msgLengthOffset, read]
  have moved : wrap 32 (msg.pos + p.encode.length) = msg.pos + p.encode.length :=
    wrap_int _ (by omega) (by omega)
  have total : wrap 32 (msg.getLength + p.encode.length) = msg.getLength + p.encode.length :=
    wrap_int _ (by omega) (by omega)
  rw [← shape]
  unfold CVNNetMsg.appendParam
  simp only [required, bytes, write]
  rw [if_pos (by exact room)]
  simp only [moved, setParamCount, setField_pos]
  change some ((msg.stored p).setLength (wrap 32 ((msg.stored p).getLength + p.encode.length))) = _
  rw [sameLength, total]
  rfl

/-- Without room the store leaves the buffer. -/
theorem appendParam_none {id : Int} {type : UInt8} {data : List UInt8}
    (full : msg.maxLength < msg.pos + 6 + data.length) : msg.appendParam id type data = none := by
  have outside : ¬ (0 ≤ msg.pos ∧ msg.pos +
      (byte id :: type :: bigEndian 4 (wrap 32 data.length) ++ data).length ≤ msg.maxLength) := by
    simp only [List.cons_append, List.length_cons, List.length_append, length_bigEndian]
    omega
  have nothing : (msg.setParamCount (msg.getParamCount + 1)).write
      (msg.setParamCount (msg.getParamCount + 1)).pos
      (byte id :: type :: bigEndian 4 (wrap 32 data.length) ++ data) = none := if_neg outside
  unfold CVNNetMsg.appendParam
  simp only [nothing]

section AddParam
variable {heap : Memory} {fuel : Nat} {id : Int} {type : UInt8} {data : List UInt8}

theorem Holds.addParam_present (holds : msg.Holds params) (enough : params.length < fuel) {p : Param}
    (present : lookup id params = some p) :
    addParam heap fuel msg id type data = some (false, msg) := by
  simp [addParam, getParam_carries holds.toCarries id 0 false enough, present, answer]

/-- A new id is appended whenever the message stays below the range of int. -/
theorem Holds.addParam_absent (holds : msg.Holds params) (enough : params.length < fuel)
    (absent : lookup id params = none) (fits : msg.pos + 6 + data.length < 2 ^ 31) :
    ∃ next, addParam heap fuel msg id type data = some (true, next) ∧
      next.Holds (params ++ [⟨byte id, type, data⟩]) ∧
      ∀ order offset width, Untouched offset width →
        next.getField order offset width = msg.getField order offset width := by
  have pos := holds.pos
  simp only [endOfHeader] at pos
  obtain ⟨p, shape⟩ : ∃ p : Param, p = ⟨byte id, type, data⟩ := ⟨_, rfl⟩
  have added : (p.encode.length : Int) = 6 + data.length := by simp [shape]
  have needed : wrap 32 (msg.pos + wrap 32 ((paramDataStartOffset : Nat) + wrap 32 data.length)) =
      msg.pos + p.encode.length := by
    rw [wrap_int data.length (by omega) (by omega),
      wrap_int ((paramDataStartOffset : Nat) + data.length) (by simp; omega) (by simp; omega),
      wrap_int _ (by simp; omega) (by simp; omega), added]
    rfl
  rw [← shape]
  simp only [addParam, getParam_carries holds.toCarries id 0 false enough, absent, answer, needed,
    Int.reduceNeg, Int.reduceEq, if_false]
  by_cases small : msg.pos + p.encode.length > msg.maxLength
  · obtain ⟨grown, fields⟩ := holds.grow heap (msg.pos + p.encode.length) (by omega) (by omega)
    have room : (msg.grow heap (msg.pos + p.encode.length)).pos + p.encode.length ≤
        (msg.grow heap (msg.pos + p.encode.length)).maxLength := le_refl _
    have done := grown.appendParam_eq id type data (by omega)
    rw [← shape] at done
    refine ⟨_, by rw [if_pos small, done]; rfl, grown.appended room, ?_⟩
    intro order offset width apart
    rw [grown.appended_field p order apart, fields _ _ _ apart.1]
  · have done := holds.appendParam_eq id type data (by omega)
    rw [← shape] at done
    refine ⟨_, by rw [if_neg small, done]; rfl, holds.appended (by omega), ?_⟩
    intro order offset width apart
    exact holds.appended_field p order apart

/-- Past the range of int the store has nowhere to go. -/
theorem Holds.addParam_overflow (holds : msg.Holds params) (enough : params.length < fuel)
    (absent : lookup id params = none) (large : 2 ^ 31 ≤ msg.pos + 6 + data.length) :
    addParam heap fuel msg id type data = none := by
  have capacity := holds.capacity
  have full : ∀ size, size < 2 ^ 31 →
      (msg.grow heap size).appendParam id type data = none := fun size small =>
    appendParam_none (show size < msg.pos + 6 + data.length by omega)
  have kept : msg.appendParam id type data = none := appendParam_none (by omega)
  simp only [addParam, getParam_carries holds.toCarries id 0 false enough, absent, answer,
    Int.reduceNeg, Int.reduceEq, if_false]
  split
  · rw [full _ (fits_wrap (by decide) _).2]
    rfl
  · rw [kept]
    rfl

end AddParam

end CVNNetMsg

end Foolject.VNClib
