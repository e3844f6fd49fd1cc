import Foolject.VNClib.Fields

/-! A message under construction: any sequence of calls of the header setters and
of the typed parameter setters, and what the message then holds. -/

set_option autoImplicit false

namespace Foolject.VNClib
open Words

/-! ## The parameters a caller sets -/

inductive ParamValue where
  | int8 (value : {v : Int // Fits 8 v})
  | int16 (value : {v : Int // Fits 16 v})
  | int32 (value : {v : Int // Fits 32 v})
  | string (value : CString)

namespace ParamValue

def set (heap : Memory) (fuel : Nat) (msg : CVNNetMsg) (id : Int) :
    ParamValue → Option (Bool × CVNNetMsg)
  | int8 value => msg.setInt8Param heap fuel id value
  | int16 value => msg.setInt16Param heap fuel id value
  | int32 value => msg.setInt32Param heap fuel id value
  | string value => msg.setStringParam heap fuel id value

def param (id : UInt8) : ParamValue → Param
  | int8 value => ⟨id, NetParamType.int8.code, bigEndian 1 value⟩
  | int16 value => ⟨id, NetParamType.int16.code, bigEndian 2 value⟩
  | int32 value => ⟨id, NetParamType.int32.code, bigEndian 4 value⟩
  | string value => ⟨id, NetParamType.string.code, value.bytes⟩

theorem set_eq (heap : Memory) (fuel : Nat) (msg : CVNNetMsg) (id : UInt8) (value : ParamValue) :
    value.set heap fuel msg id.toNat =
      msg.addParam heap fuel id.toNat (value.param id).type (value.param id).data := by
  cases value <;> rfl

@[simp] theorem param_id (id : UInt8) (value : ParamValue) : (value.param id).id = id := by
  cases value <;> rfl

end ParamValue

/-! ## Sequences of settings -/

inductive Setting where
  | header (field : HeaderField) (value : {v : Int // field.Holds v})
  | param (id : UInt8) (value : ParamValue)

namespace Setting

def apply (host : ByteOrder) (heap : Memory) (fuel : Nat) (msg : CVNNetMsg) :
    Setting → Option CVNNetMsg
  | header field value => some (field.set host msg value)
  | param id value => (value.set heap fuel msg id.toNat).map Prod.snd

def param? : Setting → Option Param
  | header _ _ => none
  | param id value => some (value.param id)

def headerValue (field : HeaderField) (before : Int) : Setting → Int
  | header other value => if other.offset = field.offset then value else before
  | param _ _ => before

end Setting

/-- The calls in order. `heap` tells what the buffers a call allocates hold at first. -/
def build (host : ByteOrder) (heap : Nat → Memory) (fuel : Nat) :
    CVNNetMsg → List Setting → Option CVNNetMsg
  | msg, [] => some msg
  | msg, setting :: rest =>
    (setting.apply host (heap rest.length) fuel msg).bind fun next => build host heap fuel next rest

def parameters (settings : List Setting) : List Param := settings.filterMap Setting.param?

def headerValue (type : MsgType) (field : HeaderField) (settings : List Setting) : Int :=
  settings.foldl (Setting.headerValue field) (field.initial type)

theorem byte_toNat (id : UInt8) : byte id.toNat = id := by
  have low := toNat_byte id.toNat
  rw [Int.emod_eq_of_lt (by omega) (by have := id.toNat_lt; omega)] at low
  exact UInt8.toNat_inj.mp (by omega)

theorem lookup_eq_none {id : Int} {params : List Param} (absent : ∀ p ∈ params, id ≠ p.id.toNat) :
    lookup id params = none :=
  List.find?_eq_none.mpr fun p member => by simpa using absent p member

theorem lookup_of_nodup {params : List Param} {p : Param} (distinct : (params.map Param.id).Nodup)
    (member : p ∈ params) : lookup p.id.toNat params = some p := by
  induction params with
  | nil => cases member
  | cons q rest ih =>
    rw [List.map_cons, List.nodup_cons] at distinct
    rw [lookup_cons]
    rcases List.mem_cons.mp member with rfl | inside
    · rw [if_pos rfl]
    · rw [if_neg, ih distinct.2 inside]
      intro same
      have ids : p.id = q.id := UInt8.toNat_inj.mp (by omega)
      exact distinct.1 (ids ▸ List.mem_map_of_mem inside)

namespace CVNNetMsg
variable {msg : CVNNetMsg} {params : List Param} {host : ByteOrder} {fuel : Nat}

structure Follows (host : ByteOrder) (next msg : CVNNetMsg) (params : List Param)
    (values : HeaderField → Int → Int) : Prop extends Holds next params where
  header : ∀ field : HeaderField, field.get host next = values field (field.get host msg)

theorem Holds.apply (host : ByteOrder) (heap : Memory) (holds : msg.Holds params) (enough : params.length < fuel)
    {setting : Setting} (distinct : ((params ++ setting.param?.toList).map Param.id).Nodup) :
    (∃ next, setting.apply host heap fuel msg = some next ∧
      next.Follows host msg (params ++ setting.param?.toList) fun field before =>
        setting.headerValue field before) ∨
    setting.apply host heap fuel msg = none ∧
      2 ^ 31 ≤ 22 + (encodeAll (params ++ setting.param?.toList)).length := by
  cases setting with
  | header field value =>
    refine .inl ⟨_, rfl, ?_, fun other => HeaderField.get_set value.2⟩
    rw [HeaderField.set_eq]
    simpa [Setting.param?] using holds.setField field.untouched
  | param id value =>
    have pos := holds.pos
    simp only [endOfHeader] at pos
    have absent : lookup id.toNat params = none := by
      refine lookup_eq_none fun p member same => ?_
      have ids : id = p.id := UInt8.toNat_inj.mp (by omega)
      rw [List.map_append, List.nodup_append] at distinct
      refine distinct.2.2 p.id (List.mem_map_of_mem member) id ?_ ids.symm
      simp [Setting.param?]
    have size : (encodeAll (params ++ [value.param id])).length =
        (encodeAll params).length + (6 + (value.param id).data.length) := by simp
    simp only [Setting.param?, Option.toList_some, Setting.apply, ParamValue.set_eq, size]
    by_cases small : msg.pos + 6 + (value.param id).data.length < 2 ^ 31
    · obtain ⟨next, added, held, fields⟩ : ∃ next, msg.addParam heap fuel id.toNat
          (value.param id).type (value.param id).data = some (true, next) ∧ _ ∧ _ :=
        holds.addParam_absent enough absent small
      have same : (⟨byte id.toNat, (value.param id).type, (value.param id).data⟩ : Param) =
          value.param id := by
        rw [byte_toNat]
        cases value <;> rfl
      rw [same] at held
      refine .inl ⟨next, by rw [added]; rfl, held, fun field => ?_⟩
      rw [HeaderField.get_eq, HeaderField.get_eq, fields _ _ _ field.untouched]
      rfl
    · refine .inr ⟨?_, by omega⟩
      rw [holds.addParam_overflow enough absent (by omega)]
      rfl

theorem Holds.build (heap : Nat → Memory) (holds : msg.Holds params) (settings : List Setting)
    (enough : params.length + settings.length < fuel)
    (distinct : ((params ++ parameters settings).map Param.id).Nodup) :
    (∃ next, build host heap fuel msg settings = some next ∧
      next.Follows host msg (params ++ parameters settings) fun field before =>
        settings.foldl (Setting.headerValue field) before) ∨
    build host heap fuel msg settings = none ∧
      2 ^ 31 ≤ 22 + (encodeAll (params ++ parameters settings)).length := by
  -- The induction is on the calls; the last disjunct is a message past the range of int.
  induction settings generalizing msg params with
  | nil =>
    refine .inl ⟨msg, rfl, ?_, fun _ => rfl⟩
    rwa [parameters, List.filterMap_nil, List.append_nil]
  | cons setting rest ih =>
    have split : params ++ parameters (setting :: rest) =
        (params ++ setting.param?.toList) ++ parameters rest := by
      cases setting <;> simp [parameters, Setting.param?, List.filterMap_cons]
    rw [split] at distinct ⊢
    have first : ((params ++ setting.param?.toList).map Param.id).Nodup := by
      rw [List.map_append] at distinct
      exact (List.nodup_append.mp distinct).1
    have most : setting.param?.toList.length ≤ 1 := by cases setting.param? <;> simp
    rw [List.length_cons] at enough
    have room : params.length < fuel := by omega
    simp only [Foolject.VNClib.build]
    rcases holds.apply host (heap rest.length) room first with
      ⟨next, applied, follows⟩ | ⟨stuck, large⟩
    · rw [applied]
      rcases ih follows.toHolds (by rw [List.length_append]; omega) distinct with
        ⟨last, built, after⟩ | ⟨stuck, large⟩
      · refine .inl ⟨last, built, after.toHolds, fun field => ?_⟩
        rw [after.header, follows.header]
        rfl
      · exact .inr ⟨stuck, large⟩
    · rw [stuck]
      refine .inr ⟨rfl, ?_⟩
      rw [encodeAll_append, List.length_append]
      omega

theorem build_initEmptyMsg (heap : Nat → Memory) (fresh : Memory) (type : MsgType) {length : Int}
    (small : length < 2 ^ 31) (settings : List Setting)
    (distinct : ((parameters settings).map Param.id).Nodup) (enough : settings.length < fuel) :
    (∃ next, build host heap fuel (initEmptyMsg fresh type length) settings = some next ∧
      next.Holds (parameters settings) ∧
      ∀ field : HeaderField, field.get host next = headerValue type field settings) ∨
    build host heap fuel (initEmptyMsg fresh type length) settings = none ∧
      2 ^ 31 ≤ 22 + (encodeAll (parameters settings)).length := by
  have holds := holds_initEmptyMsg fresh type small
  rcases holds.build heap settings (by simpa using enough) (by simpa using distinct) with
    ⟨next, built, follows⟩ | stuck
  · refine .inl ⟨next, built, by simpa using follows.toHolds, fun field => ?_⟩
    rw [follows.header, HeaderField.get_initEmptyMsg]
    rfl
  · exact .inr (by simpa using stuck)

end CVNNetMsg

end Foolject.VNClib
