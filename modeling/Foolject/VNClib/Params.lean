import Foolject.VNClib.NetMsg

/-! The parameters a message carries, and what the walk over them finds.

A buffer carries a list of parameters when the bytes between the header and the
write position are their encodings in order. The walk of `GetParam` over such a
buffer ends, within one turn for each parameter, at the first one with the id.
-/

set_option autoImplicit false

namespace Foolject.VNClib
open Words

structure Param where
  id : UInt8
  type : UInt8
  data : List UInt8
  deriving DecidableEq, Repr

def Param.encode (p : Param) : List UInt8 :=
  p.id :: p.type :: bigEndian 4 p.data.length ++ p.data

def encodeAll (params : List Param) : List UInt8 := params.flatMap Param.encode

@[simp] theorem Param.length_encode (p : Param) : p.encode.length = 6 + p.data.length := by
  simp [encode]
  omega

@[simp] theorem encodeAll_nil : encodeAll [] = [] := rfl

@[simp] theorem encodeAll_cons (p : Param) (rest : List Param) :
    encodeAll (p :: rest) = p.encode ++ encodeAll rest := rfl

@[simp] theorem encodeAll_append (first second : List Param) :
    encodeAll (first ++ second) = encodeAll first ++ encodeAll second :=
  List.flatMap_append

def lookup (id : Int) (params : List Param) : Option Param :=
  params.find? fun p => decide (id = p.id.toNat)

theorem lookup_cons (id : Int) (p : Param) (rest : List Param) :
    lookup id (p :: rest) = if id = p.id.toNat then some p else lookup id rest := by
  by_cases same : id = p.id.toNat <;> simp [lookup, same]

namespace CVNNetMsg

structure Carries (msg : CVNNetMsg) (params : List Param) : Prop where
  body : msg.data.load endOfHeader (encodeAll params).length = encodeAll params
  pos : msg.pos = endOfHeader + (encodeAll params).length
  bound : endOfHeader + (encodeAll params).length < 2 ^ 31

variable {msg : CVNNetMsg} {params : List Param}

def start (done : List Param) : Int := endOfHeader + (encodeAll done).length

theorem Carries.at_param {done rest : List Param} {p : Param}
    (carries : msg.Carries (done ++ p :: rest)) :
    msg.data.load (start done) p.encode.length = p.encode := by
  exact Memory.load_piece carries.body (encodeAll done) p.encode (encodeAll rest) (by simp)

theorem Carries.fields {done rest : List Param} {p : Param}
    (carries : msg.Carries (done ++ p :: rest)) :
    msg.data (start done) = p.id ∧ msg.data (start done + 1) = p.type ∧
    msg.data.load (start done + 2) 4 = bigEndian 4 p.data.length ∧
    msg.data.load (start done + 6) p.data.length = p.data := by
  have piece := Memory.load_piece carries.at_param
  have id := piece [] [p.id] (p.type :: bigEndian 4 p.data.length ++ p.data) rfl
  have type := piece [p.id] [p.type] (bigEndian 4 p.data.length ++ p.data) rfl
  have length := piece [p.id, p.type] (bigEndian 4 p.data.length) p.data rfl
  have data := piece (p.id :: p.type :: bigEndian 4 p.data.length) p.data [] (by simp [Param.encode])
  refine ⟨?_, ?_, ?_, ?_⟩
  · simpa [Memory.load] using id
  · simpa [Memory.load] using type
  · simpa using length
  · simpa using data

theorem Carries.stored_length {done rest : List Param} {p : Param}
    (carries : msg.Carries (done ++ p :: rest)) :
    wrap 32 (value (msg.data.load (start done + 2) 4)) = p.data.length := by
  have bound := carries.bound
  simp only [encodeAll_append, encodeAll_cons, List.length_append, Param.length_encode,
    endOfHeader] at bound
  rw [carries.fields.2.2.1]
  exact wrap_value_bigEndian 4 (by decide) ⟨by omega, by omega⟩

def answer (data : Bool) (type : Option UInt8) (length : Int) : Option Param → GetParamResult
  | none => ⟨-1, type, length, []⟩
  | some p =>
    if data = false then ⟨0, some p.type, length, []⟩
    else if length < p.data.length then ⟨-1, some p.type, length, []⟩
    else ⟨p.data.length, some p.type, p.data.length, p.data⟩

theorem getParamLoop_carries {done rest : List Param} (carries : msg.Carries (done ++ rest))
    (id : Int) (data : Bool) (type : Option UInt8) (length : Int) {fuel : Nat}
    (enough : rest.length < fuel) :
    getParamLoop msg id data fuel (start done) type length =
      some (answer data type length (lookup id rest)) := by
  -- The induction is on the parameters still ahead of the pointer.
  induction rest generalizing done fuel with
  | nil =>
    obtain ⟨fuel, rfl⟩ := Nat.exists_eq_succ_of_ne_zero (Nat.ne_of_gt enough)
    have stop : ¬ start done < msg.pos := by
      rw [carries.pos, List.append_nil, start]
      exact lt_irrefl _
    simp [getParamLoop, stop, lookup, answer]
  | cons p rest ih =>
    obtain ⟨fuel, rfl⟩ := Nat.exists_eq_succ_of_ne_zero (Nat.ne_of_gt (Nat.zero_lt_of_lt enough))
    obtain ⟨paramID, paramType, -, paramData⟩ := carries.fields
    have paramLength := carries.stored_length
    have room : start done + 6 + p.data.length ≤ msg.pos := by
      rw [carries.pos]
      simp only [start, encodeAll_append, encodeAll_cons, List.length_append, Param.length_encode]
      omega
    have inside : start done < msg.pos := by omega
    have next : start done + 6 + p.data.length = start (done ++ [p]) := by
      simp only [start, encodeAll_append, encodeAll_cons, encodeAll_nil, List.append_nil,
        List.length_append, Param.length_encode]
      omega
    have carried : msg.Carries ((done ++ [p]) ++ rest) := by simpa using carries
    have tail := ih carried (Nat.lt_of_succ_lt_succ enough)
    simp only [getParamLoop, paramIDOffset, paramTypeOffset, paramLengthOffset,
      paramDataStartOffset, Int.natCast_zero, Int.add_zero, Nat.cast_one, Nat.cast_ofNat,
      inside, if_true, paramID, paramType, paramLength, paramData, Int.toNat_natCast, room,
      lookup_cons]
    by_cases same : id = p.id.toNat
    · simp only [same, if_true, answer]
      cases data with
      | false => rfl
      | true => by_cases short : length < p.data.length <;> simp [short]
    · simp only [same, if_false, next]
      exact tail

/-- `GetParam` on a message that carries parameters. -/
theorem getParam_carries (carries : msg.Carries params) (id : Int) (length : Int) (data : Bool)
    {fuel : Nat} (enough : params.length < fuel) :
    getParam fuel msg id length data = some (answer data none length (lookup id params)) := by
  have carried : msg.Carries ([] ++ params) := carries
  have walk := getParamLoop_carries carried id data none length enough
  simpa [start, getParam] using walk

end CVNNetMsg

end Foolject.VNClib
