import Foolject.VNClib.AddParams

/-! `AddParam` with any int for the id.

The search compares the int and the message keeps its low byte. An id outside of a byte is not found, so that it is
added each time it is asked for.
-/

set_option autoImplicit false

namespace Foolject.VNClib
open Words

/-! ## A buffer has only one list of parameters -/

theorem Param.encode_append_inj {p q : Param} {rest others : List UInt8} (small : p.data.length < 2 ^ 31)
    (small' : q.data.length < 2 ^ 31) (same : p.encode ++ rest = q.encode ++ others) : p = q ∧ rest = others := by
  unfold encode at same
  simp only [List.cons_append, List.append_assoc, List.cons.injEq] at same
  obtain ⟨id, type, behind⟩ := same
  -- Both lengths are four bytes, and say where the data ends.
  have widths : (bigEndian 4 p.data.length).length = (bigEndian 4 q.data.length).length := by
    rw [length_bigEndian, length_bigEndian]
  obtain ⟨lengths, data⟩ := List.append_inj behind widths
  have numbers := congrArg (fun bytes => (value bytes : Int)) lengths
  simp only [value_bigEndian] at numbers
  rw [Int.emod_eq_of_lt (by omega) (by omega), Int.emod_eq_of_lt (by omega) (by omega)] at numbers
  obtain ⟨sameData, sameRest⟩ := List.append_inj data (Int.ofNat.inj numbers)
  refine ⟨?_, sameRest⟩
  obtain ⟨id, type, data⟩ := p
  simp_all

theorem encodeAll_inj {params others : List Param} (small : (encodeAll params).length < 2 ^ 31)
    (same : encodeAll params = encodeAll others) : params = others := by
  induction params generalizing others with
  | nil =>
    cases others with
    | nil => rfl
    | cons q others => cases same
  | cons p params ih =>
    cases others with
    | nil => cases same
    | cons q others =>
      have lengths := congrArg List.length same
      simp only [encodeAll_cons, List.length_append, Param.length_encode] at small lengths same
      obtain ⟨rfl, rest⟩ := Param.encode_append_inj (by omega) (by omega) same
      rw [ih (by omega) rest]

namespace CVNNetMsg

variable {msg next last : CVNNetMsg} {params : List Param} {fuel : Nat}

theorem Carries.unique {others : List Param} (carries : msg.Carries params) (carries' : msg.Carries others) :
    params = others := by
  have ends := carries.pos.symm.trans carries'.pos
  have bound := carries.bound
  have lengths : (encodeAll params).length = (encodeAll others).length := by omega
  have body := carries.body
  rw [lengths, carries'.body] at body
  exact encodeAll_inj (by omega) body.symm

structure IdCall where
  heap : Memory
  id : Int
  type : UInt8
  data : List UInt8

def IdCall.param (call : IdCall) : Param := ⟨byte call.id, call.type, call.data⟩

def IdCall.InByte (call : IdCall) : Prop := 0 ≤ call.id ∧ call.id < 256

instance (call : IdCall) : Decidable call.InByte := inferInstanceAs (Decidable (_ ∧ _))

def addIds (fuel : Nat) : CVNNetMsg → List IdCall → Option (List Bool × CVNNetMsg)
  | msg, [] => some ([], msg)
  | msg, call :: rest =>
    match addParam call.heap fuel msg call.id call.type call.data with
    | none => none
    | some (added, msg) => (addIds fuel msg rest).map fun (flags, msg) => (added :: flags, msg)

def addedOf : List Bool → List IdCall → List IdCall
  | true :: flags, call :: calls => call :: addedOf flags calls
  | false :: flags, _ :: calls => addedOf flags calls
  | _, _ => []

def Finds (fuel : Nat) (msg : CVNNetMsg) (id : Int) : Prop :=
  ∃ result, getParam fuel msg id 0 false = some result ∧ result.ret = 0

structure Matches (fuel : Nat) (msg : CVNNetMsg) (added : List IdCall) : Prop where
  distinct : ∃ params, msg.Carries params ∧ (params.map Param.id).Nodup
  found : ∀ call ∈ added, Finds fuel msg call.id

/-! ## One call -/

theorem finds_iff (carries : msg.Carries params) (enough : params.length < fuel) {id : Int} :
    Finds fuel msg id ↔ (lookup id params).isSome = true := by
  unfold Finds
  rw [getParam_carries carries id 0 false enough]
  cases found : lookup id params with
  | none =>
    constructor
    · rintro ⟨result, returned, zero⟩
      rw [← Option.some.inj returned] at zero
      cases zero
    · intro some_
      cases some_
  | some p => exact ⟨fun _ => rfl, fun _ => ⟨_, rfl, rfl⟩⟩

/-- A call that returns adds its parameter exactly if the search has not found the id. -/
theorem Holds.addId (holds : msg.Holds params) (enough : params.length < fuel) {call : IdCall} {added : Bool}
    (called : addParam call.heap fuel msg call.id call.type call.data = some (added, next)) :
    (added = true ↔ lookup call.id params = none) ∧ next.Holds (params ++ if added then [call.param] else []) := by
  cases found : lookup call.id params with
  | some p =>
    rw [holds.addParam_present enough found] at called
    obtain ⟨rfl, rfl⟩ := Prod.mk.inj (Option.some.inj called)
    refine ⟨by simp, ?_⟩
    rw [if_neg (by decide), List.append_nil]
    exact holds
  | none =>
    by_cases fits : msg.pos + 6 + call.data.length < 2 ^ 31
    · have absent : ∃ next, addParam call.heap fuel msg call.id call.type call.data = some (true, next) ∧
          next.Holds (params ++ [call.param]) ∧ _ := holds.addParam_absent enough found fits
      obtain ⟨after, returned, afterHolds, -⟩ := absent
      rw [returned] at called
      obtain ⟨rfl, rfl⟩ := Prod.mk.inj (Option.some.inj called)
      exact ⟨by simp, afterHolds⟩
    · rw [holds.addParam_overflow enough found (not_lt.mp fits)] at called
      cases called

theorem byte_of_inByte {call : IdCall} (inside : call.InByte) : ((byte call.id).toNat : Int) = call.id := by
  rw [toNat_byte, Int.emod_eq_of_lt inside.1 inside.2]

theorem lookup_outside {call : IdCall} (outside : ¬ call.InByte) (params : List Param) :
    lookup call.id params = none := by
  -- No stored byte is an int outside of a byte.
  unfold lookup
  rw [List.find?_eq_none]
  intro p _ same
  have number : call.id = p.id.toNat := of_decide_eq_true same
  have bound := p.id.toNat_lt
  exact outside ⟨by omega, by omega⟩

theorem lookup_isSome_of_mem {id : Int} {p : Param} (member : p ∈ params) (same : (p.id.toNat : Int) = id) :
    (lookup id params).isSome = true := by
  unfold lookup
  rw [List.find?_isSome]
  exact ⟨p, member, decide_eq_true same.symm⟩

theorem distinct_append {call : IdCall} (inside : call.InByte) (absent : lookup call.id params = none)
    (distinct : (params.map Param.id).Nodup) : ((params ++ [call.param]).map Param.id).Nodup := by
  rw [List.map_append, List.nodup_append]
  refine ⟨distinct, List.nodup_singleton _, ?_⟩
  intro id member other single same
  rw [List.map_singleton, List.mem_singleton] at single
  obtain ⟨p, found, rfl⟩ := List.mem_map.mp member
  have number : (p.id.toNat : Int) = call.id := by
    rw [same, single]
    exact byte_of_inByte inside
  have present := lookup_isSome_of_mem found number
  rw [absent] at present
  cases present

/-! ## Any number of calls -/

/-- The message holds the parameters of the calls that returned TRUE. -/
theorem Holds.addIds (holds : msg.Holds params) {calls : List IdCall} {flags : List Bool}
    (enough : params.length + calls.length < fuel) (called : CVNNetMsg.addIds fuel msg calls = some (flags, last)) :
    last.Holds (params ++ (addedOf flags calls).map IdCall.param) ∧
      ((∀ call ∈ calls, call.InByte) → (params.map Param.id).Nodup →
        ((params ++ (addedOf flags calls).map IdCall.param).map Param.id).Nodup) ∧
      ∀ call ∈ calls, ¬ call.InByte → call ∈ addedOf flags calls := by
  induction calls generalizing msg params flags with
  | nil =>
    obtain ⟨rfl, rfl⟩ := Prod.mk.inj (Option.some.inj called)
    simp only [addedOf, List.map_nil, List.append_nil]
    exact ⟨holds, fun _ distinct => distinct, fun call none_ => absurd none_ List.not_mem_nil⟩
  | cons call rest ih =>
    rw [List.length_cons] at enough
    rw [CVNNetMsg.addIds] at called
    cases outcome : addParam call.heap fuel msg call.id call.type call.data with
    | none =>
      rw [outcome] at called
      cases called
    | some answer =>
      obtain ⟨added, next⟩ := answer
      rw [outcome] at called
      obtain ⟨⟨flags, last'⟩, calledRest, same⟩ := Option.map_eq_some_iff.mp called
      obtain ⟨rfl, rfl⟩ := Prod.mk.inj same
      obtain ⟨decided, nextHolds⟩ := holds.addId (by omega) outcome
      cases added with
      | true =>
        -- Its byte is new as well if the id is one that a byte holds.
        have absent := decided.mp rfl
        rw [if_pos rfl] at nextHolds
        obtain ⟨lastHolds, distinct, outside⟩ := ih nextHolds (by simp; omega) calledRest
        rw [List.append_assoc] at lastHolds distinct
        refine ⟨lastHolds, fun inside before => ?_, fun other member out => ?_⟩
        · refine distinct (fun other member => inside other (List.mem_cons_of_mem _ member)) ?_
          exact distinct_append (inside call List.mem_cons_self) absent before
        · rcases List.mem_cons.mp member with rfl | later
          · exact List.mem_cons_self
          · exact List.mem_cons_of_mem _ (outside other later out)
      | false =>
        rw [if_neg (by decide), List.append_nil] at nextHolds
        obtain ⟨lastHolds, distinct, outside⟩ := ih nextHolds (by omega) calledRest
        refine ⟨lastHolds, fun inside before => ?_, fun other member out => ?_⟩
        · exact distinct (fun other member => inside other (List.mem_cons_of_mem _ member)) before
        · rcases List.mem_cons.mp member with rfl | later
          · -- It would have been added.
            exact absurd (decided.mpr (lookup_outside out params)) (by decide)
          · exact outside other later out

theorem length_addedOf_le (flags : List Bool) (calls : List IdCall) :
    (addedOf flags calls).length ≤ calls.length := by
  fun_induction addedOf flags calls with
  | case1 flags call calls ih => exact Nat.succ_le_succ ih
  | case2 flags call calls ih => exact Nat.le_succ_of_le ih
  | case3 => exact Nat.zero_le _

theorem addedOf_subset (flags : List Bool) (calls : List IdCall) : addedOf flags calls ⊆ calls := by
  fun_induction addedOf flags calls with
  | case1 flags call calls ih => exact List.cons_subset_cons call ih
  | case2 flags call calls ih => exact List.subset_cons_of_subset call ih
  | case3 => exact List.nil_subset _

/-- Every id has to be one that a byte holds. -/
theorem addIds_matches_iff (heap : Memory) (type : MsgType) (capacity : Option Int) {calls : List IdCall}
    {flags : List Bool} (enough : calls.length < fuel)
    (called : addIds fuel (create heap type capacity) calls = some (flags, last)) :
    Matches fuel last (addedOf flags calls) ↔ ∀ call ∈ calls, call.InByte := by
  have turns : ([] : List Param).length + calls.length < fuel := by rwa [List.length_nil, Nat.zero_add]
  obtain ⟨holds, distinct, outside⟩ := (holds_create heap type capacity).addIds turns called
  rw [List.nil_append] at holds distinct
  have few : ((addedOf flags calls).map IdCall.param).length < fuel := by
    rw [List.length_map]
    exact lt_of_le_of_lt (length_addedOf_le flags calls) enough
  constructor
  · intro sound call member
    by_contra out
    have found := (finds_iff holds.toCarries few).mp (sound.found call (outside call member out))
    rw [lookup_outside out] at found
    cases found
  · intro inside
    refine ⟨⟨_, holds.toCarries, distinct inside List.nodup_nil⟩, fun call added => ?_⟩
    have stored := byte_of_inByte (inside call (addedOf_subset flags calls added))
    exact (finds_iff holds.toCarries few).mpr (lookup_isSome_of_mem (List.mem_map_of_mem added) stored)

theorem Holds.addIds_new (holds : msg.Holds params) (enough : params.length < fuel) {call : IdCall}
    (absent : lookup call.id params = none)
    (fits : endOfHeader + (encodeAll params).length + 6 + call.data.length < 2 ^ 31) :
    ∃ next, next.Holds (params ++ [call.param]) ∧
      ∀ rest, CVNNetMsg.addIds fuel msg (call :: rest) =
        (CVNNetMsg.addIds fuel next rest).map fun (flags, msg) => (true :: flags, msg) := by
  have room : msg.pos + 6 + call.data.length < 2 ^ 31 := by
    have pos := holds.pos
    simp only [endOfHeader] at pos fits
    omega
  have added : ∃ next, addParam call.heap fuel msg call.id call.type call.data = some (true, next) ∧
      next.Holds (params ++ [call.param]) ∧ _ := holds.addParam_absent enough absent room
  obtain ⟨next, called, nextHolds, -⟩ := added
  refine ⟨next, nextHolds, fun rest => ?_⟩
  rw [CVNNetMsg.addIds, called]

def byteCalls : List IdCall := [⟨fun _ => 0, 255, 0, [5]⟩, ⟨fun _ => 0, 255, 0, [6, 6]⟩, ⟨fun _ => 0, 0, 0, []⟩]

theorem addIds_matches_iff_byteCalls :
    ∃ last, addIds 4 (create (fun _ => 0) .request none) byteCalls = some ([true, false, true], last) ∧
      Matches 4 last (addedOf [true, false, true] byteCalls) ∧ Finds 4 last 255 ∧ Finds 4 last 0 := by
  have start := holds_create (fun _ => 0) .request none
  obtain ⟨first, firstHolds, one⟩ :=
    @Holds.addIds_new _ _ 4 start (by decide) ⟨fun _ => 0, 255, 0, [5]⟩ rfl (by decide)
  have refused : addParam (fun _ => 0) 4 first 255 0 [6, 6] = some (false, first) :=
    firstHolds.addParam_present (by decide) rfl
  obtain ⟨last, -, three⟩ :=
    @Holds.addIds_new _ _ 4 firstHolds (by decide) ⟨fun _ => 0, 0, 0, []⟩ rfl (by decide)
  have called : addIds 4 (create (fun _ => 0) .request none) byteCalls = some ([true, false, true], last) := by
    unfold byteCalls
    rw [one, addIds, refused]
    dsimp only
    rw [three]
    rfl
  have sound := (addIds_matches_iff (fun _ => 0) .request none (by decide) called).mpr (by decide)
  exact ⟨last, called, sound, sound.found ⟨fun _ => 0, 255, 0, [5]⟩ List.mem_cons_self,
    sound.found ⟨fun _ => 0, 0, 0, []⟩ (List.mem_cons_of_mem _ List.mem_cons_self)⟩

theorem addIds_repeats :
    ∃ last, addIds 3 (create (fun _ => 0) .request none) [⟨fun _ => 0, 257, 0, [5]⟩, ⟨fun _ => 0, 257, 0, [6]⟩] =
        some ([true, true], last) ∧
      (∀ params, last.Carries params → ¬ (params.map Param.id).Nodup) ∧ ¬ Finds 3 last 257 := by
  -- The id 257 is added twice, under the byte 1, and is not found.
  have start := holds_create (fun _ => 0) .request none
  obtain ⟨first, firstHolds, one⟩ :=
    @Holds.addIds_new _ _ 3 start (by decide) ⟨fun _ => 0, 257, 0, [5]⟩ rfl (by decide)
  obtain ⟨last, lastHolds, two⟩ :=
    @Holds.addIds_new _ _ 3 firstHolds (by decide) ⟨fun _ => 0, 257, 0, [6]⟩ (by decide) (by decide)
  refine ⟨last, ?_, fun params carries => ?_, ?_⟩
  · rw [one, two]
    rfl
  · obtain rfl := lastHolds.toCarries.unique carries
    decide
  · rw [finds_iff lastHolds.toCarries (by decide)]
    decide

end CVNNetMsg

end Foolject.VNClib
