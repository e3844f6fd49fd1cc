import Foolject.VNClib.RoundTrip

/-! Any number of calls of `AddParam` on a new message.

What the message holds depends on the calls alone, not on the capacity it is made with.
-/

set_option autoImplicit false

namespace Foolject.VNClib

/-- The parameters after a call that adds one: those with an id that is present are left out. -/
def keep (params : List Param) (p : Param) : List Param :=
  if (lookup p.id.toNat params).isSome then params else params ++ [p]

theorem lookup_isSome_iff {id : UInt8} {params : List Param} :
    (lookup id.toNat params).isSome = true ↔ ∃ p ∈ params, p.id = id := by
  unfold lookup
  rw [List.find?_isSome]
  constructor
  · rintro ⟨p, member, same⟩
    have numbers : id.toNat = p.id.toNat := Int.ofNat.inj (of_decide_eq_true same)
    exact ⟨p, member, (UInt8.toNat_inj.mp numbers).symm⟩
  · rintro ⟨p, member, rfl⟩
    exact ⟨p, member, decide_eq_true rfl⟩

theorem keep_distinct {params : List Param} (distinct : (params.map Param.id).Nodup) (p : Param) :
    ((keep params p).map Param.id).Nodup := by
  unfold keep
  by_cases present : (lookup p.id.toNat params).isSome = true
  · rw [if_pos present]
    exact distinct
  · rw [if_neg present, List.map_append, List.nodup_append]
    refine ⟨distinct, List.nodup_singleton _, ?_⟩
    intro id member last single same
    rw [List.map_singleton, List.mem_singleton] at single
    obtain ⟨other, found, named⟩ := List.mem_map.mp member
    exact present (lookup_isSome_iff.mpr ⟨other, found, named.trans (same.trans single)⟩)

theorem foldl_keep_distinct {params : List Param} (distinct : (params.map Param.id).Nodup) (calls : List Param) :
    ((calls.foldl keep params).map Param.id).Nodup := by
  induction calls generalizing params with
  | nil => exact distinct
  | cons p rest ih => exact ih (keep_distinct distinct p)

theorem prefix_keep (params : List Param) (p : Param) : params <+: keep params p := by
  unfold keep
  split
  · exact List.prefix_rfl
  · exact List.prefix_append params [p]

theorem prefix_foldl_keep (params calls : List Param) : params <+: calls.foldl keep params := by
  induction calls generalizing params with
  | nil => exact List.prefix_rfl
  | cons p rest ih => exact (prefix_keep params p).trans (ih (keep params p))

theorem length_encodeAll_le {params later : List Param} (before : params <+: later) :
    (encodeAll params).length ≤ (encodeAll later).length := by
  obtain ⟨rest, rfl⟩ := before
  rw [encodeAll_append, List.length_append]
  exact Nat.le_add_right _ _

theorem length_keep_le (params : List Param) (p : Param) : (keep params p).length ≤ params.length + 1 := by
  unfold keep
  split
  · exact Nat.le_succ _
  · exact (List.length_append).le

theorem length_foldl_keep_le (params calls : List Param) :
    (calls.foldl keep params).length ≤ params.length + calls.length := by
  induction calls generalizing params with
  | nil => exact le_refl _
  | cons p rest ih =>
    have first := length_keep_le params p
    have others := ih (keep params p)
    rw [List.length_cons, List.foldl_cons]
    omega

namespace CVNNetMsg

abbrev AddCall := Memory × Param

def addAll (fuel : Nat) : CVNNetMsg → List AddCall → Option (List Bool × CVNNetMsg)
  | msg, [] => some ([], msg)
  | msg, call :: rest =>
    match addParam call.1 fuel msg call.2.id.toNat call.2.type call.2.data with
    | none => none
    | some (added, msg) => (addAll fuel msg rest).map fun (flags, msg) => (added :: flags, msg)

def succeeded : List Bool → List AddCall → List Param
  | true :: flags, call :: calls => call.2 :: succeeded flags calls
  | false :: flags, _ :: calls => succeeded flags calls
  | _, _ => []

def create (heap : Memory) (type : MsgType) : Option Int → CVNNetMsg
  | none => ofType heap type
  | some defMsgLength => ofTypeLength heap type defMsgLength

variable {msg first : CVNNetMsg} {params : List Param} {fuel : Nat}

def SameHeader (first msg : CVNNetMsg) : Prop :=
  ∀ order offset width, Untouched offset width →
    msg.getField order offset width = first.getField order offset width

theorem holds_create (heap : Memory) (type : MsgType) (capacity : Option Int) :
    (create heap type capacity).Holds [] := by
  cases capacity with
  | none => exact holds_initEmptyMsg heap type (by decide)
  | some defMsgLength => exact holds_initEmptyMsg heap type (Words.fits_wrap (by decide) _).2

/-- What a call does to a message with these parameters. -/
theorem Holds.addParam_keep (holds : msg.Holds params) (enough : params.length < fuel) (call : AddCall)
    (small : endOfHeader + (encodeAll (keep params call.2)).length < 2 ^ 31) :
    ∃ added next, addParam call.1 fuel msg call.2.id.toNat call.2.type call.2.data = some (added, next) ∧
      next.Holds (keep params call.2) ∧ SameHeader msg next ∧
      (added = false ↔ (lookup call.2.id.toNat params).isSome = true) ∧ (added = false → next = msg) ∧
      keep params call.2 = params ++ (if added then [call.2] else []) := by
  unfold keep at small ⊢
  cases found : lookup call.2.id.toNat params with
  | some p =>
    refine ⟨false, msg, holds.addParam_present enough found, ?_⟩
    rw [Option.isSome_some, if_pos rfl]
    exact ⟨holds, fun _ _ _ _ => rfl, by simp, fun _ => rfl, (List.append_nil _).symm⟩
  | none =>
    rw [found, Option.isSome_none, if_neg (by decide), encodeAll_append, List.length_append] at small
    have fits : msg.pos + 6 + call.2.data.length < 2 ^ 31 := by
      have pos := holds.pos
      simp only [encodeAll_cons, encodeAll_nil, List.append_nil, Param.length_encode, endOfHeader] at small pos
      omega
    have absent : ∃ next,
        addParam call.1 fuel msg call.2.id.toNat call.2.type call.2.data = some (true, next) ∧
        next.Holds (params ++ [⟨Words.byte call.2.id.toNat, call.2.type, call.2.data⟩]) ∧ SameHeader msg next :=
      holds.addParam_absent enough found fits
    rw [byte_toNat] at absent
    obtain ⟨next, added, nextHolds, kept⟩ := absent
    rw [Option.isSome_none, if_neg (by decide)]
    exact ⟨true, next, added, nextHolds, kept, by simp, by simp, rfl⟩

theorem Holds.addAll (holds : msg.Holds params) {calls : List AddCall}
    (enough : params.length + calls.length < fuel)
    (small : endOfHeader + (encodeAll ((calls.map Prod.snd).foldl keep params)).length < 2 ^ 31) :
    ∃ flags last, CVNNetMsg.addAll fuel msg calls = some (flags, last) ∧
      last.Holds ((calls.map Prod.snd).foldl keep params) ∧ SameHeader msg last ∧
      (calls.map Prod.snd).foldl keep params = params ++ succeeded flags calls := by
  -- The induction is on the calls, with the parameters that the message has by then.
  induction calls generalizing msg params with
  | nil => exact ⟨[], msg, rfl, holds, fun _ _ _ _ => rfl, (List.append_nil params).symm⟩
  | cons call rest ih =>
    simp only [List.length_cons, List.map_cons, List.foldl_cons] at enough small ⊢
    have longer := length_encodeAll_le (prefix_foldl_keep (keep params call.2) (rest.map Prod.snd))
    have turns : params.length < fuel := by omega
    obtain ⟨added, next, called, nextHolds, same, -, -, shape⟩ := holds.addParam_keep turns call (by omega)
    have room := length_keep_le params call.2
    obtain ⟨flags, last, calledAll, lastHolds, sameAll, all⟩ := ih nextHolds (by omega) small
    refine ⟨added :: flags, last, ?_, lastHolds, ?_, ?_⟩
    · rw [CVNNetMsg.addAll, called]
      simp only [calledAll, Option.map_some]
    · intro order offset width untouched
      rw [sameAll order offset width untouched, same order offset width untouched]
    · rw [all, shape, List.append_assoc]
      cases added with
      | true => rfl
      | false => rfl

theorem Holds.addParam_small (holds : msg.Holds params) (enough : params.length < fuel) {call : AddCall}
    {result : Bool × CVNNetMsg}
    (called : addParam call.1 fuel msg call.2.id.toNat call.2.type call.2.data = some result) :
    endOfHeader + (encodeAll (keep params call.2)).length < 2 ^ 31 := by
  unfold keep
  cases found : lookup call.2.id.toNat params with
  | some p =>
    rw [Option.isSome_some, if_pos rfl]
    exact holds.bound
  | none =>
    rw [Option.isSome_none, if_neg (by decide)]
    have pos := holds.pos
    by_contra large
    have full : 2 ^ 31 ≤ msg.pos + 6 + call.2.data.length := by
      simp only [encodeAll_append, encodeAll_cons, encodeAll_nil, List.append_nil, List.length_append,
        Param.length_encode, endOfHeader] at large pos
      omega
    rw [holds.addParam_overflow enough found full] at called
    cases called

theorem Holds.addAll_small (holds : msg.Holds params) {calls : List AddCall} {result : List Bool × CVNNetMsg}
    (enough : params.length + calls.length < fuel) (called : CVNNetMsg.addAll fuel msg calls = some result) :
    endOfHeader + (encodeAll ((calls.map Prod.snd).foldl keep params)).length < 2 ^ 31 := by
  induction calls generalizing msg params result with
  | nil => exact holds.bound
  | cons call rest ih =>
    simp only [List.length_cons, List.map_cons, List.foldl_cons] at enough ⊢
    have turns : params.length < fuel := by omega
    have room := length_keep_le params call.2
    rw [CVNNetMsg.addAll] at called
    cases outcome : addParam call.1 fuel msg call.2.id.toNat call.2.type call.2.data with
    | none =>
      rw [outcome] at called
      cases called
    | some next =>
      rw [outcome] at called
      obtain ⟨others, calledRest, -⟩ := Option.map_eq_some_iff.mp called
      -- What the call has done is known, as there is only one result.
      have small := holds.addParam_small turns outcome
      obtain ⟨added, last, same, lastHolds, -⟩ := holds.addParam_keep turns call small
      rw [outcome] at same
      obtain rfl := Option.some.inj same
      exact ih lastHolds (by omega) calledRest

/-! ## What the message is then -/

structure WellFormed (first msg : CVNNetMsg) (params : List Param) : Prop where
  body : msg.data.load endOfHeader (msg.pos - endOfHeader).toNat = encodeAll params
  count : msg.getParamCount = params.length
  length : msg.getLength = msg.pos - endOfHeader
  room : endOfHeader ≤ msg.pos ∧ msg.pos ≤ msg.maxLength
  header : ∀ offset < endOfHeader, ¬ (msgLengthOffset ≤ offset ∧ offset < msgLengthOffset + 4) →
    ¬ (paramCountOffset ≤ offset ∧ offset < paramCountOffset + 2) → msg.data offset = first.data offset

theorem getField_one (offset : Nat) : msg.getField .big offset 1 = (msg.data offset).toNat := by
  simp [getField, Words.ByteOrder.decode, Memory.load, Words.value, Words.valueFrom]

theorem Holds.wellFormed (holds : msg.Holds params) (same : SameHeader first msg)
    (distinct : (params.map Param.id).Nodup) : WellFormed first msg params := by
  have pos := holds.pos
  constructor
  · rw [pos, add_sub_cancel_left, Int.toNat_natCast]
    exact holds.body
  · -- There are no more than 256 ids, so the count has not wrapped.
    have few := length_le_of_distinct distinct
    have count := holds.count
    rw [Nat.mod_eq_of_lt (by omega)] at count
    exact congrArg Nat.cast count
  · rw [holds.getLength_eq, pos, add_sub_cancel_left]
  · refine ⟨?_, holds.room⟩
    rw [pos]
    omega
  · intro offset inside apart apart'
    have field := same .big offset 1
    simp only [endOfHeader, msgLengthOffset, paramCountOffset] at inside apart apart'
    rw [getField_one, getField_one] at field
    exact UInt8.toNat_inj.mp (field ⟨by omega, by omega, by omega⟩)

/-- After any calls, and for the next one. -/
theorem addAll_wellFormed (heap : Memory) (type : MsgType) (capacity : Option Int) {calls : List AddCall}
    {call : AddCall} (enough : calls.length < fuel)
    (small : endOfHeader + (encodeAll (((calls ++ [call]).map Prod.snd).foldl keep [])).length < 2 ^ 31) :
    ∃ flags msg, addAll fuel (create heap type capacity) calls = some (flags, msg) ∧
      WellFormed (create heap type capacity) msg (succeeded flags calls) ∧
      succeeded flags calls = (calls.map Prod.snd).foldl keep [] ∧
      ∃ added next, addParam call.1 fuel msg call.2.id.toNat call.2.type call.2.data = some (added, next) ∧
        (added = false ↔ ∃ p ∈ succeeded flags calls, p.id = call.2.id) ∧ (added = false → next = msg) ∧
        WellFormed (create heap type capacity) next
          (succeeded flags calls ++ if added then [call.2] else []) := by
  rw [List.map_append, List.map_singleton, List.foldl_append, List.foldl_cons, List.foldl_nil] at small
  have longer := length_encodeAll_le (prefix_keep ((calls.map Prod.snd).foldl keep []) call.2)
  have start := holds_create heap type capacity
  obtain ⟨flags, msg, called, holds, same, all⟩ := start.addAll (by simpa using enough) (show _ < _ by omega)
  rw [List.nil_append] at all
  have nothing : (([] : List Param).map Param.id).Nodup := List.nodup_nil
  have distinct := foldl_keep_distinct nothing (calls.map Prod.snd)
  have few := length_foldl_keep_le [] (calls.map Prod.snd)
  rw [List.length_nil, List.length_map] at few
  rw [all] at holds small distinct few
  have turns : (succeeded flags calls).length < fuel := by omega
  obtain ⟨added, next, answered, nextHolds, sameNext, refused, unchanged, shape⟩ :=
    holds.addParam_keep turns call small
  have distinctNext := keep_distinct distinct call.2
  rw [shape] at nextHolds distinctNext
  have sameAll : SameHeader (create heap type capacity) next := fun order offset width untouched => by
    rw [sameNext order offset width untouched, same order offset width untouched]
  refine ⟨flags, msg, called, holds.wellFormed same distinct, all.symm, added, next, answered, ?_, unchanged, ?_⟩
  · exact refused.trans lookup_isSome_iff
  · exact nextHolds.wellFormed sameAll distinctNext

def threeCalls : List AddCall := [(fun _ => 0, ⟨1, 0, [5]⟩), (fun _ => 0, ⟨1, 0, [6, 6]⟩), (fun _ => 0, ⟨2, 0, []⟩)]

theorem addAll_wellFormed_threeCalls :
    ∃ flags msg, addAll 5 (create (fun _ => 0) .request (some (-22))) threeCalls = some (flags, msg) ∧
      WellFormed (create (fun _ => 0) .request (some (-22))) msg [⟨1, 0, [5]⟩, ⟨2, 0, []⟩] ∧
      ∃ next, addParam (fun _ => 0) 5 msg 1 0 [7] = some (false, next) ∧ next = msg := by
  obtain ⟨flags, msg, called, wellFormed, params, added, next, answered, refused, unchanged, -⟩ :=
    @addAll_wellFormed 5 (fun _ => 0) .request (some (-22)) threeCalls (fun _ => 0, ⟨1, 0, [7]⟩)
      (by decide) (by decide)
  have kept : (threeCalls.map Prod.snd).foldl keep [] = [⟨1, 0, [5]⟩, ⟨2, 0, []⟩] := by decide
  rw [params, kept] at wellFormed
  have no : added = false := refused.mpr ⟨⟨1, 0, [5]⟩, by rw [params, kept]; decide, rfl⟩
  refine ⟨flags, msg, called, wellFormed, next, ?_, unchanged no⟩
  rw [no] at answered
  exact answered

end CVNNetMsg

end Foolject.VNClib
