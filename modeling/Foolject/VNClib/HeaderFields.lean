import Foolject.VNClib.AddParams

/-! The fields of the header under any sequence of setters and `AddParam` calls. -/

set_option autoImplicit false

namespace Foolject.VNClib
open Words

namespace HeaderField
open CVNNetMsg

variable {host : ByteOrder} {field : HeaderField} {msg first : CVNNetMsg}

theorem get_of_sameHeader (same : SameHeader first msg) : field.get host msg = field.get host first := by
  rw [get_eq, get_eq, same _ _ _ field.untouched]

theorem get_create (heap : Memory) (type : MsgType) (capacity : Option Int) :
    field.get host (create heap type capacity) = field.initial type := by
  cases capacity with
  | none => exact get_initEmptyMsg heap type _
  | some length => exact get_initEmptyMsg heap type _

end HeaderField

namespace CVNNetMsg

/-! ## One `AddParam` -/

variable {msg first last : CVNNetMsg} {params : List Param} {fuel : Nat}

theorem Holds.addParam_returns {heap : Memory} {id : Int} {type : UInt8} {data : List UInt8}
    {result : Bool × CVNNetMsg} (holds : msg.Holds params) (enough : params.length < fuel)
    (returns : addParam heap fuel msg id type data = some result) :
    ∃ later, result.2.Holds later ∧ later.length ≤ params.length + 1 ∧ SameHeader msg result.2 := by
  cases found : lookup id params with
  | some p =>
    rw [holds.addParam_present enough found] at returns
    rw [← Option.some.inj returns]
    exact ⟨params, holds, Nat.le_succ _, fun _ _ _ _ => rfl⟩
  | none =>
    by_cases fits : msg.pos + 6 + data.length < 2 ^ 31
    · obtain ⟨next, added, nextHolds, same⟩ := holds.addParam_absent enough found fits
      rw [added] at returns
      rw [← Option.some.inj returns]
      exact ⟨_, nextHolds, List.length_append.le, same⟩
    · rw [holds.addParam_overflow enough found (not_lt.mp fits)] at returns
      cases returns

/-! ## The calls -/

inductive HeaderCall where
  | set (field : HeaderField) (value : Int)
  /-- With its allocator's bytes. -/
  | addParam (heap : Memory) (id : Int) (type : UInt8) (data : List UInt8)

def HeaderCall.perform (host : ByteOrder) (fuel : Nat) : HeaderCall → CVNNetMsg → Option CVNNetMsg
  | .set field value, msg => some (field.set host msg value)
  | .addParam heap id type data, msg => (CVNNetMsg.addParam heap fuel msg id type data).map Prod.snd

def performAll (host : ByteOrder) (fuel : Nat) : List HeaderCall → CVNNetMsg → Option CVNNetMsg
  | [], msg => some msg
  | call :: rest, msg => (call.perform host fuel msg).bind (performAll host fuel rest)

theorem performAll_of {host : ByteOrder} {call : HeaderCall} {rest : List HeaderCall} {next : CVNNetMsg}
    (called : call.perform host fuel msg = some next) :
    performAll host fuel (call :: rest) msg = performAll host fuel rest next := by
  rw [performAll, called, Option.bind_some]

def lastSet (field : HeaderField) (last : Int) : List HeaderCall → Int
  | [] => last
  | .set other value :: rest => lastSet field (if other = field then value else last) rest
  | .addParam .. :: rest => lastSet field last rest

def lastAt (offset : Nat) (last : Int) : List HeaderCall → Int
  | [] => last
  | .set other value :: rest => lastAt offset (if other.offset = offset then value else last) rest
  | .addParam .. :: rest => lastAt offset last rest

variable {host : ByteOrder} {field : HeaderField} {calls : List HeaderCall}

theorem Holds.performAll (holds : msg.Holds params) (enough : params.length + calls.length < fuel)
    (performed : CVNNetMsg.performAll host fuel calls msg = some last) (before : Int)
    (stored : field.get host msg = field.reduce before) :
    field.get host last = field.reduce (lastAt field.offset before calls) := by
  -- Each field holds what was last stored at its offset. The induction
  -- is on the calls, with the parameters that the message has by then.
  induction calls generalizing msg params before with
  | nil =>
    obtain rfl := Option.some.inj performed
    exact stored
  | cons call rest ih =>
    obtain ⟨next, called, performed⟩ := Option.bind_eq_some_iff.mp performed
    rw [List.length_cons] at enough
    cases call with
    | set other value =>
      obtain rfl := Option.some.inj called
      have nextHolds : (other.set host msg value).Holds params := by
        rw [other.set_eq]
        exact holds.setField other.untouched
      rw [lastAt]
      refine ih nextHolds (by omega) performed _ ?_
      by_cases same : other.offset = field.offset
      · rw [if_pos same, HeaderField.get_set_self same]
      · rw [if_neg same, HeaderField.get_set_other same, stored]
    | addParam heap id type data =>
      obtain ⟨result, returns, rfl⟩ := Option.map_eq_some_iff.mp called
      obtain ⟨later, nextHolds, more, same⟩ := holds.addParam_returns (by omega) returns
      refine ih nextHolds (by omega) performed before ?_
      rw [HeaderField.get_of_sameHeader same, stored]

theorem lastAt_eq_lastSet (apart : field ≠ .peerID ∧ field ≠ .validCode) (before : Int) :
    lastAt field.offset before calls = lastSet field before calls := by
  induction calls generalizing before with
  | nil => rfl
  | cons call rest ih =>
    cases call with
    | set other value =>
      have same : other.offset = field.offset ↔ other = field :=
        ⟨fun offset => HeaderField.eq_of_offset_eq offset apart, fun same => same ▸ rfl⟩
      simp only [lastAt, lastSet, same]
      exact ih _
    | addParam heap id type data => exact ih before

theorem lastAt_peerLong {word peer valid : Int} (either : word = peer ∨ word = valid) :
    lastAt peerLongOffset word calls = lastSet .peerID peer calls ∨
      lastAt peerLongOffset word calls = lastSet .validCode valid calls := by
  induction calls generalizing word peer valid with
  | nil => exact either
  | cons call rest ih =>
    cases call with
    | addParam heap id type data => exact ih either
    | set other value =>
      refine ih ?_
      -- A setter of one of the two brings the bytes in line with it.
      cases other with
      | peerID => exact .inl rfl
      | validCode => exact .inr rfl
      | _ => exact either

/-- Each getter returns the last value of its own setter, reduced to the width of the field, and no setter changes
the length or the number of the parameters. -/
def Independent (host : ByteOrder) (type : MsgType) (calls : List HeaderCall) (last : CVNNetMsg) : Prop :=
  (∀ field : HeaderField, field.get host last = field.reduce (lastSet field (field.initial type) calls)) ∧
    ∀ (field : HeaderField) (v : Int), (field.set host last v).getLength = last.getLength ∧
      (field.set host last v).getParamCount = last.getParamCount

/-- The fields are independent exactly while the peer id and the valid code were last set to the same word. -/
theorem headerFields_independent (host : ByteOrder) (heap : Memory) (type : MsgType) (capacity : Option Int)
    (enough : calls.length < fuel)
    (performed : CVNNetMsg.performAll host fuel calls (create heap type capacity) = some last) :
    Independent host type calls last ↔
      wrap 32 (lastSet .peerID 0 calls) = wrap 32 (lastSet .validCode 0 calls) := by
  have start := holds_create heap type capacity
  have turns : ([] : List Param).length + calls.length < fuel := by rwa [List.length_nil, Nat.zero_add]
  have holds (field : HeaderField) :
      field.get host last = field.reduce (lastAt field.offset (field.initial type) calls) :=
    start.performAll turns performed _ ((HeaderField.get_create heap type capacity).trans
      (HeaderField.reduce_initial type).symm)
  have peer : getPeerID last = wrap 32 (lastAt peerLongOffset 0 calls) := holds .peerID
  have valid : getValidCode last = wrap 32 (lastAt peerLongOffset 0 calls) := holds .validCode
  constructor
  · rintro ⟨fields, -⟩
    have peerField : getPeerID last = wrap 32 (lastSet .peerID 0 calls) := fields .peerID
    have validField : getValidCode last = wrap 32 (lastSet .validCode 0 calls) := fields .validCode
    rw [← peerField, ← validField, peer, valid]
  · intro agree
    refine ⟨fun field => ?_, fun field v => field.set_keeps_size last v⟩
    have word : wrap 32 (lastAt peerLongOffset 0 calls) = wrap 32 (lastSet .peerID 0 calls) ∧
        wrap 32 (lastAt peerLongOffset 0 calls) = wrap 32 (lastSet .validCode 0 calls) := by
      rcases lastAt_peerLong (.inl rfl : (0 : Int) = 0 ∨ (0 : Int) = 0) with same | same
      · rw [same]
        exact ⟨rfl, agree⟩
      · rw [same]
        exact ⟨agree.symm, rfl⟩
    by_cases isPeer : field = .peerID
    · subst isPeer
      exact peer.trans word.1
    by_cases isValid : field = .validCode
    · subst isValid
      exact valid.trans word.2
    rw [holds field, lastAt_eq_lastSet ⟨isPeer, isValid⟩]

def sameWord : List HeaderCall :=
  [.set .serviceID 65537, .addParam (fun _ => 0) 1 0 [5], .set .peerID 7, .set .validCode 7]

theorem headerFields_independent_sameWord :
    ∃ last, performAll .little 5 sameWord (create (fun _ => 0) .request none) = some last ∧
      getServiceID last = 1 ∧ getPeerID last = 7 := by
  have empty := holds_create (fun _ => 0) .request none
  have start : ((create (fun _ => 0) .request none).setServiceID 65537).Holds [] :=
    empty.setField (HeaderField.untouched .serviceID)
  obtain ⟨next, added, -⟩ := @Holds.addParam_absent _ _ (fun _ => 0) 5 1 0 [5] start (by decide) rfl (by decide)
  have performed : performAll .little 5 sameWord (create (fun _ => 0) .request none) =
      some ((next.setPeerID 7).setValidCode 7) := by
    have called : (HeaderCall.addParam (fun _ => 0) 1 0 [5]).perform .little 5
        (HeaderField.set .little .serviceID (create (fun _ => 0) .request none) 65537) = some next :=
      congrArg (Option.map Prod.snd) added
    unfold sameWord
    rw [performAll_of rfl, performAll_of called]
    rfl
  obtain ⟨fields, -⟩ := (headerFields_independent .little (fun _ => 0) .request none (by decide) performed).mpr rfl
  exact ⟨_, performed, fields .serviceID, fields .peerID⟩

theorem headerFields_overwritten :
    ∃ last, performAll .little 3 [.set .peerID 1, .set .validCode 2] (create (fun _ => 0) .request none) = some last ∧
      getPeerID last = 2 ∧ ¬ Independent .little .request [.set .peerID 1, .set .validCode 2] last := by
  -- The valid code overwrites the peer id.
  have overwritten (msg : CVNNetMsg) : (msg.setValidCode 2).getPeerID = 2 :=
    @HeaderField.get_set_self .little .peerID .validCode 2 msg rfl
  refine ⟨_, rfl, overwritten _, fun independent => ?_⟩
  have kept : (1 : Int) = 2 := (independent.1 .peerID).symm.trans (overwritten _)
  exact absurd kept (by decide)

end CVNNetMsg

end Foolject.VNClib
