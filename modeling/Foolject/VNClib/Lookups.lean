import Foolject.VNClib.Getters

/-! The two lookups of a parameter, compared.

`GetParam` bounds the length of the parameter by the caller's buffer before it bounds it by the message, and
`GetDataParamPtr` by the message alone. A buffer as large as the message's own is never what decides.
-/

set_option autoImplicit false

namespace Foolject.VNClib
open Words

namespace CVNNetMsg

variable {msg : CVNNetMsg} {id length : Int} {fuel : Nat}

def Within (msg : CVNNetMsg) : Prop := msg.pos ≤ msg.maxLength

instance (msg : CVNNetMsg) : Decidable msg.Within := inferInstanceAs (Decidable (_ ≤ _))

theorem ofHeader_within (heap : Memory) (headerStream : List UInt8) : (ofHeader heap headerStream).Within := by
  have header : (endOfHeader : Int) ≤ defMsgLength := by decide
  exact le_trans header (le_max_left _ _)

theorem initEmptyMsg_within (heap : Memory) (type : MsgType) (length : Int) :
    (initEmptyMsg heap type length).Within := by
  change (endOfHeader : Int) ≤ if length < endOfHeader then (endOfHeader : Int) else length
  by_cases short : length < endOfHeader
  · rw [if_pos short]
  · rw [if_neg short]
    exact not_lt.mp short

theorem Within.incrBufferPos {incrPos : Int} (rest : incrPos ≤ msg.maxLength - msg.pos) :
    (msg.incrBufferPos incrPos).Within := by
  change msg.pos + incrPos ≤ msg.maxLength
  omega

theorem appendParam_within {next : CVNNetMsg} {type : UInt8} {data : List UInt8}
    (room : wrap 32 (msg.pos + wrap 32 (paramDataStartOffset + wrap 32 data.length)) ≤ msg.maxLength)
    (appended : msg.appendParam id type data = some next) : next.Within := by
  unfold appendParam at appended
  dsimp only at appended
  split at appended
  · cases appended
  · next written wrote =>
    obtain ⟨-, stored⟩ := Option.ite_none_right_eq_some.mp wrote
    rw [← Option.some.inj appended, ← Option.some.inj stored]
    exact room

theorem addParam_within {heap : Memory} {type : UInt8} {data : List UInt8} {added : Bool} {next : CVNNetMsg}
    (within : msg.Within) (returns : addParam heap fuel msg id type data = some (added, next)) : next.Within := by
  unfold addParam at returns
  cases found : getParam fuel msg id 0 false with
  | none =>
    rw [found] at returns
    cases returns
  | some present =>
    rw [found] at returns
    dsimp only at returns
    by_cases there : present.ret = 0
    · rw [if_pos there] at returns
      obtain ⟨-, rfl⟩ := Prod.mk.inj (Option.some.inj returns)
      exact within
    · rw [if_neg there] at returns
      obtain ⟨last, appended, same⟩ := Option.map_eq_some_iff.mp returns
      obtain ⟨-, rfl⟩ := Prod.mk.inj same
      by_cases small : wrap 32 (msg.pos + wrap 32 (paramDataStartOffset + wrap 32 data.length)) > msg.maxLength
      · rw [if_pos small] at appended
        exact appendParam_within (le_refl _) appended
      · rw [if_neg small] at appended
        exact appendParam_within (not_lt.mp small) appended

/-! ## Where `GetDataParamPtr` ends -/

def dataParamAt (msg : CVNNetMsg) (ptr : Int) : Option (Int × Int) :=
  if msg.nextParam ptr ≤ msg.pos then some (ptr + paramDataStartOffset, msg.paramLength ptr) else none

theorem dataParamFound_ends (ptr : Int) :
    (msg.dataParamFound ptr ()).2.elim (fun _ => none) (fun result => result) = msg.dataParamAt ptr := by
  unfold dataParamFound dataParamAt
  by_cases fits : msg.nextParam ptr ≤ msg.pos
  · rw [if_pos fits]
    rw [if_pos (show ptr + paramDataStartOffset + msg.paramLength ptr ≤ msg.pos from fits)]
    rfl
  · rw [if_neg fits]
    rw [if_neg (show ¬ ptr + paramDataStartOffset + msg.paramLength ptr ≤ msg.pos from fits)]
    rfl

theorem getDataParamPtr_ends {found : Option (Int × Int)} (returns : (getDataParamPtr fuel msg id).2 = some found) :
    (∀ ptr, ¬ msg.FirstAt id ptr) ∧ found = none ∨ ∃ ptr, msg.FirstAt id ptr ∧ found = msg.dataParamAt ptr := by
  rcases paramLoop_firstAt dataParamFound_settles returns with absent | ⟨ptr, first, ended⟩
  · exact .inl absent
  · exact .inr ⟨ptr, first, ended.trans (dataParamFound_ends ptr)⟩

/-! ## The walk over lengths that are not negative -/

/-- No parameter that the walk comes to has a negative length. -/
def NonnegLengths (msg : CVNNetMsg) (id : Int) : Prop :=
  ∀ n, msg.ComesTo id n → msg.paramAt n < msg.pos → 0 ≤ msg.paramLength (msg.paramAt n)

theorem NonnegLengths.paramAt_le (nonneg : msg.NonnegLengths id) {n : Nat} (comes : msg.ComesTo id n) :
    (endOfHeader : Int) + paramDataStartOffset * n ≤ msg.paramAt n := by
  -- Each parameter is at least a header behind the one before.
  induction n with
  | zero => exact le_refl _
  | succ n ih =>
    have before : msg.ComesTo id n := fun k below => comes k (Nat.lt_succ_of_lt below)
    have goesOn : ¬ msg.Done id (msg.paramAt n) := comes n (Nat.lt_succ_self n)
    have inside : msg.paramAt n < msg.pos := not_le.mp fun behind => goesOn (.inl behind)
    have length := nonneg n before inside
    have further := ih before
    have next : msg.paramAt (n + 1) = msg.paramAt n + paramDataStartOffset + msg.paramLength (msg.paramAt n) :=
      Function.iterate_succ_apply' _ _ _
    rw [next]
    generalize msg.paramLength (msg.paramAt n) = added at length ⊢
    simp only [endOfHeader, paramDataStartOffset, Nat.cast_add, Nat.cast_one] at further ⊢
    omega

theorem NonnegLengths.done (nonneg : msg.NonnegLengths id) : ∃ n, msg.Done id (msg.paramAt n) := by
  by_contra never
  have comes (n : Nat) : msg.ComesTo id n := fun k _ done => never ⟨k, done⟩
  have far := nonneg.paramAt_le (comes msg.pos.toNat)
  have inside : msg.paramAt msg.pos.toNat < msg.pos :=
    not_le.mp fun behind => never ⟨msg.pos.toNat, .inl behind⟩
  simp only [endOfHeader, paramDataStartOffset] at far
  omega

/-! ## The two together -/

/-- At one parameter, a buffer as large as the message's own. -/
theorem lookups_agree_at {ptr : Int} (within : msg.Within) (room : msg.maxLength ≤ length)
    (header : endOfHeader ≤ ptr) (nonneg : 0 ≤ msg.paramLength ptr) (n : Int) :
    ((∃ p, msg.dataParamAt ptr = some (p, n)) ↔
      (msg.getParamAt length true ptr).ret = n ∧ 0 ≤ n) ∧
    ∀ p, msg.dataParamAt ptr = some (p, n) →
      (msg.getParamAt length true ptr).copied = msg.data.load p n.toNat := by
  unfold dataParamAt
  by_cases fits : msg.nextParam ptr ≤ msg.pos
  · -- What the message has room for, the buffer has room for.
    have short : msg.paramLength ptr ≤ length := by
      have next : ptr + paramDataStartOffset + msg.paramLength ptr ≤ msg.pos := fits
      unfold Within at within
      simp only [endOfHeader, paramDataStartOffset] at header next
      generalize msg.paramLength ptr = stored at next ⊢
      omega
    rw [if_pos fits, getParamAt_whole short fits]
    generalize msg.paramLength ptr = stored at nonneg
    constructor
    · constructor
      · rintro ⟨p, found⟩
        obtain ⟨-, rfl⟩ := Prod.mk.inj (Option.some.inj found)
        exact ⟨rfl, nonneg⟩
      · rintro ⟨rfl, -⟩
        exact ⟨_, rfl⟩
    · intro p found
      obtain ⟨rfl, rfl⟩ := Prod.mk.inj (Option.some.inj found)
      rfl
  · rw [if_neg fits, (getParamAt_fails fun copied => fits copied.2).1]
    constructor
    · constructor
      · rintro ⟨p, found⟩
        cases found
      · rintro ⟨rfl, nonneg⟩
        exact absurd nonneg (by decide)
    · intro p found
      cases found

/-- Both lookups return, and `GetDataParamPtr` finds what `GetParam` copies into a buffer of the message's size. -/
theorem lookups_agree (msg : CVNNetMsg) (id length : Int) (within : msg.Within) (nonneg : msg.NonnegLengths id)
    (room : msg.maxLength ≤ length) :
    (∃ fuel, (getDataParamPtr fuel msg id).2.isSome = true) ∧
    (∃ fuel, (getParam fuel msg id length true).isSome = true) ∧
    ∀ fuel fuel' found result, (getDataParamPtr fuel msg id).2 = some found →
      getParam fuel' msg id length true = some result →
      ∀ n, ((∃ p, found = some (p, n)) ↔ result.ret = n ∧ 0 ≤ n) ∧
        ∀ p, found = some (p, n) → result.copied = msg.data.load p n.toNat := by
  refine ⟨getDataParamPtr_returns_iff.mpr nonneg.done, (getParam_returns_iff length true).mpr nonneg.done, ?_⟩
  intro fuel fuel' found result found_ returns n
  rcases getDataParamPtr_ends found_ with ⟨absent, rfl⟩ | ⟨ptr, first, rfl⟩
  · rcases getParam_ends returns with ⟨-, rfl⟩ | ⟨ptr, first, -⟩
    · constructor
      · constructor
        · rintro ⟨p, found⟩
          cases found
        · rintro ⟨rfl, negative⟩
          exact absurd negative (by decide : ¬ (0 : Int) ≤ -1)
      · intro p found
        cases found
    · exact absurd first (absent ptr)
  · rcases getParam_ends returns with ⟨absent, -⟩ | ⟨other, same, ended⟩
    · exact absurd first (absent ptr)
    · rw [ended]
      -- There is only one first parameter with the id.
      obtain rfl := first.unique same
      obtain ⟨k, comes, rfl, inside, -⟩ := first
      have header : (endOfHeader : Int) ≤ msg.paramAt k := by
        have far := nonneg.paramAt_le comes
        simp only [endOfHeader, paramDataStartOffset] at far ⊢
        omega
      exact lookups_agree_at within room header (nonneg k comes inside) n

def repeated : CVNNetMsg := ofBody [7, 17, 0, 0, 0, 1, 5, 1, 17, 0, 0, 0, 2, 8, 9, 1, 17, 0, 0, 0, 9, 3]

theorem repeated_nonneg : repeated.NonnegLengths 1 := by
  intro n comes _
  have second : repeated.Done 1 (repeated.paramAt 1) := by decide
  have first_or_second : n = 0 ∨ n = 1 := by
    by_contra later
    exact comes 1 (by omega) second
  rcases first_or_second with rfl | rfl
  · decide
  · decide

theorem lookups_agree_repeated :
    (getDataParamPtr 2 repeated 1).2 = some (some (35, 2)) ∧
      ∃ fuel result, getParam fuel repeated 1 128 true = some result ∧ result.ret = 2 ∧
        result.copied = repeated.data.load 35 2 := by
  have found : (getDataParamPtr 2 repeated 1).2 = some (some (35, 2)) := by decide
  obtain ⟨-, ⟨fuel, ended⟩, agree⟩ := lookups_agree repeated 1 128 (by decide) repeated_nonneg (by decide)
  obtain ⟨result, returns⟩ := Option.isSome_iff_exists.mp ended
  obtain ⟨same, copied⟩ := agree 2 fuel _ _ found returns 2
  exact ⟨found, fuel, result, returns, (same.mp ⟨35, rfl⟩).1, copied 35 rfl⟩

end CVNNetMsg

end Foolject.VNClib
