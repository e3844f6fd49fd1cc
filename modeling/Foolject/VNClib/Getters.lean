import Foolject.VNClib.AddParams
import Foolject.VNClib.Walk

/-! What the typed getters make of a message that nobody has checked, and how the length of a parameter is
asked for.

The type of a parameter and its length are stored apart, and `GetParam` bounds the length by that of the
buffer from above only.
-/

set_option autoImplicit false

namespace Foolject.VNClib
open Words

namespace CVNNetMsg

variable {msg : CVNNetMsg} {id : Int} {fuel : Nat} {ptr length : Int} {type : Option UInt8} {data : Bool}

/-! ## Where `GetParam` ends -/

def FirstAt (msg : CVNNetMsg) (id ptr : Int) : Prop :=
  ∃ n, msg.ComesTo id n ∧ msg.paramAt n = ptr ∧ ptr < msg.pos ∧ id = (msg.data (ptr + paramIDOffset)).toNat

def getParamAt (msg : CVNNetMsg) (length : Int) (data : Bool) (ptr : Int) : GetParamResult :=
  if data = false then ⟨0, some (msg.data (ptr + paramTypeOffset)), length, []⟩
  else if length < msg.paramLength ptr then ⟨-1, some (msg.data (ptr + paramTypeOffset)), length, []⟩
  else if msg.nextParam ptr ≤ msg.pos then
    ⟨msg.paramLength ptr, some (msg.data (ptr + paramTypeOffset)), msg.paramLength ptr,
      msg.data.load (ptr + paramDataStartOffset) (msg.paramLength ptr).toNat⟩
  -- It does not fit into the message, and behind it the loop ends.
  else ⟨-1, some (msg.data (ptr + paramTypeOffset)), msg.paramLength ptr, []⟩

theorem FirstAt.unique {other : Int} (one : msg.FirstAt id ptr) (two : msg.FirstAt id other) : ptr = other := by
  obtain ⟨m, staysM, rfl, -, wantedM⟩ := one
  obtain ⟨n, staysN, rfl, -, wantedN⟩ := two
  rw [Orbit.leaves_unique staysM (.inr wantedM) staysN (.inr wantedN)]

/-- A loop that returns has come to the end without the id, or to the first parameter with it. -/
theorem paramLoop_firstAt {Local Result : Type} {ends : Local → Result}
    {found : Int → Local → List Access × (Local ⊕ Result)} {locals : Local} {result : Result}
    (settles : msg.Settles found)
    (returns : (paramLoop msg id ends found fuel endOfHeader locals).2 = some result) :
    (∀ ptr, ¬ msg.FirstAt id ptr) ∧ result = ends locals ∨
      ∃ ptr, msg.FirstAt id ptr ∧ result = (found ptr locals).2.elim ends (fun result => result) := by
  obtain ⟨n, stays, ⟨behind, ended⟩ | ⟨inside, wanted, ended⟩⟩ := paramLoop_ends settles returns
  · -- A first parameter with the id would be where this walk has ended.
    refine .inl ⟨?_, ended⟩
    rintro ptr ⟨m, staysM, rfl, inside, wanted⟩
    have same := Orbit.leaves_unique staysM (.inr wanted) stays (.inl behind)
    subst same
    exact absurd behind (not_le.mpr inside)
  · exact .inr ⟨_, ⟨n, stays, rfl, inside, wanted⟩, ended⟩

theorem getParamFound_ends :
    (msg.getParamFound data ptr (type, length)).2.elim (fun locals => ⟨-1, locals.1, locals.2, []⟩)
      (fun result => result) = msg.getParamAt length data ptr := by
  rw [getParamFound_eq]
  unfold getParamAt
  by_cases noBuffer : data = false
  · rw [if_pos noBuffer, if_pos noBuffer]
    rfl
  rw [if_neg noBuffer, if_neg noBuffer]
  by_cases short : length < msg.paramLength ptr
  · rw [if_pos short, if_pos short]
    rfl
  rw [if_neg short, if_neg short]
  by_cases fits : msg.nextParam ptr ≤ msg.pos
  · rw [if_pos fits]
    rw [if_pos (show ptr + paramDataStartOffset + msg.paramLength ptr ≤ msg.pos from fits)]
    rfl
  · rw [if_neg fits]
    rw [if_neg (show ¬ ptr + paramDataStartOffset + msg.paramLength ptr ≤ msg.pos from fits)]
    rfl

theorem getParam_ends {result : GetParamResult} (returns : getParam fuel msg id length data = some result) :
    (∀ ptr, ¬ msg.FirstAt id ptr) ∧ result = ⟨-1, none, length, []⟩ ∨
      ∃ ptr, msg.FirstAt id ptr ∧ result = msg.getParamAt length data ptr := by
  rw [← getParamAccesses_snd] at returns
  rcases paramLoop_firstAt (getParamFound_settles data) returns with absent | ⟨ptr, first, ended⟩
  · exact .inl absent
  · exact .inr ⟨ptr, first, ended.trans getParamFound_ends⟩

/-- The walk of `GetParam` with a buffer of this length stays in the message. -/
def WalkInBounds (msg : CVNNetMsg) (id length : Int) : Prop :=
  ∀ fuel, ∀ access ∈ (getParamAccesses fuel msg id length true).1, msg.InBounds length access

theorem WalkInBounds.nonneg (bounds : msg.WalkInBounds id length) (first : msg.FirstAt id ptr)
    (room : msg.paramLength ptr ≤ length) : 0 ≤ msg.paramLength ptr := by
  obtain ⟨-, taken⟩ := (getParam_inBounds_iff length true).mp bounds
  obtain ⟨n, comes, rfl, inside, wanted⟩ := first
  exact taken rfl n comes inside wanted room

section First
variable (wanted : id = (msg.data (endOfHeader + paramIDOffset)).toNat)

include wanted in
theorem firstAt_endOfHeader (some_ : endOfHeader < msg.pos) : msg.FirstAt id endOfHeader :=
  ⟨0, Orbit.stays_zero, rfl, some_, wanted⟩

include wanted in
theorem walkInBounds_endOfHeader (placed : msg.Placed endOfHeader) (nonneg : 0 ≤ msg.paramLength endOfHeader) :
    msg.WalkInBounds id length := by
  -- A message whose first parameter has the id needs no more than that to be in bounds.
  have only {n : Nat} (comes : msg.ComesTo id n) : n = 0 := by
    by_contra later
    exact comes 0 (Nat.pos_of_ne_zero later) (.inr wanted)
  refine (getParam_inBounds_iff length true).mpr ⟨?_, fun _ => ?_⟩
  · intro n comes
    rw [only comes]
    exact placed
  · intro n comes _ _ _
    rw [only comes]
    exact nonneg

end First

/-- A parameter of this type and length, whole inside the message. -/
structure Whole (msg : CVNNetMsg) (ptr : Int) (type : NetParamType) (length : Int) : Prop where
  type : msg.data (ptr + paramTypeOffset) = type.code
  length : msg.paramLength ptr = length
  fits : msg.nextParam ptr ≤ msg.pos

theorem getParamAt_whole (room : msg.paramLength ptr ≤ length) (fits : msg.nextParam ptr ≤ msg.pos) :
    msg.getParamAt length true ptr =
      ⟨msg.paramLength ptr, some (msg.data (ptr + paramTypeOffset)), msg.paramLength ptr,
        msg.data.load (ptr + paramDataStartOffset) (msg.paramLength ptr).toNat⟩ := by
  unfold getParamAt
  rw [if_neg (by decide), if_neg (not_lt.mpr room), if_pos fits]

theorem getParamAt_fails (failing : ¬ (msg.paramLength ptr ≤ length ∧ msg.nextParam ptr ≤ msg.pos)) :
    (msg.getParamAt length true ptr).ret = -1 ∧ (msg.getParamAt length true ptr).copied = [] := by
  unfold getParamAt
  rw [if_neg (by decide)]
  by_cases short : length < msg.paramLength ptr
  · rw [if_pos short]
    exact ⟨rfl, rfl⟩
  · rw [if_neg short, if_neg fun fits => failing ⟨not_lt.mp short, fits⟩]
    exact ⟨rfl, rfl⟩

/-- A call with a buffer that returns a type without an error has copied the first parameter with the id, which is
whole and not too long. -/
theorem getParam_succeeds {wanted : NetParamType} {result : GetParamResult}
    (returns : getParam fuel msg id length true = some result)
    (succeeds : ¬ (result.ret < 0 ∨ result.type ≠ some wanted.code)) :
    ∃ ptr, msg.FirstAt id ptr ∧ msg.Whole ptr wanted (msg.paramLength ptr) ∧ msg.paramLength ptr ≤ length ∧
      result.copied = msg.data.load (ptr + paramDataStartOffset) (msg.paramLength ptr).toNat := by
  obtain ⟨noError, typed⟩ := not_or.mp succeeds
  rcases getParam_ends returns with ⟨-, rfl⟩ | ⟨ptr, first, ended⟩
  · exact absurd (Int.negSucc_lt_zero 0) noError
  · rw [ended] at noError typed ⊢
    by_cases copied : msg.paramLength ptr ≤ length ∧ msg.nextParam ptr ≤ msg.pos
    · rw [getParamAt_whole copied.1 copied.2] at typed ⊢
      dsimp only at typed ⊢
      exact ⟨ptr, first, ⟨Option.some.inj (not_not.mp typed), rfl, copied.2⟩, copied.1, rfl⟩
    · rw [(getParamAt_fails copied).1] at noError
      exact absurd (Int.negSucc_lt_zero 0) noError

theorem getParam_whole {wanted : NetParamType} {result : GetParamResult} (bounds : msg.WalkInBounds id length)
    (returns : getParam fuel msg id length true = some result) (first : msg.FirstAt id ptr)
    (whole : msg.Whole ptr wanted (msg.paramLength ptr)) (room : msg.paramLength ptr ≤ length) :
    ¬ (result.ret < 0 ∨ result.type ≠ some wanted.code) ∧
      result.copied = msg.data.load (ptr + paramDataStartOffset) (msg.paramLength ptr).toNat := by
  rcases getParam_ends returns with ⟨none_, -⟩ | ⟨ptr', first', ended⟩
  · exact absurd first (none_ ptr)
  · obtain rfl := first.unique first'
    rw [ended, getParamAt_whole room whole.fits, whole.type]
    dsimp only
    refine ⟨?_, rfl⟩
    rintro (negative | other)
    · exact absurd (bounds.nonneg first room) (not_le.mpr negative)
    · exact other rfl

theorem FirstAt.length_eq {other : Int} {kind : NetParamType} (first : msg.FirstAt id ptr)
    (found : msg.FirstAt id other) (whole : msg.Whole other kind length) : msg.paramLength ptr = length := by
  rw [first.unique found]
  exact whole.length

theorem getParam_copied_le {result : GetParamResult} (nonneg : 0 ≤ length) (bounds : msg.WalkInBounds id length)
    (returns : getParam fuel msg id length true = some result) : (result.copied.length : Int) ≤ length := by
  rcases getParam_ends returns with ⟨-, rfl⟩ | ⟨ptr, first, ended⟩
  · exact nonneg
  · by_cases copied : msg.paramLength ptr ≤ length ∧ msg.nextParam ptr ≤ msg.pos
    · rw [ended, getParamAt_whole copied.1 copied.2]
      dsimp only
      rw [Memory.length_load, Int.toNat_of_nonneg (bounds.nonneg first copied.1)]
      exact copied.1
    · rw [ended, (getParamAt_fails copied).2]
      exact nonneg

/-! ## The integers -/

variable {width : Nat} {wanted : NetParamType} {stack : List UInt8}

/-- The value is that of the first parameter with the id, which has the type and exactly the width. -/
def IsExactly (msg : CVNNetMsg) (id : Int) (type : NetParamType) (width : Nat) (v : Int) : Prop :=
  ∃ ptr, msg.FirstAt id ptr ∧ msg.Whole ptr type width ∧
    v = wrap (8 * width) (value (msg.data.load (ptr + paramDataStartOffset) width))

def IsShort (msg : CVNNetMsg) (id : Int) (type : NetParamType) (width : Nat) : Prop :=
  ∃ ptr length, msg.FirstAt id ptr ∧ msg.Whole ptr type length ∧ length < width

theorem getIntParam_exact {result : Option Int} (bounds : msg.WalkInBounds id width)
    (returns : getIntParam width wanted stack fuel msg id = some result) :
    (∀ v, result = some v → msg.IsExactly id wanted width v) ↔ ¬ msg.IsShort id wanted width := by
  obtain ⟨found, walked, became⟩ := Option.map_eq_some_iff.mp returns
  constructor
  · -- A shorter one is copied without an error, and the rest of the local is what the stack held.
    rintro exact_ ⟨ptr, length, first, whole, short⟩
    obtain rfl := whole.length
    have copied := (getParam_whole bounds walked first whole short.le).1
    rw [if_neg copied] at became
    obtain ⟨ptr', first', whole', -⟩ := exact_ _ became.symm
    exact absurd (first.length_eq first' whole') short.ne
  · rintro notShort v rfl
    obtain ⟨succeeds, valued⟩ := Option.ite_none_left_eq_some.mp became
    obtain ⟨ptr, first, whole, room, copied⟩ := getParam_succeeds walked succeeds
    have same : msg.paramLength ptr = width := by
      by_contra other
      exact notShort ⟨ptr, _, first, whole, lt_of_le_of_ne room other⟩
    refine ⟨ptr, first, same ▸ whole, ?_⟩
    have taken : ((overlay found.copied stack).take width) = msg.data.load (ptr + paramDataStartOffset) width := by
      rw [copied, same, Int.toNat_natCast, overlay, List.take_left' (Memory.length_load width)]
    rw [← Option.some.inj valued, taken]

/-- The three getters, each with a buffer of its own width. -/
theorem intGetters_exact (stack : List UInt8) (fuel : Nat) (msg : CVNNetMsg) (id : Int) :
    (∀ result, msg.WalkInBounds id 1 → getInt8Param stack fuel msg id = some result →
      ((∀ v, result = some v → msg.IsExactly id .int8 1 v) ↔ ¬ msg.IsShort id .int8 1)) ∧
    (∀ result, msg.WalkInBounds id 2 → getInt16Param stack fuel msg id = some result →
      ((∀ v, result = some v → msg.IsExactly id .int16 2 v) ↔ ¬ msg.IsShort id .int16 2)) ∧
    ∀ result, msg.WalkInBounds id 4 → getInt32Param stack fuel msg id = some result →
      ((∀ v, result = some v → msg.IsExactly id .int32 4 v) ↔ ¬ msg.IsShort id .int32 4) :=
  ⟨fun _ => getIntParam_exact, fun _ => getIntParam_exact, fun _ => getIntParam_exact⟩

def wholeInt32 : CVNNetMsg := ofBody [7, 2, 0, 0, 0, 4, 0, 0, 1, 2]

theorem intGetters_exact_whole :
    getInt32Param [9, 9, 9, 9] 1 wholeInt32 7 = some (some 258) ∧ wholeInt32.IsExactly 7 .int32 4 258 := by
  have value : getInt32Param [9, 9, 9, 9] 1 wholeInt32 7 = some (some 258) := by decide
  have first : wholeInt32.FirstAt 7 endOfHeader := firstAt_endOfHeader (by decide) (by decide)
  have bounds : wholeInt32.WalkInBounds 7 4 :=
    walkInBounds_endOfHeader (by decide) (.inr ⟨by decide, by decide⟩) (by decide)
  have notShort : ¬ wholeInt32.IsShort 7 .int32 4 := by
    rintro ⟨ptr, length, other, whole, short⟩
    have four : wholeInt32.paramLength endOfHeader = 4 := by decide
    exact absurd (four.symm.trans (first.length_eq other whole)) short.ne'
  exact ⟨value, ((intGetters_exact [9, 9, 9, 9] 1 wholeInt32 7).2.2 _ bounds value).mpr notShort 258 rfl⟩

def emptyInt32 : CVNNetMsg := ofBody [7, 2, 0, 0, 0, 0]

theorem intGetters_uninitialised :
    emptyInt32.WalkInBounds 7 4 ∧
    getInt32Param [1, 2, 3, 4] 1 emptyInt32 7 = some (some 16909060) ∧
    getInt32Param [0, 0, 0, 0] 1 emptyInt32 7 = some (some 0) ∧
    ¬ emptyInt32.IsExactly 7 .int32 4 0 := by
  -- What is returned for it is what the stack held.
  have first : emptyInt32.FirstAt 7 endOfHeader := firstAt_endOfHeader (by decide) (by decide)
  refine ⟨walkInBounds_endOfHeader (by decide) (.inr ⟨by decide, by decide⟩) (by decide), by decide, by decide, ?_⟩
  rintro ⟨ptr, other, whole, -⟩
  have none_ : emptyInt32.paramLength endOfHeader = 0 := by decide
  exact absurd (none_.symm.trans (first.length_eq other whole)) (by decide)

/-! ## The strings -/

/-- What is written is inside the buffer, and is the first parameter with the id and a NUL if the string is found. -/
def HoldsString (msg : CVNNetMsg) (id length : Int) (result : StringResult) : Prop :=
  result.written.length ≤ length ∧
    (result.ok = true → ∃ ptr, msg.FirstAt id ptr ∧
      result.written = msg.data.load (ptr + paramDataStartOffset) (msg.paramLength ptr).toNat ++ [0])

/-- The terminator is written behind what was copied, which may have filled the buffer. -/
theorem getStringParam_holds {result : StringResult} (buffer : 1 ≤ length) (bounds : msg.WalkInBounds id length)
    (returns : getStringParam fuel msg id length = some result) :
    msg.HoldsString id length result ↔ ¬ ∃ ptr, msg.FirstAt id ptr ∧ msg.Whole ptr .string length := by
  obtain ⟨found, walked, became⟩ := Option.map_eq_some_iff.mp returns
  by_cases failed : found.ret < 0 ∨ found.type ≠ some NetParamType.string.code
  · -- A parameter of another type may have been copied all the same.
    rw [if_pos failed] at became
    constructor
    · rintro - ⟨ptr, first, full⟩
      obtain rfl := full.length
      exact (getParam_whole bounds walked first full (le_refl _)).1 failed
    · intro _
      rw [← became]
      exact ⟨getParam_copied_le (le_trans zero_le_one buffer) bounds walked, nofun⟩
  · rw [if_neg failed] at became
    obtain ⟨ptr, first, whole, room, copied⟩ := getParam_succeeds walked failed
    have nonneg := bounds.nonneg first room
    have size : (result.written.length : Int) = msg.paramLength ptr + 1 := by
      rw [← became, List.length_append, copied, Memory.length_load]
      rw [List.length_singleton, Nat.cast_add, Int.toNat_of_nonneg nonneg, Nat.cast_one]
    constructor
    · -- The terminator is behind the last byte of the buffer.
      rintro ⟨inside, -⟩ ⟨other, same, full⟩
      have length := first.length_eq same full
      omega
    · intro notFull
      have apart : msg.paramLength ptr ≠ length := fun full =>
        notFull ⟨ptr, first, whole.type, full, whole.fits⟩
      exact ⟨by omega, fun _ => ⟨ptr, first, by rw [← became, copied]⟩⟩

def twoCharacters : CVNNetMsg := ofBody [7, 16, 0, 0, 0, 2, 104, 105]

theorem twoCharacters_first : twoCharacters.FirstAt 7 endOfHeader := firstAt_endOfHeader (by decide) (by decide)

theorem twoCharacters_bounds (length : Int) : twoCharacters.WalkInBounds 7 length :=
  walkInBounds_endOfHeader (by decide) (.inr ⟨by decide, by decide⟩) (by decide)

theorem getStringParam_holds_three :
    getStringParam 1 twoCharacters 7 3 = some ⟨true, [104, 105, 0]⟩ ∧
      twoCharacters.HoldsString 7 3 ⟨true, [104, 105, 0]⟩ := by
  have written : getStringParam 1 twoCharacters 7 3 = some ⟨true, [104, 105, 0]⟩ := by decide
  refine ⟨written, (getStringParam_holds (by decide) (twoCharacters_bounds 3) written).mpr ?_⟩
  rintro ⟨ptr, other, whole⟩
  have two : twoCharacters.paramLength endOfHeader = 2 := by decide
  exact absurd (two.symm.trans (twoCharacters_first.length_eq other whole)) (by decide)

theorem getStringParam_overruns :
    twoCharacters.WalkInBounds 7 2 ∧ getStringParam 1 twoCharacters 7 2 = some ⟨true, [104, 105, 0]⟩ ∧
      ¬ twoCharacters.HoldsString 7 2 ⟨true, [104, 105, 0]⟩ :=
  -- In a buffer for two characters the terminator has no place.
  ⟨twoCharacters_bounds 2, by decide, fun holds => absurd holds.1 (by decide)⟩

/-! ## Asking for the length -/

/-- The caller asks for the length, with this in its variable, and fetches the parameter with what is there then. -/
def AsksThenFetches (fuel : Nat) (msg : CVNNetMsg) (p : Param) (length : Int) : Prop :=
  ∃ ask fetch, getParam fuel msg p.id.toNat length false = some ask ∧ ask.ret = 0 ∧
    ask.length = p.data.length ∧
    getParam fuel msg p.id.toNat ask.length true = some fetch ∧ fetch.ret = p.data.length ∧ fetch.copied = p.data

theorem asksThenFetches_iff {params : List Param} {p : Param} (carries : msg.Carries params)
    (enough : params.length < fuel) (found : lookup p.id.toNat params = some p) :
    AsksThenFetches fuel msg p length ↔ length = p.data.length := by
  have asked := getParam_carries carries p.id.toNat length false enough
  rw [found] at asked
  constructor
  · rintro ⟨ask, fetch, asked', -, learned, -⟩
    rw [asked] at asked'
    rw [← Option.some.inj asked'] at learned
    exact learned
  · rintro rfl
    have fetched := getParam_carries carries p.id.toNat p.data.length true enough
    rw [found, answer, if_neg (by decide), if_neg (lt_irrefl _)] at fetched
    exact ⟨_, _, asked, rfl, rfl, fetched, rfl, rfl⟩

/-- Asking leaves the variable as it is: the length is there afterwards exactly if it was before. -/
theorem askThenFetch {heap : Memory} {kind : MsgType} {capacity : Option Int} {calls : List AddCall}
    {flags : List Bool} (enough : calls.length < fuel)
    (built : addAll fuel (create heap kind capacity) calls = some (flags, msg)) :
    (∀ p ∈ succeeded flags calls, ∀ length, AsksThenFetches fuel msg p length ↔ length = p.data.length) ∧
    ∀ id : Int, (∀ p ∈ succeeded flags calls, id ≠ p.id.toNat) → ∀ length data, ∃ result,
      getParam fuel msg id length data = some result ∧ result.ret = -1 := by
  have start := holds_create heap kind capacity
  have turns : ([] : List Param).length + calls.length < fuel := by rwa [List.length_nil, Nat.zero_add]
  obtain ⟨flags', last, built', holds, -, all⟩ := start.addAll turns (start.addAll_small turns built)
  rw [built] at built'
  obtain ⟨rfl, rfl⟩ := Prod.mk.inj (Option.some.inj built')
  have nothing : (([] : List Param).map Param.id).Nodup := List.nodup_nil
  have distinct := foldl_keep_distinct nothing (calls.map Prod.snd)
  have few := length_foldl_keep_le [] (calls.map Prod.snd)
  rw [List.length_map] at few
  rw [all, List.nil_append] at holds distinct few
  have enough' := lt_of_le_of_lt few turns
  constructor
  · intro p member length
    exact asksThenFetches_iff holds.toCarries enough' (lookup_of_nodup distinct member)
  · intro id absent length data
    refine ⟨_, getParam_carries holds.toCarries id length data enough', ?_⟩
    rw [lookup_eq_none absent]
    rfl

theorem threeCalls_carries :
    ∃ flags msg, addAll 5 (create (fun _ => 0) .request none) threeCalls = some (flags, msg) ∧
      succeeded flags threeCalls = [⟨1, 0, [5]⟩, ⟨2, 0, []⟩] ∧ msg.Carries [⟨1, 0, [5]⟩, ⟨2, 0, []⟩] := by
  have start := holds_create (fun _ => 0) .request none
  obtain ⟨flags, msg, built, holds, -, all⟩ := @Holds.addAll _ _ 5 start threeCalls (by decide) (by decide)
  have kept : (threeCalls.map Prod.snd).foldl keep [] = [⟨1, 0, [5]⟩, ⟨2, 0, []⟩] := by decide
  rw [kept] at holds all
  exact ⟨flags, msg, built, all.symm, holds.toCarries⟩

theorem askThenFetch_threeCalls :
    ∃ flags msg, addAll 5 (create (fun _ => 0) .request none) threeCalls = some (flags, msg) ∧
      AsksThenFetches 5 msg ⟨1, 0, [5]⟩ 1 ∧ AsksThenFetches 5 msg ⟨2, 0, []⟩ 0 ∧
      ∃ result, getParam 5 msg 3 8 true = some result ∧ result.ret = -1 := by
  obtain ⟨flags, msg, built, added, -⟩ := threeCalls_carries
  obtain ⟨present, absent⟩ := askThenFetch (by decide) built
  rw [added] at present absent
  exact ⟨flags, msg, built, (present ⟨1, 0, [5]⟩ (by decide) 1).mpr rfl, (present ⟨2, 0, []⟩ (by decide) 0).mpr rfl,
    absent 3 (by decide) 8 true⟩

theorem askThenFetch_unanswered :
    ∃ flags msg, addAll 5 (create (fun _ => 0) .request none) threeCalls = some (flags, msg) ∧
      ⟨1, 0, [5]⟩ ∈ succeeded flags threeCalls ∧
      getParam 5 msg 1 0 false = some ⟨0, some 0, 0, []⟩ ∧ ¬ AsksThenFetches 5 msg ⟨1, 0, [5]⟩ 0 := by
  -- A variable that starts at zero stays there.
  obtain ⟨flags, msg, built, added, carries⟩ := threeCalls_carries
  refine ⟨flags, msg, built, by rw [added]; decide, getParam_carries carries 1 0 false (by decide), ?_⟩
  rw [asksThenFetches_iff carries (by decide) (by decide)]
  decide

end CVNNetMsg

end Foolject.VNClib
