import Mathlib.Data.Int.Interval
import Mathlib.Data.Set.Finite.Lattice
import Mathlib.Order.Interval.Finset.Nat
import Foolject.Lib.Orbit
import Foolject.VNClib.NetMsg

/-! The walk over the parameters of a message that nobody has checked.

`GetParam` and `GetDataParamPtr` run one loop and differ in what they do at a parameter with the
id. The loop is given here with the bytes it reads, for any contents of the memory.
-/

set_option autoImplicit false

namespace Foolject.VNClib
open Words

/-- What the loops do to the memory of the message. -/
inductive Access where
  | read (address : Int) (count : Nat)
  /-- `memcpy` from here to the caller's buffer. -/
  | copy (address count : Int)
  deriving DecidableEq, Repr

namespace CVNNetMsg

/-! ## The loop -/

def paramLength (msg : CVNNetMsg) (ptr : Int) : Int :=
  wrap 32 (value (msg.data.load (ptr + paramLengthOffset) 4))

def nextParam (msg : CVNNetMsg) (ptr : Int) : Int := ptr + paramDataStartOffset + msg.paramLength ptr

def headerReads (ptr : Int) : List Access :=
  [.read (ptr + paramIDOffset) 1, .read (ptr + paramTypeOffset) 1, .read (ptr + paramLengthOffset) 4]

section Loop
variable {Local Result : Type}

/-- The loop, with the locals of the function. At a parameter with the id it either goes on, with
locals of its own, or returns. -/
def paramLoop (msg : CVNNetMsg) (id : Int) (ends : Local → Result)
    (found : Int → Local → List Access × (Local ⊕ Result)) :
    Nat → Int → Local → List Access × Option Result
  | 0, _, _ => ([], none)
  | fuel + 1, ptr, locals =>
    if ptr < msg.pos then
      if id = (msg.data (ptr + paramIDOffset)).toNat then
        match found ptr locals with
        | (accesses, .inr result) => (headerReads ptr ++ accesses, some result)
        | (accesses, .inl locals) =>
          let rest := paramLoop msg id ends found fuel (msg.nextParam ptr) locals
          (headerReads ptr ++ accesses ++ rest.1, rest.2)
      else
        let rest := paramLoop msg id ends found fuel (msg.nextParam ptr) locals
        (headerReads ptr ++ rest.1, rest.2)
    else ([], some (ends locals))

end Loop

/-- What `GetParam` does at a parameter with the id. Its locals are what `*type` and `*length` hold. -/
def getParamFound (msg : CVNNetMsg) (data : Bool) (ptr : Int) (locals : Option UInt8 × Int) :
    List Access × (Option UInt8 × Int ⊕ GetParamResult) :=
  let paramType := msg.data (ptr + paramTypeOffset)
  let paramLength := msg.paramLength ptr
  let ptr := ptr + paramDataStartOffset
  if data = false then ([], .inr ⟨0, some paramType, locals.2, []⟩)
  else if locals.2 < paramLength then ([], .inr ⟨-1, some paramType, locals.2, []⟩)
  -- A negative length passes this test as it has passed the one before.
  else if ptr + paramLength ≤ msg.pos then
    ([.copy ptr paramLength],
      .inr ⟨paramLength, some paramType, paramLength, msg.data.load ptr paramLength.toNat⟩)
  else ([], .inl (some paramType, paramLength))

def getParamAccesses (fuel : Nat) (msg : CVNNetMsg) (id : Int) (length : Int) (data : Bool) :
    List Access × Option GetParamResult :=
  paramLoop msg id (fun locals => ⟨-1, locals.1, locals.2, []⟩) (msg.getParamFound data) fuel
    endOfHeader (none, length)

/-- What `GetDataParamPtr` does at a parameter with the id: the place of its data, and their length. -/
def dataParamFound (msg : CVNNetMsg) (ptr : Int) (_ : Unit) : List Access × (Unit ⊕ Option (Int × Int)) :=
  let paramLength := msg.paramLength ptr
  let ptr := ptr + paramDataStartOffset
  if ptr + paramLength ≤ msg.pos then ([], .inr (some (ptr, paramLength))) else ([], .inl ())

def getDataParamPtr (fuel : Nat) (msg : CVNNetMsg) (id : Int) :
    List Access × Option (Option (Int × Int)) :=
  paramLoop msg id (fun _ => none) msg.dataParamFound fuel endOfHeader ()

variable {msg : CVNNetMsg} {id : Int}

/-- One turn of `GetParam`, with the length of the parameter by name. -/
theorem getParamLoop_succ (data : Bool) (fuel : Nat) (ptr : Int) (type : Option UInt8) (length : Int) :
    getParamLoop msg id data (fuel + 1) ptr type length =
      if ptr < msg.pos then
        if id = (msg.data (ptr + paramIDOffset)).toNat then
          if data = false then some ⟨0, some (msg.data (ptr + paramTypeOffset)), length, []⟩
          else if length < msg.paramLength ptr then
            some ⟨-1, some (msg.data (ptr + paramTypeOffset)), length, []⟩
          else if ptr + paramDataStartOffset + msg.paramLength ptr ≤ msg.pos then
            some ⟨msg.paramLength ptr, some (msg.data (ptr + paramTypeOffset)), msg.paramLength ptr,
              msg.data.load (ptr + paramDataStartOffset) (msg.paramLength ptr).toNat⟩
          else getParamLoop msg id data fuel (msg.nextParam ptr) (some (msg.data (ptr + paramTypeOffset)))
            (msg.paramLength ptr)
        else getParamLoop msg id data fuel (msg.nextParam ptr) type length
      else some ⟨-1, type, length, []⟩ := rfl

theorem getParamFound_eq (data : Bool) (ptr : Int) (type : Option UInt8) (length : Int) :
    msg.getParamFound data ptr (type, length) =
      if data = false then ([], .inr ⟨0, some (msg.data (ptr + paramTypeOffset)), length, []⟩)
      else if length < msg.paramLength ptr then
        ([], .inr ⟨-1, some (msg.data (ptr + paramTypeOffset)), length, []⟩)
      else if ptr + paramDataStartOffset + msg.paramLength ptr ≤ msg.pos then
        ([.copy (ptr + paramDataStartOffset) (msg.paramLength ptr)],
          .inr ⟨msg.paramLength ptr, some (msg.data (ptr + paramTypeOffset)), msg.paramLength ptr,
            msg.data.load (ptr + paramDataStartOffset) (msg.paramLength ptr).toNat⟩)
      else ([], .inl (some (msg.data (ptr + paramTypeOffset)), msg.paramLength ptr)) := rfl

theorem paramLoop_getParam (data : Bool) (fuel : Nat) (ptr : Int) (type : Option UInt8) (length : Int) :
    (paramLoop msg id (fun locals => ⟨-1, locals.1, locals.2, []⟩) (msg.getParamFound data) fuel ptr
      (type, length)).2 = getParamLoop msg id data fuel ptr type length := by
  induction fuel generalizing ptr type length with
  | zero => rfl
  | succ fuel ih =>
    rw [paramLoop, getParamLoop_succ, getParamFound_eq]
    by_cases inside : ptr < msg.pos
    · rw [if_pos inside, if_pos inside]
      by_cases wanted : id = (msg.data (ptr + paramIDOffset)).toNat
      · rw [if_pos wanted, if_pos wanted]
        -- The three ways to return, and the parameter that does not fit.
        by_cases noBuffer : data = false
        · rw [if_pos noBuffer, if_pos noBuffer]
        · rw [if_neg noBuffer, if_neg noBuffer]
          by_cases short : length < msg.paramLength ptr
          · rw [if_pos short, if_pos short]
          · rw [if_neg short, if_neg short]
            by_cases fits : ptr + paramDataStartOffset + msg.paramLength ptr ≤ msg.pos
            · rw [if_pos fits, if_pos fits]
            · rw [if_neg fits, if_neg fits]
              exact ih _ _ _
      · rw [if_neg wanted, if_neg wanted]
        exact ih _ _ _
    · rw [if_neg inside, if_neg inside]

/-- The loop with its accesses computes what `GetParam` returns. -/
theorem getParamAccesses_snd (fuel : Nat) (msg : CVNNetMsg) (id length : Int) (data : Bool) :
    (getParamAccesses fuel msg id length data).2 = getParam fuel msg id length data :=
  paramLoop_getParam data fuel endOfHeader none length

/-! ## The parameters it comes to -/

def Done (msg : CVNNetMsg) (id ptr : Int) : Prop :=
  msg.pos ≤ ptr ∨ id = (msg.data (ptr + paramIDOffset)).toNat

instance (msg : CVNNetMsg) (id : Int) : DecidablePred (msg.Done id) :=
  fun _ => inferInstanceAs (Decidable (_ ∨ _))

/-- Where the parameter with this number is, when the stored lengths are followed from the header on. -/
def paramAt (msg : CVNNetMsg) (n : Nat) : Int := msg.nextParam^[n] endOfHeader

def ComesTo (msg : CVNNetMsg) (id : Int) (n : Nat) : Prop :=
  Orbit.Stays msg.nextParam (msg.Done id) endOfHeader n

section Loop
variable {Local Result : Type} {ends : Local → Result}
  {found : Int → Local → List Access × (Local ⊕ Result)} {ptr : Int} {locals : Local} {fuel : Nat}

/-- A parameter with the id that does not end the loop reaches past the end of the message. -/
def Settles (msg : CVNNetMsg) (found : Int → Local → List Access × (Local ⊕ Result)) : Prop :=
  ∀ ptr locals next, (found ptr locals).2 = .inl next → msg.pos ≤ msg.nextParam ptr

theorem paramLoop_end (behind : msg.pos ≤ ptr) :
    paramLoop msg id ends found (fuel + 1) ptr locals = ([], some (ends locals)) := by
  rw [paramLoop, if_neg (not_lt.mpr behind)]

theorem paramLoop_skip (goesOn : ¬ msg.Done id ptr) :
    paramLoop msg id ends found (fuel + 1) ptr locals =
      (headerReads ptr ++ (paramLoop msg id ends found fuel (msg.nextParam ptr) locals).1,
        (paramLoop msg id ends found fuel (msg.nextParam ptr) locals).2) := by
  have inside : ptr < msg.pos := not_le.mp fun behind => goesOn (.inl behind)
  have other : ¬ id = (msg.data (ptr + paramIDOffset)).toNat := fun wanted => goesOn (.inr wanted)
  rw [paramLoop, if_pos inside, if_neg other]

theorem paramLoop_found (settles : msg.Settles found) (inside : ptr < msg.pos)
    (wanted : id = (msg.data (ptr + paramIDOffset)).toNat) :
    (paramLoop msg id ends found (fuel + 1) ptr locals).1 = headerReads ptr ++ (found ptr locals).1 ∧
    (paramLoop msg id ends found (fuel + 2) ptr locals).2.isSome = true := by
  rw [paramLoop, if_pos inside, if_pos wanted, paramLoop, if_pos inside, if_pos wanted]
  rcases outcome : found ptr locals with ⟨accesses, next | result⟩
  · have behind : msg.pos ≤ msg.nextParam ptr := settles ptr locals next (congrArg Prod.snd outcome)
    constructor
    · cases fuel with
      | zero => exact List.append_nil _
      | succ fuel =>
        dsimp only
        rw [paramLoop_end behind, List.append_nil]
    · dsimp only
      rw [paramLoop_end behind]
      rfl
  · exact ⟨rfl, rfl⟩

/-- The loop ends exactly if it comes to where it goes no further. -/
theorem paramLoop_isSome_iff (settles : msg.Settles found) :
    (∃ fuel, (paramLoop msg id ends found fuel ptr locals).2.isSome = true) ↔
      ∃ n, msg.Done id (msg.nextParam^[n] ptr) := by
  have stops (at_ : Int) (done : msg.Done id at_) :
      (paramLoop msg id ends found 2 at_ locals).2.isSome = true := by
    by_cases behind : msg.pos ≤ at_
    · rw [paramLoop_end behind]
      rfl
    · rcases done with end_ | wanted
      · exact absurd end_ behind
      · exact (paramLoop_found settles (not_le.mp behind) wanted).2
  have skips (fuel : Nat) (at_ : Int) (goesOn : ¬ msg.Done id at_) :
      (paramLoop msg id ends found (fuel + 1) at_ locals).2 =
        (paramLoop msg id ends found fuel (msg.nextParam at_) locals).2 := by
    rw [paramLoop_skip goesOn]
  exact @Orbit.ends_iff _ _ _ _ (fun fuel at_ => (paramLoop msg id ends found fuel at_ locals).2) (fun _ => rfl)
    (fun at_ done => ⟨2, stops at_ done⟩) skips ptr

theorem paramLoop_ends {result : Result} (settles : msg.Settles found)
    (returns : (paramLoop msg id ends found fuel ptr locals).2 = some result) :
    ∃ n, Orbit.Stays msg.nextParam (msg.Done id) ptr n ∧
      (msg.pos ≤ msg.nextParam^[n] ptr ∧ result = ends locals ∨
        msg.nextParam^[n] ptr < msg.pos ∧ id = (msg.data (msg.nextParam^[n] ptr + paramIDOffset)).toNat ∧
          result = (found (msg.nextParam^[n] ptr) locals).2.elim ends (fun result => result)) := by
  -- A loop that returns has left the message, or has come to the first parameter
  -- with the id. The induction is on the turns, for every place to start from.
  induction fuel generalizing ptr with
  | zero => cases returns
  | succ fuel ih =>
    by_cases behind : msg.pos ≤ ptr
    · rw [paramLoop_end behind] at returns
      exact ⟨0, Orbit.stays_zero, .inl ⟨behind, (Option.some.inj returns).symm⟩⟩
    have inside := not_le.mp behind
    by_cases wanted : id = (msg.data (ptr + paramIDOffset)).toNat
    · refine ⟨0, Orbit.stays_zero, .inr ⟨inside, wanted, ?_⟩⟩
      rw [paramLoop, if_pos inside, if_pos wanted] at returns
      rw [Function.iterate_zero_apply]
      rcases outcome : found ptr locals with ⟨accesses, next | ended⟩
      · -- Behind a parameter that does not settle it the message ends.
        rw [outcome] at returns
        have past : msg.pos ≤ msg.nextParam ptr := settles ptr locals next (congrArg Prod.snd outcome)
        cases fuel with
        | zero => cases returns
        | succ fuel =>
          dsimp only at returns
          rw [paramLoop_end past] at returns
          exact (Option.some.inj returns).symm
      · rw [outcome] at returns
        exact (Option.some.inj returns).symm
    · rw [paramLoop_skip (not_or.mpr ⟨behind, wanted⟩)] at returns
      obtain ⟨n, stays, ended⟩ := ih returns
      exact ⟨n + 1, Orbit.stays_succ.mpr ⟨not_or.mpr ⟨behind, wanted⟩, stays⟩, ended⟩

def Accesses (msg : CVNNetMsg) (id : Int) (found : Int → Local → List Access × (Local ⊕ Result))
    (locals : Local) (ptr : Int) (access : Access) : Prop :=
  ptr < msg.pos ∧ (access ∈ headerReads ptr ∨
    id = (msg.data (ptr + paramIDOffset)).toNat ∧ access ∈ (found ptr locals).1)

theorem mem_paramLoop_iff (settles : msg.Settles found) {access : Access} :
    (∃ fuel, access ∈ (paramLoop msg id ends found fuel ptr locals).1) ↔
      ∃ n, Orbit.Stays msg.nextParam (msg.Done id) ptr n ∧
        msg.Accesses id found locals (msg.nextParam^[n] ptr) access := by
  constructor
  · -- The induction is on the turns, for every place to start from.
    rintro ⟨fuel, accessed⟩
    induction fuel generalizing ptr with
    | zero => cases accessed
    | succ fuel ih =>
      by_cases behind : msg.pos ≤ ptr
      · rw [paramLoop_end behind] at accessed
        cases accessed
      · have inside : ptr < msg.pos := not_le.mp behind
        by_cases wanted : id = (msg.data (ptr + paramIDOffset)).toNat
        · rw [(paramLoop_found settles inside wanted).1] at accessed
          rcases List.mem_append.mp accessed with header | data
          · exact ⟨0, Orbit.stays_zero, inside, .inl header⟩
          · exact ⟨0, Orbit.stays_zero, inside, .inr ⟨wanted, data⟩⟩
        · have goesOn : ¬ msg.Done id ptr := not_or.mpr ⟨behind, wanted⟩
          rw [paramLoop_skip goesOn] at accessed
          rcases List.mem_append.mp accessed with header | rest
          · exact ⟨0, Orbit.stays_zero, inside, .inl header⟩
          · obtain ⟨n, stays, later⟩ := ih rest
            exact ⟨n + 1, Orbit.stays_succ.mpr ⟨goesOn, stays⟩, later⟩
  · rintro ⟨n, stays, inside, accessed⟩
    induction n generalizing ptr with
    | zero =>
      rw [Function.iterate_zero_apply] at inside accessed
      refine ⟨1, ?_⟩
      by_cases wanted : id = (msg.data (ptr + paramIDOffset)).toNat
      · rw [(paramLoop_found settles inside wanted).1]
        rcases accessed with header | ⟨_, data⟩
        · exact List.mem_append_left _ header
        · exact List.mem_append_right _ data
      · have goesOn : ¬ msg.Done id ptr := not_or.mpr ⟨not_le.mpr inside, wanted⟩
        rw [paramLoop_skip goesOn]
        rcases accessed with header | ⟨same, _⟩
        · exact List.mem_append_left _ header
        · exact absurd same wanted
    | succ n ih =>
      obtain ⟨goesOn, rest⟩ := Orbit.stays_succ.mp stays
      obtain ⟨fuel, later⟩ := ih rest inside accessed
      refine ⟨fuel + 1, ?_⟩
      rw [paramLoop_skip goesOn]
      exact List.mem_append_right _ later

end Loop

theorem getParamFound_settles (data : Bool) : msg.Settles (msg.getParamFound data) := by
  intro ptr locals next goesOn
  rw [← Prod.mk.eta (p := locals), getParamFound_eq] at goesOn
  by_cases noBuffer : data = false
  · rw [if_pos noBuffer] at goesOn
    cases goesOn
  · rw [if_neg noBuffer] at goesOn
    by_cases short : locals.2 < msg.paramLength ptr
    · rw [if_pos short] at goesOn
      cases goesOn
    · rw [if_neg short] at goesOn
      by_cases fits : ptr + paramDataStartOffset + msg.paramLength ptr ≤ msg.pos
      · rw [if_pos fits] at goesOn
        cases goesOn
      · exact le_of_lt (not_le.mp fits)

theorem dataParamFound_settles : msg.Settles msg.dataParamFound := by
  intro ptr locals next goesOn
  by_cases fits : ptr + paramDataStartOffset + msg.paramLength ptr ≤ msg.pos
  · unfold dataParamFound at goesOn
    rw [if_pos fits] at goesOn
    cases goesOn
  · exact le_of_lt (not_le.mp fits)

/-! ## Whether the walk ends -/

def Circles (msg : CVNNetMsg) (id : Int) : Prop := Orbit.Returns msg.nextParam (msg.Done id) endOfHeader

def Sinks (msg : CVNNetMsg) (id : Int) : Prop := ∀ low, ∃ n, msg.ComesTo id n ∧ msg.paramAt n < low

theorem done_iff (msg : CVNNetMsg) (id : Int) :
    (∃ n, msg.Done id (msg.nextParam^[n] endOfHeader)) ↔ ¬ msg.Circles id ∧ ¬ msg.Sinks id := by
  constructor
  · rintro ⟨n, done⟩
    constructor
    · exact fun circles => Orbit.not_leaves_of_returns circles n done
    · intro sinks
      -- The walk has come to no more than the first parameters.
      obtain ⟨low, lowest⟩ := ((Set.finite_Iic n).image msg.paramAt).bddBelow
      obtain ⟨m, stays, below⟩ := sinks low
      by_cases early : m ≤ n
      · exact absurd (lowest ⟨m, early, rfl⟩) (not_le.mpr below)
      · exact stays n (not_le.mp early) done
  · -- Between a lower bound and the end of the message there are finitely many places.
    rintro ⟨never, bounded⟩
    obtain ⟨low, above⟩ : ∃ low, ∀ n, msg.ComesTo id n → low ≤ msg.paramAt n := by
      simpa only [Sinks, not_forall, not_exists, not_and, not_lt] using bounded
    apply (Orbit.leaves_iff (Set.finite_Ico low msg.pos) _).mpr never
    intro n stays
    constructor
    · exact above n fun k below => stays k (Nat.lt_succ_of_lt below)
    · exact not_le.mp fun behind => stays n (Nat.lt_succ_self n) (.inl behind)

theorem getParam_returns_iff (length : Int) (data : Bool) :
    (∃ fuel, (getParam fuel msg id length data).isSome = true) ↔ ∃ n, msg.Done id (msg.nextParam^[n] endOfHeader) := by
  simp only [← getParamAccesses_snd]
  exact paramLoop_isSome_iff (getParamFound_settles data)

theorem getDataParamPtr_returns_iff :
    (∃ fuel, (getDataParamPtr fuel msg id).2.isSome = true) ↔ ∃ n, msg.Done id (msg.nextParam^[n] endOfHeader) :=
  paramLoop_isSome_iff dataParamFound_settles

/-- The walk ends unless the stored lengths lead in a circle, or down without end. -/
theorem walk_ends (msg : CVNNetMsg) (id length : Int) (data : Bool) :
    ((∃ fuel, (getParam fuel msg id length data).isSome = true) ↔ ¬ msg.Circles id ∧ ¬ msg.Sinks id) ∧
    ((∃ fuel, (getDataParamPtr fuel msg id).2.isSome = true) ↔ ¬ msg.Circles id ∧ ¬ msg.Sinks id) := by
  rw [← done_iff]
  exact ⟨getParam_returns_iff length data, getDataParamPtr_returns_iff⟩

def ofBody (body : List UInt8) : CVNNetMsg :=
  { data := Memory.store (fun _ => 0) 0
      (2 :: 0 :: bigEndian 4 body.length ++ List.replicate 16 0 ++ body)
    pos := endOfHeader + body.length
    maxLength := max defMsgLength (endOfHeader + body.length) }

def circling : CVNNetMsg := ofBody [0, 0, 255, 255, 255, 250]

theorem circling_circles : circling.Circles 1 := by
  refine ⟨0, 1, Nat.one_pos, ?_, by decide⟩
  intro k first
  obtain rfl : k = 0 := Nat.lt_one_iff.mp first
  decide

theorem circling_hangs :
    (¬ ∃ fuel, (getParam fuel circling 1 0 false).isSome = true) ∧
    ¬ ∃ fuel, (getDataParamPtr fuel circling 1).2.isSome = true := by
  have forever : ¬ ∃ n, circling.Done 1 (circling.nextParam^[n] endOfHeader) := by
    rw [done_iff]
    exact fun ends => ends.1 circling_circles
  constructor
  · exact fun ended => forever ((getParam_returns_iff 0 false).mp ended)
  · exact fun ended => forever (getDataParamPtr_returns_iff.mp ended)

/-! ## What the walk reads -/

def BytesInside (msg : CVNNetMsg) (address count : Int) : Prop :=
  ∀ i, address ≤ i → i < address + count → endOfHeader ≤ i ∧ i < msg.pos

/-- The bytes of an access are inside the message, and a copy fits into the caller's buffer. -/
def InBounds (msg : CVNNetMsg) (length : Int) : Access → Prop
  | .read address count => msg.BytesInside address count
  | .copy address count => (0 ≤ count ∧ count ≤ length) ∧ msg.BytesInside address count

/-- The message ends here, or the header of a parameter fits between its own header and its end. -/
def Placed (msg : CVNNetMsg) (ptr : Int) : Prop :=
  msg.pos ≤ ptr ∨ (endOfHeader ≤ ptr ∧ ptr + paramDataStartOffset ≤ msg.pos)

def PlacedAll (msg : CVNNetMsg) (id : Int) : Prop := ∀ n, msg.ComesTo id n → msg.Placed (msg.paramAt n)

/-- The first parameter with the id has no negative length that passes for a length of the caller's. -/
def LengthTaken (msg : CVNNetMsg) (id length : Int) : Prop :=
  ∀ n, msg.ComesTo id n → msg.paramAt n < msg.pos →
    id = (msg.data (msg.paramAt n + paramIDOffset)).toNat →
    msg.paramLength (msg.paramAt n) ≤ length → 0 ≤ msg.paramLength (msg.paramAt n)

theorem bytesInside_iff {address count : Int} (some : 0 < count) :
    msg.BytesInside address count ↔ endOfHeader ≤ address ∧ address + count ≤ msg.pos := by
  constructor
  · intro inside
    have first := inside address (le_refl address) (by omega)
    have last := inside (address + count - 1) (by omega) (by omega)
    exact ⟨first.1, by omega⟩
  · intro ⟨low, high⟩ i above below
    exact ⟨le_trans low above, lt_of_lt_of_le below high⟩

theorem headerReads_inside_iff {ptr : Int} (inside : ptr < msg.pos) (length : Int) :
    (∀ access ∈ headerReads ptr, msg.InBounds length access) ↔ msg.Placed ptr := by
  have fields : (∀ access ∈ headerReads ptr, msg.InBounds length access) ↔
      msg.BytesInside (ptr + 0) 1 ∧ msg.BytesInside (ptr + 1) 1 ∧ msg.BytesInside (ptr + 2) 4 := by
    simp only [headerReads, List.forall_mem_cons]
    exact ⟨fun ⟨id, type, length, _⟩ => ⟨id, type, length⟩,
      fun ⟨id, type, length⟩ => ⟨id, type, length, nofun⟩⟩
  rw [fields, bytesInside_iff (by decide), bytesInside_iff (by decide), bytesInside_iff (by decide)]
  simp only [Placed, endOfHeader, paramDataStartOffset]
  omega

theorem mem_getParamFound_iff {data : Bool} {ptr length : Int} {type : Option UInt8} {access : Access} :
    access ∈ (msg.getParamFound data ptr (type, length)).1 ↔
      (data = true ∧ msg.paramLength ptr ≤ length ∧ msg.nextParam ptr ≤ msg.pos) ∧
        access = .copy (ptr + paramDataStartOffset) (msg.paramLength ptr) := by
  rw [getParamFound_eq]
  by_cases noBuffer : data = false
  · rw [if_pos noBuffer]
    constructor
    · nofun
    · rintro ⟨⟨buffer, _⟩, _⟩
      rw [noBuffer] at buffer
      cases buffer
  · rw [if_neg noBuffer]
    by_cases short : length < msg.paramLength ptr
    · rw [if_pos short]
      constructor
      · nofun
      · rintro ⟨⟨_, room, _⟩, _⟩
        exact absurd short (not_lt.mpr room)
    · rw [if_neg short]
      by_cases fits : ptr + paramDataStartOffset + msg.paramLength ptr ≤ msg.pos
      · rw [if_pos fits, List.mem_singleton]
        have buffer : data = true := Bool.eq_true_of_not_eq_false noBuffer
        exact ⟨fun copies => ⟨⟨buffer, not_lt.mp short, fits⟩, copies⟩, And.right⟩
      · rw [if_neg fits]
        constructor
        · nofun
        · rintro ⟨⟨_, _, fits'⟩, _⟩
          exact absurd fits' fits

theorem dataParamFound_fst (ptr : Int) (locals : Unit) : (msg.dataParamFound ptr locals).1 = [] := by
  unfold dataParamFound
  dsimp only
  split
  · rfl
  · rfl

/-- Whether all accesses are in bounds is decided at the parameters that the walk comes to. -/
theorem paramLoop_inBounds_iff {Local Result : Type} {ends : Local → Result}
    {found : Int → Local → List Access × (Local ⊕ Result)} {locals : Local} {length : Int}
    (settles : msg.Settles found) :
    (∀ fuel, ∀ access ∈ (paramLoop msg id ends found fuel endOfHeader locals).1, msg.InBounds length access) ↔
      msg.PlacedAll id ∧ ∀ n, msg.ComesTo id n → msg.paramAt n < msg.pos →
        id = (msg.data (msg.paramAt n + paramIDOffset)).toNat →
        ∀ access ∈ (found (msg.paramAt n) locals).1, msg.InBounds length access := by
  have all : (∀ fuel, ∀ access ∈ (paramLoop msg id ends found fuel endOfHeader locals).1,
      msg.InBounds length access) ↔ ∀ access n, msg.ComesTo id n →
        msg.Accesses id found locals (msg.paramAt n) access → msg.InBounds length access := by
    constructor
    · intro bounded access n stays accessed
      obtain ⟨fuel, member⟩ : ∃ fuel, access ∈ (paramLoop msg id ends found fuel endOfHeader locals).1 :=
        (mem_paramLoop_iff settles).mpr ⟨n, stays, accessed⟩
      exact bounded fuel access member
    · intro bounded fuel access member
      obtain ⟨n, stays, accessed⟩ := (mem_paramLoop_iff settles).mp ⟨fuel, member⟩
      exact bounded access n stays accessed
  rw [all]
  constructor
  · intro bounded
    constructor
    · intro n stays
      by_cases inside : msg.paramAt n < msg.pos
      · exact (headerReads_inside_iff inside length).mp fun access header =>
          bounded access n stays ⟨inside, .inl header⟩
      · exact .inl (not_lt.mp inside)
    · intro n stays inside wanted access data
      exact bounded access n stays ⟨inside, .inr ⟨wanted, data⟩⟩
  · rintro ⟨placed, copies⟩ access n stays ⟨inside, header | ⟨wanted, data⟩⟩
    · exact (headerReads_inside_iff inside length).mpr (placed n stays) access header
    · exact copies n stays inside wanted access data

theorem getParamFound_inBounds_iff {data : Bool} {ptr length : Int} (placed : msg.Placed ptr)
    (inside : ptr < msg.pos) : (∀ access ∈ (msg.getParamFound data ptr (none, length)).1, msg.InBounds length access) ↔
      (data = true → msg.paramLength ptr ≤ length → 0 ≤ msg.paramLength ptr) := by
  have low : endOfHeader ≤ ptr ∧ ptr + paramDataStartOffset ≤ msg.pos :=
    placed.resolve_left (not_le.mpr inside)
  simp only [mem_getParamFound_iff]
  constructor
  · intro copies buffer room
    by_contra negative
    have fits : msg.nextParam ptr ≤ msg.pos := by
      have next : msg.nextParam ptr = ptr + paramDataStartOffset + msg.paramLength ptr := rfl
      omega
    exact negative (copies _ ⟨⟨buffer, room, fits⟩, rfl⟩).1.1
  · rintro nonneg access ⟨⟨buffer, room, fits⟩, rfl⟩
    refine ⟨⟨nonneg buffer room, room⟩, fun i above below => ?_⟩
    have next : msg.nextParam ptr = ptr + paramDataStartOffset + msg.paramLength ptr := rfl
    simp only [endOfHeader, paramDataStartOffset] at low above below next ⊢
    omega

theorem getParam_inBounds_iff (length : Int) (data : Bool) :
    (∀ fuel, ∀ access ∈ (getParamAccesses fuel msg id length data).1, msg.InBounds length access) ↔
      msg.PlacedAll id ∧ (data = true → msg.LengthTaken id length) := by
  refine (paramLoop_inBounds_iff (getParamFound_settles data)).trans (and_congr_right fun placed => ?_)
  constructor
  · intro copies buffer n stays inside wanted
    exact (getParamFound_inBounds_iff (placed n stays) inside).mp (copies n stays inside wanted) buffer
  · intro taken n stays inside wanted
    exact (getParamFound_inBounds_iff (placed n stays) inside).mpr fun buffer =>
      taken buffer n stays inside wanted

/-- The walk stays inside the message exactly if its parameters are placed well, and with a buffer
for the data the one with the id has no negative length. -/
theorem walk_inBounds (msg : CVNNetMsg) (id length : Int) (data : Bool) :
    ((∀ fuel, ∀ access ∈ (getParamAccesses fuel msg id length data).1, msg.InBounds length access) ↔
      msg.PlacedAll id ∧ (data = true → msg.LengthTaken id length)) ∧
    ((∀ fuel, ∀ access ∈ (getDataParamPtr fuel msg id).1, msg.InBounds length access) ↔ msg.PlacedAll id) := by
  refine ⟨getParam_inBounds_iff length data, ?_⟩
  refine (paramLoop_inBounds_iff dataParamFound_settles).trans (and_iff_left ?_)
  intro n _ _ _ access data
  rw [dataParamFound_fst] at data
  cases data

theorem walk_outOfBounds :
    (∃ access ∈ (getParamAccesses 1 (ofBody [1, 0, 255, 255, 255, 255]) 1 8 true).1,
      ¬ (ofBody [1, 0, 255, 255, 255, 255]).InBounds 8 access) ∧
    ∃ access ∈ (getDataParamPtr 1 (ofBody [1]) 2).1, ¬ (ofBody [1]).InBounds 8 access := by
  -- A copy of -1 bytes, and a length that is read behind the end of the message.
  constructor
  · refine ⟨.copy 28 (-1), by decide, fun inBounds => ?_⟩
    exact absurd inBounds.1.1 (by decide)
  · refine ⟨.read 24 4, by decide, fun inBounds => ?_⟩
    exact absurd (inBounds 24 (by decide) (by decide)).2 (by decide)

end CVNNetMsg

end Foolject.VNClib
