import Mathlib.Logic.Function.Basic
import Foolject.Lib.MultiString

/-! The entries that `CNTService` keeps in the registry for the event log.

Each service has a key of its own below the key of the application log, and its name stands in
the multi-string "Sources" of that key. The two functions edit the bytes of the multi-string in
buffers of the size that the registry gives. `none` is an access outside of a buffer, or through
the null pointer of a buffer that there is no memory for.
-/

set_option autoImplicit false

namespace Foolject.Reload
open MultiString

/-- The loop of `RegisterApplicationLog` over the strings from `p` on: where it ends. -/
def knownSource (name : List UInt8) : Nat → List UInt8 → Nat → Option Nat
  | 0, _, _ => none
  | fuel + 1, memory, p => (cut memory).bind fun found =>
    if found.1 = [] ∨ found.1 = name then some p
    else knownSource name fuel found.2 (p + found.1.length + 1)

def addSource (serviceName : Text) (value : List UInt8) : Option (List UInt8) :=
  let buffer := value ++ List.replicate (serviceName.bytes.length + 1) 0
  (knownSource serviceName.bytes (buffer.length + 1) buffer 0).bind fun p =>
    if buffer.getD p 0 = 0 then copyTo buffer p serviceName.bytes else some value

structure OtherSources where
  newBuffer : List UInt8
  pNew : Nat
  needSave : Bool
  size : Nat
  deriving DecidableEq

/-- The loop of `DeregisterApplicationLog`. -/
def copyOthers (name : List UInt8) : Nat → List UInt8 → OtherSources → Option OtherSources
  | 0, _, _ => none
  | fuel + 1, memory, others => (cut memory).bind fun found =>
    if found.1 = [] then some others
    else if found.1 = name then
      copyOthers name fuel found.2 { others with needSave := true, size := others.size - (found.1.length + 1) }
    else (copyTo others.newBuffer others.pNew found.1).bind fun copied =>
      copyOthers name fuel found.2 { others with newBuffer := copied, pNew := others.pNew + found.1.length + 1 }

def removeSource (serviceName : Text) (value : List UInt8) : Option (List UInt8) :=
  (copyOthers serviceName.bytes (value.length + 1) value
    ⟨List.replicate value.length 0, 0, false, value.length⟩).map fun others =>
      if others.needSave = true then others.newBuffer.take others.size else value

/-- The first string goes into the second buffer, or has to be left out of it. -/
def removeSourceNowhere (value : List UInt8) : Option (List UInt8) :=
  (cut value).bind fun found => if found.1 = [] then some value else none

structure ServiceKey where
  eventMessageFile : Option (List UInt8)
  typesSupported : Option Nat
  deriving DecidableEq

structure ApplicationLog where
  keys : Text → Option ServiceKey
  sources : Option (List UInt8)

/-- The length of `gszAppRegKey`. -/
def appRegKeyLength : Nat := 55

def sizeofSzKey : Nat := 256

/-- Which of the calls to the registry and of `GlobalAlloc` succeed. -/
structure RegAccess where
  /-- `RegCreateKey` or `RegDeleteKey`, of the key of the service. -/
  ownKey : Bool
  /-- `RegSetValueEx`, of the values of that key. -/
  eventMessageFile : Bool
  typesSupported : Bool
  /-- `RegOpenKeyEx`. -/
  logKey : Bool
  /-- `RegQueryValueEx`, for the size of "Sources". -/
  size : Bool
  buffer : Bool
  newBuffer : Bool
  /-- `RegQueryValueEx`, for the value. -/
  value : Bool
  /-- `RegSetValueEx`. -/
  store : Bool
  deriving DecidableEq, Repr

def RegAccess.Edits (access : RegAccess) : Prop :=
  access.logKey = true ∧ access.size = true ∧ access.value = true ∧ access.store = true

instance (access : RegAccess) : Decidable access.Edits := inferInstanceAs (Decidable (_ ∧ _))

def RegAccess.Provides (access : RegAccess) (serviceName : Text) : Prop :=
  appRegKeyLength + serviceName.bytes.length < sizeofSzKey ∧ access.buffer = true ∧ access.newBuffer = true

namespace ApplicationLog

def editSources (access : RegAccess) (edit : List UInt8 → Option (List UInt8)) (log : ApplicationLog) :
    Option ApplicationLog :=
  match log.sources with
  | none => some log
  | some value =>
    if access.logKey = true ∧ access.size = true ∧ access.value = true then
      if access.buffer = true then
        (edit value).map fun stored => if access.store = true then { log with sources := some stored } else log
      else none
    else some log

/-- `RegCreateKey` opens a key that there is already. -/
def createKey (serviceName : Text) (path : List UInt8) (types : Nat) (access : RegAccess) (log : ApplicationLog) :
    ApplicationLog :=
  if access.ownKey = true then
    let key := (log.keys serviceName).getD ⟨none, none⟩
    let key := if access.eventMessageFile = true then { key with eventMessageFile := some path } else key
    let key := if access.typesSupported = true then { key with typesSupported := some types } else key
    { log with keys := Function.update log.keys serviceName (some key) }
  else log

def register (serviceName : Text) (path : List UInt8) (types : Nat) (access : RegAccess) (log : ApplicationLog) :
    Option ApplicationLog :=
  if appRegKeyLength + serviceName.bytes.length < sizeofSzKey then
    (log.createKey serviceName path types access).editSources access (addSource serviceName)
  else none

def deleteKey (serviceName : Text) (access : RegAccess) (log : ApplicationLog) : ApplicationLog :=
  if access.ownKey = true then { log with keys := Function.update log.keys serviceName none } else log

def deregister (serviceName : Text) (access : RegAccess) (log : ApplicationLog) : Option ApplicationLog :=
  if appRegKeyLength + serviceName.bytes.length < sizeofSzKey then
    (log.deleteKey serviceName access).editSources access fun value =>
      if access.newBuffer = true then removeSource serviceName value else removeSourceNowhere value
  else none

end ApplicationLog

def without (name : Text) (texts : List Text) : List Text := texts.filter (· ≠ name)

def withName (name : Text) (texts : List Text) : List Text := if name ∈ texts then texts else texts ++ [name]

/-! ## The walk over the strings -/

variable {name : Text} {texts : List Text} {rest buffer : List UInt8} {fuel p : Nat}

theorem mem_without {other : Text} : other ∈ without name texts ↔ other ∈ texts ∧ other ≠ name := by
  unfold without
  rw [List.mem_filter, decide_eq_true_iff]

theorem mem_withName {other : Text} : other ∈ withName name texts ↔ other ∈ texts ∨ other = name := by
  unfold withName
  by_cases known : name ∈ texts
  · rw [if_pos known]
    exact ⟨Or.inl, fun either => either.elim id fun same => same ▸ known⟩
  · rw [if_neg known, List.mem_append, List.mem_singleton]

theorem nodup_without (distinct : texts.Nodup) : (without name texts).Nodup := distinct.filter _

theorem nodup_withName (distinct : texts.Nodup) : (withName name texts).Nodup := by
  unfold withName
  by_cases known : name ∈ texts
  · rw [if_pos known]
    exact distinct
  · rw [if_neg known]
    exact List.nodup_append.mpr ⟨distinct, List.pairwise_singleton _ name, fun other inside last isLast same =>
      known (List.mem_singleton.mp isLast ▸ same ▸ inside)⟩

theorem without_cons_self {text : Text} (same : text = name) : without name (text :: texts) = without name texts :=
  List.filter_cons_of_neg (by simp [same])

theorem without_cons_ne {text : Text} (other : text ≠ name) :
    without name (text :: texts) = text :: without name texts :=
  List.filter_cons_of_pos (decide_eq_true other)

theorem knownSource_known (known : name ∈ texts) (enough : texts.length < fuel)
    (here : buffer.drop p = encode texts ++ rest) :
    ∃ q tail, knownSource name.bytes fuel (encode texts ++ rest) p = some q ∧
      buffer.drop q = name.bytes ++ 0 :: tail := by
  induction texts generalizing fuel p with
  | nil => cases known
  | cons text texts ih =>
    obtain ⟨fuel, rfl⟩ := Nat.exists_eq_succ_of_ne_zero (Nat.ne_zero_of_lt enough)
    rw [knownSource, cut_encode_cons, Option.bind_some]
    by_cases same : text.bytes = name.bytes
    · rw [if_pos (Or.inr same)]
      refine ⟨p, encode texts ++ rest, rfl, ?_⟩
      rw [here, encode_cons, same, List.append_assoc, List.cons_append]
    · rw [if_neg (not_or.mpr ⟨text.nonempty, same⟩)]
      have later : name ∈ texts := by
        rcases List.mem_cons.mp known with first | later
        · exact absurd (congrArg Text.bytes first.symm) same
        · exact later
      refine ih later (Nat.lt_of_succ_lt_succ enough) ?_
      rw [Nat.add_assoc, ← List.drop_drop, here]
      exact drop_encode_cons text texts rest

theorem knownSource_unknown (unknown : name ∉ texts) (enough : texts.length < fuel) :
    knownSource name.bytes fuel (encode texts ++ rest) p = some (p + (body texts).length) := by
  induction texts generalizing fuel p with
  | nil =>
    obtain ⟨fuel, rfl⟩ := Nat.exists_eq_succ_of_ne_zero (Nat.ne_zero_of_lt enough)
    rw [knownSource, cut_encode_nil, Option.bind_some, if_pos (Or.inl rfl)]
    rfl
  | cons text texts ih =>
    obtain ⟨fuel, rfl⟩ := Nat.exists_eq_succ_of_ne_zero (Nat.ne_zero_of_lt enough)
    have other : text.bytes ≠ name.bytes := by
      intro same
      exact unknown (List.mem_cons.mpr (Or.inl (Text.ext same.symm)))
    rw [knownSource, cut_encode_cons, Option.bind_some, if_neg (not_or.mpr ⟨text.nonempty, other⟩)]
    rw [ih (fun later => unknown (List.mem_cons_of_mem _ later)) (Nat.lt_of_succ_lt_succ enough), body_cons,
      List.length_append, List.length_cons]
    congr 1
    dsimp only
    omega

/-- The strings other than the name are copied one behind the other, and the size shrinks by the copies of the name. -/
theorem copyOthers_encode {others : OtherSources} {written : List UInt8} {space : Nat}
    (enough : texts.length < fuel) (buffer : others.newBuffer = written ++ List.replicate space 0)
    (place : others.pNew = written.length) (fits : (body texts).length ≤ space) :
    copyOthers name.bytes fuel (encode texts ++ rest) others = some
      ⟨written ++ body (without name texts) ++ List.replicate (space - (body (without name texts)).length) 0,
        (written ++ body (without name texts)).length, others.needSave || decide (name ∈ texts),
        others.size - texts.count name * (name.bytes.length + 1)⟩ := by
  induction texts generalizing fuel others written space with
  | nil =>
    obtain ⟨fuel, rfl⟩ := Nat.exists_eq_succ_of_ne_zero (Nat.ne_zero_of_lt enough)
    rw [copyOthers, cut_encode_nil, Option.bind_some, if_pos rfl]
    rw [without, List.filter_nil, body_nil, List.append_nil, List.length_nil, Nat.sub_zero, ← buffer, ← place,
      decide_eq_false List.not_mem_nil, Bool.or_false, List.count_nil, Nat.zero_mul, Nat.sub_zero]
  | cons text texts ih =>
    obtain ⟨fuel, rfl⟩ := Nat.exists_eq_succ_of_ne_zero (Nat.ne_zero_of_lt enough)
    have enough := Nat.lt_of_succ_lt_succ enough
    rw [copyOthers, cut_encode_cons, Option.bind_some, if_neg text.nonempty]
    dsimp only
    rw [length_body_cons] at fits
    by_cases same : text = name
    · have later := @ih fuel ⟨others.newBuffer, others.pNew, true, others.size - (text.bytes.length + 1)⟩ written space
        enough buffer place (by omega)
      rw [if_pos (congrArg Text.bytes same), later, without_cons_self same, same, List.count_cons_self,
        decide_eq_true List.mem_cons_self]
      simp only [Bool.true_or, Bool.or_true]
      rw [Nat.sub_sub, Nat.succ_mul, Nat.add_comm]
    · have other : text.bytes ≠ name.bytes := fun bytes => same (Text.ext bytes)
      have inside : name ∈ text :: texts ↔ name ∈ texts := by
        rw [List.mem_cons]
        exact or_iff_right (Ne.symm same)
      have next : others.pNew + text.bytes.length + 1 = (written ++ (text.bytes ++ [0])).length := by
        rw [List.length_append, List.length_append, List.length_singleton, place, Nat.add_assoc]
      have joined : written ++ (text.bytes ++ [0]) ++ body (without name texts) =
          written ++ body (text :: without name texts) := by
        rw [body_cons, List.append_assoc, List.append_assoc, List.singleton_append]
      have later := @ih fuel ⟨written ++ (text.bytes ++ [0]) ++ List.replicate (space - (text.bytes.length + 1)) 0,
        others.pNew + text.bytes.length + 1, others.needSave, others.size⟩ _ _ enough rfl next (by omega)
      rw [if_neg other, buffer, place, copyTo_zeros written (by omega), Option.bind_some, ← place, later, joined,
        without_cons_ne same, List.count_cons_of_ne same, decide_eq_decide.mpr inside, Nat.sub_sub,
        length_body_cons]

/-- Only a memory that starts with a complete multi-string is walked to its end. -/
theorem complete_of_copyOthers {memory : List UInt8} {others result : OtherSources}
    (ends : copyOthers name.bytes fuel memory others = some result) : Complete memory := by
  induction fuel generalizing memory others with
  | zero => cases ends
  | succ fuel ih =>
    obtain ⟨⟨string, later⟩, found, ends⟩ := Option.bind_eq_some_iff.mp ends
    by_cases empty : string = []
    · rw [empty] at found
      exact complete_of_cut_nil found
    · rw [if_neg empty] at ends
      refine complete_of_cut found empty ?_
      by_cases same : string = name.bytes
      · rw [if_pos same] at ends
        exact ih ends
      · rw [if_neg same] at ends
        obtain ⟨copied, -, ends⟩ := Option.bind_eq_some_iff.mp ends
        exact ih ends

/-! ## The two edits -/

theorem length_body_without (name : Text) (texts : List Text) : (body texts).length =
    (body (without name texts)).length + texts.count name * (name.bytes.length + 1) := by
  induction texts with
  | nil => simp [without]
  | cons text texts ih =>
    by_cases same : text = name
    · rw [without_cons_self same, same, List.count_cons_self, length_body_cons, ih, Nat.succ_mul]
      omega
    · rw [without_cons_ne same, List.count_cons_of_ne same, length_body_cons, length_body_cons, ih]
      omega

/-- What is removed from a value that starts with a complete multi-string. -/
theorem removeSource_encode (name : Text) (texts : List Text) (rest : List UInt8) :
    removeSource name (encode texts ++ rest) = some
      (if name ∈ texts then encode (without name texts) ++ List.replicate rest.length 0 else encode texts ++ rest) := by
  have length : (encode texts ++ rest).length = (body texts).length + 1 + rest.length := by
    rw [encode, List.length_append, List.length_append, List.length_singleton]
  have enough : texts.length < (encode texts ++ rest).length + 1 := by
    have strings := length_lt_length_encode texts
    rw [List.length_append]
    omega
  have kept := length_body_without name texts
  have copied := @copyOthers_encode name texts rest _
    ⟨List.replicate (encode texts ++ rest).length 0, 0, false, (encode texts ++ rest).length⟩ [] _ enough rfl rfl
    (by omega)
  rw [removeSource, copied, Option.map_some]
  by_cases known : name ∈ texts
  · rw [if_pos known, if_pos (by rw [Bool.false_or, decide_eq_true known])]
    dsimp only
    have size : (encode texts ++ rest).length - texts.count name * (name.bytes.length + 1) =
        (body (without name texts)).length + (rest.length + 1) := by omega
    have room : rest.length + 1 ≤ (encode texts ++ rest).length - (body (without name texts)).length := by omega
    rw [List.nil_append, size, List.take_length_add_append, List.take_replicate, Nat.min_eq_left room, encode,
      List.append_assoc, List.replicate_succ, List.singleton_append]
  · rw [if_neg known, if_neg (by rw [Bool.false_or, decide_eq_false known]; exact Bool.false_ne_true)]

theorem removeSource_whole (name : Text) (texts : List Text) :
    removeSource name (encode texts) = some (encode (without name texts)) := by
  have removed := removeSource_encode name texts []
  rw [List.append_nil, List.length_nil, List.replicate_zero, List.append_nil] at removed
  rw [removed]
  by_cases known : name ∈ texts
  · rw [if_pos known]
  · -- Nothing is taken out.
    have all : without name texts = texts := by
      refine List.filter_eq_self.mpr fun other inside => decide_eq_true ?_
      rintro rfl
      exact known inside
    rw [if_neg known, all]

/-- `DeregisterApplicationLog` stays in its buffers exactly if the value starts with a complete multi-string. -/
theorem removeSource_isSome_iff (name : Text) (value : List UInt8) :
    (removeSource name value).isSome = true ↔ Complete value := by
  constructor
  · intro ends
    rw [removeSource, Option.isSome_map] at ends
    obtain ⟨result, ends⟩ := Option.isSome_iff_exists.mp ends
    exact complete_of_copyOthers ends
  · rintro ⟨texts, rest, rfl⟩
    rw [removeSource_encode]
    rfl

theorem addSource_buffer {value : List UInt8}
    (strings : value ++ List.replicate (name.bytes.length + 1) 0 = encode texts ++ rest) :
    addSource name value = if name ∈ texts then some value else
      copyTo (encode texts ++ rest) (body texts).length name.bytes := by
  -- What is added to the strings of a buffer: the name is stored over the last terminator.
  have enough : texts.length < (encode texts ++ rest).length + 1 := by
    have strings := length_lt_length_encode texts
    rw [List.length_append]
    omega
  unfold addSource
  dsimp only
  rw [strings]
  by_cases known : name ∈ texts
  · obtain ⟨q, tail, ends, found⟩ := @knownSource_known name texts rest (encode texts ++ rest) _ 0 known enough rfl
    have first : (encode texts ++ rest).getD q 0 ≠ 0 := by
      obtain ⟨c, later, bytes⟩ := List.exists_cons_of_ne_nil name.nonempty
      rw [bytes, List.cons_append] at found
      rw [getD_of_drop found]
      intro zero
      exact name.noNul (by rw [bytes, zero]; exact List.mem_cons_self)
    rw [ends, Option.bind_some, if_neg first, if_pos known]
  · have first : (encode texts ++ rest).getD (body texts).length 0 = 0 := by
      refine @getD_of_drop _ rest _ _ ?_
      rw [encode, List.append_assoc, List.drop_left, List.singleton_append]
    rw [knownSource_unknown known enough, Option.bind_some, Nat.zero_add, if_pos first, if_neg known]

theorem addSource_encode (name : Text) (texts : List Text) :
    addSource name (encode texts) = some (encode (withName name texts)) := by
  rw [addSource_buffer rfl, withName]
  by_cases known : name ∈ texts
  · rw [if_pos known, if_pos known]
  · have zeros : encode texts ++ List.replicate (name.bytes.length + 1) 0 =
        body texts ++ List.replicate (name.bytes.length + 2) 0 := by
      rw [encode, List.append_assoc, List.singleton_append]
      rfl
    rw [if_neg known, if_neg known, zeros, copyTo_zeros (body texts) (Nat.le_succ _), Nat.succ_sub (Nat.le_refl _),
      Nat.sub_self, encode, body_append, body_cons, body_nil]
    rfl

/-! ## Values that are multi-strings -/

namespace ApplicationLog

variable {log next : ApplicationLog} {access : RegAccess} {edit : List UInt8 → Option (List UInt8)} {after : List Text}

/-- An edit that returns, of a value that is a multi-string. -/
theorem editSources_encode (holds : log.sources = some (encode texts))
    (edits : ∀ stored, edit (encode texts) = some stored → stored = encode after)
    (returns : log.editSources access edit = some next) :
    next.sources = some (encode (if access.Edits then after else texts)) := by
  unfold editSources at returns
  rw [holds] at returns
  dsimp only at returns
  by_cases read : access.logKey = true ∧ access.size = true ∧ access.value = true
  · by_cases memory : access.buffer = true
    · rw [if_pos read, if_pos memory] at returns
      obtain ⟨stored, edited, rfl⟩ := Option.map_eq_some_iff.mp returns
      cases edits stored edited
      by_cases set : access.store = true
      · rw [if_pos set, if_pos ⟨read.1, read.2.1, read.2.2, set⟩]
      · rw [if_neg set, if_neg fun all => set all.2.2.2]
        exact holds
    · rw [if_pos read, if_neg memory] at returns
      cases returns
  · rw [if_neg read] at returns
    cases returns
    rw [if_neg fun all => read ⟨all.1, all.2.1, all.2.2.1⟩]
    exact holds

theorem editSources_returns (memory : access.buffer = true) (holds : log.sources = some (encode texts))
    {stored : List UInt8} (edits : edit (encode texts) = some stored) :
    ∃ next, log.editSources access edit = some next := by
  unfold editSources
  rw [holds]
  dsimp only
  by_cases read : access.logKey = true ∧ access.size = true ∧ access.value = true
  · rw [if_pos read, if_pos memory, edits]
    exact ⟨_, rfl⟩
  · rw [if_neg read]
    exact ⟨log, rfl⟩

theorem createKey_sources (path : List UInt8) (types : Nat) :
    (log.createKey name path types access).sources = log.sources := by
  unfold createKey
  split <;> rfl

theorem deleteKey_sources : (log.deleteKey name access).sources = log.sources := by
  unfold deleteKey
  split <;> rfl

/-- Without a second buffer only the empty multi-string is walked to its end. -/
theorem removeSourceNowhere_encode {stored : List UInt8} (ends : removeSourceNowhere (encode texts) = some stored) :
    stored = encode (without name texts) := by
  cases texts with
  | nil =>
    have found := cut_encode_nil []
    rw [List.append_nil] at found
    rw [removeSourceNowhere, found, Option.bind_some, if_pos rfl] at ends
    exact (Option.some.inj ends).symm
  | cons text texts =>
    have found := cut_encode_cons text texts []
    rw [List.append_nil] at found
    rw [removeSourceNowhere, found, Option.bind_some, if_neg text.nonempty] at ends
    cases ends

section

variable {path : List UInt8} {types : Nat}

theorem register_encode (holds : log.sources = some (encode texts))
    (returns : log.register name path types access = some next) :
    next.sources = some (encode (if access.Edits then withName name texts else texts)) := by
  unfold register at returns
  split at returns
  · refine editSources_encode ((createKey_sources path types).trans holds) ?_ returns
    intro stored edited
    rw [addSource_encode] at edited
    exact (Option.some.inj edited).symm
  · cases returns

theorem register_returns (path : List UInt8) (types : Nat) (provides : access.Provides name)
    (holds : log.sources = some (encode texts)) : ∃ next, log.register name path types access = some next := by
  obtain ⟨short, memory, -⟩ := provides
  rw [register, if_pos short]
  exact editSources_returns memory ((createKey_sources path types).trans holds) (addSource_encode name texts)

end

theorem deregister_encode (holds : log.sources = some (encode texts))
    (returns : log.deregister name access = some next) :
    next.sources = some (encode (if access.Edits then without name texts else texts)) := by
  unfold deregister at returns
  split at returns
  · refine editSources_encode (deleteKey_sources.trans holds) ?_ returns
    intro stored edited
    by_cases second : access.newBuffer = true
    · rw [if_pos second, removeSource_whole] at edited
      exact (Option.some.inj edited).symm
    · rw [if_neg second] at edited
      exact removeSourceNowhere_encode edited
  · cases returns

theorem deregister_returns (provides : access.Provides name) (holds : log.sources = some (encode texts)) :
    ∃ next, log.deregister name access = some next := by
  obtain ⟨short, memory, second⟩ := provides
  rw [deregister, if_pos short]
  refine @editSources_returns _ _ _ _ memory (deleteKey_sources.trans holds) (encode (without name texts)) ?_
  rw [if_pos second]
  exact removeSource_whole name texts

end ApplicationLog

/-! ## Values that are not -/

/-- The last of the strings has no terminator, and neither it nor one before it is the name. -/
def Unterminated (name : Text) (value : List UInt8) : Prop :=
  ∃ texts last, value = body texts ++ last.bytes ∧ name ∉ texts ++ [last]

/-- The strings of the buffer, if the value is not terminated. -/
theorem buffer_unterminated (texts : List Text) (last : Text) (count : Nat) :
    body texts ++ last.bytes ++ List.replicate (count + 2) 0 = encode (texts ++ [last]) ++ List.replicate count 0 := by
  rw [encode, body_append, body_cons, body_nil, List.replicate_succ, List.replicate_succ]
  simp only [List.append_assoc, List.cons_append, List.nil_append]

/-- `RegisterApplicationLog` stays in its buffer unless the value lacks its terminators. -/
theorem addSource_isSome_iff (name : Text) (value : List UInt8) :
    (addSource name value).isSome = true ↔ ¬ Unterminated name value := by
  obtain ⟨count, length⟩ := Nat.exists_eq_succ_of_ne_zero (mt List.length_eq_zero_iff.mp name.nonempty)
  obtain ⟨texts, rest, strings⟩ := complete_zeros value count
  have buffer : value ++ List.replicate (name.bytes.length + 1) 0 = encode texts ++ rest := by
    rw [length]
    exact strings
  -- The copy needs the room that the strings of the value leave.
  have room : (copyTo (encode texts ++ rest) (body texts).length name.bytes).isSome = true ↔
      (body texts).length ≤ value.length := by
    rw [copyTo_isSome_iff, ← buffer, List.length_append, List.length_replicate]
    omega
  rw [addSource_buffer buffer]
  constructor
  · rintro ends ⟨before, last, rfl, unknown⟩
    rw [buffer_unterminated] at strings
    cases encode_unique strings
    rw [if_neg unknown, room, body_append, List.length_append, List.length_append, length_body_cons] at ends
    omega
  · intro terminated
    by_cases known : name ∈ texts
    · rw [if_pos known]
      rfl
    · rw [if_neg known, room]
      by_contra longer
      rcases List.eq_nil_or_concat' texts with rfl | ⟨before, last, rfl⟩
      · exact longer (Nat.zero_le _)
      · refine terminated ⟨before, last, ?_, known⟩
        rw [body_append, List.length_append, length_body_cons, body_nil, List.length_nil] at longer
        have split : encode (before ++ [last]) ++ rest = body before ++ last.bytes ++ 0 :: 0 :: rest := by
          rw [encode, body_append, body_cons, body_nil]
          simp only [List.append_assoc, List.cons_append, List.nil_append]
        refine eq_of_zeros (strings.trans split) ?_
        rw [List.length_append]
        omega

/-- For every value that the registry may hold, this is exactly when the two edits stay in their buffers. -/
theorem edits_inside_iff (name : Text) (value : List UInt8) :
    ((addSource name value).isSome = true ↔ ¬ Unterminated name value) ∧
      ((removeSource name value).isSome = true ↔ Complete value) :=
  ⟨addSource_isSome_iff name value, removeSource_isSome_iff name value⟩

end Foolject.Reload
