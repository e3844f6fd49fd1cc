import Mathlib.Data.List.DropRight
import Foolject.Lib.CString

/-! The lookup of an element in a string of elements `name=value`, as `foolbear.cpp` does it.

The function writes terminators into the string that it searches, and takes them back. Strings are lists of the
characters before the terminator; the string that is searched is an array with its terminator in it.
-/

set_option autoImplicit false

namespace Foolject.Foolbear

/-! ## The code -/

/-- `toupper` in the C locale. -/
def upper (c : UInt8) : UInt8 := if 97 ≤ c ∧ c ≤ 122 then c - 32 else c

def strupr (str : List UInt8) : List UInt8 := str.map upper

def strltrim (str : List UInt8) : List UInt8 := str.dropWhile (· ≤ 32)

def strrtrim (str : List UInt8) : List UInt8 := str.rdropWhile (· ≤ 32)

def strtrim (str : List UInt8) : List UInt8 := strrtrim (strltrim str)

def equals : UInt8 := 61

@[simp] def sizeofName : Nat := 128

/-- What a search returns, what is in `value` afterwards unless it is left as it was, and the string that was
searched. -/
structure ElementResult where
  found : Bool
  value : Option (List UInt8)
  cbuf : List UInt8
  deriving DecidableEq, Repr

def stringAt (cbuf : List UInt8) (index : Nat) : List UInt8 := untilNul (cbuf.drop index)

/-- `ep`: the first '=' from here on. -/
def findEquals (cbuf : List UInt8) (buf : Nat) : Option Nat :=
  ((stringAt cbuf buf).findIdx? (· = equals)).map (buf + ·)

/-- `dp`: the end of the value. -/
def valueEnd (cbuf : List UInt8) (delimiter : UInt8) (ep : Nat) : Nat :=
  ep + 1 + ((stringAt cbuf (ep + 1)).takeWhile (· ≠ delimiter)).length

/-- The string up to `last` while there is a terminator there, and the array when `restored` is back in its place. -/
def cutAt (cbuf : List UInt8) (start last : Nat) (restored : UInt8) : List UInt8 × List UInt8 :=
  (stringAt (cbuf.set last 0) start, (cbuf.set last 0).set last restored)

/-- The loop over the elements. A name that does not fit into its array makes the result undefined. -/
def elementLoop (KEY : List UInt8) (delimiter : UInt8) : Nat → List UInt8 → Nat → Option ElementResult
  | 0, _, _ => none
  | fuel + 1, cbuf, buf =>
    if stringAt cbuf buf = [] then some ⟨false, some [], cbuf⟩
    else
      match findEquals cbuf buf with
      | none => some ⟨false, some [], cbuf⟩
      | some ep =>
        let dp := valueEnd cbuf delimiter ep
        let (NAME, cbuf) := cutAt cbuf buf ep equals
        if sizeofName ≤ NAME.length then none
        else if KEY = strupr (strtrim NAME) then
          let (value, cbuf) := cutAt cbuf (ep + 1) dp (cbuf.getD dp 0)
          some ⟨true, some (strtrim value), cbuf⟩
        else elementLoop KEY delimiter fuel cbuf (if cbuf.getD dp 0 ≠ 0 then dp + 1 else dp)

/-- `cbuf` and `key` are not null, and `value` is an array of its own with room for the value. -/
def getElementString (fuel : Nat) (key cbuf : List UInt8) (delimiter : UInt8) : Option ElementResult :=
  let buf := ((stringAt cbuf 0).takeWhile (· = delimiter)).length
  if stringAt cbuf buf = [] then some ⟨false, none, cbuf⟩
  else if sizeofName ≤ key.length then none
  else elementLoop (strupr key) delimiter fuel cbuf buf

/-! ## Strings in an array -/

theorem untilNul_append {front : List UInt8} (noNul : 0 ∉ front) (tail : List UInt8) :
    untilNul (front ++ tail) = front ++ untilNul tail :=
  List.takeWhile_append_of_pos fun _ member => decide_eq_true fun nul => noNul (nul ▸ member)

theorem untilNul_nul (tail : List UInt8) : untilNul (0 :: tail) = [] := rfl

theorem stringAt_append (before tail : List UInt8) : stringAt (before ++ tail) before.length = untilNul tail := by
  rw [stringAt, List.drop_left]

theorem cutAt_eq {before middle : List UInt8} (noNul : 0 ∉ middle) (stop : UInt8) (tail : List UInt8) :
    cutAt (before ++ (middle ++ stop :: tail)) before.length (before.length + middle.length) stop =
      (middle, before ++ (middle ++ stop :: tail)) := by
  have written (c : UInt8) (last : UInt8) : (before ++ (middle ++ last :: tail)).set
      (before.length + middle.length) c = before ++ (middle ++ c :: tail) := by
    rw [List.set_append_right _ _ (Nat.le_add_right _ _), Nat.add_sub_cancel_left,
      List.set_append_right _ _ (le_refl _), Nat.sub_self, List.set_cons_zero]
  unfold cutAt
  rw [written, written, stringAt_append, untilNul_append noNul, untilNul_nul, List.append_nil]

/-! ## One turn of the loop -/

structure Segment (delimiter : UInt8) where
  label : List UInt8
  value : List UInt8
  noEquals : equals ∉ label
  valueFree : delimiter ∉ value

variable {delimiter : UInt8} {KEY key : List UInt8} {fuel : Nat}

theorem findIdx_equals {text : List UInt8} (noEquals : equals ∉ text) : text.findIdx? (· = equals) = none := by
  refine List.findIdx?_eq_none_iff.mpr fun c member => decide_eq_false ?_
  rintro rfl
  exact noEquals member

theorem elementLoop_over {cbuf : List UInt8} {buf : Nat} (noEquals : equals ∉ stringAt cbuf buf) :
    elementLoop KEY delimiter (fuel + 1) cbuf buf = some ⟨false, some [], cbuf⟩ := by
  have missing : findEquals cbuf buf = none := by
    unfold findEquals
    rw [findIdx_equals noEquals]
    rfl
  rw [elementLoop, missing]
  split
  · rfl
  · rfl

section Turn
variable {before tail : List UInt8} {stop : UInt8}

theorem findEquals_eq {label : List UInt8} (noEquals : equals ∉ label) (noNul : 0 ∉ label) :
    findEquals (before ++ (label ++ equals :: tail)) before.length = some (before.length + label.length) := by
  have cons : untilNul (equals :: tail) = equals :: untilNul tail := rfl
  unfold findEquals
  rw [stringAt_append, untilNul_append noNul, cons, List.findIdx?_append, findIdx_equals noEquals,
    List.findIdx?_cons, if_pos (decide_eq_true rfl), Option.map_some, Option.none_or, Option.map_some, Nat.zero_add]

/-- A value ends at a delimiter, or at the end of the string. -/
theorem valueEnd_eq {value : List UInt8} (ends : stop = 0 ∨ stop = delimiter) (valueFree : delimiter ∉ value)
    (noNul : 0 ∉ value) : valueEnd (before ++ equals :: (value ++ stop :: tail)) delimiter before.length =
      before.length + 1 + value.length := by
  have split_ : before ++ equals :: (value ++ stop :: tail) = (before ++ [equals]) ++ (value ++ stop :: tail) := by
    rw [List.append_assoc, List.singleton_append]
  have size : before.length + 1 = (before ++ [equals]).length := by
    rw [List.length_append, List.length_singleton]
  have free : ∀ c ∈ value, decide (c ≠ delimiter) = true :=
    fun c member => decide_eq_true fun same => valueFree (same ▸ member)
  unfold valueEnd
  rw [split_, size, stringAt_append, untilNul_append noNul, List.takeWhile_append_of_pos free]
  -- Nothing behind the value is part of it.
  have nothing : (untilNul (stop :: tail)).takeWhile (· ≠ delimiter) = [] := by
    rcases ends with rfl | rfl
    · rfl
    · unfold untilNul
      by_cases nul : stop = 0
      · rw [List.takeWhile_cons_of_neg (by simpa using nul)]
        rfl
      · rw [List.takeWhile_cons_of_pos (by simpa using nul), List.takeWhile_cons_of_neg (by simp)]
  rw [nothing, List.append_nil]

theorem behind_segment {before tail cbuf : List UInt8} {segment : Segment delimiter}
    (shape : cbuf = before ++ (segment.label ++ equals :: (segment.value ++ tail))) :
    ∃ done, cbuf = done ++ tail ∧
      done.length = before.length + segment.label.length + 1 + segment.value.length := by
  refine ⟨before ++ (segment.label ++ equals :: segment.value), ?_, ?_⟩
  · rw [shape, List.append_assoc, List.append_assoc, List.cons_append]
  · rw [List.length_append, List.length_append, List.length_cons]
    omega

/-! The parts of a segment, each at the place where the loop looks for it. -/

variable {segment : Segment delimiter} {cbuf : List UInt8}

theorem valueEnd_segment (shape : cbuf = before ++ (segment.label ++ equals :: (segment.value ++ stop :: tail)))
    (ends : stop = 0 ∨ stop = delimiter) (noNul : 0 ∉ segment.value) :
    valueEnd cbuf delimiter (before.length + segment.label.length) =
      before.length + segment.label.length + 1 + segment.value.length := by
  have ended := @valueEnd_eq delimiter (before ++ segment.label) tail stop segment.value ends segment.valueFree noNul
  rwa [List.length_append, List.append_assoc, ← shape] at ended

theorem stop_segment (shape : cbuf = before ++ (segment.label ++ equals :: (segment.value ++ stop :: tail))) :
    cbuf.getD (before.length + segment.label.length + 1 + segment.value.length) 0 = stop := by
  obtain ⟨done, split_, size⟩ := behind_segment shape
  rw [split_, ← size, List.getD_eq_getElem?_getD, List.getElem?_append_right (le_refl _), Nat.sub_self]
  rfl

theorem cutAt_value (shape : cbuf = before ++ (segment.label ++ equals :: (segment.value ++ stop :: tail)))
    (noNul : 0 ∉ segment.value) :
    cutAt cbuf (before.length + segment.label.length + 1)
      (before.length + segment.label.length + 1 + segment.value.length) stop = (segment.value, cbuf) := by
  have ended := @cutAt_eq (before ++ segment.label ++ [equals]) segment.value noNul stop tail
  have regroup : before ++ segment.label ++ [equals] ++ (segment.value ++ stop :: tail) = cbuf := by
    rw [shape, List.append_assoc, List.append_assoc, List.singleton_append]
  rwa [List.length_append, List.length_append, List.length_singleton, regroup] at ended

/-- The loop takes the text up to an '=' for a name, returns the value behind it, or goes on behind that. -/
theorem elementLoop_turn (segment : Segment delimiter) (ends : stop = 0 ∨ stop = delimiter)
    (noNul : 0 ∉ segment.label ∧ 0 ∉ segment.value) {cbuf : List UInt8}
    (shape : cbuf = before ++ (segment.label ++ equals :: (segment.value ++ stop :: tail))) :
    elementLoop KEY delimiter (fuel + 1) cbuf before.length =
      if sizeofName ≤ segment.label.length then none
      else if KEY = strupr (strtrim segment.label) then some ⟨true, some (strtrim segment.value), cbuf⟩
      else elementLoop KEY delimiter fuel cbuf
        (before.length + segment.label.length + 1 + segment.value.length + if stop ≠ 0 then 1 else 0) := by
  have some_ : ¬ stringAt cbuf before.length = [] := by
    have cons : untilNul (equals :: (segment.value ++ stop :: tail)) =
        equals :: untilNul (segment.value ++ stop :: tail) := rfl
    rw [shape, stringAt_append, untilNul_append noNul.1, cons]
    exact List.append_ne_nil_of_right_ne_nil _ (List.cons_ne_nil _ _)
  have found : findEquals cbuf before.length = some (before.length + segment.label.length) := by
    rw [shape, findEquals_eq segment.noEquals noNul.1]
  have name : cutAt cbuf before.length (before.length + segment.label.length) equals = (segment.label, cbuf) := by
    rw [shape]
    exact cutAt_eq noNul.1 equals (segment.value ++ stop :: tail)
  rw [elementLoop, if_neg some_, found]
  simp only [valueEnd_segment shape ends noNul.2, name, stop_segment shape, cutAt_value shape noNul.2]
  by_cases long : sizeofName ≤ segment.label.length
  · rw [if_pos long, if_pos long]
  by_cases same : KEY = strupr (strtrim segment.label)
  · rw [if_neg long, if_neg long, if_pos same, if_pos same]
  · rw [if_neg long, if_neg long, if_neg same, if_neg same]
    by_cases more : stop ≠ 0
    · rw [if_pos more, if_pos more]
    · rw [if_neg more, if_neg more]
      rfl

end Turn

/-! ## The loop over a text of segments -/

/-- What is behind a value: the other segments, each behind a delimiter, and delimiters at the end. -/
def following (trail : Nat) : List (Segment delimiter) → List UInt8
  | [] => List.replicate trail delimiter
  | segment :: rest => delimiter :: (segment.label ++ equals :: (segment.value ++ following trail rest))

def scan (KEY cbuf : List UInt8) : List (Segment delimiter) → Option ElementResult
  | [] => some ⟨false, some [], cbuf⟩
  | segment :: rest =>
    if sizeofName ≤ segment.label.length then none
    else if KEY = strupr (strtrim segment.label) then some ⟨true, some (strtrim segment.value), cbuf⟩
    else scan KEY cbuf rest

/-- The array, split behind the delimiter that ends a segment. -/
theorem behind_delimiter {before tail cbuf : List UInt8} {segment : Segment delimiter}
    (shape : cbuf = before ++ (segment.label ++ equals :: (segment.value ++ delimiter :: tail))) :
    ∃ done, cbuf = done ++ tail ∧
      done.length = before.length + segment.label.length + 1 + segment.value.length + 1 := by
  obtain ⟨done, split_, size⟩ := behind_segment shape
  refine ⟨done ++ [delimiter], ?_, ?_⟩
  · rw [split_, List.append_assoc, List.singleton_append]
  · rw [List.length_append, List.length_singleton, size]

theorem trailing_noEquals (apart : delimiter ≠ equals) (done : List UInt8) (trail : Nat) :
    equals ∉ stringAt (done ++ (List.replicate trail delimiter ++ [0])) done.length := by
  rw [stringAt_append]
  intro member
  rcases List.mem_append.mp (List.takeWhile_subset _ member) with inside | last
  · exact apart (List.eq_of_mem_replicate inside).symm
  · exact absurd (List.mem_singleton.mp last) (by decide)

theorem elementLoop_scan (apart : delimiter ≠ equals) {trail : Nat} {before : List UInt8} {segment : Segment delimiter}
    {rest : List (Segment delimiter)} {cbuf : List UInt8}
    (shape : cbuf = before ++ (segment.label ++ equals :: (segment.value ++ (following trail rest ++ [0]))))
    (noNul : (0 ∉ segment.label ∧ 0 ∉ segment.value) ∧ 0 ∉ following trail rest) (enough : rest.length + 1 < fuel) :
    elementLoop KEY delimiter fuel cbuf before.length = scan KEY cbuf (segment :: rest) := by
  -- The induction is on the segments, with the text that the loop has left behind.
  obtain ⟨turns, rfl⟩ : ∃ turns, fuel = turns + 1 := ⟨fuel - 1, by omega⟩
  induction rest generalizing before segment turns with
  | nil =>
    obtain ⟨left, rfl⟩ : ∃ left, turns = left + 1 := ⟨turns - 1, by rw [List.length_nil] at enough; omega⟩
    cases trail with
    | zero =>
      -- The NUL ends the last value.
      obtain ⟨done, split_, size⟩ := behind_segment shape
      have past := trailing_noEquals apart done 0
      rw [elementLoop_turn segment (.inl rfl) noNul.1 shape, if_neg (not_not.mpr rfl), Nat.add_zero, ← size]
      rw [elementLoop_over (split_ ▸ past)]
      rfl
    | succ trail =>
      -- A delimiter ends it, and the others are searched for an '='.
      have delimited : cbuf = before ++ (segment.label ++ equals ::
          (segment.value ++ delimiter :: (List.replicate trail delimiter ++ [0]))) := shape
      have nonzero : delimiter ≠ 0 := fun nul => noNul.2 (nul ▸ List.mem_cons_self)
      obtain ⟨done, split_, size⟩ := behind_delimiter delimited
      have past := trailing_noEquals apart done trail
      rw [elementLoop_turn segment (.inr rfl) noNul.1 delimited, if_pos nonzero, ← size]
      rw [elementLoop_over (split_ ▸ past)]
      rfl
  | cons next rest ih =>
    have delimited : cbuf = before ++ (segment.label ++ equals :: (segment.value ++ delimiter ::
        (next.label ++ equals :: (next.value ++ following trail rest) ++ [0]))) := shape
    have nonzero : delimiter ≠ 0 := fun nul => noNul.2 (nul ▸ List.mem_cons_self)
    obtain ⟨done, split_, size⟩ := behind_delimiter delimited
    obtain ⟨left, rfl⟩ : ∃ left, turns = left + 1 := ⟨turns - 1, by rw [List.length_cons] at enough; omega⟩
    rw [elementLoop_turn segment (.inr rfl) noNul.1 delimited, if_pos nonzero, ← size, scan]
    have later : cbuf = done ++ (next.label ++ equals :: (next.value ++ (following trail rest ++ [0]))) := by
      rw [split_, List.append_assoc, List.cons_append, List.append_assoc]
    have clean := noNul.2
    simp only [following, List.mem_cons, List.mem_append, not_or] at clean
    rw [ih later ⟨⟨clean.2.1, clean.2.2.2.1⟩, clean.2.2.2.2⟩ left (by rw [List.length_cons] at enough; omega)]

end Foolject.Foolbear
