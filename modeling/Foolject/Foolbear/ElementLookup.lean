import Mathlib.Data.List.Find
import Foolject.Foolbear.Elements

/-! Which element a lookup finds in a list of elements.

The delimiters in front of the first element are skipped. Behind a value one delimiter is skipped, and where more
follow the code takes them for a part of the next name.
-/

set_option autoImplicit false

namespace Foolject.Foolbear

structure Element (delimiter : UInt8) where
  name : List UInt8
  value : List UInt8
  noEquals : equals ∉ name
  nameFree : delimiter ∉ name
  valueFree : delimiter ∉ value
  short : name.length < sizeofName

section List
variable {delimiter : UInt8}

def separated (trail : Nat) : List (Nat × Element delimiter) → List UInt8
  | [] => List.replicate trail delimiter
  | (surplus, element) :: rest => delimiter :: (List.replicate surplus delimiter ++
      (element.name ++ equals :: (element.value ++ separated trail rest)))

/-- The text of a list of elements, with any number of delimiters in front of the first and behind the last. -/
def listing (trail : Nat) : List (Nat × Element delimiter) → List UInt8
  | [] => List.replicate trail delimiter
  | (lead, element) :: rest => List.replicate lead delimiter ++
      (element.name ++ equals :: (element.value ++ separated trail rest))

def skipLead : List (Nat × Element delimiter) → List (Nat × Element delimiter)
  | [] => []
  | (_, element) :: rest => (0, element) :: rest

/-- The name of an element with the surplus of delimiters in front of it. -/
def surplusName (item : Nat × Element delimiter) : List UInt8 :=
  List.replicate item.1 delimiter ++ item.2.name

def IsKey (key name : List UInt8) : Prop := strupr key = strupr (strtrim name)

instance (key name : List UInt8) : Decidable (IsKey key name) := inferInstanceAs (Decidable (_ = _))

def wanted (key : List UInt8) (items : List (Nat × Element delimiter)) : Option (List UInt8) :=
  (items.find? fun item => IsKey key item.2.name).map fun item => strtrim item.2.value

/-- The value of the first element whose name with the surplus is the key. -/
def reached (key : List UInt8) (items : List (Nat × Element delimiter)) : Option (List UInt8) :=
  (items.find? fun item => IsKey key (surplusName item)).map fun item => strtrim item.2.value

/-- Up to there every name fits into its array together with its surplus. -/
def NamesFit (key : List UInt8) : List (Nat × Element delimiter) → Prop
  | [] => True
  | item :: rest => (surplusName item).length < sizeofName ∧ (¬ IsKey key (surplusName item) → NamesFit key rest)

def ElementResult.returned (result : ElementResult) : Option (List UInt8) :=
  if result.found then result.value else none

end List

variable {delimiter : UInt8} {items : List (Nat × Element delimiter)} {key : List UInt8} {fuel trail : Nat}

/-! ## The text as segments -/

def segmentOf (apart : delimiter ≠ equals) (item : Nat × Element delimiter) : Segment delimiter where
  label := surplusName item
  value := item.2.value
  noEquals := by
    intro member
    rcases List.mem_append.mp member with inside | name
    · exact apart (List.eq_of_mem_replicate inside).symm
    · exact item.2.noEquals name
  valueFree := item.2.valueFree

theorem separated_eq (apart : delimiter ≠ equals) (trail : Nat) (items : List (Nat × Element delimiter)) :
    separated trail items = following trail (items.map (segmentOf apart)) := by
  induction items with
  | nil => rfl
  | cons item rest ih =>
    obtain ⟨surplus, element⟩ := item
    rw [separated, ih, List.map_cons, following]
    change _ = delimiter :: ((List.replicate surplus delimiter ++ element.name) ++ equals :: (element.value ++ _))
    rw [List.append_assoc]

theorem takeWhile_lead (apart : delimiter ≠ equals) (lead : Nat) (element : Element delimiter) (tail : List UInt8) :
    (List.replicate lead delimiter ++ (element.name ++ equals :: tail)).takeWhile (· = delimiter) =
      List.replicate lead delimiter := by
  have none_ : (element.name ++ equals :: tail).takeWhile (· = delimiter) = [] := by
    obtain ⟨name, value, -, nameFree, -, -⟩ := element
    cases name with
    | nil => exact List.takeWhile_cons_of_neg (by simpa using apart.symm)
    | cons c name =>
      rw [List.mem_cons, not_or] at nameFree
      exact List.takeWhile_cons_of_neg (by simpa using Ne.symm nameFree.1)
  have all : ∀ c ∈ List.replicate lead delimiter, decide (c = delimiter) = true :=
    fun c member => decide_eq_true (List.eq_of_mem_replicate member)
  rw [List.takeWhile_append_of_pos all, none_, List.append_nil]

theorem getElementString_none (noNul : 0 ∉ listing trail ([] : List (Nat × Element delimiter))) :
    getElementString fuel key (listing trail ([] : List (Nat × Element delimiter)) ++ [0]) delimiter =
      some ⟨false, none, listing trail ([] : List (Nat × Element delimiter)) ++ [0]⟩ := by
  have clean : 0 ∉ List.replicate trail delimiter := noNul
  have all : stringAt (List.replicate trail delimiter ++ [0]) 0 = List.replicate trail delimiter := by
    change untilNul (List.replicate trail delimiter ++ [0]) = _
    rw [untilNul_append clean, untilNul_nul, List.append_nil]
  have skipped : (List.replicate trail delimiter).takeWhile (· = delimiter) = List.replicate trail delimiter :=
    List.takeWhile_eq_self_iff.mpr fun c member => decide_eq_true (List.eq_of_mem_replicate member)
  have past : stringAt (List.replicate trail delimiter ++ [0]) (List.replicate trail delimiter).length = [] := by
    rw [stringAt_append, untilNul_nul]
  unfold getElementString listing
  rw [all, skipped]
  exact if_pos past

theorem getElementString_scan (apart : delimiter ≠ equals) (short : key.length < sizeofName) {lead : Nat}
    {element : Element delimiter} (noNul : 0 ∉ listing trail ((lead, element) :: items))
    (enough : items.length + 1 < fuel) :
    getElementString fuel key (listing trail ((lead, element) :: items) ++ [0]) delimiter =
      scan (strupr key) (listing trail ((lead, element) :: items) ++ [0])
        (((0, element) :: items).map (segmentOf apart)) := by
  obtain ⟨cbuf, named⟩ : ∃ cbuf, cbuf = listing trail ((lead, element) :: items) ++ [0] := ⟨_, rfl⟩
  have shape : cbuf = List.replicate lead delimiter ++ (element.name ++ equals :: (element.value ++
      (following trail (items.map (segmentOf apart)) ++ [0]))) := by
    rw [named, listing, separated_eq apart]
    simp only [List.append_assoc, List.cons_append]
  have clean := noNul
  rw [listing, separated_eq apart] at clean
  simp only [List.mem_append, List.mem_cons, not_or] at clean
  obtain ⟨leadNul, nameNul, -, valueNul, restNul⟩ := clean
  have all : stringAt cbuf 0 = listing trail ((lead, element) :: items) := by
    rw [named]
    change untilNul (_ ++ [0]) = _
    rw [untilNul_append noNul, untilNul_nul, List.append_nil]
  -- The loop at the start of the function skips the delimiters in front of the first name only.
  have skipped : ((stringAt cbuf 0).takeWhile (· = delimiter)).length = (List.replicate lead delimiter).length := by
    rw [all, listing, takeWhile_lead apart]
  have some_ : ¬ stringAt cbuf (List.replicate lead delimiter).length = [] := by
    have cons (tail : List UInt8) : untilNul (equals :: tail) = equals :: untilNul tail := rfl
    rw [shape, stringAt_append, untilNul_append nameNul, cons]
    exact List.append_ne_nil_of_right_ne_nil _ (List.cons_ne_nil _ _)
  have scanned := @elementLoop_scan delimiter (strupr key) fuel apart trail (List.replicate lead delimiter)
    (segmentOf apart (0, element)) (items.map (segmentOf apart)) cbuf shape ⟨⟨nameNul, valueNul⟩, restNul⟩
    (by rwa [List.length_map])
  rw [← named]
  unfold getElementString
  rw [skipped]
  dsimp only
  rw [if_neg some_, if_neg (Nat.not_le.mpr short), scanned, List.map_cons]

/-! ## What is found -/

theorem scan_returned (apart : delimiter ≠ equals) {cbuf : List UInt8} {value : Option (List UInt8)} :
    (∃ result, scan (strupr key) cbuf (items.map (segmentOf apart)) = some result ∧ result.returned = value) ↔
      NamesFit key items ∧ reached key items = value := by
  induction items with
  | nil =>
    constructor
    · rintro ⟨result, past, rfl⟩
      rw [← Option.some.inj past]
      exact ⟨trivial, rfl⟩
    · rintro ⟨-, rfl⟩
      exact ⟨_, rfl, rfl⟩
  | cons item rest ih =>
    rw [List.map_cons, scan]
    change (∃ result, (if sizeofName ≤ (surplusName item).length then none
      else if IsKey key (surplusName item) then some ⟨true, some (strtrim item.2.value), cbuf⟩
      else scan (strupr key) cbuf (rest.map (segmentOf apart))) = some result ∧ result.returned = value) ↔ _
    rw [NamesFit]
    by_cases long : sizeofName ≤ (surplusName item).length
    · rw [if_pos long]
      refine iff_of_false ?_ fun fits => absurd fits.1.1 (Nat.not_lt.mpr long)
      rintro ⟨result, none_, -⟩
      cases none_
    have fits := Nat.lt_of_not_le long
    by_cases isKey : IsKey key (surplusName item)
    · -- The search ends here, and the names behind need not fit.
      rw [if_neg long, if_pos isKey, reached, List.find?_cons_of_pos (by simpa using isKey), Option.map_some]
      constructor
      · rintro ⟨result, found, rfl⟩
        rw [← Option.some.inj found]
        exact ⟨⟨fits, fun other => absurd isKey other⟩, rfl⟩
      · rintro ⟨-, rfl⟩
        exact ⟨_, rfl, rfl⟩
    · have later : reached key (item :: rest) = reached key rest := by
        rw [reached, List.find?_cons_of_neg (by simpa using isKey), reached]
      rw [if_neg long, if_neg isKey, ih, later, and_iff_right fits, forall_prop_of_true isKey]

/-- The lookup is right exactly if the first name that is the key with its surplus has the value of the first one that
is the key without, and the names up to there fit. -/
theorem getElementString_finds_iff (apart : delimiter ≠ equals) (trail : Nat) (items : List (Nat × Element delimiter))
    (key : List UInt8) (short : key.length < sizeofName) (noNul : 0 ∉ listing trail items)
    (enough : items.length + 1 < fuel) :
    (∃ result, getElementString fuel key (listing trail items ++ [0]) delimiter = some result ∧
      result.returned = wanted key items) ↔
      NamesFit key (skipLead items) ∧ reached key (skipLead items) = wanted key items := by
  cases items with
  | nil =>
    rw [getElementString_none noNul]
    exact iff_of_true ⟨_, rfl, rfl⟩ ⟨trivial, rfl⟩
  | cons item rest =>
    obtain ⟨lead, element⟩ := item
    rw [getElementString_scan apart short noNul (by rw [List.length_cons] at enough; omega)]
    exact scan_returned apart

/-! ## Texts without a surplus, and blank delimiters -/

theorem namesFit_of_single (single : ∀ item ∈ items, item.1 = 0) : NamesFit key items := by
  induction items with
  | nil => exact trivial
  | cons item rest ih =>
    obtain ⟨surplus, element⟩ := item
    obtain rfl := single _ List.mem_cons_self
    exact ⟨element.short, fun _ => ih fun item member => single item (List.mem_cons_of_mem _ member)⟩

/-- Where each name is the key with its surplus exactly if it is without, the first one is the same. -/
theorem reached_eq_wanted (same : ∀ item ∈ items, IsKey key (surplusName item) ↔ IsKey key item.2.name) :
    reached key items = wanted key items := by
  have agree : items.find? (fun item => IsKey key (surplusName item)) =
      items.find? fun item => IsKey key item.2.name :=
    List.find?_congr fun item member => decide_eq_decide.mpr (same item member)
  rw [reached, wanted, agree]

theorem finds_of_single (single : ∀ item ∈ items, item.1 = 0) :
    NamesFit key items ∧ reached key items = wanted key items := by
  refine ⟨namesFit_of_single single, reached_eq_wanted ?_⟩
  rintro ⟨surplus, element⟩ member
  obtain rfl := single _ member
  exact Iff.rfl

/-- Trimming takes blank delimiters away with the blanks, so only the room for the names is left to ask for. -/
theorem finds_of_blank (blank : delimiter ≤ 32) :
    (NamesFit key items ∧ reached key items = wanted key items) ↔ NamesFit key items := by
  refine and_iff_left (reached_eq_wanted fun item _ => ?_)
  have trimmed : strltrim (surplusName item) = strltrim item.2.name := by
    unfold strltrim surplusName
    rw [List.dropWhile_append_of_pos]
    intro c member
    rw [List.eq_of_mem_replicate member]
    exact decide_eq_true blank
  unfold IsKey strtrim
  rw [trimmed]

/-! ## An example -/

def elementA : Element 59 := ⟨[97], [49], by decide, by decide, by decide, by decide⟩
def elementB : Element 59 := ⟨[66, 32], [32, 50, 61, 51, 32], by decide, by decide, by decide, by decide⟩

theorem getElementString_finds_second :
    ∃ result, getElementString 4 [98] (listing 2 [(1, elementA), (0, elementB)] ++ [0]) 59 = some result ∧
      result.returned = some [50, 61, 51] := by
  have single : ∀ item ∈ skipLead [(1, elementA), (0, elementB)], item.1 = 0 := by
    intro item member
    rcases List.mem_cons.mp member with rfl | member
    · rfl
    · rw [List.mem_singleton.mp member]
  have finds := getElementString_finds_iff (by decide : (59 : UInt8) ≠ equals) 2 [(1, elementA), (0, elementB)] [98]
    (by decide) (by decide) (by decide : [(1, elementA), (0, elementB)].length + 1 < 4)
  exact finds.mpr (finds_of_single single)

theorem getElementString_misses :
    (getElementString 4 [98] (listing 0 [(0, elementA), (1, elementB)] ++ [0]) 59).map ElementResult.returned =
        some none ∧
      wanted [98] [(0, elementA), (1, elementB)] = some [50, 61, 51] := by
  -- Behind two delimiters the second element is missed.
  decide

end Foolject.Foolbear
