import Mathlib.Data.List.Basic

/-! Multi-strings: strings one after another, each with its terminator, and one more terminator.

A string in the middle of a larger memory is what comes before the next NUL. Reading it where
no NUL follows leaves the memory, which is `none` here.
-/

set_option autoImplicit false

namespace Foolject

@[ext] structure Text where
  bytes : List UInt8
  nonempty : bytes ≠ []
  noNul : 0 ∉ bytes

instance : DecidableEq Text := fun text other => decidable_of_iff (text.bytes = other.bytes) Text.ext_iff.symm

namespace MultiString

def body (texts : List Text) : List UInt8 := texts.flatMap fun text => text.bytes ++ [0]

def encode (texts : List Text) : List UInt8 := body texts ++ [0]

/-- The string at the front of a memory, and the memory after its terminator. -/
def cut : List UInt8 → Option (List UInt8 × List UInt8)
  | [] => none
  | c :: rest => if c = 0 then some ([], rest) else (cut rest).map fun found => (c :: found.1, found.2)

/-- `strcpy` to a place in a memory. -/
def copyTo (memory : List UInt8) (place : Nat) (string : List UInt8) : Option (List UInt8) :=
  if place + string.length + 1 ≤ memory.length then
    some (memory.take place ++ string ++ 0 :: memory.drop (place + string.length + 1))
  else none

/-- The memory starts with all of a multi-string. -/
def Complete (memory : List UInt8) : Prop := ∃ texts rest, memory = encode texts ++ rest

/-! ## Reading -/

theorem cut_append {string : List UInt8} (noNul : 0 ∉ string) (rest : List UInt8) :
    cut (string ++ 0 :: rest) = some (string, rest) := by
  induction string with
  | nil => rfl
  | cons c string ih =>
    have here : c ≠ 0 := fun zero => noNul (zero ▸ List.mem_cons_self)
    rw [List.cons_append, cut, if_neg here, ih (fun inside => noNul (List.mem_cons_of_mem c inside)), Option.map_some]

theorem eq_of_cut {memory string rest : List UInt8} (found : cut memory = some (string, rest)) :
    memory = string ++ 0 :: rest ∧ 0 ∉ string := by
  induction memory generalizing string with
  | nil => cases found
  | cons c memory ih =>
    by_cases zero : c = 0
    · rw [cut, if_pos zero] at found
      cases found
      exact ⟨by rw [zero, List.nil_append], List.not_mem_nil⟩
    · rw [cut, if_neg zero] at found
      obtain ⟨⟨inner, after⟩, deeper, same⟩ := Option.map_eq_some_iff.mp found
      cases same
      obtain ⟨split, noNul⟩ := ih deeper
      refine ⟨by rw [split, List.cons_append], ?_⟩
      intro inside
      rcases List.mem_cons.mp inside with here | later
      · exact zero here.symm
      · exact noNul later

/-! ## The bytes of a multi-string -/

@[simp] theorem body_nil : body [] = [] := rfl

theorem body_cons (text : Text) (texts : List Text) : body (text :: texts) = text.bytes ++ 0 :: body texts := by
  unfold body
  rw [List.flatMap_cons, List.append_assoc, List.singleton_append]

theorem length_body_cons (text : Text) (texts : List Text) :
    (body (text :: texts)).length = text.bytes.length + 1 + (body texts).length := by
  rw [body_cons, List.length_append, List.length_cons, Nat.add_assoc, Nat.add_comm 1]

theorem body_append (before after : List Text) : body (before ++ after) = body before ++ body after :=
  List.flatMap_append

theorem encode_cons (text : Text) (texts : List Text) : encode (text :: texts) = text.bytes ++ 0 :: encode texts := by
  unfold encode
  rw [body_cons, List.append_assoc, List.cons_append]

theorem cut_encode_nil (rest : List UInt8) : cut (encode [] ++ rest) = some ([], rest) := rfl

theorem cut_encode_cons (text : Text) (texts : List Text) (rest : List UInt8) :
    cut (encode (text :: texts) ++ rest) = some (text.bytes, encode texts ++ rest) := by
  rw [encode_cons, List.append_assoc, List.cons_append]
  exact cut_append text.noNul _

/-- At most one multi-string stands at the front of a memory. -/
theorem encode_unique {texts others : List Text} {rest tail : List UInt8}
    (same : encode texts ++ rest = encode others ++ tail) : texts = others := by
  induction texts generalizing others with
  | nil =>
    cases others with
    | nil => rfl
    | cons other others =>
      have first := cut_encode_cons other others tail
      rw [← same, cut_encode_nil] at first
      exact absurd (Prod.mk.inj (Option.some.inj first)).1.symm other.nonempty
  | cons text texts ih =>
    have first := cut_encode_cons text texts rest
    cases others with
    | nil =>
      rw [same, cut_encode_nil] at first
      exact absurd (Prod.mk.inj (Option.some.inj first)).1.symm text.nonempty
    | cons other others =>
      rw [same, cut_encode_cons] at first
      obtain ⟨bytes, later⟩ := Prod.mk.inj (Option.some.inj first)
      rw [Text.ext bytes, ih later.symm]

theorem complete_of_cut_nil {memory rest : List UInt8} (found : cut memory = some ([], rest)) : Complete memory :=
  ⟨[], rest, (eq_of_cut found).1⟩

theorem complete_of_cut {memory string rest : List UInt8} (found : cut memory = some (string, rest))
    (nonempty : string ≠ []) (later : Complete rest) : Complete memory := by
  obtain ⟨split, noNul⟩ := eq_of_cut found
  obtain ⟨texts, tail, rfl⟩ := later
  refine ⟨⟨string, nonempty, noNul⟩ :: texts, tail, ?_⟩
  rw [split, encode_cons, List.append_assoc, List.cons_append]

/-- Two terminators at the end of a memory complete whatever strings are in it. -/
theorem complete_zeros (memory : List UInt8) (count : Nat) :
    Complete (memory ++ List.replicate (count + 2) 0) := by
  induction length : memory.length using Nat.strongRecOn generalizing memory with
  | ind n ih =>
    by_cases inside : 0 ∈ memory
    · obtain ⟨string, later, rfl, noNul⟩ := List.eq_append_cons_of_mem inside
      have found : cut (string ++ 0 :: later ++ List.replicate (count + 2) 0) =
          some (string, later ++ List.replicate (count + 2) 0) := by
        rw [List.append_assoc, List.cons_append]
        exact cut_append noNul _
      by_cases empty : string = []
      · rw [empty] at found ⊢
        exact complete_of_cut_nil found
      · refine complete_of_cut found empty (ih later.length ?_ later rfl)
        rw [← length, List.length_append, List.length_cons]
        omega
    · -- The terminators close the last string, and then the multi-string.
      have found := cut_append inside (List.replicate (count + 1) 0)
      by_cases empty : memory = []
      · exact ⟨[], List.replicate (count + 1) 0, by rw [empty]; rfl⟩
      · exact complete_of_cut found empty ⟨[], List.replicate count 0, rfl⟩

theorem length_lt_length_encode (texts : List Text) : texts.length < (encode texts).length := by
  induction texts with
  | nil => exact Nat.zero_lt_one
  | cons text texts ih =>
    rw [encode_cons, List.length_append, List.length_cons, List.length_cons]
    omega

theorem drop_encode_cons (text : Text) (texts : List Text) (rest : List UInt8) :
    (encode (text :: texts) ++ rest).drop (text.bytes.length + 1) = encode texts ++ rest := by
  rw [encode_cons, List.append_assoc, List.cons_append, ← List.drop_drop, List.drop_left]
  rfl

theorem getD_of_drop {memory tail : List UInt8} {place : Nat} {c : UInt8} (here : memory.drop place = c :: tail) :
    memory.getD place 0 = c := by
  rw [List.getD_eq_getElem?_getD, ← List.head?_drop, here]
  rfl

theorem eq_of_zeros {memory front rest : List UInt8} {last : Text} {count : Nat}
    (same : memory ++ List.replicate count 0 = front ++ last.bytes ++ rest)
    (short : memory.length ≤ (front ++ last.bytes).length) : memory = front ++ last.bytes := by
  rcases List.append_eq_append_iff.mp same with ⟨zeros, longer, within⟩ | ⟨more, longer, -⟩
  · rcases List.eq_nil_or_concat' zeros with rfl | ⟨earlier, c, rfl⟩
    · rw [longer, List.append_nil]
    · -- The last byte would be a zero of the text.
      obtain ⟨bytes, d, split⟩ := (List.eq_nil_or_concat' last.bytes).resolve_left last.nonempty
      have zero : c = 0 := List.eq_of_mem_replicate (by rw [within]; simp)
      rw [split, ← List.append_assoc, ← List.append_assoc] at longer
      have final : d = c := List.singleton_inj.mp (List.append_inj_right' longer rfl)
      refine absurd ?_ last.noNul
      rw [split, final, zero]
      exact List.mem_append_right bytes List.mem_cons_self
  · rw [longer, List.length_append] at short
    have none : more = [] := List.length_eq_zero_iff.mp (by omega)
    rw [longer, none, List.append_nil]

/-! ## Writing -/

theorem copyTo_isSome_iff {memory string : List UInt8} {place : Nat} :
    (copyTo memory place string).isSome = true ↔ place + string.length + 1 ≤ memory.length := by
  unfold copyTo
  by_cases fits : place + string.length + 1 ≤ memory.length
  · rw [if_pos fits]
    exact iff_of_true rfl fits
  · rw [if_neg fits]
    exact iff_of_false Bool.false_ne_true fits

/-- To write behind what is written already, in a memory that is zero from there on. -/
theorem copyTo_zeros {string : List UInt8} {space : Nat} (written : List UInt8) (fits : string.length + 1 ≤ space) :
    copyTo (written ++ List.replicate space 0) written.length string =
      some (written ++ (string ++ [0]) ++ List.replicate (space - (string.length + 1)) 0) := by
  have room : written.length + string.length + 1 ≤ (written ++ List.replicate space (0 : UInt8)).length := by
    rw [List.length_append, List.length_replicate]
    omega
  rw [copyTo, if_pos room, List.take_left, Nat.add_assoc, ← List.drop_drop, List.drop_left, List.drop_replicate]
  simp only [List.append_assoc, List.singleton_append]

end MultiString

end Foolject
