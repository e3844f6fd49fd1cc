import Foolject.Foolbear.Elements

/-! What a lookup leaves of the string that it searches.

Each turn of the loop takes its terminators back before the next turn or the return. The string need not be a list of
elements, and the delimiter may be any character, '=' and NUL among them.
-/

set_option autoImplicit false

namespace Foolject.Foolbear

inductive ComesTo (key cbuf : List UInt8) (delimiter : UInt8) : Nat → Prop where
  | first : ComesTo key cbuf delimiter ((stringAt cbuf 0).takeWhile (· = delimiter)).length
  | next {buf ep dp : Nat} : ComesTo key cbuf delimiter buf → findEquals cbuf buf = some ep →
      strupr key ≠ strupr (strtrim ((cbuf.drop buf).take (ep - buf))) → valueEnd cbuf delimiter ep = dp →
      ComesTo key cbuf delimiter (if cbuf.getD dp 0 ≠ 0 then dp + 1 else dp)

/-- Each stretch from the start of an element to the next '=' has room in the array that it is copied to. -/
def StretchesFit (key cbuf : List UInt8) (delimiter : UInt8) : Prop :=
  ∀ buf ep, ComesTo key cbuf delimiter buf → findEquals cbuf buf = some ep → ep - buf < sizeofName

variable {key cbuf before rest tail : List UInt8} {delimiter : UInt8} {fuel : Nat}

/-! ## The element at the front of a text -/

/-- What is behind an '=' ends at the first delimiter, or at the terminator. -/
theorem exists_value (delimiter : UInt8) (noNul : 0 ∉ rest) (tail : List UInt8) :
    ∃ value stop behind, rest ++ 0 :: tail = value ++ stop :: behind ∧ delimiter ∉ value ∧ 0 ∉ value ∧
      (stop = 0 ∧ value = rest ∨
        stop = delimiter ∧ stop ≠ 0 ∧ ∃ later, rest = value ++ stop :: later ∧ behind = later ++ 0 :: tail) := by
  by_cases delimited : delimiter ∈ rest
  · obtain ⟨value, later, shape, free⟩ := List.eq_append_cons_of_mem delimited
    have nonzero : delimiter ≠ 0 := fun nul => noNul (nul ▸ delimited)
    have clean : 0 ∉ value := fun nul => noNul (shape ▸ List.mem_append_left _ nul)
    refine ⟨value, delimiter, later ++ 0 :: tail, ?_, free, clean, .inr ⟨rfl, nonzero, later, shape, rfl⟩⟩
    rw [shape, List.append_assoc, List.cons_append]
  · exact ⟨rest, 0, tail, rfl, delimited, noNul, .inl ⟨rfl, rfl⟩⟩

/-- A text with an '=' starts with a segment, and less text is left behind that. -/
theorem exists_segment (delimiter : UInt8) (noNul : 0 ∉ rest) (tail : List UInt8) (element : equals ∈ rest) :
    ∃ (segment : Segment delimiter) (stop : UInt8) (behind : List UInt8),
      rest ++ 0 :: tail = segment.label ++ equals :: (segment.value ++ stop :: behind) ∧
      (stop = 0 ∨ stop = delimiter) ∧ (0 ∉ segment.label ∧ 0 ∉ segment.value) ∧
      ∃ later, 0 ∉ later ∧ later.length < rest.length ∧
        (if stop ≠ 0 then behind else stop :: behind) = later ++ 0 :: tail := by
  obtain ⟨label, text, shape, noEquals⟩ := List.eq_append_cons_of_mem element
  rw [shape, List.mem_append, List.mem_cons, not_or, not_or] at noNul
  obtain ⟨labelNul, -, textNul⟩ := noNul
  obtain ⟨value, stop, behind, split_, valueFree, valueNul, ended⟩ := exists_value delimiter textNul tail
  refine ⟨⟨label, value, noEquals, valueFree⟩, stop, behind, ?_, ?_, ⟨labelNul, valueNul⟩, ?_⟩
  · rw [shape, List.append_assoc, List.cons_append, split_]
  · rcases ended with ⟨nul, -⟩ | ⟨delimited, -⟩
    · exact .inl nul
    · exact .inr delimited
  · rcases ended with ⟨rfl, rfl⟩ | ⟨-, nonzero, later, textShape, behindShape⟩
    · -- The terminator ends the value, and stays ahead.
      refine ⟨[], List.not_mem_nil, ?_, ?_⟩
      · rw [shape, List.length_append]
        exact Nat.add_pos_right _ (Nat.succ_pos _)
      · rw [if_neg (not_not.mpr rfl), List.nil_append]
        exact List.append_cancel_left split_.symm
    · refine ⟨later, fun nul => textNul ?_, ?_, ?_⟩
      · rw [textShape]
        exact List.mem_append_right _ (List.mem_cons_of_mem _ nul)
      · rw [shape, textShape]
        simp only [List.length_append, List.length_cons]
        omega
      · rw [if_pos nonzero, behindShape]

/-! ## The whole loop -/

theorem elementLoop_keeps (fits : StretchesFit key cbuf delimiter) (shape : cbuf = before ++ (rest ++ 0 :: tail))
    (noNul : 0 ∉ rest) (comes : ComesTo key cbuf delimiter before.length) (enough : rest.length < fuel) :
    ∃ result, elementLoop (strupr key) delimiter fuel cbuf before.length = some result ∧ result.cbuf = cbuf := by
  -- The induction is on the turns, with the text that is still ahead.
  induction fuel generalizing before rest with
  | zero => exact absurd enough (Nat.not_lt_zero _)
  | succ fuel ih =>
    by_cases element : equals ∈ rest
    · obtain ⟨segment, stop, behind, split_, ends, clean, later, laterNul, fewer, ahead⟩ :=
        exists_segment delimiter noNul tail element
      rw [split_] at shape
      -- The stretch that is copied is the label of the segment.
      have found : findEquals cbuf before.length = some (before.length + segment.label.length) := by
        rw [shape, findEquals_eq segment.noEquals clean.1]
      have copied : (cbuf.drop before.length).take (before.length + segment.label.length - before.length) =
          segment.label := by
        rw [shape, List.drop_left, Nat.add_sub_cancel_left, List.take_left]
      have short := fits _ _ comes found
      rw [Nat.add_sub_cancel_left] at short
      rw [elementLoop_turn segment ends clean shape, if_neg (Nat.not_le.mpr short)]
      by_cases same : strupr key = strupr (strtrim segment.label)
      · rw [if_pos same]
        exact ⟨_, rfl, rfl⟩
      · rw [if_neg same]
        have onward := comes.next found (by rwa [copied]) (valueEnd_segment shape ends clean.2)
        rw [stop_segment shape] at onward
        obtain ⟨done, rebuilt, size⟩ := behind_segment shape
        -- The delimiter is left behind, and the terminator is not.
        by_cases more : stop ≠ 0
        · rw [if_pos more] at onward ahead
          rw [if_pos more]
          have past : (done ++ [stop]).length =
              before.length + segment.label.length + 1 + segment.value.length + 1 := by
            rw [List.length_append, List.length_singleton, size]
          rw [← past] at onward ⊢
          refine ih ?_ laterNul onward (by omega)
          rw [rebuilt, ahead, List.append_assoc, List.singleton_append]
        · rw [if_neg more] at onward ahead
          rw [if_neg more, Nat.add_zero]
          rw [← size] at onward ⊢
          exact ih (rebuilt.trans (congrArg _ ahead)) laterNul onward (by omega)
    · have past : equals ∉ stringAt cbuf before.length := by
        rw [shape, stringAt_append, untilNul_append noNul, untilNul_nul, List.append_nil]
        exact element
      exact ⟨_, elementLoop_over past, rfl⟩

/-- A lookup returns, and the string is what it was. -/
theorem getElementString_keeps (key text tail : List UInt8) (delimiter : UInt8) (short : key.length < sizeofName)
    (noNul : 0 ∉ text) (fits : StretchesFit key (text ++ 0 :: tail) delimiter) (enough : text.length < fuel) :
    ∃ result, getElementString fuel key (text ++ 0 :: tail) delimiter = some result ∧
      result.cbuf = text ++ 0 :: tail := by
  obtain ⟨cbuf, shape⟩ : ∃ cbuf, cbuf = text ++ 0 :: tail := ⟨_, rfl⟩
  rw [← shape] at fits ⊢
  have whole : stringAt cbuf 0 = text := by
    rw [shape]
    change untilNul (text ++ 0 :: tail) = text
    rw [untilNul_append noNul, untilNul_nul, List.append_nil]
  have start : ComesTo key cbuf delimiter (text.takeWhile (· = delimiter)).length := whole ▸ .first
  have split_ : text.takeWhile (· = delimiter) ++ text.dropWhile (· = delimiter) = text :=
    List.takeWhile_append_dropWhile
  have behind : text.dropWhile (· = delimiter) ⊆ text := (List.dropWhile_sublist _).subset
  unfold getElementString
  rw [whole]
  dsimp only
  by_cases nothing : stringAt cbuf (text.takeWhile (· = delimiter)).length = []
  · rw [if_pos nothing]
    exact ⟨_, rfl, rfl⟩
  · rw [if_neg nothing, if_neg (Nat.not_le.mpr short)]
    have skipped : cbuf = text.takeWhile (· = delimiter) ++ (text.dropWhile (· = delimiter) ++ 0 :: tail) := by
      rw [shape, ← List.append_assoc, split_]
    have fewer := lt_of_le_of_lt (List.dropWhile_sublist (· = delimiter)).length_le enough
    exact elementLoop_keeps fits skipped (fun nul => noNul (behind nul)) start fewer

/-! ## Short strings -/

theorem findEquals_lt {cbuf : List UInt8} {buf ep : Nat} (found : findEquals cbuf buf = some ep) :
    ep < buf + (stringAt cbuf buf).length := by
  obtain ⟨index, first, rfl⟩ := Option.map_eq_some_iff.mp found
  exact Nat.add_lt_add_left (List.findIdx?_eq_some_iff_findIdx_eq.mp first).1 buf

theorem stretchesFit_of_short (size : cbuf.length ≤ sizeofName) : StretchesFit key cbuf delimiter := by
  intro buf ep _ found
  have inside := findEquals_lt found
  have string : (stringAt cbuf buf).length ≤ cbuf.length - buf :=
    (List.takeWhile_sublist _).length_le.trans (List.length_drop).le
  rw [sizeofName] at size ⊢
  omega

theorem getElementString_keeps_equals :
    ∃ result, getElementString 10 [66] ([61, 61, 120, 61, 97, 61, 98, 61, 50] ++ 0 :: [7, 7]) 61 = some result ∧
      result.cbuf = [61, 61, 120, 61, 97, 61, 98, 61, 50, 0, 7, 7] :=
  -- The delimiter is '=' as well: "x" has the value "a", and behind it "b" has "2".
  getElementString_keeps [66] [61, 61, 120, 61, 97, 61, 98, 61, 50] [7, 7] 61 (by decide) (by decide)
    (stretchesFit_of_short (by decide)) (by decide)

example : (getElementString 10 [66] [61, 61, 120, 61, 97, 61, 98, 61, 50, 0, 7, 7] 61).map ElementResult.value =
    some (some [50]) := by decide

end Foolject.Foolbear
