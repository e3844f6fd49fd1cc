import Mathlib.Algebra.Ring.Nat
import Foolject.Lib.CString

/-! Internet addresses, their dotted decimal form, and masks of contiguous ones.

An address is four bytes in memory, most significant first, on every host. Its value as a word
of the host is what `ntohl` makes of them.
-/

set_option autoImplicit false

namespace Foolject

/-! ## Masks -/

namespace Mask

variable {w k i : Nat} {mask host : BitVec w}

/-- `k` zeros at the low end, and ones above them. -/
def onesFrom (w k : Nat) : BitVec w := BitVec.allOnes w <<< k

theorem getLsbD_onesFrom (inside : i < w) : (onesFrom w k).getLsbD i = decide (k ≤ i) := by
  unfold onesFrom
  rw [BitVec.getLsbD_shiftLeft, BitVec.getLsbD_allOnes]
  by_cases above : k ≤ i
  · have below : i - k < w := Nat.lt_of_le_of_lt (Nat.sub_le i k) inside
    simp [inside, above, below, Nat.not_lt.mpr above]
  · simp [inside, above, Nat.not_le.mp above]

theorem eq_onesFrom_iff : mask = onesFrom w k ↔ ∀ i, i < w → mask.getLsbD i = decide (k ≤ i) := by
  constructor
  · rintro rfl i inside
    exact getLsbD_onesFrom inside
  · intro bits
    apply BitVec.eq_of_getLsbD_eq
    intro i inside
    rw [bits i inside, getLsbD_onesFrom inside]

/-- As a number it is the difference of two powers. -/
theorem toNat_onesFrom (within : k ≤ w) : (onesFrom w k).toNat = 2 ^ w - 2 ^ k := by
  have low : 0 < 2 ^ k := Nat.two_pow_pos k
  have order : 2 ^ k ≤ 2 ^ w := Nat.pow_le_pow_right (by decide) within
  have shifted : (2 ^ w - 1) * 2 ^ k = 2 ^ w - 2 ^ k + 2 ^ w * (2 ^ k - 1) := by
    rw [Nat.sub_mul, Nat.mul_sub, Nat.mul_one, Nat.one_mul]
    have large : 2 ^ w ≤ 2 ^ w * 2 ^ k := Nat.le_mul_of_pos_right _ low
    omega
  unfold onesFrom
  rw [BitVec.toNat_shiftLeft, BitVec.toNat_allOnes, Nat.shiftLeft_eq, shifted, Nat.add_mul_mod_self_left]
  exact Nat.mod_eq_of_lt (Nat.sub_lt (Nat.two_pow_pos w) low)

theorem eq_onesFrom_iff_toNat (within : k ≤ w) : mask = onesFrom w k ↔ mask.toNat = 2 ^ w - 2 ^ k := by
  rw [← toNat_onesFrom within, BitVec.toNat_inj]

theorem and_twoPow_eq_zero (inside : i < w) : mask &&& BitVec.twoPow w i = 0 ↔ mask.getLsbD i = false := by
  rw [BitVec.and_twoPow]
  have some_ : BitVec.twoPow w i ≠ 0#w := by
    intro none_
    have bit : (BitVec.twoPow w i).getLsbD i = true := by rw [BitVec.getLsbD_twoPow]; simp [inside]
    rw [none_, BitVec.getLsbD_zero] at bit
    cases bit
  cases mask.getLsbD i with
  | true => simpa using some_
  | false => simp

theorem not_and_and : ~~~mask &&& (mask &&& host) = 0 := by
  rw [← BitVec.and_assoc, BitVec.and_comm (~~~mask), BitVec.and_not_self]
  exact BitVec.zero_and

/-- The last address of a net, as a sum and bit by bit. -/
theorem not_add_and : ~~~mask + (mask &&& host) = (host &&& mask) ||| ~~~mask := by
  rw [BitVec.add_eq_or_of_and_eq_zero _ _ not_and_and, BitVec.or_comm, BitVec.and_comm mask]

end Mask

/-! ## Addresses -/

structure InAddr where
  b1 : BitVec 8
  b2 : BitVec 8
  b3 : BitVec 8
  b4 : BitVec 8
  deriving DecidableEq

namespace InAddr

/-- `INADDR_NONE`, the same word in either byte order. -/
def none : InAddr := ⟨255, 255, 255, 255⟩

def ntohl (addr : InAddr) : BitVec 32 := addr.b1 ++ addr.b2 ++ addr.b3 ++ addr.b4

def htonl (value : BitVec 32) : InAddr :=
  ⟨value.extractLsb' 24 8, value.extractLsb' 16 8, value.extractLsb' 8 8, value.extractLsb' 0 8⟩

theorem ntohl_htonl (value : BitVec 32) : (htonl value).ntohl = value := by
  unfold ntohl htonl
  dsimp only
  rw [BitVec.extractLsb'_append_extractLsb'_eq_extractLsb' (show 24 = 16 + 8 from rfl),
    BitVec.extractLsb'_append_extractLsb'_eq_extractLsb' (show 16 = 8 + 8 from rfl),
    BitVec.extractLsb'_append_extractLsb'_eq_extractLsb' (show 8 = 0 + 8 from rfl)]
  exact BitVec.extractLsb'_eq_self

theorem htonl_eq_none {value : BitVec 32} : htonl value = none ↔ value = BitVec.allOnes 32 := by
  constructor
  · intro same
    rw [← ntohl_htonl value, same]
    rfl
  · rintro rfl
    rfl

/-! ## Dotted decimals -/

def digits (octet : BitVec 8) : List UInt8 :=
  let digit (n : Nat) : UInt8 := UInt8.ofNat (48 + n % 10)
  if octet.toNat < 10 then [digit octet.toNat]
  else if octet.toNat < 100 then [digit (octet.toNat / 10), digit octet.toNat]
  else [digit (octet.toNat / 100), digit (octet.toNat / 10), digit octet.toNat]

/-- The numbers between the dots, from the digits that belong to the first one. -/
def numbers : List UInt8 → Nat → List Nat
  | [], current => [current]
  | c :: rest, current =>
    if c = 46 then current :: numbers rest 0 else numbers rest (current * 10 + (c.toNat - 48))

theorem digits_octet (octet : BitVec 8) :
    (digits octet).foldl (fun current c => current * 10 + (c.toNat - 48)) 0 = octet.toNat ∧
      46 ∉ digits octet ∧ 0 ∉ digits octet := by
  revert octet
  decide +kernel

theorem numbers_append {text : List UInt8} (undotted : 46 ∉ text) (rest : List UInt8) (current : Nat) :
    numbers (text ++ rest) current =
      numbers rest (text.foldl (fun current c => current * 10 + (c.toNat - 48)) current) := by
  induction text generalizing current with
  | nil => rfl
  | cons c text ih =>
    obtain ⟨other, undotted⟩ := List.ne_and_not_mem_of_not_mem_cons undotted
    rw [List.cons_append, numbers, if_neg other.symm, ih undotted]
    rfl

theorem numbers_digits (octet : BitVec 8) (rest : List UInt8) :
    numbers (digits octet ++ rest) 0 = numbers rest octet.toNat := by
  obtain ⟨value, undotted, -⟩ := digits_octet octet
  rw [numbers_append undotted, value]

/-- `inet_ntoa`. -/
def text (addr : InAddr) : CString where
  bytes := digits addr.b1 ++ 46 :: (digits addr.b2 ++ 46 :: (digits addr.b3 ++ 46 :: digits addr.b4))
  noNul := by
    simp only [List.mem_append, List.mem_cons, not_or]
    exact ⟨(digits_octet _).2.2, by decide, (digits_octet _).2.2, by decide, (digits_octet _).2.2, by decide,
      (digits_octet _).2.2⟩

/-- `inet_addr`, for four decimal numbers. -/
def ofText (s : CString) : InAddr :=
  match numbers s.bytes 0 with
  | [a, b, c, d] =>
    if a < 256 ∧ b < 256 ∧ c < 256 ∧ d < 256 then
      ⟨BitVec.ofNat 8 a, BitVec.ofNat 8 b, BitVec.ofNat 8 c, BitVec.ofNat 8 d⟩
    else none
  | _ => none

theorem ofText_text (addr : InAddr) : ofText addr.text = addr := by
  have read : numbers addr.text.bytes 0 = [addr.b1.toNat, addr.b2.toNat, addr.b3.toNat, addr.b4.toNat] := by
    unfold text
    dsimp only
    rw [numbers_digits, numbers, if_pos rfl, numbers_digits, numbers, if_pos rfl, numbers_digits, numbers,
      if_pos rfl, ← List.append_nil (digits addr.b4), numbers_digits]
    rfl
  unfold ofText
  rw [read]
  dsimp only
  rw [if_pos ⟨addr.b1.isLt, addr.b2.isLt, addr.b3.isLt, addr.b4.isLt⟩]
  simp only [BitVec.ofNat_toNat, BitVec.setWidth_eq]

end InAddr

end Foolject
