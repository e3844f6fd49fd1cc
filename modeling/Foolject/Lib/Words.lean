import Mathlib.Data.List.Basic
import Mathlib.Tactic.Ring
import Mathlib.Algebra.Order.Ring.Int

/-! Fixed-width machine words and their byte strings.

Words are integers read modulo a power of two. A byte string has a numeric
value in either byte order, and encoding followed by reading is reduction to
the width of the string.
-/

set_option autoImplicit false

namespace Foolject.Words

/-- The two's-complement reading of an integer in the given number of bits. -/
def wrap (bits : Nat) (value : Int) : Int :=
  (value + 2 ^ (bits - 1)) % 2 ^ bits - 2 ^ (bits - 1)

def Fits (bits : Nat) (value : Int) : Prop :=
  -2 ^ (bits - 1) ≤ value ∧ value < 2 ^ (bits - 1)

instance (bits : Nat) (value : Int) : Decidable (Fits bits value) :=
  inferInstanceAs (Decidable (_ ∧ _))

theorem pow_bits (bits : Nat) (positive : 0 < bits) :
    (2 : Int) ^ bits = 2 * 2 ^ (bits - 1) := by
  obtain ⟨n, rfl⟩ := Nat.exists_eq_succ_of_ne_zero positive.ne'
  simp only [Nat.succ_eq_add_one, Nat.add_sub_cancel]
  ring

theorem wrap_of_fits {bits : Nat} {value : Int} (positive : 0 < bits)
    (fits : Fits bits value) : wrap bits value = value := by
  have double := pow_bits bits positive
  obtain ⟨low, high⟩ := fits
  unfold wrap
  rw [Int.emod_eq_of_lt (by omega) (by omega)]
  ring

theorem fits_wrap {bits : Nat} (positive : 0 < bits) (value : Int) : Fits bits (wrap bits value) := by
  have double := pow_bits bits positive
  have half : (0 : Int) < 2 ^ (bits - 1) := Int.pow_pos (by decide)
  have low := Int.emod_nonneg (value + 2 ^ (bits - 1)) (by omega : (2 : Int) ^ bits ≠ 0)
  have high := Int.emod_lt_of_pos (value + 2 ^ (bits - 1)) (by omega : (0 : Int) < 2 ^ bits)
  unfold wrap
  constructor
  · omega
  · omega

theorem wrap_emod (bits : Nat) (value : Int) : wrap bits (value % 2 ^ bits) = wrap bits value := by
  simp [wrap]

def byte (value : Int) : UInt8 := UInt8.ofNat (value % 256).toNat

theorem toNat_byte (value : Int) : ((byte value).toNat : Int) = value % 256 := by
  have low := Int.emod_nonneg value (by decide : (256 : Int) ≠ 0)
  have high := Int.emod_lt_of_pos value (by decide : (0 : Int) < 256)
  rw [byte, UInt8.toNat_ofNat_of_lt' (by simp only [UInt8.size]; omega)]
  omega

/-- The value of a big-endian byte string, read onto an accumulator. -/
def valueFrom (acc : Nat) : List UInt8 → Nat
  | [] => acc
  | first :: rest => valueFrom (acc * 256 + first.toNat) rest

def value (bytes : List UInt8) : Nat := valueFrom 0 bytes

def bigEndian : Nat → Int → List UInt8
  | 0, _ => []
  | width + 1, v => byte (v / 256 ^ width) :: bigEndian width v

@[simp] theorem length_bigEndian (width : Nat) (v : Int) : (bigEndian width v).length = width := by
  induction width with
  | zero => rfl
  | succ width ih => simp [bigEndian, ih]

theorem emod_split (v : Int) {a : Int} (b : Int) (nonneg : 0 ≤ a) :
    v % (a * b) = v / a % b * a + v % a := by
  simp only [Int.emod_def, ← Int.ediv_ediv_of_nonneg nonneg]
  ring

theorem valueFrom_bigEndian (width acc : Nat) (v : Int) :
    (valueFrom acc (bigEndian width v) : Int) = acc * 256 ^ width + v % 256 ^ width := by
  induction width generalizing acc with
  | zero => simp [bigEndian, valueFrom]
  | succ width ih =>
    have split : v % 256 ^ (width + 1) = v / 256 ^ width % 256 * 256 ^ width + v % 256 ^ width := by
      rw [pow_succ, emod_split v 256 (Int.pow_nonneg (by decide))]
    rw [bigEndian, valueFrom, ih, Nat.cast_add, Nat.cast_mul, toNat_byte, split]
    push_cast
    ring

/-- Reading back an encoded integer reduces it to the width. -/
theorem value_bigEndian (width : Nat) (v : Int) :
    (value (bigEndian width v) : Int) = v % 256 ^ width := by
  simpa [value] using valueFrom_bigEndian width 0 v

/-- A signed word survives the trip through its byte string. -/
theorem wrap_value_bigEndian (width : Nat) {v : Int} (positive : 0 < width)
    (fits : Fits (8 * width) v) : wrap (8 * width) (value (bigEndian width v)) = v := by
  have power : (256 : Int) ^ width = 2 ^ (8 * width) := by
    rw [pow_mul]
    norm_num
  rw [value_bigEndian, power, wrap_emod, wrap_of_fits (by omega) fits]

/-- The two orders in which a host keeps the bytes of a word. -/
inductive ByteOrder where
  | big
  | little
  deriving DecidableEq, Repr

def ByteOrder.encode (order : ByteOrder) (width : Nat) (v : Int) : List UInt8 :=
  match order with
  | .big => bigEndian width v
  | .little => (bigEndian width v).reverse

def ByteOrder.decode (order : ByteOrder) (bytes : List UInt8) : Nat :=
  match order with
  | .big => value bytes
  | .little => value bytes.reverse

@[simp] theorem ByteOrder.length_encode (order : ByteOrder) (width : Nat) (v : Int) :
    (order.encode width v).length = width := by
  cases order <;> simp [encode]

/-- Writing and reading in one byte order does not depend on which order it is. -/
theorem ByteOrder.decode_encode (order : ByteOrder) (width : Nat) (v : Int) :
    (order.decode (order.encode width v) : Int) = v % 256 ^ width := by
  cases order <;> simp [encode, decode, value_bigEndian]

@[simp] theorem value_replicate_zero (count : Nat) : value (List.replicate count 0) = 0 := by
  unfold value
  induction count with
  | zero => rfl
  | succ count ih => simpa [List.replicate_succ, valueFrom] using ih

theorem ByteOrder.decode_replicate_zero (order : ByteOrder) (count : Nat) :
    order.decode (List.replicate count 0) = 0 := by
  cases order <;> simp [decode]

end Foolject.Words
