import Mathlib.Data.List.Basic

/-! A flat byte memory with block loads and stores.

Addresses are integers relative to some base, so that a pointer may be moved
below the base as well as past the end of what was allocated there.
-/

set_option autoImplicit false

namespace Foolject

abbrev Memory := Int → UInt8

namespace Memory

def load (mem : Memory) (base : Int) : Nat → List UInt8
  | 0 => []
  | count + 1 => mem base :: load mem (base + 1) count

def store (mem : Memory) (base : Int) (bytes : List UInt8) : Memory := fun address =>
  if base ≤ address ∧ address < base + bytes.length then
    bytes.getD (address - base).toNat 0
  else mem address

variable {mem other : Memory} {base target : Int} {bytes : List UInt8}

@[simp] theorem length_load (count : Nat) : (load mem base count).length = count := by
  induction count generalizing base with
  | zero => rfl
  | succ count ih => simp [load, ih]

theorem load_add (first second : Nat) :
    load mem base (first + second) = load mem base first ++ load mem (base + first) second := by
  induction first generalizing base with
  | zero => simp [load]
  | succ first ih =>
    have shift : base + 1 + (first : Int) = base + ((first + 1 : Nat) : Int) := by omega
    rw [Nat.succ_add_eq_add_succ, Nat.add_succ, load, ih, load, shift, List.cons_append]

theorem load_congr {count : Nat}
    (same : ∀ address, base ≤ address → address < base + count → mem address = other address) :
    load mem base count = load other base count := by
  induction count generalizing base with
  | zero => rfl
  | succ count ih =>
    rw [load, load, same base (by omega) (by omega)]
    rw [ih fun address low high => same address (by omega) (by omega)]

theorem load_store_below {count : Nat} (below : base + count ≤ target) :
    load (store mem target bytes) base count = load mem base count :=
  load_congr fun address _ high => if_neg (by omega)

theorem load_store_above {count : Nat} (above : target + bytes.length ≤ base) :
    load (store mem target bytes) base count = load mem base count :=
  load_congr fun address low _ => if_neg (by omega)

theorem load_eq_of_getD {count : Nat} (bytes : List UInt8) (length : bytes.length = count)
    (each : ∀ i, i < count → mem (base + i) = bytes.getD i 0) : load mem base count = bytes := by
  induction bytes generalizing base count with
  | nil => subst length; rfl
  | cons first rest ih =>
    subst length
    have head := each 0 (by simp)
    simp only [Int.natCast_zero, Int.add_zero, List.getD_cons_zero] at head
    rw [List.length_cons, load, head, ih rfl]
    intro i bound
    have step := each (i + 1) (by simpa using bound)
    rw [List.getD_cons_succ] at step
    rw [← step]
    congr 1
    omega

@[simp] theorem load_store_self : load (store mem base bytes) base bytes.length = bytes := by
  refine load_eq_of_getD bytes rfl fun i bound => ?_
  have index : (base + (i : Int) - base).toNat = i := by omega
  rw [store, if_pos (by omega), index]

theorem getD_load (mem : Memory) (base : Int) {count i : Nat} (bound : i < count) :
    (load mem base count).getD i 0 = mem (base + i) := by
  induction count generalizing base i with
  | zero => omega
  | succ count ih =>
    cases i with
    | zero => simp [load]
    | succ i =>
      rw [load, List.getD_cons_succ, ih _ (by omega)]
      congr 1
      omega

theorem load_copy {size count : Nat} (low : 0 ≤ base) (high : base + count ≤ size) :
    load (store other 0 (load mem 0 size)) base count = load mem base count := by
  refine load_congr fun address above under => ?_
  have index : (address - 0).toNat < size := by omega
  rw [store, if_pos (by rw [length_load]; omega), getD_load mem 0 index]
  congr 1
  omega

theorem load_piece {whole : List UInt8} (loaded : load mem base whole.length = whole)
    (before middle after : List UInt8) (parts : whole = before ++ middle ++ after) :
    load mem (base + before.length) middle.length = middle := by
  subst parts
  simp only [List.length_append, load_add] at loaded
  have left := List.append_inj_left' loaded (by simp)
  exact List.append_inj_right left (by simp)

theorem take_drop_load {first count total : Nat} (within : first + count ≤ total) :
    ((load mem base total).drop first).take count = load mem (base + first) count := by
  obtain ⟨rest, rfl⟩ := Nat.exists_eq_add_of_le within
  rw [Nat.add_assoc, load_add, List.drop_left' (by simp), load_add, List.take_left' (by simp)]

theorem load_inside {first count total : Nat} (same : load mem base total = load other base total)
    (within : first + count ≤ total) : load mem (base + first) count = load other (base + first) count := by
  rw [← take_drop_load within, same, take_drop_load within]

end Memory

end Foolject
