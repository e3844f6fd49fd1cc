import Mathlib.Data.List.Basic

/-! Character arrays of C: strings without their terminator, the comparison that
ignores case, and writing at the front of a buffer. -/

set_option autoImplicit false

namespace Foolject

/-- The characters before the terminating NUL. -/
structure CString where
  bytes : List UInt8
  noNul : 0 ∉ bytes
  deriving DecidableEq

namespace CString

instance : Inhabited CString := ⟨⟨[], by simp⟩⟩

def empty : CString := ⟨[], by simp⟩

def array (s : CString) : List UInt8 := s.bytes ++ [0]

end CString

/-- The characters that string functions see in an array. -/
def untilNul (buffer : List UInt8) : List UInt8 := buffer.takeWhile (· ≠ 0)

/-- Nothing behind a NUL is seen. -/
theorem untilNul_append_nul (front tail : List UInt8) : untilNul (front ++ 0 :: tail) = untilNul front := by
  induction front with
  | nil => rfl
  | cons c front ih =>
    unfold untilNul at ih ⊢
    rw [List.cons_append, List.takeWhile_cons, List.takeWhile_cons, ih]

def overlay (written buffer : List UInt8) : List UInt8 :=
  written ++ buffer.drop written.length

/-- `tolower` in the C locale. -/
def lower (c : UInt8) : UInt8 := if 65 ≤ c ∧ c ≤ 90 then c + 32 else c

/-- The sign of the first difference, ignoring case. -/
def stricmp : List UInt8 → List UInt8 → Int
  | [], [] => 0
  | [], _ :: _ => -1
  | _ :: _, [] => 1
  | a :: as, b :: bs =>
    if lower a = lower b then stricmp as bs else ((lower a).toNat : Int) - (lower b).toNat

@[simp] theorem stricmp_self (s : List UInt8) : stricmp s s = 0 := by
  induction s with
  | nil => rfl
  | cons c s ih => simpa [stricmp] using ih

theorem stricmp_swap (s t : List UInt8) : stricmp t s = -stricmp s t := by
  induction s generalizing t with
  | nil => cases t <;> simp [stricmp]
  | cons a s ih =>
    cases t with
    | nil => simp [stricmp]
    | cons b t =>
      by_cases same : lower a = lower b
      · simp only [stricmp, same, ↓reduceIte, ih]
      · simp only [stricmp, same, Ne.symm same, ↓reduceIte]
        omega

theorem stricmp_eq_zero {s t : List UInt8} : stricmp s t = 0 ↔ s.map lower = t.map lower := by
  induction s generalizing t with
  | nil => cases t <;> simp [stricmp]
  | cons a s ih =>
    cases t with
    | nil => simp [stricmp]
    | cons b t =>
      by_cases same : lower a = lower b
      · simp [stricmp, same, ih]
      · have differ : ((lower a).toNat : Int) - (lower b).toNat ≠ 0 := by
          intro zero
          exact same (UInt8.toNat_inj.mp (by omega))
        simp [stricmp, same, differ]

end Foolject
