import Mathlib.Data.List.Basic

/-! Binary files that are read: their content, and the position of the stream. -/

set_option autoImplicit false

namespace Foolject

def fread (content : List UInt8) (pos count : Nat) : List UInt8 := (content.drop pos).take count

/-- Where `fseek` from the current position leads. It fails before the start of the file only. -/
def fseekCur (pos : Nat) (offset : Int) : Option Nat :=
  if (pos : Int) + offset < 0 then none else some ((pos : Int) + offset).toNat

section Fread
variable {content : List UInt8} {pos count : Nat}

@[simp] theorem length_fread : (fread content pos count).length = min count (content.length - pos) := by
  rw [fread, List.length_take, List.length_drop]

theorem fread_whole_iff : (fread content pos count).length = count ↔ count ≤ content.length - pos := by
  rw [length_fread]
  omega

theorem fseekCur_nat (pos forward : Nat) : fseekCur pos forward = some (pos + forward) := by
  unfold fseekCur
  rw [if_neg (by omega)]
  congr 1

end Fread

end Foolject
