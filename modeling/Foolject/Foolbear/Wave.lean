import Mathlib.Order.Interval.Finset.Nat
import Foolject.Lib.CString
import Foolject.Lib.File
import Foolject.Lib.Orbit
import Foolject.Lib.Words

/-! The header of a WAV file, as `foolbear.cpp` reads it.

The chunks before the one named `fmt ` are skipped by their sizes, which are unsigned in the file and signed for
`fseek`. The host keeps its words least significant byte first.
-/

set_option autoImplicit false

namespace Foolject.Foolbear
open Words

/-! ## The reader -/

def riff : List UInt8 := [82, 73, 70, 70]

def wave : List UInt8 := [87, 65, 86, 69]

def fmt : List UInt8 := [102, 109, 116, 32]

def hostWord (bytes : List UInt8) : Nat := ByteOrder.little.decode bytes

/-- `(chunkhdr.size + 1) & ~1` as a `long`: the sum is a `DWORD`, and its lowest bit is cleared. -/
def skipSize (size : Nat) : Int := wrap 32 (((size + 1) % 4294967296 / 2 * 2 : Nat) : Int)

def chunkSize (content : List UInt8) (pos : Nat) : Nat := hostWord ((fread content pos 8).drop 4)

def skipChunk (content : List UInt8) (pos : Nat) : Option Nat :=
  fseekCur (pos + 8) (skipSize (chunkSize content pos))

/-- The loop over the chunks, to where the data of the `fmt ` chunk start, and its size. -/
def chunkLoop (content : List UInt8) : Nat → Nat → Option (Option (Nat × Nat))
  | 0, _ => none
  | fuel + 1, pos =>
    -- Fewer than eight bytes are left: the function returns -2.
    if (fread content pos 8).length ≠ 8 then some none
    else if (fread content pos 8).take 4 = fmt then some (some (pos + 8, chunkSize content pos))
    else (skipChunk content pos).elim (some none) (chunkLoop content fuel)

structure WaveFormat where
  dataEncoding : Nat
  samplesPerSec : Nat
  bitsPerSample : Nat
  deriving DecidableEq, Repr

def waveFormat (waveinfo : List UInt8) : WaveFormat where
  dataEncoding := hostWord (waveinfo.take 2)
  samplesPerSec := hostWord ((waveinfo.drop 4).take 4)
  bitsPerSample := hostWord ((waveinfo.drop 14).take 2)

@[simp] def sizeofWaveinfo : Nat := 100

/-- `(chunkhdr.size + 1) / 2`, in the arithmetic of a `DWORD`. -/
def fmtWords (size : Nat) : Nat := (size + 1) % 4294967296 / 2

/-- What is done with the data of the `fmt ` chunk. The structure starts as zeros. -/
def readFormat (content : List UInt8) (outputs : WaveFormat) (pos size : Nat) : Int × WaveFormat :=
  if size > sizeofWaveinfo ∨ (fread content pos (2 * fmtWords size)).length / 2 ≠ fmtWords size then (-3, outputs)
  else (0, waveFormat (overlay (fread content pos (2 * fmtWords size)) (List.replicate sizeofWaveinfo 0)))

def Headed (content : List UInt8) : Prop :=
  (fread content 0 12).length = 12 ∧ (fread content 0 12).take 4 = riff ∧ ((fread content 0 12).drop 8).take 4 = wave

instance : DecidablePred Headed := fun _ => inferInstanceAs (Decidable (_ ∧ _))

/-- The file, unless it cannot be opened, and what the outputs hold before and after. -/
def getWaveFileFormat (fuel : Nat) (file : Option (List UInt8)) (outputs : WaveFormat) :
    Option (Int × WaveFormat) :=
  match file with
  | none => some (-1, outputs)
  | some content =>
    if ¬ Headed content then some (-1, outputs)
    else (chunkLoop content fuel 12).map fun found =>
      found.elim (-2, outputs) fun (pos, size) => readFormat content outputs pos size

/-! ## Where the loop ends -/

section Loop
variable (content : List UInt8) (pos : Nat)

def LastChunk : Prop :=
  (fread content pos 8).length ≠ 8 ∨ (fread content pos 8).take 4 = fmt ∨ skipChunk content pos = none

def nextChunk : Nat := (skipChunk content pos).getD pos

/-- The walk over the chunks comes back to one of them. -/
def ChunksCircle : Prop := Orbit.Returns (nextChunk content) (LastChunk content) 12

end Loop

variable {content : List UInt8} {pos fuel : Nat}

theorem chunkLoop_last (last : LastChunk content pos) : (chunkLoop content (fuel + 1) pos).isSome = true := by
  rw [chunkLoop]
  by_cases short : (fread content pos 8).length ≠ 8
  · rw [if_pos short]
    rfl
  by_cases tagged : (fread content pos 8).take 4 = fmt
  · rw [if_neg short, if_pos tagged]
    rfl
  · rw [if_neg short, if_neg tagged, (last.resolve_left short).resolve_left tagged]
    rfl

theorem chunkLoop_next (goesOn : ¬ LastChunk content pos) :
    chunkLoop content (fuel + 1) pos = chunkLoop content fuel (nextChunk content pos) := by
  obtain ⟨whole, other⟩ := not_or.mp goesOn
  obtain ⟨untagged, seeks⟩ := not_or.mp other
  obtain ⟨later, found⟩ := Option.ne_none_iff_exists'.mp seeks
  have next : nextChunk content pos = later := by
    unfold nextChunk
    rw [found, Option.getD_some]
  rw [chunkLoop, if_neg whole, if_neg untagged, found, next, Option.elim_some]

theorem chunkLoop_ends_iff (start : Nat) : (∃ fuel, (chunkLoop content fuel start).isSome = true) ↔
    ¬ Orbit.Returns (nextChunk content) (LastChunk content) start := by
  -- The positions of whole chunk headers are in the file, so the loop ends unless it comes back to one of them.
  have confined : ∀ n, Orbit.Stays (nextChunk content) (LastChunk content) start (n + 1) →
      (nextChunk content)^[n] start ∈ Set.Iic content.length := by
    intro n stays
    have whole : (fread content ((nextChunk content)^[n] start) 8).length = 8 :=
      not_not.mp fun short => stays n (Nat.lt_succ_self n) (.inl short)
    have inside := fread_whole_iff.mp whole
    exact Set.mem_Iic.mpr (by omega)
  rw [← Orbit.leaves_iff (Set.finite_Iic content.length) confined]
  exact Orbit.ends_iff (fun _ => rfl) (fun _ last => ⟨1, chunkLoop_last last⟩) (fun _ _ => chunkLoop_next) start

theorem getWaveFileFormat_headed (headed : Headed content) (outputs : WaveFormat) :
    getWaveFileFormat fuel (some content) outputs =
      (chunkLoop content fuel 12).map fun found =>
        found.elim (-2, outputs) fun (pos, size) => readFormat content outputs pos size :=
  if_neg (not_not.mpr headed)

theorem getWaveFileFormat_other (other : ¬ Headed content) (outputs : WaveFormat) :
    getWaveFileFormat fuel (some content) outputs = some (-1, outputs) := if_pos other

/-- The reader returns unless the sizes of the chunks lead in a circle. -/
theorem getWaveFileFormat_returns_iff (content : List UInt8) (outputs : WaveFormat) :
    (∃ fuel, (getWaveFileFormat fuel (some content) outputs).isSome = true) ↔
      ¬ (Headed content ∧ ChunksCircle content) := by
  by_cases headed : Headed content
  · simp only [getWaveFileFormat_headed headed, Option.isSome_map]
    rw [chunkLoop_ends_iff, and_iff_right headed]
    rfl
  · simp only [getWaveFileFormat_other headed]
    exact iff_of_true ⟨0, rfl⟩ fun circles => headed circles.1

/-- A chunk whose size leads eight bytes back, to its own header. -/
def circlingFile : List UInt8 := riff ++ [0, 0, 0, 0] ++ wave ++ [100, 97, 116, 97, 248, 255, 255, 255]

theorem circlingFile_circles : ChunksCircle circlingFile := by
  have size : chunkSize circlingFile 12 = 4294967288 := by decide
  have back : skipChunk circlingFile 12 = some 12 := by
    unfold skipChunk
    rw [size]
    decide
  have next : nextChunk circlingFile 12 = 12 := by
    unfold nextChunk
    rw [back, Option.getD_some]
  refine ⟨0, 1, Nat.one_pos, ?_, next.symm⟩
  intro k first
  obtain rfl : k = 0 := Nat.lt_one_iff.mp first
  rintro (short | tagged | stuck)
  · exact absurd short (by decide)
  · exact absurd tagged (by decide)
  · change skipChunk circlingFile 12 = none at stuck
    rw [back] at stuck
    cases stuck

theorem getWaveFileFormat_hangs :
    ¬ ∃ fuel, (getWaveFileFormat fuel (some circlingFile) ⟨0, 0, 0⟩).isSome = true := by
  have headed : Headed circlingFile := by decide
  simp only [getWaveFileFormat_headed headed, Option.isSome_map]
  exact fun ended => (chunkLoop_ends_iff 12).mp ended circlingFile_circles

end Foolject.Foolbear
