import Foolject.Foolbear.Wave

/-! Whether a file is a TIFF file, as `foolbear.cpp` decides it.

The two letters of the byte order are tested one by one, and the version and the offset behind them are read in the
order of the host for each of them.
-/

set_option autoImplicit false

namespace Foolject.Foolbear
open Words

structure TiffFileHeader where
  byte1 : UInt8
  byte2 : UInt8
  byte3 : UInt8
  byte4 : UInt8
  offset : Nat
  deriving DecidableEq, Repr

def tiffFileHeader (filehdr : List UInt8) : TiffFileHeader where
  byte1 := filehdr.getD 0 0
  byte2 := filehdr.getD 1 0
  byte3 := filehdr.getD 2 0
  byte4 := filehdr.getD 3 0
  offset := hostWord (filehdr.drop 4)

def TiffFileHeader.Taken (filehdr : TiffFileHeader) : Prop :=
  (0x49 = filehdr.byte1 ∨ 0x4D = filehdr.byte1) ∧ (0x49 = filehdr.byte2 ∨ 0x4D = filehdr.byte2) ∧
    0x2A = filehdr.byte3 ∧ 0x00 = filehdr.byte4 ∧ filehdr.offset ≥ 8

instance : DecidablePred TiffFileHeader.Taken := fun _ => inferInstanceAs (Decidable (_ ∧ _))

/-- Of a file that cannot be opened nothing is known. -/
def isTiffFormatFile (file : Option (List UInt8)) : Bool :=
  match file with
  | none => false
  | some content => (fread content 0 8).length = 8 ∧ (tiffFileHeader (fread content 0 8)).Taken

/-! ## The format -/

/-- The file has a header, with these four bytes and an offset in this byte order behind them. -/
def Starts (content front : List UInt8) (order : ByteOrder) : Prop :=
  8 ≤ content.length ∧ content.take 4 = front ∧ 8 ≤ order.decode ((content.drop 4).take 4)

instance (content front : List UInt8) (order : ByteOrder) : Decidable (Starts content front order) :=
  inferInstanceAs (Decidable (_ ∧ _))

def littleFront : List UInt8 := [0x49, 0x49, 0x2A, 0x00]

def bigFront : List UInt8 := [0x4D, 0x4D, 0x00, 0x2A]

def otherFronts : List (List UInt8) :=
  [[0x49, 0x4D, 0x2A, 0x00], [0x4D, 0x49, 0x2A, 0x00], [0x4D, 0x4D, 0x2A, 0x00]]

/-- The offset has the byte order of the letters. -/
def Tiff (content : List UInt8) : Prop := Starts content littleFront .little ∨ Starts content bigFront .big

instance : DecidablePred Tiff := fun _ => inferInstanceAs (Decidable (_ ∨ _))

def OtherLetters (content : List UInt8) : Prop := ∃ front ∈ otherFronts, Starts content front .little

variable {content : List UInt8}

theorem mem_fronts_iff {b1 b2 b3 b4 : UInt8} : [b1, b2, b3, b4] ∈ littleFront :: otherFronts ↔
    (0x49 = b1 ∨ 0x4D = b1) ∧ (0x49 = b2 ∨ 0x4D = b2) ∧ 0x2A = b3 ∧ 0x00 = b4 := by
  simp only [littleFront, otherFronts, List.mem_cons, List.not_mem_nil, or_false, List.cons.injEq, and_true]
  constructor
  · rintro (⟨rfl, rfl, rfl, rfl⟩ | ⟨rfl, rfl, rfl, rfl⟩ | ⟨rfl, rfl, rfl, rfl⟩ | ⟨rfl, rfl, rfl, rfl⟩)
    · decide
    · decide
    · decide
    · decide
  · rintro ⟨rfl | rfl, rfl | rfl, rfl, rfl⟩
    · decide
    · decide
    · decide
    · decide

/-- What is taken is a little-endian file, or one with other letters. -/
theorem isTiffFormatFile_iff : isTiffFormatFile (some content) = true ↔
    ∃ front ∈ littleFront :: otherFronts, Starts content front .little := by
  refine decide_eq_true_iff.trans ?_
  rw [fread_whole_iff, Nat.sub_zero]
  match content with
  | b1 :: b2 :: b3 :: b4 :: rest =>
    -- The comparisons are those with the four fronts together.
    have taken : (tiffFileHeader (fread (b1 :: b2 :: b3 :: b4 :: rest) 0 8)).Taken ↔
        [b1, b2, b3, b4] ∈ littleFront :: otherFronts ∧ 8 ≤ ByteOrder.little.decode (rest.take 4) := by
      rw [mem_fronts_iff, and_assoc, and_assoc, and_assoc]
      rfl
    rw [taken]
    constructor
    · rintro ⟨long, member, offset⟩
      exact ⟨_, member, long, rfl, offset⟩
    · rintro ⟨front, member, long, rfl, offset⟩
      exact ⟨long, member, offset⟩
  | [] => exact iff_of_false (fun both => absurd both.1 (by decide)) fun ⟨_, _, long, _⟩ => absurd long (by decide)
  | [_] => exact iff_of_false (fun both => absurd both.1 (by simp)) fun ⟨_, _, long, _⟩ => absurd long (by simp)
  | [_, _] => exact iff_of_false (fun both => absurd both.1 (by simp)) fun ⟨_, _, long, _⟩ => absurd long (by simp)
  | [_, _, _] => exact iff_of_false (fun both => absurd both.1 (by simp)) fun ⟨_, _, long, _⟩ => absurd long (by simp)

theorem big_not_taken (big : Starts content bigFront .big) :
    ¬ ∃ front ∈ littleFront :: otherFronts, Starts content front .little := by
  rintro ⟨front, member, taken⟩
  rw [← taken.2.1, big.2.1] at member
  exact absurd member (by decide)

theorem other_not_tiff (other : OtherLetters content) : ¬ Tiff content := by
  obtain ⟨front, member, starts⟩ := other
  rintro (little | big)
  · rw [← starts.2.1, little.2.1] at member
    exact absurd member (by decide)
  · rw [← starts.2.1, big.2.1] at member
    exact absurd member (by decide)

/-- The answer is right but for big-endian files, and for files with other letters in front of little-endian fields. -/
theorem isTiffFormatFile_right_iff (content : List UInt8) : (isTiffFormatFile (some content) = true ↔ Tiff content) ↔
    ¬ Starts content bigFront .big ∧ ¬ OtherLetters content := by
  rw [isTiffFormatFile_iff]
  constructor
  · intro right
    constructor
    · exact fun big => big_not_taken big (right.mpr (.inr big))
    · intro other
      obtain ⟨front, member, starts⟩ := other
      exact other_not_tiff ⟨front, member, starts⟩ (right.mp ⟨front, List.mem_cons_of_mem _ member, starts⟩)
  · rintro ⟨notBig, notOther⟩
    constructor
    · rintro ⟨front, member, starts⟩
      rcases List.mem_cons.mp member with rfl | other
      · exact .inl starts
      · exact absurd ⟨front, other, starts⟩ notOther
    · intro tiff
      exact ⟨littleFront, List.mem_cons_self, tiff.resolve_right notBig⟩

theorem isTiffFormatFile_wrong :
    (isTiffFormatFile (some (bigFront ++ [0, 0, 0, 8])) = false ∧ Tiff (bigFront ++ [0, 0, 0, 8])) ∧
      isTiffFormatFile (some [0x49, 0x4D, 0x2A, 0x00, 8, 0, 0, 0]) = true ∧
        ¬ Tiff [0x49, 0x4D, 0x2A, 0x00, 8, 0, 0, 0] := by
  -- A big-endian file is refused, and one with the letters of two orders is taken.
  decide

end Foolject.Foolbear
