import Foolject.VNClib.RecvFraming

/-! Whether the body of a received message fits into its buffer.

The capacity is computed from the length field of the header, and so is the number of bytes that
`RecvBody` stores. The first computation can overflow.
-/

set_option autoImplicit false

namespace Foolject.VNClib
open Words

def headerLength (headerStream : List UInt8) : Int :=
  wrap 32 (value ((headerStream.drop msgLengthOffset).take 4))

namespace CVNNetMsg

/-- The branch of `InitHeader` that replaces a buffer which is too small. -/
def enlarge (heap : Memory) (msg : CVNNetMsg) (length : Int) : CVNNetMsg :=
  if wrap 32 (length + endOfHeader) > msg.maxLength then
    { msg with data := heap, maxLength := wrap 32 (endOfHeader + length) }
  else msg

def putHeader (msg : CVNNetMsg) (headerStream : List UInt8) : CVNNetMsg :=
  { msg with data := msg.data.store 0 (headerStream.take endOfHeader), pos := endOfHeader }

def initHeader (heap : Memory) (msg : CVNNetMsg) (headerStream : List UInt8) : CVNNetMsg :=
  (enlarge heap msg (headerLength headerStream)).putHeader headerStream

variable {heap : Memory} {msg : CVNNetMsg} {headerStream : List UInt8}

theorem maxLength_enlarge (length : Int) :
    (enlarge heap msg length).maxLength = max msg.maxLength (wrap 32 (endOfHeader + length)) := by
  unfold enlarge
  rw [Int.add_comm length]
  by_cases grows : wrap 32 (endOfHeader + length) > msg.maxLength
  · rw [if_pos grows]
    exact (max_eq_right_of_lt grows).symm
  · rw [if_neg grows]
    exact (max_eq_left (not_lt.mp grows)).symm

theorem maxLength_putHeader : (putHeader msg headerStream).maxLength = msg.maxLength := rfl

theorem maxLength_initHeader : (initHeader heap msg headerStream).maxLength =
    max msg.maxLength (wrap 32 (endOfHeader + headerLength headerStream)) := by
  rw [initHeader, maxLength_putHeader, maxLength_enlarge]

theorem getLength_putHeader (whole : headerStream.length = endOfHeader) :
    (putHeader msg headerStream).getLength = headerLength headerStream := by
  have kept : headerStream.take endOfHeader = headerStream := List.take_of_length_le whole.le
  unfold putHeader
  rw [kept]
  exact getLength_stored _ whole _ _

theorem getLength_initHeader (whole : headerStream.length = endOfHeader) :
    (initHeader heap msg headerStream).getLength = headerLength headerStream := by
  rw [initHeader, getLength_putHeader whole]

theorem getLength_ofHeader (whole : headerStream.length = endOfHeader) :
    (ofHeader heap headerStream).getLength = headerLength headerStream := by
  have kept : headerStream.take endOfHeader = headerStream := List.take_of_length_le whole.le
  unfold ofHeader
  rw [kept]
  exact getLength_stored _ whole _ _

def HasRoom (msg : CVNNetMsg) : Prop := endOfHeader + max msg.getLength 0 ≤ msg.maxLength

theorem write_isNone_iff {target : Int} (above : 0 ≤ target) (bytes : List UInt8) :
    msg.write target bytes = none ↔ msg.maxLength < target + bytes.length := by
  unfold write
  split
  · rename_i fits
    exact ⟨nofun, fun over_ => absurd fits.2 (not_le.mpr over_)⟩
  · rename_i outside
    exact ⟨fun _ => not_le.mp fun fits => outside ⟨above, fits⟩, fun _ => rfl⟩

theorem recvLoop_atOnce (onTimeout : RSINFO) (want : Nat) :
    recvLoop onTimeout want [.data want] [] (List.replicate want 0) =
      .ends .success (List.replicate want 0) (if want = 0 then [.data want] else []) [] := by
  cases want with
  | zero => rfl
  | succ want =>
    have all : (List.replicate (want + 1) (0 : UInt8)).length = want + 1 := List.length_replicate
    simp [recvLoop, all]

theorem hasRoom_iff : msg.HasRoom ↔ endOfHeader + (msg.getLength.toNat : Int) ≤ msg.maxLength := by
  rw [HasRoom, Int.toNat_eq_max]

theorem recvBody_wild {answers left : List RecvAnswer} {body incoming rest : List UInt8} {rc : RSINFO}
    (got : recvLoop .failed msg.getLength.toNat answers [] incoming = .ends rc body left rest)
    (behind : msg.maxLength < endOfHeader + body.length) : recvBody msg answers incoming = .wild := by
  have fails : msg.write endOfHeader body = none := (write_isNone_iff (by decide) body).mpr behind
  unfold recvBody
  rw [got]
  simp only [fails]

/-- Some answers of the socket make `RecvBody` write behind the buffer, unless there is room. -/
theorem recvBody_wild_iff :
    (∃ answers incoming, recvBody msg answers incoming = .wild) ↔ ¬ msg.HasRoom := by
  rw [hasRoom_iff, not_le]
  constructor
  · rintro ⟨answers, incoming, wild⟩
    unfold recvBody at wild
    generalize msg.getLength.toNat = want at wild ⊢
    rcases got : recvLoop .failed want answers [] incoming with _ | ⟨rc, body, left, rest⟩
    · rw [got] at wild
      cases wild
    · have stored : body.length ≤ want := recvLoop_length (Nat.zero_le _) got
      rw [got] at wild
      cases written : msg.write endOfHeader body with
      | none =>
        have behind := (write_isNone_iff (by decide) body).mp written
        omega
      | some msg =>
        simp only [written] at wild
        cases wild
  · intro small
    refine ⟨_, _, recvBody_wild (recvLoop_atOnce .failed msg.getLength.toNat) ?_⟩
    rw [List.length_replicate]
    exact small

def BodyFits (headerStream : List UInt8) (msg : CVNNetMsg) : Prop :=
  endOfHeader + max (headerLength headerStream) 0 ≤ msg.maxLength ∧
    ∀ answers incoming, recvBody msg answers incoming ≠ .wild

theorem bodyFits_iff (same : msg.getLength = headerLength headerStream) :
    msg.BodyFits headerStream ↔ endOfHeader + max (headerLength headerStream) 0 ≤ msg.maxLength := by
  constructor
  · exact And.left
  · intro room
    refine ⟨room, fun answers incoming wild => ?_⟩
    rw [← same] at room
    exact recvBody_wild_iff.mp ⟨answers, incoming, wild⟩ room

theorem room_iff {length capacity : Int} (int : Fits 32 length) (small : capacity < 2 ^ 31) :
    endOfHeader + max length 0 ≤ max capacity (wrap 32 (endOfHeader + length)) ↔
      length < 2 ^ 31 - endOfHeader ∧ (0 ≤ length ∨ endOfHeader ≤ capacity) := by
  -- The sum of the header and the length is computed as an int. Where it overflows it is negative.
  obtain ⟨low, high⟩ := int
  have below : wrap 32 (endOfHeader + length) < 2 ^ 31 := (fits_wrap (by decide) _).2
  -- A sum that overflows is below the header, so it is the capacity that was there which decides.
  by_cases addable : length < 2 ^ 31 - endOfHeader
  · have sum : wrap 32 (endOfHeader + length) = endOfHeader + length := by
      apply wrap_of_fits (by decide)
      simp only [endOfHeader] at low addable ⊢
      constructor
      · omega
      · omega
    rw [sum]
    simp only [endOfHeader] at low addable ⊢
    omega
  · obtain ⟨sum, shape⟩ : ∃ sum, sum = wrap 32 (endOfHeader + length) := ⟨_, rfl⟩
    rw [← shape] at below ⊢
    simp only [endOfHeader] at addable ⊢
    omega

/-- The body fits exactly if its length can be added to that of the header, and if a buffer that
was there before a negative length is not smaller than the header. -/
theorem body_fits (heap : Memory) {headerStream : List UInt8} (whole : headerStream.length = endOfHeader)
    {earlier : CVNNetMsg} (small : earlier.maxLength < 2 ^ 31) :
    ((ofHeader heap headerStream).BodyFits headerStream ↔ headerLength headerStream < 2 ^ 31 - endOfHeader) ∧
    ((initHeader heap earlier headerStream).BodyFits headerStream ↔
      headerLength headerStream < 2 ^ 31 - endOfHeader ∧
        (0 ≤ headerLength headerStream ∨ endOfHeader ≤ earlier.maxLength)) := by
  have int : Fits 32 (headerLength headerStream) := fits_wrap (by decide) _
  constructor
  · rw [bodyFits_iff (getLength_ofHeader whole)]
    refine (room_iff int (by decide)).trans (and_iff_left (.inr (by decide)))
  · rw [bodyFits_iff (getLength_initHeader whole), maxLength_initHeader]
    exact room_iff int small

def sizedHeader (length : Int) : List UInt8 := 2 :: 0 :: bigEndian 4 length ++ List.replicate 16 0

theorem body_fits_small :
    (ofHeader (fun _ => 0) (sizedHeader 200)).BodyFits (sizedHeader 200) ∧
    (initHeader (fun _ => 0) (ofType (fun _ => 0) .request) (sizedHeader 200)).BodyFits (sizedHeader 200) := by
  have fits := @body_fits (fun _ => 0) (sizedHeader 200) (by decide) (ofType (fun _ => 0) .request) (by decide)
  exact ⟨fits.1.mpr (by decide), fits.2.mpr (by decide)⟩

theorem body_overflows :
    (ofHeader (fun _ => 0) (sizedHeader (2 ^ 31 - 1))).maxLength = 128 ∧
    ¬ (ofHeader (fun _ => 0) (sizedHeader (2 ^ 31 - 1))).BodyFits (sizedHeader (2 ^ 31 - 1)) ∧
    recvBody (ofHeader (fun _ => 0) (sizedHeader (2 ^ 31 - 1))) [.data 200, .timeout]
      (List.replicate 200 0) = .wild := by
  -- The largest length: the sum is negative, the buffer has its
  -- least size, and a body that is longer than the buffer is stored.
  have capacity : (ofHeader (fun _ => 0) (sizedHeader (2 ^ 31 - 1))).maxLength = 128 := by decide +kernel
  have want : (ofHeader (fun _ => 0) (sizedHeader (2 ^ 31 - 1))).getLength.toNat = 2147483647 := by decide +kernel
  have got : recvLoop .failed (ofHeader (fun _ => 0) (sizedHeader (2 ^ 31 - 1))).getLength.toNat
      [.data 200, .timeout] [] (List.replicate 200 0) = .ends .failed (List.replicate 200 0) [] [] := by
    rw [want]
    decide +kernel
  have behind : (ofHeader (fun _ => 0) (sizedHeader (2 ^ 31 - 1))).maxLength <
      endOfHeader + (List.replicate 200 (0 : UInt8)).length := by
    rw [capacity, List.length_replicate]
    decide
  refine ⟨capacity, fun fits => ?_, recvBody_wild got behind⟩
  have room := fits.1
  rw [capacity] at room
  exact absurd room (by decide +kernel)

end CVNNetMsg

end Foolject.VNClib
