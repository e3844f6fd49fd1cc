import Foolject.Foolbear.Wave

/-! Which files the reader of the WAV header accepts.

The documented format is given as a grammar of the bytes. What the loop finds in a file with chunks of ordinary sizes
is the first `fmt ` chunk of that grammar, and its size is bounded from above only.
-/

set_option autoImplicit false

namespace Foolject.Foolbear
open Words

/-! ## The documented format -/

def padded (size : Nat) : Nat := size + size % 2

/-- Behind the header of the file: the first chunk named `fmt ` is complete, with this size and these data. -/
inductive FirstFmt : List UInt8 → Nat → List UInt8 → Prop where
  | here (sizeBytes data rest : List UInt8) : sizeBytes.length = 4 → data.length = padded (hostWord sizeBytes) →
      FirstFmt (fmt ++ sizeBytes ++ data ++ rest) (hostWord sizeBytes) data
  | later (id sizeBytes skipped rest : List UInt8) {size : Nat} {data : List UInt8} : id.length = 4 → id ≠ fmt →
      sizeBytes.length = 4 → skipped.length = padded (hostWord sizeBytes) → FirstFmt rest size data →
      FirstFmt (id ++ sizeBytes ++ skipped ++ rest) size data

def WaveFile (content : List UInt8) (size : Nat) (data : List UInt8) : Prop :=
  ∃ riffsize rest, riffsize.length = 4 ∧ content = riff ++ riffsize ++ wave ++ rest ∧ FirstFmt rest size data

/-- The chunk holds at least the format, and no more than there is room for. -/
def Documented (content data : List UInt8) : Prop :=
  ∃ size, WaveFile content size data ∧ 16 ≤ size ∧ size ≤ sizeofWaveinfo

variable {content bytes data : List UInt8} {size pos fuel : Nat}

/-! ## The grammar, read from the front -/

theorem FirstFmt.long (found : FirstFmt bytes size data) : 8 ≤ bytes.length := by
  cases found with
  | here sizeBytes data rest four =>
    simp only [List.length_append, four, fmt, List.length_cons, List.length_nil]
    omega
  | later id sizeBytes skipped rest tag _ four =>
    simp only [List.length_append, four, tag]
    omega

theorem split_chunk (bytes : List UInt8) (count : Nat) :
    bytes = bytes.take 4 ++ (bytes.drop 4).take 4 ++ (bytes.drop 8).take count ++ bytes.drop (8 + count) := by
  have behind : (bytes.drop 8).take count ++ bytes.drop (8 + count) = bytes.drop 8 := by
    rw [← List.drop_drop, List.take_append_drop]
  have word : (bytes.drop 4).take 4 ++ bytes.drop 8 = bytes.drop 4 := by
    rw [show bytes.drop 8 = (bytes.drop 4).drop 4 by rw [List.drop_drop], List.take_append_drop]
  rw [List.append_assoc, behind, List.append_assoc, word, List.take_append_drop]

theorem chunk_parts {id sizeBytes tail : List UInt8} (tag : id.length = 4) (four : sizeBytes.length = 4) :
    (id ++ sizeBytes ++ tail).take 4 = id ∧ ((id ++ sizeBytes ++ tail).drop 4).take 4 = sizeBytes ∧
      (id ++ sizeBytes ++ tail).drop 8 = tail := by
  have eight : (id ++ sizeBytes).length = 8 := by rw [List.length_append, tag, four]
  refine ⟨?_, ?_, ?_⟩
  · rw [List.append_assoc, List.take_left' tag]
  · rw [List.append_assoc, List.drop_left' tag, List.take_left' four]
  · exact List.drop_left' eight

theorem firstFmt_here_iff (whole : 8 ≤ bytes.length) (tagged : bytes.take 4 = fmt) :
    FirstFmt bytes size data ↔ size = hostWord ((bytes.drop 4).take 4) ∧
      data = (bytes.drop 8).take (padded size) ∧ data.length = padded size := by
  constructor
  · intro found
    cases found with
    | here sizeBytes data rest four present =>
      obtain ⟨-, word, behind⟩ := @chunk_parts fmt sizeBytes (data ++ rest) rfl four
      rw [← List.append_assoc] at word behind
      rw [word, behind]
      exact ⟨rfl, (List.take_left' present).symm, present⟩
    | later id sizeBytes skipped rest tag other four present rest_ =>
      obtain ⟨front, -⟩ := @chunk_parts id sizeBytes (skipped ++ rest) tag four
      rw [← List.append_assoc, tagged] at front
      exact absurd front.symm other
  · rintro ⟨rfl, rfl, present⟩
    have four : ((bytes.drop 4).take 4).length = 4 := by
      rw [List.length_take, List.length_drop]
      omega
    have found := FirstFmt.here _ _ (bytes.drop (8 + padded (hostWord ((bytes.drop 4).take 4)))) four present
    rw [← tagged, ← split_chunk] at found
    exact found

theorem firstFmt_later_iff (whole : 8 ≤ bytes.length) (untagged : bytes.take 4 ≠ fmt) :
    FirstFmt bytes size data ↔ FirstFmt (bytes.drop (8 + padded (hostWord ((bytes.drop 4).take 4)))) size data := by
  constructor
  · intro found
    cases found with
    | here sizeBytes data rest four present =>
      obtain ⟨front, -⟩ := @chunk_parts fmt sizeBytes (data ++ rest) rfl four
      rw [← List.append_assoc] at front
      exact absurd front untagged
    | later id sizeBytes skipped rest tag other four present rest_ =>
      obtain ⟨-, word, behind⟩ := @chunk_parts id sizeBytes (skipped ++ rest) tag four
      rw [← List.append_assoc] at word behind
      rw [word, ← List.drop_drop, behind, List.drop_left' present]
      exact rest_
  · intro found
    -- Something is left, so the chunk that is skipped is complete.
    have left := found.long
    rw [List.length_drop] at left
    have four : ((bytes.drop 4).take 4).length = 4 := by
      rw [List.length_take, List.length_drop]
      omega
    have present : ((bytes.drop 8).take (padded (hostWord ((bytes.drop 4).take 4)))).length =
        padded (hostWord ((bytes.drop 4).take 4)) := by
      rw [List.length_take, List.length_drop]
      omega
    have tag : (bytes.take 4).length = 4 := by
      rw [List.length_take]
      omega
    have all := FirstFmt.later _ _ _ _ tag untagged four present found
    rw [← split_chunk] at all
    exact all

/-! ## What the loop finds -/

/-- Rounded up, a size of this range is the number of bytes up to the next chunk. -/
theorem skipSize_small (small : size < 2147483647) : skipSize size = (padded size : Nat) := by
  have rounded : (size + 1) % 4294967296 / 2 * 2 = padded size := by
    unfold padded
    omega
  unfold skipSize
  rw [rounded]
  refine wrap_of_fits (by decide) ⟨?_, ?_⟩
  · exact le_trans (by decide) (Int.natCast_nonneg _)
  · unfold padded
    have bound : ((size + size % 2 : Nat) : Int) < 2147483648 := by omega
    exact bound

def SmallFrom (content : List UInt8) (pos : Nat) : Prop :=
  ∀ n, Orbit.Stays (nextChunk content) (LastChunk content) pos n →
    (fread content ((nextChunk content)^[n] pos) 8).length = 8 →
    chunkSize content ((nextChunk content)^[n] pos) < 2147483647

theorem SmallFrom.at_ (small : SmallFrom content pos) {n : Nat}
    (stays : Orbit.Stays (nextChunk content) (LastChunk content) pos n)
    (whole : (fread content ((nextChunk content)^[n] pos) 8).length = 8) :
    skipChunk content ((nextChunk content)^[n] pos) = some ((nextChunk content)^[n] pos +
      (8 + padded (chunkSize content ((nextChunk content)^[n] pos)))) := by
  unfold skipChunk
  rw [skipSize_small (small n stays whole), fseekCur_nat, Nat.add_assoc]

theorem SmallFrom.head (small : SmallFrom content pos) (whole : (fread content pos 8).length = 8) :
    skipChunk content pos = some (pos + (8 + padded (chunkSize content pos))) := by
  rw [← Function.iterate_zero_apply (nextChunk content) pos] at whole
  have first := small.at_ Orbit.stays_zero whole
  rwa [Function.iterate_zero_apply] at first

theorem SmallFrom.next (small : SmallFrom content pos) (goesOn : ¬ LastChunk content pos) :
    SmallFrom content (nextChunk content pos) := by
  intro n stays whole
  rw [← Function.iterate_succ_apply] at whole ⊢
  exact small (n + 1) (Orbit.stays_succ.mpr ⟨goesOn, stays⟩) whole

theorem SmallFrom.behind (small : SmallFrom content pos) (whole : (fread content pos 8).length = 8)
    (untagged : (fread content pos 8).take 4 ≠ fmt) :
    SmallFrom content (pos + (8 + padded (chunkSize content pos))) := by
  have goesOn : ¬ LastChunk content pos := by
    rintro (missing | found | stuck)
    · exact missing whole
    · exact untagged found
    · rw [small.head whole] at stuck
      cases stuck
  have next : nextChunk content pos = pos + (8 + padded (chunkSize content pos)) := by
    unfold nextChunk
    rw [small.head whole, Option.getD_some]
  exact next ▸ small.next goesOn

theorem chunkSize_eq (content : List UInt8) (pos : Nat) :
    chunkSize content pos = hostWord (((content.drop pos).drop 4).take 4) := by
  unfold chunkSize fread
  rw [List.drop_take]

theorem fread_front (content : List UInt8) (pos : Nat) :
    (fread content pos 8).take 4 = (content.drop pos).take 4 := by
  unfold fread
  rw [List.take_take]
  rfl

/-- The loop finds the `fmt ` chunk of the grammar, except that it does not look whether the chunk is complete. -/
theorem chunkLoop_finds {result : Option (Nat × Nat)} (small : SmallFrom content pos)
    (returns : chunkLoop content fuel pos = some result) : FirstFmt (content.drop pos) size data ↔
      ∃ at_, result = some (at_, size) ∧ data = fread content at_ (padded size) ∧ data.length = padded size := by
  induction fuel generalizing pos with
  | zero => cases returns
  | succ fuel ih =>
    rw [chunkLoop] at returns
    by_cases short : (fread content pos 8).length ≠ 8
    · -- The file ends, and so does the grammar.
      rw [if_pos short] at returns
      rw [← Option.some.inj returns]
      constructor
      · intro found
        have long := found.long
        rw [List.length_drop] at long
        exact absurd (fread_whole_iff.mpr long) short
      · rintro ⟨at_, nothing, -⟩
        cases nothing
    rw [if_neg short] at returns
    have whole := not_not.mp short
    have long : 8 ≤ (content.drop pos).length := by
      rw [List.length_drop]
      exact fread_whole_iff.mp whole
    by_cases tagged : (fread content pos 8).take 4 = fmt
    · -- The chunk is found, complete or not.
      rw [if_pos tagged] at returns
      rw [← Option.some.inj returns, firstFmt_here_iff long (by rw [← fread_front, tagged]), ← chunkSize_eq]
      rw [List.drop_drop]
      constructor
      · rintro ⟨rfl, present⟩
        exact ⟨pos + 8, rfl, present⟩
      · rintro ⟨at_, same, present⟩
        obtain ⟨rfl, rfl⟩ := Prod.mk.inj (Option.some.inj same)
        exact ⟨rfl, present⟩
    · rw [if_neg tagged, small.head whole, Option.elim_some] at returns
      rw [firstFmt_later_iff long (by rwa [← fread_front]), ← chunkSize_eq, List.drop_drop]
      exact ih (small.behind whole tagged) returns

theorem SmallFrom.ends (small : SmallFrom content pos) :
    ¬ Orbit.Returns (nextChunk content) (LastChunk content) pos := by
  -- Each chunk is behind the one before, so the loop ends.
  have climbs (n : Nat) (stays : Orbit.Stays (nextChunk content) (LastChunk content) pos (n + 1)) :
      (nextChunk content)^[n] pos < (nextChunk content)^[n + 1] pos := by
    have before : Orbit.Stays (nextChunk content) (LastChunk content) pos n :=
      fun k below => stays k (Nat.lt_succ_of_lt below)
    have whole : (fread content ((nextChunk content)^[n] pos) 8).length = 8 :=
      not_not.mp fun short => stays n (Nat.lt_succ_self n) (.inl short)
    have skipped := small.at_ before whole
    rw [Function.iterate_succ_apply']
    generalize (nextChunk content)^[n] pos = at_ at skipped
    unfold nextChunk
    rw [skipped, Option.getD_some]
    omega
  exact Orbit.not_returns_of_climbs (fun pos => pos) climbs

/-! ## What the reader accepts -/

/-- An accepted chunk is complete, and not too large. -/
theorem readFormat_eq (content : List UInt8) (outputs : WaveFormat) (pos size : Nat) :
    readFormat content outputs pos size =
      if size ≤ sizeofWaveinfo ∧ (fread content pos (padded size)).length = padded size then
        (0, waveFormat (overlay (fread content pos (padded size)) (List.replicate sizeofWaveinfo 0)))
      else (-3, outputs) := by
  unfold readFormat
  by_cases large : size > sizeofWaveinfo
  · rw [if_pos (.inl large), if_neg fun accepted => absurd accepted.1 (Nat.not_le.mpr large)]
  · have words : 2 * fmtWords size = padded size := by
      simp only [sizeofWaveinfo] at large
      unfold fmtWords padded
      omega
    rw [words]
    by_cases present : (fread content pos (padded size)).length = padded size
    · have taken : ¬ (size > sizeofWaveinfo ∨ (fread content pos (padded size)).length / 2 ≠ fmtWords size) := by
        rintro (past | missing)
        · exact large past
        · rw [present, ← words] at missing
          omega
      rw [if_neg taken, if_pos ⟨Nat.le_of_not_lt large, present⟩]
    · have refused : (fread content pos (padded size)).length / 2 ≠ fmtWords size := by
        rw [length_fread] at present ⊢
        omega
      rw [if_pos (.inr refused), if_neg fun accepted => present accepted.2]

/-- The fields are read from the chunk, if it holds them all. -/
theorem waveFormat_overlay (data zeros : List UInt8) (enough : 16 ≤ data.length) :
    waveFormat (overlay data zeros) = waveFormat data := by
  unfold waveFormat overlay
  congr 2
  · rw [List.take_append_of_le_length (by omega)]
  · rw [List.drop_append_of_le_length (by omega), List.take_append_of_le_length (by rw [List.length_drop]; omega)]
  · rw [List.drop_append_of_le_length (by omega), List.take_append_of_le_length (by rw [List.length_drop]; omega)]

theorem headed_iff : Headed content ↔
    12 ≤ content.length ∧ content.take 4 = riff ∧ (content.drop 8).take 4 = wave := by
  have front : (fread content 0 12).take 4 = content.take 4 := by
    unfold fread
    rw [List.drop_zero, List.take_take]
    rfl
  have back : ((fread content 0 12).drop 8).take 4 = (content.drop 8).take 4 := by
    unfold fread
    rw [List.drop_zero, List.drop_take, List.take_take]
    rfl
  unfold Headed
  rw [front, back, fread_whole_iff, Nat.sub_zero]

theorem waveFile_iff : WaveFile content size data ↔ Headed content ∧ FirstFmt (content.drop 12) size data := by
  rw [headed_iff]
  constructor
  · rintro ⟨riffsize, rest, four, rfl, found⟩
    have parts := @chunk_parts riff riffsize (wave ++ rest) rfl four
    rw [← List.append_assoc] at parts
    obtain ⟨front, -, behind⟩ := parts
    have skipped : (riff ++ riffsize ++ wave ++ rest).drop 12 = rest := by
      rw [show (12 : Nat) = 8 + 4 from rfl, ← List.drop_drop, behind]
      exact List.drop_left' rfl
    rw [skipped, behind]
    refine ⟨⟨?_, front, List.take_left' rfl⟩, found⟩
    simp only [List.length_append, four, riff, wave, List.length_cons, List.length_nil]
    omega
  · rintro ⟨⟨long, front, back⟩, found⟩
    refine ⟨(content.drop 4).take 4, content.drop 12, ?_, ?_, found⟩
    · rw [List.length_take, List.length_drop]
      omega
    · rw [← front, ← back]
      exact split_chunk content 4

/-- The reader returns 0 on exactly the documented files, with the values of the chunk, and else leaves the outputs. -/
structure Accepts (content : List UInt8) (outputs : WaveFormat) (result : Int × WaveFormat) : Prop where
  returns : result.1 = 0 ↔ ∃ data, Documented content data
  values : ∀ data, Documented content data → result.2 = waveFormat data
  untouched : result.1 ≠ 0 → result.2 = outputs

def ShortFmt (content : List UInt8) : Prop := ∃ size data, WaveFile content size data ∧ size < 16

theorem accepts_refused {outputs : WaveFormat} {code : Int} (error : code ≠ 0)
    (none_ : ∀ size data, WaveFile content size data → sizeofWaveinfo < size) :
    Accepts content outputs (code, outputs) ∧ ¬ ShortFmt content := by
  have undocumented : ¬ ∃ data, Documented content data := by
    rintro ⟨data, size, found, -, room⟩
    exact absurd room (Nat.not_le.mpr (none_ size data found))
  refine ⟨⟨iff_of_false error undocumented, ?_, fun _ => rfl⟩, ?_⟩
  · exact fun data documented => absurd ⟨data, documented⟩ undocumented
  · rintro ⟨size, data, found, short⟩
    have large := none_ size data found
    simp only [sizeofWaveinfo] at large
    omega

theorem accepts_taken {outputs : WaveFormat} (found : WaveFile content size data) (present : data.length = padded size)
    (unique : ∀ other more, WaveFile content other more → other = size ∧ more = data) (room : size ≤ sizeofWaveinfo) :
    Accepts content outputs (0, waveFormat (overlay data (List.replicate sizeofWaveinfo 0))) ↔ ¬ ShortFmt content := by
  constructor
  · rintro accepts ⟨other, more, same, short⟩
    obtain ⟨data', size', documented, enough, -⟩ := accepts.returns.mp rfl
    rw [(unique other more same).1] at short
    rw [(unique size' data' documented).1] at enough
    omega
  · intro long
    have enough : 16 ≤ size := Nat.le_of_not_lt fun short => long ⟨size, data, found, short⟩
    have all : 16 ≤ data.length := by
      rw [present]
      unfold padded
      omega
    refine ⟨iff_of_true rfl ⟨data, size, found, enough, room⟩, ?_, fun error => absurd rfl error⟩
    rintro more ⟨other, same, -⟩
    rw [(unique other more same).2]
    exact waveFormat_overlay data _ all

/-- With chunks of ordinary sizes the reader returns, and it accepts the documented files exactly if the first `fmt `
chunk is not a complete one that is too short. -/
theorem getWaveFileFormat_accepts (content : List UInt8) (outputs : WaveFormat)
    (small : Headed content → SmallFrom content 12) :
    (∃ fuel, (getWaveFileFormat fuel (some content) outputs).isSome = true) ∧
    ∀ fuel result, getWaveFileFormat fuel (some content) outputs = some result →
      (Accepts content outputs result ↔ ¬ ShortFmt content) := by
  by_cases headed : Headed content
  · simp only [getWaveFileFormat_headed headed, Option.isSome_map]
    refine ⟨(chunkLoop_ends_iff 12).mpr (small headed).ends, ?_⟩
    intro fuel result returns
    obtain ⟨found, looped, rfl⟩ := Option.map_eq_some_iff.mp returns
    have finds (size : Nat) (data : List UInt8) : WaveFile content size data ↔
        ∃ at_, found = some (at_, size) ∧ data = fread content at_ (padded size) ∧ data.length = padded size :=
      waveFile_iff.trans ((and_iff_right headed).trans (chunkLoop_finds (small headed) looped))
    cases found with
    | none =>
      have refused := @accepts_refused content outputs (-2) (by decide) fun size data file => by
        obtain ⟨at_, nothing, -⟩ := (finds size data).mp file
        cases nothing
      exact iff_of_true refused.1 refused.2
    | some found =>
      obtain ⟨at_, size⟩ := found
      change Accepts content outputs (readFormat content outputs at_ size) ↔ _
      rw [readFormat_eq]
      by_cases taken : size ≤ sizeofWaveinfo ∧ (fread content at_ (padded size)).length = padded size
      · rw [if_pos taken]
        refine accepts_taken ((finds size _).mpr ⟨at_, rfl, rfl, taken.2⟩) taken.2 ?_ taken.1
        intro other more file
        obtain ⟨at', same, rfl, -⟩ := (finds other more).mp file
        obtain ⟨rfl, rfl⟩ := Prod.mk.inj (Option.some.inj same)
        exact ⟨rfl, rfl⟩
      · rw [if_neg taken]
        have refused := @accepts_refused content outputs (-3) (by decide) fun other more file => by
          obtain ⟨at', same, rfl, present⟩ := (finds other more).mp file
          obtain ⟨rfl, rfl⟩ := Prod.mk.inj (Option.some.inj same)
          exact Nat.lt_of_not_le fun room => taken ⟨room, present⟩
        exact iff_of_true refused.1 refused.2
  · simp only [getWaveFileFormat_other headed]
    refine ⟨⟨0, rfl⟩, fun fuel result returns => ?_⟩
    rw [← Option.some.inj returns]
    have refused := @accepts_refused content outputs (-1) (by decide) fun size data file =>
      absurd (waveFile_iff.mp file).1 headed
    exact iff_of_true refused.1 refused.2

def eightBit : List UInt8 :=
  riff ++ [38, 0, 0, 0] ++ wave ++ ([76, 73, 83, 84] ++ [1, 0, 0, 0] ++ [7, 0]) ++
    (fmt ++ [16, 0, 0, 0] ++ [1, 0, 1, 0, 64, 31, 0, 0, 64, 31, 0, 0, 1, 0, 8, 0])

theorem eightBit_small : SmallFrom eightBit 12 := by
  have next : nextChunk eightBit 12 = 22 := by decide
  have last : LastChunk eightBit 22 := .inr (.inl (by decide))
  have sizes : chunkSize eightBit 12 = 1 ∧ chunkSize eightBit 22 = 16 := by decide
  intro n stays _
  have early : n = 0 ∨ n = 1 := by
    by_contra later
    have ended := stays 1 (by omega)
    rw [Function.iterate_one, next] at ended
    exact ended last
  rcases early with rfl | rfl
  · rw [Function.iterate_zero_apply, sizes.1]
    decide
  · rw [Function.iterate_one, next, sizes.2]
    decide

theorem eightBit_documented : Documented eightBit [1, 0, 1, 0, 64, 31, 0, 0, 64, 31, 0, 0, 1, 0, 8, 0] := by
  refine ⟨16, ⟨[38, 0, 0, 0], _, rfl, List.append_assoc _ _ _, ?_⟩, by decide, by decide⟩
  exact .later [76, 73, 83, 84] [1, 0, 0, 0] [7, 0] _ rfl (by decide) rfl rfl
    (.here [16, 0, 0, 0] [1, 0, 1, 0, 64, 31, 0, 0, 64, 31, 0, 0, 1, 0, 8, 0] [] rfl rfl)

theorem getWaveFileFormat_accepts_eightBit : ∃ fuel result,
    getWaveFileFormat fuel (some eightBit) ⟨0, 0, 0⟩ = some result ∧ result = (0, ⟨1, 8000, 8⟩) := by
  obtain ⟨⟨fuel, ended⟩, accepts⟩ := getWaveFileFormat_accepts eightBit ⟨0, 0, 0⟩ fun _ => eightBit_small
  obtain ⟨result, returns⟩ := Option.isSome_iff_exists.mp ended
  have long : ¬ ShortFmt eightBit := by
    rintro ⟨size, data, found, short⟩
    have second := (firstFmt_later_iff (by decide) (by decide)).mp (waveFile_iff.mp found).2
    have sixteen : size = 16 := ((firstFmt_here_iff (by decide) (by decide)).mp second).1.trans (by decide)
    omega
  have accepted := (accepts fuel result returns).mpr long
  refine ⟨fuel, result, returns, Prod.ext ?_ ?_⟩
  · exact accepted.returns.mpr ⟨_, eightBit_documented⟩
  · exact (accepted.values _ eightBit_documented).trans (by decide)

def encodingOnly : List UInt8 := riff ++ [14, 0, 0, 0] ++ wave ++ (fmt ++ [2, 0, 0, 0] ++ [6, 0])

theorem getWaveFileFormat_short :
    getWaveFileFormat 1 (some encodingOnly) ⟨9, 9, 9⟩ = some (0, ⟨6, 0, 0⟩) ∧
      ¬ Accepts encodingOnly ⟨9, 9, 9⟩ (0, ⟨6, 0, 0⟩) := by
  -- It is taken, and the values that it does not hold are zero.
  refine ⟨by decide, fun accepts => ?_⟩
  obtain ⟨data, size, found, enough, -⟩ := accepts.returns.mp rfl
  have first := (firstFmt_here_iff (by decide) (by decide)).mp (waveFile_iff.mp found).2
  have two : size = 2 := first.1.trans (by decide)
  omega

end Foolject.Foolbear
