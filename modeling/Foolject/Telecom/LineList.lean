import Foolject.Lib.Words
import Foolject.Telecom.Line

/-! The text and the table of devices that a work thread puts together before it waits for events.

The text is written without a look at the size of its array, with an index and a comma for each line of the group.
-/

set_option autoImplicit false

namespace Foolject.Telecom
open Transducer

def maxChannelCount : Nat := 512

def numOfQueues : Nat := 1

def sizeofStrlinelist : Nat := 1024

structure WorkLine extends TLine where
  gcDev : Int
  voiceDev : Int

structure Installation where
  numOfLines : UInt32
  lines : List WorkLine
  sized : lines.length = numOfLines.toNat
  indexed : ∀ (i : Nat) (line : WorkLine), lines[i]? = some line → line.index = i

def configLines (numOfLines : UInt32) (lines : List WorkLine) (resized : lines.length = numOfLines.toNat) :
    Installation where
  numOfLines := numOfLines
  lines := lines.mapIdx fun index line => { line with index := index }
  sized := by rw [List.length_mapIdx, resized]
  indexed := by
    intro i line found
    rw [List.getElem?_mapIdx] at found
    obtain ⟨before, -, rfl⟩ := Option.map_eq_some_iff.mp found
    rfl

def decimal (word : Nat) : List Char :=
  let value := Words.wrap 32 word
  if value < 0 then '-' :: Nat.toDigits 10 value.natAbs else Nat.toDigits 10 value.natAbs

/-- The arrays: the characters of `strlinelist`, and `devs` up to `group_handle_count`. -/
structure WorkArrays where
  strlinelist : List Char
  devs : List Int

def WorkArrays.empty : WorkArrays := ⟨[], []⟩

def WorkArrays.Fits (arrays : WorkArrays) : Prop :=
  arrays.strlinelist.length + 1 ≤ sizeofStrlinelist ∧ arrays.devs.length ≤ maxChannelCount * 2

/-- The outputs are the arrays after each write. -/
abbrev WorkRoutine := Transducer WorkArrays WorkArrays

def write (change : WorkArrays → WorkArrays) : WorkRoutine :=
  andThen (modify change) (emit fun arrays => [arrays])

def addDev (dev : Int) : WorkRoutine :=
  write fun arrays => { arrays with devs := arrays.devs ++ [dev] }

def sprintf (text : List Char) : WorkRoutine :=
  write fun arrays => { arrays with strlinelist := text }

def strcat (text : List Char) : WorkRoutine :=
  write fun arrays => { arrays with strlinelist := arrays.strlinelist ++ text }

namespace Installation

def getLine (tel : Installation) (index : Nat) : Option WorkLine := tel.lines[index]?

/-- A turn of the loop over the lines. The text of an index comes by way of `tempbuf`. -/
def collectLine (tel : Installation) (groupId i : Nat) : WorkRoutine :=
  if groupId = i % numOfQueues then
    match tel.getLine i with
    | none => skip
    | some line =>
      andThen (addDev line.gcDev) (andThen (addDev line.voiceDev) (strcat (decimal line.index ++ [','])))
  else skip

def collectLines (tel : Installation) (groupId : Nat) : WorkRoutine :=
  andThen (sprintf ("workThread for Queue ".toList ++ decimal groupId ++ " [line:".toList))
    (runAll (tel.collectLine groupId) (List.range tel.numOfLines.toNat))

/-- The last comma gives way to the end of the text. -/
def closeList : WorkRoutine :=
  andThen (write fun arrays => { arrays with strlinelist := arrays.strlinelist.dropLast })
    (strcat "] running...".toList)

def lineList (tel : Installation) (groupId : Nat) : WorkRoutine :=
  andThen (tel.collectLines groupId) closeList

end Installation

/-! ## The arrays grow -/

def WorkArrays.Within (arrays later : WorkArrays) : Prop :=
  arrays.strlinelist.length ≤ later.strlinelist.length ∧ arrays.devs.length ≤ later.devs.length

theorem WorkArrays.Within.refl (arrays : WorkArrays) : arrays.Within arrays := ⟨le_refl _, le_refl _⟩

theorem WorkArrays.Within.trans {first second third : WorkArrays} (one : first.Within second)
    (two : second.Within third) : first.Within third := ⟨one.1.trans two.1, one.2.trans two.2⟩

theorem WorkArrays.Within.fits {arrays later : WorkArrays} (within : arrays.Within later) (fits : later.Fits) :
    arrays.Fits := ⟨(Nat.add_le_add_right within.1 1).trans fits.1, within.2.trans fits.2⟩

/-- What is there before, and after each write, is within what is there at the end. -/
def Grows (before : WorkArrays) (outputs : List WorkArrays) (after : WorkArrays) : Prop :=
  before.Within after ∧ ∀ arrays ∈ outputs, arrays.Within after

theorem grows_composes : Composes Grows where
  nothing s := ⟨.refl s, fun _ none_ => absurd none_ List.not_mem_nil⟩
  compose := by
    intro s t u before after one two
    refine ⟨one.1.trans two.1, fun arrays member => ?_⟩
    rcases List.mem_append.mp member with early | late
    · exact (one.2 arrays early).trans two.1
    · exact two.2 arrays late

theorem write_grows {change : WorkArrays → WorkArrays} (grow : ∀ s : WorkArrays, s.Within (change s)) :
    Respects Grows (write change) := by
  intro s
  refine ⟨grow s, fun arrays member => ?_⟩
  rw [List.mem_singleton.mp member]
  exact .refl _

theorem addDev_grows (dev : Int) : Respects Grows (addDev dev) := by
  refine write_grows fun s => ⟨le_refl _, ?_⟩
  rw [List.length_append]
  exact Nat.le_add_right _ _

theorem strcat_grows (text : List Char) : Respects Grows (strcat text) := by
  refine write_grows fun s => ⟨?_, le_refl _⟩
  rw [List.length_append]
  exact Nat.le_add_right _ _

namespace Installation
variable {tel : Installation} {groupId : Nat}

theorem collectLine_grows (i : Nat) : Respects Grows (tel.collectLine groupId i) := by
  unfold collectLine
  split
  · split
    · exact .skip grows_composes
    · next line _ =>
      exact (addDev_grows _).andThen grows_composes ((addDev_grows _).andThen grows_composes (strcat_grows _))
  · exact .skip grows_composes

end Installation

/-! ## How long the text gets -/

theorem decimal_of_small {word : Nat} (small : word < 2147483648) : decimal word = Nat.toDigits 10 word := by
  have value : Words.wrap 32 word = word := Words.wrap_of_fits (by decide) ⟨by omega, by omega⟩
  unfold decimal
  rw [value]
  dsimp only
  rw [if_neg (by omega), Int.natAbs_natCast]

theorem length_decimal {word : Nat} (small : word < 1000) :
    (decimal word).length = if word < 10 then 1 else if word < 100 then 2 else 3 := by
  rw [decimal_of_small (by omega)]
  have some_ : 0 < (Nat.toDigits 10 word).length := Nat.length_toDigits_pos
  have one : (Nat.toDigits 10 word).length ≤ 1 ↔ word < 10 := Nat.length_toDigits_le_iff (by decide) (by decide)
  have two : (Nat.toDigits 10 word).length ≤ 2 ↔ word < 100 := Nat.length_toDigits_le_iff (by decide) (by decide)
  have three : (Nat.toDigits 10 word).length ≤ 3 ↔ word < 1000 := Nat.length_toDigits_le_iff (by decide) (by decide)
  split
  · omega
  · split
    · omega
    · omega

def listed : Nat → Nat
  | 0 => 0
  | count + 1 => listed count + (decimal count).length + 1

theorem listed_mono {count more : Nat} (le : count ≤ more) : listed count ≤ listed more := by
  induction le with
  | refl => exact le_refl _
  | step _ ih => exact ih.trans (by rw [listed]; omega)

theorem listed_eq {count : Nat} (small : count ≤ 1000) :
    listed count = if count ≤ 10 then 2 * count else if count ≤ 100 then 3 * count - 10 else 4 * count - 110 := by
  induction count with
  | zero => rfl
  | succ count ih =>
    rw [listed, ih (by omega), length_decimal (by omega)]
    split <;> split <;> grind

def WorkArrays.Holds (arrays : WorkArrays) (chars handles : Nat) : Prop :=
  arrays.strlinelist.length = chars ∧ arrays.devs.length = handles

namespace Installation
variable {tel : Installation}

theorem getLine_of_lt (tel : Installation) {i : Nat} (inside : i < tel.numOfLines.toNat) :
    ∃ line, tel.getLine i = some line ∧ line.index = i := by
  have there : i < tel.lines.length := tel.sized ▸ inside
  exact ⟨tel.lines[i], List.getElem?_eq_getElem there, tel.indexed i _ (List.getElem?_eq_getElem there)⟩

theorem collectLine_holds {groupId i chars handles : Nat} (group : groupId < numOfQueues)
    (inside : i < tel.numOfLines.toNat) {arrays : WorkArrays} (holds : arrays.Holds chars handles) :
    (tel.collectLine groupId i arrays).1.Holds (chars + (decimal i).length + 1) (handles + 2) := by
  -- Every line is in the one group that there is.
  obtain ⟨line, found, index⟩ := tel.getLine_of_lt inside
  have mine : groupId = i % numOfQueues := by
    unfold numOfQueues at group ⊢
    omega
  obtain ⟨text, devs⟩ := holds
  unfold collectLine
  rw [if_pos mine, found]
  -- Both handles go into the table, and the index with a comma into the text.
  refine ⟨?_, ?_⟩
  · change (arrays.strlinelist ++ (decimal line.index ++ [','])).length = _
    rw [List.length_append, List.length_append, List.length_singleton, text, index, Nat.add_assoc]
  · change (arrays.devs ++ [line.gcDev] ++ [line.voiceDev]).length = _
    rw [List.length_append, List.length_append, List.length_singleton, List.length_singleton, devs]

theorem runAll_collectLine_holds {groupId chars count : Nat} (group : groupId < numOfQueues)
    (inside : count ≤ tel.numOfLines.toNat) {arrays : WorkArrays} (holds : arrays.Holds chars 0) :
    (runAll (tel.collectLine groupId) (List.range count) arrays).1.Holds (chars + listed count) (2 * count) := by
  -- The induction is on the turns.
  induction count with
  | zero => exact holds
  | succ count ih =>
    have turn := collectLine_holds group inside (ih (Nat.le_of_succ_le inside))
    rw [List.range_succ, runAll_append, andThen_fst, runAll, runAll, andThen_fst, skip_fst, listed, Nat.mul_succ,
      ← Nat.add_assoc, ← Nat.add_assoc]
    exact turn

/-! ## The whole text -/

theorem collectLines_holds {groupId : Nat} (group : groupId < numOfQueues) :
    (tel.collectLines groupId .empty).1.Holds (29 + listed tel.numOfLines.toNat) (2 * tel.numOfLines.toNat) := by
  have only : groupId = 0 := by
    unfold numOfQueues at group
    omega
  refine runAll_collectLine_holds group (le_refl _) ⟨?_, rfl⟩
  change ("workThread for Queue ".toList ++ decimal groupId ++ " [line:".toList).length = 29
  rw [only, decimal_of_small (by decide), Nat.toDigits_zero]
  decide

theorem collectLines_within (tel : Installation) (groupId : Nat) :
    ∀ arrays ∈ (tel.collectLines groupId .empty).2, arrays.Within (tel.collectLines groupId .empty).1 := by
  have loop : Respects Grows (runAll (tel.collectLine groupId) (List.range tel.numOfLines.toNat)) :=
    .runAll grows_composes collectLine_grows _
  obtain ⟨grown, within⟩ := loop ⟨"workThread for Queue ".toList ++ decimal groupId ++ " [line:".toList, []⟩
  intro arrays member
  rcases List.mem_cons.mp member with rfl | later
  · exact grown
  · exact within arrays later

theorem closeList_outputs (arrays : WorkArrays) : ∃ closed : WorkArrays,
    (closeList arrays).2 = [⟨arrays.strlinelist.dropLast, arrays.devs⟩, closed] ∧
      closed.strlinelist.length = arrays.strlinelist.length - 1 + 12 ∧ closed.devs = arrays.devs := by
  -- The end of the text takes twelve characters.
  refine ⟨⟨arrays.strlinelist.dropLast ++ "] running...".toList, arrays.devs⟩, rfl, ?_, rfl⟩
  rw [List.length_append, List.length_dropLast]
  rfl

theorem closeList_fits_iff (arrays : WorkArrays) :
    (∀ later ∈ (closeList arrays).2, later.Fits) ↔
      arrays.strlinelist.length - 1 + 13 ≤ sizeofStrlinelist ∧ arrays.devs.length ≤ maxChannelCount * 2 := by
  obtain ⟨closed, outputs, text, devs⟩ := closeList_outputs arrays
  rw [outputs, List.forall_mem_cons, List.forall_mem_singleton]
  unfold WorkArrays.Fits
  dsimp only
  rw [text, devs, List.length_dropLast]
  omega

/-- The text and the handles fit at every step exactly up to 273 lines. -/
theorem lineList_fits_iff (tel : Installation) (groupId : Fin numOfQueues) :
    (∀ arrays ∈ (tel.lineList groupId .empty).2, arrays.Fits) ↔ tel.numOfLines.toNat ≤ 273 := by
  obtain ⟨text, devs⟩ := @collectLines_holds tel groupId groupId.isLt
  have outputs : (tel.lineList groupId .empty).2 =
      (tel.collectLines groupId .empty).2 ++ (closeList (tel.collectLines groupId .empty).1).2 := rfl
  rw [outputs, List.forall_mem_append, closeList_fits_iff, text, devs]
  constructor
  · rintro ⟨-, room, -⟩
    by_contra many
    -- There is no room for 274 lines, and each further one takes more.
    have last : listed 274 = 986 := listed_eq (by decide)
    have more : listed 274 ≤ listed tel.numOfLines.toNat := listed_mono (Nat.lt_of_not_le many)
    unfold sizeofStrlinelist at room
    omega
  · intro few
    have last : listed 273 = 982 := listed_eq (by decide)
    have less := listed_mono few
    have room : 29 + listed tel.numOfLines.toNat - 1 + 13 ≤ sizeofStrlinelist := by
      unfold sizeofStrlinelist
      omega
    have handles : 2 * tel.numOfLines.toNat ≤ maxChannelCount * 2 := by
      unfold maxChannelCount
      omega
    refine ⟨fun arrays member => (collectLines_within tel groupId arrays member).fits ⟨?_, ?_⟩, room, handles⟩
    · rw [text]
      omega
    · rw [devs]
      exact handles

theorem lineList_devs_fit (tel : Installation) (groupId : Fin numOfQueues)
    (few : tel.numOfLines.toNat ≤ maxChannelCount) :
    ∀ arrays ∈ (tel.lineList groupId .empty).2, arrays.devs.length ≤ maxChannelCount * 2 := by
  obtain ⟨-, devs⟩ := @collectLines_holds tel groupId groupId.isLt
  intro arrays member
  rcases List.mem_append.mp member with collecting | closing
  · exact (collectLines_within tel groupId arrays collecting).2.trans (by rw [devs]; omega)
  · obtain ⟨closed, outputs, -, same⟩ := closeList_outputs (tel.collectLines groupId .empty).1
    rw [outputs] at closing
    have kept : arrays.devs = (tel.collectLines groupId .empty).1.devs := by
      rcases List.mem_cons.mp closing with rfl | last
      · rfl
      · rw [List.mem_singleton.mp last, same]
    rw [kept, devs]
    omega

def tenBoards : Installation :=
  configLines 300 (List.replicate 300 ⟨.fresh 0 [] [] 0, 0, 0⟩) List.length_replicate

theorem lineList_overflows :
    tenBoards.numOfLines.toNat ≤ maxChannelCount ∧
      ∃ arrays ∈ (tenBoards.lineList 0 .empty).2, sizeofStrlinelist < arrays.strlinelist.length + 1 := by
  obtain ⟨text, -⟩ := @collectLines_holds tenBoards 0 (by decide)
  have last : listed 300 = 1090 := listed_eq (by decide)
  have lines : tenBoards.numOfLines.toNat = 300 := rfl
  rw [lines, last] at text
  obtain ⟨closed, outputs, length, -⟩ := closeList_outputs (tenBoards.collectLines 0 .empty).1
  refine ⟨by rw [lines]; decide, closed, ?_, ?_⟩
  · refine List.mem_append_right _ ?_
    rw [outputs]
    exact List.mem_cons_of_mem _ (List.mem_singleton.mpr rfl)
  · rw [length, text]
    decide

end Installation

end Foolject.Telecom
