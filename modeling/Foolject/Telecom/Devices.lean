import Mathlib.Algebra.Order.BigOperators.Group.List
import Mathlib.Data.List.Nodup
import Mathlib.Data.List.Sublists
import Foolject.Telecom.LineList

/-! The names of the devices of the lines, from the boards that are found.

As many lines are made as the voice boards count channels, where a board that cannot be opened counts for
less than none, and they take the names of the channels from the front.
-/

set_option autoImplicit false

namespace Foolject.Telecom

def maxDevName : Nat := 64

abbrev Boards := List Int

/-- "%sC%d" behind "dxxxB%d", and the same for the network boards. -/
def devName (kind : List Char) (mark : Char) (i j : Nat) : List Char :=
  kind ++ Nat.toDigits 10 (i + 1) ++ mark :: Nat.toDigits 10 (j + 1)

def channels (boards : Boards) : List (Nat × Nat) :=
  boards.zipIdx.flatMap fun board => (List.range board.1.toNat).map fun j => (board.2, j)

def voiceDevName (channel : Nat × Nat) : List Char := devName "dxxxB".toList 'C' channel.1 channel.2

def dtiDevName (channel : Nat × Nat) : List Char := devName "dtiB".toList 'T' channel.1 channel.2

def getVoiceDevCount (boards : Boards) : Int := boards.sum

structure LineNames where
  voiceName : List Char
  gcDevName : List Char
  deriving DecidableEq

def row (names : List (List Char)) (index : Nat) : List Char := names[index]?.getD []

def gcDevName (dti voice : List Char) : List Char := ":N_".toList ++ dti ++ ":P_cn_r2_io:V_".toList ++ voice

def lineNames (voice dti : Boards) (index : Nat) : LineNames where
  voiceName := row ((channels voice).map voiceDevName) index
  gcDevName := gcDevName (row ((channels dti).map dtiDevName) index) (row ((channels voice).map voiceDevName) index)

inductive MakeLines where
  | noLines
  /-- The count is negative, and as many lines as it is unsigned cannot be made. -/
  | notResized
  /-- A name is written behind the last row of an array. -/
  | overrun
  | made (lines : List LineNames)
  deriving DecidableEq

def makeLines (voice dti : Boards) : MakeLines :=
  if getVoiceDevCount voice = 0 then .noLines
  else if getVoiceDevCount voice < 0 then .notResized
  else if maxChannelCount < (channels voice).length ∨ maxChannelCount < (channels dti).length then .overrun
  else .made ((List.range (getVoiceDevCount voice).toNat).map (lineNames voice dti))

/-! ## Channels -/

theorem mem_channels {boards : Boards} {i j : Nat} :
    (i, j) ∈ channels boards ↔ ∃ subDevs, boards[i]? = some subDevs ∧ j < subDevs.toNat := by
  unfold channels
  simp only [List.mem_flatMap, List.mem_map, List.mem_range, Prod.exists, List.mem_zipIdx_iff_getElem?, Prod.mk.injEq]
  constructor
  · rintro ⟨subDevs, i, found, j, inside, rfl, rfl⟩
    exact ⟨subDevs, found, inside⟩
  · rintro ⟨subDevs, found, inside⟩
    exact ⟨subDevs, i, found, j, inside, rfl, rfl⟩

theorem nodup_channels (boards : Boards) : (channels boards).Nodup := by
  have apart : (boards.zipIdx.map Prod.snd).Nodup := by
    rw [List.zipIdx_map_snd]
    exact List.nodup_range'
  refine List.nodup_flatMap.mpr ⟨fun board _ => ?_, ?_⟩
  · exact List.nodup_range.map fun j k same => congrArg Prod.snd same
  · refine (List.pairwise_map.mp apart).imp fun {one two} different => ?_
    intro channel first second
    obtain ⟨j, -, rfl⟩ := List.mem_map.mp first
    obtain ⟨k, -, same⟩ := List.mem_map.mp second
    exact different (congrArg Prod.fst same).symm

theorem length_channels (boards : Boards) : (channels boards).length = (boards.map Int.toNat).sum := by
  unfold channels
  have counts : (fun board : Int × Nat => ((List.range board.1.toNat).map fun j => (board.2, j)).length) =
      Int.toNat ∘ Prod.fst := by
    funext board
    rw [List.length_map, List.length_range]
    rfl
  rw [List.length_flatMap, counts, ← List.map_map, List.zipIdx_map_fst]

theorem getVoiceDevCount_le (boards : Boards) : getVoiceDevCount boards ≤ (channels boards).length ∧
    (getVoiceDevCount boards = (channels boards).length ↔ ∀ subDevs ∈ boards, 0 ≤ subDevs) := by
  -- A board that cannot be opened takes a line from the others.
  rw [length_channels]
  unfold getVoiceDevCount
  induction boards with
  | nil => simp
  | cons subDevs rest ih =>
    obtain ⟨le, eq⟩ := ih
    rw [List.sum_cons, List.map_cons, List.sum_cons, List.forall_mem_cons, ← eq]
    omega

/-! ## Names -/

theorem toDigits_injective {m n : Nat} (same : Nat.toDigits 10 m = Nat.toDigits 10 n) : m = n := by
  have read := congrArg (fun digits => Nat.ofDigitChars 10 digits 0) same
  simpa only [Nat.ofDigitChars_ten_toDigits] using read

theorem notMem_toDigits {c : Char} (noDigit : c.isDigit = false) (n : Nat) : c ∉ Nat.toDigits 10 n := fun inside =>
  Bool.false_ne_true (noDigit.symm.trans (Nat.isDigit_of_mem_toDigits (by decide) (by decide) inside))

theorem cut_first {mark : Char} {front other rest tail : List Char} (free : mark ∉ front) (free' : mark ∉ other)
    (same : front ++ mark :: rest = other ++ mark :: tail) : front = other ∧ rest = tail := by
  induction front generalizing other with
  | nil =>
    cases other with
    | nil => exact ⟨rfl, (List.cons.inj same).2⟩
    | cons c other => exact absurd ((List.cons.inj same).1 ▸ List.mem_cons_self) free'
  | cons c front ih =>
    cases other with
    | nil => exact absurd ((List.cons.inj same).1 ▸ List.mem_cons_self) free
    | cons d other =>
      obtain ⟨rfl, behind⟩ := List.cons.inj same
      obtain ⟨rfl, equal⟩ := ih (mt (List.mem_cons_of_mem c) free) (mt (List.mem_cons_of_mem c) free') behind
      exact ⟨rfl, equal⟩

theorem devName_injective {kind : List Char} {mark : Char} (noDigit : mark.isDigit = false) {i j i' j' : Nat}
    (same : devName kind mark i j = devName kind mark i' j') : i = i' ∧ j = j' := by
  unfold devName at same
  rw [List.append_assoc, List.append_assoc] at same
  obtain ⟨boards, rest⟩ := cut_first (notMem_toDigits noDigit _) (notMem_toDigits noDigit _)
    (List.append_cancel_left same)
  have board := toDigits_injective boards
  have channel := toDigits_injective rest
  omega

theorem voiceDevName_injective : Function.Injective voiceDevName := fun _ _ same =>
  Prod.ext_iff.mpr (devName_injective (by decide) same)

theorem colon_notMem_devName {kind : List Char} {mark : Char} (kindFree : ':' ∉ kind) (markFree : mark ≠ ':')
    (i j : Nat) : ':' ∉ devName kind mark i j := by
  unfold devName
  simp only [List.mem_append, List.mem_cons, not_or]
  exact ⟨⟨kindFree, notMem_toDigits (by decide) _⟩, markFree.symm, notMem_toDigits (by decide) _⟩

theorem gcDevName_injective {dti dti' voice voice' : List Char} (free : ':' ∉ dti) (free' : ':' ∉ dti')
    (same : gcDevName dti voice = gcDevName dti' voice') : voice = voice' := by
  unfold gcDevName at same
  simp only [List.append_assoc] at same
  have split : ":P_cn_r2_io:V_".toList = ':' :: "P_cn_r2_io:V_".toList := by decide
  rw [split] at same
  have behind := List.append_cancel_left same
  rw [List.cons_append, List.cons_append] at behind
  obtain ⟨-, rest⟩ := cut_first free free' behind
  exact List.append_cancel_left rest

theorem length_toDigits_le {n k : Nat} (small : n < 10 ^ k) (some_ : 0 < k) : (Nat.toDigits 10 n).length ≤ k :=
  (Nat.length_toDigits_le_iff (by decide) some_).mpr small

theorem length_devName {kind : List Char} {mark : Char} {i j : Nat} (board : i < 2147483648) (channel : j < 512) :
    (devName kind mark i j).length ≤ kind.length + 14 := by
  have first : (Nat.toDigits 10 (i + 1)).length ≤ 10 := length_toDigits_le (by omega) (by decide)
  have second : (Nat.toDigits 10 (j + 1)).length ≤ 3 := length_toDigits_le (by omega) (by decide)
  unfold devName
  rw [List.length_append, List.length_append, List.length_cons]
  omega

/-! ## Lines -/

def network (dti : Boards) (index : Nat) : List Char := row ((channels dti).map dtiDevName) index

structure Allotted (voice dti : Boards) (lines : List LineNames) : Prop where
  each : ∀ (k : Nat) (names : LineNames), lines[k]? = some names → ∃ channel, (channels voice)[k]? = some channel ∧
    names = ⟨voiceDevName channel, gcDevName (network dti k) (voiceDevName channel)⟩
  count : (lines.length : Int) = getVoiceDevCount voice
  fits : ∀ names ∈ lines, names.voiceName.length < maxDevName ∧ names.gcDevName.length < maxDevName
  voiceNames : (lines.map LineNames.voiceName).Nodup
  gcDevNames : (lines.map LineNames.gcDevName).Nodup
  /-- A line behind the last network channel is named without one. -/
  networks : ∀ k, network dti k = [] ↔ (channels dti).length ≤ k
  /-- No channel is left over unless a board cannot be opened. -/
  covers : (∀ channel ∈ channels voice, ∃ names ∈ lines, names.voiceName = voiceDevName channel) ↔
    ∀ subDevs ∈ voice, 0 ≤ subDevs

section Allotted
variable {voice dti : Boards}

theorem network_eq_nil (k : Nat) : network dti k = [] ↔ (channels dti).length ≤ k := by
  unfold network row
  rw [List.getElem?_map]
  cases found : (channels dti)[k]? with
  | none => exact iff_of_true rfl (List.getElem?_eq_none_iff.mp found)
  | some channel =>
    refine iff_of_false ?_ (not_le.mpr (List.getElem?_eq_some_iff.mp found).1)
    exact List.append_ne_nil_of_left_ne_nil (List.append_ne_nil_of_left_ne_nil (by decide) _) _

theorem colon_notMem_network (k : Nat) : ':' ∉ network dti k := by
  unfold network row
  rw [List.getElem?_map]
  cases (channels dti)[k]? with
  | none => exact List.not_mem_nil
  | some channel => exact colon_notMem_devName (by decide) (by decide) _ _

theorem lt_of_channel {boards : Boards} (within : (channels boards).length ≤ maxChannelCount) {i j : Nat}
    (channel : (i, j) ∈ channels boards) : i < boards.length ∧ j < 512 := by
  obtain ⟨subDevs, found, inside⟩ := mem_channels.mp channel
  obtain ⟨here, rfl⟩ := List.getElem?_eq_some_iff.mp found
  rw [length_channels] at within
  have part : boards[i].toNat ≤ (boards.map Int.toNat).sum :=
    List.le_sum_of_mem (List.mem_map_of_mem (List.getElem_mem here))
  have bound : maxChannelCount = 512 := rfl
  exact ⟨here, by omega⟩

theorem length_network (boards : dti.length < 2147483648) (within : (channels dti).length ≤ maxChannelCount) (k : Nat) :
    (network dti k).length ≤ 18 := by
  unfold network row
  rw [List.getElem?_map]
  cases found : (channels dti)[k]? with
  | none => exact Nat.zero_le _
  | some channel =>
    obtain ⟨board, inside⟩ := @lt_of_channel dti within channel.1 channel.2 (List.mem_of_getElem? found)
    exact length_devName (board.trans boards) inside

theorem lineNames_eq {k : Nat} {channel : Nat × Nat} (found : (channels voice)[k]? = some channel) :
    lineNames voice dti k = ⟨voiceDevName channel, gcDevName (network dti k) (voiceDevName channel)⟩ := by
  have name : row ((channels voice).map voiceDevName) k = voiceDevName channel := by
    unfold row
    rw [List.getElem?_map, found]
    rfl
  unfold lineNames
  rw [name]
  rfl

theorem each_of_made {count : Nat} (fits : count ≤ (channels voice).length) {k : Nat} {names : LineNames}
    (line : ((List.range count).map (lineNames voice dti))[k]? = some names) :
    ∃ channel, (channels voice)[k]? = some channel ∧
      names = ⟨voiceDevName channel, gcDevName (network dti k) (voiceDevName channel)⟩ := by
  rw [List.getElem?_map] at line
  obtain ⟨index, found, rfl⟩ := Option.map_eq_some_iff.mp line
  obtain ⟨inside, rfl⟩ := List.getElem?_eq_some_iff.mp found
  rw [List.getElem_range]
  rw [List.length_range] at inside
  have channel : (channels voice)[k]? = some (channels voice)[k] := List.getElem?_eq_getElem (by omega)
  exact ⟨_, channel, lineNames_eq channel⟩

theorem map_voiceName_made {count : Nat} (fits : count ≤ (channels voice).length) :
    ((List.range count).map (lineNames voice dti)).map LineNames.voiceName =
      ((channels voice).take count).map voiceDevName := by
  refine List.ext_getElem? fun k => ?_
  rw [List.getElem?_map, List.getElem?_map, List.getElem?_map]
  rcases lt_or_ge k count with inside | behind
  · have channel : (channels voice)[k]? = some (channels voice)[k] := List.getElem?_eq_getElem (by omega)
    rw [List.getElem?_range inside, List.getElem?_take_of_lt inside, channel, Option.map_some, Option.map_some,
      lineNames_eq channel]
    rfl
  · rw [List.getElem?_eq_none_iff.mpr (List.length_range.trans_le behind),
      List.getElem?_eq_none_iff.mpr ((List.length_take_le _ _).trans behind)]
    rfl

theorem forall_mem_take_iff {count : Nat} :
    (∀ channel ∈ channels voice, channel ∈ (channels voice).take count) ↔ (channels voice).length ≤ count := by
  constructor
  · intro all
    have fewer := ((nodup_channels voice).subperm all).length_le
    exact fewer.trans (List.length_take_le _ _)
  · intro few channel
    rw [List.take_of_length_le few]
    exact id

end Allotted

end Foolject.Telecom
