import Foolject.Lib.Transducer

/-! The handles of the files that a line plays, as `Line.cpp` and `dlg_ex.cpp` open and close them.

`buildIOTT` closes what the entry holds before it opens the next file. The constructor of the line does not
initialise the entry, and a handle that was closed or could not be opened stays in it as 0 or -1.
-/

set_option autoImplicit false

namespace Foolject.Telecom
open Transducer

inductive IODirection where
  | playFile
  | recordFile
  deriving DecidableEq, Repr

inductive FileCall where
  | dxFileopen (dir : IODirection) (handle : Int)
  | dxFileclose (handle : Int)
  deriving DecidableEq, Repr

/-- Of the entry the handle. The other fields are constants. -/
structure DXIOTT where
  ioFhandle : Int
  deriving DecidableEq, Repr

def clearIOTT : Transducer DXIOTT FileCall := fun iott => (⟨0⟩, [.dxFileclose iott.ioFhandle])

/-- `opened` is the result of `dx_fileopen`. -/
def buildIOTT (dir : IODirection) (opened : Int) : Transducer DXIOTT FileCall :=
  andThen clearIOTT fun _ => (⟨opened⟩, [.dxFileopen dir opened])

def buildIOTTReturns (opened : Int) : Int := if -1 = opened then -2 else 0

namespace TLine

/-- `rc` is the result of `dx_playiottdata`. The two other tables are built without a failure. -/
def playFile (opened rc : Int) : Transducer DXIOTT FileCall :=
  andThen (buildIOTT .playFile opened)
    (if buildIOTTReturns opened ≠ 0 then skip else if -1 = rc then clearIOTT else skip)

def playFileReturns (opened rc : Int) : Bool := buildIOTTReturns opened = 0 ∧ -1 ≠ rc

end TLine

inductive PlayInput where
  | playFile (opened rc : Int)
  | tdxPlay
  deriving DecidableEq, Repr

/-- `TDX_PLAY` is reported to the application, and nothing is closed. -/
def PlayInput.run : PlayInput → Transducer DXIOTT FileCall
  | .playFile opened rc => TLine.playFile opened rc
  | .tdxPlay => skip

/-! ## Who owns a handle -/

def FileCall.held (held : List Int) : FileCall → List Int
  | .dxFileopen _ handle => if handle = -1 then held else handle :: held
  | .dxFileclose handle => held.erase handle

def FileCall.Own (held : List Int) : FileCall → Prop
  | .dxFileopen .. => True
  | .dxFileclose handle => handle ∈ held

def FileCall.Single (held : List Int) (call : FileCall) : Prop := (call.held held).length ≤ 1

def ClosesOwn (held : List Int) (calls : List FileCall) : Prop := Along FileCall.held FileCall.Own held calls

def HoldsOne (held : List Int) (calls : List FileCall) : Prop := Along FileCall.held FileCall.Single held calls

def playing (before : Bool) : PlayInput → Bool
  | .playFile opened rc => TLine.playFileReturns opened rc
  | .tdxPlay => before

def holds (playing : Bool) (iott : DXIOTT) : List Int := if playing then [iott.ioFhandle] else []

variable {started : Bool} {iott : DXIOTT}

/-- A call of `playFile` fails to open the file, fails to start to play it and closes it, or starts. -/
theorem playFile_cases (opened rc : Int) (iott : DXIOTT) :
    (opened = -1 ∧ TLine.playFileReturns opened rc = false ∧ TLine.playFile opened rc iott =
      (⟨opened⟩, [.dxFileclose iott.ioFhandle, .dxFileopen .playFile opened])) ∨
    (opened ≠ -1 ∧ TLine.playFileReturns opened rc = false ∧ TLine.playFile opened rc iott =
      (⟨0⟩, [.dxFileclose iott.ioFhandle, .dxFileopen .playFile opened, .dxFileclose opened])) ∨
    (opened ≠ -1 ∧ TLine.playFileReturns opened rc = true ∧ TLine.playFile opened rc iott =
      (⟨opened⟩, [.dxFileclose iott.ioFhandle, .dxFileopen .playFile opened])) := by
  unfold TLine.playFile TLine.playFileReturns buildIOTTReturns
  by_cases missing : -1 = opened
  · -- `buildIOTT` fails, and what it could not open is not closed again.
    rw [if_pos missing]
    exact .inl ⟨missing.symm, rfl, rfl⟩
  · rw [if_neg missing]
    by_cases refused : -1 = rc
    · rw [if_pos refused]
      refine .inr (.inl ⟨fun same => missing same.symm, ?_, rfl⟩)
      exact decide_eq_false fun started => started.2 refused
    · rw [if_neg refused]
      refine .inr (.inr ⟨fun same => missing same.symm, ?_, rfl⟩)
      exact decide_eq_true ⟨rfl, refused⟩

theorem erase_holds (started : Bool) (iott : DXIOTT) : (holds started iott).erase iott.ioFhandle = [] := by
  cases started with
  | true => exact List.erase_cons_head iott.ioFhandle []
  | false => rfl

theorem mem_holds : iott.ioFhandle ∈ holds started iott ↔ started = true := by
  cases started with
  | true => exact iff_of_true List.mem_cons_self rfl
  | false => exact iff_of_false List.not_mem_nil Bool.false_ne_true

/-- What one input closes is its own exactly if it closes nothing or a file has started to play. -/
theorem closesOwn_run (input : PlayInput) : ClosesOwn (holds started iott) (input.run iott).2 ↔
    (input = .tdxPlay ∨ started = true) := by
  cases input with
  | tdxPlay => exact iff_of_true trivial (.inl rfl)
  | playFile opened rc =>
    -- The file that it opens itself is its own.
    have first : ClosesOwn (holds started iott) (TLine.playFile opened rc iott).2 ↔
        iott.ioFhandle ∈ holds started iott := by
      rcases playFile_cases opened rc iott with ⟨-, -, calls⟩ | ⟨valid, -, calls⟩ | ⟨-, -, calls⟩
      · rw [calls]
        simp only [ClosesOwn, Along, FileCall.Own, and_true]
      · rw [calls]
        simp only [ClosesOwn, Along, FileCall.Own, FileCall.held, if_neg valid, List.mem_cons_self, and_true]
      · rw [calls]
        simp only [ClosesOwn, Along, FileCall.Own, and_true]
    have plays : PlayInput.playFile opened rc ≠ .tdxPlay := by
      intro same
      cases same
    rw [PlayInput.run, first, mem_holds, or_iff_right plays]

theorem holdsOne_run (input : PlayInput) : HoldsOne (holds started iott) (input.run iott).2 := by
  cases input with
  | tdxPlay => exact trivial
  | playFile opened rc =>
    have closed : ((holds started iott).erase iott.ioFhandle).length ≤ 1 := by
      rw [erase_holds]
      exact Nat.zero_le 1
    rw [PlayInput.run]
    rcases playFile_cases opened rc iott with ⟨invalid, -, calls⟩ | ⟨valid, -, calls⟩ | ⟨valid, -, calls⟩
    · rw [calls]
      refine ⟨closed, ?_, trivial⟩
      simp only [FileCall.Single, FileCall.held, if_pos invalid, closed]
    · rw [calls]
      simp only [HoldsOne, Along, FileCall.Single, FileCall.held, erase_holds, if_neg valid, List.erase_cons_head]
      exact ⟨Nat.zero_le 1, Nat.le_refl 1, Nat.zero_le 1, trivial⟩
    · rw [calls]
      refine ⟨closed, ?_, trivial⟩
      simp only [FileCall.Single, FileCall.held, erase_holds, if_neg valid, List.length_singleton]
      exact Nat.le_refl 1

theorem holds_run (input : PlayInput) : (input.run iott).2.foldl FileCall.held (holds started iott) =
    holds (playing started input) (input.run iott).1 := by
  cases input with
  | tdxPlay => rfl
  | playFile opened rc =>
    rw [PlayInput.run, playing]
    rcases playFile_cases opened rc iott with ⟨invalid, fails, calls⟩ | ⟨valid, fails, calls⟩ | ⟨valid, starts, calls⟩
    · rw [fails, calls]
      simp only [List.foldl_cons, List.foldl_nil, FileCall.held, erase_holds, if_pos invalid]
      rfl
    · rw [fails, calls]
      simp only [List.foldl_cons, List.foldl_nil, FileCall.held, erase_holds, if_neg valid, List.erase_cons_head]
      rfl
    · rw [starts, calls]
      simp only [List.foldl_cons, List.foldl_nil, FileCall.held, erase_holds, if_neg valid]
      rfl

/-! ## A run of the line -/

theorem holdsOne_runAll (inputs : List PlayInput) :
    HoldsOne (holds started iott) (runAll PlayInput.run inputs iott).2 := by
  induction inputs generalizing started iott with
  | nil => exact trivial
  | cons input rest ih =>
    refine along_append.mpr ⟨holdsOne_run input, ?_⟩
    rw [holds_run]
    exact ih

def EachWhilePlaying : Bool → List PlayInput → Prop
  | _, [] => True
  | started, input :: rest => (input = .tdxPlay ∨ started = true) ∧ EachWhilePlaying (playing started input) rest

theorem closesOwn_runAll (inputs : List PlayInput) :
    ClosesOwn (holds started iott) (runAll PlayInput.run inputs iott).2 ↔ EachWhilePlaying started inputs := by
  induction inputs generalizing started iott with
  | nil => exact Iff.rfl
  | cons input rest ih =>
    refine along_append.trans ?_
    rw [holds_run]
    exact and_congr (closesOwn_run input) ih

theorem eachWhilePlaying_false_iff {inputs : List PlayInput} :
    EachWhilePlaying false inputs ↔ ∀ input ∈ inputs, input = .tdxPlay := by
  induction inputs with
  | nil => exact iff_of_true trivial nofun
  | cons input rest ih =>
    rw [EachWhilePlaying, List.forall_mem_cons, or_iff_left Bool.false_ne_true]
    refine and_congr_right fun quiet => ?_
    rw [quiet]
    exact ih

theorem holds_runAll (inputs : List PlayInput) :
    (runAll PlayInput.run inputs iott).2.foldl FileCall.held (holds started iott) =
      holds (inputs.foldl playing started) (runAll PlayInput.run inputs iott).1 := by
  induction inputs generalizing started iott with
  | nil => rfl
  | cons input rest ih =>
    change ((input.run iott).2 ++ (runAll PlayInput.run rest (input.run iott).1).2).foldl _ _ = _
    rw [List.foldl_append, holds_run]
    exact ih

/-- On a new line, with any handle in its entry, no two files are open at once. Only handles of its own are closed
exactly if no file is played: the first `playFile` closes what the entry happens to hold, and a later one is in order
exactly if the one before it has started to play. -/
theorem playFile_closes (garbage : DXIOTT) (inputs : List PlayInput) :
    HoldsOne [] (runAll PlayInput.run inputs garbage).2 ∧
    (ClosesOwn [] (runAll PlayInput.run inputs garbage).2 ↔ ∀ input ∈ inputs, input = .tdxPlay) ∧
    ∀ input, ClosesOwn ((runAll PlayInput.run inputs garbage).2.foldl FileCall.held [])
        (PlayInput.run input (runAll PlayInput.run inputs garbage).1).2 ↔
      input = .tdxPlay ∨ inputs.foldl playing false = true := by
  have nothing : holds false garbage = [] := rfl
  refine ⟨nothing ▸ holdsOne_runAll inputs, ?_, fun input => ?_⟩
  · exact (nothing ▸ closesOwn_runAll inputs).trans eachWhilePlaying_false_iff
  · rw [← nothing, holds_runAll]
    exact closesOwn_run input

theorem playFile_closesForeign :
    (runAll PlayInput.run [.playFile 5 (-1), .playFile 6 0] ⟨3⟩).2 =
      [.dxFileclose 3, .dxFileopen .playFile 5, .dxFileclose 5, .dxFileclose 0, .dxFileopen .playFile 6] ∧
    ¬ ClosesOwn [] (runAll PlayInput.run [.playFile 5 (-1), .playFile 6 0] ⟨3⟩).2 :=
  -- The first `playFile` of a line closes the handle 3 that it never
  -- opened; when its play is refused the next one closes the handle 0.
  ⟨by decide, fun own => absurd own.1 List.not_mem_nil⟩

end Foolject.Telecom
