import Foolject.Lib.Transition
import Foolject.Telecom.PlayFile
import Foolject.Telecom.Events

/-! The functions of `TelecomDll.cpp`, and the lines they reach.

The number of lines is a member of its own beside the vector that holds them. The constructor does not initialise it,
and `closeLines` clears the vector and keeps the number. Allocation is taken to succeed.
-/

set_option autoImplicit false

namespace Foolject.Telecom
open Transducer

/-- An access `Lines[index]`, and `Lines.size()` at the time. -/
structure LinesAccess where
  index : Nat
  size : Nat
  deriving DecidableEq, Repr

def LinesAccess.Valid (access : LinesAccess) : Prop := access.index < access.size

structure TelObject where
  numOfLines : UInt32
  lines : List TLine

abbrev TelRoutine := Transducer TelObject LinesAccess

namespace TelObject

def access (index : Nat) : TelRoutine := emit fun tel => [⟨index, tel.lines.length⟩]

/-- A loop over the number of lines, with one access in each turn. -/
def eachLine : TelRoutine :=
  emit fun tel => (List.range tel.numOfLines.toNat).map fun index => ⟨index, tel.lines.length⟩

/-- `Lines[index]` is used and becomes what the handler makes of it. -/
def onLine (index : Nat) (handler : Handler) : TelRoutine :=
  andThen (access index) (modify fun tel =>
    { tel with lines := tel.lines.modify index fun line => (handler line).1 })

/-! ## Opening and closing -/

def configLines : TelRoutine := eachLine

def openFrom (opens : Nat → Bool) : Nat → Nat → TelRoutine
  | _, 0 => skip
  | index, left + 1 =>
    andThen (onLine index (TLine.openLine (opens index)))
      (if opens index then openFrom opens (index + 1) left else skip)

/-- `count` is the number of voice channels, `made` the lines that `resize` makes. -/
def openLines (count : UInt32) (made : Nat → TLine) (opens : Nat → Bool) : TelRoutine :=
  andThen (modify fun tel => { tel with numOfLines := count })
    (if count < 1 then skip
    else andThen (modify fun tel => { tel with lines := (List.range count.toNat).map made })
      (andThen configLines (openFrom opens 0 count.toNat)))

def openLinesReturns (count : UInt32) (opens : Nat → Bool) : Bool :=
  1 ≤ count ∧ ∀ index < count.toNat, opens index = true

def closeLines : TelRoutine := andThen eachLine (modify fun tel => { tel with lines := [] })

def uninitializes : TelRoutine := closeLines

end TelObject

/-- How far `tel_Initialize` gets. -/
inductive InitOutcome where
  | noProc
  /-- `sr_setparm` or `gc_Start` fails. -/
  | notStarted
  | started (count : UInt32) (made : Nat → TLine) (opens : Nat → Bool) (threads : Bool)

def telInitialize (garbage : UInt32) : InitOutcome → TelObject × List LinesAccess
  | .noProc => (⟨garbage, []⟩, [])
  | .notStarted => (⟨garbage, []⟩, [])
  | .started count made opens _ => TelObject.openLines count made opens ⟨garbage, []⟩

/-- The number is returned as an `int`. -/
def telInitializeReturns : InitOutcome → Int
  | .noProc => -1
  | .notStarted => -2
  | .started count _ opens threads =>
    if TelObject.openLinesReturns count opens ∧ threads = true then count.toInt32.toInt else -2

inductive LineFunction where
  /-- The pointers may be null. -/
  | getState (ls cs : Bool)
  | makeCall (ani dnis : List Char) (placed : Option Int)
  | acceptCall (taken : Bool)
  | answerCall (taken : Bool)
  | hangupCall (taken : Bool)
  | playFile (opened rc : Int)
  | stopPlayFile (stopped : Bool)

namespace LineFunction
open TelObject

def body (line : Nat) : LineFunction → TelRoutine
  | .getState ls cs => andThen (if ls then access line else skip) (if cs then access line else skip)
  | .makeCall ani dnis placed => onLine line (TLine.makeCall ani dnis placed)
  | .acceptCall _ => onLine line TLine.acceptCall
  | .answerCall _ => onLine line TLine.answerCall
  | .hangupCall _ => onLine line TLine.hangupCall
  | .playFile _ _ => access line
  | .stopPlayFile _ => access line

def bodyReturns : LineFunction → Bool
  | .getState _ _ => true
  | .makeCall ani dnis placed => TLine.returns (.makeCall ani dnis placed)
  | .acceptCall taken => TLine.returns (.acceptCall taken)
  | .answerCall taken => TLine.returns (.answerCall taken)
  | .hangupCall taken => TLine.returns (.hangupCall taken)
  | .playFile opened rc => TLine.playFileReturns opened rc
  | .stopPlayFile stopped => stopped

def run (line : UInt32) (function : LineFunction) : TelRoutine := fun tel =>
  if line ≥ tel.numOfLines then (tel, []) else function.body line.toNat tel

def returns (line : UInt32) (function : LineFunction) (tel : TelObject) : Bool :=
  if line ≥ tel.numOfLines then false else function.bodyReturns

def Uses : LineFunction → Prop
  | .getState ls cs => ls = true ∨ cs = true
  | _ => True

end LineFunction

inductive ApiCall where
  | initializes (garbage : UInt32) (outcome : InitOutcome)
  | onLine (line : UInt32) (function : LineFunction)
  | uninitializes

namespace ApiCall

/-- With `tel` before and after. A function for a line needs one. -/
def run : ApiCall → Option TelObject → Option (Option TelObject × List LinesAccess)
  | .initializes garbage outcome, _ =>
    let (tel, accesses) := telInitialize garbage outcome
    some (some tel, accesses)
  | .onLine line function, some tel =>
    let (tel, accesses) := function.run line tel
    some (some tel, accesses)
  | .onLine _ _, none => none
  | .uninitializes, some tel =>
    some (none, (andThen TelObject.closeLines TelObject.uninitializes tel).2)
  | .uninitializes, none => some (none, [])

theorem run_onLine (line : UInt32) (function : LineFunction) (tel : TelObject) :
    (onLine line function).run (some tel) = some (some (function.run line tel).1, (function.run line tel).2) := rfl

def system : System (Option TelObject) ApiCall :=
  .ofStep (· = none) fun tel call => (call.run tel).map Prod.fst

end ApiCall

/-! ## Opening -/

def AllValid (accesses : List LinesAccess) : Prop := ∀ access ∈ accesses, access.Valid

theorem allValid_append {before after : List LinesAccess} :
    AllValid (before ++ after) ↔ AllValid before ∧ AllValid after := List.forall_mem_append

namespace TelObject

variable {tel : TelObject}

def Matches (tel : TelObject) : Prop := tel.lines.length = tel.numOfLines.toNat

def SameSize (before : TelObject) (_ : List LinesAccess) (after : TelObject) : Prop :=
  after.lines.length = before.lines.length ∧ after.numOfLines = before.numOfLines

theorem sameSize_composes : Composes SameSize where
  nothing _ := ⟨rfl, rfl⟩
  compose first second := ⟨second.1.trans first.1, second.2.trans first.2⟩

theorem sameSize_onLine (index : Nat) (handler : Handler) : Respects SameSize (onLine index handler) :=
  fun _ => ⟨List.length_modify .., rfl⟩

theorem sameSize_openFrom (opens : Nat → Bool) (index left : Nat) : Respects SameSize (openFrom opens index left) := by
  induction left generalizing index with
  | zero => exact .skip sameSize_composes
  | succ left ih =>
    refine .andThen sameSize_composes (sameSize_onLine _ _) ?_
    by_cases opened : opens index = true
    · rw [if_pos opened]
      exact ih (index + 1)
    · rw [if_neg opened]
      exact .skip sameSize_composes

theorem access_valid_iff {index : Nat} : AllValid (access index tel).2 ↔ index < tel.lines.length :=
  List.forall_mem_singleton

theorem onLine_valid_iff {index : Nat} {handler : Handler} :
    AllValid (onLine index handler tel).2 ↔ index < tel.lines.length := List.forall_mem_singleton

theorem openFrom_valid {opens : Nat → Bool} {index left : Nat} (inside : index + left ≤ tel.lines.length) :
    AllValid (openFrom opens index left tel).2 := by
  induction left generalizing index tel with
  | zero => exact nofun
  | succ left ih =>
    refine allValid_append.mpr ⟨onLine_valid_iff.mpr (by omega), ?_⟩
    by_cases opened : opens index = true
    · rw [if_pos opened]
      apply ih
      rw [(sameSize_onLine _ _ tel).1]
      omega
    · rw [if_neg opened]
      exact nofun

theorem eachLine_valid_iff : AllValid (eachLine tel).2 ↔ tel.numOfLines.toNat ≤ tel.lines.length := by
  constructor
  · intro valid
    by_contra short
    have last := valid ⟨tel.lines.length, tel.lines.length⟩
      (List.mem_map.mpr ⟨tel.lines.length, List.mem_range.mpr (Nat.lt_of_not_le short), rfl⟩)
    exact absurd last (Nat.lt_irrefl _)
  · rintro enough access member
    obtain ⟨index, below, rfl⟩ := List.mem_map.mp member
    exact Nat.lt_of_lt_of_le (List.mem_range.mp below) enough

/-- What is opened has the size that the number says, and is accessed inside it. -/
theorem openLines_spec (count garbage : UInt32) (made : Nat → TLine) (opens : Nat → Bool) :
    AllValid (openLines count made opens ⟨garbage, []⟩).2 ∧ (openLines count made opens ⟨garbage, []⟩).1.Matches := by
  unfold openLines
  by_cases empty : count < 1
  · rw [if_pos empty]
    have zero : count.toNat < 1 := empty
    refine ⟨nofun, ?_⟩
    change 0 = count.toNat
    omega
  · rw [if_neg empty]
    obtain ⟨resized, shape⟩ : ∃ resized : TelObject, resized = ⟨count, (List.range count.toNat).map made⟩ := ⟨_, rfl⟩
    have size : resized.lines.length = count.toNat := by
      rw [shape, List.length_map, List.length_range]
    have number : resized.numOfLines = count := by rw [shape]
    have same := sameSize_openFrom opens 0 count.toNat resized
    change AllValid ([] ++ ([] ++ ((eachLine ⟨count, (List.range count.toNat).map made⟩).2 ++
      (openFrom opens 0 count.toNat ⟨count, (List.range count.toNat).map made⟩).2))) ∧
      (openFrom opens 0 count.toNat ⟨count, (List.range count.toNat).map made⟩).1.Matches
    rw [← shape, List.nil_append, List.nil_append]
    refine ⟨allValid_append.mpr ⟨eachLine_valid_iff.mpr (Nat.le_of_eq ?_), openFrom_valid (Nat.le_of_eq ?_)⟩, ?_⟩
    · rw [number, size]
    · rw [size, Nat.zero_add]
    · unfold Matches
      rw [same.1, same.2, size, number]

theorem closeTwice_valid_iff (tel : TelObject) :
    AllValid (andThen closeLines uninitializes tel).2 ↔ tel.numOfLines = 0 := by
  -- The second of two walks over the lines finds none.
  have walks : AllValid (andThen closeLines uninitializes tel).2 ↔
      tel.numOfLines.toNat ≤ tel.lines.length ∧ tel.numOfLines.toNat ≤ 0 := by
    change AllValid (((eachLine tel).2 ++ []) ++ ((eachLine { tel with lines := [] }).2 ++ [])) ↔ _
    rw [List.append_nil, List.append_nil, allValid_append, eachLine_valid_iff, eachLine_valid_iff]
    rfl
  rw [walks, ← UInt32.toNat_inj]
  constructor
  · exact fun ⟨_, none_⟩ => Nat.le_zero.mp none_
  · intro none_
    rw [none_]
    exact ⟨Nat.zero_le _, Nat.le_refl 0⟩

end TelObject

namespace LineFunction
open TelObject

variable {tel : TelObject} {function : LineFunction}

theorem body_valid_iff (index : Nat) : AllValid (function.body index tel).2 ↔
    (function.Uses → index < tel.lines.length) := by
  cases function with
  | getState ls cs =>
    cases ls with
    | true =>
      have once : AllValid (access index tel).2 ↔ ((getState true cs).Uses → index < tel.lines.length) :=
        access_valid_iff.trans ⟨fun inside _ => inside, fun inside => inside (.inl rfl)⟩
      refine allValid_append.trans (Iff.trans ?_ once)
      -- The second access is the same again.
      cases cs with
      | true => exact and_self_iff
      | false => exact and_iff_left nofun
    | false =>
      cases cs with
      | true => exact access_valid_iff.trans ⟨fun inside _ => inside, fun inside => inside (.inr rfl)⟩
      | false => exact iff_of_true nofun nofun
  | _ => exact access_valid_iff.trans ⟨fun inside _ => inside, fun inside => inside trivial⟩

theorem sameSize_body (index : Nat) (function : LineFunction) : Respects SameSize (function.body index) := by
  cases function with
  | getState ls cs =>
    refine .andThen sameSize_composes ?_ ?_
    · cases ls with
      | true => exact fun _ => ⟨rfl, rfl⟩
      | false => exact fun _ => ⟨rfl, rfl⟩
    · cases cs with
      | true => exact fun _ => ⟨rfl, rfl⟩
      | false => exact fun _ => ⟨rfl, rfl⟩
  | playFile opened rc => exact fun _ => ⟨rfl, rfl⟩
  | stopPlayFile stopped => exact fun _ => ⟨rfl, rfl⟩
  | _ => exact sameSize_onLine _ _

theorem sameSize_run (line : UInt32) : Respects SameSize (function.run line) := by
  intro tel
  unfold run
  by_cases refused : line ≥ tel.numOfLines
  · rw [if_pos refused]
    exact sameSize_composes.nothing tel
  · rw [if_neg refused]
    exact sameSize_body line.toNat function tel

/-- A function whose test of the number lets it pass reaches the line. -/
theorem run_valid_iff (line : UInt32) : AllValid (function.run line tel).2 ↔
    (line < tel.numOfLines → function.Uses → line.toNat < tel.lines.length) := by
  unfold run
  by_cases refused : line ≥ tel.numOfLines
  · rw [if_pos refused]
    exact iff_of_true nofun fun below => absurd refused (UInt32.not_le.mpr below)
  · rw [if_neg refused, body_valid_iff]
    exact ⟨fun inside _ => inside, fun inside => inside (UInt32.not_le.mp refused)⟩

end LineFunction

/-! ## Every sequence of calls -/

namespace ApiCall

def Consistent (tel : Option TelObject) : Prop := ∀ object, tel = some object → object.lines ≠ [] → object.Matches

/-- A function for a line comes when there are lines, or is refused or uses none; and the end comes when there have
never been any. -/
def InOrder (tel : Option TelObject) : ApiCall → Prop
  | .initializes _ _ => True
  | .onLine line function =>
    ∀ object, tel = some object → line < object.numOfLines → function.Uses → object.lines ≠ []
  | .uninitializes => ∀ object, tel = some object → object.numOfLines = 0

theorem consistent_run {tel next : Option TelObject} {call : ApiCall} {accesses : List LinesAccess}
    (consistent : Consistent tel) (ran : call.run tel = some (next, accesses)) : Consistent next := by
  cases call with
  | initializes garbage outcome =>
    obtain ⟨rfl, -⟩ := Prod.mk.inj (Option.some.inj ran)
    rintro object same opened
    obtain rfl := Option.some.inj same
    cases outcome with
    | noProc => exact absurd rfl opened
    | notStarted => exact absurd rfl opened
    | started count made opens threads => exact (TelObject.openLines_spec count garbage made opens).2
  | onLine line function =>
    cases tel with
    | none => cases ran
    | some before =>
      rw [run_onLine] at ran
      obtain ⟨rfl, -⟩ := Prod.mk.inj (Option.some.inj ran)
      rintro object same opened
      rw [← Option.some.inj same] at opened ⊢
      obtain ⟨size, number⟩ := LineFunction.sameSize_run line before
      rw [← List.length_pos_iff, size, List.length_pos_iff] at opened
      unfold TelObject.Matches
      rw [size, number]
      exact consistent before rfl opened
  | uninitializes =>
    cases tel with
    | none =>
      obtain ⟨rfl, -⟩ := Prod.mk.inj (Option.some.inj ran)
      exact nofun
    | some before =>
      obtain ⟨rfl, -⟩ := Prod.mk.inj (Option.some.inj ran)
      exact nofun

theorem run_valid_iff {tel next : Option TelObject} {call : ApiCall} {accesses : List LinesAccess}
    (consistent : Consistent tel) (ran : call.run tel = some (next, accesses)) :
    AllValid accesses ↔ InOrder tel call := by
  cases call with
  | initializes garbage outcome =>
    obtain ⟨-, rfl⟩ := Prod.mk.inj (Option.some.inj ran)
    refine iff_of_true ?_ trivial
    cases outcome with
    | noProc => exact nofun
    | notStarted => exact nofun
    | started count made opens threads => exact (TelObject.openLines_spec count garbage made opens).1
  | onLine line function =>
    cases tel with
    | none => cases ran
    | some before =>
      rw [run_onLine] at ran
      obtain ⟨-, rfl⟩ := Prod.mk.inj (Option.some.inj ran)
      refine (LineFunction.run_valid_iff line).trans ?_
      constructor
      · rintro inside object same below uses opened
        obtain rfl := Option.some.inj same
        have reached := inside below uses
        rw [opened] at reached
        exact absurd reached (Nat.not_lt_zero _)
      · intro inOrder below uses
        -- The number that it passed the test of is the size of the vector.
        rw [consistent before rfl (inOrder before rfl below uses)]
        exact below
  | uninitializes =>
    cases tel with
    | none =>
      obtain ⟨-, rfl⟩ := Prod.mk.inj (Option.some.inj ran)
      exact iff_of_true nofun nofun
    | some before =>
      obtain ⟨-, rfl⟩ := Prod.mk.inj (Option.some.inj ran)
      refine (TelObject.closeTwice_valid_iff before).trans ?_
      exact ⟨fun none_ object same => Option.some.inj same ▸ none_, fun inOrder => inOrder before rfl⟩

theorem reaches_consistent {guard : Option TelObject → ApiCall → Prop} {tel : Option TelObject}
    (reached : system.Reaches guard tel) : Consistent tel := by
  apply reached.invariant
  · rintro tel rfl
    exact nofun
  · intro before call after consistent _ step
    obtain ⟨result, ran, rfl⟩ := Option.map_eq_some_iff.mp step
    exact consistent_run consistent ran

/-- In every sequence of calls that have been in order, the next one stays inside the vector exactly if it is. -/
theorem lines_valid {tel next : Option TelObject} {call : ApiCall} {accesses : List LinesAccess}
    (reached : system.Reaches InOrder tel) (ran : call.run tel = some (next, accesses)) :
    (∀ access ∈ accesses, access.index < access.size) ↔ InOrder tel call :=
  run_valid_iff (reaches_consistent reached) ran

def oneLine : ApiCall := .initializes 0 (.started 1 (fun index => TLine.fresh index [] [] 0) (fun _ => true) true)

def oneLineObject : TelObject := ⟨1, [(TLine.openLine true (TLine.fresh 0 [] [] 0)).1]⟩

theorem oneLine_run : oneLine.run none = some (some oneLineObject, [⟨0, 1⟩, ⟨0, 1⟩]) := rfl

theorem oneLine_reached : system.Reaches InOrder (some oneLineObject) := by
  have before : system.Reaches InOrder none := .start rfl
  have allowed : InOrder none oneLine := trivial
  have step : system.step none oneLine (some oneLineObject) := congrArg (Option.map Prod.fst) oneLine_run
  exact before.next allowed step

theorem lines_valid_hangup : ∃ next,
    (ApiCall.onLine 0 (.hangupCall true)).run (some oneLineObject) = some (next, [⟨0, 1⟩]) ∧
    ∀ access ∈ [(⟨0, 1⟩ : LinesAccess)], access.index < access.size := by
  have ran : (ApiCall.onLine 0 (.hangupCall true)).run (some oneLineObject) = some (_, [⟨0, 1⟩]) := rfl
  refine ⟨_, ran, (lines_valid oneLine_reached ran).mpr ?_⟩
  rintro object same - -
  rw [← Option.some.inj same]
  exact List.cons_ne_nil _ _

theorem uninitializes_outOfRange : system.Reaches InOrder (some oneLineObject) ∧
    ApiCall.uninitializes.run (some oneLineObject) = some (none, [⟨0, 1⟩, ⟨0, 0⟩]) ∧
    ¬ ∀ access ∈ [(⟨0, 1⟩ : LinesAccess), ⟨0, 0⟩], access.index < access.size :=
  -- The line is closed, and then looked for again to be closed.
  ⟨oneLine_reached, rfl, by decide⟩

end ApiCall

end Foolject.Telecom
