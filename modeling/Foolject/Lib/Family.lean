import Mathlib.Logic.Function.Basic
import Foolject.Lib.Transducer

/-! Transducers on one member of a family of states.

Each output is labelled with the member it is of. What a member does depends on the pieces
for it alone.
-/

set_option autoImplicit false

namespace Foolject.Transducer

variable {Index State Output Input : Type} [DecidableEq Index]

def member (index : Index) (piece : Transducer State Output) : Transducer (Index → State) (Index × Output) := fun s =>
  (Function.update s index (piece (s index)).1, (piece (s index)).2.map fun output => (index, output))

def outputsOf (index : Index) (outputs : List (Index × Output)) : List Output :=
  outputs.filterMap fun labelled => if labelled.1 = index then some labelled.2 else none

def inputsFor (index : Index) (inputs : List (Index × Input)) : List Input := outputsOf index inputs

theorem outputsOf_append (index : Index) (before later : List (Index × Output)) :
    outputsOf index (before ++ later) = outputsOf index before ++ outputsOf index later :=
  List.filterMap_append

theorem outputsOf_label (index : Index) (outputs : List Output) :
    outputsOf index (outputs.map fun output => (index, output)) = outputs := by
  unfold outputsOf
  rw [List.filterMap_map]
  simp only [Function.comp_def, if_true, List.filterMap_some]

theorem outputsOf_label_ne {index other : Index} (different : other ≠ index) (outputs : List Output) :
    outputsOf index (outputs.map fun output => (other, output)) = [] := by
  unfold outputsOf
  rw [List.filterMap_map]
  exact List.filterMap_eq_nil_iff.mpr fun output _ => if_neg different

theorem inputsFor_cons_self (index : Index) (input : Input) (rest : List (Index × Input)) :
    inputsFor index ((index, input) :: rest) = input :: inputsFor index rest := by
  unfold inputsFor outputsOf
  rw [List.filterMap_cons, if_pos rfl]

theorem inputsFor_cons_ne {index other : Index} (different : other ≠ index) (input : Input)
    (rest : List (Index × Input)) : inputsFor index ((other, input) :: rest) = inputsFor index rest := by
  unfold inputsFor outputsOf
  rw [List.filterMap_cons, if_neg different]

theorem member_fst_self (index : Index) (piece : Transducer State Output) (s : Index → State) :
    (member index piece s).1 index = (piece (s index)).1 := Function.update_self ..

theorem member_fst_ne {index other : Index} (different : other ≠ index) (piece : Transducer State Output)
    (s : Index → State) : (member other piece s).1 index = s index := Function.update_of_ne (Ne.symm different) ..

theorem outputsOf_member_self (index : Index) (piece : Transducer State Output) (s : Index → State) :
    outputsOf index (member index piece s).2 = (piece (s index)).2 := outputsOf_label ..

theorem outputsOf_member_ne {index other : Index} (different : other ≠ index) (piece : Transducer State Output)
    (s : Index → State) : outputsOf index (member other piece s).2 = [] := outputsOf_label_ne different _

variable {step : Input → Transducer State Output}

theorem runAll_member (inputs : List (Index × Input)) (s : Index → State) (index : Index) :
    (runAll (fun labelled => member labelled.1 (step labelled.2)) inputs s).1 index =
        (runAll step (inputsFor index inputs) (s index)).1 ∧
      outputsOf index (runAll (fun labelled => member labelled.1 (step labelled.2)) inputs s).2 =
        (runAll step (inputsFor index inputs) (s index)).2 := by
  induction inputs generalizing s with
  | nil => exact ⟨rfl, rfl⟩
  | cons labelled rest ih =>
    obtain ⟨receiver, input⟩ := labelled
    obtain ⟨state, outputs⟩ := ih (member receiver (step input) s).1
    have turn : (runAll (fun labelled => member labelled.1 (step labelled.2)) ((receiver, input) :: rest) s).2 =
        (member receiver (step input) s).2 ++ (runAll (fun labelled => member labelled.1 (step labelled.2)) rest
          (member receiver (step input) s).1).2 := rfl
    rw [turn, outputsOf_append, outputs]
    by_cases same : receiver = index
    · -- The member itself takes the step, and the rest goes on from there.
      subst same
      rw [member_fst_self] at state ⊢
      rw [inputsFor_cons_self, outputsOf_member_self]
      exact ⟨state, rfl⟩
    · -- Another one does, and all its outputs are labelled with that one.
      rw [member_fst_ne same] at state ⊢
      rw [inputsFor_cons_ne same, outputsOf_member_ne same, List.nil_append]
      exact ⟨state, rfl⟩

/-! ## A part of a larger state -/

section PartOf
variable {Own Inner Shown Seen : Type}

/-- The part takes the inputs of its own, and what is seen of the outputs is what it shows. -/
structure PartOf (step : Input → Transducer State Output) (inner : Own → Transducer Inner Shown)
    (own : Input → Option Own) (holds : State → Inner → Prop) (seen : Output → Option Seen)
    (shown : Shown → Option Seen) : Prop where
  mine : ∀ {input : Input} {taken : Own}, own input = some taken → ∀ {s : State} {part : Inner}, holds s part →
    holds (step input s).1 (inner taken part).1 ∧
      (step input s).2.filterMap seen = (inner taken part).2.filterMap shown
  others : ∀ {input : Input}, own input = none → ∀ {s : State} {part : Inner}, holds s part →
    holds (step input s).1 part ∧ (step input s).2.filterMap seen = []

/-- The part goes through its own inputs as if it were alone. -/
theorem PartOf.runAll {step : Input → Transducer State Output} {inner : Own → Transducer Inner Shown}
    {own : Input → Option Own} {holds : State → Inner → Prop} {seen : Output → Option Seen}
    {shown : Shown → Option Seen} (isPart : PartOf step inner own holds seen shown) (inputs : List Input) {s : State}
    {part : Inner} (start : holds s part) :
    holds (Transducer.runAll step inputs s).1 (Transducer.runAll inner (inputs.filterMap own) part).1 ∧
      (Transducer.runAll step inputs s).2.filterMap seen =
        (Transducer.runAll inner (inputs.filterMap own) part).2.filterMap shown := by
  induction inputs generalizing s part with
  | nil => exact ⟨start, rfl⟩
  | cons input rest ih =>
    have turn : (Transducer.runAll step (input :: rest) s).2 =
        (step input s).2 ++ (Transducer.runAll step rest (step input s).1).2 := rfl
    rw [turn, List.filterMap_append]
    cases takes : own input with
    | none =>
      obtain ⟨kept, silent⟩ := isPart.others takes start
      rw [List.filterMap_cons_none takes, silent, List.nil_append]
      exact ih kept
    | some taken =>
      obtain ⟨moved, told⟩ := isPart.mine takes start
      obtain ⟨after, later⟩ := ih moved
      rw [List.filterMap_cons_some takes, told, later]
      exact ⟨after, List.filterMap_append.symm⟩

end PartOf

end Foolject.Transducer
