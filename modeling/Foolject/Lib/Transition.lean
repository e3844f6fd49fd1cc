import Mathlib.Data.List.Basic

/-! Labelled transition systems, guarded runs and their invariants.

A guard restricts the steps a run may take by the state before the step and by
the label. The unguarded runs are those of the trivial guard.
-/

set_option autoImplicit false

namespace Foolject

variable {State Label : Type}

structure System (State Label : Type) where
  init : State → Prop
  step : State → Label → State → Prop

namespace System

/-- Finite runs from an initial state, with the labels of their steps in order. -/
inductive Run (sys : System State Label) (guard : State → Label → Prop) :
    List Label → State → Prop where
  | start {s : State} : sys.init s → Run sys guard [] s
  | next {trace : List Label} {s t : State} {label : Label} : Run sys guard trace s →
      guard s label → sys.step s label t → Run sys guard (trace ++ [label]) t

/-- The states in which some run with only guarded steps ends. -/
def Reaches (sys : System State Label) (guard : State → Label → Prop) (s : State) : Prop :=
  ∃ trace, sys.Run guard trace s

def Always : State → Label → Prop := fun _ _ => True

instance (s : State) (label : Label) : Decidable (Always s label) := .isTrue trivial

variable {sys : System State Label} {guard weaker : State → Label → Prop}

theorem Run.mono (implies : ∀ s label, guard s label → weaker s label)
    {trace : List Label} {s : State} (run : sys.Run guard trace s) :
    sys.Run weaker trace s := by
  induction run with
  | start initial => exact .start initial
  | next _ allowed step ih => exact .next ih (implies _ _ allowed) step

/-- A property of histories that the start has and every guarded step keeps. -/
theorem Run.invariant (inv : List Label → State → Prop)
    (initial : ∀ s, sys.init s → inv [] s)
    (preserved : ∀ trace s label t, inv trace s → guard s label → sys.step s label t →
      inv (trace ++ [label]) t)
    {trace : List Label} {s : State} (run : sys.Run guard trace s) : inv trace s := by
  induction run with
  | start start => exact initial _ start
  | next _ allowed step ih => exact preserved _ _ _ _ ih allowed step

/-- The same rule for a property of states alone. -/
theorem Reaches.invariant (inv : State → Prop) (initial : ∀ s, sys.init s → inv s)
    (preserved : ∀ s label t, inv s → guard s label → sys.step s label t → inv t)
    {s : State} (reached : sys.Reaches guard s) : inv s := by
  obtain ⟨trace, run⟩ := reached
  exact run.invariant (fun _ => inv) initial fun _ => preserved

theorem Reaches.start {s : State} (initial : sys.init s) : sys.Reaches guard s :=
  ⟨[], .start initial⟩

theorem Reaches.next {s t : State} {label : Label} (reached : sys.Reaches guard s)
    (allowed : guard s label) (step : sys.step s label t) : sys.Reaches guard t := by
  obtain ⟨trace, run⟩ := reached
  exact ⟨trace ++ [label], run.next allowed step⟩

/-- Where each step is matched by steps of another system, so is each run. -/
theorem Reaches.simulated {Other OtherLabel : Type} {other : System Other OtherLabel}
    (rel : State → Other → Prop) (initial : ∀ s, sys.init s → ∃ o, other.init o ∧ rel s o)
    (preserved : ∀ s label t o, rel s o → guard s label → sys.step s label t →
      rel t o ∨ ∃ matched next, other.step o matched next ∧ rel t next)
    {s : State} (reached : sys.Reaches guard s) : ∃ o, other.Reaches Always o ∧ rel s o := by
  apply reached.invariant fun s => ∃ o, other.Reaches Always o ∧ rel s o
  · intro s start
    obtain ⟨o, otherStart, related⟩ := initial s start
    exact ⟨o, .start otherStart, related⟩
  · rintro s label t ⟨o, otherReached, related⟩ allowed step
    rcases preserved s label t o related allowed step with same | ⟨matched, next, otherStep, after⟩
    · exact ⟨o, otherReached, same⟩
    · exact ⟨next, otherReached.next trivial otherStep, after⟩

/-! ## Systems whose labels determine the step -/

def ofStep (init : State → Prop) (step : State → Label → Option State) : System State Label where
  init := init
  step s label t := step s label = some t

/-- The state after the labels, when each of them is allowed and possible in turn. -/
def follow (guard : State → Label → Prop) [∀ s label, Decidable (guard s label)]
    (step : State → Label → Option State) : State → List Label → Option State
  | s, [] => some s
  | s, label :: rest =>
    if guard s label then (step s label).bind fun next => follow guard step next rest else none

theorem Run.follow {init : State → Prop} {step : State → Label → Option State} {guard : State → Label → Prop}
    [∀ s label, Decidable (guard s label)] {trace : List Label} {s t : State}
    (run : (ofStep init step).Run guard trace s) (labels : List Label)
    (ends : System.follow guard step s labels = some t) : (ofStep init step).Run guard (trace ++ labels) t := by
  induction labels generalizing trace s with
  | nil =>
    cases ends
    rw [List.append_nil]
    exact run
  | cons label rest ih =>
    obtain ⟨allowed, ends⟩ := Option.ite_none_right_eq_some.mp ends
    obtain ⟨next, first, ends⟩ := Option.bind_eq_some_iff.mp ends
    rw [List.append_cons]
    exact ih (run.next allowed first) ends

theorem Reaches.follow {init : State → Prop} {step : State → Label → Option State}
    {guard : State → Label → Prop} [∀ s label, Decidable (guard s label)] {s t : State}
    (reached : (ofStep init step).Reaches guard s) (labels : List Label)
    (ends : System.follow guard step s labels = some t) : (ofStep init step).Reaches guard t := by
  obtain ⟨trace, run⟩ := reached
  exact ⟨trace ++ labels, run.follow labels ends⟩

theorem Reaches.follow_any {init : State → Prop} {step : State → Label → Option State}
    {guard : State → Label → Prop} [∀ s label, Decidable (guard s label)] {s : State}
    (reached : (ofStep init step).Reaches guard s) (labels : List Label) (p : State → Bool)
    (ends : (System.follow guard step s labels).any p = true) :
    ∃ t, (ofStep init step).Reaches guard t ∧ p t = true := by
  obtain ⟨t, followed, holds⟩ := (Option.any_eq_true p _).mp ends
  exact ⟨t, reached.follow labels followed, holds⟩

/-! ## Goals within a bound -/

/-- The guard holds at every step of the labels, for as long as they are possible. -/
def Stays (guard : State → Label → Prop) (step : State → Label → Option State) :
    State → List Label → Prop
  | _, [] => True
  | s, label :: rest => guard s label ∧ ∀ next, step s label = some next → Stays guard step next rest

/-- A run that can be evaluated stays in its guard. -/
theorem stays_of_follow {guard : State → Label → Prop} [∀ s label, Decidable (guard s label)]
    {step : State → Label → Option State} (labels : List Label) {s t : State}
    (ends : follow guard step s labels = some t) : Stays guard step s labels := by
  induction labels generalizing s with
  | nil => trivial
  | cons label rest ih =>
    obtain ⟨allowed, ends⟩ := Option.ite_none_right_eq_some.mp ends
    refine ⟨allowed, fun next stepped => ih ?_⟩
    rw [stepped, Option.bind_some] at ends
    exact ends

theorem Stays.and {first second : State → Label → Prop} {step : State → Label → Option State}
    {labels : List Label} {s : State} (one : Stays first step s labels) (other : Stays second step s labels) :
    Stays (fun s label => first s label ∧ second s label) step s labels := by
  induction labels generalizing s with
  | nil => trivial
  | cons label rest ih =>
    exact ⟨⟨one.1, other.1⟩, fun next stepped => ih (one.2 next stepped) (other.2 next stepped)⟩

/-- A run does not come to a halt where each step is possible that its guard allows. -/
theorem foldlM_some {guard : State → Label → Prop} {step : State → Label → Option State} (inv : State → Prop)
    (possible : ∀ s label, inv s → guard s label → ∃ next, step s label = some next)
    (kept : ∀ s label next, inv s → step s label = some next → inv next)
    (labels : List Label) {s : State} (start : inv s) (stays : Stays guard step s labels) :
    ∃ last, labels.foldlM step s = some last := by
  induction labels generalizing s with
  | nil => exact ⟨s, rfl⟩
  | cons label rest ih =>
    obtain ⟨next, stepped⟩ := possible s label start stays.1
    obtain ⟨last, ran⟩ := ih (kept s label next start stepped) (stays.2 next stepped)
    refine ⟨last, ?_⟩
    rw [List.foldlM_cons, stepped]
    exact ran

/-- Where every counted step but the goal lowers a rank, and only costly steps raise it, the goal
is among the labels as soon as enough of them count. -/
theorem goal_within {guard : State → Label → Prop} {step : State → Label → Option State}
    {counted costly : Label → Bool} (inv : State → Prop) (goal : State → Label → Prop)
    (rank : State → Nat) (price : Nat)
    (possible : ∀ s label, inv s → guard s label → ∃ next, step s label = some next)
    (lowers : ∀ s label next, inv s → guard s label → ¬ goal s label → step s label = some next →
      inv next ∧ rank next + (if counted label then 1 else 0) ≤
        rank s + price * (if costly label then 1 else 0))
    (labels : List Label) {s : State} (start : inv s) (stays : Stays guard step s labels)
    (enough : rank s + price * labels.countP costly < labels.countP counted) :
    ∃ before label rest mid, labels = before ++ label :: rest ∧
      before.foldlM step s = some mid ∧ inv mid ∧ goal mid label := by
  induction labels generalizing s with
  | nil =>
    simp only [List.countP_nil] at enough
    omega
  | cons label rest ih =>
    by_cases now : goal s label
    · exact ⟨[], label, rest, s, rfl, rfl, start, now⟩
    · obtain ⟨allowed, stays⟩ := stays
      obtain ⟨next, stepped⟩ := possible s label start allowed
      obtain ⟨kept, lower⟩ := lowers s label next start allowed now stepped
      rw [List.countP_cons, List.countP_cons, Nat.mul_add] at enough
      obtain ⟨before, last, after, mid, split, followed, held, reached⟩ :=
        ih kept (stays next stepped) (by omega)
      refine ⟨label :: before, last, after, mid, by rw [split, List.cons_append], ?_, held, reached⟩
      rw [List.foldlM_cons, stepped]
      exact followed

/-- Where every counted step lowers a rank that no step raises, the rank falls by the counted steps. -/
theorem foldlM_rank {step : State → Label → Option State} (counted : Label → Bool)
    (inv : State → Prop) (rank : State → Nat)
    (lowers : ∀ s label next, inv s → step s label = some next →
      inv next ∧ rank next ≤ rank s - if counted label then 1 else 0)
    (labels : List Label) {s last : State} (start : inv s) (ends : labels.foldlM step s = some last) :
    rank last ≤ rank s - labels.countP counted := by
  induction labels generalizing s with
  | nil =>
    cases ends
    exact Nat.le_refl _
  | cons label rest ih =>
    rw [List.foldlM_cons] at ends
    obtain ⟨next, stepped, ends⟩ := Option.bind_eq_some_iff.mp ends
    obtain ⟨kept, lower⟩ := lowers s label next start stepped
    have fell := ih kept ends
    rw [List.countP_cons]
    omega

/-- What every step keeps, a run keeps. -/
theorem foldlM_keeps {step : State → Label → Option State} (inv : State → Prop)
    (kept : ∀ s label next, inv s → step s label = some next → inv next)
    (labels : List Label) {s last : State} (start : inv s) (ends : labels.foldlM step s = some last) :
    inv last := by
  induction labels generalizing s with
  | nil =>
    cases ends
    exact start
  | cons label rest ih =>
    rw [List.foldlM_cons] at ends
    obtain ⟨next, stepped, ends⟩ := Option.bind_eq_some_iff.mp ends
    exact ih (kept s label next start stepped) ends

/-! ## Two levels whose steps match -/

/-- Where each step is possible on both levels or on neither, and keeps the relation, so is each run. -/
theorem foldlM_rel {Other OtherLabel : Type} {rel : State → Other → Prop} {step : State → Label → Option State}
    {other : Other → OtherLabel → Option Other} {project : Label → OtherLabel}
    (each : ∀ {s : State} {o : Other} (label : Label), rel s o →
      Option.Rel rel (step s label) (other o (project label)))
    (labels : List Label) {s : State} {o : Other} (start : rel s o) :
    Option.Rel rel (labels.foldlM step s) ((labels.map project).foldlM other o) := by
  induction labels generalizing s o with
  | nil => exact .some start
  | cons label rest ih =>
    rw [List.map_cons, List.foldlM_cons, List.foldlM_cons]
    have first := each label start
    generalize step s label = next at first
    generalize other o (project label) = matched at first
    cases first with
    | none => exact .none
    | some related => exact ih related

end System

end Foolject
