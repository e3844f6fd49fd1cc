/-! State transformers with outputs, put together from smaller ones.

A relation between the state before, the outputs and the state after that holds of doing
nothing, and of two pieces if it holds of each, need only be shown of the basic pieces.
-/

set_option autoImplicit false

namespace Foolject

variable {State Output Input : Type}

abbrev Transducer (State Output : Type) := State → State × List Output

namespace Transducer

def skip : Transducer State Output := fun s => (s, [])

def modify (change : State → State) : Transducer State Output := fun s => (change s, [])

def emit (outputs : State → List Output) : Transducer State Output := fun s => (s, outputs s)

def andThen (first second : Transducer State Output) : Transducer State Output := fun s =>
  ((second (first s).1).1, (first s).2 ++ (second (first s).1).2)

def onlyIf (test : State → Prop) [DecidablePred test] (piece : Transducer State Output) :
    Transducer State Output := fun s => if test s then piece s else (s, [])

def runAll (step : Input → Transducer State Output) : List Input → Transducer State Output
  | [] => skip
  | input :: rest => andThen (step input) (runAll step rest)

variable {first second third piece : Transducer State Output} {test : State → Prop} [DecidablePred test]

/-! ## The state afterwards -/

@[simp] theorem skip_fst (s : State) : (skip s : State × List Output).1 = s := rfl

@[simp] theorem modify_fst (change : State → State) (s : State) :
    (modify change s : State × List Output).1 = change s := rfl

@[simp] theorem emit_fst (outputs : State → List Output) (s : State) : (emit outputs s).1 = s := rfl

@[simp] theorem andThen_fst (s : State) : (andThen first second s).1 = (second (first s).1).1 := rfl

theorem andThen_assoc :
    andThen (andThen first second) third = andThen first (andThen second third) := by
  funext s
  unfold andThen
  dsimp only
  rw [List.append_assoc]

theorem runAll_append (step : Input → Transducer State Output) (before later : List Input) :
    runAll step (before ++ later) = andThen (runAll step before) (runAll step later) := by
  induction before with
  | nil => rfl
  | cons input rest ih =>
    rw [List.cons_append, runAll, runAll, andThen_assoc, ih]

theorem onlyIf_pos {s : State} (holds : test s) : onlyIf test piece s = piece s := if_pos holds

theorem onlyIf_neg {s : State} (fails : ¬ test s) : onlyIf test piece s = (s, []) := if_neg fails

/-- What each step does to a view of the state, a run does by folding it over the inputs. -/
theorem runAll_view {View : Type} {step : Input → Transducer State Output} {view : State → View}
    {after : View → Input → View} (each : ∀ input s, view (step input s).1 = after (view s) input)
    (inputs : List Input) (s : State) : view (runAll step inputs s).1 = inputs.foldl after (view s) := by
  induction inputs generalizing s with
  | nil => rfl
  | cons input rest ih =>
    rw [List.foldl_cons, ← each input s]
    exact ih (step input s).1

/-! ## Relations that can be composed -/

/-- The relation holds of nothing and of the composition of related pieces. -/
structure Composes (rel : State → List Output → State → Prop) : Prop where
  nothing : ∀ s, rel s [] s
  compose : ∀ {s t u : State} {before after : List Output}, rel s before t → rel t after u →
    rel s (before ++ after) u

def Respects (rel : State → List Output → State → Prop) (piece : Transducer State Output) : Prop :=
  ∀ s, rel s (piece s).2 (piece s).1

variable {rel : State → List Output → State → Prop}

theorem Respects.skip (composes : Composes rel) : Respects rel skip := composes.nothing

theorem Respects.andThen (composes : Composes rel) (one : Respects rel first)
    (two : Respects rel second) : Respects rel (andThen first second) :=
  fun s => composes.compose (one s) (two (first s).1)

theorem Respects.onlyIf (composes : Composes rel) (inner : Respects rel piece) :
    Respects rel (onlyIf test piece) := by
  intro s
  by_cases holds : test s
  · rw [onlyIf_pos holds]
    exact inner s
  · rw [onlyIf_neg holds]
    exact composes.nothing s

theorem Respects.runAll (composes : Composes rel) {step : Input → Transducer State Output}
    (each : ∀ input, Respects rel (step input)) (inputs : List Input) : Respects rel (runAll step inputs) := by
  induction inputs with
  | nil => exact composes.nothing
  | cons input rest ih => exact (each input).andThen composes ih

/-! ## What the outputs keep account of -/

section Account
variable {Account : Type} {after : Account → Output → Account} {ok : Account → Output → Prop}

/-- Each output is in order by the account of those before it. -/
def Along (after : Account → Output → Account) (ok : Account → Output → Prop) : Account → List Output → Prop
  | _, [] => True
  | account, output :: rest => ok account output ∧ Along after ok (after account output) rest

theorem along_append {before later : List Output} {account : Account} :
    Along after ok account (before ++ later) ↔
      Along after ok account before ∧ Along after ok (before.foldl after account) later := by
  induction before generalizing account with
  | nil => exact (and_iff_right trivial).symm
  | cons output rest ih =>
    rw [List.cons_append, Along, Along, ih, List.foldl_cons, and_assoc]

end Account

/-! ## Invariants -/

/-- To keep an invariant, seen as a relation. -/
theorem Composes.invariant (inv : State → Prop) :
    Composes fun (before : State) (_ : List Output) after => inv before → inv after where
  nothing _ := id
  compose one two := two ∘ one

theorem Composes.same {Part : Type} (part : State → Part) :
    Composes fun (before : State) (_ : List Output) after => part after = part before where
  nothing _ := rfl
  compose one two := two.trans one

def Keeps (inv : State → Prop) (piece : Transducer State Output) : Prop := ∀ s, inv s → inv (piece s).1

variable {inv : State → Prop}

theorem Keeps.andThen (one : Keeps inv first) (two : Keeps inv second) : Keeps inv (andThen first second) :=
  fun s holds => two _ (one s holds)

/-- The piece need only keep the invariant where the test holds. -/
theorem Keeps.onlyIf (inner : ∀ s, test s → inv s → inv (piece s).1) : Keeps inv (onlyIf test piece) := by
  intro s holds
  by_cases passes : test s
  · rw [onlyIf_pos passes]
    exact inner s passes holds
  · rw [onlyIf_neg passes]
    exact holds

end Transducer

end Foolject
