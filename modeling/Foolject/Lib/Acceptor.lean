import Foolject.Lib.Transducer

/-! Acceptors of the inputs for which the outputs of a transducer are in order.

An acceptor sees the inputs only. It follows a transducer if it moves where the outputs are
in order by their account and is stuck where they are not.
-/

set_option autoImplicit false

namespace Foolject.Transducer

variable {State Output Input Account Phase : Type}

/-- The move of the acceptor decides whether the outputs are in order, and stays related. -/
structure Follows (after : Account → Output → Account) (ok : Account → Output → Prop)
    (rel : State → Account → Phase → Prop) (piece : Transducer State Output) (move : Phase → Option Phase) :
    Prop where
  moves : ∀ {s : State} {account : Account} {phase next : Phase}, rel s account phase → move phase = some next →
    Along after ok account (piece s).2 ∧ rel (piece s).1 ((piece s).2.foldl after account) next
  stuck : ∀ {s : State} {account : Account} {phase : Phase}, rel s account phase → move phase = none →
    ¬ Along after ok account (piece s).2

variable {after : Account → Output → Account} {ok : Account → Output → Prop}
  {rel : State → Account → Phase → Prop} {first second : Transducer State Output} {one two : Phase → Option Phase}

theorem Follows.skip : Follows after ok rel skip some where
  moves related same := by
    cases same
    exact ⟨trivial, related⟩
  stuck := by
    intro s account phase _ never
    cases never

theorem along_silent {outputs : List Output}
    (silent : ∀ output ∈ outputs, ∀ account, after account output = account ∧ ok account output) (account : Account) :
    outputs.foldl after account = account ∧ Along after ok account outputs := by
  induction outputs with
  | nil => exact ⟨rfl, trivial⟩
  | cons output rest ih =>
    obtain ⟨now, inOrder⟩ := silent output List.mem_cons_self account
    obtain ⟨same, later⟩ := ih fun output inside => silent output (List.mem_cons_of_mem _ inside)
    rw [List.foldl_cons, Along, now]
    exact ⟨same, inOrder, later⟩

theorem Follows.silent {piece : Transducer State Output} {shift : Phase → Phase}
    (shifts : ∀ s account phase, rel s account phase → rel (piece s).1 account (shift phase))
    (silent : ∀ s, ∀ output ∈ (piece s).2, ∀ account, after account output = account ∧ ok account output) :
    Follows after ok rel piece fun phase => some (shift phase) where
  moves := by
    intro s account phase next related moved
    cases moved
    obtain ⟨same, inOrder⟩ := along_silent (silent s) account
    rw [same]
    exact ⟨inOrder, shifts s account phase related⟩
  stuck := by
    intro s account phase _ never
    cases never

theorem Follows.aside {piece : Transducer State Output}
    (keeps : ∀ s account phase, rel s account phase → rel (piece s).1 account phase)
    (silent : ∀ s, ∀ output ∈ (piece s).2, ∀ account, after account output = account ∧ ok account output) :
    Follows after ok rel piece some := Follows.silent keeps silent

theorem Follows.andThen (left : Follows after ok rel first one) (right : Follows after ok rel second two) :
    Follows after ok rel (andThen first second) fun phase => (one phase).bind two where
  moves := by
    intro s account phase next related moved
    obtain ⟨middle, early, late⟩ := Option.bind_eq_some_iff.mp moved
    obtain ⟨inOrder, related⟩ := left.moves related early
    obtain ⟨later, related⟩ := right.moves related late
    refine ⟨along_append.mpr ⟨inOrder, later⟩, ?_⟩
    unfold Transducer.andThen
    dsimp only
    rw [List.foldl_append]
    exact related
  stuck := by
    intro s account phase related blocked inOrder
    obtain ⟨early, late⟩ := along_append.mp inOrder
    -- The acceptor is stuck in the first piece, or comes through that and is stuck in the second.
    cases moved : one phase with
    | none => exact left.stuck related moved early
    | some middle =>
      rw [moved] at blocked
      exact right.stuck (left.moves related moved).2 blocked late

theorem Follows.before (left : Follows after ok rel first one) (right : Follows after ok rel second some) :
    Follows after ok rel (Transducer.andThen first second) one := by
  have stays : (fun phase => (one phase).bind some) = one := funext fun phase => Option.bind_fun_some (one phase)
  rw [← stays]
  exact left.andThen right

theorem Follows.behind (left : Follows after ok rel first some) (right : Follows after ok rel second two) :
    Follows after ok rel (Transducer.andThen first second) two := left.andThen right

theorem Follows.onlyIf {test : State → Prop} [DecidablePred test] (inner : Follows after ok rel first some) :
    Follows after ok rel (Transducer.onlyIf test first) some where
  moves := by
    intro s account phase next related moved
    by_cases holds : test s
    · rw [onlyIf_pos holds]
      exact inner.moves related moved
    · rw [onlyIf_neg holds]
      exact Follows.skip.moves related moved
  stuck := by
    intro s account phase _ never
    cases never

def moveAll (move : Input → Phase → Option Phase) : List Input → Phase → Option Phase
  | [], phase => some phase
  | input :: rest, phase => (move input phase).bind (moveAll move rest)

variable {step : Input → Transducer State Output} {move : Input → Phase → Option Phase}

theorem Follows.runAll (each : ∀ input, Follows after ok rel (step input) (move input)) (inputs : List Input) :
    Follows after ok rel (runAll step inputs) (moveAll move inputs) := by
  induction inputs with
  | nil => exact Follows.skip
  | cons input rest ih => exact (each input).andThen ih

/-- The outputs are in order exactly if the acceptor is never stuck. -/
theorem Follows.along_iff {piece : Transducer State Output} {move : Phase → Option Phase}
    (follows : Follows after ok rel piece move) {s : State} {account : Account} {phase : Phase}
    (related : rel s account phase) : Along after ok account (piece s).2 ↔ (move phase).isSome = true := by
  cases moved : move phase with
  | none => exact iff_of_false (follows.stuck related moved) Bool.false_ne_true
  | some next => exact iff_of_true (follows.moves related moved).1 rfl

end Foolject.Transducer
