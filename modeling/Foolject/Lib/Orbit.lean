import Mathlib.Logic.Function.Iterate
import Mathlib.Order.Preorder.Finite

/-! Walks along a function, up to the first state where they leave.

A walk that is confined to finitely many states leaves unless it comes back to a state.
-/

set_option autoImplicit false

namespace Foolject.Orbit

variable {State : Type} (next : State → State) (leaves : State → Prop)

/-- The walk has not left before this step. -/
def Stays (start : State) (n : Nat) : Prop := ∀ k < n, ¬ leaves (next^[k] start)

def Returns (start : State) : Prop :=
  ∃ i j, i < j ∧ Stays next leaves start j ∧ next^[i] start = next^[j] start

variable {next leaves} {start : State}

theorem stays_zero : Stays next leaves start 0 := fun _ below => absurd below (Nat.not_lt_zero _)

theorem stays_succ {n : Nat} :
    Stays next leaves start (n + 1) ↔ ¬ leaves start ∧ Stays next leaves (next start) n := by
  constructor
  · intro stays
    exact ⟨stays 0 (Nat.succ_pos n), fun k below => stays (k + 1) (Nat.succ_lt_succ below)⟩
  · intro ⟨first, rest⟩ k below
    cases k with
    | zero => exact first
    | succ k => exact rest k (Nat.lt_of_succ_lt_succ below)

theorem leaves_unique {m n : Nat} (staysM : Stays next leaves start m) (leavesM : leaves (next^[m] start))
    (staysN : Stays next leaves start n) (leavesN : leaves (next^[n] start)) : m = n := by
  rcases lt_trichotomy m n with before | same | after
  · exact absurd leavesM (staysN m before)
  · exact same
  · exact absurd leavesN (staysM n after)

/-- Once the walk has come back, it is always where it has been before. -/
theorem mem_of_return {i j : Nat} (earlier : i < j) (same : next^[i] start = next^[j] start) (n : Nat) :
    ∃ k < j, next^[n] start = next^[k] start := by
  induction n using Nat.strong_induction_on with
  | h n ih =>
    by_cases early : n < j
    · exact ⟨n, early, rfl⟩
    · have back : next^[n] start = next^[n - j + i] start := by
        calc next^[n] start = next^[n - j + j] start := by rw [Nat.sub_add_cancel (Nat.le_of_not_lt early)]
          _ = next^[n - j] (next^[j] start) := Function.iterate_add_apply next (n - j) j start
          _ = next^[n - j] (next^[i] start) := by rw [same]
          _ = next^[n - j + i] start := (Function.iterate_add_apply next (n - j) i start).symm
      obtain ⟨k, below, found⟩ := ih (n - j + i) (by omega)
      exact ⟨k, below, back.trans found⟩

theorem not_leaves_of_returns (returns : Returns next leaves start) (n : Nat) : ¬ leaves (next^[n] start) := by
  obtain ⟨i, j, earlier, stays, same⟩ := returns
  obtain ⟨k, below, found⟩ := mem_of_return earlier same n
  rw [found]
  exact stays k below

/-- A walk in a finite set leaves exactly if it does not come back. -/
theorem leaves_iff {states : Set State} (finite : states.Finite)
    (confined : ∀ n, Stays next leaves start (n + 1) → next^[n] start ∈ states) :
    (∃ n, leaves (next^[n] start)) ↔ ¬ Returns next leaves start := by
  constructor
  · intro ⟨n, left⟩ returns
    exact not_leaves_of_returns returns n left
  · intro never
    by_contra stuck
    have stays : ∀ n, Stays next leaves start n := fun n k _ left => stuck ⟨k, left⟩
    obtain ⟨i, j, earlier, same⟩ :=
      Set.Finite.exists_lt_map_eq_of_forall_mem (fun n => confined n (stays (n + 1))) finite
    exact never ⟨i, j, earlier, stays j, same⟩

/-- A walk that climbs does not come back. -/
theorem not_returns_of_climbs (height : State → Nat)
    (climbs : ∀ n, Stays next leaves start (n + 1) → height (next^[n] start) < height (next^[n + 1] start)) :
    ¬ Returns next leaves start := by
  rintro ⟨i, j, earlier, stays, same⟩
  have above : ∀ k, i < k → k ≤ j → height (next^[i] start) < height (next^[k] start) := by
    intro k after early
    induction k, after using Nat.le_induction with
    | base => exact climbs i fun m below => stays m (lt_of_lt_of_le below early)
    | succ k after ih =>
      have step := climbs k fun m below => stays m (lt_of_lt_of_le below early)
      exact lt_trans (ih (Nat.le_of_succ_le early)) step
  have higher := above j earlier (le_refl j)
  rw [same] at higher
  exact absurd higher (lt_irrefl _)

/-! ## Loops that are given a number of turns -/

section Loop
variable {Result : Type} {loop : Nat → State → Option Result}

/-- A loop that follows the walk ends exactly if the walk leaves. -/
theorem ends_iff (outOfTurns : ∀ s, loop 0 s = none) (last : ∀ s, leaves s → ∃ fuel, (loop fuel s).isSome = true)
    (goesOn : ∀ fuel s, ¬ leaves s → loop (fuel + 1) s = loop fuel (next s)) (start : State) :
    (∃ fuel, (loop fuel start).isSome = true) ↔ ∃ n, leaves (next^[n] start) := by
  constructor
  · rintro ⟨fuel, ended⟩
    induction fuel generalizing start with
    | zero =>
      rw [outOfTurns] at ended
      cases ended
    | succ fuel ih =>
      by_cases left : leaves start
      · exact ⟨0, left⟩
      · rw [goesOn fuel start left] at ended
        obtain ⟨n, later⟩ := ih (next start) ended
        exact ⟨n + 1, later⟩
  · rintro ⟨n, left⟩
    induction n generalizing start with
    | zero => exact last start left
    | succ n ih =>
      by_cases first : leaves start
      · exact last start first
      · obtain ⟨fuel, ended⟩ := ih (next start) left
        refine ⟨fuel + 1, ?_⟩
        rw [goesOn fuel start first]
        exact ended

end Loop

end Foolject.Orbit
