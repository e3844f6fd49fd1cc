import Mathlib.Data.List.Nodup
import Mathlib.Logic.Function.Basic

/-! Singly linked lists in a heap.

A chain is what is found from an address by following the links, up to the null link. Cells
outside the chain may be anything.
-/

set_option autoImplicit false

namespace Foolject

structure Cell (Address Value : Type) where
  value : Value
  next : Option Address
  deriving DecidableEq, Repr

abbrev Heap (Address Value : Type) := Address → Option (Cell Address Value)

variable {Address Value : Type} {heap : Heap Address Value} {list : List (Address × Value)}

def Chain (heap : Heap Address Value) : Option Address → List (Address × Value) → Prop
  | start, [] => start = none
  | start, (address, value) :: rest =>
    start = some address ∧ ∃ next, heap address = some ⟨value, next⟩ ∧ Chain heap next rest

namespace Chain

theorem start_eq_none {start : Option Address} (chain : Chain heap start list) : start = none ↔ list = [] := by
  cases list with
  | nil => exact iff_of_true chain rfl
  | cons cell rest =>
    rw [chain.1]
    exact iff_of_false (Option.some_ne_none _) (List.cons_ne_nil _ _)

theorem last {start : Option Address} {address : Address} {value : Value}
    (chain : Chain heap start (list ++ [(address, value)])) : heap address = some ⟨value, none⟩ := by
  induction list generalizing start with
  | nil =>
    obtain ⟨-, next, found, ends⟩ := chain
    rw [found, ends]
  | cons cell list ih =>
    obtain ⟨-, next, -, rest⟩ := chain
    exact ih rest

theorem found {start : Option Address} (chain : Chain heap start list) {address : Address}
    (inside : address ∈ list.map Prod.fst) : heap address ≠ none := by
  induction list generalizing start with
  | nil => cases inside
  | cons head list ih =>
    obtain ⟨-, next, here, rest⟩ := chain
    rw [List.map_cons] at inside
    rcases List.mem_cons.mp inside with rfl | later
    · rw [here]
      exact Option.some_ne_none _
    · exact ih rest later

variable [DecidableEq Address]

theorem allocated_free {freed address : Address} (allocated : Function.update heap freed none address ≠ none) :
    address ≠ freed ∧ heap address ≠ none := by
  by_cases same : address = freed
  · rw [same, Function.update_self] at allocated
    exact absurd rfl allocated
  · rw [Function.update_of_ne same] at allocated
    exact ⟨same, allocated⟩

theorem update {start : Option Address} {outside : Address} (chain : Chain heap start list)
    (notIn : outside ∉ list.map Prod.fst) (cell : Option (Cell Address Value)) :
    Chain (Function.update heap outside cell) start list := by
  induction list generalizing start with
  | nil => exact chain
  | cons head list ih =>
    obtain ⟨first, next, found, rest⟩ := chain
    rw [List.map_cons, List.mem_cons, not_or] at notIn
    refine ⟨first, next, ?_, ih rest notIn.2⟩
    rw [Function.update_of_ne (Ne.symm notIn.1)]
    exact found

/-- A cell that stands behind the last one is linked by changing the last one's link. -/
theorem snoc {start : Option Address} {address new : Address} {value added : Value}
    (chain : Chain heap start (list ++ [(address, value)]))
    (distinct : ((list ++ [(address, value)]).map Prod.fst).Nodup)
    (behind : heap new = some ⟨added, none⟩) (fresh : new ∉ (list ++ [(address, value)]).map Prod.fst) :
    Chain (Function.update heap address (some ⟨value, some new⟩)) start (list ++ [(address, value), (new, added)]) := by
  induction list generalizing start with
  | nil =>
    have other : new ≠ address := List.ne_of_not_mem_cons fresh
    refine ⟨chain.1, some new, Function.update_self .., rfl, none, ?_, rfl⟩
    rw [Function.update_of_ne other]
    exact behind
  | cons head list ih =>
    obtain ⟨first, next, found, rest⟩ := chain
    rw [List.cons_append, List.map_cons] at distinct fresh
    obtain ⟨apart, distinct⟩ := List.nodup_cons.mp distinct
    have other : head.1 ≠ address := by
      intro same
      apply apart
      rw [same, List.map_append]
      exact List.mem_append_right _ List.mem_cons_self
    refine ⟨first, next, ?_, ih rest distinct (List.not_mem_of_not_mem_cons fresh)⟩
    rw [Function.update_of_ne other]
    exact found

end Chain

end Foolject
