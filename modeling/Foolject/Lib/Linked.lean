import Mathlib.Data.List.Chain
import Mathlib.Logic.Function.Basic

/-! Lists that are threaded through a table of links.

The links of elements outside the list may be anything.
-/

set_option autoImplicit false

namespace Foolject.Linked

variable {Index : Type} {link : Index → Index} {list : List Index} {last new : Index}

/-- The link of each element but the last is the element after it. -/
def Links (link : Index → Index) (list : List Index) : Prop := list.IsChain fun one two => link one = two

theorem Links.tail {first : Index} (links : Links link (first :: list)) : Links link list := List.IsChain.tail links

theorem Links.second {first second : Index} (links : Links link (first :: second :: list)) :
    link first = second := (List.isChain_cons_cons.mp links).1

variable [DecidableEq Index]

theorem Links.update (links : Links link list) (distinct : list.Nodup) (ends : last ∈ list → list.getLast? = some last)
    (target : Index) : Links (Function.update link last target) list := by
  induction list with
  | nil => exact List.isChain_nil
  | cons first rest ih =>
    cases rest with
    | nil => exact List.isChain_singleton first
    | cons second rest =>
      obtain ⟨fresh, distinct⟩ := List.nodup_cons.mp distinct
      have other : first ≠ last := by
        rintro rfl
        have atEnd := ends (List.mem_cons_self)
        rw [List.getLast?_cons_cons] at atEnd
        exact fresh (List.mem_of_getLast? atEnd)
      apply List.isChain_cons_cons.mpr
      constructor
      · rw [Function.update_of_ne other]
        exact links.second
      · apply ih links.tail distinct
        intro inside
        have atEnd := ends (List.mem_cons_of_mem first inside)
        rwa [List.getLast?_cons_cons] at atEnd

theorem Links.snoc (links : Links link list) (distinct : list.Nodup) (ends : list.getLast? = some last) :
    Links (Function.update link last new) (list ++ [new]) := by
  apply List.isChain_append.mpr
  refine ⟨links.update distinct (fun _ => ends) new, List.isChain_singleton new, ?_⟩
  intro before atEnd after single
  have same : before = last := Option.some.inj (atEnd.symm.trans ends)
  have added : new = after := Option.some.inj single
  rw [same, Function.update_self, added]

end Foolject.Linked
