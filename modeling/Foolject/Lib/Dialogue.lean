import Mathlib.Logic.Function.Basic
import Foolject.Lib.Transducer

/-! Questions that are answered by lines of text.

A line is read into a buffer, whatever the size of that is. An empty line stands for the fallback of the
question, and some lines call off all that was asked.
-/

set_option autoImplicit false

namespace Foolject

abbrev Line := List Char

inductive Dialogue (Buffer Result : Type) where
  | done (result : Result)
  | gets (buffer : Buffer) (fallback : Line) (next : Line → Dialogue Buffer Result)

structure Terms (Buffer : Type) where
  size : Buffer → Nat
  cancels : Line → Bool

structure Terms.Accepts {Buffer : Type} (terms : Terms Buffer) (buffer : Buffer) (line : Line) : Prop where
  fits : line.length < terms.size buffer
  goesOn : terms.cancels line = false

namespace Dialogue

variable {Buffer Result : Type}

def meant (fallback line : Line) : Line := if line = [] then fallback else line

theorem meant_nil (fallback : Line) : meant fallback [] = fallback := if_pos rfl

theorem meant_of_ne {line : Line} (typed : line ≠ []) (fallback : Line) : meant fallback line = line := if_neg typed

theorem meant_empty (line : Line) : meant [] line = line := by
  cases line with
  | nil => rfl
  | cons c line => exact if_neg (List.cons_ne_nil c line)

theorem of_meant {good : Line → Prop} {fallback line : Line} (ready : good fallback) (fine : line ≠ [] → good line) :
    good (meant fallback line) := by
  by_cases typed : line = []
  · rw [typed, meant_nil]
    exact ready
  · rw [meant_of_ne typed]
    exact fine typed

variable [DecidableEq Buffer] {terms : Terms Buffer} {memory after : Buffer → Line}

/-- The lines answer all the questions, and leave these texts in the buffers. -/
inductive Answered (terms : Terms Buffer) :
    Dialogue Buffer Result → (Buffer → Line) → List Line → Result → (Buffer → Line) → Prop where
  | done {result : Result} {memory : Buffer → Line} : Answered terms (.done result) memory [] result memory
  | line {buffer : Buffer} {fallback line : Line} {next : Line → Dialogue Buffer Result} {memory after : Buffer → Line}
      {rest : List Line} {result : Result} : terms.Accepts buffer line →
      Answered terms (next (meant fallback line)) (Function.update memory buffer (meant fallback line)) rest result
        after →
      Answered terms (.gets buffer fallback next) memory (line :: rest) result after

/-- Whatever the answers, if each is as `good` says, it ends as `ends` says. -/
def Ensures (good : Buffer → Line → Prop) (ends : Result → (Buffer → Line) → Prop) :
    Dialogue Buffer Result → (Buffer → Line) → Prop
  | .done result, memory => ends result memory
  | .gets buffer fallback next, memory => good buffer fallback ∧
    ∀ value, good buffer value → Ensures good ends (next value) (Function.update memory buffer value)

variable {good : Buffer → Line → Prop} {ends : Result → (Buffer → Line) → Prop}

theorem Ensures.meant {buffer : Buffer} {fallback line : Line} {next : Line → Dialogue Buffer Result}
    (ensures : Ensures good ends (.gets buffer fallback next) memory) (fine : line ≠ [] → good buffer line) :
    Ensures good ends (next (meant fallback line)) (Function.update memory buffer (Dialogue.meant fallback line)) := by
  obtain ⟨ready, later⟩ := ensures
  exact later _ (of_meant ready fine)

theorem Ensures.answered {dialogue : Dialogue Buffer Result} {lines : List Line} {result : Result}
    (ensures : Ensures good ends dialogue memory) (answers : Answered terms dialogue memory lines result after)
    (fine : ∀ buffer line, line ≠ [] → terms.Accepts buffer line → good buffer line) : ends result after := by
  induction answers with
  | done => exact ensures
  | line accepts _ ih => exact ih (ensures.meant fun typed => fine _ _ typed accepts)

end Dialogue

end Foolject
