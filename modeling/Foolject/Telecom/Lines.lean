import Mathlib.Data.List.Basic
import Mathlib.Logic.Function.Basic
import Foolject.Telecom.Events

/-! All the lines of an installation, and the counters of their states, as `Telecom.cpp`
keeps them. -/

set_option autoImplicit false

namespace Foolject.Telecom
open Transducer

def countEffect (total : TLineState → UInt32) : Effect → TLineState → UInt32
  | .countState before after =>
    let less := Function.update total before (total before - 1)
    Function.update less after (less after + 1)
  | _ => total

def countAll (effects : List Effect) (total : TLineState → UInt32) : TLineState → UInt32 :=
  effects.foldl countEffect total

theorem countAll_append (before after : List Effect) (total : TLineState → UInt32) :
    countAll (before ++ after) total = countAll after (countAll before total) := List.foldl_append

structure TTelecom where
  lines : List TLine
  totalLinesInState : TLineState → UInt32

namespace TTelecom

def linesInState (tel : TTelecom) (state : TLineState) : Nat := tel.lines.countP (·.state = state)

def onLine (tel : TTelecom) (i : Nat) (handler : Handler) : TTelecom :=
  match tel.lines[i]? with
  | none => tel
  | some line =>
    { lines := tel.lines.set i (handler line).1
      totalLinesInState := countAll (handler line).2 tel.totalLinesInState }

/-- The loop of `openLines`, with the lines that are left to open. It ends at a line that
cannot be opened. -/
def openFrom (opens : Nat → Bool) : Nat → Nat → TTelecom → Bool × TTelecom
  | _, 0, tel => (true, tel)
  | i, left + 1, tel =>
    if opens i then openFrom opens (i + 1) left (tel.onLine i (TLine.openLine true))
    else (false, tel)

def openLines (opens : Nat → Bool) (lines : List TLine) : Bool × TTelecom :=
  let total := fun state => if state = TLineState.closed then 4 else 0
  if lines.length < 1 then (false, ⟨lines, total⟩)
  else openFrom opens 0 lines.length ⟨lines, total⟩

def Fresh (numOfLines : UInt32) (lines : List TLine) : Prop :=
  lines.length = numOfLines.toNat ∧
    ∀ line ∈ lines, ∃ index ani dnis crn, line = TLine.fresh index ani dnis crn

def system (numOfLines : UInt32) (opens : Nat → Bool) : System TTelecom (Nat × LineInput) :=
  .ofStep (fun tel => ∃ lines, Fresh numOfLines lines ∧ tel = (openLines opens lines).2)
    fun tel label => some (tel.onLine label.1 (TLine.input label.2))

def Exact (tel : TTelecom) : Prop :=
  ∀ state, (tel.totalLinesInState state).toNat = tel.linesInState state

end TTelecom

end Foolject.Telecom
