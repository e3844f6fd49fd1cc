import Mathlib.Data.Fintype.Basic
import Foolject.Lib.Family
import Foolject.Hmp.Channel

/-! The loop of the HMP test: the command line and the dispatch of events to the channels.

The channel pointer is a variable of the loop that keeps its value from one event to the next.
-/

set_option autoImplicit false

namespace Foolject.Hmp
open Transducer

abbrev maxChannels : Nat := 2

abbrev Index := Fin maxChannels

/-- `channls[0]`, also where `CLI_REQ_INDEX_DEFAULT` is taken. -/
def firstIndex : Index := ⟨0, by decide⟩

def secondIndex : Index := ⟨1, by decide⟩

structure Loop where
  boardDev : Int
  /-- The channel that `pch` points to. -/
  pch : Option Index
  channls : Index → Channel

/-- What `gc_GetUsrAttr` does with the pointer it is given. -/
inductive UsrAttr where
  | gives (pch : Option Index)
  | fails
  deriving DecidableEq, Repr

def UsrAttr.read : UsrAttr → Option Index → Option Index
  | .gives pch, _ => pch
  | .fails, pch => pch

inductive Event where
  | gc (evtDev : Int) (attr : UsrAttr) (event : GcEvent)
  | r4 (evtDev : Int) (event : R4Event)
  deriving DecidableEq, Repr

/-- The commands that get as far as a channel, with the number that was typed for it. -/
inductive Cli where
  | on (typed : Int) (command : Command)
  | glare (file : List Char)
  | other
  deriving DecidableEq, Repr

inductive LoopInput where
  | cli (cli : Cli)
  | event (event : Event)
  deriving DecidableEq, Repr

/-- A number that is not that of a channel is replaced. -/
def cliIndex (typed : Int) : Index :=
  if inside : 0 ≤ typed ∧ typed < maxChannels then ⟨typed.toNat, by omega⟩ else firstIndex

namespace Loop

/-- As `pre_test` leaves the channels and `loop` sets its variables. -/
def preTest (boardDev : Int) (memory : Index → Channel) : Loop where
  boardDev := boardDev
  pch := none
  channls index := .opened index (memory index)

/-- The handler runs with `pch` pointing to the channel. -/
def dispatch (index : Index) (input : Input) : Transducer Loop (Index × Action) := fun s =>
  ({ s with channls := (member index (Channel.handle input) s.channls).1 },
    (member index (Channel.handle input) s.channls).2)

def analyseCli : Cli → Transducer Loop (Index × Action)
  | .on typed command => dispatch (cliIndex typed) (.command command)
  | .glare file =>
    andThen (dispatch firstIndex (.command (.doFax .tx (some file))))
      (dispatch secondIndex (.command (.doFax .rx none)))
  | .other => skip

def Owns (s : Loop) (index : Index) (evtDev : Int) : Prop :=
  (s.channls index).voxDev = evtDev ∨ (s.channls index).faxDev = evtDev

instance (s : Loop) (index : Index) (evtDev : Int) : Decidable (s.Owns index evtDev) :=
  inferInstanceAs (Decidable (_ ∨ _))

/-- The loop over the channels leaves `pch` at the last one that has the device. -/
def search (s : Loop) (evtDev : Int) : Option Index :=
  (List.finRange maxChannels).foldl (fun pch index => if s.Owns index evtDev then some index else pch) s.pch

def handleAt : Option Index → Input → Transducer Loop (Index × Action)
  | none, _ => fun s => ({ s with pch := none }, [])
  | some index, input => fun s => dispatch index input { s with pch := some index }

def handleEvent : Event → Transducer Loop (Index × Action)
  | .gc evtDev attr event => fun s =>
    if evtDev = s.boardDev then (s, []) else handleAt (attr.read s.pch) (.gc event) s
  | .r4 evtDev event => fun s => handleAt (s.search evtDev) (.r4 event) s

def step : LoopInput → Transducer Loop (Index × Action)
  | .cli cli => analyseCli cli
  | .event event => handleEvent event

/-! ## Which channel gets which inputs -/

def handed (s : Loop) : LoopInput → List (Index × Input)
  | .cli (.on typed command) => [(cliIndex typed, .command command)]
  | .cli (.glare file) =>
    [(firstIndex, .command (.doFax .tx (some file))), (secondIndex, .command (.doFax .rx none))]
  | .cli .other => []
  | .event (.gc evtDev attr event) =>
    if evtDev = s.boardDev then [] else (attr.read s.pch).toList.map fun index => (index, .gc event)
  | .event (.r4 evtDev event) => (s.search evtDev).toList.map fun index => (index, .r4 event)

def handedAll : List LoopInput → Loop → List (Index × Input)
  | [], _ => []
  | input :: rest, s => s.handed input ++ handedAll rest (step input s).1

def handleAll : List (Index × Input) → Transducer (Index → Channel) (Index × Action) :=
  runAll fun labelled => member labelled.1 (Channel.handle labelled.2)

theorem handleAll_single (index : Index) (input : Input) (channls : Index → Channel) :
    handleAll [(index, input)] channls = member index (Channel.handle input) channls := by
  unfold handleAll runAll runAll andThen skip
  dsimp only
  rw [List.append_nil]

theorem handleAll_append (before later : List (Index × Input)) :
    handleAll (before ++ later) = andThen (handleAll before) (handleAll later) := runAll_append _ before later

theorem handleAt_handed (pch : Option Index) (input : Input) (s : Loop) :
    ((handleAt pch input s).1.channls, (handleAt pch input s).2) =
      handleAll (pch.toList.map fun index => (index, input)) s.channls := by
  cases pch with
  | none => rfl
  | some index => exact (handleAll_single index input s.channls).symm

/-- The channels do what they are handed. -/
theorem step_handed (s : Loop) (input : LoopInput) :
    ((step input s).1.channls, (step input s).2) = handleAll (s.handed input) s.channls := by
  cases input with
  | cli cli =>
    cases cli with
    | on typed command => exact (handleAll_single (cliIndex typed) (.command command) s.channls).symm
    | glare file =>
      have both : handleAll (s.handed (.cli (.glare file))) =
          andThen (handleAll [(firstIndex, .command (.doFax .tx (some file)))])
            (handleAll [(secondIndex, .command (.doFax .rx none))]) :=
        handleAll_append [(firstIndex, .command (.doFax .tx (some file)))]
          [(secondIndex, .command (.doFax .rx none))]
      rw [both]
      unfold andThen
      rw [handleAll_single, handleAll_single]
      rfl
    | other => rfl
  | event event =>
    cases event with
    | gc evtDev attr event =>
      unfold step handleEvent handed
      dsimp only
      split
      · rfl
      · exact handleAt_handed ..
    | r4 evtDev event => exact handleAt_handed ..

theorem runAll_handed (inputs : List LoopInput) (s : Loop) :
    ((runAll step inputs s).1.channls, (runAll step inputs s).2) = handleAll (handedAll inputs s) s.channls := by
  induction inputs generalizing s with
  | nil => rfl
  | cons input rest ih =>
    have now := step_handed s input
    have later := ih (step input s).1
    rw [handedAll, handleAll_append]
    unfold andThen
    rw [← now, ← later]
    rfl

def received (index : Index) (inputs : List LoopInput) (s : Loop) : List Input := inputsFor index (handedAll inputs s)

/-- A channel goes through what it gets, whatever happens on the others. -/
theorem runAll_channel (index : Index) (inputs : List LoopInput) (s : Loop) :
    (runAll step inputs s).1.channls index =
        (runAll Channel.handle (received index inputs s) (s.channls index)).1 ∧
      outputsOf index (runAll step inputs s).2 =
        (runAll Channel.handle (received index inputs s) (s.channls index)).2 := by
  have all := runAll_handed inputs s
  obtain ⟨state, outputs⟩ := @runAll_member _ _ _ _ _ Channel.handle (handedAll inputs s) s.channls index
  unfold handleAll at all
  rw [← all] at state outputs
  exact ⟨state, outputs⟩

end Loop

end Foolject.Hmp
