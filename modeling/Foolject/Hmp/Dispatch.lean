import Foolject.Hmp.Loop

/-! Which channel handles a voice or fax event.

The search for the device starts from the channel of the event before, so an event of a device
that no channel has is handled by that channel.
-/

set_option autoImplicit false

namespace Foolject.Hmp
open Transducer

/-! ## No handler changes the devices -/

def sameDevices (before : Channel) (_ : List Action) (after : Channel) : Prop :=
  (after.voxDev, after.faxDev) = (before.voxDev, before.faxDev)

theorem composes_sameDevices : Composes sameDevices := Composes.same fun ch : Channel => (ch.voxDev, ch.faxDev)

namespace Channel

abbrev KeepsDevices (handler : Handler) : Prop := Respects sameDevices handler

theorem act_keepsDevices (action : Action) : KeepsDevices (act action) := fun _ => rfl

theorem keepsDevices_andThen {first second : Handler} (one : KeepsDevices first) (two : KeepsDevices second) :
    KeepsDevices (andThen first second) := one.andThen composes_sameDevices two

theorem keepsDevices_onlyIf {test : Channel → Prop} [DecidablePred test] {piece : Handler}
    (inner : KeepsDevices piece) : KeepsDevices (onlyIf test piece) := inner.onlyIf composes_sameDevices

theorem keepsDevices_behind (action : Action) {rest : Handler} (after : KeepsDevices rest) :
    KeepsDevices (andThen (act action) rest) := keepsDevices_andThen (act_keepsDevices action) after

theorem dropCall_keepsDevices : KeepsDevices dropCall :=
  keepsDevices_andThen (keepsDevices_onlyIf (act_keepsDevices .restoreVoice)) (act_keepsDevices .dropCall)

theorem doFax_keepsDevices (dir : FaxDir) (file : Option (List Char)) : KeepsDevices (doFax dir file) := by
  intro ch
  cases flag : ch.alreadyConnectFax with
  | false =>
    rw [doFax_first dir file flag]
    rfl
  | true =>
    rw [doFax_again dir file flag]
    rfl

theorem processParm_keepsDevices (parm : Parm) : KeepsDevices (processParm parm) := by
  cases parm with
  | t38Requested =>
    apply keepsDevices_behind
    exact keepsDevices_onlyIf (keepsDevices_behind _ fun _ => rfl)
  | audioRequested => exact keepsDevices_behind _ (act_keepsDevices _)
  | ready localTime =>
    have sends : KeepsDevices sendFaxInner := fun _ => rfl
    have receives : KeepsDevices (receiveFaxInner localTime) := fun _ => rfl
    apply keepsDevices_behind
    exact keepsDevices_onlyIf (keepsDevices_andThen (keepsDevices_onlyIf sends) (keepsDevices_onlyIf receives))
  | other => exact act_keepsDevices _

theorem processExtension_keepsDevices (parms : List Parm) : KeepsDevices (processExtension parms) :=
  Respects.runAll composes_sameDevices processParm_keepsDevices parms

theorem gcEvent_keepsDevices (event : GcEvent) : KeepsDevices (gcEvent event) := by
  have restores : KeepsDevices restoreIfFax := keepsDevices_onlyIf (act_keepsDevices .restoreVoice)
  cases event with
  | openEx => exact keepsDevices_behind _ (keepsDevices_behind _ (act_keepsDevices _))
  | offered | accept => exact keepsDevices_behind _ (act_keepsDevices _)
  | answered | connected => exact fun _ => rfl
  | disconnected => exact keepsDevices_behind _ (keepsDevices_andThen restores dropCall_keepsDevices)
  | extensionCmplt parms | extension parms => exact processExtension_keepsDevices parms
  | reqModifyCall parms => exact keepsDevices_andThen (processExtension_keepsDevices parms) (act_keepsDevices _)
  | releaseCall => exact fun _ => rfl
  | taskFail => exact keepsDevices_behind _ restores
  | _ => exact act_keepsDevices _

theorem r4Event_keepsDevices (event : R4Event) : KeepsDevices (r4Event event) := by
  cases event with
  | cst digit => cases digit <;> exact fun _ => rfl
  | _ => exact fun _ => rfl

theorem command_keepsDevices (command : Command) : KeepsDevices (Channel.command command) := by
  cases command with
  | dropCall => exact dropCall_keepsDevices
  | doFax dir file => exact doFax_keepsDevices dir file
  | _ => exact fun _ => rfl

theorem handle_keepsDevices (input : Input) : KeepsDevices (handle input) := by
  cases input with
  | command command => exact command_keepsDevices command
  | gc event => exact keepsDevices_behind _ (gcEvent_keepsDevices event)
  | r4 event => exact keepsDevices_behind _ (r4Event_keepsDevices event)

end Channel

namespace Loop

theorem runAll_owns (inputs : List LoopInput) (s : Loop) (index : Index) (evtDev : Int) :
    (runAll step inputs s).1.Owns index evtDev ↔ s.Owns index evtDev := by
  have same := Respects.runAll composes_sameDevices Channel.handle_keepsDevices (s.received index inputs)
    (s.channls index)
  rw [← (runAll_channel index inputs s).1] at same
  obtain ⟨vox, fax⟩ := Prod.mk.inj same
  unfold Owns
  rw [vox, fax]

/-! ## The search -/

theorem foldl_search (s : Loop) (evtDev : Int) (pch : Option Index) (indices : List Index) :
    (indices.foldl (fun pch index => if s.Owns index evtDev then some index else pch) pch = pch ∧
        ∀ index ∈ indices, ¬ s.Owns index evtDev) ∨
      ∃ index, s.Owns index evtDev ∧
        indices.foldl (fun pch index => if s.Owns index evtDev then some index else pch) pch = some index := by
  induction indices generalizing pch with
  | nil => exact Or.inl ⟨rfl, fun index inside => by cases inside⟩
  | cons first rest ih =>
    rw [List.foldl_cons]
    by_cases owns : s.Owns first evtDev
    · rw [if_pos owns]
      rcases ih (some first) with ⟨same, -⟩ | found
      · exact Or.inr ⟨first, owns, same⟩
      · exact Or.inr found
    · rw [if_neg owns]
      rcases ih pch with ⟨same, others⟩ | found
      · refine Or.inl ⟨same, ?_⟩
        intro index inside
        rcases List.mem_cons.mp inside with rfl | later
        · exact owns
        · exact others index later
      · exact Or.inr found

theorem search_stranger {s : Loop} {evtDev : Int} (stranger : ∀ index, ¬ s.Owns index evtDev) :
    s.search evtDev = s.pch := by
  rcases foldl_search s evtDev s.pch (List.finRange maxChannels) with ⟨same, -⟩ | ⟨index, owns, -⟩
  · exact same
  · exact absurd owns (stranger index)

theorem search_owner {s : Loop} {evtDev : Int} {index : Index} (owns : s.Owns index evtDev) :
    ∃ found, s.Owns found evtDev ∧ s.search evtDev = some found := by
  rcases foldl_search s evtDev s.pch (List.finRange maxChannels) with ⟨-, none⟩ | found
  · exact absurd owns (none index (List.mem_finRange index))
  · exact found

/-! ## The handler that runs -/

/-- An event of a channel's device is handled by that channel, one of no channel's by none. -/
structure Directs (s : Loop) (evtDev : Int) (event : R4Event) : Prop where
  stranger : (∀ index, ¬ s.Owns index evtDev) →
    (step (.event (.r4 evtDev event)) s).2 = [] ∧ (step (.event (.r4 evtDev event)) s).1.channls = s.channls
  owner : ∀ index, s.Owns index evtDev →
    (step (.event (.r4 evtDev event)) s).2 = (member index (Channel.handle (.r4 event)) s.channls).2 ∧
      (step (.event (.r4 evtDev event)) s).1.channls = (member index (Channel.handle (.r4 event)) s.channls).1

/-- The device belongs to one channel from the start, or to none while the pointer is null. -/
structure Known (start now : Loop) (evtDev : Int) : Prop where
  stranger : (∀ index, ¬ start.Owns index evtDev) → now.pch = none
  owner : ∀ one two, start.Owns one evtDev → start.Owns two evtDev → one = two

theorem handleAt_some (index : Index) (input : Input) (s : Loop) :
    (handleAt (some index) input s).2 = (member index (Channel.handle input) s.channls).2 ∧
      (handleAt (some index) input s).1.channls = (member index (Channel.handle input) s.channls).1 := ⟨rfl, rfl⟩

theorem member_r4_ne {one two : Index} {event : R4Event} {channls : Index → Channel}
    (same : (member one (Channel.handle (.r4 event)) channls).2 = (member two (Channel.handle (.r4 event)) channls).2) :
    one = two := by
  have heads : some (one, Action.printEvent) = some (two, Action.printEvent) := congrArg List.head? same
  exact congrArg Prod.fst (Option.some.inj heads)

theorem directs_iff (s : Loop) (evtDev : Int) (event : R4Event) : s.Directs evtDev event ↔ Known s s evtDev := by
  constructor
  · intro directs
    constructor
    · intro stranger
      obtain ⟨silent, -⟩ := directs.stranger stranger
      cases pointer : s.pch with
      | none => rfl
      | some index =>
        -- The channel of an earlier event prints a line.
        have runs : step (.event (.r4 evtDev event)) s = handleAt (some index) (.r4 event) s :=
          congrArg (handleAt · (.r4 event) s) ((search_stranger stranger).trans pointer)
        rw [runs, (handleAt_some index (.r4 event) s).1] at silent
        cases silent
    · intro one two ownsOne ownsTwo
      exact member_r4_ne ((directs.owner one ownsOne).1.symm.trans (directs.owner two ownsTwo).1)
  · intro known
    constructor
    · intro stranger
      have runs : step (.event (.r4 evtDev event)) s = handleAt none (.r4 event) s :=
        congrArg (handleAt · (.r4 event) s) ((search_stranger stranger).trans (known.stranger stranger))
      rw [runs]
      exact ⟨rfl, rfl⟩
    · intro index owns
      obtain ⟨found, ownsFound, searched⟩ := search_owner owns
      have runs : step (.event (.r4 evtDev event)) s = handleAt (some found) (.r4 event) s :=
        congrArg (handleAt · (.r4 event) s) searched
      rw [runs, known.owner index found owns ownsFound]
      exact handleAt_some found (.r4 event) s

theorem known_runAll (inputs : List LoopInput) (s : Loop) (evtDev : Int) :
    Known (runAll step inputs s).1 (runAll step inputs s).1 evtDev ↔ Known s (runAll step inputs s).1 evtDev := by
  have owns : ∀ index, (runAll step inputs s).1.Owns index evtDev ↔ s.Owns index evtDev :=
    fun index => runAll_owns inputs s index evtDev
  constructor
  · intro ⟨stranger, owner⟩
    exact ⟨fun none => stranger fun index => mt (owns index).mp (none index),
      fun one two first second => owner one two ((owns one).mpr first) ((owns two).mpr second)⟩
  · intro ⟨stranger, owner⟩
    exact ⟨fun none => stranger fun index => mt (owns index).mpr (none index),
      fun one two first second => owner one two ((owns one).mp first) ((owns two).mp second)⟩

/-- In a run every voice or fax event reaches its owner only, exactly if the device of each is known. -/
theorem run_directs_iff (boardDev : Int) (memory : Index → Channel) (inputs : List LoopInput) :
    (∀ before evtDev event after, inputs = before ++ .event (.r4 evtDev event) :: after →
        (runAll step before (.preTest boardDev memory)).1.Directs evtDev event) ↔
      ∀ before evtDev event after, inputs = before ++ .event (.r4 evtDev event) :: after →
        Known (.preTest boardDev memory) (runAll step before (.preTest boardDev memory)).1 evtDev := by
  constructor
  · intro directs before evtDev event after split
    exact (known_runAll before _ evtDev).mp ((directs_iff _ evtDev event).mp (directs before evtDev event after split))
  · intro known before evtDev event after split
    exact (directs_iff _ evtDev event).mpr ((known_runAll before _ evtDev).mpr (known before evtDev event after split))

theorem stranger_ends_fax : ∃ (memory : Index → Channel) (before : List LoopInput),
    before = [.cli (.on 0 (.doFax .tx none)), .event (.gc 7 (.gives (some 0)) (.extension [.ready []]))] ∧
      (∀ index, ¬ (Loop.preTest 1 memory).Owns index 99) ∧
      (step (.event (.r4 99 .faxError)) (runAll step before (.preTest 1 memory)).1).2 =
        [(0, .printEvent), (0, .printFaxError), (0, .closeFaxFile), (0, .restoreVoice)] ∧
      ¬ (runAll step before (.preTest 1 memory)).1.Directs 99 .faxError := by
  -- A fax error of a device that is no channel's ends a fax of the channel of the event before.
  have actions : (step (.event (.r4 99 .faxError)) (runAll step
      [.cli (.on 0 (.doFax .tx none)), .event (.gc 7 (.gives (some 0)) (.extension [.ready []]))]
      (.preTest 1 fun index => ⟨0, index.val, 10 + index.val, .tx, [], false, false⟩)).1).2 =
      [(0, .printEvent), (0, .printFaxError), (0, .closeFaxFile), (0, .restoreVoice)] := by
    decide
  have stranger : ∀ index, ¬ (Loop.preTest 1 fun index => ⟨0, index.val, 10 + index.val, .tx, [], false, false⟩).Owns
      index 99 := by decide
  refine ⟨_, _, rfl, stranger, actions, ?_⟩
  intro directs
  have silent := (directs.stranger fun index => mt (runAll_owns _ _ index 99).mp (stranger index)).1
  rw [actions] at silent
  cases silent

end Loop

end Foolject.Hmp
