import Foolject.Lib.Acceptor
import Foolject.Hmp.Loop

/-! Connecting the fax path of a channel and restoring the voice path.

Whether the two alternate depends on the events and commands alone: an acceptor of them
follows the channel. It is stuck where an event finds the voice path restored already, as the
disconnection during a fax does, or the fax path still connected.
-/

set_option autoImplicit false

namespace Foolject.Hmp
open Transducer

def routed : Bool → Action → Bool
  | _, .connectFax => true
  | _, .restoreVoice => false
  | connected, _ => connected

def InTurn : Bool → Action → Prop
  | connected, .connectFax => connected = false
  | connected, .restoreVoice => connected = true
  | _, _ => True

def Alternates (actions : List Action) : Prop := Along routed InTurn false actions

/-! ## Orderly inputs -/

/-- How far a call has come with its fax. -/
inductive Phase where
  | voice
  /-- The peer has asked for T.38. -/
  | asked
  | fax
  /-- The call was dropped, or a task failed, with the fax path connected. -/
  | dropped (faxCommand : Bool)
  /-- The call was released with the fax path connected. -/
  | released
  deriving DecidableEq, Repr

namespace Phase

def faxCommand : Phase → Option Phase
  | .released => none
  | .dropped _ => some (.dropped true)
  | _ => some .fax

def t38Requested : Phase → Option Phase
  | .released => none
  | .voice => some .asked
  | phase => some phase

def faxDone : Phase → Option Phase
  | .voice => none
  | .dropped _ => none
  | _ => some .voice

def dropCall : Phase → Option Phase
  | .asked => some (.dropped false)
  | .fax => some (.dropped true)
  | .dropped _ => none
  | phase => some phase

def taskFail : Phase → Option Phase
  | .fax => some (.dropped true)
  | .dropped true => none
  | phase => some phase

/-- The path is restored by both branches of the handler. -/
def disconnected (phase : Phase) : Option Phase := (taskFail phase).bind dropCall

def releaseCall : Phase → Option Phase
  | .asked => some .released
  | .fax => some .released
  | .dropped _ => some .voice
  | phase => some phase

def parm : Parm → Phase → Option Phase
  | .t38Requested => t38Requested
  | _ => some

def command : Command → Phase → Option Phase
  | .dropCall => dropCall
  | .doFax _ _ => faxCommand
  | _ => some

def gcEvent : GcEvent → Phase → Option Phase
  | .disconnected => disconnected
  | .extensionCmplt parms => moveAll parm parms
  | .extension parms => moveAll parm parms
  | .reqModifyCall parms => moveAll parm parms
  | .releaseCall => releaseCall
  | .taskFail => taskFail
  | _ => some

def r4Event : R4Event → Phase → Option Phase
  | .faxSend => faxDone
  | .faxRecv => faxDone
  | .faxError => faxDone
  | _ => some

def input : Input → Phase → Option Phase
  | .command input => command input
  | .gc event => gcEvent event
  | .r4 event => r4Event event

end Phase

/-- None of the inputs finds the paths in the wrong state. -/
def Orderly (inputs : List Input) : Prop := (moveAll Phase.input inputs .voice).isSome = true

/-! ## The acceptor follows the channel -/

def Phase.Describes (ch : Channel) (connected : Bool) : Phase → Prop
  | .voice => ch.alreadyConnectFax = false ∧ ch.faxProceeding = false ∧ connected = false
  | .asked => ch.alreadyConnectFax = true ∧ ch.faxProceeding = false ∧ connected = true
  | .fax => ch.alreadyConnectFax = true ∧ ch.faxProceeding = true ∧ connected = true
  | .dropped command => ch.alreadyConnectFax = true ∧ ch.faxProceeding = command ∧ connected = false
  | .released => ch.alreadyConnectFax = false ∧ ch.faxProceeding = false ∧ connected = true

abbrev Routes (handler : Handler) (move : Phase → Option Phase) : Prop :=
  Follows routed InTurn Phase.Describes handler move

def Aside : Action → Prop
  | .connectFax => False
  | .restoreVoice => False
  | _ => True

theorem routed_aside {action : Action} (aside : Aside action) (connected : Bool) :
    routed connected action = connected ∧ InTurn connected action := by
  cases action with
  | connectFax => exact aside.elim
  | restoreVoice => exact aside.elim
  | _ => exact ⟨rfl, trivial⟩

theorem routes_emit {action : Channel → Action} (aside : ∀ ch, Aside (action ch)) :
    Routes (emit fun ch => [action ch]) some := by
  apply Follows.aside fun ch connected phase related => related
  intro ch output inside connected
  rw [List.mem_singleton.mp inside]
  exact routed_aside (aside ch) connected

theorem routes_act {action : Action} (aside : Aside action) : Routes (Channel.act action) some :=
  routes_emit fun _ => aside

theorem routes_doFax (dir : FaxDir) (file : Option (List Char)) :
    Routes (Channel.doFax dir file) Phase.faxCommand where
  moves := by
    intro ch connected phase next related moved
    cases phase with
    | voice =>
      obtain ⟨first, -, path⟩ := related
      cases moved
      rw [Channel.doFax_first dir file first]
      exact ⟨⟨path, trivial, trivial⟩, rfl, rfl, rfl⟩
    | asked | fax | dropped =>
      -- The flag is set, so the path is taken for connected, which after a drop it is not.
      obtain ⟨already, -, path⟩ := related
      cases moved
      rw [Channel.doFax_again dir file already]
      exact ⟨⟨trivial, trivial⟩, already, rfl, path⟩
    | released => cases moved
  stuck := by
    intro ch connected phase related stuck inTurn
    cases phase <;> cases stuck
    -- Only a released channel is left: its flag is cleared and its path still connected.
    obtain ⟨first, -, path⟩ := related
    rw [Channel.doFax_first dir file first] at inTurn
    exact Bool.false_ne_true (inTurn.1.symm.trans path)

theorem routes_dropCall : Routes Channel.dropCall Phase.dropCall where
  moves := by
    intro ch connected phase next related moved
    cases phase with
    | voice | released =>
      cases moved
      rw [Channel.dropCall_plain related.1]
      exact ⟨⟨trivial, trivial⟩, related⟩
    | asked | fax =>
      obtain ⟨already, proceeding, path⟩ := related
      cases moved
      rw [Channel.dropCall_connected already]
      exact ⟨⟨path, trivial, trivial⟩, already, proceeding, rfl⟩
    | dropped => cases moved
  stuck := by
    intro ch connected phase related stuck inTurn
    cases phase <;> cases stuck
    -- A drop leaves both flags, so that a second one restores voice again.
    obtain ⟨already, -, path⟩ := related
    rw [Channel.dropCall_connected already] at inTurn
    exact Bool.false_ne_true (path.symm.trans inTurn.1)

theorem routes_restoreIfFax : Routes Channel.restoreIfFax Phase.taskFail where
  moves := by
    intro ch connected phase next related moved
    cases phase with
    | voice | asked | released =>
      cases moved
      rw [Channel.restoreIfFax_plain related.2.1]
      exact ⟨trivial, related⟩
    | fax =>
      obtain ⟨already, proceeding, path⟩ := related
      cases moved
      rw [Channel.restoreIfFax_proceeding proceeding]
      exact ⟨⟨path, trivial⟩, already, proceeding, rfl⟩
    | dropped command =>
      cases command with
      | false =>
        cases moved
        rw [Channel.restoreIfFax_plain related.2.1]
        exact ⟨trivial, related⟩
      | true => cases moved
  stuck := by
    intro ch connected phase related stuck inTurn
    cases phase with
    | dropped command =>
      cases command <;> cases stuck
      obtain ⟨-, proceeding, path⟩ := related
      rw [Channel.restoreIfFax_proceeding proceeding] at inTurn
      exact Bool.false_ne_true (path.symm.trans inTurn.1)
    | _ => cases stuck

theorem routes_faxDone {line : Action} (aside : Aside line) :
    Routes (andThen (Channel.act line) Channel.processFaxDone) Phase.faxDone := by
  apply (routes_act aside).behind
  constructor
  · intro ch connected phase next related moved
    cases phase with
    | voice => cases moved
    | dropped => cases moved
    | asked | fax | released =>
      obtain ⟨-, -, path⟩ := related
      cases moved
      exact ⟨⟨trivial, path, trivial⟩, rfl, rfl, rfl⟩
  · intro ch connected phase related stuck inTurn
    cases phase with
    -- The handler does not look at the flags before it restores voice.
    | voice | dropped =>
      obtain ⟨-, -, path⟩ := related
      exact Bool.false_ne_true (path.symm.trans inTurn.2.1)
    | _ => cases stuck

theorem routes_connectIfFirst : Routes Channel.connectIfFirst Phase.t38Requested where
  moves := by
    intro ch connected phase next related moved
    cases phase with
    | voice =>
      obtain ⟨first, proceeding, path⟩ := related
      cases moved
      rw [Channel.connectIfFirst_first first]
      exact ⟨⟨path, trivial⟩, rfl, proceeding, rfl⟩
    | released => cases moved
    | asked | fax | dropped =>
      cases moved
      rw [Channel.connectIfFirst_again related.1]
      exact ⟨trivial, related⟩
  stuck := by
    intro ch connected phase related stuck inTurn
    cases phase <;> cases stuck
    obtain ⟨first, -, path⟩ := related
    rw [Channel.connectIfFirst_first first] at inTurn
    exact Bool.false_ne_true (inTurn.1.symm.trans path)

theorem routes_releaseCall : Routes (Channel.gcEvent .releaseCall) Phase.releaseCall where
  moves := by
  -- The flags are cleared whether or not voice has been restored.
    intro ch connected phase next related moved
    cases phase <;> obtain ⟨-, -, path⟩ := related <;> cases moved <;> exact ⟨trivial, rfl, rfl, path⟩
  stuck := by
    intro ch connected phase related stuck
    cases phase <;> cases stuck

theorem routes_receiveFaxInner (localTime : List Char) : Routes (Channel.receiveFaxInner localTime) some := by
  apply Follows.aside
  · intro ch connected phase related
    cases phase <;> exact related
  · intro ch output inside connected
    rw [List.mem_singleton.mp inside]
    exact ⟨rfl, trivial⟩

theorem routes_ready (localTime : List Char) : Routes (Channel.processParm (.ready localTime)) some := by
  have sends : Routes Channel.sendFaxInner some := routes_emit fun _ => trivial
  have receives : Routes (Channel.receiveFaxInner localTime) some := routes_receiveFaxInner localTime
  exact (routes_act (by trivial)).before (sends.onlyIf.before receives.onlyIf).onlyIf

theorem routes_parm (parm : Parm) : Routes (Channel.processParm parm) (Phase.parm parm) := by
  cases parm with
  | t38Requested => exact (routes_act (by trivial)).behind routes_connectIfFirst
  | audioRequested =>
    exact (routes_act (by trivial)).before (routes_act (by trivial))
  | ready localTime => exact routes_ready localTime
  | other => exact routes_act (by trivial)

theorem routes_extension (parms : List Parm) :
    Routes (Channel.processExtension parms) (moveAll Phase.parm parms) := Follows.runAll routes_parm parms

theorem routes_command (command : Command) : Routes (Channel.command command) (Phase.command command) := by
  cases command with
  | dropCall => exact routes_dropCall
  | doFax dir file => exact routes_doFax dir file
  | makeCall => exact (routes_act (by trivial)).before (routes_act (by trivial))
  | _ => exact routes_act (by trivial)

theorem routes_gcEvent (event : GcEvent) : Routes (Channel.gcEvent event) (Phase.gcEvent event) := by
  cases event with
  | openEx =>
    apply (routes_act (by trivial)).before
    exact (routes_act (by trivial)).before (routes_act (by trivial))
  | offered | accept =>
    exact (routes_act (by trivial)).before (routes_act (by trivial))
  | answered | connected => exact Follows.skip
  | disconnected =>
    exact (routes_act (by trivial)).behind (routes_restoreIfFax.andThen routes_dropCall)
  | extensionCmplt parms | extension parms => exact routes_extension parms
  | reqModifyCall parms => exact (routes_extension parms).before (routes_act (by trivial))
  | releaseCall => exact routes_releaseCall
  | taskFail => exact (routes_act (by trivial)).behind routes_restoreIfFax
  | _ => exact routes_act (by trivial)

theorem routes_r4Event (event : R4Event) : Routes (Channel.r4Event event) (Phase.r4Event event) := by
  cases event with
  | play | record =>
    exact (routes_act (by trivial)).before (routes_act (by trivial))
  | cst digit =>
    cases digit with
    | none => exact Follows.skip
    | some digit => exact routes_act (by trivial)
  | phaseB | phaseD => exact routes_act (by trivial)
  | faxSend | faxRecv | faxError => exact routes_faxDone (by trivial)
  | other => exact Follows.skip

theorem routes_handle (input : Input) : Routes (Channel.handle input) (Phase.input input) := by
  cases input with
  | command command => exact routes_command command
  | gc event => exact (routes_act (by trivial)).behind (routes_gcEvent event)
  | r4 event => exact (routes_act (by trivial)).behind (routes_r4Event event)

/-! ## Whole runs of the loop -/

theorem opened_alternates_iff (id : Nat) (memory : Channel) (inputs : List Input) :
    Alternates (runAll Channel.handle inputs (.opened id memory)).2 ↔ Orderly inputs := by
  have start : Phase.Describes (.opened id memory) false .voice := ⟨rfl, rfl, rfl⟩
  exact (Follows.runAll routes_handle inputs).along_iff start

end Foolject.Hmp
