import Foolject.Lib.Acceptor
import Foolject.Hmp.Loop

/-! The answers to the peer's codec requests.

`already_connect_fax` is set when the peer asks for T.38 and when the channel asks itself, so a
fax command may answer a request that nobody has made.
-/

set_option autoImplicit false

namespace Foolject.Hmp
open Transducer

def unanswered : Nat → Action → Nat
  | requests, .got .t38Requested => requests + 1
  | requests, .got .audioRequested => requests + 1
  | requests, .responseCodecRequest true => requests - 1
  | requests, _ => requests

def Answers : Nat → Action → Prop
  | requests, .responseCodecRequest true => 0 < requests
  | _, _ => True

def AnswersRequests (actions : List Action) : Prop := Along unanswered Answers 0 actions

/-! ## Inputs that ask before they are answered -/

/-- Whether a fax command or a request has connected the fax path, and the open requests for T.38. -/
structure Exchange where
  connected : Bool
  requests : Nat
  deriving DecidableEq, Repr

namespace Exchange

/-- On a connected path the command answers a request. -/
def faxCommand : Exchange → Option Exchange
  | ⟨false, requests⟩ => some ⟨true, requests⟩
  | ⟨true, 0⟩ => none
  | ⟨true, requests + 1⟩ => some ⟨true, requests⟩

def t38Requested (exchange : Exchange) : Option Exchange := some ⟨true, exchange.requests + 1⟩

def disconnect (exchange : Exchange) : Option Exchange := some ⟨false, exchange.requests⟩

def parm : Parm → Exchange → Option Exchange
  | .t38Requested => t38Requested
  | _ => some

def command : Command → Exchange → Option Exchange
  | .doFax _ _ => faxCommand
  | _ => some

def gcEvent : GcEvent → Exchange → Option Exchange
  | .extensionCmplt parms => moveAll parm parms
  | .extension parms => moveAll parm parms
  | .reqModifyCall parms => moveAll parm parms
  | .releaseCall => disconnect
  | _ => some

def r4Event : R4Event → Exchange → Option Exchange
  | .faxSend => disconnect
  | .faxRecv => disconnect
  | .faxError => disconnect
  | _ => some

def input : Input → Exchange → Option Exchange
  | .command input => command input
  | .gc event => gcEvent event
  | .r4 event => r4Event event

end Exchange

/-- Each fax command on a connected path comes after a request for T.38 of its own. -/
def AskedFirst (inputs : List Input) : Prop := (moveAll Exchange.input inputs ⟨false, 0⟩).isSome = true

/-! ## The acceptor follows the channel -/

def Exchange.Describes (ch : Channel) (requests : Nat) (exchange : Exchange) : Prop :=
  ch.alreadyConnectFax = exchange.connected ∧ requests = exchange.requests

abbrev Exchanges (handler : Handler) (move : Exchange → Option Exchange) : Prop :=
  Follows unanswered Answers Exchange.Describes handler move

def Unasked : Action → Prop
  | .got .t38Requested => False
  | .got .audioRequested => False
  | .responseCodecRequest true => False
  | _ => True

theorem unanswered_unasked {action : Action} (unasked : Unasked action) (requests : Nat) :
    unanswered requests action = requests ∧ Answers requests action := by
  cases action with
  | got parm =>
    cases parm with
    | t38Requested | audioRequested => exact unasked.elim
    | _ => exact ⟨rfl, trivial⟩
  | responseCodecRequest accept =>
    cases accept with
    | true => exact unasked.elim
    | false => exact ⟨rfl, trivial⟩
  | _ => exact ⟨rfl, trivial⟩

theorem exchanges_unasked {handler : Handler}
    (keeps : ∀ ch, (handler ch).1.alreadyConnectFax = ch.alreadyConnectFax)
    (unasked : ∀ ch, ∀ action ∈ (handler ch).2, Unasked action) : Exchanges handler some := by
  apply Follows.aside
  · intro ch requests exchange related
    exact ⟨(keeps ch).trans related.1, related.2⟩
  · intro ch action inside requests
    exact unanswered_unasked (unasked ch action inside) requests

theorem exchanges_emit {action : Channel → Action} (unasked : ∀ ch, Unasked (action ch)) :
    Exchanges (emit fun ch => [action ch]) some := by
  apply exchanges_unasked fun _ => rfl
  intro ch output inside
  rw [List.mem_singleton.mp inside]
  exact unasked ch

theorem exchanges_act {action : Action} (unasked : Unasked action) : Exchanges (Channel.act action) some :=
  exchanges_emit fun _ => unasked

theorem exchanges_doFax (dir : FaxDir) (file : Option (List Char)) :
    Exchanges (Channel.doFax dir file) Exchange.faxCommand where
  moves := by
    rintro ch requests ⟨connected, pending⟩ next ⟨flag, same⟩ moved
    dsimp only at flag same
    subst same
    cases connected with
    | false =>
      -- The command asks the peer and answers nothing.
      cases moved
      rw [Channel.doFax_first dir file flag]
      exact ⟨⟨trivial, trivial, trivial⟩, rfl, rfl⟩
    | true =>
      -- It takes the flag for a request of the peer, whoever has set it.
      rw [Channel.doFax_again dir file flag]
      cases requests with
      | zero => cases moved
      | succ requests =>
        cases moved
        exact ⟨⟨Nat.succ_pos requests, trivial⟩, flag, rfl⟩
  stuck := by
    rintro ch requests ⟨connected, pending⟩ ⟨flag, same⟩ stuck answers
    dsimp only at flag same
    subst same
    cases connected with
    | false => cases stuck
    | true =>
      cases requests with
      | zero =>
        rw [Channel.doFax_again dir file flag] at answers
        exact Nat.lt_irrefl 0 answers.1
      | succ requests => cases stuck

theorem exchanges_t38Requested :
    Exchanges (andThen (Channel.act (.got .t38Requested)) Channel.connectIfFirst) Exchange.t38Requested where
  moves := by
    intro ch requests exchange next related moved
    have counted : requests + 1 = exchange.requests + 1 := congrArg (· + 1) related.2
    cases moved
    cases flag : ch.alreadyConnectFax with
    | false =>
      rw [Channel.act_andThen, Channel.connectIfFirst_first flag]
      exact ⟨⟨trivial, trivial, trivial⟩, rfl, counted⟩
    | true =>
      rw [Channel.act_andThen, Channel.connectIfFirst_again flag]
      exact ⟨⟨trivial, trivial⟩, flag, counted⟩
  stuck := by
    intro ch requests exchange related never
    cases never

theorem exchanges_audioRequested : Exchanges (Channel.processParm .audioRequested) some where
  moves := by
    intro ch requests exchange next related moved
    cases moved
    exact ⟨⟨trivial, Nat.succ_pos requests, trivial⟩, related⟩
  stuck := by
    intro ch requests exchange related never
    cases never

/-- The ends of a fax and of a call clear the flag. -/
theorem exchanges_disconnect {handler : Handler} (clears : ∀ ch, (handler ch).1.alreadyConnectFax = false)
    (unasked : ∀ ch, ∀ action ∈ (handler ch).2, Unasked action) : Exchanges handler Exchange.disconnect := by
  apply Follows.silent
  · intro ch requests exchange related
    exact ⟨clears ch, related.2⟩
  · intro ch action inside requests
    exact unanswered_unasked (unasked ch action inside) requests

theorem exchanges_faxDone {line : Action} (unasked : Unasked line) :
    Exchanges (andThen (Channel.act line) Channel.processFaxDone) Exchange.disconnect := by
  apply exchanges_disconnect fun _ => rfl
  intro ch action inside
  rw [Channel.processFaxDone_eq] at inside
  simp only [List.mem_cons, List.not_mem_nil, or_false] at inside
  rcases inside with rfl | rfl | rfl
  · exact unasked
  · trivial
  · trivial

theorem exchanges_receiveFaxInner (localTime : List Char) : Exchanges (Channel.receiveFaxInner localTime) some := by
  apply exchanges_unasked fun _ => rfl
  intro ch action inside
  rw [List.mem_singleton.mp inside]
  trivial

theorem exchanges_parm (parm : Parm) : Exchanges (Channel.processParm parm) (Exchange.parm parm) := by
  cases parm with
  | t38Requested => exact exchanges_t38Requested
  | audioRequested => exact exchanges_audioRequested
  | ready localTime =>
    have sends : Exchanges Channel.sendFaxInner some := exchanges_emit fun _ => trivial
    have receives : Exchanges (Channel.receiveFaxInner localTime) some := exchanges_receiveFaxInner localTime
    exact (exchanges_act (by trivial)).before (sends.onlyIf.before receives.onlyIf).onlyIf
  | other => exact exchanges_act (by trivial)

theorem exchanges_extension (parms : List Parm) :
    Exchanges (Channel.processExtension parms) (moveAll Exchange.parm parms) := Follows.runAll exchanges_parm parms

theorem exchanges_dropCall : Exchanges Channel.dropCall some :=
  (exchanges_act (by trivial)).onlyIf.before (exchanges_act (by trivial))

theorem exchanges_restoreIfFax : Exchanges Channel.restoreIfFax some := (exchanges_act (by trivial)).onlyIf

theorem exchanges_command (command : Command) : Exchanges (Channel.command command) (Exchange.command command) := by
  cases command with
  | dropCall => exact exchanges_dropCall
  | doFax dir file => exact exchanges_doFax dir file
  | makeCall => exact (exchanges_act (by trivial)).before (exchanges_act (by trivial))
  | _ => exact exchanges_act (by trivial)

theorem exchanges_gcEvent (event : GcEvent) : Exchanges (Channel.gcEvent event) (Exchange.gcEvent event) := by
  cases event with
  | openEx =>
    exact (exchanges_act (by trivial)).before ((exchanges_act (by trivial)).before (exchanges_act (by trivial)))
  | offered | accept => exact (exchanges_act (by trivial)).before (exchanges_act (by trivial))
  | answered | connected => exact Follows.skip
  | disconnected =>
    exact (exchanges_act (by trivial)).before (exchanges_restoreIfFax.before exchanges_dropCall)
  | extensionCmplt parms | extension parms => exact exchanges_extension parms
  | reqModifyCall parms => exact (exchanges_extension parms).before (exchanges_act (by trivial))
  | releaseCall =>
    apply exchanges_disconnect fun _ => rfl
    intro ch action inside
    cases inside
  | taskFail => exact (exchanges_act (by trivial)).before exchanges_restoreIfFax
  | _ => exact exchanges_act (by trivial)

theorem exchanges_r4Event (event : R4Event) : Exchanges (Channel.r4Event event) (Exchange.r4Event event) := by
  cases event with
  | play | record => exact (exchanges_act (by trivial)).before (exchanges_act (by trivial))
  | cst digit =>
    cases digit with
    | none => exact Follows.skip
    | some digit => exact exchanges_act (by trivial)
  | phaseB | phaseD => exact exchanges_act (by trivial)
  | faxSend | faxRecv | faxError => exact exchanges_faxDone (by trivial)
  | other => exact Follows.skip

theorem exchanges_handle (input : Input) : Exchanges (Channel.handle input) (Exchange.input input) := by
  cases input with
  | command command => exact exchanges_command command
  | gc event => exact (exchanges_act (by trivial)).behind (exchanges_gcEvent event)
  | r4 event => exact (exchanges_act (by trivial)).behind (exchanges_r4Event event)

/-! ## Whole runs of the loop -/

/-- In a run of the loop a channel answers only what it was asked exactly if it was always asked first. -/
theorem responses_answer_iff (boardDev : Int) (memory : Index → Channel) (index : Index) (inputs : List LoopInput) :
    AnswersRequests (outputsOf index (runAll Loop.step inputs (.preTest boardDev memory)).2) ↔
      AskedFirst ((Loop.preTest boardDev memory).received index inputs) := by
  have start : Exchange.Describes (.opened index (memory index)) 0 ⟨false, 0⟩ := ⟨rfl, rfl⟩
  rw [(Loop.runAll_channel index inputs _).2]
  exact (Follows.runAll exchanges_handle _).along_iff start

theorem secondFax_answers_nobody : ∃ (memory : Index → Channel) (inputs : List LoopInput),
    inputs = [.cli (.on 0 (.doFax .tx none)), .cli (.on 0 (.doFax .tx none))] ∧
      outputsOf 0 (runAll Loop.step inputs (.preTest 1 memory)).2 =
        [.connectFax, .sendT38Request, .responseCodecRequest true] ∧
      ¬ AnswersRequests (outputsOf 0 (runAll Loop.step inputs (.preTest 1 memory)).2) := by
  -- The second fax command answers the first: the peer has asked for nothing.
  have actions : outputsOf 0 (runAll Loop.step
      [.cli (.on 0 (.doFax .tx none)), .cli (.on 0 (.doFax .tx none))]
      (.preTest 1 fun _ => ⟨0, 2, 3, .tx, [], false, false⟩)).2 =
      [.connectFax, .sendT38Request, .responseCodecRequest true] := by
    decide
  refine ⟨_, _, rfl, actions, ?_⟩
  intro answers
  rw [actions] at answers
  obtain ⟨-, -, unasked, -⟩ := answers
  exact Nat.lt_irrefl 0 unasked

end Foolject.Hmp
