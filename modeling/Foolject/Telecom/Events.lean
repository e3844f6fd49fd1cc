import Foolject.Lib.Transition
import Foolject.Telecom.Line

/-! What happens to a line: Global Call events, voice events and the application's commands.

The results of the Global Call functions are inputs. What the event functions return is
not used by the thread that calls them.
-/

set_option autoImplicit false

namespace Foolject.Telecom
open Transducer

inductive GlobalCallEvent where
  | blocked
  | unblocked
  | detected
  | offered
  | accept
  | answered
  | dialing
  | proceeding
  | alerting
  | connected
  | callStatus
  | disconnected
  | dropCall
  | releaseCall
  | fatalError
  | taskFail
  | resetLineDev
  | unknown
  deriving DecidableEq, Repr

/-- The values that `getCallStatus` tells apart. -/
inductive GcValue where
  | busy
  | noAnswer
  | timeout
  | reject
  | other
  deriving DecidableEq, Repr

def GcValue.reason : GcValue → CallExitReason
  | .busy => .busy
  | .noAnswer => .noAnswer
  | .timeout => .noAnswer
  | .reject => .networkBusy
  | .other => .failed

structure GcResults where
  /-- `gc_GetCRN` succeeds, with the call reference of the event. -/
  getCRN : Bool
  waitCall : Bool
  origination : Option Address
  destination : Option Address
  resultInfo : Option GcValue
  deriving DecidableEq

structure MetaEvent where
  type : GlobalCallEvent
  crn : Int
  results : GcResults
  deriving DecidableEq

inductive D4Event where
  | play (termReason : List Char)
  | digit (digit : Char)
  | other
  deriving DecidableEq

/-- A command, with what Global Call answers: the call reference of a call that it places, or
whether it takes the request. -/
inductive Command where
  | makeCall (ani dnis : List Char) (placed : Option Int)
  | answerCall (taken : Bool)
  | acceptCall (taken : Bool)
  | rejectCall (taken : Bool)
  | hangupCall (taken : Bool)
  | releaseCall (taken : Bool)
  deriving DecidableEq

namespace TLine

/-! ## Global Call events -/

def getCallStatus (resultInfo : Option GcValue) : Handler :=
  match resultInfo with
  | none => skip
  | some value => modify fun line => { line with callExitReason := value.reason }

/-- The cases `GCEV_CALLSTATUS` and `GCEV_DISCONNECTED`. -/
def farEndDrops (resultInfo : Option GcValue) : Handler :=
  andThen
    (fun line => if line.callEstablished then
      modify (fun line => { line with callExitReason := .farEnd }) line
      else getCallStatus resultInfo line)
    (andThen (modify fun line => { line with callNearDroped := false }) hangupCall)

/-- The case `GCEV_OFFERED`. An address that is not given is `NULL`. -/
def offered (crn : Int) (results : GcResults) : Handler :=
  andThen (modify fun line => { line with crn := crn })
    (onIncoming (results.origination.getD .null).text (results.destination.getD .null).text)

def dropped : Handler :=
  andThen (onlyIf (·.callNearDroped = true) (modify fun line => { line with callExitReason := .nearEnd }))
    (fun line => onDisconnected line.callExitReason.name line)

def released : Handler :=
  andThen onReleased (modify fun line => { line with callEstablished := false, callNearDroped := true })

/-- `gc_WaitCall`, and the unblocking of the line behind it. -/
def waitsForCall (results : GcResults) : Handler :=
  andThen (emit fun _ => [.waitCall]) (if results.waitCall then onUnblock else skip)

def reset (results : GcResults) : Handler := andThen onClosed (andThen onOpened (waitsForCall results))

def switch (event : MetaEvent) : Handler :=
  match event.type with
  | .blocked => onBlock
  | .unblocked => waitsForCall event.results
  | .detected => onSeizureDetected
  | .offered => offered event.crn event.results
  | .accept => onAccepting
  | .answered =>
    andThen (modify fun line => { line with callEstablished := true })
      (andThen onAnswering (onConnected "GCEV_ANSWERED".toList))
  | .dialing => onPlacing
  | .proceeding => onProceeding
  | .alerting => onAlerting
  | .connected =>
    andThen (onConnected "GCEV_CONNECTED".toList)
      (modify fun line => { line with callEstablished := true })
  | .callStatus => farEndDrops event.results.resultInfo
  | .disconnected => farEndDrops event.results.resultInfo
  | .dropCall => dropped
  | .releaseCall => released
  | .fatalError => emit fun _ => [.resetLineDev]
  | .taskFail => emit fun _ => [.resetLineDev]
  | .resetLineDev => reset event.results
  | .unknown => skip

/-- An event whose call reference cannot be found is dropped. -/
def processGlobeCallEvent (event : MetaEvent) : Handler :=
  if event.results.getCRN then switch event else skip

/-! ## Voice events -/

def processD4Event : D4Event → Handler
  | .play termReason => onPlayFileDone termReason
  | .digit digit => onDigitReceived digit
  | .other => skip

/-! ## Commands -/

def makeCall (ani dnis : List Char) (placed : Option Int) : Handler :=
  andThen (emit fun _ => [.makeCall ani dnis])
    (match placed with
    | none => skip
    | some crn =>
      andThen (modify fun line => { line with crn := crn, ani := ani.take 63, dnis := dnis.take 63 })
        onOutboundInitiated)

def answerCall : Handler := emit fun line => [.answerCall line.crn]

def acceptCall : Handler := emit fun line => [.acceptCall line.crn]

def rejectCall : Handler := andThen onRejecting (emit fun line => [.dropCall line.crn .callRejected])

def run : Command → Handler
  | .makeCall ani dnis placed => makeCall ani dnis placed
  | .answerCall _ => answerCall
  | .acceptCall _ => acceptCall
  | .rejectCall _ => rejectCall
  | .hangupCall _ => hangupCall
  | .releaseCall _ => releaseCall

/-- What a command returns. The comparison in `acceptCall` is the other way. -/
def returns : Command → Bool
  | .makeCall _ _ placed => placed.isSome
  | .acceptCall taken => !taken
  | .answerCall taken | .rejectCall taken | .hangupCall taken | .releaseCall taken => taken

/-! ## Runs of a line -/

/-- `opens` tells whether Global Call opens the device and gives its voice handle. -/
def openLine (opens : Bool) : Handler := if opens then onOpened else skip

end TLine

inductive LineInput where
  | event (event : MetaEvent)
  | voice (event : D4Event)
  | command (command : Command)
  deriving DecidableEq

namespace TLine

def input : LineInput → Handler
  | .event event => processGlobeCallEvent event
  | .voice event => processD4Event event
  | .command command => run command

def Opened (line : TLine) : Prop :=
  ∃ index ani dnis crn, line = (openLine true (fresh index ani dnis crn)).1

def system : System TLine LineInput := .ofStep Opened fun line label => some (input label line).1

variable {event : MetaEvent} {line : TLine}

theorem input_found (found : event.results.getCRN = true) : input (.event event) line = switch event line := by
  change processGlobeCallEvent event line = _
  unfold processGlobeCallEvent
  rw [if_pos found]

theorem input_lost (lost : event.results.getCRN ≠ true) : input (.event event) line = (line, []) := by
  change processGlobeCallEvent event line = _
  unfold processGlobeCallEvent
  rw [if_neg lost]
  rfl

theorem input_typed {type : GlobalCallEvent} (typed : event.type = type) (found : event.results.getCRN = true) :
    input (.event event) line = switch { event with type := type } line := by
  subst typed
  exact input_found found

theorem opened_eq (opened : line.Opened) :
    ∃ index ani dnis crn, line = { fresh index ani dnis crn with state := .uninitialized } := by
  obtain ⟨index, ani, dnis, crn, rfl⟩ := opened
  exact ⟨index, ani, dnis, crn, rfl⟩

end TLine

end Foolject.Telecom
