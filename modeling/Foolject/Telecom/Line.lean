import Foolject.Lib.Transducer

/-! A telephone line, as `Line.cpp` keeps it, and the handlers that its events run.

The outputs are the calls that leave the object: the counters of the line states, the
application's event handler and the Global Call functions. Log lines and the mutex are left out.
Strings are lists of the characters before the terminator.
-/

set_option autoImplicit false

namespace Foolject.Telecom

inductive TLineState where
  | closed
  | uninitialized
  | idle
  | blocking
  | outOfService
  | active
  deriving DecidableEq, Repr

def TLineState.code : TLineState → Nat
  | .closed => 0
  | .uninitialized => 1
  | .idle => 2
  | .blocking => 3
  | .outOfService => 4
  | .active => 5

inductive TCallState where
  | invalid
  | seizure
  | receivingDigits
  | incoming
  | accepting
  | answering
  | rejecting
  | connected
  | disconnected
  | outboundInitiated
  | placing
  | proceeding
  | alerting
  deriving DecidableEq, Repr

def TCallState.code : TCallState → Nat
  | .invalid => 0
  | .seizure => 1
  | .receivingDigits => 2
  | .incoming => 3
  | .accepting => 4
  | .answering => 5
  | .rejecting => 6
  | .connected => 7
  | .disconnected => 8
  | .outboundInitiated => 9
  | .placing => 10
  | .proceeding => 11
  | .alerting => 12

inductive CallExitReason where
  | nearEnd
  | farEnd
  | busy
  | networkBusy
  | noAnswer
  | failed
  deriving DecidableEq, Repr

/-- `getCERName`. -/
def CallExitReason.name : CallExitReason → List Char
  | .nearEnd => "CER_NEAR_END".toList
  | .farEnd => "CER_FAR_END".toList
  | .busy => "CER_BUSY".toList
  | .networkBusy => "CER_NETWORK_BUSY".toList
  | .noAnswer => "CER_NO_ANSWER".toList
  | .failed => "CER_FAILED".toList

@[simp] def gcAddrSize : Nat := 128

/-- What fits into a buffer for an address. -/
structure Address where
  text : List Char
  short : text.length < gcAddrSize
  deriving DecidableEq

def Address.null : Address := ⟨"NULL".toList, by decide⟩

structure TLine where
  index : Nat
  state : TLineState
  callState : TCallState
  callDir : Nat
  ani : List Char
  dnis : List Char
  crn : Int
  callEstablished : Bool
  callNearDroped : Bool
  callExitReason : CallExitReason
  deriving DecidableEq

inductive DropCause where
  | callRejected
  | normalClearing
  deriving DecidableEq, Repr

inductive Effect where
  /-- `TotalLinesInState`: one line less in the first state, one more in the second. -/
  | countState (before after : TLineState)
  | eventHandler (index : Nat) (text : List Char)
  | waitCall
  | resetLineDev
  | makeCall (ani dnis : List Char)
  | answerCall (crn : Int)
  | acceptCall (crn : Int)
  | dropCall (crn : Int) (cause : DropCause)
  | releaseCallEx (crn : Int)
  deriving DecidableEq

abbrev Handler := Transducer TLine Effect

namespace TLine
open Transducer

/-- The constructor. It leaves the numbers of the call and the call reference as they are. -/
def fresh (index : Nat) (ani dnis : List Char) (crn : Int) : TLine :=
  ⟨index, .closed, .invalid, 0, ani, dnis, crn, false, true, .farEnd⟩

def setState (state : TLineState) : Handler := fun line =>
  ({ line with state := state }, [.countState line.state state])

def setCallState (state : TCallState) : Handler :=
  andThen (modify fun line => { line with callState := state })
    (match state with
    -- Whatever state the line is in.
    | .invalid => setState .idle
    | .seizure => setState .active
    | .outboundInitiated => setState .active
    | _ => skip)

def setCallDir (dir : Nat) : Handler := modify fun line => { line with callDir := dir }

/-! ## Reports to the application -/

/-- `_vsnprintf` fails on a text that is longer than the count it is given. -/
def vsnprintf (count : Nat) (text : List Char) : Option (List Char) :=
  if text.length ≤ count then some text else none

def fields (line : TLine) : List Char :=
  "|LineState=".toList ++ Nat.toDigits 10 line.state.code ++
    "|CallState=".toList ++ Nat.toDigits 10 line.callState.code ++
    "|CallDir=".toList ++ Nat.toDigits 10 line.callDir

/-- The fields go behind the last character before a NUL. -/
def reportEvent (msg : List Char) : Handler := emit fun line =>
  match vsnprintf 200 msg with
  | none => []
  | some buf =>
    [.eventHandler line.index ((buf.take 199).takeWhile (· ≠ Char.ofNat 0) ++ line.fields)]

@[simp] theorem setState_fst (state : TLineState) (line : TLine) :
    (setState state line).1 = { line with state := state } := rfl

@[simp] theorem setCallState_callState (state : TCallState) (line : TLine) :
    (setCallState state line).1.callState = state := by
  cases state with
  | _ => rfl

@[simp] theorem reportEvent_fst (msg : List Char) (line : TLine) : (reportEvent msg line).1 = line := rfl

/-! ## Requests to Global Call, and whether they were taken -/

def releaseCall : Handler := emit fun line => [.releaseCallEx line.crn]

def hangupCall : Handler := emit fun line => [.dropCall line.crn .normalClearing]

/-! ## Handlers of line events -/

def onClosed : Handler := andThen (setState .closed) (reportEvent "evt=LineClosed".toList)

def onOpened : Handler :=
  andThen (onlyIf (·.state = .closed) (setState .uninitialized)) (reportEvent "evt=LineOpened".toList)

def onInitialized : Handler :=
  andThen (onlyIf (·.state = .uninitialized) (setState .idle)) (reportEvent "evt=LineInitialized".toList)

def onUninitialized : Handler :=
  andThen (setState .uninitialized) (reportEvent "evt=LineUninitialized".toList)

def onBlock : Handler := andThen (setState .blocking) (reportEvent "evt=LineBlock".toList)

def onUnblock : Handler :=
  andThen (onlyIf (·.state = .blocking) (setState .idle)) (reportEvent "evt=LineUnblock".toList)

def onOutOfService (reason : List Char) : Handler :=
  andThen (setState .outOfService) (reportEvent ("evt=LineOutOfService|reason=".toList ++ reason))

def onInService : Handler :=
  andThen (onlyIf (·.state = .outOfService) (setState .idle)) (reportEvent "evt=LineInService".toList)

def onPlayFileDone (reason : List Char) : Handler :=
  reportEvent ("evt=PlayFileDone|reason=".toList ++ reason)

def onDTMF (dtmf : Char) : Handler := reportEvent ("evt=DTMF|DTMF=".toList ++ [dtmf])

/-! ## Handlers of call events -/

def onSeizureDetected : Handler :=
  onlyIf (·.state = .idle) (andThen (setCallState .seizure)
    (andThen (setCallDir 0) (reportEvent "evt=SeizureDetected".toList)))

def onDigitReceived (digit : Char) : Handler :=
  andThen (onlyIf (·.callState = .seizure) (setCallState .receivingDigits))
    (reportEvent ("evt=DigitReceived|digit=".toList ++ [digit]))

def onIncoming (ani dnis : List Char) : Handler :=
  andThen
    (onlyIf (fun line => line.callState = .seizure ∨ line.callState = .receivingDigits)
      (andThen (setCallState .incoming)
        (modify fun line => { line with ani := ani.take 63, dnis := dnis.take 63 })))
    (reportEvent ("evt=IncomingCall|ANI=".toList ++ ani ++ "|DNIS=".toList ++ dnis))

def onAccepting : Handler :=
  onlyIf (·.callState = .incoming)
    (andThen (setCallState .accepting) (reportEvent "evt=CallAccepting".toList))

def onRejecting : Handler :=
  andThen
    (onlyIf (fun line => line.callState = .incoming ∨ line.callState = .accepting)
      (setCallState .rejecting))
    (reportEvent "evt=CallRejecting".toList)

def onAnswering : Handler :=
  andThen
    (onlyIf (fun line => line.callState = .incoming ∨ line.callState = .accepting)
      (setCallState .answering))
    (reportEvent "evt=CallAnswering".toList)

def onOutboundInitiated : Handler :=
  onlyIf (·.callState = .invalid) (andThen (setCallState .outboundInitiated)
    (andThen (setCallDir 1) (reportEvent "evt=CallMaked".toList)))

def onPlacing : Handler :=
  andThen (onlyIf (·.callState = .outboundInitiated) (setCallState .placing))
    (reportEvent "evt=CallPlacing".toList)

def onProceeding : Handler :=
  andThen
    (onlyIf (fun line => line.callState = .outboundInitiated ∨ line.callState = .placing)
      (setCallState .proceeding))
    (reportEvent "evt=CallProceeding".toList)

def onAlerting : Handler :=
  andThen
    (onlyIf (fun line => line.callState = .outboundInitiated ∨ line.callState = .placing ∨
      line.callState = .proceeding) (setCallState .alerting))
    (reportEvent "evt=CallAlerting".toList)

def CanConnect (line : TLine) : Prop :=
  line.callState = .answering ∨ line.callState = .accepting ∨ line.callState = .outboundInitiated ∨
    line.callState = .placing ∨ line.callState = .proceeding ∨ line.callState = .alerting

instance : DecidablePred CanConnect := fun _ => inferInstanceAs (Decidable (_ ∨ _))

def onConnected (reason : List Char) : Handler :=
  onlyIf CanConnect (andThen (setCallState .connected)
    (reportEvent ("evt=CallConnected|reason=".toList ++ reason)))

def onDisconnected (reason : List Char) : Handler :=
  onlyIf (·.callState ≠ .invalid) (andThen (setCallState .disconnected)
    (andThen (reportEvent ("evt=CallDisconnected|reason=".toList ++ reason)) releaseCall))

def onReleased : Handler :=
  andThen (setCallState .invalid) (reportEvent "evt=CallReleased".toList)

end TLine

end Foolject.Telecom
