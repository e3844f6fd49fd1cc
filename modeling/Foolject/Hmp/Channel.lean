import Foolject.Lib.Transducer

/-! A channel of the HMP test: its handlers of Global Call, voice and fax events and its commands.

`USING_V17_PCM_FAX` is `FALSE`. The call reference number and the addresses of a transfer are
only handed on to the Global Call library and are left out, as is what it returns, which the
handlers only print.
-/

set_option autoImplicit false

namespace Foolject.Hmp
open Transducer

inductive FaxDir where
  | tx
  | rx
  deriving DecidableEq, Repr

structure Channel where
  id : Nat
  voxDev : Int
  faxDev : Int
  faxDir : FaxDir
  faxFile : List Char
  faxProceeding : Bool
  alreadyConnectFax : Bool
  deriving DecidableEq, Repr

/-- The parameters of an extension event. Those of the other sets are only printed. -/
inductive Parm where
  | t38Requested
  | audioRequested
  /-- With the local time as it is printed into the name of a received file. -/
  | ready (localTime : List Char)
  | other
  deriving DecidableEq, Repr

/-- What a channel does. The lines that only say which function runs are left out. -/
inductive Action where
  /-- The line that is printed for a parameter of an extension event. -/
  | got (parm : Parm)
  | connectVoice
  | connectFax
  | restoreVoice
  | setDtmf
  | setAlarm
  | waitCall
  | printOfferInfo
  | printCallStatus
  | printAlarmInfo
  | callAck
  | acceptCall
  | setCodec
  | answerCall
  | makeCall
  | dropCall
  | invokeXfer
  | initXfer
  | acceptXfer
  | makeXferCall
  | releaseCall
  | reqModifyCall
  | acceptModifyCall
  | playWaveFile
  | recordWaveFile
  | printVoiceDone
  | closeVoiceFile
  | printDigit (digit : Char)
  | sendT38Request
  | responseCodecRequest (accept : Bool)
  | sendFax (file : List Char)
  | rcvFax (file : List Char)
  | printFaxPhaseB
  | printFaxPhaseD
  | printFaxError
  | closeFaxFile
  | stop
  | printEvent
  deriving DecidableEq, Repr

abbrev Handler := Transducer Channel Action

namespace Channel

/-- The constructor sets the number and the flags. The handles are those that `open` gets, the
rest is what the memory holds. -/
def opened (index : Nat) (memory : Channel) : Channel :=
  { memory with id := index, faxProceeding := false, alreadyConnectFax := false }

def act (action : Action) : Handler := emit fun _ => [action]

theorem act_andThen (action : Action) (rest : Handler) (ch : Channel) :
    andThen (act action) rest ch = ((rest ch).1, action :: (rest ch).2) := rfl

/-! ## The call -/

def dropCall : Handler :=
  andThen (onlyIf (fun ch => ch.alreadyConnectFax = true) (act .restoreVoice)) (act .dropCall)

def answerCall : Handler := andThen (act .setCodec) (act .answerCall)

def makeCall : Handler := andThen (act .setCodec) (act .makeCall)

def processVoiceDone : Handler := andThen (act .printVoiceDone) (act .closeVoiceFile)

/-! ## The fax -/

def doFax (dir : FaxDir) (file : Option (List Char)) : Handler :=
  andThen (modify fun ch => { ch with faxProceeding := true, faxDir := dir, faxFile := file.getD [] })
    fun ch =>
      if ch.alreadyConnectFax = true then act (.responseCodecRequest true) ch
      else andThen (act .connectFax) (andThen (act .sendT38Request)
        (modify fun ch => { ch with alreadyConnectFax := true })) ch

def sendFaxInner : Handler := emit fun ch => [.sendFax ch.faxFile]

def receiveFaxInner (localTime : List Char) : Handler :=
  andThen
    (modify fun ch => { ch with
      faxFile := "receive_fax_ch".toList ++ (toString ch.id).toList ++ "_time".toList ++ localTime ++ ".tif".toList })
    (emit fun ch => [.rcvFax ch.faxFile])

def processFaxDone : Handler :=
  andThen (act .closeFaxFile) (andThen (act .restoreVoice)
    (modify fun ch => { ch with alreadyConnectFax := false, faxProceeding := false }))

def processFaxSent : Handler := andThen (act .printFaxPhaseD) processFaxDone

def processFaxReceived : Handler := processFaxSent

def processFaxError : Handler := andThen (act .printFaxError) processFaxDone

def connectIfFirst : Handler := onlyIf (fun ch => ¬ ch.alreadyConnectFax = true)
  (andThen (act .connectFax) (modify fun ch => { ch with alreadyConnectFax := true }))

def processParm : Parm → Handler
  | .t38Requested => andThen (act (.got .t38Requested)) connectIfFirst
  | .audioRequested => andThen (act (.got .audioRequested)) (act (.responseCodecRequest true))
  | .ready localTime => andThen (act (.got (.ready localTime)))
      (onlyIf (fun ch => ch.faxProceeding = true)
        (andThen (onlyIf (fun ch => ch.faxDir = .tx) sendFaxInner)
          (onlyIf (fun ch => ch.faxDir = .rx) (receiveFaxInner localTime))))
  | .other => act (.got .other)

def processExtension (parms : List Parm) : Handler := runAll processParm parms

/-! ## What they come to -/

variable {ch : Channel}

theorem doFax_again (dir : FaxDir) (file : Option (List Char)) (already : ch.alreadyConnectFax = true) :
    doFax dir file ch = ({ ch with faxProceeding := true, faxDir := dir, faxFile := file.getD [] },
      [.responseCodecRequest true]) := by
  unfold doFax andThen Transducer.modify
  dsimp only
  rw [if_pos already]
  rfl

theorem doFax_first (dir : FaxDir) (file : Option (List Char)) (first : ch.alreadyConnectFax = false) :
    doFax dir file ch = ({ ch with
        faxProceeding := true, faxDir := dir, faxFile := file.getD [], alreadyConnectFax := true },
      [.connectFax, .sendT38Request]) := by
  unfold doFax andThen Transducer.modify
  dsimp only
  rw [if_neg (Bool.eq_false_iff.mp first)]
  rfl

theorem dropCall_connected (already : ch.alreadyConnectFax = true) :
    dropCall ch = (ch, [.restoreVoice, .dropCall]) := by
  have taken : onlyIf (fun ch => ch.alreadyConnectFax = true) (act .restoreVoice) ch = (ch, [.restoreVoice]) :=
    if_pos already
  unfold dropCall andThen
  rw [taken]
  rfl

theorem dropCall_plain (plain : ch.alreadyConnectFax = false) : dropCall ch = (ch, [.dropCall]) := by
  have passed : onlyIf (fun ch => ch.alreadyConnectFax = true) (act .restoreVoice) ch = (ch, []) :=
    if_neg (Bool.eq_false_iff.mp plain)
  unfold dropCall andThen
  rw [passed]
  rfl

/-- The three ends of a fax differ in what they print. -/
theorem processFaxDone_eq (line : Action) (ch : Channel) : andThen (act line) processFaxDone ch =
    ({ ch with alreadyConnectFax := false, faxProceeding := false }, [line, .closeFaxFile, .restoreVoice]) := rfl

theorem connectIfFirst_first (first : ch.alreadyConnectFax = false) :
    connectIfFirst ch = ({ ch with alreadyConnectFax := true }, [.connectFax]) := if_pos (Bool.eq_false_iff.mp first)

theorem connectIfFirst_again (already : ch.alreadyConnectFax = true) : connectIfFirst ch = (ch, []) :=
  if_neg (not_not_intro already)

end Channel

/-! ## Events and commands -/

inductive GcEvent where
  | openEx
  | unblocked
  | offered
  | callProc
  | accept
  | answered
  | callStatus
  | connected
  | dropCall
  | disconnected
  | extensionCmplt (parms : List Parm)
  | extension (parms : List Parm)
  | reqModifyCall (parms : List Parm)
  | releaseCall
  | taskFail
  | reqXfer
  | acceptXfer
  | initXfer
  | alarm
  | other
  deriving DecidableEq, Repr

inductive R4Event where
  | play
  | record
  /-- With the digit, if the event is `DE_DIGITS`. -/
  | cst (digit : Option Char)
  | phaseB
  | phaseD
  | faxSend
  | faxRecv
  | faxError
  | other
  deriving DecidableEq, Repr

inductive Command where
  | makeCall
  | dropCall
  | blindXfer
  | initSuperXfer
  | playWaveFile
  | recordWaveFile
  | doFax (dir : FaxDir) (file : Option (List Char))
  | stop
  | reqModifyCall
  deriving DecidableEq, Repr

namespace Channel

/-- The branch that `DISCONNECTED` and `TASKFAIL` share. -/
def restoreIfFax : Handler := onlyIf (fun ch => ch.faxProceeding = true) (act .restoreVoice)

/-- The first switch of `loop`. -/
def gcEvent : GcEvent → Handler
  | .openEx => andThen (act .setDtmf) (andThen (act .connectVoice) (act .setAlarm))
  | .unblocked => act .waitCall
  | .offered => andThen (act .printOfferInfo) (act .callAck)
  | .callProc => act .acceptCall
  | .accept => answerCall
  | .answered => skip
  | .callStatus => act .printCallStatus
  | .connected => skip
  | .dropCall => act .releaseCall
  | .disconnected => andThen (act .printCallStatus) (andThen restoreIfFax dropCall)
  | .extensionCmplt parms => processExtension parms
  | .extension parms => processExtension parms
  | .reqModifyCall parms => andThen (processExtension parms) (act .acceptModifyCall)
  | .releaseCall => modify fun ch => { ch with alreadyConnectFax := false, faxProceeding := false }
  | .taskFail => andThen (act .printCallStatus) restoreIfFax
  | .reqXfer => act .acceptXfer
  | .acceptXfer => act .makeXferCall
  | .initXfer => act .invokeXfer
  | .alarm => act .printAlarmInfo
  | .other => act .printCallStatus

/-- The second switch of `loop`. -/
def r4Event : R4Event → Handler
  | .play => processVoiceDone
  | .record => processVoiceDone
  | .cst (some digit) => act (.printDigit digit)
  | .cst none => skip
  | .phaseB => act .printFaxPhaseB
  | .phaseD => act .printFaxPhaseB
  | .faxSend => processFaxSent
  | .faxRecv => processFaxReceived
  | .faxError => processFaxError
  | .other => skip

def command : Command → Handler
  | .makeCall => makeCall
  | .dropCall => dropCall
  | .blindXfer => act .invokeXfer
  | .initSuperXfer => act .initXfer
  | .playWaveFile => act .playWaveFile
  | .recordWaveFile => act .recordWaveFile
  | .doFax dir file => doFax dir file
  | .stop => act .stop
  | .reqModifyCall => act .reqModifyCall

variable {ch : Channel}

theorem restoreIfFax_proceeding (proceeding : ch.faxProceeding = true) : restoreIfFax ch = (ch, [.restoreVoice]) :=
  if_pos proceeding

theorem restoreIfFax_plain (plain : ch.faxProceeding = false) : restoreIfFax ch = (ch, []) :=
  if_neg (Bool.eq_false_iff.mp plain)

end Channel

inductive Input where
  | command (command : Command)
  | gc (event : GcEvent)
  | r4 (event : R4Event)
  deriving DecidableEq, Repr

/-- Every event is printed before it is handled. -/
def Channel.handle : Input → Handler
  | .command command => Channel.command command
  | .gc event => andThen (act .printEvent) (Channel.gcEvent event)
  | .r4 event => andThen (act .printEvent) (Channel.r4Event event)

end Foolject.Hmp
