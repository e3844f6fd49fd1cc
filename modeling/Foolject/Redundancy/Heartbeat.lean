import Foolject.VNClib.AddParam
import Foolject.Redundancy.Negotiate

/-! The heartbeat thread, one statement at a time, and both threads on one object.

The two receive buffers keep what was stored in them from one iteration to the next.
A string function that reads over the end of a buffer is taken to find a NUL there:
the addresses and strings it is compared with are shorter than the buffer, so that
the outcome does not depend on it. A receive that stores behind a buffer, or counts
past the range of `int`, has no result.
-/

set_option autoImplicit false

namespace Foolject
open VNClib

/-- The statement of `heartbeat` that is executed next. -/
inductive HeartbeatPc where
  | setOwnIp
  | whileNotQuit
  | getMyRole
  | setHeartbeatString
  | sendHeartbeat
  /-- The receive, the two getters, and what a receive without a message does. -/
  | vnRecvMsg
  | compareMate
  | setQuit
  | takeOver
  | setPassiveQuitString
  | sendPassiveQuit
  | foolWait
  | resetErrCount
  | returned
  deriving DecidableEq, Repr

structure Heartbeat where
  pc : HeartbeatPc
  role : TRole
  remoteIp : List UInt8
  sndMsg : CVNNetMsg
  errCount : Nat
  heartbeatString : List UInt8

/-- What `VNRecvMsg` gives: a message, with the outcome of `GetStringParam` for the
parameters 0 and 1, or none, with the code `RS_Failed` or another one. -/
inductive HeartbeatReceived where
  | message (sender text : CVNNetMsg.StringResult)
  | failed
  | timeout

def sizeofRemoteIp : Nat := 16

def sizeofHeartbeatString : Nat := 5

def intMax : Nat := 2147483647

/-- The getters stay in the two buffers: a string is shorter than its buffer, behind which
`GetStringParam` would put the NUL otherwise. -/
def HeartbeatReceived.Fits : HeartbeatReceived → Prop
  | .message sender text =>
    sender.written.length ≤ sizeofRemoteIp ∧ text.written.length ≤ sizeofHeartbeatString
  | .failed => True
  | .timeout => True

instance : DecidablePred HeartbeatReceived.Fits
  | .message _ _ => inferInstanceAs (Decidable (_ ∧ _))
  | .failed => .isTrue trivial
  | .timeout => .isTrue trivial

/-- The parameters a loop over `GetParam` may have to pass in the message to send. -/
def sndMsgFuel : Nat := 3

namespace Heartbeat

def start (fresh : Memory) : Heartbeat :=
  ⟨.setOwnIp, .whoAmI, List.replicate sizeofRemoteIp 0, .ofType fresh .request, 0,
    List.replicate sizeofHeartbeatString 0⟩

def setStringParam (heap : Memory) (thread : Heartbeat) (id : Int) (value : CString) :
    Option Heartbeat :=
  (thread.sndMsg.setStringParam heap sndMsgFuel id value).map fun set => { thread with sndMsg := set.2 }

def receive (thread : Heartbeat) : HeartbeatReceived → Option Heartbeat
  | .message sender text =>
    if sender.written.length ≤ sizeofRemoteIp ∧ text.written.length ≤ sizeofHeartbeatString then
      some { thread with
        remoteIp := overlay sender.written thread.remoteIp
        heartbeatString := overlay text.written thread.heartbeatString
        pc := .compareMate }
    else none
  | .failed => some { thread with pc := .whileNotQuit }
  | .timeout =>
    if thread.errCount < intMax then
      some { thread with
        errCount := thread.errCount + 1
        pc := if thread.errCount > maxHeartbeatErrorCount then .takeOver else .whileNotQuit }
    else none

def fromMate (rddcp : Redundancy) (thread : Heartbeat) : Prop :=
  stricmp (untilNul thread.remoteIp) rddcp.mateIp.text.bytes = 0

def tells (thread : Heartbeat) (text : CString) : Prop :=
  stricmp (untilNul thread.heartbeatString) text.bytes = 0

instance (rddcp : Redundancy) (thread : Heartbeat) : Decidable (thread.fromMate rddcp) :=
  inferInstanceAs (Decidable (_ = _))
instance (thread : Heartbeat) (text : CString) : Decidable (thread.tells text) :=
  inferInstanceAs (Decidable (_ = _))

def compareMate (rddcp : Redundancy) (thread : Heartbeat) : Heartbeat :=
  if thread.fromMate rddcp then
    if thread.tells Foolject.heartbeatString then { thread with errCount := 0, pc := .whileNotQuit }
    else if thread.tells passiveQuitString then { thread with pc := .setQuit }
    else { thread with pc := .whileNotQuit }
  else { thread with pc := .whileNotQuit }

/-- One step of the thread. A setter of the message to send has no result if it needs more
than the turns it is given, or leaves the buffer; nor has a receive that leaves a buffer. -/
def step (heap : Memory) (received : HeartbeatReceived) (rddcp : Redundancy) (thread : Heartbeat) :
    Option (Redundancy × Heartbeat) :=
  match thread.pc with
  | .setOwnIp => (thread.setStringParam heap 0 rddcp.ip.text).map fun thread =>
    (rddcp, { thread with pc := .whileNotQuit })
  | .whileNotQuit =>
    some (rddcp, { thread with pc := if rddcp.quitInnerThread then .returned else .getMyRole })
  | .getMyRole => some (rddcp, { thread with
      role := rddcp.getMyRole
      pc := if rddcp.getMyRole.Paired then .setHeartbeatString else .foolWait })
  | .setHeartbeatString =>
    if rddcp.connectionId ≠ -1 then
      (thread.setStringParam heap 1 Foolject.heartbeatString).map fun thread =>
        (rddcp, { thread with pc := .sendHeartbeat })
    else some (rddcp, { thread with pc := .vnRecvMsg })
  | .sendHeartbeat => some (rddcp, { thread with pc := .vnRecvMsg })
  | .vnRecvMsg => (thread.receive received).map fun thread => (rddcp, thread)
  | .compareMate => some (rddcp, thread.compareMate rddcp)
  | .setQuit => some ({ rddcp with quitInnerThread := true }, { thread with pc := .whileNotQuit })
  | .takeOver =>
    some (rddcp.setMyRole .primaryWithoutBackup, { thread with pc := .setPassiveQuitString })
  | .setPassiveQuitString =>
    if rddcp.connectionId ≠ -1 then
      (thread.setStringParam heap 1 passiveQuitString).map fun thread =>
        (rddcp, { thread with pc := .sendPassiveQuit })
    else some (rddcp, { thread with pc := .whileNotQuit })
  | .sendPassiveQuit => some (rddcp, { thread with pc := .whileNotQuit })
  | .foolWait => some (rddcp, { thread with pc := .resetErrCount })
  | .resetErrCount => some (rddcp, { thread with errCount := 0, pc := .whileNotQuit })
  | .returned => some (rddcp, thread)

def handle (heap : Memory) (received : HeartbeatReceived) :
    Nat → Redundancy × Heartbeat → Option (Redundancy × Heartbeat)
  | 0, state => some state
  | fuel + 1, state =>
    if state.2.pc = .whileNotQuit then some state
    else (state.2.step heap received state.1).bind (handle heap received fuel)

section Receive
variable {received : HeartbeatReceived} {thread after : Heartbeat}

def missed : HeartbeatReceived → Nat
  | .timeout => 1
  | .message _ _ => 0
  | .failed => 0

def receivedPc (thread : Heartbeat) : HeartbeatReceived → HeartbeatPc
  | .message _ _ => .compareMate
  | .failed => .whileNotQuit
  | .timeout => if thread.errCount > maxHeartbeatErrorCount then .takeOver else .whileNotQuit

theorem receive_some (stored : thread.receive received = some after) :
    after.sndMsg = thread.sndMsg ∧ after.pc = thread.receivedPc received ∧
      after.errCount = thread.errCount + missed received := by
  cases received with
  | message sender text =>
    obtain ⟨-, same⟩ := Option.ite_none_right_eq_some.mp stored
    cases same
    exact ⟨rfl, rfl, rfl⟩
  | failed =>
    cases stored
    exact ⟨rfl, rfl, rfl⟩
  | timeout =>
    obtain ⟨-, same⟩ := Option.ite_none_right_eq_some.mp stored
    cases same
    exact ⟨rfl, rfl, rfl⟩

theorem receive_of_fits (fits : received.Fits) (inRange : thread.errCount < intMax) :
    ∃ after, thread.receive received = some after := by
  cases received with
  | message sender text => exact ⟨_, if_pos fits⟩
  | failed => exact ⟨_, rfl⟩
  | timeout => exact ⟨_, if_pos inRange⟩

end Receive

/-- Behind the receive of a message come at most the comparison and the assignment. -/
theorem handle_message {heap : Memory} {sender text : CVNNetMsg.StringResult} {rddcp : Redundancy}
    {thread stored : Heartbeat} (here : thread.pc = .vnRecvMsg)
    (got : thread.receive (.message sender text) = some stored) :
    handle heap (.message sender text) 3 (rddcp, thread) =
      some (if stored.fromMate rddcp then
        if stored.tells Foolject.heartbeatString then
          (rddcp, { stored with errCount := 0, pc := .whileNotQuit })
        else if stored.tells passiveQuitString then
          ({ rddcp with quitInnerThread := true }, { stored with pc := .whileNotQuit })
        else (rddcp, { stored with pc := .whileNotQuit })
      else (rddcp, { stored with pc := .whileNotQuit })) := by
  have at_ : stored.pc = .compareMate := (receive_some got).2.1
  have first : handle heap (.message sender text) 3 (rddcp, thread) =
      handle heap (.message sender text) 2 (rddcp, stored) := by
    simp [handle, step, here, got]
  rw [first]
  by_cases mate : stored.fromMate rddcp
  · by_cases ping : stored.tells Foolject.heartbeatString
    · simp [handle, step, at_, compareMate, mate, ping]
    · by_cases quits : stored.tells passiveQuitString
      · simp [handle, step, at_, compareMate, mate, ping, quits]
      · simp [handle, step, at_, compareMate, mate, ping, quits]
  · simp [handle, step, at_, compareMate, mate]

theorem handle_overrun {heap : Memory} {received : HeartbeatReceived} {rddcp : Redundancy} {thread : Heartbeat}
    (here : thread.pc = .vnRecvMsg) (overruns : thread.receive received = none) (fuel : Nat) :
    handle heap received (fuel + 1) (rddcp, thread) = none := by
  have stepped : thread.step heap received rddcp = none := by
    simp only [step, here, overruns, Option.map_none]
  have inside : ¬ thread.pc = .whileNotQuit := by
    rw [here]
    decide
  simp only [handle, if_neg inside, stepped, Option.bind_none]

end Heartbeat

end Foolject
