import Foolject.Lib.Transition
import Foolject.VNClib.NetMsg

/-! `CVNChannel`: the receive and send loops over one socket.

The environment of a call is the list of answers that `select` and the socket
functions will give, one for each turn of a loop. A list that runs out leaves
the call blocked. The bytes of the stream that are still to be received, and
those the socket has accepted, belong to the channel.
-/

set_option autoImplicit false

namespace Foolject.VNClib

inductive RSINFO where
  | success
  | timeout
  | event
  | failed
  | closed
  | noChan
  deriving DecidableEq, Repr

def RSINFO.code : RSINFO → Int
  | .success => 0
  | .timeout => -1
  | .event => -2
  | .failed => -3
  | .closed => -4
  | .noChan => -5

structure CVNChannel where
  /-- `m_Socket` is not `INVALID_SOCKET`. -/
  valid : Bool
  incoming : List UInt8
  written : List UInt8
  deriving DecidableEq, Repr

/-! ## Receiving from a connection -/

/-- `data more` offers at most `more + 1` bytes of the stream. -/
inductive RecvAnswer where
  | selectError
  | timeout
  | recvError
  | data (more : Nat)
  deriving DecidableEq, Repr

inductive RecvLoop where
  | blocked
  | ends (rc : RSINFO) (got : List UInt8) (answers : List RecvAnswer) (incoming : List UInt8)
  deriving DecidableEq, Repr

/-- The loop of `RecvHeader` and of `RecvBody`, with the `want` bytes to collect
and the code for a timeout. `got` are the bytes stored so far; its length is `pos`. -/
def recvLoop (onTimeout : RSINFO) (want : Nat) :
    List RecvAnswer → List UInt8 → List UInt8 → RecvLoop
  | [], got, incoming => if want ≤ got.length then .ends .success got [] incoming else .blocked
  | answer :: rest, got, incoming =>
    if want ≤ got.length then .ends .success got (answer :: rest) incoming
    else match answer with
      | .selectError => .ends .failed got rest incoming
      | .timeout => .ends onTimeout got rest incoming
      | .recvError => .ends .failed got rest incoming
      | .data more =>
        let count := min (more + 1) (min (want - got.length) incoming.length)
        -- The other side has closed the connection.
        if count = 0 then .ends .failed got rest incoming
        else recvLoop onTimeout want rest (got ++ incoming.take count) (incoming.drop count)

def recvHeader (answers : List RecvAnswer) (incoming : List UInt8) : RecvLoop :=
  recvLoop .timeout endOfHeader answers [] incoming

inductive RecvBody where
  | blocked
  | wild
  | ends (rc : RSINFO) (msg : CVNNetMsg) (answers : List RecvAnswer) (incoming : List UInt8)

/-- The body is stored behind the header; past the end of the buffer the store is wild. -/
def recvBody (msg : CVNNetMsg) (answers : List RecvAnswer) (incoming : List UInt8) : RecvBody :=
  match recvLoop .failed msg.getLength.toNat answers [] incoming with
  | .blocked => .blocked
  | .ends rc body answers incoming =>
    match msg.write endOfHeader body with
    | none => .wild
    | some msg =>
      .ends rc (if rc = .success then msg.incrBufferPos body.length else msg) answers incoming

inductive RecvMsg where
  | blocked
  | wild
  | returned (msg : Option CVNNetMsg) (exterr : RSINFO) (chan : CVNChannel)
      (answers : List RecvAnswer)

def CVNChannel.recvMsg (heap : Memory) (chan : CVNChannel) (answers : List RecvAnswer) : RecvMsg :=
  if chan.valid = false then .returned none .failed chan answers
  else match recvHeader answers chan.incoming with
    | .blocked => .blocked
    | .ends rc header answers incoming =>
      if rc = .success then
        match recvBody (CVNNetMsg.ofHeader heap header) answers incoming with
        | .blocked => .blocked
        | .wild => .wild
        | .ends rc msg answers incoming =>
          if rc = .success then .returned (some msg) rc { chan with incoming := incoming } answers
          else .returned none rc { chan with valid := false, incoming := incoming } answers
      else
        .returned none rc { chan with valid := decide (rc = .timeout), incoming := incoming } answers

structure ServRecv where
  chan : CVNChannel
  received : List CVNNetMsg
  running : Bool

def ServRecv.after (serv : ServRecv) (msg : Option CVNNetMsg) (nErr : RSINFO) (chan : CVNChannel) :
    ServRecv :=
  if nErr = .event ∨ nErr = .closed ∨ nErr = .failed then
    { serv with chan := chan, running := false }
  else if nErr = .timeout then { serv with chan := chan }
  else { serv with chan := chan, received := serv.received ++ msg.toList }

/-- What a call of `RecvMsg` finds: an uninitialised buffer and the socket's answers. -/
structure RecvCall where
  heap : Memory
  answers : List RecvAnswer

/-- The thread takes a step when a call returns. After a wild store anything may follow. -/
def servRecvThreadProc (chan : CVNChannel) : System ServRecv RecvCall where
  init serv := serv = ⟨chan, [], true⟩
  step serv call next := serv.running = true ∧
    match serv.chan.recvMsg call.heap call.answers with
    | .blocked => False
    | .wild => True
    | .returned msg nErr chan _ => next = serv.after msg nErr chan

/-! ## Sending on a connection -/

/-- `sent count`: the socket accepts at most `count` of the bytes offered. -/
inductive SendAnswer where
  | selectError
  | timeout
  | sendError
  | sent (count : Nat)
  deriving DecidableEq, Repr

inductive SendLoop where
  | blocked
  | ends (rc : Int) (accepted : List UInt8) (answers : List SendAnswer)
  deriving DecidableEq, Repr

def sendLoop : List SendAnswer → Int → List UInt8 → List UInt8 → SendLoop
  | answers, rc, accepted, [] => .ends rc accepted answers
  | [], _, _, _ :: _ => .blocked
  | answer :: answers, rc, accepted, next :: left =>
    match answer with
    | .selectError => .ends RSINFO.failed.code accepted answers
    | .timeout => .ends RSINFO.timeout.code accepted answers
    | .sendError => .ends RSINFO.failed.code accepted answers
    | .sent count =>
      let count := min count (next :: left).length
      sendLoop answers (rc + count) (accepted ++ (next :: left).take count) ((next :: left).drop count)

def sendMsgCore (msg : CVNNetMsg) (answers : List SendAnswer) : SendLoop :=
  sendLoop answers (-1) [] msg.getBuffer

inductive SendMsg where
  | blocked
  | returned (rc : Int) (chan : CVNChannel) (answers : List SendAnswer)

def CVNChannel.sendMsg (chan : CVNChannel) (msg : CVNNetMsg) (answers : List SendAnswer) : SendMsg :=
  if chan.valid = false then .returned RSINFO.failed.code chan answers
  else match sendMsgCore msg answers with
    | .blocked => .blocked
    | .ends rc accepted answers =>
      .returned rc
        { chan with
          valid := decide (rc = RSINFO.timeout.code ∨ 0 ≤ rc)
          written := chan.written ++ accepted } answers

/-! ## Receiving a datagram -/

inductive DatagramAnswer where
  | selectError
  | timeout
  | recvError
  | datagram (bytes : List UInt8) (sender : CString)

/-- The message and the sender's address that `RecvBroadCastMsg` returns, if any. No
result at all is a store behind the end of the message buffer. `recvfrom` fails for
a datagram longer than the length it is given. -/
def CVNChannel.recvBroadCastMsg (heap : Memory) (chan : CVNChannel) (nLen : Int) :
    DatagramAnswer → Option (Option (CVNNetMsg × CString) × CVNChannel)
  | .selectError => some (none, chan)
  | .timeout => some (none, chan)
  | .recvError => some (none, { chan with valid := false })
  | .datagram bytes sender =>
    if bytes.length = 0 ∨ nLen < bytes.length then some (none, { chan with valid := false })
    else
      ((CVNNetMsg.ofTypeLength heap .request nLen).write 0 bytes).map fun msg =>
        (some (msg.setWritePos bytes.length, sender), chan)

end Foolject.VNClib
