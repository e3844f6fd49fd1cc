import Foolject.VNClib.NetMsg

/-! The table of the connections that a server has opened, as `VNConnection.cpp` keeps it.

An entry is made before the attempt to connect, and stays when the attempt fails. The queue
group is set and the port is in range: `VNListen` has seen to both before any thread runs.
-/

set_option autoImplicit false

namespace Foolject.VNClib

@[simp] def maxSendChan : Nat := 256
@[simp] def inaddrNone : Int := -1

structure SendChannel where
  addrPeer : Int
  /-- A `ChannelConnect` of this channel has succeeded. -/
  connected : Bool
  deriving DecidableEq

inductive ConnectAnswer where
  | notOpened
  | noMessage
  | message (type : Int)
  deriving DecidableEq

/-- The channels that are not null, all of them at the front of the array. -/
structure CVNConnection where
  sendChan : List SendChannel
  deriving DecidableEq

namespace SendChannel

def new : SendChannel := ⟨inaddrNone, false⟩

def setAddr (channel : SendChannel) (servAddr : Int) : SendChannel :=
  if servAddr ≠ -1 then { channel with addrPeer := servAddr } else channel

def channelConnect (channel : SendChannel) (servAddr : Int) (answer : ConnectAnswer) :
    Bool × SendChannel :=
  let channel := channel.setAddr servAddr
  match answer with
  | .notOpened => (false, channel)
  | .noMessage => (false, channel)
  | .message type =>
    if type ≠ MsgType.control.code then (false, channel) else (true, { channel with connected := true })

end SendChannel

namespace CVNConnection

def findPeer (host : Int) : List SendChannel → Option Nat
  | [] => none
  | channel :: rest => if channel.addrPeer = host then some 0 else (findPeer host rest).map (· + 1)

/-- `inetAddr` is the conversion of the address, with `INADDR_NONE` for what is none. -/
def vnConnect (inetAddr : CString → Int) (connection : CVNConnection) (host : CString)
    (answer : ConnectAnswer) : Int × CVNConnection :=
  let lhost := inetAddr host
  if lhost = inaddrNone then (-1, connection)
  else
    match findPeer lhost connection.sendChan with
    | some i => (i, connection)
    | none =>
      if connection.sendChan.length = maxSendChan then (-1, connection)
      else
        let attempt := SendChannel.new.channelConnect lhost answer
        (if attempt.1 then connection.sendChan.length else -1,
          { connection with sendChan := connection.sendChan ++ [attempt.2] })

def vnDisconnect (connection : CVNConnection) : CVNConnection := { connection with sendChan := [] }

/-- The part of `VNSendMsg` behind a send that fails: it connects the channel again. -/
def reconnect (connection : CVNConnection) (id : Int) (answer : ConnectAnswer) : CVNConnection :=
  if 0 ≤ id then
    { connection with
      sendChan := connection.sendChan.modify id.toNat fun channel => (channel.channelConnect (-1) answer).2 }
  else connection

def Connected (connection : CVNConnection) (id addr : Int) : Prop :=
  ∃ i : Nat, id = i ∧ ∃ channel ∈ connection.sendChan[i]?, channel.addrPeer = addr ∧
    channel.connected = true

/-- The first entry for the address has been connected; or there is none, and a new one is
connected at once. -/
def Connects (connection : CVNConnection) (addr : Int) (answer : ConnectAnswer) : Prop :=
  addr ≠ inaddrNone ∧
  match connection.sendChan.find? fun channel => channel.addrPeer = addr with
  | some channel => channel.connected = true
  | none => connection.sendChan.length ≠ maxSendChan ∧ answer = .message MsgType.control.code

variable {host : Int} {channels : List SendChannel}

theorem findPeer_some {i : Nat} (found : findPeer host channels = some i) :
    ∃ channel, channels[i]? = some channel ∧
      channels.find? (fun channel => channel.addrPeer = host) = some channel := by
  induction channels generalizing i with
  | nil => cases found
  | cons first rest ih =>
    unfold findPeer at found
    by_cases same : first.addrPeer = host
    · rw [if_pos same] at found
      cases found
      exact ⟨first, rfl, by simp [same]⟩
    · rw [if_neg same] at found
      obtain ⟨j, inRest, rfl⟩ := Option.map_eq_some_iff.mp found
      obtain ⟨channel, at_, first⟩ := ih inRest
      exact ⟨channel, at_, by simp [same, first]⟩

theorem findPeer_none (missing : findPeer host channels = none) :
    channels.find? (fun channel => channel.addrPeer = host) = none := by
  induction channels with
  | nil => rfl
  | cons first rest ih =>
    unfold findPeer at missing
    by_cases same : first.addrPeer = host
    · rw [if_pos same] at missing
      cases missing
    · rw [if_neg same] at missing
      have inRest := ih (Option.map_eq_none_iff.mp missing)
      simp [same, inRest]

theorem find_addrPeer {channel : SendChannel}
    (found : channels.find? (fun channel => channel.addrPeer = host) = some channel) :
    channel.addrPeer = host := by
  have test := List.find?_some found
  simpa using test

theorem channelConnect_new (answer : ConnectAnswer) (known : host ≠ inaddrNone) :
    (SendChannel.new.channelConnect host answer).2.addrPeer = host ∧
    ((SendChannel.new.channelConnect host answer).1 = true ↔
      answer = .message MsgType.control.code) ∧
    (SendChannel.new.channelConnect host answer).2.connected =
      (SendChannel.new.channelConnect host answer).1 := by
  have addr : (SendChannel.new.setAddr host) = ⟨host, false⟩ := if_pos known
  cases answer with
  | notOpened => simp [SendChannel.channelConnect, addr]
  | noMessage => simp [SendChannel.channelConnect, addr]
  | message type =>
    by_cases greets : type = MsgType.control.code
    · simp [SendChannel.channelConnect, addr, greets]
    · simp [SendChannel.channelConnect, addr, greets]

/-- When `VNConnect` returns a connected channel for the host. -/
theorem vnConnect_connected (inetAddr : CString → Int) (connection : CVNConnection) (host : CString)
    (answer : ConnectAnswer) :
    (connection.vnConnect inetAddr host answer).2.Connected
        (connection.vnConnect inetAddr host answer).1 (inetAddr host) ↔
      connection.Connects (inetAddr host) answer := by
  have failed : ∀ table : CVNConnection, ¬ table.Connected (-1) (inetAddr host) := by
    rintro table ⟨i, negative, -⟩
    omega
  unfold vnConnect Connects
  dsimp only
  by_cases known : inetAddr host = inaddrNone
  · rw [if_pos known]
    simp only [known, ne_eq, not_true_eq_false, false_and, iff_false]
    rw [← known]
    exact failed connection
  · rw [if_neg known]
    cases found : findPeer (inetAddr host) connection.sendChan with
    | some i =>
      obtain ⟨channel, at_, first⟩ := findPeer_some found
      simp only [first, ne_eq, known, not_false_eq_true, true_and]
      constructor
      · rintro ⟨j, same, other, member, -, connected⟩
        obtain rfl : i = j := by exact_mod_cast same
        cases at_.symm.trans member
        exact connected
      · intro connected
        exact ⟨i, rfl, channel, at_, find_addrPeer first, connected⟩
    | none =>
      simp only [findPeer_none found, ne_eq, known, not_false_eq_true, true_and]
      obtain ⟨addr, succeeds, connected⟩ := channelConnect_new answer known
      by_cases full : connection.sendChan.length = maxSendChan
      · rw [if_pos full]
        simp only [full, not_true_eq_false, false_and, iff_false]
        exact failed connection
      · rw [if_neg full]
        simp only [full, not_false_eq_true, true_and]
        rw [← succeeds]
        constructor
        · intro reached
          by_contra fails
          rw [if_neg fails] at reached
          exact failed _ reached
        · intro success
          rw [if_pos success]
          refine ⟨_, rfl, _, ?_, addr, connected.trans success⟩
          simp

end CVNConnection

end Foolject.VNClib
