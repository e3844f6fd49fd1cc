import Foolject.Lib.Words
import Foolject.Lib.Memory
import Foolject.Lib.CString

/-! The message object of the wire protocol, as `VNNetMsg.cpp` computes it.

A message owns a byte buffer: a fixed header and, behind it, parameters written
one after another. Allocation is taken to succeed, so the buffer pointer is
never null and the null checks of the source have no counterpart here. What a
fresh buffer holds before it is written is the `heap` argument. A store behind
the end of the buffer has no defined result.
-/

set_option autoImplicit false

namespace Foolject.VNClib
open Words

/-! ## Layout -/

section Layout

@[simp] def msgTypeOffset : Nat := 0
@[simp] def msgFlagsOffset : Nat := 1
@[simp] def msgLengthOffset : Nat := 2
@[simp] def serviceIDOffset : Nat := 6
@[simp] def connectionIDOffset : Nat := 8
@[simp] def srcQueueOffset : Nat := 10
@[simp] def desQueueOffset : Nat := 12
@[simp] def commandIDOffset : Nat := 14
@[simp] def paramCountOffset : Nat := 16
@[simp] def peerLongOffset : Nat := 18
@[simp] def endOfHeader : Nat := 22

@[simp] def paramIDOffset : Nat := 0
@[simp] def paramTypeOffset : Nat := 1
@[simp] def paramLengthOffset : Nat := 2
@[simp] def paramDataStartOffset : Nat := 6

@[simp] def defMsgLength : Int := 128
@[simp] def defExtraMsgSpace : Int := endOfHeader + 32

end Layout

inductive MsgType where
  | response
  | request
  | test
  | control
  deriving DecidableEq, Repr

def MsgType.code : MsgType → Int
  | .response => 0x01
  | .request => 0x02
  | .test => 0x04
  | .control => 0xff

inductive NetParamType where
  | int8
  | int16
  | int32
  | bool
  | string
  | binary
  deriving DecidableEq, Repr

def NetParamType.code : NetParamType → UInt8
  | .int8 => 0x00
  | .int16 => 0x01
  | .int32 => 0x02
  | .bool => 0x03
  | .string => 0x10
  | .binary => 0x11

structure CVNNetMsg where
  data : Memory
  pos : Int
  maxLength : Int

namespace CVNNetMsg

/-! ## Header fields -/

def getField (order : ByteOrder) (offset width : Nat) (msg : CVNNetMsg) : Nat :=
  order.decode (msg.data.load offset width)

def setField (order : ByteOrder) (offset width : Nat) (value : Int) (msg : CVNNetMsg) : CVNNetMsg :=
  { msg with data := msg.data.store offset (order.encode width value) }

-- A word passed through `htons` or `htonl` is stored most significant byte first
-- on every host. The two queue ids are stored as the host keeps them.

def getType (msg : CVNNetMsg) : Int := msg.getField .big msgTypeOffset 1
def getFlags (msg : CVNNetMsg) : Int := msg.getField .big msgFlagsOffset 1
def getLength (msg : CVNNetMsg) : Int := wrap 32 (msg.getField .big msgLengthOffset 4)
def getServiceID (msg : CVNNetMsg) : Int := msg.getField .big serviceIDOffset 2
def getConnectionID (msg : CVNNetMsg) : Int := msg.getField .big connectionIDOffset 2
def getSrcQueueID (host : ByteOrder) (msg : CVNNetMsg) : Int := msg.getField host srcQueueOffset 2
def getDesQueueID (host : ByteOrder) (msg : CVNNetMsg) : Int := msg.getField host desQueueOffset 2
def getCommandID (msg : CVNNetMsg) : Int := msg.getField .big commandIDOffset 2
def getParamCount (msg : CVNNetMsg) : Int := msg.getField .big paramCountOffset 2
def getPeerID (msg : CVNNetMsg) : Int := wrap 32 (msg.getField .big peerLongOffset 4)

def setType (msg : CVNNetMsg) (type : Int) : CVNNetMsg := msg.setField .big msgTypeOffset 1 type
def setFlags (msg : CVNNetMsg) (flags : Int) : CVNNetMsg := msg.setField .big msgFlagsOffset 1 flags
def setLength (msg : CVNNetMsg) (length : Int) : CVNNetMsg := msg.setField .big msgLengthOffset 4 length
def setServiceID (msg : CVNNetMsg) (id : Int) : CVNNetMsg := msg.setField .big serviceIDOffset 2 id
def setConnectionID (msg : CVNNetMsg) (id : Int) : CVNNetMsg := msg.setField .big connectionIDOffset 2 id
def setSrcQueueID (host : ByteOrder) (msg : CVNNetMsg) (id : Int) : CVNNetMsg :=
  msg.setField host srcQueueOffset 2 id
def setDesQueueID (host : ByteOrder) (msg : CVNNetMsg) (id : Int) : CVNNetMsg :=
  msg.setField host desQueueOffset 2 id
def setCommandID (msg : CVNNetMsg) (id : Int) : CVNNetMsg := msg.setField .big commandIDOffset 2 id
def setParamCount (msg : CVNNetMsg) (count : Int) : CVNNetMsg := msg.setField .big paramCountOffset 2 count
def setPeerID (msg : CVNNetMsg) (id : Int) : CVNNetMsg := msg.setField .big peerLongOffset 4 id

/-! ## Construction -/

def ofHeader (heap : Memory) (headerStream : List UInt8) : CVNNetMsg :=
  let length := wrap 32 (value ((headerStream.drop msgLengthOffset).take 4))
  { data := heap.store 0 (headerStream.take endOfHeader)
    pos := endOfHeader
    maxLength := max defMsgLength (wrap 32 (endOfHeader + length)) }

def initEmptyMsg (heap : Memory) (type : MsgType) (length : Int) : CVNNetMsg :=
  let length := if length < endOfHeader then (endOfHeader : Int) else length
  setType
    { data := heap.store 0 (List.replicate endOfHeader 0)
      pos := endOfHeader
      maxLength := length }
    type.code

def ofType (heap : Memory) (type : MsgType) : CVNNetMsg := initEmptyMsg heap type defMsgLength

def ofTypeLength (heap : Memory) (type : MsgType) (length : Int) : CVNNetMsg :=
  initEmptyMsg heap type (wrap 32 (defExtraMsgSpace + length))

/-! ## Buffer access -/

def getBuffer (msg : CVNNetMsg) : List UInt8 := msg.data.load 0 msg.pos.toNat

def incrBufferPos (msg : CVNNetMsg) (incrPos : Int) : CVNNetMsg :=
  { msg with pos := msg.pos + incrPos }

def setWritePos (msg : CVNNetMsg) (pos : Int) : CVNNetMsg :=
  if pos ≤ endOfHeader then msg else { msg with pos := pos }

/-- Store into the buffer; behind its end the result is undefined. -/
def write (msg : CVNNetMsg) (target : Int) (bytes : List UInt8) : Option CVNNetMsg :=
  if 0 ≤ target ∧ target + bytes.length ≤ msg.maxLength then
    some { msg with data := msg.data.store target bytes }
  else none

/-! ## Parameters -/

structure GetParamResult where
  ret : Int
  /-- The value left in `*type`, if it was assigned. -/
  type : Option UInt8
  /-- The value left in `*length`. -/
  length : Int
  /-- The bytes stored at `data`. -/
  copied : List UInt8
  deriving DecidableEq

/-- The loop of `GetParam` from a given pointer on. It need not end for every
buffer, so it is given a number of turns. A negative length passes both length
tests and makes the copy fault; here it copies nothing. -/
def getParamLoop (msg : CVNNetMsg) (id : Int) (data : Bool) :
    Nat → Int → Option UInt8 → Int → Option GetParamResult
  | 0, _, _, _ => none
  | fuel + 1, ptr, type, length =>
    if ptr < msg.pos then
      let paramID := msg.data (ptr + paramIDOffset)
      let paramType := msg.data (ptr + paramTypeOffset)
      let paramLength := wrap 32 (value (msg.data.load (ptr + paramLengthOffset) 4))
      let ptr := ptr + paramDataStartOffset
      if id = paramID.toNat then
        if data = false then some ⟨0, some paramType, length, []⟩
        else if length < paramLength then some ⟨-1, some paramType, length, []⟩
        else if ptr + paramLength ≤ msg.pos then
          some ⟨paramLength, some paramType, paramLength, msg.data.load ptr paramLength.toNat⟩
        else getParamLoop msg id data fuel (ptr + paramLength) (some paramType) paramLength
      else getParamLoop msg id data fuel (ptr + paramLength) type length
    else some ⟨-1, type, length, []⟩

/-- `data` tells whether the caller passed a buffer for the parameter's bytes. -/
def getParam (fuel : Nat) (msg : CVNNetMsg) (id : Int) (length : Int) (data : Bool) :
    Option GetParamResult :=
  getParamLoop msg id data fuel endOfHeader none length

/-- The realloc branch of `AddParam`: a new buffer of the given size, with the old contents. -/
def grow (heap : Memory) (msg : CVNNetMsg) (length : Int) : CVNNetMsg :=
  { msg with data := heap.store 0 (msg.data.load 0 msg.maxLength.toNat), maxLength := length }

def appendParam (msg : CVNNetMsg) (id : Int) (type : UInt8) (data : List UInt8) : Option CVNNetMsg :=
  let length := wrap 32 data.length
  let requiredLength := wrap 32 (paramDataStartOffset + length)
  let msg := msg.setParamCount (msg.getParamCount + 1)
  match msg.write msg.pos (byte id :: type :: bigEndian 4 length ++ data) with
  | none => none
  | some msg =>
    let msg := { msg with pos := wrap 32 (msg.pos + requiredLength) }
    some (msg.setLength (wrap 32 (msg.getLength + requiredLength)))

def addParam (heap : Memory) (fuel : Nat) (msg : CVNNetMsg) (id : Int) (type : UInt8)
    (data : List UInt8) : Option (Bool × CVNNetMsg) :=
  match getParam fuel msg id 0 false with
  | none => none
  | some found =>
    if found.ret = 0 then some (false, msg)
    else
      let requiredLength := wrap 32 (paramDataStartOffset + wrap 32 data.length)
      let needed := wrap 32 (msg.pos + requiredLength)
      let msg := if needed > msg.maxLength then msg.grow heap needed else msg
      (msg.appendParam id type data).map fun msg => (true, msg)

def setInt8Param (heap : Memory) (fuel : Nat) (msg : CVNNetMsg) (id value : Int) :=
  addParam heap fuel msg id NetParamType.int8.code (bigEndian 1 value)

def setInt16Param (heap : Memory) (fuel : Nat) (msg : CVNNetMsg) (id value : Int) :=
  addParam heap fuel msg id NetParamType.int16.code (bigEndian 2 value)

def setInt32Param (heap : Memory) (fuel : Nat) (msg : CVNNetMsg) (id value : Int) :=
  addParam heap fuel msg id NetParamType.int32.code (bigEndian 4 value)

def setStringParam (heap : Memory) (fuel : Nat) (msg : CVNNetMsg) (id : Int) (value : CString) :=
  addParam heap fuel msg id NetParamType.string.code value.bytes

/-- The three integer getters. The local that `GetParam` fills starts uninitialised
(`stack`), and a parameter shorter than it leaves its tail as it was. The inner
result is absent when the getter returns FALSE. -/
def getIntParam (width : Nat) (type : NetParamType) (stack : List UInt8) (fuel : Nat)
    (msg : CVNNetMsg) (id : Int) : Option (Option Int) :=
  (getParam fuel msg id width true).map fun found =>
    if found.ret < 0 ∨ found.type ≠ some type.code then none
    else some (wrap (8 * width) (value ((overlay found.copied stack).take width)))

def getInt8Param := getIntParam 1 .int8
def getInt16Param := getIntParam 2 .int16
def getInt32Param := getIntParam 4 .int32

/-- What `GetStringParam` returns and what it stores at the front of the buffer:
a parameter of another type is copied before the type is looked at. -/
structure StringResult where
  ok : Bool
  written : List UInt8
  deriving DecidableEq

def getStringParam (fuel : Nat) (msg : CVNNetMsg) (id : Int) (length : Int) : Option StringResult :=
  (getParam fuel msg id length true).map fun found =>
    if found.ret < 0 ∨ found.type ≠ some NetParamType.string.code then ⟨false, found.copied⟩
    else ⟨true, found.copied ++ [0]⟩

end CVNNetMsg

end Foolject.VNClib
