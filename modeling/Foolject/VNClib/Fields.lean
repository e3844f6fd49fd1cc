import Foolject.VNClib.AddParam

/-! The fields of the header with a public getter and a public setter.

Each field has bytes of its own, but for two: `SetValidCode` stores where `SetPeerID` does. `CVNChannel` has a
member for each of the two values.
-/

set_option autoImplicit false

namespace Foolject.VNClib
open Words

def CVNNetMsg.getValidCode (msg : CVNNetMsg) : Int := wrap 32 (msg.getField .big peerLongOffset 4)
def CVNNetMsg.setValidCode (msg : CVNNetMsg) (validCode : Int) : CVNNetMsg :=
  msg.setField .big peerLongOffset 4 validCode

inductive HeaderField where
  | type
  | flags
  | serviceID
  | connectionID
  | srcQueueID
  | desQueueID
  | commandID
  | peerID
  | validCode
  deriving DecidableEq, Repr

namespace HeaderField
open CVNNetMsg

def get (host : ByteOrder) : HeaderField → CVNNetMsg → Int
  | .type => getType
  | .flags => getFlags
  | .serviceID => getServiceID
  | .connectionID => getConnectionID
  | .srcQueueID => getSrcQueueID host
  | .desQueueID => getDesQueueID host
  | .commandID => getCommandID
  | .peerID => getPeerID
  | .validCode => getValidCode

def set (host : ByteOrder) : HeaderField → CVNNetMsg → Int → CVNNetMsg
  | .type => setType
  | .flags => setFlags
  | .serviceID => setServiceID
  | .connectionID => setConnectionID
  | .srcQueueID => setSrcQueueID host
  | .desQueueID => setDesQueueID host
  | .commandID => setCommandID
  | .peerID => setPeerID
  | .validCode => setValidCode

def offset : HeaderField → Nat
  | .type => msgTypeOffset
  | .flags => msgFlagsOffset
  | .serviceID => serviceIDOffset
  | .connectionID => connectionIDOffset
  | .srcQueueID => srcQueueOffset
  | .desQueueID => desQueueOffset
  | .commandID => commandIDOffset
  | .peerID => peerLongOffset
  | .validCode => peerLongOffset

def reduce : HeaderField → Int → Int
  | .type, v => v % 256
  | .flags, v => v % 256
  | .peerID, v => wrap 32 v
  | .validCode, v => wrap 32 v
  | _, v => v % 65536

def Holds : HeaderField → Int → Prop
  | .type, v => 0 ≤ v ∧ v < 2 ^ 8
  | .flags, v => 0 ≤ v ∧ v < 2 ^ 8
  | .peerID, v => Fits 32 v
  | .validCode, v => Fits 32 v
  | _, v => 0 ≤ v ∧ v < 2 ^ 16

def initial (type : MsgType) : HeaderField → Int
  | .type => type.code
  | _ => 0

variable {host : ByteOrder} {field other : HeaderField} {v : Int}

/-! ## How a field is stored -/

def width : HeaderField → Nat
  | .type => 1
  | .flags => 1
  | .peerID => 4
  | .validCode => 4
  | _ => 2

def order (host : ByteOrder) : HeaderField → ByteOrder
  | .srcQueueID => host
  | .desQueueID => host
  | _ => .big

/-- The two words are signed, the other fields are not. -/
def read : HeaderField → Nat → Int
  | .peerID, stored => wrap 32 stored
  | .validCode, stored => wrap 32 stored
  | _, stored => stored

theorem get_eq (msg : CVNNetMsg) :
    field.get host msg = field.read (msg.getField (field.order host) field.offset field.width) := by
  cases field <;> rfl

theorem set_eq (msg : CVNNetMsg) (v : Int) :
    field.set host msg v = msg.setField (field.order host) field.offset field.width v := by
  cases field <;> rfl

theorem read_stored {stored : Nat} (same : (stored : Int) = v % 256 ^ field.width) :
    field.read stored = field.reduce v := by
  have word (stored : Int) (same : stored = v % 256 ^ 4) : wrap 32 stored = wrap 32 v := by
    rw [same]
    exact wrap_emod 32 v
  cases field with
  | peerID => exact word stored same
  | validCode => exact word stored same
  | _ => exact same

theorem reduce_of_holds (holds : field.Holds v) : field.reduce v = v := by
  cases field with
  | peerID => exact wrap_of_fits (by decide) holds
  | validCode => exact wrap_of_fits (by decide) holds
  | _ => exact Int.emod_eq_of_lt holds.1 holds.2

theorem reduce_initial (type : MsgType) : field.reduce (field.initial type) = field.initial type := by
  cases field <;> cases type <;> rfl

theorem untouched (field : HeaderField) : Untouched field.offset field.width := by
  cases field <;> decide

theorem disjoint_of_ne (apart : other.offset ≠ field.offset) :
    other.offset + other.width ≤ field.offset ∨ field.offset + field.width ≤ other.offset := by
  revert apart
  cases other <;> cases field <;> decide

/-- Only the two words are stored at one place. -/
theorem eq_of_offset_eq (same : other.offset = field.offset) (apart : field ≠ .peerID ∧ field ≠ .validCode) :
    other = field := by
  revert same apart
  cases other <;> cases field <;> decide

/-! ## One setter -/

variable {msg : CVNNetMsg}

theorem get_set_self (same : other.offset = field.offset) :
    field.get host (other.set host msg v) = field.reduce v := by
  have kind : other.order host = field.order host ∧ other.width = field.width := by
    revert same
    cases host <;> cases other <;> cases field <;> decide
  rw [get_eq, set_eq, kind.1, kind.2, same]
  exact read_stored (getField_setField_self _ _ _)

theorem get_set_other (apart : other.offset ≠ field.offset) :
    field.get host (other.set host msg v) = field.get host msg := by
  rw [get_eq, get_eq, set_eq, getField_setField_of_disjoint _ _ _ _ (disjoint_of_ne apart)]

/-- A value that the width holds is read back where it was stored. -/
theorem get_set (holds : other.Holds v) : field.get host (other.set host msg v) =
    if other.offset = field.offset then v else field.get host msg := by
  by_cases same : other.offset = field.offset
  · have reduced : field.reduce v = other.reduce v := by
      revert same
      cases other <;> cases field <;> first | exact fun _ => rfl | exact fun apart => absurd apart (by decide)
    rw [if_pos same, get_set_self same, reduced, reduce_of_holds holds]
  · rw [if_neg same, get_set_other same]

/-- A setter leaves the length and the number of the parameters. -/
theorem set_keeps_size (msg : CVNNetMsg) (v : Int) :
    (field.set host msg v).getLength = msg.getLength ∧
      (field.set host msg v).getParamCount = msg.getParamCount := by
  have apart := field.untouched
  unfold getLength getParamCount
  rw [set_eq, getField_setField_of_disjoint _ _ _ _ (by have := apart.2.1; simp only [msgLengthOffset]; omega),
    getField_setField_of_disjoint _ _ _ _ (by have := apart.2.2; simp only [paramCountOffset]; omega)]
  exact ⟨rfl, rfl⟩

theorem get_initEmptyMsg (heap : Memory) (type : MsgType) (length : Int) :
    field.get host (initEmptyMsg heap type length) = field.initial type := by
  by_cases kind : field = .type
  · subst kind
    exact getType_initEmptyMsg heap type length
  · have zero : field.initial type = 0 ∧ 1 ≤ field.offset := by
      revert kind
      cases field <;> simp [initial, offset]
    rw [get_eq, getField_initEmptyMsg heap type length _ zero.2 field.untouched.1, ← reduce_initial]
    refine read_stored ?_
    rw [zero.1, Int.zero_emod]
    rfl

end HeaderField

end Foolject.VNClib
