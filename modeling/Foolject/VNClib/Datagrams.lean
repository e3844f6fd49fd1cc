import Mathlib.Data.List.Forall2
import Foolject.VNClib.RoundTrip

/-! The broadcast socket and the datagrams that arrive at it.

A call of `RecvBroadCastMsg` takes the datagram that has waited longest. `recvfrom` returns 0 for an empty
one and -1 for one that is longer than the buffer, and the branch for a broken socket takes both.
-/

set_option autoImplicit false

namespace Foolject.VNClib
open Words

structure Datagram where
  bytes : List UInt8
  sender : CString

/-- `pending` waits at the socket. All the datagrams that have `arrived` and the messages that were
`returned` are noted in their order. -/
structure Receiver where
  chCast : CVNChannel
  pending : List Datagram
  arrived : List Datagram
  returned : List (CVNNetMsg × CString)

inductive CastEvent where
  | arrive (datagram : Datagram)
  | recv (heap : Memory) (nLength : Int) (lpAddr : Bool) (nAddrLen : Int)

namespace Receiver

def bound : Receiver := ⟨⟨true, [], []⟩, [], [], []⟩

def answer (receiver : Receiver) : DatagramAnswer :=
  if receiver.chCast.valid = false then .selectError
  else
    match receiver.pending with
    | [] => .timeout
    | datagram :: _ => .datagram datagram.bytes datagram.sender

def Accepts (nLength : Int) (lpAddr : Bool) (nAddrLen : Int) : Prop :=
  ¬ (nLength < 128 ∨ nAddrLen < 15 ∨ lpAddr = false)

instance (nLength : Int) (lpAddr : Bool) (nAddrLen : Int) : Decidable (Accepts nLength lpAddr nAddrLen) :=
  inferInstanceAs (Decidable (¬ _))

def vnRecvBroadCastMsg (receiver : Receiver) (heap : Memory) (nLength : Int) (lpAddr : Bool) (nAddrLen : Int) :
    Option Receiver :=
  if Accepts nLength lpAddr nAddrLen then
    (receiver.chCast.recvBroadCastMsg heap nLength receiver.answer).map fun result =>
      { receiver with
        chCast := result.2
        pending := if receiver.chCast.valid = false then receiver.pending else receiver.pending.tail
        returned := receiver.returned ++ result.1.toList }
  else some receiver

def step (receiver : Receiver) : CastEvent → Option Receiver
  | .arrive datagram =>
    some { receiver with pending := receiver.pending ++ [datagram], arrived := receiver.arrived ++ [datagram] }
  | .recv heap nLength lpAddr nAddrLen => receiver.vnRecvBroadCastMsg heap nLength lpAddr nAddrLen

def system : System Receiver CastEvent := .ofStep (fun receiver => receiver = bound) step

/-! ## Datagrams that are returned -/

/-- The message holds the bytes of the datagram; if they make up a header at least, they are all it holds. -/
structure Carries (datagram : Datagram) (result : CVNNetMsg × CString) : Prop where
  bytes : result.1.data.load 0 datagram.bytes.length = datagram.bytes
  buffer : endOfHeader ≤ datagram.bytes.length → result.1.getBuffer = datagram.bytes
  sender : result.2 = datagram.sender

/-- The socket is there, and every datagram that has arrived was returned, in order, or waits. -/
structure Kept (receiver : Receiver) : Prop where
  valid : receiver.chCast.valid = true
  all : ∃ front, receiver.arrived = front ++ receiver.pending ∧ List.Forall₂ Carries front receiver.returned

/-- Neither empty, nor longer than the length that is given, nor longer than the message whose size is
computed from that length. -/
structure Fits (datagram : Datagram) (nLength : Int) : Prop where
  nonempty : 0 < datagram.bytes.length
  within : datagram.bytes.length ≤ nLength
  room : nLength < 2 ^ 31 - defExtraMsgSpace ∨ datagram.bytes.length ≤ endOfHeader

def FitsNext (receiver : Receiver) : CastEvent → Prop
  | .arrive _ => True
  | .recv _ nLength lpAddr nAddrLen =>
    Accepts nLength lpAddr nAddrLen → ∀ datagram ∈ receiver.pending.head?, Fits datagram nLength

theorem maxLength_ofTypeLength (heap : Memory) (nLength : Int) :
    (CVNNetMsg.ofTypeLength heap .request nLength).maxLength = max 22 (wrap 32 (54 + nLength)) := by
  have capacity : (CVNNetMsg.ofTypeLength heap .request nLength).maxLength =
      if wrap 32 (54 + nLength) < (22 : Nat) then ((22 : Nat) : Int) else wrap 32 (54 + nLength) := rfl
  rw [capacity]
  split
  · omega
  · omega

theorem Fits.capacity {datagram : Datagram} {nLength : Int} (fits : Fits datagram nLength) (heap : Memory) :
    datagram.bytes.length ≤ (CVNNetMsg.ofTypeLength heap .request nLength).maxLength := by
  obtain ⟨nonempty, within, room⟩ := fits
  simp only [defExtraMsgSpace, endOfHeader] at room
  rw [maxLength_ofTypeLength]
  by_cases small : nLength < 2 ^ 31 - 54
  · have wrapped : wrap 32 (54 + nLength) = 54 + nLength := wrap_of_fits (by decide) ⟨by omega, by omega⟩
    rw [wrapped]
    omega
  · omega

theorem maxLength_overflow (heap : Memory) {nLength : Int} (large : 2 ^ 31 - 54 ≤ nLength) (int : nLength < 2 ^ 31) :
    (CVNNetMsg.ofTypeLength heap .request nLength).maxLength = 22 := by
  -- From a certain length on the sum with the extra space overflows, and the message has the size of a header.
  have wrapped : wrap 32 (54 + nLength) < 22 := by
    unfold wrap
    omega
  rw [maxLength_ofTypeLength]
  exact max_eq_left wrapped.le

variable {receiver next : Receiver} {heap : Memory} {nLength nAddrLen : Int} {lpAddr : Bool} {datagram : Datagram}

theorem recvBroadCastMsg_fits {chan : CVNChannel} (fits : Fits datagram nLength) :
    ∃ msg, chan.recvBroadCastMsg heap nLength (.datagram datagram.bytes datagram.sender) =
      some (some (msg, datagram.sender), chan) ∧ Carries datagram (msg, datagram.sender) := by
  have room := fits.capacity heap
  obtain ⟨stored, written, image⟩ : ∃ stored,
      (CVNNetMsg.ofTypeLength heap .request nLength).write 0 datagram.bytes = some stored ∧
      stored.data.load 0 datagram.bytes.length = datagram.bytes :=
    ⟨_, if_pos ⟨le_refl _, by rw [zero_add]; exact room⟩, Memory.load_store_self⟩
  have nonempty := fits.nonempty
  have within := fits.within
  have returns : chan.recvBroadCastMsg heap nLength (.datagram datagram.bytes datagram.sender) =
      some (some (stored.setWritePos datagram.bytes.length, datagram.sender), chan) := by
    simp only [CVNChannel.recvBroadCastMsg]
    rw [if_neg (by omega), written]
    rfl
  refine ⟨_, returns, ?_, fun header => (recvBroadCastMsg_bytes header returns).1, rfl⟩
  unfold CVNNetMsg.setWritePos
  split
  · exact image
  · exact image

theorem recvBroadCastMsg_misfit {chan after : CVNChannel} {msg : Option (CVNNetMsg × CString)}
    (misfit : ¬ Fits datagram nLength) (int : nLength < 2 ^ 31)
    (returns : chan.recvBroadCastMsg heap nLength (.datagram datagram.bytes datagram.sender) = some (msg, after)) :
    after.valid = false := by
  simp only [CVNChannel.recvBroadCastMsg] at returns
  split at returns
  · cases returns
    rfl
  · rename_i taken
    obtain ⟨nonempty, within⟩ := not_or.mp taken
    rw [not_lt] at within
    obtain ⟨stored, written, -⟩ := Option.map_eq_some_iff.mp returns
    obtain ⟨⟨-, room⟩, -⟩ := Option.ite_none_right_eq_some.mp written
    rw [zero_add] at room
    -- With a length that overflows, the message has room for a header only.
    refine absurd ⟨Nat.pos_of_ne_zero nonempty, within, ?_⟩ misfit
    simp only [defExtraMsgSpace, endOfHeader]
    by_contra large
    obtain ⟨large, longer⟩ := not_or.mp large
    rw [maxLength_overflow heap (by omega) int] at room
    omega

/-! ## Runs -/

/-- With the socket there, a call that is not refused takes the first datagram, if there is one. -/
theorem Kept.recv (kept : receiver.Kept) (accepts : Accepts nLength lpAddr nAddrLen)
    (fits : ∀ datagram ∈ receiver.pending.head?, Fits datagram nLength) :
    ∃ next, receiver.step (.recv heap nLength lpAddr nAddrLen) = some next ∧ next.Kept ∧
      next.pending = receiver.pending.tail := by
  obtain ⟨valid, front, all, carried⟩ := kept
  change ∃ next, receiver.vnRecvBroadCastMsg heap nLength lpAddr nAddrLen = some next ∧ _
  unfold vnRecvBroadCastMsg answer
  rw [if_pos accepts, valid, if_neg (by decide), if_neg (by decide)]
  cases pending : receiver.pending with
  | nil =>
    refine ⟨_, rfl, ⟨valid, front, ?_, ?_⟩, rfl⟩
    · rw [all, pending]
      rfl
    · change List.Forall₂ Carries front (receiver.returned ++ [])
      rw [List.append_nil]
      exact carried
  | cons datagram rest =>
    obtain ⟨msg, returns, carries⟩ := recvBroadCastMsg_fits (fits datagram (by rw [pending]; rfl))
    dsimp only
    rw [returns]
    refine ⟨_, rfl, ⟨valid, front ++ [datagram], ?_, ?_⟩, rfl⟩
    · rw [all, pending, List.append_assoc]
      rfl
    · exact List.rel_append carried (.cons carries .nil)

theorem kept_reached (reached : system.Reaches FitsNext receiver) : receiver.Kept := by
  apply reached.invariant Kept
  · rintro receiver rfl
    exact ⟨rfl, [], rfl, .nil⟩
  · intro receiver event next kept fits stepped
    cases event with
    | arrive datagram =>
      obtain ⟨valid, front, all, carried⟩ := kept
      cases stepped
      refine ⟨valid, front, ?_, carried⟩
      rw [all, List.append_assoc]
    | recv heap nLength lpAddr nAddrLen =>
      by_cases accepts : Accepts nLength lpAddr nAddrLen
      · obtain ⟨after, returns, keptAfter, -⟩ := kept.recv accepts (fits accepts)
        cases returns.symm.trans stepped
        exact keptAfter
      · cases (if_neg accepts).symm.trans stepped
        exact kept

theorem closed_stays (closed : receiver.chCast.valid = false) {event : CastEvent}
    (stepped : receiver.step event = some next) :
    next.chCast.valid = false ∧ next.returned = receiver.returned := by
  cases event with
  | arrive datagram =>
    cases stepped
    exact ⟨closed, rfl⟩
  | recv heap nLength lpAddr nAddrLen =>
    change receiver.vnRecvBroadCastMsg heap nLength lpAddr nAddrLen = some next at stepped
    unfold vnRecvBroadCastMsg answer at stepped
    rw [if_pos closed] at stepped
    split at stepped
    · cases stepped
      exact ⟨closed, List.append_nil _⟩
    · cases stepped
      exact ⟨closed, rfl⟩

/-- While every call has found a datagram that fits or none, the next call takes and returns the datagram that has
waited longest and keeps the socket, exactly if that datagram fits too, if there is one. -/
theorem recvBroadCastMsg_survives (reached : system.Reaches FitsNext receiver) (int : nLength < 2 ^ 31) :
    (∃ next, receiver.step (.recv heap nLength lpAddr nAddrLen) = some next ∧ next.Kept ∧
      (Accepts nLength lpAddr nAddrLen → next.pending = receiver.pending.tail)) ↔
    receiver.FitsNext (.recv heap nLength lpAddr nAddrLen) := by
  have kept := kept_reached reached
  by_cases accepts : Accepts nLength lpAddr nAddrLen
  · constructor
    · rintro ⟨next, stepped, keptNext, -⟩ - datagram first
      by_contra misfit
      obtain ⟨rest, pending⟩ : ∃ rest, receiver.pending = datagram :: rest :=
        ⟨_, (List.cons_head?_tail first).symm⟩
      change receiver.vnRecvBroadCastMsg heap nLength lpAddr nAddrLen = some next at stepped
      unfold vnRecvBroadCastMsg answer at stepped
      rw [if_pos accepts, kept.valid, if_neg (by decide), pending] at stepped
      obtain ⟨⟨msg, after⟩, returns, became⟩ := Option.map_eq_some_iff.mp stepped
      have closed := recvBroadCastMsg_misfit misfit int returns
      cases became
      exact absurd (closed.symm.trans keptNext.valid) (by decide)
    · intro fits
      obtain ⟨next, stepped, keptNext, taken⟩ := kept.recv accepts (fits accepts)
      exact ⟨next, stepped, keptNext, fun _ => taken⟩
  · refine iff_of_true ⟨receiver, if_neg accepts, kept, fun same => absurd same accepts⟩ fun same => ?_
    exact absurd same accepts

def small : Datagram := ⟨List.replicate 22 1, ⟨[49], by decide⟩⟩

theorem recvBroadCastMsg_survives_first :
    ∃ receiver next, system.Reaches FitsNext receiver ∧
      receiver.step (.recv (fun _ => 0) 1024 true 16) = some next ∧ next.Kept ∧ next.pending = [] := by
  -- The first datagram is received.
  have fresh : system.Reaches FitsNext bound := .start rfl
  have waits := fresh.next (show bound.FitsNext (.arrive small) from trivial) rfl
  obtain ⟨next, stepped, kept, taken⟩ :=
    (recvBroadCastMsg_survives waits (show (1024 : Int) < 2 ^ 31 by decide)).mpr fun _ datagram first => by
      cases first
      exact ⟨by decide, by decide, .inr (by decide)⟩
  exact ⟨_, next, waits, stepped, kept, taken (by decide)⟩

theorem recvBroadCastMsg_closes :
    ∃ receiver, system.Reaches System.Always receiver ∧ receiver.chCast.valid = false ∧
      receiver.pending = [small] ∧ receiver.returned = [] ∧
      receiver.step (.recv (fun _ => 0) 1024 true 16) = some receiver := by
  -- An empty datagram closes the socket. A good one that comes later waits, and calls change nothing.
  have fresh : system.Reaches System.Always bound := .start rfl
  exact ⟨_, fresh.follow
    [.arrive ⟨[], small.sender⟩, .recv (fun _ => 0) 1024 true 16, .arrive small] rfl, rfl, rfl, rfl, rfl⟩

end Receiver

end Foolject.VNClib
