import Foolject.Lib.InetAddr
import Foolject.VNClib.Delivery

/-! The datagrams that `VNSendUDPMsg` and `VNSendBroadCastMsg` send, and the address of a broadcast.

Both calls use a channel of their own. The loop of `SendBroadCastMsgCore` counts like the one for a
connection, from -1 on, and ends with the same codes; the calls look for -1 only.
-/

set_option autoImplicit false

namespace Foolject.VNClib
open Mask

/-! ## The mask -/

/-- The loop over the bits that are left. The int `nMask` wraps on its last doublings. -/
def maskLoop (lMask : BitVec 32) : Nat → Nat → BitVec 32 → Bool → Bool
  | 0, _, _, _ => true
  | left + 1, i, nMask, bZero =>
    -- The source assigns each comparison to `nRs`, and tests what was assigned.
    if i = 0 then
      if lMask &&& nMask = 1 then false else maskLoop lMask left (i + 1) (nMask * 2) true
    else if lMask &&& nMask = 0 then
      if bZero ≠ true then false else maskLoop lMask left (i + 1) (nMask * 2) bZero
    else maskLoop lMask left (i + 1) (nMask * 2) false

/-- The text of the address that `VNSendBroadCastMsg` goes on to send to, if it does. Null arguments
are absent. -/
def castAddr (inetAddr : CString → InAddr) (inetNtoa : InAddr → CString) (host mask : Option CString) (port : Int) :
    Option CString :=
  match host, mask with
  | some host, some mask =>
    let hostaddr := inetAddr host
    if hostaddr = InAddr.none then none
    else
      let maskaddr := inetAddr mask
      if maskaddr = InAddr.none then none
      else if maskaddr.b4 = 255 then none
      else
        let lMask := maskaddr.ntohl
        if maskLoop lMask 32 0 1 false = false then none
        else if port < 0 then none
        else
          let lHost := hostaddr.ntohl
          -- An addition of words. It does not carry, as is proved below.
          let lCast := ~~~lMask + (lMask &&& lHost)
          some (inetNtoa (.htonl lCast))
  | _, _ => none

/-! ## Sending -/

/-- A call that is refused returns FALSE. Else it has an address to send to, and returns, if it does, what it
tells and the bytes that `sendto` has accepted. -/
inductive Cast where
  | refused
  | blocked (addrCast : InAddr)
  | returned (addrCast : InAddr) (sent : Bool) (accepted : List UInt8)

/-- `SendUDPMsg` and `SendBroadCastMsg` on a new channel; `created` tells whether `socket` gives one. -/
def sendDatagram (created : Bool) (msg : CVNNetMsg) (answers : List SendAnswer) : SendMsg :=
  if created = false then .returned (-1) ⟨false, [], []⟩ answers
  else
    match sendLoop answers (-1) [] msg.getBuffer with
    | .blocked => .blocked
    | .ends rc accepted left => .returned rc ⟨decide (0 ≤ rc), [], accepted⟩ left

def sendTo (inetAddr : CString → InAddr) (lpCastAddr : CString) (msg : CVNNetMsg) (created : Bool)
    (answers : List SendAnswer) : Cast :=
  match sendDatagram created msg answers with
  | .blocked => .blocked (inetAddr lpCastAddr)
  -- Of the codes for a failure only that of the timeout is -1.
  | .returned rc chan _ => .returned (inetAddr lpCastAddr) (decide (rc ≠ -1)) chan.written

def vnSendUDPMsg (inetAddr : CString → InAddr) (host : Option CString) (msg : CVNNetMsg) (port : Int)
    (created : Bool) (answers : List SendAnswer) : Cast :=
  match host with
  | none => .refused
  | some host => if port < 0 then .refused else sendTo inetAddr host msg created answers

def vnSendBroadCastMsg (inetAddr : CString → InAddr) (inetNtoa : InAddr → CString) (host mask : Option CString)
    (msg : CVNNetMsg) (port : Int) (created : Bool) (answers : List SendAnswer) : Cast :=
  match castAddr inetAddr inetNtoa host mask port with
  | none => .refused
  | some lpCastAddr => sendTo inetAddr lpCastAddr msg created answers

/-! ## What success says -/

def Cast.Truthful (msg : CVNNetMsg) : Cast → Prop
  | .returned _ sent accepted => sent = true → accepted = msg.getBuffer
  | _ => True

def failsBefore : List SendAnswer → List UInt8 → Bool
  | _, [] => false
  | [], _ :: _ => false
  | answer :: answers, next :: left =>
    match answer with
    | .selectError => true
    | .timeout => false
    | .sendError => true
    | .sent count => failsBefore answers ((next :: left).drop (min count (next :: left).length))

theorem failsBefore_nil (answers : List SendAnswer) : failsBefore answers [] = false := by
  cases answers with
  | nil => rfl
  | cons => rfl

theorem sendLoop_failsBefore {answers left : List SendAnswer} {rc rc' : Int} {accepted accepted' rest : List UInt8}
    (ends : sendLoop answers rc accepted rest = .ends rc' accepted' left) :
    if failsBefore answers rest = true then rc' = RSINFO.failed.code
    else rc' = RSINFO.timeout.code ∨ accepted' = accepted ++ rest := by
  fun_induction sendLoop answers rc accepted rest with
  | case1 =>
    cases ends
    rw [failsBefore_nil, if_neg Bool.false_ne_true]
    exact .inr (List.append_nil _).symm
  | case2 => cases ends
  | case3 | case5 =>
    cases ends
    rfl
  | case4 =>
    cases ends
    exact .inl rfl
  | case6 answers rc accepted next rest offered count ih =>
    have told := ih ends
    rw [List.append_assoc, List.take_append_drop] at told
    exact told

theorem sendLoop_blocked_failsBefore {answers : List SendAnswer} {rc : Int} {accepted rest : List UInt8}
    (blocked : sendLoop answers rc accepted rest = .blocked) : failsBefore answers rest = false := by
  fun_induction sendLoop answers rc accepted rest with
  | case1 => cases blocked
  | case2 => rfl
  | case3 | case4 | case5 => cases blocked
  | case6 answers rc accepted next rest offered count ih => exact ih blocked

theorem sendTo_truthful (inetAddr : CString → InAddr) (lpCastAddr : CString) (msg : CVNNetMsg) (created : Bool)
    (answers : List SendAnswer) : (sendTo inetAddr lpCastAddr msg created answers).Truthful msg ↔
      created = false ∨ failsBefore answers msg.getBuffer = false := by
  unfold sendTo sendDatagram
  cases created with
  | false => exact iff_of_true nofun (.inl rfl)
  | true =>
    rw [if_neg (by decide), or_iff_right (by decide)]
    cases core : sendLoop answers (-1) [] msg.getBuffer with
    | blocked => exact iff_of_true trivial (sendLoop_blocked_failsBefore core)
    | ends rc accepted left =>
      have told := sendLoop_failsBefore core
      change (decide (rc ≠ -1) = true → accepted = msg.getBuffer) ↔ _
      cases fails : failsBefore answers msg.getBuffer with
      | true =>
        rw [fails, if_pos rfl] at told
        subst told
        refine iff_of_false (fun truthful => ?_) (by decide)
        -- A failed loop has not handed over everything.
        rcases sendLoop_ends core with ⟨-, total⟩ | ⟨-, part⟩
        · simp only [RSINFO.code] at total
          omega
        · rw [truthful (by decide), List.length_nil, Nat.zero_add] at part
          exact Nat.lt_irrefl _ part
      | false =>
        rw [fails, if_neg Bool.false_ne_true] at told
        refine iff_of_true (fun sent => ?_) rfl
        rcases told with timeout | all
        · exact absurd timeout (of_decide_eq_true sent)
        · exact all

/-- What the two calls tell of a message is true exactly if they refuse it or get no socket, or if no select and no
`sendto` fails before the whole message is accepted. -/
theorem cast_truthful (inetAddr : CString → InAddr) (inetNtoa : InAddr → CString) (host mask : Option CString)
    (msg : CVNNetMsg) (port : Int) (created : Bool) (answers : List SendAnswer) :
    ((vnSendUDPMsg inetAddr host msg port created answers).Truthful msg ↔
      host = none ∨ port < 0 ∨ created = false ∨ failsBefore answers msg.getBuffer = false) ∧
    ((vnSendBroadCastMsg inetAddr inetNtoa host mask msg port created answers).Truthful msg ↔
      castAddr inetAddr inetNtoa host mask port = none ∨ created = false ∨
        failsBefore answers msg.getBuffer = false) := by
  constructor
  · unfold vnSendUDPMsg
    cases host with
    | none => exact iff_of_true trivial (.inl rfl)
    | some host =>
      rw [or_iff_right (Option.some_ne_none host)]
      dsimp only
      split
      · rename_i negative
        exact iff_of_true trivial (.inl negative)
      · rename_i positive
        rw [or_iff_right positive]
        exact sendTo_truthful inetAddr host msg created answers
  · unfold vnSendBroadCastMsg
    cases castAddr inetAddr inetNtoa host mask port with
    | none => exact iff_of_true trivial (.inl rfl)
    | some lpCastAddr =>
      rw [or_iff_right (Option.some_ne_none lpCastAddr)]
      exact sendTo_truthful inetAddr lpCastAddr msg created answers

theorem cast_lies :
    vnSendUDPMsg InAddr.ofText (some (InAddr.text ⟨10, 0, 0, 5⟩)) (.ofType (fun _ => 0) .request) 80 true
      [.sendError] = .returned ⟨10, 0, 0, 5⟩ true [] ∧
    vnSendBroadCastMsg InAddr.ofText InAddr.text (some (InAddr.text ⟨10, 0, 0, 5⟩))
      (some (InAddr.text ⟨255, 255, 255, 0⟩)) (.ofType (fun _ => 0) .request) 80 true [.sendError] =
      .returned ⟨10, 0, 0, 255⟩ true [] ∧
    (CVNNetMsg.ofType (fun _ => 0) .request).getBuffer.length = 22 :=
  -- The first `sendto` fails, and both calls return TRUE.
  ⟨rfl, rfl, rfl⟩

/-! ## The address of a broadcast -/

def Cast.destination : Cast → Option InAddr
  | .refused => none
  | .blocked addrCast => some addrCast
  | .returned addrCast _ _ => some addrCast

theorem sendTo_destination (inetAddr : CString → InAddr) (lpCastAddr : CString) (msg : CVNNetMsg) (created : Bool)
    (answers : List SendAnswer) :
    (sendTo inetAddr lpCastAddr msg created answers).destination = some (inetAddr lpCastAddr) := by
  unfold sendTo
  cases sendDatagram created msg answers with
  | blocked => rfl
  | returned => rfl

theorem vnSendBroadCastMsg_destination (inetAddr : CString → InAddr) (inetNtoa : InAddr → CString)
    (host mask : Option CString) (msg : CVNNetMsg) (port : Int) (created : Bool) (answers : List SendAnswer) :
    (vnSendBroadCastMsg inetAddr inetNtoa host mask msg port created answers).destination =
      (castAddr inetAddr inetNtoa host mask port).map inetAddr := by
  unfold vnSendBroadCastMsg
  cases castAddr inetAddr inetNtoa host mask port with
  | none => rfl
  | some lpCastAddr => exact sendTo_destination inetAddr lpCastAddr msg created answers

section Loop
variable {lMask : BitVec 32} {left i : Nat}

theorem twoPow_double (i : Nat) : BitVec.twoPow 32 i * 2 = BitVec.twoPow 32 (i + 1) := by
  rw [← BitVec.twoPow_mul_twoPow_eq]
  rfl

theorem maskLoop_ones (behind : 0 < i) (total : i + left = 32) :
    maskLoop lMask left i (BitVec.twoPow 32 i) false = true ↔ ∀ j, i ≤ j → j < 32 → lMask.getLsbD j = true := by
  -- Behind a one the loop takes ones only.
  induction left generalizing i with
  | zero => exact iff_of_true rfl fun j low high => by omega
  | succ left ih =>
    rw [maskLoop, if_neg behind.ne', twoPow_double]
    have inside : i < 32 := by omega
    have rest := @ih (i + 1) (Nat.succ_pos i) (by omega)
    by_cases zero : lMask &&& BitVec.twoPow 32 i = 0
    · rw [if_pos zero, if_pos Bool.false_ne_true]
      refine iff_of_false Bool.false_ne_true fun ones => ?_
      exact absurd ((and_twoPow_eq_zero inside).mp zero) (by rw [ones i (le_refl i) inside]; decide)
    · rw [if_neg zero, rest]
      have one : lMask.getLsbD i = true := Bool.not_eq_false _ ▸ (and_twoPow_eq_zero inside).not.mp zero
      constructor
      · intro ones j low high
        rcases low.eq_or_lt with rfl | above
        · exact one
        · exact ones j above high
      · exact fun ones j low high => ones j (Nat.le_of_succ_le low) high

theorem maskLoop_zeros (behind : 0 < i) (total : i + left = 32) :
    maskLoop lMask left i (BitVec.twoPow 32 i) true = true ↔
      ∃ k, i ≤ k ∧ k ≤ 32 ∧ ∀ j, i ≤ j → j < 32 → lMask.getLsbD j = decide (k ≤ j) := by
  -- While there have been zeros only, the ones may begin at any bit, or nowhere.
  induction left generalizing i with
  | zero => exact iff_of_true rfl ⟨32, by omega, le_refl _, fun j low high => by omega⟩
  | succ left ih =>
    rw [maskLoop, if_neg behind.ne', twoPow_double]
    have inside : i < 32 := by omega
    by_cases zero : lMask &&& BitVec.twoPow 32 i = 0
    · -- One more zero: the ones begin at a later bit.
      rw [if_pos zero, if_neg (by decide), ih (Nat.succ_pos i) (by omega)]
      have bit := (and_twoPow_eq_zero inside).mp zero
      constructor
      · rintro ⟨k, low, high, bits⟩
        refine ⟨k, Nat.le_of_succ_le low, high, fun j above below => ?_⟩
        rcases above.eq_or_lt with rfl | later
        · rw [bit, eq_comm]
          exact decide_eq_false (by omega)
        · exact bits j later below
      · rintro ⟨k, low, high, bits⟩
        refine ⟨k, ?_, high, fun j above below => bits j (Nat.le_of_succ_le above) below⟩
        -- The ones do not begin at a zero.
        have unset := (bits i (le_refl i) inside).symm.trans bit
        have strict := of_decide_eq_false unset
        omega
    · -- The first one: from here on there are ones only.
      rw [if_neg zero, maskLoop_ones (Nat.succ_pos i) (by omega)]
      have one : lMask.getLsbD i = true := Bool.not_eq_false _ ▸ (and_twoPow_eq_zero inside).not.mp zero
      constructor
      · intro ones
        refine ⟨i, le_refl i, inside.le, fun j low high => ?_⟩
        rw [decide_eq_true low]
        rcases low.eq_or_lt with rfl | above
        · exact one
        · exact ones j above high
      · rintro ⟨k, low, high, bits⟩ j above below
        have begins := of_decide_eq_true ((bits i (le_refl i) inside).symm.trans one)
        rw [bits j (Nat.le_of_succ_le above) below]
        exact decide_eq_true (by omega)

theorem maskLoop_iff : maskLoop lMask 32 0 1 false = true ↔ ∃ k, 1 ≤ k ∧ k ≤ 32 ∧ lMask = onesFrom 32 k := by
  have first : (1 : BitVec 32) = BitVec.twoPow 32 0 := rfl
  rw [maskLoop, if_pos rfl, first, twoPow_double]
  by_cases one : lMask &&& BitVec.twoPow 32 0 = BitVec.twoPow 32 0
  · rw [if_pos one]
    refine iff_of_false Bool.false_ne_true ?_
    rintro ⟨k, low, -, rfl⟩
    have bit : (onesFrom 32 k).getLsbD 0 = false := (getLsbD_onesFrom (by decide)).trans (decide_eq_false (by omega))
    rw [(and_twoPow_eq_zero (by decide)).mpr bit] at one
    exact absurd one (by decide)
  · have bit : lMask.getLsbD 0 = false := by
      rw [BitVec.and_twoPow] at one
      by_contra set
      rw [if_pos (Bool.not_eq_false _ ▸ set)] at one
      exact one rfl
    rw [if_neg one, maskLoop_zeros (by decide) rfl]
    constructor
    · rintro ⟨k, low, high, bits⟩
      refine ⟨k, low, high, eq_onesFrom_iff.mpr fun j inside => ?_⟩
      cases j with
      | zero => exact bit.trans (decide_eq_false (by omega)).symm
      | succ j => exact bits (j + 1) (Nat.succ_pos j) inside
    · rintro ⟨k, low, high, ones⟩
      exact ⟨k, low, high, fun j _ inside => eq_onesFrom_iff.mp ones j inside⟩

end Loop

theorem maskLoop_b4 {m : BitVec 32} (last : (InAddr.htonl m).b4 = 255) : maskLoop m 32 0 1 false = false := by
  -- A mask whose last byte is 255 would not get through the loop either.
  rw [← Bool.not_eq_true, maskLoop_iff]
  rintro ⟨k, low, -, rfl⟩
  have unset : (onesFrom 32 k).getLsbD 0 = false := (getLsbD_onesFrom (by decide)).trans (decide_eq_false (by omega))
  have same : (InAddr.htonl (onesFrom 32 k)).b4.getLsbD 0 = (onesFrom 32 k).getLsbD 0 := by
    unfold InAddr.htonl
    dsimp only
    rw [BitVec.getLsbD_extractLsb']
    rfl
  rw [last, unset] at same
  exact absurd same (by decide)

/-- With arguments that are addresses and a port, the call goes on exactly if the mask is one of contiguous ones
with a zero behind them, and then to the last address of the net. The sum is one bit by bit. -/
theorem broadCast_destination {inetAddr : CString → InAddr} {inetNtoa : InAddr → CString} {host mask : CString}
    {h m : BitVec 32} {port : Int} (readBack : ∀ addr, inetAddr (inetNtoa addr) = addr)
    (hostaddr : inetAddr host = .htonl h) (maskaddr : inetAddr mask = .htonl m) (hostKnown : h ≠ BitVec.allOnes 32)
    (maskKnown : m ≠ BitVec.allOnes 32) (positive : 0 ≤ port) (msg : CVNNetMsg) (created : Bool)
    (answers : List SendAnswer) :
    (∀ destination, (vnSendBroadCastMsg inetAddr inetNtoa (some host) (some mask) msg port created
        answers).destination = some destination ↔
      (∃ k, 1 ≤ k ∧ k ≤ 32 ∧ m.toNat = 2 ^ 32 - 2 ^ k) ∧ destination = .htonl ((h &&& m) ||| ~~~m)) ∧
    ∀ i, BitVec.carry i (~~~m) (m &&& h) false = false := by
  refine ⟨fun destination => ?_, fun i => BitVec.carry_of_and_eq_zero not_and_and⟩
  have numbers : (∃ k, 1 ≤ k ∧ k ≤ 32 ∧ m.toNat = 2 ^ 32 - 2 ^ k) ↔ maskLoop m 32 0 1 false = true := by
    rw [maskLoop_iff]
    apply exists_congr
    intro k
    refine and_congr_right fun _ => and_congr_right fun within => ?_
    exact (eq_onesFrom_iff_toNat within).symm
  rw [vnSendBroadCastMsg_destination, numbers]
  unfold castAddr
  dsimp only
  rw [hostaddr, maskaddr, if_neg (InAddr.htonl_eq_none.not.mpr hostKnown),
    if_neg (InAddr.htonl_eq_none.not.mpr maskKnown), InAddr.ntohl_htonl, InAddr.ntohl_htonl, not_add_and]
  cases loop : maskLoop m 32 0 1 false with
  | false =>
    refine iff_of_false (fun sends => ?_) fun both => Bool.false_ne_true both.1
    rw [if_pos rfl] at sends
    split at sends
    · cases sends
    · cases sends
  | true =>
    have last : ¬ (InAddr.htonl m).b4 = 255 := by
      intro last
      exact absurd ((maskLoop_b4 last).symm.trans loop) (by decide)
    rw [if_neg last, if_neg (by decide), if_neg (not_lt.mpr positive), Option.map_some, readBack, Option.some_inj,
      eq_comm]
    exact (and_iff_right rfl).symm

theorem broadCast_destination_net : (∀ destination,
      (vnSendBroadCastMsg InAddr.ofText InAddr.text (some (InAddr.htonl 0xC0A80117).text)
        (some (InAddr.htonl 0xFFFFFF00).text) (.ofType (fun _ => 0) .request) 80 true []).destination =
        some destination ↔
      (∃ k, 1 ≤ k ∧ k ≤ 32 ∧ (0xFFFFFF00 : BitVec 32).toNat = 2 ^ 32 - 2 ^ k) ∧
        destination = .htonl ((0xC0A80117 &&& 0xFFFFFF00) ||| ~~~0xFFFFFF00)) ∧
    ∀ i, BitVec.carry i (~~~0xFFFFFF00#32) (0xFFFFFF00 &&& 0xC0A80117) false = false :=
  -- A host in a net of 24 bits, with the texts that the conversions give.
  broadCast_destination InAddr.ofText_text (InAddr.ofText_text _) (InAddr.ofText_text _) (by decide) (by decide)
    (by decide) _ _ _

end Foolject.VNClib
