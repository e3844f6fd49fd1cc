import Foolject.Lib.CString

/-! The object that the threads of `fool_redundancy.cpp` share. -/

set_option autoImplicit false

namespace Foolject

inductive TRole where
  | whoAmI
  | activeQuitEr
  | primaryWithoutBackup
  | primaryWithBackup
  | backupWithPrimary
  deriving DecidableEq, Repr

namespace TRole

def code : TRole → Int
  | whoAmI => 0
  | activeQuitEr => 1
  | primaryWithoutBackup => 2
  | primaryWithBackup => 3
  | backupWithPrimary => 4

/-- The enumerator with a given value. A variable of the type holds any int. -/
def ofCode (value : Int) : Option TRole :=
  if value = 0 then some whoAmI
  else if value = 1 then some activeQuitEr
  else if value = 2 then some primaryWithoutBackup
  else if value = 3 then some primaryWithBackup
  else if value = 4 then some backupWithPrimary
  else none

@[simp] theorem ofCode_code (role : TRole) : ofCode role.code = some role := by
  cases role <;> rfl

theorem code_of_ofCode {value : Int} {role : TRole} (known : ofCode value = some role) : role.code = value := by
  unfold ofCode at known
  split_ifs at known with zero one two three four
  all_goals
    cases known
    exact Eq.symm (by assumption)

def Primary (role : TRole) : Prop := role = primaryWithoutBackup ∨ role = primaryWithBackup

def Paired (role : TRole) : Prop := role = primaryWithBackup ∨ role = backupWithPrimary

instance (role : TRole) : Decidable role.Primary := inferInstanceAs (Decidable (_ ∨ _))
instance (role : TRole) : Decidable role.Paired := inferInstanceAs (Decidable (_ ∨ _))

end TRole

@[simp] def negotiateMaxCount : Nat := 15
@[simp] def maxHeartbeatErrorCount : Nat := 3

def heartbeatString : CString := ⟨[80, 73, 78, 71], by decide⟩
def passiveQuitString : CString := ⟨[81, 85, 73, 84], by decide⟩

/-- A dotted address, or the empty string, in an array of sixteen. -/
structure IpAddress where
  text : CString
  dotted : ∀ c ∈ text.bytes, c = 46 ∨ 48 ≤ c ∧ c ≤ 57
  short : text.bytes.length ≤ 15
  deriving DecidableEq

namespace IpAddress

def empty : IpAddress := ⟨.empty, by simp [CString.empty], by simp [CString.empty]⟩

def stricmp (a b : IpAddress) : Int := Foolject.stricmp a.text.bytes b.text.bytes

theorem lower_dotted (a : IpAddress) : a.text.bytes.map lower = a.text.bytes := by
  have fixed : ∀ c ∈ a.text.bytes, lower c = c := by
    intro c member
    have range := a.dotted c member
    simp only [lower]
    split
    · rename_i letter
      rw [← UInt8.toNat_inj, UInt8.le_iff_toNat_le, UInt8.le_iff_toNat_le] at range
      rw [UInt8.le_iff_toNat_le] at letter
      simp at range letter
      omega
    · rfl
  rw [List.map_congr_left fixed, List.map_id']

@[simp] theorem stricmp_eq_zero {a b : IpAddress} : a.stricmp b = 0 ↔ a = b := by
  rw [stricmp, Foolject.stricmp_eq_zero, lower_dotted, lower_dotted]
  constructor
  · intro same
    cases a with | mk a _ _ =>
      cases b with | mk b _ _ =>
        cases a with | mk a _ =>
          cases b with | mk b _ =>
            cases same
            rfl
  · rintro rfl
    rfl

theorem stricmp_swap (a b : IpAddress) : b.stricmp a = -a.stricmp b :=
  Foolject.stricmp_swap _ _

end IpAddress

@[instance] theorem three_neZero : @NeZero Nat Zero.ofOfNat0 3 := ⟨by decide⟩

def threeAddresses (i : Fin 3) : IpAddress where
  text := ⟨[49, 48, 46, 48, 46, 48, 46, 49 + UInt8.ofNat i.val], by revert i; decide⟩
  dotted := by
    have all : ∀ i : Fin 3, ([49, 48, 46, 48, 46, 48, 46, 49 + UInt8.ofNat i.val] : List UInt8).all
        (fun c => c = 46 ∨ 48 ≤ c ∧ c ≤ 57) = true := by decide
    exact fun c member => of_decide_eq_true (List.all_eq_true.mp (all i) c member)
  short := by simp

/-- The members of the class that the threads use, but for the sockets and the callback. -/
structure Redundancy where
  serverId : Int
  ip : IpAddress
  iAm : TRole
  mateIp : IpAddress
  connectionId : Int
  /-- The ids of the channels that `VNConnect` opened and `VNDisconnect` has not closed. -/
  sendChannels : List Int
  quitInnerThread : Bool
  reportQuit : Bool
  deriving DecidableEq

namespace Redundancy

def getMyRole (rddcp : Redundancy) : TRole := rddcp.iAm

def setMyRole (rddcp : Redundancy) (newRole : TRole) : Redundancy := { rddcp with iAm := newRole }

/-- The result of `VNConnect` is kept whatever it is; `-1` stands for no connection. -/
def vnConnect (rddcp : Redundancy) (id : Int) : Redundancy :=
  { rddcp with
    connectionId := id
    sendChannels := if id = -1 then rddcp.sendChannels else rddcp.sendChannels.insert id }

def vnDisconnect (rddcp : Redundancy) : Redundancy := { rddcp with sendChannels := [] }

end Redundancy

end Foolject
