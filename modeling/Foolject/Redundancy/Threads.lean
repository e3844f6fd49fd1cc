import Foolject.Lib.Transition
import Foolject.Redundancy.Heartbeat

/-! The two threads of one server, in any interleaving.

What `negotiate` receives is arbitrary. Next to the state of the program stands what
has happened so far, for the properties of runs to speak of; no step reads it.
-/

set_option autoImplicit false

namespace Foolject
open VNClib

inductive Purpose where
  | heartbeat
  | fence
  deriving DecidableEq

structure Threads where
  rddcp : Redundancy
  negotiate : Negotiate
  heartbeat : Heartbeat
  /-- The timeouts since the last pairing, or the last heartbeat of the mate if that came later. -/
  missed : Nat
  /-- The messages passed to `VNSendMsg`. -/
  sent : List (Purpose × CVNNetMsg)
  /-- `negotiate` has executed `set_my_role(ACTIVE_QUIT_ER)`. -/
  announced : Bool

inductive ThreadStep where
  | negotiate (answer : Answer)
  | heartbeat (received : HeartbeatReceived)
  /-- `uninit` tells the threads to quit. -/
  | quit

namespace Heartbeat

/-- The message that the next step passes to `VNSendMsg`, which stores there the two queue
ids that it has from the start. -/
def sends (thread : Heartbeat) : List (Purpose × CVNNetMsg) :=
  match thread.pc with
  | .sendHeartbeat => [(.heartbeat, thread.sndMsg)]
  | .sendPassiveQuit => [(.fence, thread.sndMsg)]
  | _ => []

def Resets (rddcp : Redundancy) (thread : Heartbeat) : Prop :=
  thread.pc = .compareMate ∧ thread.fromMate rddcp ∧ thread.tells Foolject.heartbeatString

def Misses (thread : Heartbeat) : HeartbeatReceived → Prop
  | .timeout => thread.pc = .vnRecvMsg
  | _ => False

instance (rddcp : Redundancy) (thread : Heartbeat) : Decidable (thread.Resets rddcp) :=
  inferInstanceAs (Decidable (_ ∧ _))

instance (thread : Heartbeat) : DecidablePred thread.Misses
  | .timeout => inferInstanceAs (Decidable (_ = _))
  | .failed => .isFalse id
  | .message _ _ => .isFalse id

end Heartbeat

namespace Negotiate

def Pairs (thread : Negotiate) : Prop := thread.pc = .becomePrimary ∨ thread.pc = .becomeBackup

instance (thread : Negotiate) : Decidable thread.Pairs := inferInstanceAs (Decidable (_ ∨ _))

end Negotiate

namespace Threads

def start (fresh : Memory) (rddcp : Redundancy) : Threads :=
  ⟨rddcp, .start, .start fresh, 0, [], false⟩

def apply (heap : Memory) (threads : Threads) : ThreadStep → Option Threads
  | .negotiate answer => some { threads with
      rddcp := (threads.negotiate.step answer threads.rddcp).1
      negotiate := (threads.negotiate.step answer threads.rddcp).2
      missed := if threads.negotiate.Pairs then 0 else threads.missed
      announced := threads.announced || decide (threads.negotiate.pc = .setActiveQuitEr) }
  | .heartbeat received =>
    (threads.heartbeat.step heap received threads.rddcp).map fun after => { threads with
      rddcp := after.1
      heartbeat := after.2
      missed := if threads.heartbeat.Resets threads.rddcp then 0
        else if threads.heartbeat.Misses received then threads.missed + 1 else threads.missed
      sent := threads.sent ++ threads.heartbeat.sends }
  | .quit => some { threads with rddcp := { threads.rddcp with quitInnerThread := true } }

def system (fresh heap : Memory) (ip : IpAddress) : System Threads ThreadStep :=
  .ofStep (fun threads => ∃ rddcp, rddcp.ip = ip ∧ rddcp.iAm = .whoAmI ∧ threads = start fresh rddcp)
    (apply heap)

/-! ## Runs of a server that has just been started -/

def newServer : Redundancy := ⟨1, threeAddresses 1, .whoAmI, .empty, -1, [], false, false⟩

def newThreads : Threads := start (fun _ => 0) newServer

theorem newThreads_fresh {heap : Memory} :
    (system (fun _ => 0) heap (threeAddresses 1)).init newThreads :=
  ⟨newServer, rfl, rfl, rfl⟩

def negotiates (count : Nat) (from_ : Fin 3) (role : TRole) : List ThreadStep :=
  List.replicate count (.negotiate ⟨.datagram (threeAddresses from_) (some 1) (some role.code), 1⟩)

def becomesBackup : List ThreadStep := negotiates 9 2 .primaryWithoutBackup

def changesMate : List ThreadStep := negotiates 7 2 .activeQuitEr ++ negotiates 8 0 .whoAmI

def misses (count : Nat) : List ThreadStep := List.replicate (5 * count) (.heartbeat .timeout)

end Threads

end Foolject
