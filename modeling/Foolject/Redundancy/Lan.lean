import Mathlib.Logic.Function.Basic
import Foolject.Lib.Transition
import Foolject.Redundancy.Negotiate

/-! A group of servers that negotiate over one broadcast network.

A broadcast is put into the inbox of every server whose port is bound, the
sender's own among them. In what order an inbox is read, and when a receive may
come back empty, is for a guard on the runs to say.
-/

set_option autoImplicit false

namespace Foolject

structure Server extends Redundancy, Negotiate where
  /-- `init` has bound the broadcast port. -/
  bound : Bool
  deriving DecidableEq

def Server.step (server : Server) (answer : Answer) : Server :=
  { server with
    toRedundancy := (server.toNegotiate.step answer server.toRedundancy).1
    toNegotiate := (server.toNegotiate.step answer server.toRedundancy).2 }

/-- A role broadcast under way. The candidate is not on the wire: it records whom the
sender was answering, if it was answering. -/
structure Datagram (ι : Type) where
  source : ι
  role : TRole
  candidate : Option IpAddress
  deriving DecidableEq

structure Lan (ι : Type) where
  server : ι → Server
  inbox : ι → List (Datagram ι)
  /-- All that was ever put into an inbox. No step reads it. -/
  heard : ι → List (Datagram ι)

inductive LanStep (ι : Type) where
  /-- `init` binds the port and starts the thread. -/
  | start (i : ι)
  /-- `uninit` tells the threads to quit. -/
  | quit (i : ι)
  /-- One step of a thread. At the receive, `pick` is the place of the datagram it gets. -/
  | run (i : ι) (pick : Option Nat) (connection : Int)
  deriving DecidableEq

namespace Lan
variable {ι : Type} [DecidableEq ι]

def sent (lan : Lan ι) (i : ι) : Option (Datagram ι) :=
  ((lan.server i).broadcast (lan.server i).toRedundancy).map fun role =>
    ⟨i, role, if (lan.server i).pc = .answerCandidate then some (lan.server i).remoteIp else none⟩

def delivered (lan : Lan ι) (i j : ι) : List (Datagram ι) :=
  if (lan.server j).bound then (lan.sent i).toList else []

def received (lan : Lan ι) (datagram : Datagram ι) : Received :=
  .datagram (lan.server datagram.source).ip (some (lan.server datagram.source).serverId)
    (some datagram.role.code)

def advance (lan : Lan ι) (i : ι) (answer : Answer) (left : List (Datagram ι)) : Lan ι where
  server := Function.update lan.server i ((lan.server i).step answer)
  inbox j := Function.update lan.inbox i left j ++ lan.delivered i j
  heard j := lan.heard j ++ lan.delivered i j

def apply (lan : Lan ι) : LanStep ι → Option (Lan ι)
  | .start i =>
    if (lan.server i).bound then none
    else some { lan with server := Function.update lan.server i { lan.server i with bound := true } }
  | .quit i =>
    if (lan.server i).bound then
      some { lan with
        server := Function.update lan.server i { lan.server i with quitInnerThread := true } }
    else none
  | .run i pick connection =>
    if (lan.server i).bound = false then none
    else if (lan.server i).pc ≠ .recvBroadCastMsg then
      some (lan.advance i ⟨.null, connection⟩ (lan.inbox i))
    else match pick with
      | none => some (lan.advance i ⟨.null, connection⟩ (lan.inbox i))
      | some k => (lan.inbox i)[k]?.map fun datagram =>
        lan.advance i ⟨lan.received datagram, connection⟩ ((lan.inbox i).eraseIdx k)

/-! ## What a step can do -/

/-- What a thread gets from its inbox for a step, and what stays in the inbox. -/
inductive Takes (lan : Lan ι) (i : ι) : Option Nat → Received → List (Datagram ι) → Prop where
  | nothing {pick : Option Nat} : ((lan.server i).pc = .recvBroadCastMsg → pick = none) →
      Takes lan i pick .null (lan.inbox i)
  | datagram {k : Nat} {datagram : Datagram ι} : (lan.server i).pc = .recvBroadCastMsg →
      (lan.inbox i)[k]? = some datagram →
      Takes lan i (some k) (lan.received datagram) ((lan.inbox i).eraseIdx k)

variable {lan next : Lan ι} {i j : ι}

theorem apply_start (applied : lan.apply (.start i) = some next) :
    (lan.server i).bound = false ∧ (next.server i).bound = true ∧
    next.inbox = lan.inbox ∧ next.heard = lan.heard ∧
    (∀ j, ∃ bound, next.server j = { lan.server j with bound := bound }) ∧
    ∀ j, j ≠ i → next.server j = lan.server j := by
  simp only [apply] at applied
  split at applied
  · cases applied
  · rename_i unbound
    cases applied
    refine ⟨by simpa using unbound, ?_, rfl, rfl, fun j => ?_, fun j other => ?_⟩
    · simp only [Function.update_self]
    · by_cases same : j = i
      · subst same
        exact ⟨true, Function.update_self _ _ _⟩
      · exact ⟨(lan.server j).bound, Function.update_of_ne same _ _⟩
    · exact Function.update_of_ne other _ _

theorem apply_run {pick : Option Nat} {connection : Int}
    (applied : lan.apply (.run i pick connection) = some next) :
    (lan.server i).bound = true ∧ ∃ received left, lan.Takes i pick received left ∧
      next = lan.advance i ⟨received, connection⟩ left := by
  simp only [apply] at applied
  split at applied
  · cases applied
  · rename_i bound
    refine ⟨by simpa using bound, ?_⟩
    split at applied
    · rename_i elsewhere
      cases applied
      exact ⟨_, _, .nothing fun here => absurd here elsewhere, rfl⟩
    · rename_i here
      have here : (lan.server i).pc = .recvBroadCastMsg := not_not.mp here
      cases pick with
      | none =>
        cases applied
        exact ⟨_, _, .nothing fun _ => rfl, rfl⟩
      | some k =>
        obtain ⟨datagram, found, rfl⟩ := Option.map_eq_some_iff.mp applied
        exact ⟨_, _, .datagram here found, rfl⟩

omit [DecidableEq ι] in
theorem Takes.mem {pick : Option Nat} {received : Received} {left : List (Datagram ι)}
    (takes : lan.Takes i pick received left) : ∀ datagram ∈ left, datagram ∈ lan.inbox i := by
  cases takes with
  | nothing => exact fun _ member => member
  | datagram _ _ => exact fun _ member => List.mem_of_mem_eraseIdx member

omit [DecidableEq ι] in
theorem mem_delivered {datagram : Datagram ι} (member : datagram ∈ lan.delivered i j) :
    (lan.server j).bound = true ∧ (lan.server i).Broadcasts ∧
    datagram = ⟨i, (lan.server i).iAm,
      if (lan.server i).pc = .answerCandidate then some (lan.server i).remoteIp else none⟩ := by
  unfold delivered at member
  split at member
  · rename_i bound
    rw [Option.mem_toList] at member
    obtain ⟨role, broadcast, rfl⟩ := Option.map_eq_some_iff.mp member
    obtain ⟨broadcasts, role⟩ := Option.ite_none_right_eq_some.mp broadcast
    cases role
    exact ⟨bound, broadcasts, rfl⟩
  · cases member

variable (answer : Answer) (left : List (Datagram ι))

theorem advance_server_forall (property : ι → Server → Prop)
    (self : property i ((lan.server i).step answer))
    (others : ∀ j, j ≠ i → property j (lan.server j)) (j : ι) :
    property j ((lan.advance i answer left).server j) := by
  by_cases same : j = i
  · subst same
    simpa only [advance, Function.update_self] using self
  · simpa only [advance, Function.update_of_ne same] using others j same

theorem mem_advance_inbox {pick : Option Nat} {received : Received} {left : List (Datagram ι)}
    (takes : lan.Takes i pick received left) {datagram : Datagram ι}
    (member : datagram ∈ (lan.advance i answer left).inbox j) :
    datagram ∈ lan.inbox j ∨ datagram ∈ lan.delivered i j := by
  simp only [advance, List.mem_append] at member
  refine member.imp_left fun old => ?_
  by_cases same : j = i
  · subst same
    rw [Function.update_self] at old
    exact takes.mem datagram old
  · rwa [Function.update_of_ne same] at old

@[simp] theorem advance_server_self :
    (lan.advance i answer left).server i = (lan.server i).step answer :=
  Function.update_self _ _ _

theorem advance_server_other (other : j ≠ i) :
    (lan.advance i answer left).server j = lan.server j :=
  Function.update_of_ne other _ _

@[simp] theorem advance_inbox_self :
    (lan.advance i answer left).inbox i = left ++ lan.delivered i i := by
  simp [advance]

theorem advance_inbox_other (other : j ≠ i) :
    (lan.advance i answer left).inbox j = lan.inbox j ++ lan.delivered i j := by
  simp [advance, other]

@[simp] theorem advance_heard :
    (lan.advance i answer left).heard j = lan.heard j ++ lan.delivered i j := rfl

end Lan

end Foolject
