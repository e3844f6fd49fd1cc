import Mathlib.Data.Fintype.Basic
import Foolject.Redundancy.Regular

/-! Who is whose mate, in a group of any size.

A primary answers one candidate, but the answer is a broadcast that every waiting
server acts on, and it is sent before the primary has changed its own role and
mate. The pairs are one to one in the runs in which an answer is only taken by
the candidate it was meant for, and not used before the primary has noted it, and
no two new backups still hold the same old mate.
-/

set_option autoImplicit false

namespace Foolject

namespace Server
variable {server : Server} {answer : Answer} {candidate : IpAddress}

/-- The mate's address has not been assigned. -/
def Unpaired (server : Server) : Prop := ¬ server.iAm.Paired ∨ server.pc = .copyMateIp

def Adopting (server : Server) : Prop := server.pc = .copyMateIp ∧ server.iAm = .backupWithPrimary

instance (server : Server) : Decidable server.Adopting := inferInstanceAs (Decidable (_ ∧ _))

/-- The server has broadcast its answer to the candidate, and has it as its mate or is
about to. -/
def Answered (server : Server) (candidate : IpAddress) : Prop :=
  (server.pc = .becomePrimary ∨ server.pc = .copyMateIp ∧ server.iAm = .primaryWithBackup) ∧
    server.remoteIp = candidate ∨
  ¬ server.Unpaired ∧ server.mateIp = candidate

theorem step_recv (answer : Answer) (here : server.pc = .recvBroadCastMsg) :
    (server.step answer).toRedundancy = server.toRedundancy ∧
    (server.step answer).pc ≠ .copyMateIp ∧ (server.step answer).pc ≠ .becomePrimary ∧
    (server.step answer).pc ≠ .setActiveQuitEr ∧ (server.step answer).pc ≠ .promoteByCount := by
  have apart := @Negotiate.receive_ne server.toRedundancy server.toNegotiate answer.received
  simpa only [Server.step, Negotiate.step, here, true_and] using apart

theorem Regular.step_copyMateIp (answer : Answer) (regular : server.Regular) (here : server.pc = .copyMateIp) :
    (server.step answer).mateIp = server.remoteIp ∧ ¬ (server.step answer).Unpaired ∧
      (server.step answer).iAm = server.iAm := by
  have at_ := regular.here
  rw [here] at at_
  have paired : server.iAm.Paired := at_
  simpa [Server.step, Negotiate.step, here, Unpaired] using paired

/-- Nothing but the assignment ends being unpaired, and nothing starts it again. -/
theorem Regular.step_mateIp (answer : Answer) (regular : server.Regular) (elsewhere : server.pc ≠ .copyMateIp) :
    (server.step answer).mateIp = server.mateIp ∧
      ((server.step answer).Unpaired ↔ server.Unpaired) := by
  have here := regular.here
  have quit := regular.quit
  cases at_ : server.pc with
  | recvBroadCastMsg =>
    obtain ⟨same, apart, -⟩ := step_recv answer at_
    simp [Unpaired, same, at_, apart]
  | checkCount =>
    rw [step_checkCount at_]
    simp only [Unpaired, at_]
    split <;> simp
  | _ =>
    simp_all [Server.step, Negotiate.step, Unpaired, TRole.At, TRole.Paired, Redundancy.setMyRole,
      Redundancy.vnConnect]

theorem Answered.step (answered : server.Answered candidate) (regular : server.Regular) :
    (server.step answer).Answered candidate := by
  rcases answered with ⟨at_ | ⟨at_, primary⟩, remote⟩ | ⟨paired, mate⟩
  · left
    simp [Server.step, Negotiate.step, at_, remote, Redundancy.setMyRole]
  · obtain ⟨assigned, paired, -⟩ := regular.step_copyMateIp answer at_
    exact .inr ⟨paired, assigned.trans remote⟩
  · obtain ⟨same, unpaired⟩ := regular.step_mateIp answer fun at_ => paired (.inr at_)
    exact .inr ⟨fun wrong => paired (unpaired.mp wrong), same.trans mate⟩

theorem Regular.step_becomeBackup (regular : server.Regular)
    (after : (server.step answer).pc = .becomeBackup) : server.pc = .recvBroadCastMsg := by
  have here := regular.here
  have quit := regular.quit
  cases at_ : server.pc with
  | recvBroadCastMsg => rfl
  | checkCount =>
    rw [step_checkCount at_] at after
    revert after
    dsimp only
    split <;> simp
  | _ => simp_all [Server.step, Negotiate.step]

theorem Regular.step_adopting (regular : server.Regular) (after : (server.step answer).pc = .copyMateIp)
    (backup : (server.step answer).iAm = .backupWithPrimary) :
    server.pc = .becomeBackup ∧ (server.step answer).remoteIp = server.remoteIp := by
  have here := regular.here
  have quit := regular.quit
  cases at_ : server.pc with
  | recvBroadCastMsg => exact absurd after (step_recv answer at_).2.1
  | checkCount =>
    rw [step_checkCount at_] at after
    revert after
    dsimp only
    split <;> simp
  | _ => simp_all [Server.step, Negotiate.step, TRole.At, Redundancy.setMyRole]

theorem Regular.step_backup (regular : server.Regular)
    (backup : (server.step answer).iAm = .backupWithPrimary)
    (elsewhere : (server.step answer).pc ≠ .copyMateIp) : server.iAm = .backupWithPrimary := by
  have here := regular.here
  have quit := regular.quit
  cases at_ : server.pc with
  | recvBroadCastMsg =>
    rw [← backup]
    exact congrArg Redundancy.iAm (step_recv answer at_).1.symm
  | checkCount =>
    rw [step_checkCount at_] at backup
    exact backup
  | _ => simp_all [Server.step, Negotiate.step, TRole.At, Redundancy.setMyRole, Redundancy.vnConnect]

end Server

namespace Lan
variable {ι : Type} [DecidableEq ι]

/-! ## The group -/

/-- Datagrams of one sender are read in the order in which they were sent. -/
def PerSender (lan : Lan ι) : LanStep ι → Prop
  | .run i (some k) _ => ((lan.inbox i).take k).all fun earlier =>
      (lan.inbox i)[k]?.all fun datagram => decide (earlier.source ≠ datagram.source)
  | _ => True

instance (lan : Lan ι) : DecidablePred lan.PerSender
  | .run _ (some _) _ => inferInstanceAs (Decidable (_ = true))
  | .run _ none _ => .isTrue trivial
  | .start _ => .isTrue trivial
  | .quit _ => .isTrue trivial

def HoldsAlone (lan : Lan ι) (i : ι) : Prop :=
  ∀ j, j ≠ i → (lan.server j).Adopting → (lan.server j).mateIp ≠ (lan.server i).mateIp

instance [Fintype ι] (lan : Lan ι) (i : ι) : Decidable (lan.HoldsAlone i) :=
  inferInstanceAs (Decidable (∀ j, j ≠ i → (lan.server j).Adopting → (lan.server j).mateIp ≠ (lan.server i).mateIp))

/-- An answer moves a waiting server only if it was meant for it, the backup copies the
primary's address only after the primary has copied the backup's, and a server does not become
backup while another one with the same old mate is about to copy. -/
def OwnAnswer (lan : Lan ι) : LanStep ι → Prop
  | .run i pick _ =>
    ((lan.server i).pc = .recvBroadCastMsg → (lan.server i).role = .whoAmI →
      ∀ k ∈ pick, ∀ datagram ∈ (lan.inbox i)[k]?,
        datagram.role = .primaryWithoutBackup → datagram.source ≠ i →
        datagram.candidate = some (lan.server i).ip) ∧
    ((lan.server i).pc = .copyMateIp → (lan.server i).iAm = .backupWithPrimary →
      ∀ j, (lan.server j).ip = (lan.server i).remoteIp →
        (lan.server j).pc ≠ .becomePrimary ∧ (lan.server j).pc ≠ .copyMateIp) ∧
    ((lan.server i).pc = .becomeBackup → lan.HoldsAlone i)
  | _ => True

instance [Fintype ι] (lan : Lan ι) : DecidablePred lan.OwnAnswer
  | .run _ _ _ => @instDecidableAnd _ _ (inferInstanceAs (Decidable (_ → _))) (inferInstanceAs (Decidable (_ ∧ _)))
  | .start _ => .isTrue trivial
  | .quit _ => .isTrue trivial

/-- Two backups do not have the same mate, and the primary of a backup has it as its mate. -/
structure OneToOne (lan : Lan ι) : Prop where
  distinct : ∀ i j, (lan.server i).iAm = .backupWithPrimary → (lan.server j).iAm = .backupWithPrimary →
    (lan.server i).mateIp = (lan.server j).mateIp → i = j
  mutual_ : ∀ i j, (lan.server i).iAm = .backupWithPrimary →
    (lan.server i).mateIp = (lan.server j).ip → (lan.server j).mateIp = (lan.server i).ip

structure Mates (ip : ι → IpAddress) (lan : Lan ι) : Prop where
  unassigned : ∀ i, (lan.server i).Unpaired → ∀ j, (lan.server i).mateIp ≠ ip j
  answers : ∀ i, ∀ datagram ∈ lan.inbox i, datagram.role = .primaryWithoutBackup →
    ∃ candidate, datagram.candidate = some candidate ∧
      (lan.server datagram.source).Answered candidate
  adopting : ∀ i, (lan.server i).pc = .becomeBackup ∨
      (lan.server i).pc = .copyMateIp ∧ (lan.server i).iAm = .backupWithPrimary →
    ∃ j, (lan.server i).remoteIp = ip j ∧ (lan.server j).Answered (ip i)
  adopted : ∀ i, (lan.server i).iAm = .backupWithPrimary → (lan.server i).pc ≠ .copyMateIp →
    ∃ j, (lan.server i).mateIp = ip j ∧ ¬ (lan.server j).Unpaired ∧ (lan.server j).mateIp = ip i
  apart : ∀ i j, (lan.server i).Adopting → (lan.server j).Adopting →
    (lan.server i).mateIp = (lan.server j).mateIp → i = j

variable {serverId : Int} {ip : ι → IpAddress} {lan next : Lan ι}

omit [DecidableEq ι] in
theorem Mates.oneToOne (mates : lan.Mates ip) (group : lan.Group serverId ip)
    (distinct : Function.Injective ip) : lan.OneToOne := by
  have mutual_ : ∀ i j, (lan.server i).iAm = .backupWithPrimary →
      (lan.server i).mateIp = (lan.server j).ip → (lan.server j).mateIp = (lan.server i).ip := by
    intro i j backup mate
    rw [group.ip] at mate ⊢
    by_cases copying : (lan.server i).pc = .copyMateIp
    · exact absurd mate (mates.unassigned i (.inr copying) j)
    · obtain ⟨k, same, -, back⟩ := mates.adopted i backup copying
      rw [distinct (same.symm.trans mate)] at back
      exact back
  refine ⟨fun i j backup backup' same => ?_, mutual_⟩
  by_cases copying : (lan.server i).pc = .copyMateIp
  · by_cases copying' : (lan.server j).pc = .copyMateIp
    · exact mates.apart i j ⟨copying, backup⟩ ⟨copying', backup'⟩ same
    · -- What the one still holds is no server's address.
      obtain ⟨k, mate, -, -⟩ := mates.adopted j backup' copying'
      exact absurd (same.trans mate) (mates.unassigned i (.inr copying) k)
  · obtain ⟨k, mate, -, back⟩ := mates.adopted i backup copying
    have back' := mutual_ j k backup' (by rw [← same, mate, group.ip])
    rw [group.ip] at back'
    exact distinct (back.symm.trans back')

omit [DecidableEq ι] in
theorem Fresh.mates (fresh : lan.Fresh serverId ip) (garbage : ∀ i j, (lan.server i).mateIp ≠ ip j) :
    lan.Mates ip := by
  refine ⟨fun i _ => garbage i, fun i datagram member => ?_, fun i at_ => ?_, fun i backup => ?_,
    fun i _ at_ => ?_⟩
  · rw [fresh.inbox i] at member
    cases member
  · obtain ⟨mateIp, same⟩ := fresh.server i
    rw [same] at at_
    simp [Negotiate.start] at at_
  · obtain ⟨mateIp, same⟩ := fresh.server i
    rw [same] at backup
    cases backup
  · obtain ⟨mateIp, same⟩ := fresh.server i
    rw [same] at at_
    cases at_.2

omit [DecidableEq ι] in
/-- How a server comes to adopt another one as its primary. -/
theorem Mates.step_becomeBackup (mates : lan.Mates ip) (group : lan.Group serverId ip) {i : ι}
    {pick : Option Nat} {connection : Int} (own : lan.OwnAnswer (.run i pick connection))
    {received : Received} {left : List (Datagram ι)} (takes : lan.Takes i pick received left)
    (after : ((lan.server i).step ⟨received, connection⟩).pc = .becomeBackup) :
    ∃ j, ((lan.server i).step ⟨received, connection⟩).remoteIp = ip j ∧
      (lan.server j).Answered (ip i) := by
  have here := (group.regular i).step_becomeBackup after
  cases takes with
  | nothing =>
    rw [Server.step_null here] at after
    revert after
    dsimp only
    split <;> simp
  | @datagram k datagram _ found =>
    by_cases same : ip datagram.source = ip i
    · rw [group.step_echo here same] at after
      cases after
    · rw [group.step_received here same] at after ⊢
      obtain ⟨role, asks⟩ := Negotiate.reaction_becomeBackup after
      have apart : datagram.source ≠ i := fun equal => same (equal ▸ rfl)
      have meant := own.1 here asks k rfl datagram found role apart
      obtain ⟨candidate, noted, answered⟩ :=
        mates.answers i datagram (List.mem_of_getElem? found) role
      rw [meant, group.ip] at noted
      cases noted
      exact ⟨datagram.source, rfl, answered⟩

/-- What a server has answered, and whom it is paired with, outlasts the steps of all servers. -/
theorem advance_answered {i : ι} (regular : (lan.server i).Regular) (answer : Answer)
    (left : List (Datagram ι)) : ∀ j candidate, (lan.server j).Answered candidate →
      ((lan.advance i answer left).server j).Answered candidate := by
  refine advance_server_forall _ _ (fun j server => ∀ candidate,
    (lan.server j).Answered candidate → server.Answered candidate) ?_ fun _ _ _ => id
  exact fun candidate answered => answered.step regular

theorem advance_paired {i : ι} (regular : (lan.server i).Regular) (answer : Answer)
    (left : List (Datagram ι)) : ∀ j, ¬ (lan.server j).Unpaired →
      ¬ ((lan.advance i answer left).server j).Unpaired ∧
      ((lan.advance i answer left).server j).mateIp = (lan.server j).mateIp := by
  refine advance_server_forall _ _ (fun j server => ¬ (lan.server j).Unpaired →
    ¬ server.Unpaired ∧ server.mateIp = (lan.server j).mateIp) ?_ fun _ _ paired => ⟨paired, rfl⟩
  intro paired
  obtain ⟨same, unpaired⟩ := regular.step_mateIp _ fun at_ => paired (.inr at_)
  exact ⟨fun wrong => paired (unpaired.mp wrong), same⟩

theorem Mates.start (mates : lan.Mates ip) {i : ι} (applied : lan.apply (.start i) = some next) :
    next.Mates ip := by
  obtain ⟨-, -, inbox, -, each, -⟩ := apply_start applied
  refine ⟨fun j => ?_, fun j datagram member role => ?_, fun j => ?_, fun j => ?_, fun j k => ?_⟩
  · obtain ⟨bound, same⟩ := each j
    rw [same]
    exact mates.unassigned j
  · rw [inbox] at member
    obtain ⟨bound, same⟩ := each datagram.source
    rw [same]
    exact mates.answers j datagram member role
  · obtain ⟨bound, same⟩ := each j
    rw [same]
    intro at_
    obtain ⟨k, remote, answered⟩ := mates.adopting j at_
    obtain ⟨bound, same⟩ := each k
    exact ⟨k, remote, by rw [same]; exact answered⟩
  · obtain ⟨bound, same⟩ := each j
    rw [same]
    intro backup elsewhere
    obtain ⟨k, mate, paired⟩ := mates.adopted j backup elsewhere
    obtain ⟨bound, same⟩ := each k
    exact ⟨k, mate, by rw [same]; exact paired⟩
  · obtain ⟨bound, same⟩ := each j
    obtain ⟨bound', same'⟩ := each k
    rw [same, same']
    exact mates.apart j k

section
variable {i : ι} {pick : Option Nat} {connection : Int} {received : Received} {left : List (Datagram ι)}

theorem Mates.run_unassigned (mates : lan.Mates ip) (group : lan.Group serverId ip) (answer : Answer)
    (left : List (Datagram ι)) : ∀ j, ((lan.advance i answer left).server j).Unpaired →
      ∀ k, ((lan.advance i answer left).server j).mateIp ≠ ip k := by
  -- Only the copy of the mate's address writes it, and ends the state without a mate.
  refine advance_server_forall _ _ (fun _ server => server.Unpaired →
    ∀ k, server.mateIp ≠ ip k) ?_ fun j _ => mates.unassigned j
  intro unpaired
  by_cases copying : (lan.server i).pc = .copyMateIp
  · exact absurd unpaired ((group.regular i).step_copyMateIp _ copying).2.1
  · obtain ⟨same, iff_⟩ := (group.regular i).step_mateIp _ copying
    rw [same]
    exact mates.unassigned i (iff_.mp unpaired)

theorem Mates.run_answers (mates : lan.Mates ip) (group : lan.Group serverId ip)
    (takes : lan.Takes i pick received left) : ∀ j,
      ∀ datagram ∈ (lan.advance i ⟨received, connection⟩ left).inbox j, datagram.role = .primaryWithoutBackup →
        ∃ candidate, datagram.candidate = some candidate ∧
          ((lan.advance i ⟨received, connection⟩ left).server datagram.source).Answered candidate := by
  intro j datagram member role
  rcases mem_advance_inbox _ takes member with old | new
  · obtain ⟨candidate, noted, was⟩ := mates.answers j datagram old role
    exact ⟨candidate, noted, advance_answered (group.regular i) _ left _ _ was⟩
  · -- A new datagram that names a primary without backup is an answer to a candidate.
    obtain ⟨-, broadcasts, rfl⟩ := mem_delivered new
    have here := (group.regular i).here
    rcases broadcasts with at_ | at_ | at_
    · rw [at_] at here
      exact absurd role here
    · refine ⟨(lan.server i).remoteIp, if_pos at_, ?_⟩
      rw [advance_server_self]
      left
      simp [Server.step, Negotiate.step, at_]
    · rw [at_] at here
      cases here

theorem Mates.run_adopting (mates : lan.Mates ip) (group : lan.Group serverId ip)
    (own : lan.OwnAnswer (.run i pick connection)) (takes : lan.Takes i pick received left) : ∀ j,
      ((lan.advance i ⟨received, connection⟩ left).server j).pc = .becomeBackup ∨
        ((lan.advance i ⟨received, connection⟩ left).server j).pc = .copyMateIp ∧
          ((lan.advance i ⟨received, connection⟩ left).server j).iAm = .backupWithPrimary →
      ∃ k, ((lan.advance i ⟨received, connection⟩ left).server j).remoteIp = ip k ∧
        ((lan.advance i ⟨received, connection⟩ left).server k).Answered (ip j) := by
  have answered := advance_answered (group.regular i) ⟨received, connection⟩ left
  refine advance_server_forall _ _ (fun j server => server.pc = .becomeBackup ∨
    server.pc = .copyMateIp ∧ server.iAm = .backupWithPrimary → ∃ k, server.remoteIp = ip k ∧
      ((lan.advance i ⟨received, connection⟩ left).server k).Answered (ip j)) ?_ fun j _ at_ => ?_
  · rintro (becoming | ⟨copying, backup⟩)
    · obtain ⟨k, remote, was⟩ := mates.step_becomeBackup group own takes becoming
      exact ⟨k, remote, answered k _ was⟩
    · obtain ⟨at_, same⟩ := (group.regular i).step_adopting copying backup
      obtain ⟨k, remote, was⟩ := mates.adopting i (.inl at_)
      exact ⟨k, same.trans remote, answered k _ was⟩
  · obtain ⟨k, remote, was⟩ := mates.adopting j at_
    exact ⟨k, remote, answered k _ was⟩

theorem Mates.run_adopted (mates : lan.Mates ip) (group : lan.Group serverId ip)
    (own : lan.OwnAnswer (.run i pick connection)) (answer : Answer) (left : List (Datagram ι)) : ∀ j,
      ((lan.advance i answer left).server j).iAm = .backupWithPrimary →
      ((lan.advance i answer left).server j).pc ≠ .copyMateIp →
      ∃ k, ((lan.advance i answer left).server j).mateIp = ip k ∧
        ¬ ((lan.advance i answer left).server k).Unpaired ∧
        ((lan.advance i answer left).server k).mateIp = ip j := by
  have regular := group.regular i
  have paired := advance_paired regular answer left
  refine advance_server_forall _ _ (fun j server => server.iAm = .backupWithPrimary →
    server.pc ≠ .copyMateIp → ∃ k, server.mateIp = ip k ∧
      ¬ ((lan.advance i answer left).server k).Unpaired ∧
      ((lan.advance i answer left).server k).mateIp = ip j) ?_ fun j _ at_ => ?_
  · intro backup elsewhere
    by_cases copying : (lan.server i).pc = .copyMateIp
    · -- The primary has made its own copy before, so it is not about to.
      obtain ⟨assigned, -, same⟩ := regular.step_copyMateIp _ copying
      rw [same] at backup
      obtain ⟨k, remote, was⟩ := mates.adopting i (.inr ⟨copying, backup⟩)
      have done := own.2.1 copying backup k ((group.ip k).trans remote.symm)
      rcases was with ⟨at_ | ⟨at_, -⟩, -⟩ | ⟨was, mate⟩
      · exact absurd at_ done.1
      · exact absurd at_ done.2
      · obtain ⟨now, same⟩ := paired k was
        exact ⟨k, assigned.trans remote, now, same.trans mate⟩
    · have before := regular.step_backup backup elsewhere
      obtain ⟨k, mate, was, back⟩ := mates.adopted i before copying
      obtain ⟨now, same⟩ := paired k was
      exact ⟨k, (regular.step_mateIp _ copying).1.trans mate, now, same.trans back⟩
  · intro elsewhere
    obtain ⟨k, mate, was, back⟩ := mates.adopted j at_ elsewhere
    obtain ⟨now, same⟩ := paired k was
    exact ⟨k, mate, now, same.trans back⟩

theorem Mates.run_apart (mates : lan.Mates ip) (group : lan.Group serverId ip)
    (own : lan.OwnAnswer (.run i pick connection)) (answer : Answer) (left : List (Datagram ι)) : ∀ j k,
      ((lan.advance i answer left).server j).Adopting →
      ((lan.advance i answer left).server k).Adopting →
      ((lan.advance i answer left).server j).mateIp = ((lan.advance i answer left).server k).mateIp →
      j = k := by
  -- Who becomes backup still holds its old mate, which no other new backup holds.
  have enters (adopting : ((lan.server i).step answer).Adopting) (j : ι) (other : j ≠ i)
      (adopts : (lan.server j).Adopting) : (lan.server j).mateIp ≠ ((lan.server i).step answer).mateIp := by
    obtain ⟨becoming, -⟩ := (group.regular i).step_adopting adopting.1 adopting.2
    have elsewhere : (lan.server i).pc ≠ .copyMateIp := by
      rw [becoming]
      decide
    rw [((group.regular i).step_mateIp answer elsewhere).1]
    exact own.2.2 becoming j other adopts
  intro j k adopts adopts' same
  by_cases first : j = i
  · by_cases second : k = i
    · rw [first, second]
    · rw [first, advance_server_self] at adopts same
      rw [advance_server_other _ _ second] at adopts' same
      exact absurd same.symm (enters adopts k second adopts')
  · rw [advance_server_other _ _ first] at adopts same
    by_cases second : k = i
    · rw [second, advance_server_self] at adopts' same
      exact absurd same (enters adopts' j first adopts)
    · rw [advance_server_other _ _ second] at adopts' same
      exact mates.apart j k adopts adopts' same

theorem Mates.run (mates : lan.Mates ip) (group : lan.Group serverId ip)
    (own : lan.OwnAnswer (.run i pick connection))
    (applied : lan.apply (.run i pick connection) = some next) : next.Mates ip := by
  obtain ⟨-, received, left, takes, rfl⟩ := apply_run applied
  exact {
    unassigned := mates.run_unassigned group ⟨received, connection⟩ left
    answers := mates.run_answers group takes
    adopting := mates.run_adopting group own takes
    adopted := mates.run_adopted group own ⟨received, connection⟩ left
    apart := mates.run_apart group own ⟨received, connection⟩ left }

end

theorem Mates.apply (mates : lan.Mates ip) (group : lan.Group serverId ip) {label : LanStep ι}
    (noQuit : NoQuit label) (own : lan.OwnAnswer label) (applied : lan.apply label = some next) :
    next.Mates ip := by
  cases label with
  | quit i => cases noQuit
  | start i => exact mates.start applied
  | run i pick connection => exact mates.run group own applied

/-- Starting the servers one by one is the only thing that is done to them from outside. -/
def negotiation (serverId : Int) (ip : ι → IpAddress) : System (Lan ι) (LanStep ι) :=
  .ofStep (fun lan => lan.Fresh serverId ip ∧ ∀ i j, (lan.server i).mateIp ≠ ip j) apply

theorem negotiation_oneToOne (serverId : Int) (ip : ι → IpAddress) (distinct : Function.Injective ip)
    {lan : Lan ι}
    (reached : (negotiation serverId ip).Reaches
      (fun lan label => NoQuit label ∧ lan.PerSender label ∧ lan.OwnAnswer label) lan) :
    lan.OneToOne := by
  have holds : lan.Group serverId ip ∧ lan.Mates ip := by
    refine reached.invariant (fun lan => lan.Group serverId ip ∧ lan.Mates ip) ?_ ?_
    · rintro lan ⟨fresh, garbage⟩
      exact ⟨fresh.group, fresh.mates garbage⟩
    · rintro lan label next ⟨group, mates⟩ ⟨noQuit, -, own⟩ applied
      exact ⟨group.apply noQuit applied, mates.apply group noQuit own applied⟩
  exact holds.2.oneToOne holds.1 distinct

def turn (i : ι) (k : Nat) : List (LanStep ι) :=
  [.run i none 0, .run i none 0, .run i none 0, .run i (some k) 0]

def pairing (a b : ι) : List (LanStep ι) :=
  [.start a, .start b, .run a none 0, .run a none 0, .run b none 0, .run b none 0] ++
  turn a 0 ++ turn a 0 ++ [.run a none 0] ++ turn b 0 ++ turn b 0 ++
  [.run b none 0, .run b none 0, .run b none 0, .run b none 0, .run b none 0] ++
  turn a 0 ++ [.run a none 0, .run a none 0, .run a none 0, .run a none 5] ++
  turn b 0 ++ turn b 0 ++ [.run b none 0, .run b none 0, .run b none 6]

def threeServers : Lan (Fin 3) where
  server i := ⟨⟨1, threeAddresses i, .whoAmI, .empty, -1, [], false, false⟩, .start, false⟩
  inbox _ := []
  heard _ := []

theorem threeServers_fresh : threeServers.Fresh 1 threeAddresses ∧
    ∀ i j, (threeServers.server i).mateIp ≠ threeAddresses j :=
  ⟨⟨fun _ => ⟨_, rfl⟩, fun _ => rfl, fun _ => rfl⟩, by decide⟩

/-- The highest server becomes primary at the broadcast of the next one, times out until it
hears from it again, and both complete the pairing. -/
def ownAnswer : List (LanStep (Fin 3)) :=
  [.start 2, .start 1, .run 2 none 0, .run 2 none 0, .run 1 none 0, .run 1 none 0] ++
  turn 2 1 ++ [.run 2 none 0] ++
  [.run 1 none 0, .run 1 none 0, .run 1 none 0, .run 1 none 0, .run 1 none 0] ++
  turn 2 1 ++ [.run 2 none 0, .run 2 none 0, .run 2 none 0] ++
  turn 1 0 ++ turn 1 2 ++ [.run 1 none 0, .run 1 none 0]

theorem negotiation_oneToOne_ownAnswer : ∃ lan : Lan (Fin 3),
    (lan.server 1).iAm = .backupWithPrimary ∧ (lan.server 1).mateIp = (lan.server 2).ip ∧
    lan.OneToOne := by
  have observed : (System.follow
      (fun lan label => NoQuit label ∧ lan.PerSender label ∧ lan.OwnAnswer label) apply
      threeServers ownAnswer).map (fun lan => ((lan.server 1).iAm,
        decide ((lan.server 1).mateIp = (lan.server 2).ip))) = some (.backupWithPrimary, true) := by
    decide +kernel
  obtain ⟨lan, ends, values⟩ := Option.map_eq_some_iff.mp observed
  obtain ⟨backup, mate⟩ := Prod.mk.inj values
  have distinct : Function.Injective threeAddresses := by decide
  exact ⟨lan, backup, of_decide_eq_true mate,
    negotiation_oneToOne 1 threeAddresses distinct ((System.Reaches.start threeServers_fresh).follow _ ends)⟩

/-- The highest server becomes primary and answers server 0; its answer is read by 0 and by 1. -/
def sharedAnswer : List (LanStep (Fin 3)) :=
  [.start 0, .start 1, .start 2] ++
  [.run 2 none 0, .run 2 none 0, .run 1 none 0, .run 1 none 0, .run 0 none 0, .run 0 none 0] ++
  turn 2 1 ++ [.run 2 none 0] ++ turn 2 1 ++ [.run 2 none 0] ++
  turn 1 0 ++ turn 1 2 ++ [.run 1 none 0, .run 1 none 0] ++
  turn 0 0 ++ turn 0 2 ++ [.run 0 none 0, .run 0 none 0]

theorem negotiation_sharedAnswer : ∃ lan : Lan (Fin 3),
    (negotiation 1 threeAddresses).Reaches (fun lan label => NoQuit label ∧ lan.PerSender label) lan ∧
    ¬ lan.OneToOne := by
  have observed : (System.follow (fun lan label => NoQuit label ∧ lan.PerSender label) apply
      threeServers sharedAnswer).map (fun lan => ((lan.server 0).iAm, (lan.server 1).iAm,
        decide ((lan.server 0).mateIp = (lan.server 2).ip ∧ (lan.server 1).mateIp = (lan.server 2).ip))) =
      some (.backupWithPrimary, .backupWithPrimary, true) := by
    decide +kernel
  obtain ⟨lan, ends, values⟩ := Option.map_eq_some_iff.mp observed
  obtain ⟨backup, values⟩ := Prod.mk.inj values
  obtain ⟨backup', mates⟩ := Prod.mk.inj values
  obtain ⟨mate, mate'⟩ := of_decide_eq_true mates
  refine ⟨lan, (System.Reaches.start threeServers_fresh).follow _ ends, fun oneToOne => ?_⟩
  exact absurd (oneToOne.distinct 0 1 backup backup' (mate.trans mate'.symm)) (by decide)

end Lan

end Foolject
