import Foolject.Redundancy.Pairing

/-! What the exit of a third server does to an established pair.

The notice of a server that quits is a broadcast, and a paired server takes it for
its mate's without looking at the sender. A pair stays as it was in the runs in
which no notice but the mate's is read.
-/

set_option autoImplicit false

namespace Foolject

namespace Server
variable {server : Server} {answer : Answer}

def InLoop (server : Server) : Prop :=
  server.quitInnerThread = false ∧
  match server.pc with
  | .whileNotQuit | .getMyRole => True
  | .checkCount | .recvBroadCastMsg | .broadcastMyRole => server.role = server.iAm
  | _ => False

structure SamePair (before after : Server) : Prop where
  iAm : after.iAm = before.iAm
  mateIp : after.mateIp = before.mateIp
  connectionId : after.connectionId = before.connectionId
  sendChannels : after.sendChannels = before.sendChannels

theorem SamePair.refl (server : Server) : server.SamePair server := ⟨rfl, rfl, rfl, rfl⟩

theorem SamePair.trans {first second third : Server} (one : first.SamePair second)
    (two : second.SamePair third) : first.SamePair third :=
  ⟨two.iAm.trans one.iAm, two.mateIp.trans one.mateIp, two.connectionId.trans one.connectionId,
    two.sendChannels.trans one.sendChannels⟩

theorem reaction_paired {remote role : TRole} (higher : Bool) (paired : role.Paired)
    (stays : remote ≠ .activeQuitEr) :
    Negotiate.reaction remote role higher = .broadcastMyRole ∨
    Negotiate.reaction remote role higher = .whileNotQuit := by
  revert paired stays
  cases remote <;> cases role <;> cases higher <;> decide

/-- A paired server that reads no notice of quitting stays as it is. -/
theorem InLoop.step (inLoop : server.InLoop) (paired : server.iAm.Paired)
    (staying : answer.received.Staying) :
    (server.step answer).InLoop ∧ server.SamePair (server.step answer) := by
  rcases answer with ⟨received, connection⟩
  obtain ⟨quit, here⟩ := inLoop
  have asks : server.iAm ≠ .whoAmI := by
    rintro asks
    rw [asks] at paired
    revert paired
    decide
  cases at_ : server.pc with
  | recvBroadCastMsg =>
    rw [at_] at here
    have read : server.role ≠ .whoAmI := fun wrong => asks (here.symm.trans wrong)
    cases staying with
    | null =>
      rw [step_null at_, if_neg read, if_neg read]
      exact ⟨⟨quit, trivial⟩, ⟨rfl, rfl, rfl, rfl⟩⟩
    | @datagram ip serverId remote stays =>
      by_cases ignored : serverId ≠ server.serverId ∨ ip = server.ip
      · rw [step_ignored at_ ignored]
        exact ⟨⟨quit, trivial⟩, ⟨rfl, rfl, rfl, rfl⟩⟩
      · obtain ⟨rfl, other⟩ : serverId = server.serverId ∧ ip ≠ server.ip := by
          simpa using ignored
        rw [step_group at_ other]
        refine ⟨⟨quit, ?_⟩, ⟨rfl, rfl, rfl, rfl⟩⟩
        rw [here]
        rcases reaction_paired (decide (0 < server.ip.stricmp ip)) paired stays with
          tells | idles
        · simp only [tells]
        · simp only [idles]
  | checkCount =>
    rw [at_] at here
    rw [step_checkCount at_, if_neg fun many => asks (here.symm.trans many.2)]
    exact ⟨⟨quit, here⟩, ⟨rfl, rfl, rfl, rfl⟩⟩
  | whileNotQuit =>
    simp only [Server.step, Negotiate.step, at_, quit]
    exact ⟨⟨quit, trivial⟩, ⟨rfl, rfl, rfl, rfl⟩⟩
  | getMyRole =>
    simp only [Server.step, Negotiate.step, at_]
    exact ⟨⟨quit, rfl⟩, ⟨rfl, rfl, rfl, rfl⟩⟩
  | broadcastMyRole =>
    simp only [Server.step, Negotiate.step, at_]
    exact ⟨⟨quit, trivial⟩, ⟨rfl, rfl, rfl, rfl⟩⟩
  | _ =>
    rw [at_] at here
    cases here

def Told (server : Server) : Prop :=
  server.iAm = .activeQuitEr ∨ server.pc = .setActiveQuitEr → server.quitInnerThread = true

theorem Told.step (told : server.Told) : (server.step answer).Told := by
  intro quits
  have same : (server.step answer).quitInnerThread = server.quitInnerThread :=
    Negotiate.step_quitInnerThread _ _ _
  rw [same]
  by_cases stays : server.iAm = .activeQuitEr ∨ server.pc = .setActiveQuitEr
  · exact told stays
  · obtain ⟨active, elsewhere⟩ := not_or.mp stays
    cases at_ : server.pc with
    | recvBroadCastMsg =>
      obtain ⟨shared, -, -, apart, -⟩ := step_recv answer at_
      rw [shared] at quits
      exact absurd quits (not_or.mpr ⟨active, apart⟩)
    | whileNotQuit =>
      by_contra stays
      simp [Server.step, Negotiate.step, at_, active, stays] at quits
    | checkCount =>
      rw [step_checkCount at_] at quits
      revert quits
      dsimp only
      split <;> simp [active]
    | setActiveQuitEr => exact absurd at_ elsewhere
    | _ =>
      simp [Server.step, Negotiate.step, at_, active, Redundancy.setMyRole, Redundancy.vnConnect,
        Redundancy.vnDisconnect] at quits

end Server

namespace Lan
variable {ι : Type} [DecidableEq ι]

/-- Servers with the given addresses, of which only those that were told to quit have
announced it. -/
structure Notices (ip : ι → IpAddress) (lan : Lan ι) : Prop where
  ip : ∀ i, (lan.server i).ip = ip i
  told : ∀ i, (lan.server i).Told
  source : ∀ i, ∀ datagram ∈ lan.inbox i, datagram.role = .activeQuitEr →
    (lan.server datagram.source).quitInnerThread = true

/-- A primary and a backup that have completed their pairing and go round their loops. -/
structure Established (lan : Lan ι) (a b : ι) : Prop where
  primary : (lan.server a).iAm = .primaryWithBackup
  backup : (lan.server b).iAm = .backupWithPrimary
  primaryMate : (lan.server a).mateIp = (lan.server b).ip
  backupMate : (lan.server b).mateIp = (lan.server a).ip
  primaryLoop : (lan.server a).InLoop
  backupLoop : (lan.server b).InLoop

def Bystanders (a b : ι) : LanStep ι → Prop
  | .quit i => i ≠ a ∧ i ≠ b
  | _ => True

instance (a b : ι) : DecidablePred (Bystanders a b)
  | .quit _ => inferInstanceAs (Decidable (_ ∧ _))
  | .start _ => .isTrue trivial
  | .run _ _ _ => .isTrue trivial

def MateNotice (a b : ι) (lan : Lan ι) : LanStep ι → Prop
  | .run i pick _ =>
    i = a ∨ i = b → (lan.server i).pc = .recvBroadCastMsg →
      ∀ k ∈ pick, ∀ datagram ∈ (lan.inbox i)[k]?, datagram.role = .activeQuitEr →
        (lan.server datagram.source).ip = (lan.server i).mateIp
  | _ => True

instance (a b : ι) (lan : Lan ι) : DecidablePred (lan.MateNotice a b)
  | .run _ _ _ => inferInstanceAs (Decidable (_ → _))
  | .start _ => .isTrue trivial
  | .quit _ => .isTrue trivial

variable {serverId : Int} {ip : ι → IpAddress} {lan next : Lan ι} {a b : ι}

omit [DecidableEq ι] in
theorem Fresh.notices (fresh : lan.Fresh serverId ip) : lan.Notices ip := by
  refine ⟨fresh.group.ip, fun i => ?_, fun i datagram member => ?_⟩
  · obtain ⟨mateIp, same⟩ := fresh.server i
    rw [same]
    simp [Server.Told, Negotiate.start]
  · rw [fresh.inbox i] at member
    cases member

theorem apply_quit {i : ι} (applied : lan.apply (.quit i) = some next) :
    next.inbox = lan.inbox ∧ (next.server i).quitInnerThread = true ∧
    (∀ j, ∃ quits, next.server j = { lan.server j with
      quitInnerThread := quits || (lan.server j).quitInnerThread }) ∧
    ∀ j, j ≠ i → next.server j = lan.server j := by
  simp only [apply] at applied
  split at applied
  · cases applied
    refine ⟨rfl, ?_, fun j => ?_, fun j other => Function.update_of_ne other _ _⟩
    · simp only [Function.update_self]
    · by_cases same : j = i
      · subst same
        exact ⟨true, Function.update_self _ _ _⟩
      · exact ⟨false, Function.update_of_ne same _ _⟩
  · cases applied

theorem Notices.apply (notices : lan.Notices ip) {label : LanStep ι}
    (applied : lan.apply label = some next) : next.Notices ip := by
  cases label with
  | start i =>
    obtain ⟨-, -, inbox, -, each, -⟩ := apply_start applied
    refine ⟨fun j => ?_, fun j => ?_, fun j datagram member => ?_⟩
    · obtain ⟨bound, same⟩ := each j
      rw [same]
      exact notices.ip j
    · obtain ⟨bound, same⟩ := each j
      rw [same]
      exact notices.told j
    · obtain ⟨bound, same⟩ := each datagram.source
      rw [inbox] at member
      rw [same]
      exact notices.source j datagram member
  | quit i =>
    obtain ⟨inbox, -, each, -⟩ := apply_quit applied
    refine ⟨fun j => ?_, fun j active => ?_, fun j datagram member role => ?_⟩
    · obtain ⟨quits, same⟩ := each j
      rw [same]
      exact notices.ip j
    · obtain ⟨quits, same⟩ := each j
      rw [same] at active ⊢
      exact Bool.or_eq_true_iff.mpr (.inr (notices.told j active))
    · obtain ⟨quits, same⟩ := each datagram.source
      rw [inbox] at member
      rw [same]
      exact Bool.or_eq_true_iff.mpr (.inr (notices.source j datagram member role))
  | run i pick connection =>
    obtain ⟨-, received, left, takes, rfl⟩ := apply_run applied
    have quits : ∀ j, (lan.server j).quitInnerThread = true →
        ((lan.advance i ⟨received, connection⟩ left).server j).quitInnerThread = true := by
      refine advance_server_forall _ _ (fun j server =>
        (lan.server j).quitInnerThread = true → server.quitInnerThread = true) ?_ fun _ _ => id
      exact fun quits => (Negotiate.step_quitInnerThread _ _ _).trans quits
    refine ⟨?_, ?_, fun j datagram member role => ?_⟩
    · refine advance_server_forall _ _ (fun j server => server.ip = ip j) ?_ fun j _ => notices.ip j
      exact (Negotiate.step_ip _ _ _).trans (notices.ip i)
    · exact advance_server_forall _ _ (fun _ server => server.Told) (notices.told i).step
        fun j _ => notices.told j
    · rcases mem_advance_inbox _ takes member with old | new
      · exact quits _ (notices.source j datagram old role)
      · obtain ⟨-, -, rfl⟩ := mem_delivered new
        exact quits i (notices.told i (.inl role))

omit [DecidableEq ι] in
theorem Notices.takes (notices : lan.Notices ip) (distinct : Function.Injective ip) {i mate : ι}
    (mates : (lan.server i).mateIp = ip mate) (stays : (lan.server mate).quitInnerThread = false)
    {pick : Option Nat} (notice : (lan.server i).pc = .recvBroadCastMsg →
      ∀ k ∈ pick, ∀ datagram ∈ (lan.inbox i)[k]?, datagram.role = .activeQuitEr →
        (lan.server datagram.source).ip = (lan.server i).mateIp)
    {received : Received} {left : List (Datagram ι)} (takes : lan.Takes i pick received left) :
    received.Staying := by
  -- Nothing that a paired server reads is a notice, if only its
  -- mate's may be one and its mate has not been told to quit.
  cases takes with
  | nothing => exact .null
  | @datagram k datagram here found =>
    refine .datagram _ _ fun role => ?_
    have sender := notice here k rfl datagram found role
    rw [notices.ip, mates] at sender
    have quits := notices.source i datagram (List.mem_of_getElem? found) role
    rw [distinct sender, stays] at quits
    cases quits

/-- One step of the network leaves a server of the pair as it was. -/
theorem Notices.pair_apply (notices : lan.Notices ip) (distinct : Function.Injective ip) {i mate : ι}
    (paired : (lan.server i).iAm.Paired) (inLoop : (lan.server i).InLoop)
    (mates : (lan.server i).mateIp = ip mate) (stays : (lan.server mate).quitInnerThread = false)
    (member : i = a ∨ i = b) {label : LanStep ι} (bystanders : Bystanders a b label)
    (notice : lan.MateNotice a b label) (applied : lan.apply label = some next) :
    (next.server i).InLoop ∧ (lan.server i).SamePair (next.server i) := by
  cases label with
  | start j =>
    obtain ⟨-, -, -, -, each, -⟩ := apply_start applied
    obtain ⟨bound, same⟩ := each i
    rw [same]
    exact ⟨inLoop, ⟨rfl, rfl, rfl, rfl⟩⟩
  | quit j =>
    obtain ⟨-, -, -, others⟩ := apply_quit applied
    have apart : i ≠ j := by
      rintro rfl
      exact member.elim bystanders.1 bystanders.2
    rw [others i apart]
    exact ⟨inLoop, .refl _⟩
  | run j pick connection =>
    obtain ⟨-, received, left, takes, rfl⟩ := apply_run applied
    by_cases same : i = j
    · subst same
      rw [advance_server_self]
      exact inLoop.step paired (notices.takes distinct mates stays (notice member) takes)
    · rw [advance_server_other _ _ same]
      exact ⟨inLoop, .refl _⟩

/-- What holds of an established pair as long as no notice but its own is read. -/
structure Undisturbed (before lan : Lan ι) (i : ι) : Prop where
  inLoop : (lan.server i).InLoop
  same : (before.server i).SamePair (lan.server i)

theorem Notices.undisturbed_apply (notices : lan.Notices ip) (distinct : Function.Injective ip)
    {before : Lan ι} {i mate : ι} (paired : (before.server i).iAm.Paired)
    (mates : (before.server i).mateIp = ip mate) (one : Undisturbed before lan i)
    (other : Undisturbed before lan mate) (member : i = a ∨ i = b) {label : LanStep ι}
    (bystanders : Bystanders a b label) (notice : lan.MateNotice a b label)
    (applied : lan.apply label = some next) : Undisturbed before next i := by
  have still : (lan.server i).iAm.Paired := one.same.iAm.symm ▸ paired
  obtain ⟨inLoop, same⟩ := notices.pair_apply distinct still one.inLoop
    (one.same.mateIp.trans mates) other.inLoop.1 member bystanders notice applied
  exact ⟨inLoop, one.same.trans same⟩

/-- In the runs from an established pair on, whatever else happened before. -/
theorem bystanders_keepPair (serverId : Int) (ip : ι → IpAddress) (distinct : Function.Injective ip)
    {before : Lan ι} (reached : (negotiation serverId ip).Reaches System.Always before)
    (pair : before.Established a b) {lan : Lan ι}
    (continued : (System.ofStep (· = before) apply).Reaches
      (fun lan label => Bystanders a b label ∧ lan.MateNotice a b label) lan) :
    (before.server a).SamePair (lan.server a) ∧ (before.server b).SamePair (lan.server b) := by
  have notices : before.Notices ip := by
    refine reached.invariant (Notices ip) ?_ ?_
    · rintro lan ⟨fresh, -⟩
      exact fresh.notices
    · rintro lan label next notices - applied
      exact notices.apply applied
  have primaryMate : (before.server a).mateIp = ip b := pair.primaryMate.trans (notices.ip b)
  have backupMate : (before.server b).mateIp = ip a := pair.backupMate.trans (notices.ip a)
  have holds : lan.Notices ip ∧ Undisturbed before lan a ∧ Undisturbed before lan b := by
    refine continued.invariant
      (fun lan => lan.Notices ip ∧ Undisturbed before lan a ∧ Undisturbed before lan b) ?_ ?_
    · rintro _ rfl
      exact ⟨notices, ⟨pair.primaryLoop, .refl _⟩, ⟨pair.backupLoop, .refl _⟩⟩
    · rintro lan label next ⟨notices, primary, backup⟩ ⟨bystanders, notice⟩ applied
      exact ⟨notices.apply applied,
        notices.undisturbed_apply distinct (.inl pair.primary) primaryMate primary backup (.inl rfl)
          bystanders notice applied,
        notices.undisturbed_apply distinct (.inr pair.backup) backupMate backup primary (.inr rfl)
          bystanders notice applied⟩
  exact ⟨holds.2.1.same, holds.2.2.same⟩

def visit : List (LanStep (Fin 3)) :=
  [.start 0, .run 0 none 0, .run 0 none 0, .quit 0, .run 0 none 0, .run 0 none 0, .run 0 none 0]

def readQuestion : List (LanStep (Fin 3)) := turn 2 0 ++ turn 2 0 ++ [.run 2 none 0]

def Complete (lan : Lan (Fin 3)) : Prop :=
  (lan.server 2).iAm = .primaryWithBackup ∧ (lan.server 1).iAm = .backupWithPrimary ∧
  (lan.server 2).mateIp = (lan.server 1).ip ∧ (lan.server 1).mateIp = (lan.server 2).ip ∧
  ∀ i : Fin 3, i ≠ 0 → (lan.server i).quitInnerThread = false ∧ (lan.server i).pc = .whileNotQuit

instance : DecidablePred Complete := fun _ => inferInstanceAs (Decidable (_ ∧ _))

theorem Complete.established {lan : Lan (Fin 3)} (complete : lan.Complete) : lan.Established 2 1 := by
  obtain ⟨primary, backup, primaryMate, backupMate, heads⟩ := complete
  have loop : ∀ i : Fin 3, i ≠ 0 → (lan.server i).InLoop := by
    intro i apart
    obtain ⟨quit, head⟩ := heads i apart
    refine ⟨quit, ?_⟩
    rw [head]
    trivial
  exact ⟨primary, backup, primaryMate, backupMate, loop 2 (by decide), loop 1 (by decide)⟩

theorem bystanders_keepPair_visit : ∃ before lan : Lan (Fin 3),
    before.Established 2 1 ∧ (lan.server 0).iAm = .activeQuitEr ∧
    (before.server 2).SamePair (lan.server 2) ∧ (before.server 1).SamePair (lan.server 1) := by
  have observed : (System.follow System.Always apply threeServers (pairing 2 1)).bind (fun before =>
      (System.follow (fun lan label => Bystanders 2 1 label ∧ lan.MateNotice 2 1 label) apply before
        (visit ++ readQuestion)).map fun lan =>
          decide (before.Complete ∧ (lan.server 0).iAm = .activeQuitEr)) = some true := by
    decide +kernel
  obtain ⟨before, first, observed⟩ := Option.bind_eq_some_iff.mp observed
  obtain ⟨lan, second, values⟩ := Option.map_eq_some_iff.mp observed
  obtain ⟨complete, quits⟩ := of_decide_eq_true values
  have pair := complete.established
  exact ⟨before, lan, pair, quits, bystanders_keepPair 1 threeAddresses (by decide)
    ((System.Reaches.start threeServers_fresh).follow _ first) pair
    ((System.Reaches.start rfl).follow _ second)⟩

theorem bystanders_breakPair : ∃ before lan : Lan (Fin 3),
    (negotiation 1 threeAddresses).Reaches System.Always before ∧ before.Established 2 1 ∧
    (System.ofStep (· = before) apply).Reaches (fun _ label => Bystanders 2 1 label) lan ∧
    ¬ (before.server 2).SamePair (lan.server 2) := by
  -- Server 2 reads the notice of server 0.
  have observed : (System.follow System.Always apply threeServers (pairing 2 1)).bind (fun before =>
      (System.follow (fun _ label => Bystanders 2 1 label) apply before
        (visit ++ readQuestion ++ turn 2 0 ++ [.run 2 none 0])).map fun lan =>
          decide (before.Complete ∧ (lan.server 2).iAm = .primaryWithoutBackup)) = some true := by
    decide +kernel
  obtain ⟨before, first, observed⟩ := Option.bind_eq_some_iff.mp observed
  obtain ⟨lan, second, values⟩ := Option.map_eq_some_iff.mp observed
  obtain ⟨complete, alone⟩ := of_decide_eq_true values
  have pair := complete.established
  refine ⟨before, lan, (System.Reaches.start threeServers_fresh).follow _ first, pair,
    (System.Reaches.start rfl).follow _ second, fun same => ?_⟩
  have kept := same.iAm
  rw [alone, pair.primary] at kept
  cases kept

end Lan

end Foolject
