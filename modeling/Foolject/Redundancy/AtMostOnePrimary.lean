import Foolject.Redundancy.Pairing

/-! Two servers and the role of a primary.

The higher of two addresses becomes primary at a question of the lower one, the
lower one only when its retries run out. The argument follows the first message of
the higher server: once the lower one is about to give up retrying, that message is
on its way, being answered, or answered, so that the higher one never comes near
its own limit.
-/

set_option autoImplicit false

namespace Foolject

namespace Server
variable {server : Server} {answer : Answer}

def Committed (server : Server) : Prop :=
  server.iAm.Primary ∨ server.pc = .promoteByCount ∨ server.pc = .promoteByAddress

def Waiting (server : Server) : Prop :=
  server.iAm = .whoAmI ∧ (server.pc = .whileNotQuit ∨ server.pc = .getMyRole ∨
    server.pc = .checkCount ∨ server.pc = .recvBroadCastMsg)

def Solo (server : Server) : Prop :=
  (server.iAm = .whoAmI ∨ server.iAm = .primaryWithoutBackup) ∧
  server.pc ≠ .answerCandidate ∧ server.pc ≠ .becomePrimary ∧ server.pc ≠ .becomeBackup

/-- Committed, or to be so without another timeout, when `own` of its own datagrams come back. -/
def Threat (server : Server) (own : Nat) : Prop :=
  server.Committed ∨ server.iAm = .whoAmI ∧ server.pc ≠ .setWhoAmI ∧ server.pc ≠ .broadcastMyRole ∧
    15 < server.negotiateCount + own

theorem Waiting.committed (waiting : server.Waiting) : ¬ server.Committed := by
  obtain ⟨asks, here⟩ := waiting
  rintro (primary | promoted)
  · rw [asks] at primary
    revert primary
    decide
  · rcases here with here | here | here | here <;> simp [here] at promoted

theorem Waiting.step_idle (answer : Answer) (waiting : server.Waiting) (regular : server.Regular)
    (few : server.negotiateCount ≤ 15) (elsewhere : server.pc ≠ .recvBroadCastMsg) :
    (server.step answer).Waiting ∧ (server.step answer).negotiateCount = server.negotiateCount := by
  obtain ⟨asks, here⟩ := waiting
  rcases here with here | here | here | here
  · simp [Server.step, Negotiate.step, here, regular.quit, Waiting, asks]
  · simp [Server.step, Negotiate.step, here, Waiting, asks]
  · have enough : ¬ (server.negotiateCount > negotiateMaxCount ∧ server.role = .whoAmI) :=
      fun many => absurd many.1 (Nat.not_lt.mpr few)
    rw [step_checkCount here, if_neg enough]
    exact ⟨⟨asks, .inr (.inr (.inr rfl))⟩, rfl⟩
  · exact absurd here elsewhere

theorem Waiting.broadcasts (waiting : server.Waiting) : ¬ server.Broadcasts := by
  obtain ⟨-, here⟩ := waiting
  rintro (tells | tells | tells) <;> rw [tells] at here <;> simp at here

/-- A server that was not committed commits by its count or by a datagram. -/
theorem Regular.commits (regular : server.Regular) (after : (server.step answer).Committed) :
    server.Committed ∨
    (server.pc = .checkCount ∧ server.negotiateCount > 15 ∧ server.role = .whoAmI) ∨
    server.pc = .recvBroadCastMsg ∧ (server.step answer).pc = .promoteByAddress := by
  have here := regular.here
  have quit := regular.quit
  cases at_ : server.pc with
  | recvBroadCastMsg =>
    obtain ⟨shared, -, -, -, uncounted⟩ := step_recv answer at_
    rcases after with primary | counted | addressed
    · rw [shared] at primary
      exact .inl (.inl primary)
    · exact absurd counted uncounted
    · exact .inr (.inr ⟨rfl, addressed⟩)
  | checkCount =>
    by_cases many : server.negotiateCount > negotiateMaxCount ∧ server.role = .whoAmI
    · exact .inr (.inl ⟨rfl, many⟩)
    · rw [step_checkCount at_, if_neg many] at after
      left
      simpa [Committed, at_] using after
  | _ =>
    left
    simp_all [Committed, Server.step, Negotiate.step, TRole.At, TRole.Primary, TRole.Paired,
      Redundancy.setMyRole, Redundancy.vnConnect]

theorem Regular.asked (answer : Answer) (regular : server.Regular)
    (elsewhere : server.pc ≠ .recvBroadCastMsg) (asks : (server.step answer).iAm = .whoAmI)
    (silent : (server.step answer).pc ≠ .broadcastMyRole) :
    server.iAm = .whoAmI ∧ server.pc ≠ .setWhoAmI ∧
    (server.step answer).negotiateCount = server.negotiateCount := by
  have here := regular.here
  cases at_ : server.pc with
  | recvBroadCastMsg => exact absurd at_ elsewhere
  | checkCount =>
    rw [step_checkCount at_] at asks ⊢
    exact ⟨asks, by simp, rfl⟩
  | _ =>
    simp_all [Server.step, Negotiate.step, TRole.At, Redundancy.setMyRole, Redundancy.vnConnect]

theorem Regular.stays_backup (regular : server.Regular) (backup : server.iAm = .backupWithPrimary) :
    (server.step answer).iAm = .backupWithPrimary := by
  have here := regular.here
  cases at_ : server.pc with
  | recvBroadCastMsg =>
    rw [(step_recv answer at_).1]
    exact backup
  | checkCount =>
    rw [step_checkCount at_]
    exact backup
  | _ =>
    simp_all [Server.step, Negotiate.step, TRole.At, Redundancy.vnConnect]

theorem Solo.step (solo : server.Solo) (regular : server.Regular)
    (elsewhere : server.pc ≠ .recvBroadCastMsg) : (server.step answer).Solo := by
  obtain ⟨role, apart⟩ := solo
  have here := regular.here
  have quit := regular.quit
  cases at_ : server.pc with
  | recvBroadCastMsg => exact absurd at_ elsewhere
  | checkCount =>
    rw [step_checkCount at_]
    refine ⟨role, ?_⟩
    dsimp only
    split <;> simp
  | _ =>
    rcases role with role | role <;>
      simp_all [Solo, Server.step, Negotiate.step, TRole.At, TRole.Paired, Redundancy.setMyRole]

theorem Solo.step_null (solo : server.Solo) (here : server.pc = .recvBroadCastMsg) {connection : Int} :
    (server.step ⟨.null, connection⟩).Solo := by
  rw [Server.step_null here]
  refine ⟨solo.1, ?_⟩
  dsimp only
  split <;> simp

end Server

namespace Lan
variable {ι : Type}

/-! ## Runs in order -/

/-- Datagrams are read in the order in which they were sent, and a receive comes back empty
only when nothing is queued at any server. -/
def InOrder (lan : Lan ι) : LanStep ι → Prop
  | .run i none _ => (lan.server i).pc = .recvBroadCastMsg → ∀ j, lan.inbox j = []
  | .run _ (some k) _ => k = 0
  | _ => True

instance [DecidableEq ι] [Fintype ι] (lan : Lan ι) : DecidablePred lan.InOrder
  | .run _ none _ => inferInstanceAs (Decidable (_ → _))
  | .run _ (some _) _ => inferInstanceAs (Decidable (_ = _))
  | .start _ => .isTrue trivial
  | .quit _ => .isTrue trivial

def Heard (a b : ι) (lan : Lan ι) : Prop :=
  ∃ datagram ∈ lan.heard a, datagram.source = b ∧ datagram.role = .whoAmI

instance [DecidableEq ι] (a b : ι) (lan : Lan ι) : Decidable (lan.Heard a b) :=
  inferInstanceAs (Decidable (∃ _ ∈ _, _))

/-- Server `b` does not run out of retries once a question of it has come to `a`. -/
def GivesUpUnheard (a b : ι) (lan : Lan ι) : LanStep ι → Prop
  | .run i _ _ => i = b → (lan.server b).pc = .checkCount →
      (lan.server b).negotiateCount > negotiateMaxCount → (lan.server b).role = .whoAmI →
      ¬ lan.Heard a b
  | _ => True

instance [DecidableEq ι] (a b : ι) (lan : Lan ι) : DecidablePred (lan.GivesUpUnheard a b)
  | .run _ _ _ => inferInstanceAs (Decidable (_ → _))
  | .start _ => .isTrue trivial
  | .quit _ => .isTrue trivial

inductive Reads (lan : Lan ι) (i : ι) : Received → List (Datagram ι) → Prop where
  | elsewhere : (lan.server i).pc ≠ .recvBroadCastMsg → Reads lan i .null (lan.inbox i)
  | timeout : (lan.server i).pc = .recvBroadCastMsg → (∀ j, lan.inbox j = []) →
      Reads lan i .null (lan.inbox i)
  | head {datagram : Datagram ι} {rest : List (Datagram ι)} :
      (lan.server i).pc = .recvBroadCastMsg → lan.inbox i = datagram :: rest →
      Reads lan i (lan.received datagram) rest

variable {lan : Lan ι} {i j : ι}

theorem Takes.reads {pick : Option Nat} {connection : Int} {received : Received}
    {left : List (Datagram ι)} (takes : lan.Takes i pick received left)
    (inOrder : lan.InOrder (.run i pick connection)) : lan.Reads i received left := by
  cases takes with
  | nothing idle =>
    by_cases here : (lan.server i).pc = .recvBroadCastMsg
    · obtain rfl := idle here
      exact .timeout here (inOrder here)
    · exact .elsewhere here
  | @datagram k datagram here found =>
    cases inOrder
    cases queue : lan.inbox i with
    | nil =>
      rw [queue] at found
      cases found
    | cons head rest =>
      rw [queue] at found
      cases found
      exact .head here queue

theorem Reads.nothing {received : Received} {left : List (Datagram ι)} (reads : lan.Reads i received left)
    (none : (lan.server i).pc ≠ .recvBroadCastMsg ∨ lan.inbox i = []) : received = .null ∧ left = lan.inbox i := by
  cases reads with
  | elsewhere => exact ⟨rfl, rfl⟩
  | timeout => exact ⟨rfl, rfl⟩
  | head here queue =>
    rcases none with elsewhere | empty
    · exact absurd here elsewhere
    · rw [queue] at empty
      cases empty

theorem delivered_quiet (quiet : ¬ (lan.server i).Broadcasts) : lan.delivered i j = [] := by
  simp only [delivered, sent, Negotiate.broadcast, if_neg quiet]
  exact ite_self _

theorem delivered_role (here : (lan.server i).pc = .broadcastMyRole)
    (bound : (lan.server j).bound = true) :
    lan.delivered i j = [⟨i, (lan.server i).iAm, none⟩] := by
  have broadcasts : (lan.server i).Broadcasts := .inl here
  simp only [delivered, sent, Negotiate.broadcast, if_pos broadcasts, bound]
  simp [here, Redundancy.getMyRole]

theorem delivered_answer (here : (lan.server i).pc = .answerCandidate)
    (bound : (lan.server j).bound = true) :
    lan.delivered i j = [⟨i, (lan.server i).iAm, some (lan.server i).remoteIp⟩] := by
  have broadcasts : (lan.server i).Broadcasts := .inr (.inl here)
  simp only [delivered, sent, Negotiate.broadcast, if_pos broadcasts, bound]
  simp [here, Redundancy.getMyRole]

/-! ## The first message of the higher server -/

def Own (i : ι) (queue : List (Datagram ι)) : Prop := ∀ datagram ∈ queue, datagram.source = i

theorem Own.append {queue more : List (Datagram ι)} (queued : Own i queue) (sent : Own i more) :
    Own i (queue ++ more) := by
  intro datagram member
  rcases List.mem_append.mp member with old | new
  · exact queued datagram old
  · exact sent datagram new

theorem own_delivered (lan : Lan ι) (i j : ι) : Own i (lan.delivered i j) := by
  intro datagram member
  obtain ⟨-, -, rfl⟩ := mem_delivered member
  rfl

/-- A server that hears only itself, with a bound on what its count comes to without another
timeout. -/
structure Waits (i : ι) (limit : Nat) (lan : Lan ι) : Prop where
  waiting : (lan.server i).Waiting
  own : Own i (lan.inbox i)
  few : (lan.server i).negotiateCount + (lan.inbox i).length ≤ limit

/-- How far the first message of `a` and its answer have come, and how often `a` can still
count before it gets the answer. -/
inductive Approach (a b : ι) (lan : Lan ι) : Prop where
  | silent : (lan.server a).iAm = .whoAmI →
      ((lan.server a).pc = .setWhoAmI ∨ (lan.server a).pc = .broadcastMyRole) →
      (lan.server a).negotiateCount = 0 → lan.inbox a = [] →
      Own b (lan.inbox b) → (lan.server b).Solo → Approach a b lan
  | asked (own : List (Datagram ι)) : lan.Waits a 1 →
      lan.inbox b = own ++ [⟨a, .whoAmI, none⟩] → Own b own → (lan.server b).Solo → Approach a b lan
  | read : (lan.server b).pc = .answerCandidate → lan.Waits a 1 → lan.inbox b = [] → Approach a b lan
  | repeats : (lan.server b).pc = .answerCandidate → (lan.server a).iAm = .whoAmI →
      (lan.server a).pc = .broadcastMyRole → Own a (lan.inbox a) →
      (lan.server a).negotiateCount + (lan.inbox a).length ≤ 2 → lan.inbox b = [] → Approach a b lan
  | repeated {datagram : Datagram ι} : (lan.server b).pc = .answerCandidate → lan.Waits a 3 →
      lan.inbox b = [datagram] → Approach a b lan
  | answered (own rest : List (Datagram ι)) (candidate : Option IpAddress) :
      (lan.server a).iAm = .whoAmI →
      (lan.server a).Waiting ∨ (lan.server a).pc = .broadcastMyRole →
      lan.inbox a = own ++ ⟨b, .primaryWithoutBackup, candidate⟩ :: rest → Own a own →
      (lan.server a).negotiateCount + own.length ≤ 3 → Approach a b lan
  | backup : (lan.server a).pc = .becomeBackup ∨ (lan.server a).iAm = .backupWithPrimary →
      Approach a b lan

variable {serverId : Int} {ip : ι → IpAddress} {a b : ι} {received : Received} {connection : Int}
  {left : List (Datagram ι)}

theorem Approach.uncommitted (approach : lan.Approach a b) (regular : (lan.server a).Regular) :
    ¬ (lan.server a).Committed := by
  have here := regular.here
  have idle : (lan.server a).iAm = .whoAmI → (lan.server a).pc = .setWhoAmI ∨
      (lan.server a).pc = .broadcastMyRole → ¬ (lan.server a).Committed := by
    rintro asks (at_ | at_) <;> simp [Server.Committed, asks, at_, TRole.Primary]
  cases approach with
  | silent asks at_ => exact idle asks at_
  | asked _ waits => exact waits.waiting.committed
  | read _ waits => exact waits.waiting.committed
  | repeats _ asks at_ => exact idle asks (.inr at_)
  | repeated _ waits => exact waits.waiting.committed
  | answered _ _ _ asks waiting =>
    rcases waiting with waiting | at_
    · exact waiting.committed
    · exact idle asks (.inr at_)
  | backup becomes =>
    rcases becomes with at_ | backup
    · rw [at_] at here
      have asks : (lan.server a).iAm = .whoAmI := here
      simp [Server.Committed, asks, at_, TRole.Primary]
    · rintro (primary | counted | addressed)
      · simp [backup, TRole.Primary] at primary
      · rw [counted, backup] at here
        cases here
      · rw [addressed, backup] at here
        cases here

theorem Group.step_waiting_own (connection : Int) (group : lan.Group serverId ip) (waiting : (lan.server i).Waiting)
    (here : (lan.server i).pc = .recvBroadCastMsg) {datagram : Datagram ι} (own : datagram.source = i) :
    ((lan.server i).step ⟨lan.received datagram, connection⟩).Waiting ∧
    ((lan.server i).step ⟨lan.received datagram, connection⟩).negotiateCount =
      (lan.server i).negotiateCount + 1 := by
  have read := (group.regular i).read (.inr here)
  rw [group.step_echo here (congrArg ip own), read, waiting.1]
  exact ⟨⟨waiting.1, .inl rfl⟩, rfl⟩

variable [DecidableEq ι]

theorem Waits.advance (connection : Int) {limit : Nat} (waits : lan.Waits i limit) (small : limit ≤ 15)
    (group : lan.Group serverId ip) (reads : lan.Reads i received left)
    (busy : (lan.server i).pc = .recvBroadCastMsg → ∃ j, lan.inbox j ≠ []) :
    (lan.advance i ⟨received, connection⟩ left).Waits i limit ∧
    ∀ j, j ≠ i → (lan.advance i ⟨received, connection⟩ left).inbox j = lan.inbox j := by
  obtain ⟨waiting, own, few⟩ := waits
  have silent : ∀ j, lan.delivered i j = [] := fun j => delivered_quiet waiting.broadcasts
  refine ⟨?_, fun j other => by rw [advance_inbox_other _ _ other, silent, List.append_nil]⟩
  cases reads with
  | elsewhere elsewhere =>
    obtain ⟨still, count⟩ := waiting.step_idle ⟨.null, connection⟩ (group.regular i)
      (by omega) elsewhere
    constructor
    · rwa [advance_server_self]
    · rwa [advance_inbox_self, silent, List.append_nil]
    · rwa [advance_server_self, advance_inbox_self, silent, List.append_nil, count]
  | timeout here empty =>
    obtain ⟨j, queued⟩ := busy here
    exact absurd (empty j) queued
  | @head datagram rest here queue =>
    rw [queue] at own few
    have mine : datagram.source = i := own datagram List.mem_cons_self
    obtain ⟨still, count⟩ := group.step_waiting_own connection waiting here mine
    constructor
    · rwa [advance_server_self]
    · rw [advance_inbox_self, silent, List.append_nil]
      exact fun other member => own other (List.mem_cons_of_mem _ member)
    · rw [advance_server_self, advance_inbox_self, silent, List.append_nil, count]
      rw [List.length_cons] at few
      omega

/-- The higher server has not asked, or asks for the first time. -/
theorem Approach.silent_first (asks : (lan.server a).iAm = .whoAmI)
    (at_ : (lan.server a).pc = .setWhoAmI ∨ (lan.server a).pc = .broadcastMyRole)
    (zero : (lan.server a).negotiateCount = 0) (own : Own b (lan.inbox b))
    (solo : (lan.server b).Solo) (apart : a ≠ b) (bound : ∀ i, (lan.server i).bound = true) :
    (lan.advance a ⟨.null, connection⟩ []).Approach a b := by
  have other : (lan.advance a ⟨.null, connection⟩ []).server b = lan.server b :=
    advance_server_other _ _ apart.symm
  rcases at_ with at_ | at_
  · -- The first message is still to be sent.
    have silent : ∀ j, lan.delivered a j = [] := fun j => delivered_quiet (by
      rintro (tells | tells | tells) <;> rw [at_] at tells <;> cases tells)
    refine .silent ?_ (.inr ?_) ?_ ?_ ?_ ?_
    · simp [Server.step, Negotiate.step, at_, Redundancy.setMyRole]
    · simp [Server.step, Negotiate.step, at_]
    · simpa [Server.step, Negotiate.step, at_] using zero
    · rw [advance_inbox_self, silent, List.append_nil]
    · rwa [advance_inbox_other _ _ apart.symm, silent, List.append_nil]
    · rwa [other]
  · have told : ∀ j, lan.delivered a j = [⟨a, .whoAmI, none⟩] := fun j => by
      rw [delivered_role at_ (bound j), asks]
    refine .asked (lan.inbox b) ⟨?_, ?_, ?_⟩ ?_ own ?_
    · simp [Server.step, Negotiate.step, at_, Server.Waiting, asks]
    · simp [told, Own]
    · simp [Server.step, Negotiate.step, at_, zero, told]
    · rw [advance_inbox_other _ _ apart.symm, told]
    · rwa [other]

/-- Both inboxes are empty: the only timeout that is left to the higher server. -/
theorem Approach.read_times (answering : (lan.server b).pc = .answerCandidate) (waits : lan.Waits a 1)
    (queue : lan.inbox b = []) (group : lan.Group serverId ip) (apart : a ≠ b)
    (here : (lan.server a).pc = .recvBroadCastMsg) :
    (lan.advance a ⟨.null, connection⟩ []).Approach a b := by
  have other : (lan.advance a ⟨.null, connection⟩ []).server b = lan.server b :=
    advance_server_other _ _ apart.symm
  have role : (lan.server a).role = .whoAmI :=
    ((group.regular a).read (.inr here)).trans waits.waiting.1
  have silent : ∀ j, lan.delivered a j = [] := fun j => delivered_quiet waits.waiting.broadcasts
  have few := waits.few
  refine .repeats (by rwa [other]) ?_ ?_ ?_ ?_ ?_
  · rw [advance_server_self, Server.step_null here]
    exact waits.waiting.1
  · rw [advance_server_self, Server.step_null here, if_pos role]
  · simp [silent, Own]
  · rw [advance_server_self, advance_inbox_self, Server.step_null here, silent]
    simp only [role, if_true, List.append_nil, List.length_nil]
    omega
  · rw [advance_inbox_other _ _ apart.symm, silent, queue, List.append_nil]

theorem Approach.repeats_first (answering : (lan.server b).pc = .answerCandidate)
    (asks : (lan.server a).iAm = .whoAmI) (at_ : (lan.server a).pc = .broadcastMyRole)
    (own : Own a (lan.inbox a)) (few : (lan.server a).negotiateCount + (lan.inbox a).length ≤ 2)
    (empty : lan.inbox b = []) (apart : a ≠ b) (bound : ∀ i, (lan.server i).bound = true) :
    (lan.advance a ⟨.null, connection⟩ (lan.inbox a)).Approach a b := by
  -- The answer is still on its way when the question is sent again.
  have other : (lan.advance a ⟨.null, connection⟩ (lan.inbox a)).server b = lan.server b :=
    advance_server_other _ _ apart.symm
  have told : ∀ j, lan.delivered a j = [⟨a, .whoAmI, none⟩] := fun j => by
    rw [delivered_role at_ (bound j), asks]
  have queue : (lan.advance a ⟨.null, connection⟩ (lan.inbox a)).inbox b = [⟨a, .whoAmI, none⟩] := by
    rw [advance_inbox_other _ _ apart.symm, told, empty, List.nil_append]
  refine .repeated (by rwa [other]) ⟨?_, ?_, ?_⟩ queue
  · simp [Server.step, Negotiate.step, at_, Server.Waiting, asks]
  · rw [advance_inbox_self]
    exact own.append (own_delivered lan a a)
  · rw [advance_inbox_self, told]
    simp only [advance_server_self, Server.step, Negotiate.step, at_, List.length_append,
      List.length_singleton]
    omega

/-- The higher server waits, and the answer is queued behind echoes of its own questions. -/
theorem Approach.answered_waits {own rest : List (Datagram ι)} {candidate : Option IpAddress}
    (waiting : (lan.server a).Waiting)
    (queue : lan.inbox a = own ++ ⟨b, .primaryWithoutBackup, candidate⟩ :: rest) (mine : Own a own)
    (few : (lan.server a).negotiateCount + own.length ≤ 3) (group : lan.Group serverId ip)
    (differ : ip a ≠ ip b) (reads : lan.Reads a received left) :
    (lan.advance a ⟨received, connection⟩ left).Approach a b := by
  have silent : ∀ j, lan.delivered a j = [] := fun j => delivered_quiet waiting.broadcasts
  cases reads with
  | elsewhere elsewhere =>
    obtain ⟨still, count⟩ := waiting.step_idle ⟨.null, connection⟩ (group.regular a)
      (by omega) elsewhere
    refine .answered own rest candidate ?_ (.inl ?_) ?_ mine ?_
    · rw [advance_server_self]
      exact still.1
    · rwa [advance_server_self]
    · rw [advance_inbox_self, queue, silent, List.append_nil]
    · rwa [advance_server_self, count]
  | timeout _ empty =>
    have none := empty a
    simp [queue] at none
  | head here first =>
    rw [queue] at first
    cases own with
    | nil =>
      -- The answer itself.
      cases first
      have role : (lan.server a).role = .whoAmI := ((group.regular a).read (.inr here)).trans waiting.1
      refine .backup (.inl ?_)
      rw [advance_server_self, group.step_received here differ.symm, role]
      rfl
    | cons datagram own =>
      -- An echo that is queued before it.
      cases first
      obtain ⟨still, count⟩ := group.step_waiting_own connection waiting here
        (mine _ List.mem_cons_self)
      rw [List.length_cons] at few
      refine .answered own rest candidate ?_ (.inl ?_) ?_
        (fun other member => mine other (List.mem_cons_of_mem _ member)) ?_
      · rw [advance_server_self]
        exact still.1
      · rwa [advance_server_self]
      · rw [advance_inbox_self, silent, List.append_nil]
        rfl
      · rw [advance_server_self, count]
        omega

theorem Approach.run_first (approach : lan.Approach a b) (group : lan.Group serverId ip)
    (apart : a ≠ b) (differ : ip a ≠ ip b) (bound : ∀ i, (lan.server i).bound = true)
    (reads : lan.Reads a received left) :
    (lan.advance a ⟨received, connection⟩ left).Approach a b := by
  have other : (lan.advance a ⟨received, connection⟩ left).server b = lan.server b :=
    advance_server_other _ _ apart.symm
  cases approach with
  | silent asks at_ zero empty own solo =>
    obtain ⟨rfl, nothing⟩ := reads.nothing (.inr empty)
    obtain rfl : left = [] := nothing.trans empty
    exact .silent_first asks at_ zero own solo apart bound
  | asked own waits queue mine solo =>
    obtain ⟨still, same⟩ := waits.advance connection (by decide) group reads
      fun _ => ⟨b, by simp [queue]⟩
    exact .asked own still ((same b apart.symm).trans queue) mine (by rwa [other])
  | read answering waits empty =>
    by_cases times : (lan.server a).pc = .recvBroadCastMsg ∧ lan.inbox a = []
    · obtain ⟨here, none⟩ := times
      obtain ⟨rfl, nothing⟩ := reads.nothing (.inr none)
      obtain rfl : left = [] := nothing.trans none
      exact .read_times answering waits empty group apart here
    · obtain ⟨still, same⟩ := waits.advance connection (by decide) group reads
        fun here => ⟨a, fun none => times ⟨here, none⟩⟩
      exact .read (by rwa [other]) still ((same b apart.symm).trans empty)
  | repeats answering asks at_ own few empty =>
    obtain ⟨rfl, rfl⟩ := reads.nothing (.inl fun here => by cases at_.symm.trans here)
    exact .repeats_first answering asks at_ own few empty apart bound
  | repeated answering waits queue =>
    obtain ⟨still, same⟩ := waits.advance connection (by decide) group reads
      fun _ => ⟨b, by simp [queue]⟩
    exact .repeated (by rwa [other]) still ((same b apart.symm).trans queue)
  | answered own rest candidate asks waiting queue mine few =>
    rcases waiting with waiting | at_
    · exact .answered_waits waiting queue mine few group differ reads
    · obtain ⟨rfl, rfl⟩ := reads.nothing (.inl fun here => by cases at_.symm.trans here)
      refine .answered own (rest ++ lan.delivered a a) candidate ?_ (.inl ?_) ?_ mine ?_
      · simpa [Server.step, Negotiate.step, at_] using asks
      · simp [Server.step, Negotiate.step, at_, Server.Waiting, asks]
      · rw [advance_inbox_self, queue]
        simp
      · simpa [Server.step, Negotiate.step, at_] using few
  | backup becomes =>
    rcases becomes with at_ | backup
    · refine .backup (.inr ?_)
      simp [Server.step, Negotiate.step, at_, Redundancy.setMyRole]
    · refine .backup (.inr ?_)
      rw [advance_server_self]
      exact (group.regular a).stays_backup backup

def echoes (lan : Lan ι) (i : ι) : Nat := (lan.inbox i).countP fun datagram => datagram.source = i

theorem Group.quiet (group : lan.Group serverId ip) (bound : (lan.server a).bound = true)
    (role : (lan.server b).iAm = .whoAmI ∨ (lan.server b).iAm = .primaryWithoutBackup)
    (idle : (lan.server b).pc ≠ .answerCandidate)
    (unheard : ¬ (lan.advance b ⟨received, connection⟩ left).Heard a b) : lan.delivered b j = [] := by
  -- A server of which no question has come to `a` sends nothing, unless it answers.
  have here := (group.regular b).here
  refine delivered_quiet ?_
  rintro (at_ | at_ | at_)
  · rcases role with asks | alone
    · refine unheard ⟨⟨b, .whoAmI, none⟩, ?_, rfl, rfl⟩
      rw [advance_heard, delivered_role at_ bound, asks]
      exact List.mem_append_right _ List.mem_cons_self
    · rw [at_] at here
      exact absurd alone here
  · exact absurd at_ idle
  · rw [at_] at here
    cases here

omit [DecidableEq ι] in
theorem Group.step_solo_own (group : lan.Group serverId ip) (solo : (lan.server i).Solo)
    (here : (lan.server i).pc = .recvBroadCastMsg) {datagram : Datagram ι} (own : datagram.source = i) :
    ((lan.server i).step ⟨lan.received datagram, connection⟩).Solo := by
  rw [group.step_echo here (congrArg ip own)]
  exact ⟨solo.1, by simp⟩

omit [DecidableEq ι] in
/-- A server that hears only itself goes on alone. -/
theorem Group.step_solo (group : lan.Group serverId ip) (solo : (lan.server i).Solo)
    (own : Own i (lan.inbox i)) (reads : lan.Reads i received left) :
    ((lan.server i).step ⟨received, connection⟩).Solo ∧ Own i left := by
  cases reads with
  | elsewhere elsewhere => exact ⟨solo.step (group.regular i) elsewhere, own⟩
  | timeout here => exact ⟨solo.step_null here, own⟩
  | head here queue =>
    rw [queue] at own
    exact ⟨group.step_solo_own solo here (own _ List.mem_cons_self),
      fun datagram member => own datagram (List.mem_cons_of_mem _ member)⟩

theorem Approach.answers (group : lan.Group serverId ip) (apart : a ≠ b)
    (bound : ∀ i, (lan.server i).bound = true) (at_ : (lan.server b).pc = .answerCandidate)
    (asks : (lan.server a).iAm = .whoAmI)
    (waiting : (lan.server a).Waiting ∨ (lan.server a).pc = .broadcastMyRole) (own : Own a (lan.inbox a))
    (few : (lan.server a).negotiateCount + (lan.inbox a).length ≤ 3) :
    (lan.advance b ⟨received, connection⟩ left).Approach a b := by
  -- The lower server answers the question.
  have other : (lan.advance b ⟨received, connection⟩ left).server a = lan.server a :=
    advance_server_other _ _ apart
  have here := (group.regular b).here
  rw [at_] at here
  have primary : (lan.server b).iAm = .primaryWithoutBackup := here
  refine .answered (lan.inbox a) [] (some (lan.server b).remoteIp) ?_ ?_ ?_ own ?_
  · rwa [other]
  · rwa [other]
  · rw [advance_inbox_other _ _ apart, delivered_answer at_ (bound a), primary]
  · rwa [other]

theorem Approach.asked_second {own : List (Datagram ι)} (waits : lan.Waits a 1)
    (queue : lan.inbox b = own ++ [⟨a, .whoAmI, none⟩]) (mine : Own b own) (solo : (lan.server b).Solo)
    (group : lan.Group serverId ip) (apart : a ≠ b) (differ : ip a ≠ ip b)
    (threat : (lan.server b).Threat (lan.echoes b)) (quiet : ∀ j, lan.delivered b j = [])
    (reads : lan.Reads b received left) : (lan.advance b ⟨received, connection⟩ left).Approach a b := by
  have other : (lan.advance b ⟨received, connection⟩ left).server a = lan.server a :=
    advance_server_other _ _ apart
  have inbox : (lan.advance b ⟨received, connection⟩ left).inbox a = lan.inbox a := by
    rw [advance_inbox_other _ _ apart, quiet, List.append_nil]
  have still : (lan.advance b ⟨received, connection⟩ left).Waits a 1 := by
    constructor
    · rw [other]
      exact waits.waiting
    · rw [inbox]
      exact waits.own
    · rw [other, inbox]
      exact waits.few
  cases reads with
  | elsewhere elsewhere =>
    refine .asked own still ?_ mine ?_
    · rw [advance_inbox_self, quiet, List.append_nil, queue]
    · rw [advance_server_self]
      exact solo.step (group.regular b) elsewhere
  | timeout _ empty =>
    have none := empty b
    simp [queue] at none
  | head here first =>
    rw [queue] at first
    cases own with
    | nil =>
      -- The question of `a`, which finds `b` a primary.
      cases first
      have role := (group.regular b).read (.inr here)
      rcases solo.1 with asks | alone
      · have below := (group.regular b).below here asks
        rcases threat with committed | ⟨-, -, -, many⟩
        · exact absurd committed (Server.Waiting.committed ⟨asks, .inr (.inr (.inr here))⟩)
        · simp only [echoes, queue, List.nil_append, List.countP_singleton, apart] at many
          simp at many
          omega
      · refine .read ?_ still ?_
        · rw [advance_server_self, group.step_received here differ, role,
            alone]
          rfl
        · rw [advance_inbox_self, quiet]
          rfl
    | cons datagram own =>
      cases first
      refine .asked own still ?_ (fun other member => mine other (List.mem_cons_of_mem _ member)) ?_
      · rw [advance_inbox_self, quiet, List.append_nil]
        rfl
      · rw [advance_server_self]
        exact group.step_solo_own solo here (mine _ List.mem_cons_self)

/-- The lower server takes a step that does not bring a question of it to the higher one. -/
theorem Approach.run_second (approach : lan.Approach a b) (group : lan.Group serverId ip)
    (apart : a ≠ b) (differ : ip a ≠ ip b) (bound : ∀ i, (lan.server i).bound = true)
    (threat : (lan.server b).Threat (lan.echoes b)) (reads : lan.Reads b received left)
    (unheard : ¬ (lan.advance b ⟨received, connection⟩ left).Heard a b) :
    (lan.advance b ⟨received, connection⟩ left).Approach a b := by
  have other : (lan.advance b ⟨received, connection⟩ left).server a = lan.server a :=
    advance_server_other _ _ apart
  have inbox : (lan.advance b ⟨received, connection⟩ left).inbox a = lan.inbox a ++ lan.delivered b a :=
    advance_inbox_other _ _ apart
  cases approach with
  | silent asks at_ zero empty own solo =>
    have quiet : ∀ j, lan.delivered b j = [] := fun j => group.quiet (bound a) solo.1 solo.2.1 unheard
    obtain ⟨alone, mine⟩ := group.step_solo solo own reads
    refine .silent ?_ ?_ ?_ ?_ ?_ ?_
    · rwa [other]
    · rwa [other]
    · rwa [other]
    · rw [inbox, quiet, empty, List.append_nil]
    · rwa [advance_inbox_self, quiet, List.append_nil]
    · rwa [advance_server_self]
  | asked own waits queue mine solo =>
    have quiet : ∀ j, lan.delivered b j = [] := fun j => group.quiet (bound a) solo.1 solo.2.1 unheard
    exact .asked_second waits queue mine solo group apart differ threat quiet reads
  | read at_ waits empty =>
    exact .answers group apart bound at_ waits.waiting.1 (.inl waits.waiting) waits.own
      (waits.few.trans (by decide))
  | repeats at_ asks tells own few empty =>
    exact .answers group apart bound at_ asks (.inr tells) own (few.trans (by decide))
  | repeated at_ waits _ =>
    exact .answers group apart bound at_ waits.waiting.1 (.inl waits.waiting) waits.own waits.few
  | answered own rest candidate asks waiting queue mine few =>
    refine .answered own (rest ++ lan.delivered b a) candidate ?_ ?_ ?_ mine ?_
    · rwa [other]
    · rwa [other]
    · rw [inbox, queue]
      simp
    · rwa [other]
  | backup becomes =>
    refine .backup ?_
    rwa [other]

/-! ## The invariant -/

theorem advance_bound (answer : Answer) :
    ((lan.advance i answer left).server j).bound = (lan.server j).bound :=
  advance_server_forall _ _ (fun j server => server.bound = (lan.server j).bound) rfl
    (fun _ _ => rfl) j

theorem heard_advance (answer : Answer) (heard : lan.Heard a b) :
    (lan.advance i answer left).Heard a b := by
  obtain ⟨datagram, member, question⟩ := heard
  exact ⟨datagram, List.mem_append_left _ member, question⟩

theorem reaction_promoteByAddress {remote role : TRole} {higher : Bool}
    (promotes : Negotiate.reaction remote role higher = .promoteByAddress) :
    remote = .whoAmI ∧ higher = true := by
  revert promotes
  cases remote <;> cases role <;> cases higher <;> decide

omit [DecidableEq ι] in
/-- A promotion by address answers a question of a lower server. -/
theorem Group.promoted_by (group : lan.Group serverId ip) (reads : lan.Reads i received left)
    (here : (lan.server i).pc = .recvBroadCastMsg)
    (after : ((lan.server i).step ⟨received, connection⟩).pc = .promoteByAddress) :
    ∃ datagram ∈ lan.inbox i, datagram.role = .whoAmI ∧ datagram.source ≠ i ∧
      0 < (ip i).stricmp (ip datagram.source) := by
  have quiet : ((lan.server i).step ⟨.null, connection⟩).pc ≠ .promoteByAddress := by
    rw [Server.step_null here]
    dsimp only
    split <;> simp
  cases reads with
  | elsewhere => exact absurd after quiet
  | timeout => exact absurd after quiet
  | @head datagram rest _ queue =>
    by_cases same : ip datagram.source = ip i
    · rw [group.step_echo here same] at after
      cases after
    · rw [group.step_received here same] at after
      obtain ⟨question, higher⟩ := reaction_promoteByAddress after
      exact ⟨datagram, queue ▸ List.mem_cons_self, question, fun equal => same (equal ▸ rfl),
        of_decide_eq_true higher⟩

omit [DecidableEq ι] in
theorem Group.lower_keeps (group : lan.Group serverId ip) (two : ∀ i, i = a ∨ i = b)
    (higher : 0 < (ip a).stricmp (ip b)) (reads : lan.Reads b received left)
    (here : (lan.server b).pc = .recvBroadCastMsg) :
    ((lan.server b).step ⟨received, connection⟩).pc ≠ .promoteByAddress := by
  intro promoted
  obtain ⟨datagram, -, -, other, lower⟩ := group.promoted_by reads here promoted
  rw [(two datagram.source).resolve_right other, IpAddress.stricmp_swap] at lower
  omega

/-- A server that threatens after a step on which the other one heard no question of it did so
before. -/
theorem Group.threat_run (group : lan.Group serverId ip) (two : ∀ i, i = a ∨ i = b)
    (differ : ip a ≠ ip b) (higher : 0 < (ip a).stricmp (ip b))
    (bound : (lan.server a).bound = true) (reads : lan.Reads b received left)
    (unheard : ¬ (lan.advance b ⟨received, connection⟩ left).Heard a b)
    (after : ((lan.server b).step ⟨received, connection⟩).Threat
      ((lan.advance b ⟨received, connection⟩ left).echoes b)) :
    (lan.server b).Threat (lan.echoes b) := by
  have regular := group.regular b
  rcases after with committed | ⟨asks, -, silent, many⟩
  · rcases regular.commits committed with committed | ⟨here, many, role⟩ | ⟨here, promoted⟩
    · exact .inl committed
    · have asks : (lan.server b).iAm = .whoAmI := (regular.read (.inl here)).symm.trans role
      exact .inr ⟨asks, by simp [here], by simp [here], Nat.lt_add_right _ many⟩
    · exact absurd promoted (group.lower_keeps two higher reads here)
  · have asked : (lan.server b).iAm = .whoAmI := by
      by_cases here : (lan.server b).pc = .recvBroadCastMsg
      · rwa [(Server.step_recv _ here).1] at asks
      · exact (regular.asked _ here asks silent).1
    have idle : (lan.server b).pc ≠ .answerCandidate := by
      intro at_
      have primary := regular.here
      rw [at_, asked] at primary
      cases primary
    have quiet : ∀ j, lan.delivered b j = [] := fun j => group.quiet bound (.inl asked) idle unheard
    rw [echoes, advance_inbox_self, quiet, List.append_nil] at many
    cases reads with
    | elsewhere elsewhere =>
      obtain ⟨-, started, count⟩ := regular.asked _ elsewhere asks silent
      refine .inr ⟨asked, started, fun tells => ?_, by rwa [count] at many⟩
      have told : lan.delivered b a ≠ [] := by
        rw [delivered_role tells bound]
        simp
      exact told (quiet a)
    | timeout here =>
      have role := (regular.read (.inr here)).trans asked
      rw [Server.step_null here, if_pos role] at silent
      exact absurd rfl silent
    | @head datagram rest here queue =>
      have role := (regular.read (.inr here)).trans asked
      refine .inr ⟨asked, by simp [here], by simp [here], ?_⟩
      rw [echoes, queue, List.countP_cons]
      rcases two datagram.source with other | own
      · have apart : ip datagram.source ≠ ip b := by rwa [other]
        rw [group.step_received here apart] at many
        exact Nat.lt_of_lt_of_le many (by simp)
      · rw [group.step_echo here (congrArg ip own), role, if_pos rfl] at many
        simp only [own, decide_true, if_true]
        dsimp only at many
        omega

/-- What holds of two servers in order, of which `a` has the higher address. -/
structure Apart (a b : ι) (lan : Lan ι) : Prop where
  queued : ∀ datagram ∈ lan.inbox a, datagram ∈ lan.heard a
  unbound : ∀ i, (lan.server i).bound = false → (lan.server i).iAm = .whoAmI ∧
    (lan.server i).pc = .setWhoAmI ∧ (lan.server i).negotiateCount = 0 ∧ lan.inbox i = []
  alone : (lan.server a).bound = false → Own b (lan.inbox b) ∧ (lan.server b).Solo
  asked : lan.Heard a b → ¬ (lan.server b).Committed
  approach : (lan.server a).bound = true → ¬ lan.Heard a b →
    (lan.server b).Threat (lan.echoes b) → lan.Approach a b

theorem Fresh.apart (fresh : lan.Fresh serverId ip) : lan.Apart a b := by
  have solo : (lan.server b).Solo := by
    obtain ⟨mateIp, same⟩ := fresh.server b
    rw [same]
    simp [Server.Solo, Negotiate.start]
  refine ⟨?_, fun i _ => ?_, fun _ => ⟨?_, solo⟩, ?_, fun bound => ?_⟩
  · rw [fresh.inbox a]
    exact fun _ member => absurd member List.not_mem_nil
  · obtain ⟨mateIp, same⟩ := fresh.server i
    rw [same]
    exact ⟨rfl, rfl, rfl, fresh.inbox i⟩
  · rw [fresh.inbox b]
    exact fun _ member => absurd member List.not_mem_nil
  · rintro ⟨datagram, member, -⟩
    rw [fresh.heard a] at member
    cases member
  · obtain ⟨mateIp, same⟩ := fresh.server a
    rw [same] at bound
    cases bound

theorem Apart.bound_of_threat (holds : lan.Apart a b) (own : Nat) (threat : (lan.server i).Threat own) :
    (lan.server i).bound = true := by
  by_contra unbound
  obtain ⟨asks, at_, -⟩ := holds.unbound i (by simpa using unbound)
  rcases threat with committed | ⟨-, started, -⟩
  · simp [Server.Committed, asks, at_, TRole.Primary] at committed
  · exact started at_

theorem Apart.atMostOne (holds : lan.Apart a b) (group : lan.Group serverId ip) :
    ¬ ((lan.server a).iAm.Primary ∧ (lan.server b).iAm.Primary) := by
  rintro ⟨first, second⟩
  by_cases heard : lan.Heard a b
  · exact holds.asked heard (.inl second)
  · have bound : (lan.server a).bound = true := holds.bound_of_threat 0 (.inl (.inl first))
    exact (holds.approach bound heard (.inl (.inl second))).uncommitted (group.regular a) (.inl first)

theorem Apart.apply_start (holds : lan.Apart a b) (two : ∀ i, i = a ∨ i = b)
    {next : Lan ι} (applied : lan.apply (.start i) = some next) : next.Apart a b := by
  obtain ⟨unbound, now, inbox, heard, each, others⟩ := Lan.apply_start applied
  have same : next.Heard a b ↔ lan.Heard a b := by rw [Heard, Heard, heard]
  have before : ∀ j, (next.server j).bound = false → (lan.server j).bound = false := by
    intro j unbound
    by_cases equal : j = i
    · rw [equal, now] at unbound
      cases unbound
    · rwa [others j equal] at unbound
  obtain ⟨bound, at_b⟩ := each b
  refine ⟨?_, fun j unbound => ?_, fun unbound => ?_, fun heard => ?_, fun bound unheard threat => ?_⟩
  · rw [inbox, heard]
    exact holds.queued
  · obtain ⟨_, at_⟩ := each j
    rw [at_, inbox]
    exact holds.unbound j (before j unbound)
  · rw [inbox, at_b]
    exact holds.alone (before a unbound)
  · rw [at_b]
    exact holds.asked (same.mp heard)
  · rcases two i with rfl | rfl
    · obtain ⟨_, at_a⟩ := each i
      obtain ⟨asks, at_, zero, empty⟩ := holds.unbound i unbound
      obtain ⟨own, solo⟩ := holds.alone unbound
      refine .silent ?_ (.inl ?_) ?_ ?_ ?_ ?_
      · rwa [at_a]
      · rwa [at_a]
      · rwa [at_a]
      · rwa [inbox]
      · rwa [inbox]
      · rw [at_b]
        exact solo
    · rw [at_b, echoes, inbox] at threat
      have bound := holds.bound_of_threat _ (threat : (lan.server i).Threat _)
      rw [unbound] at bound
      cases bound

theorem unbound_advance (answer : Answer) (bound : (lan.server i).bound = true)
    (unbound : ∀ j, (lan.server j).bound = false → (lan.server j).iAm = .whoAmI ∧
      (lan.server j).pc = .setWhoAmI ∧ (lan.server j).negotiateCount = 0 ∧ lan.inbox j = []) (j : ι)
    (after : ((lan.advance i answer left).server j).bound = false) :
    ((lan.advance i answer left).server j).iAm = .whoAmI ∧
    ((lan.advance i answer left).server j).pc = .setWhoAmI ∧
    ((lan.advance i answer left).server j).negotiateCount = 0 ∧
    (lan.advance i answer left).inbox j = [] := by
  rw [advance_bound] at after
  have other : j ≠ i := by
    rintro rfl
    rw [bound] at after
    cases after
  obtain ⟨asks, at_, zero, empty⟩ := unbound j after
  rw [advance_server_other _ _ other, advance_inbox_other _ _ other, empty]
  exact ⟨asks, at_, zero, by simp [delivered, after]⟩

omit [DecidableEq ι] in
theorem bound_of_two (two : ∀ i, i = a ∨ i = b) (first : (lan.server a).bound = true)
    (second : (lan.server b).bound = true) : ∀ i, (lan.server i).bound = true := by
  intro i
  rcases two i with rfl | rfl
  · exact first
  · exact second

theorem Apart.run_first (holds : lan.Apart a b) (group : lan.Group serverId ip)
    (two : ∀ i, i = a ∨ i = b) (apart : a ≠ b) (differ : ip a ≠ ip b)
    (bound : (lan.server a).bound = true) (reads : lan.Reads a received left)
    (fewer : ∀ datagram ∈ left, datagram ∈ lan.inbox a) :
    (lan.advance a ⟨received, connection⟩ left).Apart a b := by
  have other : (lan.advance a ⟨received, connection⟩ left).server b = lan.server b :=
    advance_server_other _ _ apart.symm
  have heard : (lan.advance a ⟨received, connection⟩ left).Heard a b → lan.Heard a b := by
    rintro ⟨datagram, member, source, question⟩
    rcases List.mem_append.mp member with old | new
    · exact ⟨datagram, old, source, question⟩
    · exact absurd ((own_delivered lan a a datagram new).symm.trans source) apart
  have echoes : (lan.advance a ⟨received, connection⟩ left).echoes b = lan.echoes b := by
    have none : (lan.delivered a b).countP (fun datagram => datagram.source = b) = 0 := by
      rw [List.countP_eq_zero]
      intro datagram member own
      exact apart ((own_delivered lan a b datagram member).symm.trans (of_decide_eq_true own))
    rw [Lan.echoes, advance_inbox_other _ _ apart.symm, List.countP_append, none, Nat.add_zero]
    rfl
  refine ⟨?_, unbound_advance _ bound holds.unbound, fun unbound => ?_, fun asked => ?_,
    fun _ unheard threat => ?_⟩
  · intro datagram member
    rw [advance_inbox_self] at member
    rw [advance_heard]
    rcases List.mem_append.mp member with old | new
    · exact List.mem_append_left _ (holds.queued datagram (fewer datagram old))
    · exact List.mem_append_right _ new
  · rw [advance_bound, bound] at unbound
    cases unbound
  · rw [other]
    exact holds.asked (heard asked)
  · rw [other, echoes] at threat
    have unheard : ¬ lan.Heard a b := fun asked => unheard (heard_advance _ asked)
    have all := bound_of_two two bound (holds.bound_of_threat _ threat)
    exact (holds.approach bound unheard threat).run_first group apart differ all reads

theorem Apart.run_second (holds : lan.Apart a b) (group : lan.Group serverId ip)
    (two : ∀ i, i = a ∨ i = b) (apart : a ≠ b) (differ : ip a ≠ ip b)
    (higher : 0 < (ip a).stricmp (ip b)) (bound : (lan.server b).bound = true) {pick : Option Nat}
    (unheard : lan.GivesUpUnheard a b (.run b pick connection)) (reads : lan.Reads b received left) :
    (lan.advance b ⟨received, connection⟩ left).Apart a b := by
  have regular := group.regular b
  refine ⟨?_, unbound_advance _ bound holds.unbound, fun unbound => ?_, fun asked committed => ?_,
    fun first unheard threat => ?_⟩
  · intro datagram member
    rw [advance_inbox_other _ _ apart] at member
    rw [advance_heard]
    rcases List.mem_append.mp member with old | new
    · exact List.mem_append_left _ (holds.queued datagram old)
    · exact List.mem_append_right _ new
  · rw [advance_bound] at unbound
    obtain ⟨own, solo⟩ := holds.alone unbound
    obtain ⟨alone, still⟩ := group.step_solo solo own reads
    rw [advance_inbox_self, advance_server_self]
    exact ⟨still.append (own_delivered lan b b), alone⟩
  · rw [advance_server_self] at committed
    obtain ⟨datagram, member, source, question⟩ := asked
    rw [advance_heard] at member
    -- The question is an old one, or the one that `b` sends with this step.
    have new : ¬ lan.Heard a b → (lan.server b).iAm = .whoAmI ∧ (lan.server b).Broadcasts := by
      intro unheard
      rcases List.mem_append.mp member with old | new
      · exact absurd ⟨datagram, old, source, question⟩ unheard
      · obtain ⟨-, broadcasts, rfl⟩ := mem_delivered new
        exact ⟨question, broadcasts⟩
    rcases regular.commits committed with before | ⟨here, many, role⟩ | ⟨here, promoted⟩
    · obtain ⟨asks, broadcasts⟩ := new fun heard => holds.asked heard before
      rcases before with primary | at_ | at_
      · rw [asks] at primary
        revert primary
        decide
      · simp [Negotiate.Broadcasts, at_] at broadcasts
      · simp [Negotiate.Broadcasts, at_] at broadcasts
    · obtain ⟨-, broadcasts⟩ := new (unheard rfl here many role)
      simp [Negotiate.Broadcasts, here] at broadcasts
    · exact group.lower_keeps two higher reads here promoted
  · rw [advance_bound] at first
    rw [advance_server_self] at threat
    have threat := group.threat_run two differ higher first reads unheard threat
    have all := bound_of_two two first bound
    exact (holds.approach first (fun asked => unheard (heard_advance _ asked)) threat).run_second
      group apart differ all threat reads unheard

theorem Apart.apply (holds : lan.Apart a b) (group : lan.Group serverId ip)
    (two : ∀ i, i = a ∨ i = b) (higher : 0 < (ip a).stricmp (ip b)) {label : LanStep ι}
    (noQuit : NoQuit label) (inOrder : lan.InOrder label) (unheard : lan.GivesUpUnheard a b label)
    {next : Lan ι} (applied : lan.apply label = some next) : next.Apart a b := by
  have differ : ip a ≠ ip b := by
    intro same
    have zero := IpAddress.stricmp_eq_zero.mpr same
    omega
  have apart : a ≠ b := fun same => differ (congrArg ip same)
  cases label with
  | start i => exact holds.apply_start two applied
  | quit i => cases noQuit
  | run i pick connection =>
    obtain ⟨bound, received, left, takes, rfl⟩ := apply_run applied
    have reads := takes.reads inOrder
    rcases two i with rfl | rfl
    · exact holds.run_first group two apart differ bound reads takes.mem
    · exact holds.run_second group two apart differ higher bound unheard reads

/-- Two servers, `a` of the higher address, on a network that loses and reorders nothing. -/
theorem negotiation_atMostOnePrimary (serverId : Int) (ip : ι → IpAddress)
    (two : ∀ i, i = a ∨ i = b) (higher : 0 < (ip a).stricmp (ip b))
    (reached : (System.ofStep (Fresh serverId ip) apply).Reaches
      (fun lan label => NoQuit label ∧ lan.InOrder label ∧ lan.GivesUpUnheard a b label) lan) :
    ¬ ((lan.server a).iAm.Primary ∧ (lan.server b).iAm.Primary) := by
  have holds : lan.Group serverId ip ∧ lan.Apart a b := by
    refine reached.invariant (fun lan => lan.Group serverId ip ∧ lan.Apart a b) ?_ ?_
    · intro lan fresh
      exact ⟨Fresh.group fresh, Fresh.apart fresh⟩
    · rintro lan label next ⟨group, holds⟩ ⟨noQuit, inOrder, unheard⟩ applied
      exact ⟨group.apply noQuit applied, holds.apply group two higher noQuit inOrder unheard applied⟩
  exact holds.2.atMostOne holds.1

def twoAddresses (i : Fin 2) : IpAddress := threeAddresses i.castSucc

def twoServers : Lan (Fin 2) where
  server i := ⟨⟨1, twoAddresses i, .whoAmI, .empty, -1, [], false, false⟩, .start, false⟩
  inbox _ := []
  heard _ := []

theorem twoServers_fresh : twoServers.Fresh 1 twoAddresses :=
  ⟨fun _ => ⟨_, rfl⟩, fun _ => rfl, fun _ => rfl⟩

theorem negotiation_atMostOnePrimary_pairing : ∃ lan : Lan (Fin 2),
    (lan.server 1).iAm = .primaryWithBackup ∧ (lan.server 0).iAm = .backupWithPrimary ∧
    ¬ ((lan.server 1).iAm.Primary ∧ (lan.server 0).iAm.Primary) := by
  have observed : (System.follow
      (fun lan label => NoQuit label ∧ lan.InOrder label ∧ lan.GivesUpUnheard 1 0 label) apply
      twoServers (pairing 1 0)).map (fun lan => ((lan.server 1).iAm, (lan.server 0).iAm)) =
      some (.primaryWithBackup, .backupWithPrimary) := by
    decide +kernel
  obtain ⟨lan, ends, values⟩ := Option.map_eq_some_iff.mp observed
  obtain ⟨primary, backup⟩ := Prod.mk.inj values
  exact ⟨lan, primary, backup, negotiation_atMostOnePrimary 1 twoAddresses (by decide) (by decide)
    ((System.Reaches.start twoServers_fresh).follow _ ends)⟩

def retry {ι : Type} (b : ι) : List (LanStep ι) :=
  [.run b none 0, .run b none 0, .run b none 0, .run b none 0, .run b none 0] ++ turn b 0

/-- Server 0 retries alone, the last time after server 1 has bound its port. It promotes itself,
and server 1 finds the question when it starts. -/
def lateStart : List (LanStep (Fin 2)) :=
  [.start 0, .run 0 none 0, .run 0 none 0] ++ turn 0 0 ++
  (List.replicate 7 (retry 0)).flatten ++
  [.run 0 none 0, .run 0 none 0, .run 0 none 0, .run 0 none 0, .start 1, .run 0 none 0] ++
  [.run 0 none 0, .run 0 none 0, .run 0 none 0, .run 0 none 0] ++
  [.run 1 none 0, .run 1 none 0] ++ turn 1 0 ++ [.run 1 none 0]

theorem negotiation_twoPrimaries : ∃ lan : Lan (Fin 2),
    (System.ofStep (Fresh 1 twoAddresses) apply).Reaches
      (fun lan label => NoQuit label ∧ lan.InOrder label) lan ∧
    (lan.server 1).iAm.Primary ∧ (lan.server 0).iAm.Primary := by
  have observed : (System.follow (fun lan label => NoQuit label ∧ lan.InOrder label) apply
      twoServers lateStart).map (fun lan => ((lan.server 1).iAm, (lan.server 0).iAm)) =
      some (.primaryWithoutBackup, .primaryWithoutBackup) := by
    decide +kernel
  obtain ⟨lan, ends, values⟩ := Option.map_eq_some_iff.mp observed
  obtain ⟨first, second⟩ := Prod.mk.inj values
  exact ⟨lan, (System.Reaches.start twoServers_fresh).follow _ ends, .inl first, .inl second⟩

end Lan

end Foolject
