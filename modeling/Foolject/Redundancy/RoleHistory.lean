import Mathlib.Logic.Function.Basic
import Foolject.Redundancy.TakeOver

/-! The history of role changes that the application is told.

`set_my_role` is three steps here: the critical section that reads the old role, the one
that writes the new role, and the callback. Both threads execute it, and `init` starts them
before it stores the callback.
-/

set_option autoImplicit false

namespace Foolject
open VNClib

inductive RoleThread where
  | negotiate
  | heartbeat
  deriving DecidableEq, Repr

namespace RoleThread

def other : RoleThread → RoleThread
  | .negotiate => .heartbeat
  | .heartbeat => .negotiate

theorem other_ne (who : RoleThread) : who.other ≠ who := by
  cases who <;> decide

theorem eq_of_ne_other {who third : RoleThread} (apart : third ≠ who.other) : third = who := by
  cases who with
  | negotiate =>
    cases third with
    | negotiate => rfl
    | heartbeat => exact absurd rfl apart
  | heartbeat =>
    cases third with
    | negotiate => exact absurd rfl apart
    | heartbeat => rfl

end RoleThread

/-- A call of `set_my_role` behind its first critical section. -/
structure SetMyRole where
  oldRole : TRole
  newRole : TRole
  /-- The second critical section is over as well. -/
  written : Bool
  deriving DecidableEq

/-! ## Updates and their order -/

def lastRole : TRole → List (TRole × TRole) → TRole
  | role, [] => role
  | _, update :: rest => lastRole update.2 rest

/-- Each update reports the role that the one before it has set. -/
def Unbroken : TRole → List (TRole × TRole) → Prop
  | _, [] => True
  | role, update :: rest => update.1 = role ∧ Unbroken update.2 rest

theorem lastRole_append (role : TRole) (updates : List (TRole × TRole)) (update : TRole × TRole) :
    lastRole role (updates ++ [update]) = update.2 := by
  induction updates generalizing role with
  | nil => rfl
  | cons first rest ih => exact ih first.2

theorem unbroken_append (role : TRole) (updates : List (TRole × TRole)) (update : TRole × TRole) :
    Unbroken role (updates ++ [update]) ↔ Unbroken role updates ∧ update.1 = lastRole role updates := by
  induction updates generalizing role with
  | nil => simp [Unbroken, lastRole]
  | cons first rest ih => simp [Unbroken, lastRole, ih, and_assoc]

/-- The callback, the calls under way and what they have done so far. -/
structure Ledger where
  /-- `init` has stored the callback. -/
  assigned : Bool
  call : RoleThread → Option SetMyRole
  /-- The updates in the order in which they were written. -/
  updates : List (TRole × TRole)
  /-- The callback was called before it was stored. -/
  early : Bool

namespace Ledger

def new : Ledger := ⟨false, fun _ => none, [], false⟩

def read (ledger : Ledger) (who : RoleThread) (oldRole newRole : TRole) : Ledger :=
  { ledger with call := Function.update ledger.call who (some ⟨oldRole, newRole, false⟩) }

def write (ledger : Ledger) (who : RoleThread) (call : SetMyRole) : Ledger :=
  { ledger with
    call := Function.update ledger.call who (some { call with written := true })
    updates := ledger.updates ++ [(call.oldRole, call.newRole)] }

def report (ledger : Ledger) (who : RoleThread) : Ledger :=
  { ledger with
    call := Function.update ledger.call who none
    early := ledger.early || !ledger.assigned }

structure Told (ledger : Ledger) : Prop where
  unbroken : Unbroken .whoAmI ledger.updates
  assigned : ledger.early = false

/-- The next step of a call: the callback has been stored; no other call stands between a read
of another role and its write. -/
def Allows (ledger : Ledger) (who : RoleThread) (call : SetMyRole) : Prop :=
  if call.written then ledger.assigned = true
  else ∀ pending ∈ ledger.call who.other, pending.written = false → pending.oldRole = call.newRole

instance (ledger : Ledger) (who : RoleThread) (call : SetMyRole) : Decidable (ledger.Allows who call) :=
  inferInstanceAs (Decidable (ite _ _ _))

end Ledger

/-! ## The three threads -/

/-- The statement of `init` that is executed next, from the first thread on. -/
inductive InitPc where
  | beginNegotiate
  | beginHeartbeat
  | assign
  | returned
  deriving DecidableEq, Repr

structure RoleHistory where
  rddcp : Redundancy
  negotiate : Negotiate
  heartbeat : Heartbeat
  init : InitPc
  runs : RoleThread → Bool
  ledger : Ledger

inductive HistoryStep where
  /-- `init`; a thread is started or not. -/
  | init (started : Bool)
  | negotiate (answer : Answer)
  | heartbeat (received : HeartbeatReceived)
  | quit

def HistoryStep.thread : HistoryStep → Option RoleThread
  | .negotiate _ => some .negotiate
  | .heartbeat _ => some .heartbeat
  | _ => none

def NegotiatePc.sets : NegotiatePc → Option TRole
  | .setWhoAmI => some .whoAmI
  | .promoteByCount => some .primaryWithoutBackup
  | .promoteByAddress => some .primaryWithoutBackup
  | .becomePrimary => some .primaryWithBackup
  | .becomeBackup => some .backupWithPrimary
  | .loseMate => some .primaryWithoutBackup
  | .setActiveQuitEr => some .activeQuitEr
  | _ => none

def HeartbeatPc.sets : HeartbeatPc → Option TRole
  | .takeOver => some .primaryWithoutBackup
  | _ => none

theorem Negotiate.step_sets (answer : Answer) (rddcp : Redundancy) (thread : Negotiate) :
    (thread.step answer rddcp).1.iAm = thread.pc.sets.getD rddcp.iAm := by
  unfold Negotiate.step
  cases thread.pc <;> rfl

theorem Heartbeat.step_sets {heap : Memory} {received : HeartbeatReceived} {rddcp : Redundancy}
    {thread : Heartbeat} {after : Redundancy × Heartbeat}
    (stepped : thread.step heap received rddcp = some after) :
    after.1.iAm = thread.pc.sets.getD rddcp.iAm := by
  rw [(Heartbeat.stepEffect stepped).iAm]
  cases thread.pc <;> rfl

namespace RoleHistory

def start (fresh : Memory) (rddcp : Redundancy) : RoleHistory :=
  ⟨rddcp, .start, .start fresh, .beginNegotiate, fun _ => false, .new⟩

/-- `init` from the first `_beginthreadex` on. It returns early if a thread is not started. -/
def initStep (history : RoleHistory) (started : Bool) : Option RoleHistory :=
  match history.init with
  | .beginNegotiate =>
    if started then
      some { history with init := .beginHeartbeat, runs := Function.update history.runs .negotiate true }
    else some { history with init := .returned }
  | .beginHeartbeat =>
    if started then
      some { history with init := .assign, runs := Function.update history.runs .heartbeat true }
    else some { history with init := .returned }
  | .assign => some { history with
      init := .returned
      ledger := { history.ledger with assigned := true } }
  | .returned => none

def negotiateStep (history : RoleHistory) (answer : Answer) : RoleHistory :=
  match history.ledger.call .negotiate with
  | some call =>
    if call.written then { history with
      negotiate := (history.negotiate.step answer history.rddcp).2
      ledger := history.ledger.report .negotiate }
    else { history with
      rddcp := history.rddcp.setMyRole call.newRole
      ledger := history.ledger.write .negotiate call }
  | none =>
    match history.negotiate.pc.sets with
    | some role => { history with
        ledger := history.ledger.read .negotiate history.rddcp.getMyRole role }
    | none => { history with
        rddcp := (history.negotiate.step answer history.rddcp).1
        negotiate := (history.negotiate.step answer history.rddcp).2 }

def heartbeatStep (heap : Memory) (history : RoleHistory) (received : HeartbeatReceived) :
    Option RoleHistory :=
  match history.ledger.call .heartbeat with
  | some call =>
    if call.written then
      (history.heartbeat.step heap received history.rddcp).map fun after => { history with
        heartbeat := after.2
        ledger := history.ledger.report .heartbeat }
    else some { history with
      rddcp := history.rddcp.setMyRole call.newRole
      ledger := history.ledger.write .heartbeat call }
  | none =>
    match history.heartbeat.pc.sets with
    | some role => some { history with
        ledger := history.ledger.read .heartbeat history.rddcp.getMyRole role }
    | none => (history.heartbeat.step heap received history.rddcp).map fun after => { history with
        rddcp := after.1
        heartbeat := after.2 }

def apply (heap : Memory) (history : RoleHistory) : HistoryStep → Option RoleHistory
  | .init started => history.initStep started
  | .negotiate answer => if history.runs .negotiate then some (history.negotiateStep answer) else none
  | .heartbeat received => if history.runs .heartbeat then history.heartbeatStep heap received else none
  | .quit => some { history with rddcp := { history.rddcp with quitInnerThread := true } }

def system (fresh heap : Memory) : System RoleHistory HistoryStep :=
  .ofStep (fun history => ∃ rddcp, rddcp.iAm = .whoAmI ∧ history = start fresh rddcp) (apply heap)

/-- Calls of `set_my_role` find the callback stored, and do not overlap with another write. -/
def Undisturbed (history : RoleHistory) (label : HistoryStep) : Prop :=
  ∀ who ∈ label.thread, ∀ call ∈ history.ledger.call who, history.ledger.Allows who call

instance (history : RoleHistory) : DecidablePred history.Undisturbed :=
  fun _ => inferInstanceAs (Decidable (∀ who ∈ _, _))

inductive Change (iAm : TRole) (ledger : Ledger) : Option RoleThread → TRole → Ledger → Prop where
  | none {who : Option RoleThread} : (∀ thread ∈ who, ledger.call thread = .none) →
      Change iAm ledger who iAm ledger
  | assign : Change iAm ledger .none iAm { ledger with assigned := true }
  | read (who : RoleThread) (role : TRole) : ledger.call who = .none →
      Change iAm ledger (some who) iAm (ledger.read who iAm role)
  | write (who : RoleThread) (call : SetMyRole) : ledger.call who = some call → call.written = false →
      Change iAm ledger (some who) call.newRole (ledger.write who call)
  | report (who : RoleThread) (call : SetMyRole) : ledger.call who = some call → call.written = true →
      Change iAm ledger (some who) iAm (ledger.report who)

variable {fresh heap : Memory} {history after : RoleHistory} {label : HistoryStep}

theorem change_negotiate (history : RoleHistory) (answer : Answer) :
    Change history.rddcp.iAm history.ledger (some .negotiate)
      (history.negotiateStep answer).rddcp.iAm (history.negotiateStep answer).ledger := by
  unfold negotiateStep
  cases called : history.ledger.call .negotiate with
  | some call =>
    cases written : call.written with
    | true =>
      simp only [written, if_true]
      exact .report .negotiate call called written
    | false =>
      simp only [written]
      exact .write .negotiate call called written
  | none =>
    cases sets : history.negotiate.pc.sets with
    | some role => exact .read .negotiate role called
    | none =>
      have role := history.negotiate.step_sets answer history.rddcp
      rw [sets] at role
      dsimp only
      rw [role]
      apply Change.none
      intro thread same
      cases same
      exact called

theorem change_heartbeat {received : HeartbeatReceived}
    (stepped : history.heartbeatStep heap received = some after) :
    Change history.rddcp.iAm history.ledger (some .heartbeat) after.rddcp.iAm after.ledger := by
  unfold heartbeatStep at stepped
  cases called : history.ledger.call .heartbeat with
  | some call =>
    cases written : call.written with
    | true =>
      simp only [called, written, if_true] at stepped
      obtain ⟨result, -, rfl⟩ := Option.map_eq_some_iff.mp stepped
      exact .report .heartbeat call called written
    | false =>
      simp only [called, written] at stepped
      cases stepped
      exact .write .heartbeat call called written
  | none =>
    cases sets : history.heartbeat.pc.sets with
    | some role =>
      simp only [called, sets] at stepped
      cases stepped
      exact .read .heartbeat role called
    | none =>
      simp only [called, sets] at stepped
      obtain ⟨result, executed, rfl⟩ := Option.map_eq_some_iff.mp stepped
      have role := Heartbeat.step_sets executed
      rw [sets] at role
      dsimp only
      rw [role]
      apply Change.none
      intro thread same
      cases same
      exact called

theorem change (stepped : history.apply heap label = some after) :
    Change history.rddcp.iAm history.ledger label.thread after.rddcp.iAm after.ledger := by
  cases label with
  | init started =>
    simp only [apply, initStep] at stepped
    cases at_ : history.init with
    | beginNegotiate | beginHeartbeat =>
      simp only [at_] at stepped
      split at stepped
      · cases stepped
        exact .none (by simp [HistoryStep.thread])
      · cases stepped
        exact .none (by simp [HistoryStep.thread])
    | assign =>
      simp only [at_] at stepped
      cases stepped
      exact .assign
    | returned =>
      simp only [at_] at stepped
      cases stepped
  | negotiate answer =>
    obtain ⟨-, executed⟩ := Option.ite_none_right_eq_some.mp stepped
    cases executed
    exact change_negotiate history answer
  | heartbeat received =>
    obtain ⟨-, executed⟩ := Option.ite_none_right_eq_some.mp stepped
    exact change_heartbeat executed
  | quit =>
    cases stepped
    exact .none (by simp [HistoryStep.thread])

/-! ## Runs in which no call is disturbed -/

structure Sound (iAm : TRole) (ledger : Ledger) : Prop extends ledger.Told where
  last : lastRole .whoAmI ledger.updates = iAm
  reads : ∀ who, ∀ call ∈ ledger.call who, call.written = false → call.oldRole = iAm

theorem Sound.change {iAm iAm' : TRole} {ledger ledger' : Ledger} {who : Option RoleThread}
    (sound : Sound iAm ledger) (allowed : ∀ thread ∈ who, ∀ call ∈ ledger.call thread,
      ledger.Allows thread call)
    (change : Change iAm ledger who iAm' ledger') : Sound iAm' ledger' := by
  cases change with
  | none => exact sound
  | assign => exact ⟨⟨sound.unbroken, sound.assigned⟩, sound.last, sound.reads⟩
  | read thread role =>
    refine ⟨⟨sound.unbroken, sound.assigned⟩, sound.last, fun third call member fresh => ?_⟩
    by_cases same : third = thread
    · subst same
      simp only [Ledger.read, Function.update_self] at member
      cases member
      rfl
    · simp only [Ledger.read, Function.update_of_ne same] at member
      exact sound.reads third call member fresh
  | write thread call called unwritten =>
    have allows := allowed thread rfl call called
    simp only [Ledger.Allows, unwritten] at allows
    refine ⟨⟨?_, sound.assigned⟩, lastRole_append _ _ _, fun third pending member fresh => ?_⟩
    · -- The call has read the role that the last update has set.
      apply (unbroken_append _ _ _).mpr
      exact ⟨sound.unbroken, (sound.reads thread call called unwritten).trans sound.last.symm⟩
    · by_cases same : third = thread
      · subst same
        simp only [Ledger.write, Function.update_self] at member
        cases member
        cases fresh
      · have other : third = thread.other := by
          by_contra apart
          exact same (RoleThread.eq_of_ne_other apart)
        simp only [Ledger.write, Function.update_of_ne same] at member
        subst other
        exact allows pending member fresh
  | report thread call called written =>
    have allows := allowed thread rfl call called
    simp only [Ledger.Allows, written, if_true] at allows
    refine ⟨⟨sound.unbroken, ?_⟩, sound.last, fun third pending member fresh => ?_⟩
    · simp [Ledger.report, sound.assigned, allows]
    · by_cases same : third = thread
      · subst same
        simp [Ledger.report] at member
      · simp only [Ledger.report, Function.update_of_ne same] at member
        exact sound.reads third pending member fresh

theorem sound (reached : (system fresh heap).Reaches Undisturbed history) :
    Sound history.rddcp.iAm history.ledger := by
  refine reached.invariant (fun history => Sound history.rddcp.iAm history.ledger) ?_ ?_
  · rintro history ⟨rddcp, role, rfl⟩
    exact ⟨⟨trivial, rfl⟩, role.symm, fun _ _ member => by cases member⟩
  · intro history label after sound allowed stepped
    exact sound.change allowed (change stepped)

/-! ## What a disturbed call leads to -/

theorem update_true {runs : RoleThread → Bool} {who : RoleThread} (other : RoleThread)
    (running : runs who = true) : Function.update runs other true who = true := by
  by_cases same : who = other
  · rw [same, Function.update_self]
  · rw [Function.update_of_ne same, running]

theorem runs_apply (stepped : history.apply heap label = some after) :
    (∀ who, history.runs who = true → after.runs who = true) ∧
    ∀ who ∈ label.thread, history.runs who = true := by
  cases label with
  | init started =>
    simp only [apply, initStep] at stepped
    refine ⟨fun who running => ?_, by simp [HistoryStep.thread]⟩
    cases at_ : history.init with
    | beginNegotiate | beginHeartbeat =>
      simp only [at_] at stepped
      split at stepped
      · cases stepped
        exact update_true _ running
      · cases stepped
        exact running
    | assign =>
      simp only [at_] at stepped
      cases stepped
      exact running
    | returned =>
      simp only [at_] at stepped
      cases stepped
  | negotiate answer =>
    obtain ⟨runs, executed⟩ := Option.ite_none_right_eq_some.mp stepped
    cases executed
    constructor
    · intro who running
      unfold negotiateStep
      split
      · split <;> exact running
      · split <;> exact running
    · intro who same
      cases same
      exact runs
  | heartbeat received =>
    obtain ⟨runs, executed⟩ := Option.ite_none_right_eq_some.mp stepped
    constructor
    · intro who running
      unfold heartbeatStep at executed
      split at executed
      · split at executed
        · obtain ⟨result, -, rfl⟩ := Option.map_eq_some_iff.mp executed
          exact running
        · cases executed
          exact running
      · split at executed
        · cases executed
          exact running
        · obtain ⟨result, -, rfl⟩ := Option.map_eq_some_iff.mp executed
          exact running
    · intro who same
      cases same
      exact runs
  | quit =>
    cases stepped
    exact ⟨fun _ running => running, by simp [HistoryStep.thread]⟩

/-- Only threads that run have calls under way. -/
theorem runs_of_call {guard : RoleHistory → HistoryStep → Prop}
    (reached : (system fresh heap).Reaches guard history) :
    ∀ who call, history.ledger.call who = some call → history.runs who = true := by
  refine reached.invariant
    (fun history => ∀ who call, history.ledger.call who = some call → history.runs who = true) ?_ ?_
  · rintro history ⟨rddcp, -, rfl⟩ who call called
    cases called
  · intro history label after running _ stepped who call called
    obtain ⟨more, moves⟩ := runs_apply stepped
    apply more
    have effect := change stepped
    by_cases mover : who ∈ label.thread
    · exact moves who mover
    · apply running who call
      generalize label.thread = thread at mover effect
      generalize after.rddcp.iAm = role at effect
      generalize after.ledger = ledger at called effect
      cases effect with
      | none => exact called
      | assign => exact called
      | read other | write other | report other =>
        have apart : who ≠ other := fun same => mover (same ▸ rfl)
        simpa [Ledger.read, Ledger.write, Ledger.report, Function.update_of_ne apart] using called

theorem write_enabled {who : RoleThread} {call : SetMyRole} (runs : history.runs who = true)
    (called : history.ledger.call who = some call) (unwritten : call.written = false) :
    ∃ label last, (system fresh heap).step history label last ∧
      last.ledger = history.ledger.write who call := by
  cases who with
  | negotiate =>
    refine ⟨.negotiate ⟨.null, -1⟩, _, if_pos runs, ?_⟩
    simp [negotiateStep, called, unwritten]
  | heartbeat =>
    have step : history.heartbeatStep heap .timeout = some { history with
        rddcp := history.rddcp.setMyRole call.newRole
        ledger := history.ledger.write .heartbeat call } := by
      simp [heartbeatStep, called, unwritten]
    exact ⟨.heartbeat .timeout, _, (if_pos runs).trans step, rfl⟩

theorem not_told_of_disturbed (reached : (system fresh heap).Reaches Undisturbed history)
    (stepped : (system fresh heap).step history label after) (disturbs : ¬ history.Undisturbed label) :
    ¬ after.ledger.Told ∨
      ∃ next last, (system fresh heap).step after next last ∧ ¬ last.ledger.Told := by
  -- The step itself calls the callback too early, or the other call
  -- can go on to report a role that is not the last one any more.
  simp only [Undisturbed, not_forall] at disturbs
  obtain ⟨who, moves, call, called, disturbs⟩ := disturbs
  obtain ⟨more, -⟩ := runs_apply stepped
  have effect := change stepped
  rw [Option.mem_def.mp moves] at effect
  generalize after.rddcp.iAm = role at effect
  generalize ledgerEq : after.ledger = ledger at effect
  cases effect with
  | none idle => exact absurd (called.symm.trans (idle who rfl)) (by simp)
  | read _ _ idle => exact absurd (called.symm.trans idle) (by simp)
  | report _ same called' written =>
    cases called.symm.trans called'
    left
    intro told
    have early := told.assigned
    simp only [Ledger.Allows, written, if_true] at disturbs
    simp [Ledger.report, disturbs] at early
  | write _ same called' unwritten =>
    cases called.symm.trans called'
    right
    simp only [Ledger.Allows, unwritten, Bool.false_eq_true, if_false, not_forall] at disturbs
    obtain ⟨pending, waits, fresh, differs⟩ := disturbs
    have running := more _ (runs_of_call reached who.other pending waits)
    have still : after.ledger.call who.other = some pending := by
      rw [ledgerEq]
      exact (Function.update_of_ne who.other_ne _ _).trans waits
    obtain ⟨next, last, stepped, written⟩ := write_enabled running still fresh
    refine ⟨next, last, stepped, fun told => differs ?_⟩
    -- The other call reports the role that it has read as the one before its own.
    have unbroken := told.unbroken
    rw [written, Ledger.write, ledgerEq] at unbroken
    have old := ((unbroken_append _ _ _).mp unbroken).2
    exact old.trans (lastRole_append _ _ _)

/-- While no call is disturbed, the history that is told is that of the role. Whenever one is,
what is told is or can become another history. -/
theorem updates_told (fresh heap : Memory) :
    (∀ history, (system fresh heap).Reaches Undisturbed history → history.ledger.Told) ∧
    ∀ history label after, (system fresh heap).Reaches Undisturbed history →
      (system fresh heap).step history label after → ¬ history.Undisturbed label →
      ¬ after.ledger.Told ∨
        ∃ next last, (system fresh heap).step after next last ∧ ¬ last.ledger.Told := by
  constructor
  · intro history reached
    exact (sound reached).toTold
  · intro history label after reached stepped disturbs
    exact not_told_of_disturbed reached stepped disturbs

/-! ## Runs of a server that has just been started -/

def newHistory : RoleHistory := start (fun _ => 0) Threads.newServer

theorem newHistory_fresh : (system (fun _ => 0) (fun _ => 0)).init newHistory :=
  ⟨Threads.newServer, rfl, rfl⟩

def negotiates (count : Nat) (role : TRole) : List HistoryStep :=
  List.replicate count (.negotiate ⟨.datagram (threeAddresses 2) (some 1) (some role.code), 1⟩)

def becomesBackup : List HistoryStep :=
  List.replicate 3 (.init true) ++ negotiates 13 .primaryWithoutBackup

theorem updates_told_backup : ∃ history : RoleHistory,
    history.ledger.updates = [(.whoAmI, .whoAmI), (.whoAmI, .backupWithPrimary)] ∧
    history.ledger.Told := by
  have started : (system (fun _ => 0) (fun _ => 0)).Reaches Undisturbed newHistory :=
    .start newHistory_fresh
  obtain ⟨history, reached, holds⟩ := started.follow_any becomesBackup
    (fun history => decide (history.ledger.updates =
      [(.whoAmI, .whoAmI), (.whoAmI, .backupWithPrimary)])) (by decide +kernel)
  exact ⟨history, of_decide_eq_true holds, (updates_told _ _).1 history reached⟩

theorem updates_notTold : (∃ history : RoleHistory,
      (system (fun _ => 0) (fun _ => 0)).Reaches System.Always history ∧ history.ledger.early = true) ∧
    ∃ history : RoleHistory, (system (fun _ => 0) (fun _ => 0)).Reaches System.Always history ∧
      history.ledger.updates = [(.whoAmI, .whoAmI), (.whoAmI, .backupWithPrimary),
        (.backupWithPrimary, .primaryWithoutBackup), (.backupWithPrimary, .primaryWithoutBackup)] ∧
      ¬ history.ledger.Told := by
  -- `negotiate` is faster than `init`; and both threads leave the same pair at the same time.
  have started : (system (fun _ => 0) (fun _ => 0)).Reaches System.Always newHistory :=
    .start newHistory_fresh
  constructor
  · obtain ⟨history, reached, holds⟩ := started.follow_any
      (.init true :: negotiates 3 .primaryWithoutBackup)
      (fun history => history.ledger.early) (by decide +kernel)
    exact ⟨history, reached, holds⟩
  · obtain ⟨history, reached, holds⟩ := started.follow_any
      (becomesBackup ++ List.replicate 26 (.heartbeat .timeout) ++ negotiates 5 .activeQuitEr ++
        [.heartbeat .timeout] ++ .heartbeat .timeout :: negotiates 1 .activeQuitEr)
      (fun history => decide (history.ledger.updates = [(.whoAmI, .whoAmI),
        (.whoAmI, .backupWithPrimary), (.backupWithPrimary, .primaryWithoutBackup),
        (.backupWithPrimary, .primaryWithoutBackup)])) (by decide +kernel)
    have updates := of_decide_eq_true holds
    refine ⟨history, reached, updates, fun told => ?_⟩
    have unbroken := told.unbroken
    rw [updates] at unbroken
    cases unbroken.2.2.2.1

end RoleHistory

end Foolject
