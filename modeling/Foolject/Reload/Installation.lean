import Foolject.Lib.Transition
import Foolject.Reload.Restart
import Foolject.Reload.Sources

/-! Installing and removing services, and starting and ending them from the command line.

The service manager, the registry and the states that the service manager reports are what the
system answers. Each service is a process of its own that knows only its name.
-/

set_option autoImplicit false

namespace Foolject.Reload.Installation
open MultiString

structure Machine where
  services : List Text
  /-- The values of the key "RunServices", where Win95 has the services. -/
  runServices : Text → Option (List UInt8)
  log : ApplicationLog

structure InstallAnswers where
  moduleFileName : Option (List UInt8)
  runServicesKey : Bool
  /-- `RegSetValueEx` there. -/
  runServicesValue : Bool
  openSCManager : Bool
  createService : Bool
  access : RegAccess
  deriving DecidableEq

structure ControlAnswers where
  openSCManager : Bool
  openService : Bool
  /-- `ControlService`, with the state that it reports. -/
  controlService : Option Status
  startService : Bool
  /-- The calls of `QueryServiceStatus`. -/
  queries : List (Option Status)
  deriving DecidableEq

structure RemoveAnswers extends ControlAnswers where
  runServicesKey : Bool
  /-- `RegDeleteValue` there. -/
  runServicesValue : Bool
  deleteService : Bool
  access : RegAccess
  deriving DecidableEq

inductive Stuck where
  | outOfBuffer
  /-- The answers end while it still asks for the state. -/
  | asking
  deriving DecidableEq, Repr

def eventlogTypes : Nat := 1 ||| 2 ||| 4

def logged (machine : Machine) : Option ApplicationLog → Except Stuck (Bool × Machine)
  | none => .error .outOfBuffer
  | some log => .ok (true, { machine with log := log })

/-- The loop on `QueryServiceStatus`: the state in `m_ssStatus` when it ends. -/
def queryLoop (pending : Status) : List (Option Status) → Option Status → Option (Option Status)
  | [], _ => none
  | none :: _, current => some current
  | some state :: rest, _ => if state = pending then queryLoop pending rest (some state) else some (some state)

/-- `InstallService`. A service of the same name is not created again. -/
def installService (serviceName : Text) (osIsWin95 : Bool) (answers : InstallAnswers) (machine : Machine) :
    Except Stuck (Bool × Machine) :=
  match answers.moduleFileName with
  | none => .ok (false, machine)
  | some path =>
    if osIsWin95 = true then
      if answers.runServicesKey = true then
        .ok (true, if answers.runServicesValue = true then
          { machine with runServices := Function.update machine.runServices serviceName (some path) } else machine)
      else .ok (false, machine)
    else if answers.openSCManager = true ∧ answers.createService = true ∧ serviceName ∉ machine.services then
      logged { machine with services := serviceName :: machine.services }
        (machine.log.register serviceName path eventlogTypes answers.access)
    else .ok (false, machine)

/-- `RemoveService`. The service is deleted whether it has stopped or not. -/
def removeService (serviceName : Text) (osIsWin95 : Bool) (answers : RemoveAnswers) (machine : Machine) :
    Except Stuck (Bool × Machine) :=
  if osIsWin95 = true then
    if answers.runServicesKey = true then
      .ok (true, if answers.runServicesValue = true then
        { machine with runServices := Function.update machine.runServices serviceName none } else machine)
    else .ok (false, machine)
  else if answers.openSCManager = true ∧ answers.openService = true ∧ serviceName ∈ machine.services then
    match answers.controlService.map fun state => queryLoop .stopPending answers.queries (some state) with
    | some none => .error .asking
    | _ =>
      if answers.deleteService = true then
        logged { machine with services := without serviceName machine.services }
          (machine.log.deregister serviceName answers.access)
      else .ok (false, machine)
  else .ok (false, machine)

/-- `EndService`: what it returns and the state in `m_ssStatus`, once it returns. -/
def endService (answers : ControlAnswers) (current : Option Status) : Option (Bool × Option Status) :=
  if answers.openSCManager = true ∧ answers.openService = true then
    match answers.controlService with
    | none => some (false, current)
    | some state => (queryLoop .stopPending answers.queries (some state)).map fun last => (last = some .stopped, last)
  else some (false, current)

def startupService (answers : ControlAnswers) (current : Option Status) : Option (Bool × Option Status) :=
  if answers.openSCManager = true ∧ answers.openService = true then
    if answers.startService = true then
      (queryLoop .startPending answers.queries current).map fun last => (last = some .running, last)
    else some (false, current)
  else some (false, current)

inductive Command where
  | install (serviceName : Text) (osIsWin95 : Bool) (answers : InstallAnswers)
  | remove (serviceName : Text) (osIsWin95 : Bool) (answers : RemoveAnswers)

namespace Command

def serviceName : Command → Text
  | .install serviceName _ _ => serviceName
  | .remove serviceName _ _ => serviceName

def run (machine : Machine) : Command → Except Stuck (Bool × Machine)
  | .install serviceName osIsWin95 answers => installService serviceName osIsWin95 answers machine
  | .remove serviceName osIsWin95 answers => removeService serviceName osIsWin95 answers machine

def access : Command → RegAccess
  | .install _ _ answers => answers.access
  | .remove _ _ answers => answers.access

def Provided (command : Command) : Prop := command.access.Provides command.serviceName

instance (command : Command) : Decidable command.Provided := inferInstanceAs (Decidable (_ ∧ _))

end Command

def step (machine : Machine) (command : Command) : Option Machine :=
  match command.run machine with
  | .error _ => none
  | .ok result => some result.2

def init (foreign : List Text) (machine : Machine) : Prop :=
  machine.services = [] ∧ machine.log.sources = some (encode foreign)

abbrev system (foreign : List Text) : System Machine Command := .ofStep (init foreign) step

structure Registered (foreign : List Text) (machine : Machine) : Prop where
  distinct : machine.services.Nodup
  sources : ∃ names, machine.log.sources = some (encode names) ∧ names.Nodup ∧
    ∀ name, name ∈ names ↔ name ∈ foreign ∨ name ∈ machine.services

/-- The services have names of their own, and their processes can read and set "Sources". -/
def Own (foreign : List Text) (_ : Machine) (command : Command) : Prop :=
  command.serviceName ∉ foreign ∧ command.access.Edits

instance (foreign : List Text) (machine : Machine) (command : Command) : Decidable (Own foreign machine command) :=
  inferInstanceAs (Decidable (_ ∧ _))

def Listed (machine : Machine) : Prop := ∃ names, machine.log.sources = some (encode names) ∧ names.Nodup

variable {foreign : List Text} {machine next : Machine} {command : Command} {result : Bool × Machine}

/-! ## What a process does -/

inductive Effect (command : Command) (names : List Text) (machine : Machine) : List Text → Machine → Prop where
  | none {next : Machine} : next.services = machine.services → next.log = machine.log →
      Effect command names machine names next
  | installed {next : Machine} : command.serviceName ∉ machine.services →
      next.services = command.serviceName :: machine.services →
      Effect command names machine (withName command.serviceName names) next
  | removed {next : Machine} : next.services = without command.serviceName machine.services →
      Effect command names machine (without command.serviceName names) next
  | inaccessible {next : Machine} : ¬ command.access.Edits → Effect command names machine names next

/-- A process that returns keeps "Sources" a multi-string, and one that is provided for stays in its buffers. -/
def Behaves (names : List Text) (machine : Machine) (command : Command) (result : Except Stuck (Bool × Machine)) :
    Prop :=
  (∃ stuck, result = .error stuck ∧ (command.Provided → stuck = .asking)) ∨ ∃ returned next after,
    result = .ok (returned, next) ∧ next.log.sources = some (encode after) ∧ Effect command names machine after next

theorem Behaves.unchanged {names : List Text} (holds : machine.log.sources = some (encode names))
    (same : next.services = machine.services) (log : next.log = machine.log) (returned : Bool) :
    Behaves names machine command (.ok (returned, next)) :=
  Or.inr ⟨returned, next, names, rfl, by rw [log]; exact holds, .none same log⟩

theorem Behaves.logged {names changed : List Text} {log : Option ApplicationLog}
    (inside : command.Provided → ∃ edited, log = some edited)
    (sources : ∀ edited, log = some edited →
      edited.sources = some (encode (if command.access.Edits then changed else names)))
    (effect : ∀ edited, Effect command names machine changed { next with log := edited }) :
    Behaves names machine command (logged next log) := by
  cases log with
  | none =>
    refine Or.inl ⟨.outOfBuffer, rfl, fun provided => ?_⟩
    obtain ⟨edited, missing⟩ := inside provided
    cases missing
  | some edited =>
    have holds := sources edited rfl
    by_cases granted : command.access.Edits
    · rw [if_pos granted] at holds
      exact Or.inr ⟨true, _, _, rfl, holds, effect edited⟩
    · rw [if_neg granted] at holds
      exact Or.inr ⟨true, _, _, rfl, holds, .inaccessible granted⟩

theorem install_behaves {names : List Text} (holds : machine.log.sources = some (encode names)) (serviceName : Text)
    (osIsWin95 : Bool) (answers : InstallAnswers) : Behaves names machine (.install serviceName osIsWin95 answers)
      (installService serviceName osIsWin95 answers machine) := by
  unfold installService
  cases answers.moduleFileName with
  | none => exact .unchanged holds rfl rfl false
  | some path =>
    dsimp only
    by_cases win95 : osIsWin95 = true
    · rw [if_pos win95]
      by_cases opened : answers.runServicesKey = true
      · rw [if_pos opened]
        refine .unchanged holds ?_ ?_ true
        · split <;> rfl
        · split <;> rfl
      · rw [if_neg opened]
        exact .unchanged holds rfl rfl false
    · rw [if_neg win95]
      by_cases created : answers.openSCManager = true ∧ answers.createService = true ∧ serviceName ∉ machine.services
      · rw [if_pos created]
        refine .logged ?_ ?_ fun edited => .installed created.2.2 rfl
        · intro provided
          exact ApplicationLog.register_returns path eventlogTypes provided holds
        · intro edited registers
          exact ApplicationLog.register_encode holds registers
      · rw [if_neg created]
        exact .unchanged holds rfl rfl false

theorem remove_behaves {names : List Text} (holds : machine.log.sources = some (encode names)) (serviceName : Text)
    (osIsWin95 : Bool) (answers : RemoveAnswers) : Behaves names machine (.remove serviceName osIsWin95 answers)
      (removeService serviceName osIsWin95 answers machine) := by
  unfold removeService
  by_cases win95 : osIsWin95 = true
  · rw [if_pos win95]
    by_cases opened : answers.runServicesKey = true
    · rw [if_pos opened]
      refine .unchanged holds ?_ ?_ true
      · split <;> rfl
      · split <;> rfl
    · rw [if_neg opened]
      exact .unchanged holds rfl rfl false
  · rw [if_neg win95]
    by_cases opened : answers.openSCManager = true ∧ answers.openService = true ∧ serviceName ∈ machine.services
    · rw [if_pos opened]
      split
      · exact Or.inl ⟨.asking, rfl, fun _ => rfl⟩
      · by_cases deleted : answers.deleteService = true
        · rw [if_pos deleted]
          refine .logged ?_ ?_ fun edited => .removed rfl
          · intro provided
            exact ApplicationLog.deregister_returns provided holds
          · intro edited deregisters
            exact ApplicationLog.deregister_encode holds deregisters
        · rw [if_neg deleted]
          exact .unchanged holds rfl rfl false
    · rw [if_neg opened]
      exact .unchanged holds rfl rfl false

theorem run_behaves {names : List Text} (holds : machine.log.sources = some (encode names)) (command : Command) :
    Behaves names machine command (command.run machine) := by
  cases command with
  | install serviceName osIsWin95 answers => exact install_behaves holds serviceName osIsWin95 answers
  | remove serviceName osIsWin95 answers => exact remove_behaves holds serviceName osIsWin95 answers

theorem step_effect {names : List Text} (holds : machine.log.sources = some (encode names))
    (taken : step machine command = some next) :
    ∃ after, next.log.sources = some (encode after) ∧ Effect command names machine after next := by
  unfold step at taken
  rcases run_behaves holds command with ⟨stuck, waits, -⟩ | ⟨returned, left, after, returns, sources, effect⟩
  · rw [waits] at taken
    cases taken
  · rw [returns] at taken
    cases taken
    exact ⟨after, sources, effect⟩

theorem run_ne_outOfBuffer (listed : Listed machine) (command : Command) (provided : command.Provided) :
    command.run machine ≠ .error .outOfBuffer := by
  obtain ⟨names, holds, -⟩ := listed
  intro outside
  rcases run_behaves holds command with ⟨stuck, waits, asks⟩ | ⟨returned, left, after, returns, -⟩
  · rw [asks provided] at waits
    cases outside.symm.trans waits
  · cases outside.symm.trans returns

/-! ## Runs -/

theorem listed_init (distinct : foreign.Nodup) (start : init foreign machine) : Listed machine :=
  ⟨foreign, start.2, distinct⟩

theorem listed_step (listed : Listed machine) (taken : step machine command = some next) : Listed next := by
  obtain ⟨names, holds, distinct⟩ := listed
  obtain ⟨after, sources, effect⟩ := step_effect holds taken
  refine ⟨after, sources, ?_⟩
  cases effect with
  | none _ _ => exact distinct
  | installed _ _ => exact nodup_withName distinct
  | removed _ => exact nodup_without distinct
  | inaccessible _ => exact distinct

theorem registered_init (distinct : foreign.Nodup) (start : init foreign machine) : Registered foreign machine := by
  obtain ⟨none, sources⟩ := start
  refine ⟨?_, foreign, sources, distinct, ?_⟩
  · rw [none]
    exact List.nodup_nil
  · intro name
    rw [none]
    exact (or_iff_left List.not_mem_nil).symm

theorem registered_step (registered : Registered foreign machine) (own : Own foreign machine command)
    (taken : step machine command = some next) : Registered foreign next := by
  obtain ⟨services, names, holds, distinct, names_iff⟩ := registered
  obtain ⟨after, sources, effect⟩ := step_effect holds taken
  cases effect with
  | none same _ =>
    rw [← same] at services names_iff
    exact ⟨services, names, sources, distinct, names_iff⟩
  | installed fresh added =>
    refine ⟨?_, _, sources, nodup_withName distinct, ?_⟩
    · rw [added]
      exact List.nodup_cons.mpr ⟨fresh, services⟩
    · intro name
      rw [mem_withName, names_iff, added, List.mem_cons, or_assoc, or_comm (a := name ∈ machine.services)]
  | removed taken =>
    refine ⟨?_, _, sources, nodup_without distinct, ?_⟩
    · rw [taken]
      exact nodup_without services
    · intro name
      rw [mem_without, names_iff, taken, mem_without, or_and_right]
      -- The name of the service is not one of another program.
      refine or_congr_left (and_iff_left_of_imp ?_)
      rintro other rfl
      exact own.1 other
  | inaccessible refused => exact absurd own.2 refused

def reloadName : Text := ⟨[82, 83], by decide, by decide⟩

def clientName : Text := ⟨[67, 83], by decide, by decide⟩

def otherName : Text := ⟨[65], by decide, by decide⟩

def granted : RegAccess := ⟨true, true, true, true, true, true, true, true, true⟩

def installed (serviceName : Text) : Command :=
  .install serviceName false ⟨some [67], false, false, true, true, granted⟩

def removed (serviceName : Text) : Command :=
  .remove serviceName false ⟨⟨true, true, some .stopPending, false, [some .stopped]⟩, false, false, true, granted⟩

/-- The queries find only the pending state and then another one, or one of them fails. If the first one fails,
the state is the one before. -/
def Settles (pending : Status) (queries : List (Option Status)) (current last : Option Status) : Prop :=
  ∃ count rest, (∃ state, state ≠ pending ∧ last = some state ∧
      queries = List.replicate count (some pending) ++ some state :: rest) ∨
    last = (if count = 0 then current else some pending) ∧ queries = List.replicate count (some pending) ++ none :: rest

variable {pending state : Status} {queries : List (Option Status)} {current last : Option Status}

theorem not_settles_nil : ¬ Settles pending [] current last := by
  rintro ⟨count, rest, ⟨state, -, -, queries⟩ | ⟨-, queries⟩⟩
  · exact absurd queries.symm (List.append_ne_nil_of_right_ne_nil _ (List.cons_ne_nil _ _))
  · exact absurd queries.symm (List.append_ne_nil_of_right_ne_nil _ (List.cons_ne_nil _ _))

theorem settles_none : Settles pending (none :: queries) current last ↔ last = current := by
  constructor
  · rintro ⟨count, rest, found⟩
    cases count with
    | zero =>
      rcases found with ⟨state, -, -, same⟩ | ⟨same, -⟩
      · cases same
      · exact same
    | succ count =>
      rw [List.replicate_succ, List.cons_append] at found
      rcases found with ⟨state, -, -, same⟩ | ⟨-, same⟩ <;> cases same
  · rintro rfl
    exact ⟨0, queries, Or.inr ⟨rfl, rfl⟩⟩

theorem settles_found (other : state ≠ pending) :
    Settles pending (some state :: queries) current last ↔ last = some state := by
  constructor
  · rintro ⟨count, rest, found⟩
    cases count with
    | zero =>
      rcases found with ⟨found, -, last, same⟩ | ⟨-, same⟩
      · cases same
        exact last
      · cases same
    | succ count =>
      rw [List.replicate_succ, List.cons_append] at found
      rcases found with ⟨found, -, -, same⟩ | ⟨-, same⟩ <;> exact absurd (Option.some.inj (List.cons.inj same).1) other
  · rintro rfl
    exact ⟨0, queries, Or.inl ⟨state, other, rfl, rfl⟩⟩

theorem settles_pending :
    Settles pending (some pending :: queries) current last ↔ Settles pending queries (some pending) last := by
  constructor
  · rintro ⟨count, rest, found⟩
    cases count with
    | zero =>
      rcases found with ⟨state, other, -, same⟩ | ⟨-, same⟩
      · cases same
        exact absurd rfl other
      · cases same
    | succ count =>
      rw [List.replicate_succ, List.cons_append, if_neg (Nat.succ_ne_zero count)] at found
      refine ⟨count, rest, ?_⟩
      rw [ite_self]
      rcases found with ⟨state, other, last, same⟩ | ⟨last, same⟩
      · exact Or.inl ⟨state, other, last, (List.cons.inj same).2⟩
      · exact Or.inr ⟨last, (List.cons.inj same).2⟩
  · rintro ⟨count, rest, found⟩
    rw [ite_self] at found
    refine ⟨count + 1, rest, ?_⟩
    rw [if_neg (Nat.succ_ne_zero count), List.replicate_succ, List.cons_append]
    rcases found with ⟨state, other, last, same⟩ | ⟨last, same⟩
    · exact Or.inl ⟨state, other, last, congrArg _ same⟩
    · exact Or.inr ⟨last, congrArg _ same⟩

theorem queryLoop_eq_some : queryLoop pending queries current = some last ↔ Settles pending queries current last := by
  induction queries generalizing current with
  | nil => exact iff_of_false (fun ends => Option.some_ne_none last ends.symm) not_settles_nil
  | cons answer queries ih =>
    cases answer with
    | none => rw [queryLoop, settles_none, Option.some_inj, eq_comm]
    | some state =>
      by_cases same : state = pending
      · rw [queryLoop, if_pos same, same, ih, settles_pending]
      · rw [queryLoop, if_neg same, settles_found same, Option.some_inj, eq_comm]

theorem wanted_iff (wanted : Status) : (∃ last, (queryLoop pending queries current).map
    (fun last => (decide (last = some wanted), last)) = some (true, last)) ↔
      Settles pending queries current (some wanted) := by
  rw [← queryLoop_eq_some]
  constructor
  · rintro ⟨last, found⟩
    obtain ⟨state, ends, same⟩ := Option.map_eq_some_iff.mp found
    rw [ends, of_decide_eq_true (Prod.mk.inj same).1]
  · intro ends
    rw [ends]
    exact ⟨some wanted, by rw [Option.map_some, decide_eq_true rfl]⟩

/-- `EndService` and `StartupService` return TRUE exactly if the last state that they know is the one they want. -/
theorem commands_truthful (answers : ControlAnswers) (current : Option Status) :
    ((∃ last, endService answers current = some (true, last)) ↔
      (answers.openSCManager = true ∧ answers.openService = true) ∧ ∃ state, answers.controlService = some state ∧
        Settles .stopPending answers.queries (some state) (some .stopped)) ∧
    ((∃ last, startupService answers current = some (true, last)) ↔
      (answers.openSCManager = true ∧ answers.openService = true) ∧ answers.startService = true ∧
        Settles .startPending answers.queries current (some .running)) := by
  have refuses : ¬ ∃ last, some (false, current) = some (true, last) := by
    rintro ⟨last, same⟩
    cases same
  unfold endService startupService
  by_cases opened : answers.openSCManager = true ∧ answers.openService = true
  · rw [if_pos opened, if_pos opened, and_iff_right opened, and_iff_right opened]
    constructor
    · cases answers.controlService with
      | none =>
        refine iff_of_false refuses ?_
        rintro ⟨state, accepted, -⟩
        cases accepted
      | some state =>
        rw [wanted_iff]
        constructor
        · intro settles
          exact ⟨state, rfl, settles⟩
        · rintro ⟨_, accepted, settles⟩
          cases accepted
          exact settles
    · by_cases started : answers.startService = true
      · rw [if_pos started, and_iff_right started, wanted_iff]
      · rw [if_neg started]
        exact iff_of_false refuses fun both => started both.1
  · rw [if_neg opened, if_neg opened]
    exact ⟨iff_of_false refuses fun both => opened both.1, iff_of_false refuses fun both => opened both.1⟩

end Foolject.Reload.Installation
