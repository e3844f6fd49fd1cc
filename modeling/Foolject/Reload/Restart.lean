import Foolject.Lib.Transition

/-! The client service asks over a pipe to be started again, and the reload service starts it.

The pipe has one instance. Both services and the service manager take their steps in any
order. The reload service asks for the status once, some time after it has read the request.
-/

set_option autoImplicit false

namespace Foolject.Reload

inductive Status where
  | stopped
  | startPending
  | stopPending
  | running
  | continuePending
  | pausePending
  | paused
  deriving DecidableEq, Repr

inductive Client where
  | running
  /-- In the handler of the exception, before `CreateFile`. -/
  | failed
  /-- With a handle of the pipe, before `WriteFile`. -/
  | opened
  /-- Before `Stop`. -/
  | written
  | stopPending
  | stopped
  deriving DecidableEq, Repr

inductive Server where
  | starting
  /-- The pipe exists, before the first `ConnectNamedPipe`. -/
  | created
  /-- In `ConnectNamedPipe`. -/
  | waiting
  /-- In `ReadFile`. -/
  | reading
  /-- Asleep, before `QueryStatus`. -/
  | got
  /-- Before `Start`. -/
  | stoppedSeen
  | disconnecting
  /-- Before the next `ConnectNamedPipe`. -/
  | disconnected
  deriving DecidableEq, Repr

inductive Pipe where
  | absent
  /-- A client can open it. -/
  | listening
  | connected (byte : Bool)
  | disconnected
  deriving DecidableEq, Repr

structure State where
  client : Client
  server : Server
  pipe : Pipe
  deriving DecidableEq, Repr

inductive Label where
  | fail
  | createFile
  | writeFile
  | stop
  | exit
  | createNamedPipe
  | connectNamedPipe
  | connected
  | readFile
  /-- With the status that is found, or that the variable happens to hold. -/
  | queryStatus (status : Status)
  /-- `StartService` may fail for its own reasons. -/
  | start (granted : Bool)
  | disconnectNamedPipe
  deriving DecidableEq, Repr

def init (s : State) : Prop := s = ⟨.running, .starting, .absent⟩

/-- The steps of `CClientService::Run` and `Stop`. -/
def clientStep (s : State) : Label → Option State
  | .fail => if s.client = .running then some { s with client := .failed } else none
  | .createFile =>
    if s.client = .failed then
      if s.pipe = .listening then some { s with client := .opened, pipe := .connected false }
      -- "Error open pipe" is printed, and the service stops all the same.
      else some { s with client := .written }
    else none
  | .writeFile =>
    if s.client = .opened then
      if s.pipe = .connected false then some { s with client := .written, pipe := .connected true }
      else some { s with client := .written }
    else none
  | .stop => if s.client = .written then some { s with client := .stopPending } else none
  | .exit => if s.client = .stopPending then some { s with client := .stopped } else none
  | _ => none

/-- The steps of `CReloadService::Run`. -/
def serverStep (s : State) : Label → Option State
  | .createNamedPipe =>
    if s.server = .starting then some { s with server := .created, pipe := .listening } else none
  | .connectNamedPipe =>
    if s.server = .created ∨ s.server = .disconnected then
      -- A client that has come before makes the function fail.
      if s.pipe = .connected false ∨ s.pipe = .connected true then some { s with server := .disconnecting }
      else some { s with server := .waiting, pipe := .listening }
    else none
  | .connected =>
    if s.server = .waiting ∧ (s.pipe = .connected false ∨ s.pipe = .connected true) then
      some { s with server := .reading }
    else none
  | .readFile =>
    if s.server = .reading ∧ s.pipe = .connected true then some { s with server := .got, pipe := .connected false }
    else none
  | .queryStatus status =>
    if s.server = .got then
      some { s with server := if status = .stopped then .stoppedSeen else .disconnecting }
    else none
  | .start granted =>
    if s.server = .stoppedSeen then
      some { s with
        server := .disconnecting
        client := if s.client = .stopped ∧ granted = true then .running else s.client }
    else none
  | .disconnectNamedPipe =>
    if s.server = .disconnecting then some { s with server := .disconnected, pipe := .disconnected } else none
  | _ => none

def step (s : State) (label : Label) : Option State := (clientStep s label).or (serverStep s label)

abbrev reload : System State Label := .ofStep init step

/-- The client service is stopped, which it is after a failure of its own only, and the reload
service waits for a request while none is in the pipe. -/
def Lost (s : State) : Prop := s.client = .stopped ∧ s.server = .waiting ∧ s.pipe ≠ .connected true

instance (s : State) : Decidable (Lost s) := inferInstanceAs (Decidable (_ ∧ _))

/-- The pipe is opened only while the reload service waits for a client, the status is asked
for only when the client service is stopped and is found, and the start succeeds. -/
def Timely (s : State) : Label → Prop
  | .createFile => s.server = .waiting ∧ s.pipe = .listening
  | .queryStatus status => status = .stopped ∧ s.client = .stopped
  | .start granted => granted = true
  | _ => True

instance (s : State) (label : Label) : Decidable (Timely s label) := by
  cases label <;> unfold Timely <;> infer_instance

/-! ## What a step can do -/

variable {s t : State}

theorem ite_some {p : Prop} [Decidable p] {next : State} (taken : (if p then some next else none) = some t) :
    p ∧ t = next := by
  obtain ⟨holds, same⟩ := Option.ite_none_right_eq_some.mp taken
  exact ⟨holds, (Option.some.inj same).symm⟩

theorem step_client {label : Label} (other : serverStep s label = none) : step s label = clientStep s label := by
  unfold step
  rw [other, Option.or_none]

theorem step_fail (taken : step s .fail = some t) : s.client = .running ∧ t = { s with client := .failed } :=
  ite_some ((step_client rfl).symm.trans taken)

theorem step_createFile (taken : step s .createFile = some t) : s.client = .failed ∧
    (s.pipe = .listening ∧ t = { s with client := .opened, pipe := .connected false } ∨
      s.pipe ≠ .listening ∧ t = { s with client := .written }) := by
  rw [step_client rfl] at taken
  obtain ⟨failed, taken⟩ := Option.ite_none_right_eq_some.mp taken
  refine ⟨failed, ?_⟩
  by_cases listening : s.pipe = .listening
  · rw [if_pos listening] at taken
    exact Or.inl ⟨listening, (Option.some.inj taken).symm⟩
  · rw [if_neg listening] at taken
    exact Or.inr ⟨listening, (Option.some.inj taken).symm⟩

theorem step_writeFile (taken : step s .writeFile = some t) : s.client = .opened ∧
    (s.pipe = .connected false ∧ t = { s with client := .written, pipe := .connected true } ∨
      s.pipe ≠ .connected false ∧ t = { s with client := .written }) := by
  rw [step_client rfl] at taken
  obtain ⟨opened, taken⟩ := Option.ite_none_right_eq_some.mp taken
  refine ⟨opened, ?_⟩
  by_cases connected : s.pipe = .connected false
  · rw [if_pos connected] at taken
    exact Or.inl ⟨connected, (Option.some.inj taken).symm⟩
  · rw [if_neg connected] at taken
    exact Or.inr ⟨connected, (Option.some.inj taken).symm⟩

theorem step_stop (taken : step s .stop = some t) : s.client = .written ∧ t = { s with client := .stopPending } :=
  ite_some ((step_client rfl).symm.trans taken)

theorem step_exit (taken : step s .exit = some t) : s.client = .stopPending ∧ t = { s with client := .stopped } :=
  ite_some ((step_client rfl).symm.trans taken)

theorem step_createNamedPipe (taken : step s .createNamedPipe = some t) :
    s.server = .starting ∧ t = { s with server := .created, pipe := .listening } := ite_some taken

theorem step_connectNamedPipe (taken : step s .connectNamedPipe = some t) :
    (s.server = .created ∨ s.server = .disconnected) ∧
      ((s.pipe = .connected false ∨ s.pipe = .connected true) ∧ t = { s with server := .disconnecting } ∨
        ¬ (s.pipe = .connected false ∨ s.pipe = .connected true) ∧
          t = { s with server := .waiting, pipe := .listening }) := by
  obtain ⟨before, taken⟩ := Option.ite_none_right_eq_some.mp taken
  refine ⟨before, ?_⟩
  by_cases early : s.pipe = .connected false ∨ s.pipe = .connected true
  · rw [if_pos early] at taken
    exact Or.inl ⟨early, (Option.some.inj taken).symm⟩
  · rw [if_neg early] at taken
    exact Or.inr ⟨early, (Option.some.inj taken).symm⟩

theorem step_connected (taken : step s .connected = some t) : (s.server = .waiting ∧
    (s.pipe = .connected false ∨ s.pipe = .connected true)) ∧ t = { s with server := .reading } := ite_some taken

theorem step_readFile (taken : step s .readFile = some t) : (s.server = .reading ∧ s.pipe = .connected true) ∧
    t = { s with server := .got, pipe := .connected false } := ite_some taken

theorem step_queryStatus {status : Status} (taken : step s (.queryStatus status) = some t) : s.server = .got ∧
    t = { s with server := if status = .stopped then .stoppedSeen else .disconnecting } := ite_some taken

theorem step_start {granted : Bool} (taken : step s (.start granted) = some t) : s.server = .stoppedSeen ∧
    t = { s with
      server := .disconnecting
      client := if s.client = .stopped ∧ granted = true then .running else s.client } := ite_some taken

theorem step_disconnectNamedPipe (taken : step s .disconnectNamedPipe = some t) :
    s.server = .disconnecting ∧ t = { s with server := .disconnected, pipe := .disconnected } := ite_some taken

/-! ## Timely runs -/

structure Idle (s : State) : Prop where
  server : s.server ≠ .reading ∧ s.server ≠ .got ∧ s.server ≠ .stoppedSeen
  waiting : s.server = .waiting → s.pipe = .listening

/-- The request is in the pipe, or read, or about to be granted. -/
def Pending (s : State) : Prop :=
  s.pipe = .connected true ∧ (s.server = .waiting ∨ s.server = .reading) ∨ s.server = .got ∨
    s.server = .stoppedSeen ∧ s.client = .stopped

inductive Served (s : State) : Prop where
  | idle : s.client = .running ∨ s.client = .failed → Idle s → Served s
  | opened : s.client = .opened → s.pipe = .connected false → s.server = .waiting ∨ s.server = .reading → Served s
  | asked : s.client = .written ∨ s.client = .stopPending ∨ s.client = .stopped → Pending s → Served s

def Standing (s : State) : Prop :=
  match s.server with
  | .starting => s.pipe = .absent
  | .created => s.pipe = .listening
  | .waiting => s.pipe = .listening ∨ s.pipe = .connected false ∨ s.pipe = .connected true
  | .disconnected => s.pipe = .disconnected
  | _ => s.pipe = .connected false ∨ s.pipe = .connected true

theorem Pending.keeps {client : Client} (pending : Pending s) (same : s.client = .stopped → client = .stopped) :
    Pending { s with client := client } := by
  rcases pending with inPipe | read | ⟨seen, stopped⟩
  · exact Or.inl inPipe
  · exact Or.inr (Or.inl read)
  · exact Or.inr (Or.inr ⟨seen, same stopped⟩)

theorem Served.pending (served : Served s) (asked : s.client = .written ∨ s.client = .stopPending) : Pending s := by
  rcases served with ⟨before, -⟩ | ⟨opened, -, -⟩ | ⟨-, pending⟩
  · rcases asked with asked | asked <;> rcases before with before | before <;> cases asked.symm.trans before
  · rcases asked with asked | asked <;> cases asked.symm.trans opened
  · exact pending

theorem Served.idle_of_server (served : Served s) (away : s.server = .starting ∨ s.server = .created ∨
    s.server = .disconnecting ∨ s.server = .disconnected) : s.client = .running ∨ s.client = .failed := by
  rcases served with ⟨before, -⟩ | ⟨-, -, server⟩ | ⟨-, inPipe | read | ⟨seen, -⟩⟩
  · exact before
  · rcases server with server | server <;> rw [server] at away <;> simp at away
  · rcases inPipe.2 with server | server <;> rw [server] at away <;> simp at away
  · rw [read] at away
    simp at away
  · rw [seen] at away
    simp at away

theorem Served.pending_of_server (served : Served s) (server : s.server = .got ∨ s.server = .stoppedSeen) :
    (s.client = .written ∨ s.client = .stopPending ∨ s.client = .stopped) ∧ Pending s := by
  rcases served with ⟨-, idle⟩ | ⟨-, -, other⟩ | ⟨asked, pending⟩
  · rcases server with server | server
    · exact absurd server idle.server.2.1
    · exact absurd server idle.server.2.2
  · rcases other with other | other <;> rw [other] at server <;> simp at server
  · exact ⟨asked, pending⟩

theorem Served.stopped_of_seen (served : Served s) (seen : s.server = .stoppedSeen) : s.client = .stopped := by
  rcases (served.pending_of_server (Or.inr seen)).2 with ⟨-, server⟩ | got | ⟨-, stopped⟩
  · rcases server with server | server <;> cases seen.symm.trans server
  · cases seen.symm.trans got
  · exact stopped

theorem served_init (start : init s) : Served s ∧ Standing s := by
  cases start
  refine ⟨.idle (Or.inl rfl) ⟨by decide, ?_⟩, rfl⟩
  intro waiting
  cases waiting

theorem served_step {label : Label} (served : Served s) (standing : Standing s) (timely : Timely s label)
    (taken : step s label = some t) : Served t ∧ Standing t := by
  cases label with
  | fail =>
    obtain ⟨running, rfl⟩ := step_fail taken
    rcases served with ⟨-, idle⟩ | ⟨opened, -, -⟩ | ⟨asked, -⟩
    · exact ⟨.idle (Or.inr rfl) ⟨idle.server, idle.waiting⟩, standing⟩
    · cases running.symm.trans opened
    · rcases asked with asked | asked | asked <;> cases running.symm.trans asked
  | createFile =>
    obtain ⟨waiting, listening⟩ := timely
    obtain ⟨-, ⟨-, rfl⟩ | ⟨other, -⟩⟩ := step_createFile taken
    · refine ⟨.opened rfl rfl (Or.inl waiting), ?_⟩
      unfold Standing
      dsimp only
      rw [waiting]
      exact Or.inr (Or.inl rfl)
    · exact absurd listening other
  | writeFile =>
    obtain ⟨isOpen, taken⟩ := step_writeFile taken
    rcases served with ⟨before, -⟩ | ⟨-, connected, server⟩ | ⟨asked, -⟩
    · rcases before with before | before <;> cases isOpen.symm.trans before
    · rcases taken with ⟨-, rfl⟩ | ⟨other, -⟩
      · refine ⟨.asked (Or.inl rfl) (Or.inl ⟨rfl, server⟩), ?_⟩
        unfold Standing
        dsimp only
        rcases server with waiting | reading
        · rw [waiting]
          exact Or.inr (Or.inr rfl)
        · rw [reading]
          exact Or.inr rfl
      · exact absurd connected other
    · rcases asked with asked | asked | asked <;> cases isOpen.symm.trans asked
  | stop =>
    obtain ⟨written, rfl⟩ := step_stop taken
    have pending := served.pending (Or.inl written)
    refine ⟨.asked (Or.inr (Or.inl rfl)) (pending.keeps fun stopped => ?_), standing⟩
    cases written.symm.trans stopped
  | exit =>
    obtain ⟨stopping, rfl⟩ := step_exit taken
    have pending := served.pending (Or.inr stopping)
    exact ⟨.asked (Or.inr (Or.inr rfl)) (pending.keeps fun _ => rfl), standing⟩
  | createNamedPipe =>
    obtain ⟨starting, rfl⟩ := step_createNamedPipe taken
    have client := served.idle_of_server (Or.inl starting)
    exact ⟨.idle client ⟨by simp, by simp⟩, rfl⟩
  | connectNamedPipe =>
    obtain ⟨before, taken⟩ := step_connectNamedPipe taken
    have client := served.idle_of_server (by
      rcases before with created | disconnected
      · exact Or.inr (Or.inl created)
      · exact Or.inr (Or.inr (Or.inr disconnected)))
    rcases taken with ⟨early, rfl⟩ | ⟨-, rfl⟩
    · exact ⟨.idle client ⟨by simp, by simp⟩, early⟩
    · exact ⟨.idle client ⟨by simp, fun _ => rfl⟩, Or.inl rfl⟩
  | connected =>
    obtain ⟨⟨waiting, connected⟩, rfl⟩ := step_connected taken
    refine ⟨?_, connected⟩
    rcases served with ⟨-, idle⟩ | ⟨opened, empty, -⟩ | ⟨asked, inPipe | read | ⟨seen, -⟩⟩
    · -- Without a request nobody has opened the pipe.
      rw [idle.waiting waiting] at connected
      simp at connected
    · exact .opened opened empty (Or.inr rfl)
    · exact .asked asked (Or.inl ⟨inPipe.1, Or.inr rfl⟩)
    · cases waiting.symm.trans read
    · cases waiting.symm.trans seen
  | readFile =>
    obtain ⟨⟨reading, full⟩, rfl⟩ := step_readFile taken
    refine ⟨?_, Or.inl rfl⟩
    rcases served with ⟨-, idle⟩ | ⟨-, empty, -⟩ | ⟨asked, -⟩
    · exact absurd reading idle.server.1
    · cases empty.symm.trans full
    · exact .asked asked (Or.inr (Or.inl rfl))
  | queryStatus status =>
    -- Asked in time, the service is seen stopped and is about to be started.
    obtain ⟨rfl, stopped⟩ := timely
    obtain ⟨got, rfl⟩ := step_queryStatus taken
    have connected : s.pipe = .connected false ∨ s.pipe = .connected true := by
      unfold Standing at standing
      rw [got] at standing
      exact standing
    exact ⟨.asked (Or.inr (Or.inr stopped)) (Or.inr (Or.inr ⟨rfl, stopped⟩)), connected⟩
  | start granted =>
    obtain rfl := timely
    obtain ⟨seen, rfl⟩ := step_start taken
    have connected : s.pipe = .connected false ∨ s.pipe = .connected true := by
      unfold Standing at standing
      rw [seen] at standing
      exact standing
    rw [if_pos ⟨served.stopped_of_seen seen, rfl⟩]
    exact ⟨.idle (Or.inl rfl) ⟨by simp, by simp⟩, connected⟩
  | disconnectNamedPipe =>
    obtain ⟨disconnecting, rfl⟩ := step_disconnectNamedPipe taken
    have client := served.idle_of_server (Or.inr (Or.inr (Or.inl disconnecting)))
    exact ⟨.idle client ⟨by simp, by simp⟩, rfl⟩

theorem reaches_served (reached : reload.Reaches Timely s) : Served s ∧ Standing s :=
  reached.invariant (fun s => Served s ∧ Standing s) (fun _ => served_init)
    fun _ _ _ both timely taken => served_step both.1 both.2 timely taken

theorem served_not_lost (served : Served s) : ¬ Lost s := by
  rintro ⟨stopped, waiting, none⟩
  rcases served with ⟨before, -⟩ | ⟨opened, -, -⟩ | ⟨-, inPipe | read | ⟨seen, -⟩⟩
  · rcases before with before | before <;> cases stopped.symm.trans before
  · cases stopped.symm.trans opened
  · exact none inPipe.1
  · cases waiting.symm.trans read
  · cases waiting.symm.trans seen

/-! ## Steps that are not timely -/

def CanLose (s : State) : Prop := ∃ lost, (System.ofStep (fun start => start = s) step).Reaches Timely lost ∧ Lost lost

theorem canLose_of_follow (labels : List Label)
    (ends : (System.follow Timely step s labels).any (fun lost => decide (Lost lost)) = true) : CanLose s := by
  have start : (System.ofStep (fun start => start = s) step).Reaches Timely s := .start rfl
  obtain ⟨lost, reached, isLost⟩ := start.follow_any labels _ ends
  exact ⟨lost, reached, of_decide_eq_true isLost⟩

theorem createFile_canLose (served : Served s) (standing : Standing s)
    (untimely : ¬ (s.server = .waiting ∧ s.pipe = .listening)) (taken : step s .createFile = some t) : CanLose t := by
  -- The client service opens the pipe too early or finds it busy.
  obtain ⟨failed, taken⟩ := step_createFile taken
  obtain ⟨client, server, pipe⟩ := s
  obtain rfl : client = .failed := failed
  have idle : Idle ⟨.failed, server, pipe⟩ := by
    rcases served with ⟨-, idle⟩ | ⟨opened, -, -⟩ | ⟨asked, -⟩
    · exact idle
    · cases opened
    · rcases asked with asked | asked | asked <;> cases asked
  cases server with
  | starting =>
    obtain rfl : pipe = .absent := standing
    obtain ⟨busy, -⟩ | ⟨-, rfl⟩ := taken
    · cases busy
    · exact canLose_of_follow [.stop, .exit, .createNamedPipe, .connectNamedPipe] (by decide)
  | created =>
    obtain rfl : pipe = .listening := standing
    obtain ⟨-, rfl⟩ | ⟨other, -⟩ := taken
    · exact canLose_of_follow [.writeFile, .stop, .exit, .connectNamedPipe, .disconnectNamedPipe, .connectNamedPipe]
        (by decide)
    · exact absurd rfl other
  | waiting => exact absurd ⟨rfl, idle.waiting rfl⟩ untimely
  | reading => exact absurd rfl idle.server.1
  | got => exact absurd rfl idle.server.2.1
  | stoppedSeen => exact absurd rfl idle.server.2.2
  | disconnecting =>
    rcases (standing : pipe = .connected false ∨ pipe = .connected true) with rfl | rfl
    all_goals
      obtain ⟨busy, -⟩ | ⟨-, rfl⟩ := taken
      · cases busy
      · exact canLose_of_follow [.stop, .exit, .disconnectNamedPipe, .connectNamedPipe] (by decide)
  | disconnected =>
    obtain rfl : pipe = .disconnected := standing
    obtain ⟨busy, -⟩ | ⟨-, rfl⟩ := taken
    · cases busy
    · exact canLose_of_follow [.stop, .exit, .connectNamedPipe] (by decide)

theorem queryStatus_canLose {status : Status} (served : Served s) (standing : Standing s)
    (untimely : ¬ (status = .stopped ∧ s.client = .stopped)) (taken : step s (.queryStatus status) = some t) :
    CanLose t := by
  -- The status is asked for once only, while the client service is still stopping, or is not found.
  obtain ⟨got, rfl⟩ := step_queryStatus taken
  obtain ⟨asked, -⟩ := served.pending_of_server (Or.inl got)
  obtain ⟨client, server, pipe⟩ := s
  obtain rfl : server = .got := got
  by_cases found : status = .stopped
  · -- The start is attempted while the client service is not stopped.
    rw [if_pos found]
    rcases (standing : pipe = .connected false ∨ pipe = .connected true) with rfl | rfl
    all_goals
      rcases asked with rfl | rfl | rfl
      · exact canLose_of_follow [.start true, .stop, .exit, .disconnectNamedPipe, .connectNamedPipe] (by decide)
      · exact canLose_of_follow [.start true, .exit, .disconnectNamedPipe, .connectNamedPipe] (by decide)
      · exact absurd ⟨found, rfl⟩ untimely
  · rw [if_neg found]
    rcases (standing : pipe = .connected false ∨ pipe = .connected true) with rfl | rfl
    all_goals
      rcases asked with rfl | rfl | rfl
      · exact canLose_of_follow [.stop, .exit, .disconnectNamedPipe, .connectNamedPipe] (by decide)
      · exact canLose_of_follow [.exit, .disconnectNamedPipe, .connectNamedPipe] (by decide)
      · exact canLose_of_follow [.disconnectNamedPipe, .connectNamedPipe] (by decide)

theorem start_canLose (served : Served s) (standing : Standing s) (taken : step s (.start false) = some t) :
    CanLose t := by
  obtain ⟨seen, rfl⟩ := step_start taken
  have stopped := served.stopped_of_seen seen
  obtain ⟨client, server, pipe⟩ := s
  obtain rfl : server = .stoppedSeen := seen
  obtain rfl : client = .stopped := stopped
  rcases (standing : pipe = .connected false ∨ pipe = .connected true) with rfl | rfl
  all_goals exact canLose_of_follow [.disconnectNamedPipe, .connectNamedPipe] (by decide)

theorem untimely_canLose {label : Label} (served : Served s) (standing : Standing s) (untimely : ¬ Timely s label)
    (taken : step s label = some t) : CanLose t := by
  cases label with
  | createFile => exact createFile_canLose served standing untimely taken
  | queryStatus status => exact queryStatus_canLose served standing untimely taken
  | start granted =>
    cases granted with
    | true => exact absurd rfl untimely
    | false => exact start_canLose served standing taken
  | _ => exact absurd trivial untimely

/-- In timely runs no request is lost, and after a step that is not timely one can be. -/
theorem timely_loses_iff (reached : reload.Reaches Timely s) :
    ¬ Lost s ∧ ∀ label t, step s label = some t → (Timely s label ↔ ¬ CanLose t) := by
  obtain ⟨served, standing⟩ := reaches_served reached
  refine ⟨served_not_lost served, ?_⟩
  intro label t taken
  constructor
  · rintro timely ⟨lost, later, isLost⟩
    have onward : reload.Reaches Timely lost := by
      apply later.invariant (reload.Reaches Timely)
      · rintro start rfl
        exact reached.next timely taken
      · intro before label after reachedBefore allowed next
        exact reachedBefore.next allowed next
    exact served_not_lost (reaches_served onward).1 isLost
  · intro safe
    by_contra untimely
    exact safe (untimely_canLose served standing untimely taken)

theorem timely_loses_iff_granted : ∃ s, s = ⟨.running, .disconnecting, .connected false⟩ ∧ ¬ Lost s ∧
    ∀ label t, step s label = some t → (Timely s label ↔ ¬ CanLose t) := by
  have start : reload.Reaches Timely ⟨.running, .starting, .absent⟩ := .start rfl
  have reached : reload.Reaches Timely ⟨.running, .disconnecting, .connected false⟩ :=
    start.follow [.createNamedPipe, .connectNamedPipe, .fail, .createFile, .connected, .writeFile, .readFile, .stop,
      .exit, .queryStatus .stopped, .start true] (by decide)
  exact ⟨_, rfl, timely_loses_iff reached⟩

theorem slowStop_loses : ∃ s, reload.Reaches System.Always s ∧ s = ⟨.stopped, .waiting, .listening⟩ ∧ Lost s := by
  -- The status is asked for while the client service is stopping, which then stays stopped.
  have start : reload.Reaches System.Always ⟨.running, .starting, .absent⟩ := .start rfl
  have reached : reload.Reaches System.Always ⟨.stopped, .waiting, .listening⟩ :=
    start.follow [.createNamedPipe, .connectNamedPipe, .fail, .createFile, .connected, .writeFile, .readFile, .stop,
      .queryStatus .stopPending, .exit, .disconnectNamedPipe, .connectNamedPipe] (by decide)
  exact ⟨_, reached, rfl, by decide⟩

end Foolject.Reload
