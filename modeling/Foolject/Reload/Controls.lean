import Foolject.Lib.Transition

/-! The controls of the reload service: three events that stay set until they are reset.

The controls arrive at any points of `Run`. Only the way out of a pause resets events, so a
pause may meet an event that was set for an earlier one.
-/

set_option autoImplicit false

namespace Foolject.Reload.Controls

/-- The next statement of `CReloadService::Run`. -/
inductive Point where
  | createStop
  | createPause
  | createContinue
  /-- The condition of the main loop. -/
  | waitStop
  | waitPause
  | waitContinue
  /-- The wait for `m_hPause` in the loop that waits for `m_hContinue`. -/
  | waitPauseAgain
  | resetPause
  | resetContinue
  /-- Before `ConnectNamedPipe`. -/
  | connect
  /-- In a round, up to `DisconnectNamedPipe`. -/
  | serving
  /-- After the main loop. -/
  | left
  deriving DecidableEq, Repr

inductive Control where
  | onStop
  | onPause
  | onContinue
  | onShutdown
  deriving DecidableEq, Repr

/-- An event is `none` while its handle is zero, and otherwise set or not. -/
structure State where
  point : Point
  hStop : Option Bool
  hPause : Option Bool
  hContinue : Option Bool
  /-- `Stop` or `Shutdown` has been called. -/
  stopCalled : Bool
  /-- `Pause` has been called, and `Continue` not since. -/
  paused : Bool
  /-- The last of these calls of `Pause` came late. -/
  slipped : Bool
  deriving DecidableEq, Repr

inductive Label where
  | control (control : Control)
  | run
  deriving DecidableEq, Repr

def init (s : State) : Prop := s = ⟨.createStop, none, none, none, false, false, false⟩

def setEvent (event : Option Bool) : Option Bool := event.map fun _ => true

/-- There is no event yet, an earlier `Continue` is still set, or the round is about to start. -/
def Late (s : State) : Prop := s.hPause = none ∨ s.hContinue = some true ∨ s.point = .connect

instance (s : State) : Decidable (Late s) := inferInstanceAs (Decidable (_ ∨ _))

def call (s : State) : Control → State
  | .onStop => { s with hStop := setEvent s.hStop, stopCalled := true }
  | .onPause => { s with hPause := setEvent s.hPause, paused := true, slipped := decide (Late s) }
  | .onContinue => { s with hContinue := setEvent s.hContinue, paused := false, slipped := false }
  | .onShutdown => { s with hStop := setEvent s.hStop, stopCalled := true }

/-- A wait sees the event set, or times out. -/
def runStep (s : State) : Option State :=
  match s.point with
  | .createStop => some { s with hStop := some false, point := .createPause }
  | .createPause => some { s with hPause := some false, point := .createContinue }
  | .createContinue => some { s with hContinue := some false, point := .waitStop }
  | .waitStop => some { s with point := if s.hStop = some true then .left else .waitPause }
  | .waitPause => some { s with point := if s.hPause = some true then .waitContinue else .connect }
  | .waitContinue => some { s with point := if s.hContinue = some true then .resetPause else .waitPauseAgain }
  | .waitPauseAgain => some { s with point := if s.hPause = some true then .left else .waitContinue }
  | .resetPause => some { s with hPause := some false, point := .resetContinue }
  | .resetContinue => some { s with hContinue := some false, point := .connect }
  | .connect => some { s with point := .serving }
  | .serving => some { s with point := .waitStop }
  | .left => none

def step (s : State) : Label → Option State
  | .control control => some (call s control)
  | .run => runStep s

abbrev service : System State Label := .ofStep init step

/-- The loop is left only for `Stop` or `Shutdown`, and no round starts in a pause. -/
structure Obeys (s t : State) : Prop where
  leaves : s.point ≠ .left → t.point = .left → s.stopCalled = true
  rounds : s.point = .connect → t.point = .serving → s.paused = false

/-- The wait for `m_hContinue` times out only once the service is to stop, and a round starts
only when no late `Pause` is in force. -/
def InTime (s : State) : Label → Prop
  | .control _ => True
  | .run => (s.point = .waitPauseAgain → s.stopCalled = true) ∧ (s.point = .connect → s.slipped = false)

/-! ## What the events say about the controls -/

structure Sound (s : State) : Prop where
  stop : s.hStop = some true → s.stopCalled = true
  pausing : s.point = .waitContinue ∨ s.point = .waitPauseAgain ∨ s.point = .resetPause → s.hPause = some true
  resetting : s.point = .resetPause ∨ s.point = .resetContinue → s.hContinue = some true
  created : s.hPause ≠ none → s.point ≠ .createStop ∧ s.point ≠ .createPause
  obeyed : s.paused = true → s.slipped = false →
    s.hPause = some true ∧ s.hContinue ≠ some true ∧ s.point ≠ .connect
  slipped : s.slipped = true → s.paused = true

variable {s t : State}

theorem sound_init (start : init s) : Sound s := by
  cases start
  constructor <;> simp

theorem setEvent_eq_none {event : Option Bool} : setEvent event = none ↔ event = none := Option.map_eq_none_iff

theorem setEvent_of_some {event : Option Bool} (created : event ≠ none) : setEvent event = some true := by
  cases event with
  | none => exact absurd rfl created
  | some value => rfl

theorem sound_call (sound : Sound s) (control : Control) : Sound (call s control) := by
  obtain ⟨stop, pausing, resetting, created, obeyed, slipped⟩ := sound
  cases control with
  | onStop => exact ⟨fun _ => rfl, pausing, resetting, created, obeyed, slipped⟩
  | onShutdown => exact ⟨fun _ => rfl, pausing, resetting, created, obeyed, slipped⟩
  | onPause =>
    refine ⟨stop, ?_, resetting, ?_, ?_, fun _ => rfl⟩
    · intro inPause
      apply setEvent_of_some
      rw [pausing inPause]
      exact Option.some_ne_none true
    · intro made
      exact created (mt setEvent_eq_none.mpr made)
    · intro _ notLate
      have early : ¬ Late s := of_decide_eq_false notLate
      exact ⟨setEvent_of_some fun none => early (Or.inl none), fun set => early (Or.inr (Or.inl set)),
        fun atRound => early (Or.inr (Or.inr atRound))⟩
  | onContinue =>
    refine ⟨stop, pausing, ?_, created, ?_, ?_⟩
    · intro inReset
      apply setEvent_of_some
      rw [resetting inReset]
      exact Option.some_ne_none true
    · intro paused
      cases paused
    · intro late
      cases late

theorem Sound.waits (sound : Sound s) (paused : s.paused = true) (inTime : s.slipped = false) :
    s.point ≠ .createStop ∧ s.point ≠ .createPause ∧ s.point ≠ .resetPause ∧ s.point ≠ .resetContinue := by
  -- In force, a pause that was in time has not been reset.
  obtain ⟨set, unset, -⟩ := sound.obeyed paused inTime
  have made : s.hPause ≠ none := by
    rw [set]
    exact Option.some_ne_none true
  exact ⟨(sound.created made).1, (sound.created made).2, fun point => unset (sound.resetting (Or.inl point)),
    fun point => unset (sound.resetting (Or.inr point))⟩

theorem sound_runStep (sound : Sound s) (taken : runStep s = some t) : Sound t := by
  have waits := sound.waits
  obtain ⟨stop, pausing, resetting, created, obeyed, slipped⟩ := sound
  unfold runStep at taken
  cases point : s.point with
  | createStop =>
    rw [point] at taken
    cases taken
    refine ⟨by simp, by simp, by simp, ?_, ?_, slipped⟩
    · intro made
      exact absurd point (created made).1
    · intro paused inTime
      exact absurd point (waits paused inTime).1
  | createPause =>
    rw [point] at taken
    cases taken
    refine ⟨stop, by simp, by simp, by simp, ?_, slipped⟩
    intro paused inTime
    exact absurd point (waits paused inTime).2.1
  | createContinue =>
    rw [point] at taken
    cases taken
    refine ⟨stop, by simp, by simp, by simp, ?_, slipped⟩
    intro paused inTime
    exact ⟨(obeyed paused inTime).1, by simp, by simp⟩
  | waitStop =>
    rw [point] at taken
    cases taken
    by_cases set : s.hStop = some true
    · rw [if_pos set]
      refine ⟨stop, by simp, by simp, by simp, fun paused inTime => ?_, slipped⟩
      exact ⟨(obeyed paused inTime).1, (obeyed paused inTime).2.1, by simp⟩
    · rw [if_neg set]
      refine ⟨stop, by simp, by simp, by simp, fun paused inTime => ?_, slipped⟩
      exact ⟨(obeyed paused inTime).1, (obeyed paused inTime).2.1, by simp⟩
  | waitPause =>
    rw [point] at taken
    cases taken
    -- A pause in time has its event set, so that it is not let through here.
    by_cases set : s.hPause = some true
    · rw [if_pos set]
      exact ⟨stop, fun _ => set, by simp, by simp, fun paused inTime => ⟨set, (obeyed paused inTime).2.1, by simp⟩,
        slipped⟩
    · rw [if_neg set]
      exact ⟨stop, by simp, by simp, by simp, fun paused inTime => absurd (obeyed paused inTime).1 set, slipped⟩
  | waitContinue =>
    have inPause := pausing (Or.inl point)
    rw [point] at taken
    cases taken
    by_cases set : s.hContinue = some true
    · rw [if_pos set]
      exact ⟨stop, fun _ => inPause, fun _ => set, by simp, fun paused inTime => absurd set (obeyed paused inTime).2.1,
        slipped⟩
    · rw [if_neg set]
      exact ⟨stop, fun _ => inPause, by simp, by simp, fun _ _ => ⟨inPause, set, by simp⟩, slipped⟩
  | waitPauseAgain =>
    have inPause := pausing (Or.inr (Or.inl point))
    rw [point] at taken
    cases taken
    rw [if_pos inPause]
    exact ⟨stop, by simp, by simp, by simp, fun paused inTime => ⟨inPause, (obeyed paused inTime).2.1, by simp⟩,
      slipped⟩
  | resetPause =>
    -- Only a continue has led here, so a pause in force is a late one.
    rw [point] at taken
    cases taken
    have set := resetting (Or.inl point)
    refine ⟨stop, by simp, fun _ => set, by simp, ?_, slipped⟩
    intro paused inTime
    exact absurd point (waits paused inTime).2.2.1
  | resetContinue =>
    rw [point] at taken
    cases taken
    refine ⟨stop, by simp, by simp, by simp, ?_, slipped⟩
    intro paused inTime
    exact absurd point (waits paused inTime).2.2.2
  | connect =>
    rw [point] at taken
    cases taken
    refine ⟨stop, by simp, by simp, by simp, ?_, slipped⟩
    intro paused inTime
    exact absurd point (obeyed paused inTime).2.2
  | serving =>
    rw [point] at taken
    cases taken
    refine ⟨stop, by simp, by simp, by simp, ?_, slipped⟩
    intro paused inTime
    exact ⟨(obeyed paused inTime).1, (obeyed paused inTime).2.1, by simp⟩
  | left =>
    rw [point] at taken
    cases taken

theorem reaches_sound (reached : service.Reaches System.Always s) : Sound s := by
  apply reached.invariant Sound fun _ => sound_init
  intro s label t sound _ taken
  cases label with
  | control control =>
    cases taken
    exact sound_call sound control
  | run => exact sound_runStep sound taken

/-! ## Which steps obey -/

theorem point_call (s : State) (control : Control) : (call s control).point = s.point := by
  cases control <;> rfl

theorem Sound.paused_iff (sound : Sound s) (point : s.point = .connect) : s.paused = s.slipped := by
  cases late : s.slipped with
  | true => exact sound.slipped late
  | false =>
    cases paused : s.paused with
    | false => rfl
    | true => exact absurd point (sound.obeyed paused late).2.2

/-- Two of the waits can leave the loop, and only `ConnectNamedPipe` starts a round. -/
theorem runStep_point (taken : runStep s = some t) :
    (t.point = .left ↔
      s.point = .waitStop ∧ s.hStop = some true ∨ s.point = .waitPauseAgain ∧ s.hPause = some true) ∧
    (t.point = .serving ↔ s.point = .connect) := by
  unfold runStep at taken
  cases point : s.point with
  | waitStop =>
    rw [point] at taken
    cases taken
    by_cases set : s.hStop = some true <;> simp [set]
  | waitPauseAgain =>
    rw [point] at taken
    cases taken
    by_cases set : s.hPause = some true <;> simp [set]
  | waitPause =>
    rw [point] at taken
    cases taken
    by_cases set : s.hPause = some true <;> simp [set]
  | waitContinue =>
    rw [point] at taken
    cases taken
    by_cases set : s.hContinue = some true <;> simp [set]
  | left =>
    rw [point] at taken
    cases taken
  | createStop | createPause | createContinue | resetPause | resetContinue | connect | serving =>
    rw [point] at taken
    cases taken
    simp

theorem obeys_call (s : State) (control : Control) : Obeys s (call s control) := by
  constructor
  · intro inside outside
    rw [point_call] at outside
    exact absurd outside inside
  · intro before after
    rw [point_call, before] at after
    cases after

/-- The next step of any run obeys exactly if it is in time. -/
theorem obeys_iff (reached : service.Reaches System.Always s) {label : Label} (taken : step s label = some t) :
    Obeys s t ↔ InTime s label := by
  have sound := reaches_sound reached
  cases label with
  | control control =>
    cases taken
    exact iff_of_true (obeys_call s control) trivial
  | run =>
    obtain ⟨left, serving⟩ := runStep_point (show runStep s = some t from taken)
    constructor
    · intro obeys
      constructor
      · intro waits
        -- During a pause its event is set, so that the second wait leaves the loop.
        have inPause := sound.pausing (Or.inr (Or.inl waits))
        exact obeys.leaves (by simp [waits]) (left.mpr (Or.inr ⟨waits, inPause⟩))
      · intro connects
        exact (sound.paused_iff connects).symm.trans (obeys.rounds connects (serving.mpr connects))
    · intro inTime
      constructor
      · intro _ outside
        rcases left.mp outside with ⟨-, stopSet⟩ | ⟨waits, -⟩
        · exact sound.stop stopSet
        · exact inTime.1 waits
      · intro connects _
        exact (sound.paused_iff connects).trans (inTime.2 connects)

theorem obeys_iff_continued : ∃ s t, service.Reaches System.Always s ∧ step s .run = some t ∧
    s = ⟨.connect, some false, some false, some false, false, false, false⟩ ∧ (Obeys s t ↔ InTime s .run) := by
  have start : service.Reaches System.Always ⟨.createStop, none, none, none, false, false, false⟩ := .start rfl
  have reached : service.Reaches System.Always ⟨.connect, some false, some false, some false, false, false, false⟩ :=
    start.follow [.run, .run, .run, .control .onPause, .run, .run, .control .onContinue, .run, .run, .run] (by decide)
  have taken : step ⟨.connect, some false, some false, some false, false, false, false⟩ .run =
      some ⟨.serving, some false, some false, some false, false, false, false⟩ := rfl
  exact ⟨_, _, reached, taken, rfl, obeys_iff reached taken⟩

theorem pause_leaves : ∃ s t, service.Reaches System.Always s ∧ step s .run = some t ∧
    s = ⟨.waitPauseAgain, some false, some true, some false, false, true, false⟩ ∧ t.point = .left ∧ ¬ Obeys s t := by
  -- A pause that nothing ends in time stops the service, although `Stop` has not been called.
  have start : service.Reaches System.Always ⟨.createStop, none, none, none, false, false, false⟩ := .start rfl
  have reached : service.Reaches System.Always
      ⟨.waitPauseAgain, some false, some true, some false, false, true, false⟩ :=
    start.follow [.run, .run, .run, .control .onPause, .run, .run, .run] (by decide)
  refine ⟨_, _, reached, rfl, rfl, rfl, ?_⟩
  intro obeys
  have called := obeys.leaves (by decide) rfl
  cases called

end Foolject.Reload.Controls
