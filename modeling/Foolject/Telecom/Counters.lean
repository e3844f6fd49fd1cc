import Foolject.Telecom.Lines
import Foolject.Telecom.Handlers

/-! The counters of the line states, over all lines and all runs.

Each handler moves the counters as it moves the line that it runs on. What a counter is off by
at the start it is off by for ever.
-/

set_option autoImplicit false

namespace Foolject.Telecom
open Transducer

def one (line : TLine) (state : TLineState) : UInt32 := if line.state = state then 1 else 0

def Counts (before : TLine) (effects : List Effect) (after : TLine) : Prop :=
  ∀ total state, countAll effects total state = total state - one before state + one after state

theorem counts_composes : Composes Counts where
  nothing line total state := by
    simp [countAll]
  compose first second := by
    intro total state
    rw [countAll_append, second, first]
    grind

abbrev Tracks (handler : Handler) : Prop := Respects Counts handler

namespace TLine

theorem tracks_setState (state : TLineState) : Tracks (setState state) := by
  intro line total other
  unfold setState countAll countEffect one
  simp only [List.foldl_cons, List.foldl_nil]
  by_cases arrives : state = other
  · subst arrives
    by_cases stays : line.state = state
    · simp [stays]
    · simp [stays, Function.update_of_ne (Ne.symm stays)]
  · by_cases leaves : line.state = other
    · subst leaves
      simp [arrives, Function.update_of_ne (Ne.symm arrives)]
    · simp [arrives, leaves, Function.update_of_ne (Ne.symm arrives),
        Function.update_of_ne (Ne.symm leaves)]

theorem tracks_quiet {handler : Handler} (still : ∀ line, (handler line).1.state = line.state)
    (silent : ∀ line, ∀ effect ∈ (handler line).2, ∀ before after, effect ≠ .countState before after) :
    Tracks handler := by
  intro line total state
  have kept : countAll (handler line).2 total = total := by
    unfold countAll
    have none := silent line
    generalize (handler line).2 = effects at none
    induction effects with
    | nil => rfl
    | cons effect rest ih =>
      have first : countEffect total effect = total := by
        cases effect with
        | countState before after => exact absurd rfl (none _ List.mem_cons_self before after)
        | _ => rfl
      rw [List.foldl_cons, first]
      exact ih fun effect member => none effect (List.mem_cons_of_mem _ member)
  rw [kept]
  unfold one
  rw [still]
  grind

theorem tracks_modify {change : TLine → TLine} (still : ∀ line, (change line).state = line.state) :
    Tracks (modify change) :=
  tracks_quiet still fun _ _ member => absurd member List.not_mem_nil

theorem tracks_reportEvent (msg : List Char) : Tracks (reportEvent msg) := by
  apply tracks_quiet
  · exact fun _ => rfl
  · intro line effect member before after
    unfold reportEvent emit vsnprintf at member
    by_cases fits : msg.length ≤ 200
    · simp only [fits, if_true, List.mem_singleton] at member
      simp [member]
    · simp [fits] at member

theorem tracks_request {request : TLine → Effect}
    (other : ∀ line before after, request line ≠ .countState before after) :
    Tracks (emit fun line => [request line]) := by
  apply tracks_quiet
  · exact fun _ => rfl
  · intro line effect member
    rw [List.mem_singleton.mp member]
    exact other line

theorem tracks_setCallState (state : TCallState) : Tracks (setCallState state) := by
  unfold setCallState
  apply Respects.andThen counts_composes
  · exact tracks_modify fun _ => rfl
  · cases state with
    | invalid => exact tracks_setState _
    | seizure => exact tracks_setState _
    | outboundInitiated => exact tracks_setState _
    | _ => exact Respects.skip counts_composes

theorem counts_parts : Parts Counts where
  composes := counts_composes
  state := tracks_setState
  callState state _ := tracks_setCallState state
  callDir _ := tracks_modify fun _ => rfl
  numbers _ _ := tracks_modify fun _ => rfl
  reportEvent := tracks_reportEvent
  request _ := tracks_request
  marks _ _ _ := tracks_modify fun _ => rfl

/-! ## The beginning and the end of a call -/

theorem tracks_offered (crn : Int) (results : GcResults) : Tracks (offered crn results) := by
  apply counts_parts.andThen
  · exact tracks_modify fun _ => rfl
  · exact counts_parts.run (by simp : On.incoming _ _ ≠ .released)

theorem tracks_makeCall (ani dnis : List Char) (crn : Int) : Tracks (makeCall ani dnis (some crn)) := by
  apply counts_parts.andThen
  · exact tracks_request fun _ _ _ => by simp
  · apply counts_parts.andThen
    · exact tracks_modify fun _ => rfl
    · exact counts_parts.run (by decide : On.outboundInitiated ≠ .released)

theorem tracks_released : Tracks released := by
  apply counts_parts.andThen
  · exact counts_parts.released (tracks_setCallState .invalid)
  · exact tracks_modify fun _ => rfl

theorem tracks_switch (event : MetaEvent) : Tracks (switch event) := by
  by_cases other : event.type = .offered
  · unfold switch
    rw [other]
    exact tracks_offered _ _
  · by_cases ends : event.type = .releaseCall
    · unfold switch
      rw [ends]
      exact tracks_released
    · exact counts_parts.switch other ends

theorem tracks_input (label : LineInput) : Tracks (input label) := by
  cases label with
  | event event =>
    intro line
    by_cases found : event.results.getCRN = true
    · rw [input_found found]
      exact tracks_switch event line
    · rw [input_lost found]
      exact counts_composes.nothing line
  | voice event => exact counts_parts.input rfl id
  | command command =>
    cases placed : begins (.command command) with
    | none => exact counts_parts.input placed id
    | some crn =>
      cases command with
      | makeCall ani dnis _ =>
        cases placed
        exact tracks_makeCall ani dnis crn
      | _ => cases placed

end TLine

/-! ## All lines together -/

namespace TTelecom

/-- How far the counter of the state is from the number of lines in it. -/
def drift (tel : TTelecom) (state : TLineState) : UInt32 :=
  tel.totalLinesInState state - UInt32.ofNat (tel.linesInState state)

theorem countP_cons (state : TLineState) (line : TLine) (rest : List TLine) :
    UInt32.ofNat ((line :: rest).countP (·.state = state)) =
      UInt32.ofNat (rest.countP (·.state = state)) + one line state := by
  rw [List.countP_cons, UInt32.ofNat_add]
  unfold one
  by_cases here : line.state = state
  · simp [here]
  · simp [here]

theorem countP_set (state : TLineState) (lines : List TLine) (i : Nat) (before after : TLine)
    (at_ : lines[i]? = some before) :
    UInt32.ofNat ((lines.set i after).countP (·.state = state)) =
      UInt32.ofNat (lines.countP (·.state = state)) - one before state + one after state := by
  induction lines generalizing i with
  | nil => cases at_
  | cons first rest ih =>
    cases i with
    | zero =>
      cases at_
      rw [List.set_cons_zero, countP_cons, countP_cons]
      grind
    | succ i =>
      have tail := ih i at_
      rw [List.set_cons_succ, countP_cons, countP_cons, tail]
      grind

theorem drift_onLine (tel : TTelecom) (i : Nat) {handler : Handler} (tracks : Tracks handler) :
    (tel.onLine i handler).drift = tel.drift := by
  funext state
  unfold onLine
  cases at_ : tel.lines[i]? with
  | none => rfl
  | some line =>
    unfold drift linesInState
    dsimp only
    rw [tracks line, countP_set state tel.lines i line _ at_]
    grind

theorem length_onLine (tel : TTelecom) (i : Nat) (handler : Handler) :
    (tel.onLine i handler).lines.length = tel.lines.length := by
  unfold onLine
  cases tel.lines[i]? with
  | none => rfl
  | some line => exact List.length_set

theorem drift_openFrom (opens : Nat → Bool) (left i : Nat) (tel : TTelecom) :
    (openFrom opens i left tel).2.drift = tel.drift ∧
    (openFrom opens i left tel).2.lines.length = tel.lines.length := by
  -- The induction is on the lines that are left to open.
  induction left generalizing i tel with
  | zero => exact ⟨rfl, rfl⟩
  | succ left ih =>
    unfold openFrom
    split
    · obtain ⟨drift, length⟩ := ih (i + 1) (tel.onLine i (TLine.openLine true))
      constructor
      · exact drift.trans (drift_onLine tel i (TLine.counts_parts.run (by decide : On.opened ≠ .released)))
      · exact length.trans (length_onLine tel i _)
    · exact ⟨rfl, rfl⟩

theorem drift_openLines {numOfLines : UInt32} (opens : Nat → Bool) {lines : List TLine}
    (fresh : Fresh numOfLines lines) :
    (openLines opens lines).2.drift = fun state =>
        if state = .closed then 4 - numOfLines else 0 := by
  -- The counters start as those of four closed lines.
  obtain ⟨length, closed⟩ := fresh
  have start : drift ⟨lines, fun state => if state = TLineState.closed then 4 else 0⟩ =
      fun state => if state = TLineState.closed then 4 - numOfLines else 0 := by
    funext state
    unfold drift linesInState
    dsimp only
    by_cases open_ : state = .closed
    · subst open_
      have all : lines.countP (·.state = .closed) = lines.length := by
        apply List.countP_eq_length.mpr
        intro line member
        obtain ⟨index, ani, dnis, crn, rfl⟩ := closed line member
        rfl
      rw [if_pos rfl, if_pos rfl, all, length, UInt32.ofNat_toNat]
    · have none : lines.countP (·.state = state) = 0 := by
        apply List.countP_eq_zero.mpr
        intro line member
        obtain ⟨index, ani, dnis, crn, rfl⟩ := closed line member
        exact fun same => open_ (of_decide_eq_true same).symm
      rw [if_neg open_, if_neg open_, none]
      rfl
  unfold openLines
  dsimp only
  split
  · exact start
  · exact (drift_openFrom opens _ _ _).1.trans start

theorem drift_reached {numOfLines : UInt32} {opens : Nat → Bool} {tel : TTelecom}
    (reached : (system numOfLines opens).Reaches System.Always tel) :
    tel.drift = (fun state => if state = .closed then 4 - numOfLines else 0) ∧
    tel.lines.length = numOfLines.toNat := by
  apply reached.invariant fun tel =>
    tel.drift = (fun state => if state = .closed then 4 - numOfLines else 0) ∧
      tel.lines.length = numOfLines.toNat
  · rintro tel ⟨lines, fresh, rfl⟩
    refine ⟨drift_openLines opens fresh, ?_⟩
    unfold openLines
    dsimp only
    split
    · exact fresh.1
    · exact (drift_openFrom opens _ _ _).2.trans fresh.1
  · rintro tel label after ⟨drift, length⟩ - stepped
    cases stepped
    constructor
    · exact (drift_onLine tel label.1 (TLine.tracks_input label.2)).trans drift
    · exact (length_onLine tel label.1 _).trans length

/-- In every state of every run the counters are exact if and only if there are four lines. -/
theorem counters_exact {numOfLines : UInt32} {opens : Nat → Bool} {tel : TTelecom}
    (reached : (system numOfLines opens).Reaches System.Always tel) : tel.Exact ↔ numOfLines = 4 := by
  obtain ⟨drift, length⟩ := drift_reached reached
  constructor
  · intro exact
    have closed := exact .closed
    have same : tel.totalLinesInState .closed = UInt32.ofNat (tel.linesInState .closed) := by
      rw [← closed, UInt32.ofNat_toNat]
    have off := congrFun drift .closed
    unfold TTelecom.drift at off
    rw [same, if_pos rfl] at off
    grind
  · rintro rfl state
    have none : tel.totalLinesInState state = UInt32.ofNat (tel.linesInState state) := by
      have zero := congrFun drift state
      unfold TTelecom.drift at zero
      split at zero <;> grind
    have few : tel.linesInState state ≤ tel.lines.length := List.countP_le_length
    rw [none]
    apply UInt32.toNat_ofNat_of_lt
    rw [length] at few
    exact Nat.lt_of_le_of_lt few (by decide)

def newLines (count : Nat) : List TLine := (List.range count).map fun index => TLine.fresh index [] [] 0

theorem newLines_fresh (count : Nat) (fits : count < UInt32.size) :
    Fresh (UInt32.ofNat count) (newLines count) := by
  constructor
  · rw [UInt32.toNat_ofNat_of_lt' fits]
    simp [newLines]
  · intro line member
    obtain ⟨index, -, rfl⟩ := List.mem_map.mp member
    exact ⟨index, [], [], 0, rfl⟩

theorem counters_exact_four : ∃ tel, (system 4 fun _ => true).Reaches System.Always tel ∧
    (tel.linesInState .active = 1 ∧ tel.linesInState .idle = 1 ∧ tel.linesInState .closed = 0) ∧ tel.Exact := by
  -- Two of the four lines are blocked for a while, and one of these then gets a call.
  let come (type : GlobalCallEvent) : LineInput := .event ⟨type, 7, true, true, none, none, none⟩
  have made : (system 4 fun _ => true).Reaches System.Always (openLines (fun _ => true) (newLines 4)).2 :=
    .start ⟨newLines 4, newLines_fresh 4 (by decide), rfl⟩
  obtain ⟨tel, reached, spread⟩ := made.follow_any
    [(0, come .blocked), (2, come .blocked), (2, come .unblocked), (0, come .unblocked), (2, come .detected),
      (2, come .offered)]
    (fun tel => decide (tel.linesInState .active = 1 ∧ tel.linesInState .idle = 1 ∧ tel.linesInState .closed = 0))
    (by decide +kernel)
  exact ⟨tel, reached, of_decide_eq_true spread, (counters_exact reached).mpr rfl⟩

theorem counters_wrap : ∃ tel, (system 5 fun _ => true).Reaches System.Always tel ∧
    tel.totalLinesInState .closed = 4294967295 ∧ tel.linesInState .closed = 0 ∧ ¬ tel.Exact := by
  -- With five lines, all of them open, the counter of the closed ones is below zero.
  have wrapped : (openLines (fun _ => true) (newLines 5)).2.totalLinesInState .closed = 4294967295 ∧
      (openLines (fun _ => true) (newLines 5)).2.linesInState .closed = 0 := by decide
  refine ⟨_, .start ⟨newLines 5, newLines_fresh 5 (by decide), rfl⟩, wrapped.1, wrapped.2, ?_⟩
  intro exact
  have closed := exact .closed
  rw [wrapped.1, wrapped.2] at closed
  exact absurd closed (by decide)

end TTelecom

end Foolject.Telecom
