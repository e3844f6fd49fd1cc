import Mathlib.Data.List.DropRight
import Mathlib.Data.List.Induction
import Foolject.Telecom.Handlers
import Foolject.Telecom.Maintenance

/-! The reason for which a call exits, and where it comes from.

The reason is one field that only the far end's drop and a drop by the near end assign. It is not
reset with the other two, so a drop that Global Call has no result for leaves the last one.
-/

set_option autoImplicit false

namespace Foolject.Telecom
open Transducer TLine

structure Exit where
  established : Bool
  near : Bool
  reason : CallExitReason
  deriving DecidableEq

def TLine.exit (line : TLine) : Exit := ⟨line.callEstablished, line.callNearDroped, line.callExitReason⟩

def Establishes (label : LineInput) : Prop := Handles .answered label ∨ Handles .connected label

def FarEndDrops (label : LineInput) : Prop := Handles .callStatus label ∨ Handles .disconnected label

instance : DecidablePred Establishes := fun _ => inferInstanceAs (Decidable (_ ∨ _))

instance : DecidablePred FarEndDrops := fun _ => inferInstanceAs (Decidable (_ ∨ _))

theorem handles_unique {type other : GlobalCallEvent} {label : LineInput} (one : Handles type label)
    (two : Handles other label) : type = other := by
  cases label with
  | event event => exact one.1.symm.trans two.1
  | voice event => cases one
  | command command => cases one

theorem not_establishes {type : GlobalCallEvent} {label : LineInput} (handles : Handles type label)
    (other : type ≠ .answered ∧ type ≠ .connected) : ¬ Establishes label := by
  rintro (answered | connected)
  · exact other.1 (handles_unique handles answered)
  · exact other.2 (handles_unique handles connected)

theorem not_farEndDrops {type : GlobalCallEvent} {label : LineInput} (handles : Handles type label)
    (other : type ≠ .callStatus ∧ type ≠ .disconnected) : ¬ FarEndDrops label := by
  rintro (status | disconnected)
  · exact other.1 (handles_unique handles status)
  · exact other.2 (handles_unique handles disconnected)

def resultInfo : LineInput → Option GcValue
  | .event event => event.results.resultInfo
  | _ => none

namespace Exit

def after (exit : Exit) (label : LineInput) : Exit :=
  if Establishes label then { exit with established := true }
  else if FarEndDrops label then
    { exit with
      near := false
      reason := if exit.established then .farEnd
        else ((resultInfo label).map GcValue.reason).getD exit.reason }
  else if Handles .dropCall label then { exit with reason := if exit.near then .nearEnd else exit.reason }
  else if Handles .releaseCall label then { exit with established := false, near := true }
  else exit

/-! Each of the cases by itself: an event is of one type. -/

variable {label : LineInput}

theorem after_establishes (exit : Exit) (establishes : Establishes label) :
    exit.after label = { exit with established := true } := if_pos establishes

theorem after_farEndDrops (exit : Exit) (drops : FarEndDrops label) : exit.after label =
    ⟨exit.established, false, if exit.established then .farEnd
      else ((resultInfo label).map GcValue.reason).getD exit.reason⟩ := by
  have none : ¬ Establishes label := by
    rcases drops with drops | drops
    · exact not_establishes drops (by decide)
    · exact not_establishes drops (by decide)
  unfold after
  rw [if_neg none, if_pos drops]

theorem after_dropCall (exit : Exit) (drops : Handles .dropCall label) :
    exit.after label = { exit with reason := if exit.near then .nearEnd else exit.reason } := by
  unfold after
  rw [if_neg (not_establishes drops (by decide)), if_neg (not_farEndDrops drops (by decide)), if_pos drops]

theorem after_releaseCall (exit : Exit) (released : Handles .releaseCall label) :
    exit.after label = { exit with established := false, near := true } := by
  unfold after
  rw [if_neg (not_establishes released (by decide)), if_neg (not_farEndDrops released (by decide)),
    if_neg fun drops => absurd (handles_unique released drops) (by decide), if_pos released]

/-- The events that leave it as it is. -/
theorem after_other (exit : Exit) {event : MetaEvent} (other : event.type ∉
    [GlobalCallEvent.answered, .connected, .callStatus, .disconnected, .dropCall, .releaseCall]) :
    exit.after (.event event) = exit := by
  simp only [List.mem_cons, List.not_mem_nil, or_false, not_or] at other
  unfold after Establishes FarEndDrops Handles
  simp [other]

theorem after_lost (exit : Exit) {event : MetaEvent} (lost : event.results.getCRN ≠ true) :
    exit.after (.event event) = exit := by
  unfold after Establishes FarEndDrops Handles
  simp [lost]

end Exit

namespace TLine

theorem exit_run (on : On) (line : TLine) : (on.run line).1.exit = line.exit :=
  congrArg (fun part => Exit.mk part.2.1 part.2.2.1 part.2.2.2) (callPart_run on line)

theorem exit_farEndDrops (result : Option GcValue) (line : TLine) : (farEndDrops result line).1.exit =
    ⟨line.callEstablished, false, if line.callEstablished then .farEnd
      else (result.map GcValue.reason).getD line.callExitReason⟩ := by
  cases line with
  | mk index state callState callDir ani dnis crn established near reason =>
    cases established with
    | true => rfl
    | false =>
      cases result with
      | none => rfl
      | some value => rfl

theorem exit_waitsForCall (results : GcResults) (line : TLine) :
    (waitsForCall results line).1.exit = line.exit := by
  rw [waitsForCall_fst]
  split
  · rfl
  · rfl

theorem exit_switch {event : MetaEvent} (found : event.results.getCRN = true) (line : TLine) :
    (switch event line).1.exit = line.exit.after (.event event) := by
  have handles {type : GlobalCallEvent} (same : event.type = type) : Handles type (.event event) := ⟨same, found⟩
  have other := @Exit.after_other line.exit event
  unfold switch
  -- The exit of a call is about six types of events; the others run handlers that keep it.
  cases type : event.type with
  | blocked =>
    rw [other (by simp [type])]
    exact exit_run .block line
  | unblocked =>
    rw [other (by simp [type])]
    exact exit_waitsForCall _ line
  | detected =>
    rw [other (by simp [type])]
    exact exit_run .seizureDetected line
  | offered =>
    rw [other (by simp [type])]
    exact exit_run (.incoming _ _) { line with crn := event.crn }
  | accept =>
    rw [other (by simp [type])]
    exact exit_run .accepting line
  | answered =>
    rw [Exit.after_establishes _ (.inl (handles type))]
    exact (exit_run (.connected _) _).trans (exit_run .answering { line with callEstablished := true })
  | dialing =>
    rw [other (by simp [type])]
    exact exit_run .placing line
  | proceeding =>
    rw [other (by simp [type])]
    exact exit_run .proceeding line
  | alerting =>
    rw [other (by simp [type])]
    exact exit_run .alerting line
  | connected =>
    rw [Exit.after_establishes _ (.inr (handles type)), ← exit_run (.connected "GCEV_CONNECTED".toList) line]
    rfl
  | callStatus =>
    rw [Exit.after_farEndDrops _ (.inl (handles type))]
    exact exit_farEndDrops _ line
  | disconnected =>
    rw [Exit.after_farEndDrops _ (.inr (handles type))]
    exact exit_farEndDrops _ line
  | dropCall =>
    dsimp only
    rw [dropped_eq, Exit.after_dropCall _ (handles type)]
    exact exit_run (.disconnected _) line.exited
  | releaseCall =>
    rw [Exit.after_releaseCall _ (handles type), ← exit_run .released line]
    rfl
  | fatalError =>
    rw [other (by simp [type])]
    rfl
  | taskFail =>
    rw [other (by simp [type])]
    rfl
  | resetLineDev =>
    rw [other (by simp [type])]
    dsimp only
    rw [reset_fst]
    rfl
  | unknown =>
    rw [other (by simp [type])]
    rfl

theorem exit_input (label : LineInput) (line : TLine) : (input label line).1.exit = line.exit.after label := by
  cases label with
  | event event =>
    by_cases found : event.results.getCRN = true
    · rw [input_found found]
      exact exit_switch found line
    · rw [Exit.after_lost line.exit found, input_lost found]
  | voice event =>
    cases event with
    | play termReason => rfl
    | digit digit => exact exit_run (.digitReceived digit) line
    | other => rfl
  | command command =>
    cases command with
    | makeCall ani dnis placed =>
      cases placed with
      | none => rfl
      | some crn =>
        exact exit_run .outboundInitiated { line with crn := crn, ani := ani.take 63, dnis := dnis.take 63 }
    | rejectCall => exact exit_run .rejecting line
    | answerCall | acceptCall | hangupCall | releaseCall => rfl

theorem exit_runAll (inputs : List LineInput) (line : TLine) :
    (runAll input inputs line).1.exit = inputs.foldl Exit.after line.exit := runAll_view exit_input inputs line

end TLine

/-! ## What the inputs of a call tell about its end -/

def sinceRelease (inputs : List LineInput) : List LineInput :=
  inputs.rtakeWhile fun label => ¬ Handles .releaseCall label

/-- The far end drops an established call, or Global Call tells why. -/
def Assigns (before : List LineInput) (label : LineInput) : Prop :=
  FarEndDrops label ∧
    ((∃ earlier ∈ sinceRelease before, Establishes earlier) ∨ resultInfo label ≠ none)

def Assigned (inputs : List LineInput) : Prop := ∃ before label, before ++ [label] <+: inputs ∧ Assigns before label

def KnownEnd (inputs : List LineInput) : Prop :=
  (∀ label ∈ sinceRelease inputs, ¬ FarEndDrops label) ∨ Assigned inputs

theorem sinceRelease_concat (inputs : List LineInput) (label : LineInput) : sinceRelease (inputs ++ [label]) =
    if Handles .releaseCall label then [] else sinceRelease inputs ++ [label] := by
  unfold sinceRelease
  rw [List.rtakeWhile_concat]
  by_cases released : Handles .releaseCall label
  · simp [released]
  · simp [released]

theorem assigned_concat (inputs : List LineInput) (label : LineInput) :
    Assigned (inputs ++ [label]) ↔ Assigned inputs ∨ Assigns inputs label := by
  constructor
  · rintro ⟨before, last, begins, assigns⟩
    rcases List.prefix_concat_iff.mp begins with same | earlier
    · obtain ⟨rfl, single⟩ := List.append_inj' same rfl
      cases single
      exact .inr assigns
    · exact .inl ⟨before, last, earlier, assigns⟩
  · rintro (⟨before, last, begins, assigns⟩ | assigns)
    · exact ⟨before, last, begins.trans (List.prefix_append inputs [label]), assigns⟩
    · exact ⟨inputs, label, List.prefix_rfl, assigns⟩

namespace Exit

def released (reason : CallExitReason) : Exit := ⟨false, true, reason⟩

variable {label : LineInput}

theorem established_after (exit : Exit) (label : LineInput) : (exit.after label).established = true ↔
    ¬ Handles .releaseCall label ∧ (exit.established = true ∨ Establishes label) := by
  by_cases establishes : Establishes label
  · have goesOn : ¬ Handles .releaseCall label := fun released => not_establishes released (by decide) establishes
    rw [exit.after_establishes establishes]
    simp [goesOn, establishes]
  · by_cases released : Handles .releaseCall label
    · rw [exit.after_releaseCall released]
      simp [released]
    · unfold after
      rw [if_neg establishes, if_neg released]
      split
      · simp [released, establishes]
      · split <;> simp [released, establishes]

theorem near_after (exit : Exit) (label : LineInput) : (exit.after label).near = true ↔
    Handles .releaseCall label ∨ exit.near = true ∧ ¬ FarEndDrops label := by
  by_cases drops : FarEndDrops label
  · have goesOn : ¬ Handles .releaseCall label := fun released => not_farEndDrops released (by decide) drops
    rw [exit.after_farEndDrops drops]
    simp [goesOn, drops]
  · by_cases released : Handles .releaseCall label
    · rw [exit.after_releaseCall released]
      simp [released]
    · unfold after
      rw [if_neg drops, if_neg released]
      split
      · simp [released, drops]
      · split <;> simp [released, drops]

/-- While the call is not dropped, only the far end's drop assigns the reason. -/
theorem reason_after (exit : Exit) (undropped : ¬ Handles .dropCall label) (none : ¬ FarEndDrops label) :
    (exit.after label).reason = exit.reason := by
  unfold after
  rw [if_neg none, if_neg undropped]
  split
  · rfl
  · split <;> rfl

/-! The inductions are on the inputs, from the last one on. -/

theorem established_foldl (reason : CallExitReason) (inputs : List LineInput) :
    (inputs.foldl after (released reason)).established = true ↔
      ∃ label ∈ sinceRelease inputs, Establishes label := by
  induction inputs using List.reverseRecOn with
  | nil => simp [released, sinceRelease]
  | append_singleton inputs label ih =>
    rw [List.foldl_concat, established_after, ih, sinceRelease_concat]
    by_cases ends : Handles .releaseCall label
    · simp [ends]
    · simp [ends, or_and_right, exists_or]

theorem near_foldl (reason : CallExitReason) (inputs : List LineInput) :
    (inputs.foldl after (released reason)).near = true ↔ ∀ label ∈ sinceRelease inputs, ¬ FarEndDrops label := by
  induction inputs using List.reverseRecOn with
  | nil => simp [released, sinceRelease]
  | append_singleton inputs label ih =>
    rw [List.foldl_concat, near_after, ih, sinceRelease_concat]
    by_cases ends : Handles .releaseCall label
    · simp [ends]
    · simp [ends, or_imp, forall_and]

theorem established_same (reason other : CallExitReason) (inputs : List LineInput) :
    (inputs.foldl after (released reason)).established = (inputs.foldl after (released other)).established :=
  Bool.eq_iff_iff.mpr ((established_foldl reason inputs).trans (established_foldl other inputs).symm)

theorem near_same (reason other : CallExitReason) (inputs : List LineInput) :
    (inputs.foldl after (released reason)).near = (inputs.foldl after (released other)).near :=
  Bool.eq_iff_iff.mpr ((near_foldl reason inputs).trans (near_foldl other inputs).symm)

/-- A reason that was assigned is the same after any call. -/
theorem reason_assigned {inputs : List LineInput} (undropped : ∀ label ∈ inputs, ¬ Handles .dropCall label)
    (assigned : Assigned inputs) (reason other : CallExitReason) :
    (inputs.foldl after (released reason)).reason = (inputs.foldl after (released other)).reason := by
  induction inputs using List.reverseRecOn with
  | nil =>
    obtain ⟨before, label, begins, -⟩ := assigned
    simp at begins
  | append_singleton inputs label ih =>
    have earlier : ∀ label ∈ inputs, ¬ Handles .dropCall label :=
      fun label member => undropped label (List.mem_append_left _ member)
    have last : ¬ Handles .dropCall label := undropped label (by simp)
    rw [List.foldl_concat, List.foldl_concat]
    rcases (assigned_concat inputs label).mp assigned with before | ⟨drops, known⟩
    · -- Assigned before: a later drop by the far end assigns the same or keeps it.
      have same := ih earlier before
      by_cases drops : FarEndDrops label
      · rw [after_farEndDrops _ drops, after_farEndDrops _ drops, established_same reason other, same]
      · rw [reason_after _ last drops, reason_after _ last drops, same]
    · -- Assigned here, by what the inputs tell and not by what was there.
      rw [after_farEndDrops _ drops, after_farEndDrops _ drops, established_same reason other]
      dsimp only
      rcases known with established | result
      · rw [if_pos ((established_foldl other inputs).mpr established),
          if_pos ((established_foldl other inputs).mpr established)]
      · obtain ⟨value, is⟩ := Option.ne_none_iff_exists'.mp result
        rw [is]
        rfl

/-- A reason that was not assigned is the one that the last call left. -/
theorem reason_left {inputs : List LineInput} (undropped : ∀ label ∈ inputs, ¬ Handles .dropCall label)
    (unassigned : ¬ Assigned inputs) (reason : CallExitReason) :
    (inputs.foldl after (released reason)).reason = reason := by
  induction inputs using List.reverseRecOn with
  | nil => rfl
  | append_singleton inputs label ih =>
    have earlier : ∀ label ∈ inputs, ¬ Handles .dropCall label :=
      fun label member => undropped label (List.mem_append_left _ member)
    have last : ¬ Handles .dropCall label := undropped label (by simp)
    rw [assigned_concat, not_or] at unassigned
    have left := ih earlier unassigned.1
    rw [List.foldl_concat]
    by_cases drops : FarEndDrops label
    · obtain ⟨unanswered, unknown⟩ := not_or.mp fun known => unassigned.2 ⟨drops, known⟩
      -- The far end drops a call that was not answered, and its result is not known.
      rw [after_farEndDrops _ drops, not_not.mp unknown]
      dsimp only
      rw [if_neg fun established => unanswered ((established_foldl reason inputs).mp established)]
      exact left
    · rw [reason_after _ last drops]
      exact left

end Exit

/-! ## Two histories and one call -/

def EndsReleased (history : List LineInput) : Prop :=
  ∃ earlier label, history = earlier ++ [label] ∧ Handles .releaseCall label

/-- The reason after the history, the inputs of one more call and the drop of it. -/
def exitReason (start : TLine) (history inputs : List LineInput) (drop : LineInput) : CallExitReason :=
  (runAll input (history ++ inputs ++ [drop]) start).1.callExitReason

theorem exit_endsReleased {history : List LineInput} (ends : EndsReleased history) (start : TLine) :
    ∃ reason, history.foldl Exit.after start.exit = Exit.released reason := by
  obtain ⟨earlier, label, rfl, released⟩ := ends
  rw [List.foldl_concat, Exit.after_releaseCall _ released]
  exact ⟨_, rfl⟩

theorem exitReason_eq {start : TLine} {history inputs : List LineInput} {drop : LineInput} {reason : CallExitReason}
    (left : history.foldl Exit.after start.exit = Exit.released reason) (drops : Handles .dropCall drop) :
    exitReason start history inputs drop =
      if (inputs.foldl Exit.after (Exit.released reason)).near then .nearEnd
      else (inputs.foldl Exit.after (Exit.released reason)).reason := by
  have kept := exit_runAll (history ++ inputs ++ [drop]) start
  rw [List.foldl_concat, List.foldl_append, left, Exit.after_dropCall _ drops] at kept
  exact congrArg Exit.reason kept

/-- The call's reason is the same after any two histories that end with a release if and only
if the near end drops it, or the far end does and the call is established or its result known. -/
theorem exitReason_own {start : TLine} (opened : start.Opened) {inputs : List LineInput} {drop : LineInput}
    (undropped : ∀ label ∈ inputs, ¬ Handles .dropCall label) (drops : Handles .dropCall drop) :
    (∀ one two, EndsReleased one → EndsReleased two →
      exitReason start one inputs drop = exitReason start two inputs drop) ↔ KnownEnd inputs := by
  constructor
  · intro same
    by_contra unknown
    obtain ⟨far, unassigned⟩ := not_or.mp unknown
    have reason (left : CallExitReason) (history : List LineInput)
        (ends : history.foldl Exit.after start.exit = Exit.released left) :
        exitReason start history inputs drop = left := by
      rw [exitReason_eq ends drops, if_neg fun near => far ((Exit.near_foldl left inputs).mp near)]
      exact Exit.reason_left undropped unassigned left
    obtain ⟨index, ani, dnis, crn, rfl⟩ := opened_eq opened
    -- The far end is the reason that a line starts with, the near end what any drop assigns.
    have farEnd := reason .farEnd [.event (.plain .releaseCall 0)] rfl
    have nearEnd := reason .nearEnd [.event (.plain .dropCall 0), .event (.plain .releaseCall 0)] rfl
    have both := same [.event (.plain .releaseCall 0)]
      [.event (.plain .dropCall 0), .event (.plain .releaseCall 0)]
      ⟨[], _, rfl, rfl, rfl⟩ ⟨[.event (.plain .dropCall 0)], _, rfl, rfl, rfl⟩
    rw [farEnd, nearEnd] at both
    cases both
  · intro known one two oneEnds twoEnds
    obtain ⟨oneLeft, first⟩ := exit_endsReleased oneEnds start
    obtain ⟨twoLeft, second⟩ := exit_endsReleased twoEnds start
    rw [exitReason_eq first drops, exitReason_eq second drops, Exit.near_same oneLeft twoLeft]
    rcases known with near | assigned
    · rw [if_pos ((Exit.near_foldl twoLeft inputs).mpr near), if_pos ((Exit.near_foldl twoLeft inputs).mpr near)]
    · rw [Exit.reason_assigned undropped assigned oneLeft twoLeft]

def unanswered (result : Option GcValue) : List LineInput :=
  [.command (.makeCall [] [] (some 8)), .event ⟨.disconnected, 8, ⟨true, true, none, none, result⟩⟩]

def farEndHistory : List LineInput :=
  [.event (.plain .blocked 0), .event (.plain .unblocked 0), .command (.makeCall [] [] (some 7)),
    .event (.plain .connected 7), .event (.plain .disconnected 7), .event (.plain .dropCall 7),
    .event (.plain .releaseCall 7)]

def nearEndHistory : List LineInput :=
  [.event (.plain .blocked 0), .event (.plain .unblocked 0), .command (.makeCall [] [] (some 7)),
    .event (.plain .connected 7), .event (.plain .dropCall 7), .event (.plain .releaseCall 7)]

theorem farEnd_released : EndsReleased farEndHistory := ⟨farEndHistory.dropLast, _, rfl, rfl, rfl⟩

theorem nearEnd_released : EndsReleased nearEndHistory := ⟨nearEndHistory.dropLast, _, rfl, rfl, rfl⟩

theorem exitReason_own_busy :
    exitReason started farEndHistory (unanswered (some .busy)) (.event (.plain .dropCall 8)) =
      exitReason started nearEndHistory (unanswered (some .busy)) (.event (.plain .dropCall 8)) := by
  have known : KnownEnd (unanswered (some .busy)) :=
    .inr ⟨[.command (.makeCall [] [] (some 8))], _, List.prefix_rfl, .inr ⟨rfl, rfl⟩, .inr (by decide)⟩
  exact (@exitReason_own started started_opened (unanswered (some .busy)) (.event (.plain .dropCall 8))
    (by decide) (by decide)).mpr known _ _ farEnd_released nearEnd_released

theorem exitReason_inherited : EndsReleased farEndHistory ∧ EndsReleased nearEndHistory ∧
    exitReason started farEndHistory (unanswered none) (.event (.plain .dropCall 8)) = .farEnd ∧
    exitReason started nearEndHistory (unanswered none) (.event (.plain .dropCall 8)) = .nearEnd := by
  -- Without a result the second call exits for the reason of the first one.
  refine ⟨farEnd_released, nearEnd_released, ?_, ?_⟩
  · decide +kernel
  · decide +kernel

end Foolject.Telecom
