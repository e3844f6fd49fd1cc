import Foolject.Telecom.Handlers

/-! The direction of a call agrees with its state.

Only two handlers write the direction, each together with the state that begins a call. All the
others lead from a state to one of the same direction, or to one that has none.
-/

set_option autoImplicit false

namespace Foolject.Telecom
open Transducer

def TCallState.inbound : TCallState → Bool
  | .seizure | .receivingDigits | .incoming | .accepting | .answering | .rejecting => true
  | _ => false

def TCallState.outbound : TCallState → Bool
  | .outboundInitiated | .placing | .proceeding | .alerting => true
  | _ => false

/-- A call that goes on to the second state has the direction that this state asks for. -/
def TCallState.LeadsTo (before after : TCallState) : Prop :=
  (after.inbound = true → before.inbound = true) ∧ (after.outbound = true → before.outbound = true)

instance (before after : TCallState) : Decidable (before.LeadsTo after) :=
  inferInstanceAs (Decidable (_ ∧ _))

namespace TLine

def phase (line : TLine) : TLineState × TCallState × Nat := (line.state, line.callState, line.callDir)

def DirAgrees (line : TLine) : Prop :=
  (line.callState.inbound = true → line.callDir = 0) ∧ (line.callState.outbound = true → line.callDir = 1)

/-! ## What an input runs, piece by piece -/

structure Besides where
  handler : Handler
  keeps : ∀ line, (handler line).1.phase = line.phase

/-- One of the handlers, which may take a text from the line, or something besides them. -/
inductive Piece where
  | runs (on : TLine → On)
  | does (besides : Besides)

def Piece.run : Piece → Handler
  | .runs on => fun line => (on line).run line
  | .does besides => besides.handler

def Piece.handler (on : On) : Piece := .runs fun _ => on

def Piece.request (effects : TLine → List Effect) : Piece := .does ⟨emit effects, fun _ => rfl⟩

def Piece.note (change : TLine → TLine) (keeps : ∀ line, (change line).phase = line.phase) : Piece :=
  .does ⟨modify change, keeps⟩

def Piece.established : Piece := .note (fun line => { line with callEstablished := true }) fun _ => rfl

theorem farEndDrops_phase (resultInfo : Option GcValue) (line : TLine) :
    (farEndDrops resultInfo line).1.phase = line.phase := by
  cases line with
  | mk index state callState callDir ani dnis crn established near reason =>
    cases established with
    | true => rfl
    | false =>
      cases resultInfo with
      | _ => rfl

def waitPieces (results : GcResults) : List Piece :=
  .request (fun _ => [.waitCall]) :: if results.waitCall then [.handler .unblock] else []

def eventPieces (event : MetaEvent) : List Piece :=
  match event.type with
  | .blocked => [.handler .block]
  | .unblocked => waitPieces event.results
  | .detected => [.handler .seizureDetected]
  | .offered =>
    [.note (fun line => { line with crn := event.crn }) fun _ => rfl,
      .handler (.incoming (event.results.origination.getD .null).text
        (event.results.destination.getD .null).text)]
  | .accept => [.handler .accepting]
  | .answered => [.established, .handler .answering, .handler (.connected "GCEV_ANSWERED".toList)]
  | .dialing => [.handler .placing]
  | .proceeding => [.handler .proceeding]
  | .alerting => [.handler .alerting]
  | .connected => [.handler (.connected "GCEV_CONNECTED".toList), .established]
  | .callStatus | .disconnected =>
    [.does ⟨farEndDrops event.results.resultInfo, farEndDrops_phase event.results.resultInfo⟩]
  | .dropCall => [.note exited fun _ => rfl, .runs fun line => .disconnected line.callExitReason.name]
  | .releaseCall =>
    [.handler .released,
      .note (fun line => { line with callEstablished := false, callNearDroped := true }) fun _ => rfl]
  | .fatalError | .taskFail => [.request fun _ => [.resetLineDev]]
  | .resetLineDev => .handler .closed :: .handler .opened :: waitPieces event.results
  | .unknown => []

def commandPieces : Command → List Piece
  | .makeCall ani dnis placed =>
    .request (fun _ => [.makeCall ani dnis]) ::
      match placed with
      | none => []
      | some crn =>
        [.note (fun line => { line with crn := crn, ani := ani.take 63, dnis := dnis.take 63 }) fun _ => rfl,
          .handler .outboundInitiated]
  | .answerCall _ => [.request fun line => [.answerCall line.crn]]
  | .acceptCall _ => [.request fun line => [.acceptCall line.crn]]
  | .rejectCall _ => [.handler .rejecting, .request fun line => [.dropCall line.crn .callRejected]]
  | .hangupCall _ => [.request fun line => [.dropCall line.crn .normalClearing]]
  | .releaseCall _ => [.request fun line => [.releaseCallEx line.crn]]

def pieces : LineInput → List Piece
  | .event event => if event.results.getCRN then eventPieces event else []
  | .voice (.play termReason) => [.handler (.playFileDone termReason)]
  | .voice (.digit digit) => [.handler (.digitReceived digit)]
  | .voice .other => []
  | .command command => commandPieces command

theorem andThen_skip (handler : Handler) : andThen handler skip = handler := by
  funext line
  change ((handler line).1, (handler line).2 ++ []) = handler line
  rw [List.append_nil]

theorem runAll_single (piece : Piece) : runAll Piece.run [piece] = piece.run := andThen_skip piece.run

theorem runAll_pair (first second : Piece) :
    runAll Piece.run [first, second] = andThen first.run second.run := by
  change andThen first.run (runAll Piece.run [second]) = _
  rw [runAll_single]

theorem waitsForCall_pieces (results : GcResults) :
    runAll Piece.run (waitPieces results) = waitsForCall results := by
  unfold waitsForCall waitPieces
  cases results.waitCall with
  | false => rfl
  | true => exact runAll_pair _ _

theorem dropped_pieces : runAll Piece.run
    [.note exited fun _ => rfl, .runs fun line => .disconnected line.callExitReason.name] = dropped := by
  rw [runAll_pair]
  funext line
  rw [dropped_eq]
  rfl

theorem switch_pieces (event : MetaEvent) : runAll Piece.run (eventPieces event) = switch event := by
  unfold switch eventPieces
  cases event.type with
  | unblocked => exact waitsForCall_pieces event.results
  | offered | connected | releaseCall => exact runAll_pair _ _
  | answered => exact congrArg (andThen _) (runAll_pair _ _)
  | dropCall => exact dropped_pieces
  | resetLineDev =>
    exact congrArg (fun last => andThen onClosed (andThen onOpened last)) (waitsForCall_pieces event.results)
  | unknown => rfl
  | _ => exact runAll_single _

theorem run_pieces (command : Command) : runAll Piece.run (commandPieces command) = run command := by
  cases command with
  | makeCall ani dnis placed =>
    cases placed with
    | none => rfl
    | some crn => exact congrArg (andThen _) (runAll_pair _ _)
  | rejectCall => exact runAll_pair _ _
  | answerCall | acceptCall | hangupCall | releaseCall => exact runAll_single _

/-- An input runs its pieces, one after the other. -/
theorem input_pieces (label : LineInput) : runAll Piece.run (pieces label) = input label := by
  cases label with
  | event event =>
    funext line
    by_cases found : event.results.getCRN = true
    · rw [input_found found, ← switch_pieces, pieces, if_pos found]
    · rw [input_lost found, pieces, if_neg found]
      rfl
  | voice event =>
    cases event with
    | other => rfl
    | _ => exact runAll_single _
  | command command => exact run_pieces command

/-! ## What one piece does to the direction -/

theorem setCallState_callDir (state : TCallState) (line : TLine) :
    (setCallState state line).1.callDir = line.callDir := by
  cases state with
  | _ => rfl

/-- From a line to the next one the agreement is kept, and the call is connected from the states
that `OnConnected` takes. -/
structure Progresses (before after : TLine) : Prop where
  agrees : before.DirAgrees → after.DirAgrees
  connects : after.callState = .connected → before.callState = .connected ∨ CanConnect before

variable {line after : TLine}

theorem Progresses.of_phase (same : after.phase = line.phase) : Progresses line after := by
  have callState : after.callState = line.callState := congrArg (·.2.1) same
  have callDir : after.callDir = line.callDir := congrArg (·.2.2) same
  constructor
  · intro agrees
    rw [DirAgrees, callState, callDir]
    exact agrees
  · intro connected
    exact .inl (callState.symm.trans connected)

theorem progresses_setState (state : TLineState) (line : TLine) : Progresses line (setState state line).1 where
  agrees agrees := agrees
  connects connected := .inl connected

/-- A call goes on in its direction. -/
theorem progresses_setCallState (state : TCallState) (leads : line.callState.LeadsTo state)
    (connects : state = .connected → CanConnect line) : Progresses line (setCallState state line).1 := by
  constructor
  · intro agrees
    unfold DirAgrees
    rw [setCallState_callState, setCallState_callDir]
    exact ⟨fun inbound => agrees.1 (leads.1 inbound), fun outbound => agrees.2 (leads.2 outbound)⟩
  · intro connected
    rw [setCallState_callState] at connected
    exact .inr (connects connected)

theorem progresses_onlyIf {test : TLine → Prop} [DecidablePred test] {piece : Handler}
    (inner : test line → Progresses line (piece line).1) : Progresses line (onlyIf test piece line).1 := by
  by_cases passes : test line
  · rw [onlyIf_pos passes]
    exact inner passes
  · rw [onlyIf_neg passes]
    exact .of_phase rfl

/-- A change of the state behind a test. -/
theorem progresses_moves {test : TLine → Prop} [DecidablePred test] (state : TLineState) (line : TLine) :
    Progresses line (onlyIf test (setState state) line).1 :=
  progresses_onlyIf fun _ => progresses_setState state line

theorem progresses_call {test : TLine → Prop} [DecidablePred test] {state : TCallState} (other : state ≠ .connected)
    (leads : test line → line.callState.LeadsTo state) :
    Progresses line (onlyIf test (setCallState state) line).1 :=
  progresses_onlyIf fun passes => progresses_setCallState state (leads passes) fun connected => absurd connected other

theorem progresses_begins (state : TCallState) (dir : Nat) (other : state ≠ .connected)
    (inbound : state.inbound = true → dir = 0) (outbound : state.outbound = true → dir = 1) (line : TLine) :
    Progresses line (setCallDir dir (setCallState state line).1).1 := by
  have callState : (setCallDir dir (setCallState state line).1).1.callState = state :=
    setCallState_callState state line
  constructor
  · intro _
    rw [DirAgrees, callState]
    exact ⟨inbound, outbound⟩
  · intro connected
    rw [callState] at connected
    exact absurd connected other

theorem on_progresses (on : On) (line : TLine) : Progresses line (on.run line).1 := by
  cases on with
  | closed | uninitialized | block | outOfService => exact progresses_setState _ line
  | opened | initialized | unblock | inService => exact progresses_moves _ line
  | playFileDone | dtmf => exact .of_phase rfl
  | seizureDetected =>
    apply progresses_onlyIf
    intro _
    exact progresses_begins .seizure 0 (by decide) (fun _ => rfl) nofun line
  | outboundInitiated =>
    apply progresses_onlyIf
    intro _
    exact progresses_begins .outboundInitiated 1 (by decide) nofun (fun _ => rfl) line
  | digitReceived =>
    apply progresses_call (by decide)
    intro seized
    rw [seized]
    decide
  | incoming ani dnis =>
    apply progresses_onlyIf
    intro starts
    -- The numbers of the call are written behind its state.
    have incoming : Progresses line (setCallState .incoming line).1 := by
      apply progresses_setCallState .incoming _ nofun
      rcases starts with seized | digits
      · rw [seized]
        decide
      · rw [digits]
        decide
    exact ⟨incoming.agrees, incoming.connects⟩
  | accepting =>
    apply progresses_onlyIf
    intro incoming
    apply progresses_setCallState .accepting _ nofun
    rw [incoming]
    decide
  | rejecting | answering =>
    apply progresses_call (by decide)
    intro waits
    rcases waits with incoming | accepting
    · rw [incoming]
      decide
    · rw [accepting]
      decide
  | placing =>
    apply progresses_call (by decide)
    intro initiated
    rw [initiated]
    decide
  | proceeding =>
    apply progresses_call (by decide)
    intro places
    rcases places with initiated | placing
    · rw [initiated]
      decide
    · rw [placing]
      decide
  | alerting =>
    apply progresses_call (by decide)
    intro places
    rcases places with initiated | placing | proceeding
    · rw [initiated]
      decide
    · rw [placing]
      decide
    · rw [proceeding]
      decide
  | connected =>
    apply progresses_onlyIf
    intro connects
    exact progresses_setCallState .connected ⟨nofun, nofun⟩ fun _ => connects
  | disconnected =>
    apply progresses_onlyIf
    intro _
    exact progresses_setCallState .disconnected ⟨nofun, nofun⟩ nofun
  | released =>
    exact progresses_setCallState .invalid ⟨nofun, nofun⟩ nofun

theorem piece_progresses (piece : Piece) (line : TLine) : Progresses line (piece.run line).1 := by
  cases piece with
  | runs on => exact on_progresses (on line) line
  | does besides => exact .of_phase (besides.keeps line)

/-! ## Runs -/

def midway (line : TLine) (label : LineInput) (count : Nat) : TLine :=
  (runAll Piece.run ((pieces label).take count) line).1

theorem runAll_snoc (list : List Piece) (last : Piece) (line : TLine) :
    (runAll Piece.run (list ++ [last]) line).1 = (last.run (runAll Piece.run list line).1).1 := by
  induction list generalizing line with
  | nil => rfl
  | cons piece rest ih => exact ih (piece.run line).1

theorem midway_progresses (line : TLine) (label : LineInput) (count : Nat) :
    Progresses (line.midway label count) (line.midway label (count + 1)) := by
  unfold midway
  rw [List.take_add_one]
  cases (pieces label)[count]? with
  | none =>
    rw [Option.toList_none, List.append_nil]
    exact .of_phase rfl
  | some piece =>
    rw [Option.toList_some, runAll_snoc]
    exact piece_progresses piece _

theorem dirAgrees_midway (agrees : line.DirAgrees) (label : LineInput) (count : Nat) :
    (line.midway label count).DirAgrees := by
  induction count with
  | zero => exact agrees
  | succ count ih => exact (midway_progresses line label count).agrees ih

theorem midway_all (line : TLine) (label : LineInput) :
    line.midway label (pieces label).length = (input label line).1 := by
  rw [midway, List.take_length, input_pieces]

theorem dirAgrees_runAll (agrees : line.DirAgrees) (labels : List LineInput) :
    (runAll input labels line).1.DirAgrees := by
  induction labels generalizing line with
  | nil => exact agrees
  | cons label rest ih =>
    apply ih
    rw [← midway_all]
    exact dirAgrees_midway agrees label _

theorem dirAgrees_openLine (opens : Bool) (index : Nat) (ani dnis : List Char) (crn : Int) :
    (openLine opens (fresh index ani dnis crn)).1.DirAgrees := by
  cases opens with
  | _ => exact ⟨nofun, nofun⟩

/-- After any inputs to a line, opened or not, and between the pieces of the next one. -/
theorem direction_agrees (opens : Bool) (index : Nat) (ani dnis : List Char) (crn : Int)
    (labels : List LineInput) :
    let line := (runAll input labels (openLine opens (fresh index ani dnis crn)).1).1
    line.DirAgrees ∧ ∀ label, line.midway label (pieces label).length = (input label line).1 ∧
      ∀ count, (line.midway label count).DirAgrees ∧
        ((line.midway label (count + 1)).callState = .connected →
          (line.midway label count).callState = .connected ∨ CanConnect (line.midway label count)) := by
  intro line
  have agrees : line.DirAgrees := dirAgrees_runAll (dirAgrees_openLine opens index ani dnis crn) labels
  refine ⟨agrees, fun label => ⟨midway_all line label, fun count => ?_⟩⟩
  exact ⟨dirAgrees_midway agrees label count, (midway_progresses line label count).connects⟩

end TLine

end Foolject.Telecom
