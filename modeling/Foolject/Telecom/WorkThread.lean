import Foolject.Lib.Family
import Foolject.Telecom.Counters
import Foolject.Telecom.Devices
import Foolject.Telecom.Reports

/-! The events that the work thread takes from the SRL, and the line that each of them is handed to.

Global Call events find their line by the attribute of the line device, voice events by a search for the voice device.
A line is to go through what happens on its own devices, and through the commands for it, as if it were alone.
-/

set_option autoImplicit false

namespace Foolject.Telecom
open Transducer

structure NamedLine extends LineNames where
  gcDev : Int
  voiceDev : Int

structure EventData where
  evtDev : Int
  evtType : Int
  evtDatap : Int
  evtLen : Int
  deriving DecidableEq

structure MetaBlock where
  /-- `GCME_GC_EVENT` is among the flags. -/
  gcEvent : Bool
  data : EventData
  linedev : Int
  deriving DecidableEq

structure SrlEvent where
  data : EventData
  /-- What `gc_GetMetaEventEx` gives. -/
  block : Option MetaBlock
  /-- All bits of `DT_DTI` are in the code. -/
  dti : Bool
  /-- The event as `processGlobeCallEvent` reads it from the block. -/
  globeCall : MetaEvent
  /-- The event as `processD4Event` reads it from the code and the data. -/
  d4 : D4Event
  deriving DecidableEq

inductive ProcessInput where
  | srl (event : SrlEvent)
  | api (line : UInt32) (command : Command)
  deriving DecidableEq

namespace WorkThread

/-- A turn of the loop, up to the line that is found for the event. -/
def dispatch (lines : List NamedLine) (usrAttr : Int → Option Nat) (event : SrlEvent) : Option (Nat × LineInput) :=
  match event.block with
  | none => none
  | some block =>
    if block.gcEvent then
      if block.data ≠ event.data then none
      else (usrAttr block.linedev).map fun line => (line, .event event.globeCall)
    else if event.dti then none
    else (lines.findIdx? (·.voiceDev = event.data.evtDev)).map fun line => (line, .voice event.d4)

/-- The functions of the library return for a number that is not that of a line. -/
def route (lines : List NamedLine) (usrAttr : Int → Option Nat) : ProcessInput → Option (Nat × LineInput)
  | .srl event => dispatch lines usrAttr event
  | .api line command => if line.toNat < lines.length then some (line.toNat, .command command) else none

def handle (i : Nat) (input : LineInput) : Transducer TTelecom Effect := fun tel =>
  (tel.onLine i (TLine.input input), ((tel.lines[i]?).map fun line => (TLine.input input line).2).getD [])

def process (lines : List NamedLine) (usrAttr : Int → Option Nat) (input : ProcessInput) :
    Transducer TTelecom Effect :=
  match route lines usrAttr input with
  | none => skip
  | some (i, taken) => handle i taken

/-! ## What belongs to a line -/

def ownEvent (line : NamedLine) (event : SrlEvent) : Option LineInput :=
  event.block.bind fun block =>
    if block.gcEvent then
      if block.data = event.data ∧ block.linedev = line.gcDev then some (.event event.globeCall) else none
    else if event.dti = false ∧ line.voiceDev = event.data.evtDev then some (.voice event.d4) else none

def own (k : Nat) (line : NamedLine) : ProcessInput → Option LineInput
  | .srl event => ownEvent line event
  | .api index command => if index.toNat = k then some (.command command) else none

def reportOf (k : Nat) : Effect → Option (List Char)
  | .eventHandler index text => if index = k then some text else none
  | _ => none

/-- What `gc_OpenEx`, `gc_GetVoiceH` and `gc_GetUsrAttr` do: a handle is that of one device, and a line device keeps
the line that it is opened for. -/
structure Handles (lines : List NamedLine) (usrAttr : Int → Option Nat) : Prop where
  gcDev : ∀ one ∈ lines, ∀ two ∈ lines, one.gcDev = two.gcDev → one.gcDevName = two.gcDevName
  voiceDev : ∀ one ∈ lines, ∀ two ∈ lines, one.voiceDev = two.voiceDev → one.voiceName = two.voiceName
  given : ∀ line ∈ lines, (usrAttr line.gcDev).isSome
  opened : ∀ (dev : Int) (k : Nat), usrAttr dev = some k → ∃ line, lines[k]? = some line ∧ line.gcDev = dev

def Apart (lines : List NamedLine) : Prop :=
  (lines.map fun line => line.gcDevName).Nodup ∧ (lines.map fun line => line.voiceName).Nodup

/-! ## Each event finds its line -/

section Route
variable {lines : List NamedLine} {usrAttr : Int → Option Nat}

theorem eq_of_key {Key : Type} {key : NamedLine → Key} (apart : (lines.map key).Nodup) {j k : Nat}
    {one two : NamedLine} (first : lines[j]? = some one) (second : lines[k]? = some two) (same : key one = key two) :
    j = k := by
  obtain ⟨inside, rfl⟩ := List.getElem?_eq_some_iff.mp first
  obtain ⟨inside', rfl⟩ := List.getElem?_eq_some_iff.mp second
  have bound : j < (lines.map key).length := by rwa [List.length_map]
  have bound' : k < (lines.map key).length := by rwa [List.length_map]
  have equal : (lines.map key)[j] = (lines.map key)[k] := by
    rw [List.getElem_map, List.getElem_map]
    exact same
  exact (apart.getElem_inj_iff).mp equal

theorem usrAttr_iff (handles : Handles lines usrAttr) (apart : Apart lines) {k : Nat} {line : NamedLine}
    (here : lines[k]? = some line) (dev : Int) : usrAttr dev = some k ↔ dev = line.gcDev := by
  have member := List.mem_of_getElem? here
  constructor
  · intro gives
    obtain ⟨other, there, device⟩ := handles.opened dev k gives
    obtain rfl := Option.some.inj (there.symm.trans here)
    exact device.symm
  · rintro rfl
    obtain ⟨j, gives⟩ := Option.isSome_iff_exists.mp (handles.given line member)
    obtain ⟨other, there, device⟩ := handles.opened line.gcDev j gives
    have name := handles.gcDev other (List.mem_of_getElem? there) line member device
    rw [gives, eq_of_key apart.1 there here name]

theorem findIdx?_iff (handles : Handles lines usrAttr) (apart : Apart lines) {k : Nat} {line : NamedLine}
    (here : lines[k]? = some line) (dev : Int) :
    lines.findIdx? (·.voiceDev = dev) = some k ↔ line.voiceDev = dev := by
  -- The search comes to the line before any other with the device, for there is no other.
  constructor
  · intro found
    obtain ⟨inside, matches_, -⟩ := List.findIdx?_eq_some_iff_getElem.mp found
    obtain ⟨-, rfl⟩ := List.getElem?_eq_some_iff.mp here
    exact of_decide_eq_true matches_
  · intro device
    cases found : lines.findIdx? (·.voiceDev = dev) with
    | none =>
      have never := List.findIdx?_eq_none_iff.mp found line (List.mem_of_getElem? here)
      exact absurd device (of_decide_eq_false never)
    | some j =>
      obtain ⟨inside, matches_, -⟩ := List.findIdx?_eq_some_iff_getElem.mp found
      have there : lines[j]? = some lines[j] := List.getElem?_eq_getElem inside
      have name := handles.voiceDev _ (List.getElem_mem inside) line (List.mem_of_getElem? here)
        ((of_decide_eq_true matches_).trans device.symm)
      rw [eq_of_key apart.2 there here name]

theorem map_pair_eq_some {k : Nat} {input taken : LineInput} {found : Option Nat} :
    found.map (fun line => (line, input)) = some (k, taken) ↔ found = some k ∧ taken = input := by
  cases found with
  | none => exact iff_of_false (by rintro ⟨⟩) (by rintro ⟨⟨⟩, -⟩)
  | some j =>
    rw [Option.map_some, Option.some_inj, Option.some_inj, Prod.mk.injEq]
    exact and_congr_right fun _ => eq_comm

/-- A line is handed an event exactly where the event is its own. -/
theorem dispatch_iff (handles : Handles lines usrAttr) (apart : Apart lines) {k : Nat} {line : NamedLine}
    (here : lines[k]? = some line) {event : SrlEvent} {taken : LineInput} :
    dispatch lines usrAttr event = some (k, taken) ↔ ownEvent line event = some taken := by
  unfold dispatch ownEvent
  cases event.block with
  | none => exact iff_of_false (by rintro ⟨⟩) (by rintro ⟨⟩)
  | some block =>
    dsimp only [Option.bind_some]
    by_cases gc : block.gcEvent = true
    · rw [if_pos gc, if_pos gc]
      by_cases matching : block.data = event.data
      · rw [if_neg (not_not.mpr matching), map_pair_eq_some, usrAttr_iff handles apart here]
        grind
      · rw [if_pos matching, if_neg fun both => matching both.1]
        exact iff_of_false (by rintro ⟨⟩) (by rintro ⟨⟩)
    · rw [if_neg gc, if_neg gc]
      by_cases network : event.dti = true
      · rw [if_pos network, if_neg (by simp [network])]
        exact iff_of_false (by rintro ⟨⟩) (by rintro ⟨⟩)
      · rw [if_neg network, map_pair_eq_some, findIdx?_iff handles apart here]
        grind

theorem route_iff (handles : Handles lines usrAttr) (apart : Apart lines) {k : Nat} {line : NamedLine}
    (here : lines[k]? = some line) {input : ProcessInput} {taken : LineInput} :
    route lines usrAttr input = some (k, taken) ↔ own k line input = some taken := by
  cases input with
  | srl event => exact dispatch_iff handles apart here
  | api index command =>
    have inside := (List.getElem?_eq_some_iff.mp here).1
    unfold route own
    dsimp only
    split
    · grind
    · split
      · omega
      · exact iff_of_false (by rintro ⟨⟩) (by rintro ⟨⟩)

end Route

/-! ## A line speaks for itself only -/

def Speaks (before : TLine) (effects : List Effect) (after : TLine) : Prop :=
  after.index = before.index ∧ ∀ k, before.index ≠ k → effects.filterMap (reportOf k) = []

theorem speaks_composes : Composes Speaks where
  nothing _ := ⟨rfl, fun _ _ => rfl⟩
  compose := by
    intro s t u before after one two
    refine ⟨two.1.trans one.1, fun k other => ?_⟩
    rw [List.filterMap_append, one.2 k other, two.2 k (one.1 ▸ other), List.append_nil]

section Speaks
open TLine

theorem speaks_andThen {first second : Handler} (one : Respects Speaks first) (two : Respects Speaks second) :
    Respects Speaks (andThen first second) := one.andThen speaks_composes two

theorem speaks_onlyIf {piece : Handler} {test : TLine → Prop} [DecidablePred test] (inner : Respects Speaks piece) :
    Respects Speaks (onlyIf test piece) := inner.onlyIf speaks_composes

theorem speaks_setState (state : TLineState) : Respects Speaks (setState state) := fun _ => ⟨rfl, fun _ _ => rfl⟩

theorem speaks_setCallState (state : TCallState) : Respects Speaks (setCallState state) := by
  intro line
  cases state with
  | _ => exact ⟨rfl, fun _ _ => rfl⟩

theorem speaks_modify {change : TLine → TLine} (same : ∀ line, (change line).index = line.index) :
    Respects Speaks (modify change) := fun line => ⟨same line, fun _ _ => rfl⟩

theorem speaks_request {request : TLine → Effect} (silent : ∀ line k, reportOf k (request line) = none) :
    Respects Speaks (emit fun line => [request line]) := fun line =>
  ⟨rfl, fun k _ => List.filterMap_cons_none (silent line k)⟩

theorem speaks_reportEvent (msg : List Char) : Respects Speaks (reportEvent msg) := by
  intro line
  refine ⟨rfl, fun k other => ?_⟩
  unfold reportEvent emit
  dsimp only
  split
  · rfl
  · exact List.filterMap_cons_none (if_neg other)

theorem speaks_run (on : On) : Respects Speaks on.run := by
  have reported (msg : List Char) {change : Handler} (inner : Respects Speaks change) :
      Respects Speaks (andThen change (reportEvent msg)) := speaks_andThen inner (speaks_reportEvent msg)
  cases on with
  | closed | uninitialized | block => exact reported _ (speaks_setState _)
  | opened | initialized | unblock | inService => exact reported _ (speaks_onlyIf (speaks_setState _))
  | outOfService reason => exact reported _ (speaks_setState _)
  | playFileDone reason => exact speaks_reportEvent _
  | dtmf digit => exact speaks_reportEvent _
  | seizureDetected | outboundInitiated =>
    exact speaks_onlyIf (speaks_andThen (speaks_setCallState _) (reported _ (speaks_modify fun _ => rfl)))
  | digitReceived digit => exact reported _ (speaks_onlyIf (speaks_setCallState _))
  | rejecting | answering | placing | proceeding | alerting =>
    exact reported _ (speaks_onlyIf (speaks_setCallState _))
  | incoming ani dnis =>
    exact reported _ (speaks_onlyIf (speaks_andThen (speaks_setCallState _) (speaks_modify fun _ => rfl)))
  | accepting => exact speaks_onlyIf (reported _ (speaks_setCallState _))
  | connected reason => exact speaks_onlyIf (reported _ (speaks_setCallState _))
  | disconnected reason =>
    refine speaks_onlyIf (speaks_andThen (speaks_setCallState _) (speaks_andThen (speaks_reportEvent _) ?_))
    exact speaks_request fun _ _ => rfl
  | released => exact reported _ (speaks_setCallState _)

theorem speaks_getCallStatus (resultInfo : Option GcValue) : Respects Speaks (getCallStatus resultInfo) := by
  cases resultInfo with
  | none => exact .skip speaks_composes
  | some value => exact speaks_modify fun _ => rfl

theorem speaks_farEndDrops (resultInfo : Option GcValue) : Respects Speaks (farEndDrops resultInfo) := by
  apply speaks_andThen
  · intro line
    dsimp only
    split
    · exact ⟨rfl, fun _ _ => rfl⟩
    · exact speaks_getCallStatus resultInfo line
  · exact speaks_andThen (speaks_modify fun _ => rfl) (speaks_request fun _ _ => rfl)

theorem speaks_waitsForCall (results : GcResults) : Respects Speaks (waitsForCall results) := by
  refine speaks_andThen (speaks_request fun _ _ => rfl) ?_
  split
  · exact speaks_run .unblock
  · exact .skip speaks_composes

theorem speaks_switch (event : MetaEvent) : Respects Speaks (switch event) := by
  unfold switch
  cases event.type with
  | blocked => exact speaks_run .block
  | unblocked => exact speaks_waitsForCall _
  | detected => exact speaks_run .seizureDetected
  | offered => exact speaks_andThen (speaks_modify fun _ => rfl) (speaks_run (.incoming _ _))
  | accept => exact speaks_run .accepting
  | answered =>
    refine speaks_andThen (speaks_modify fun _ => rfl) ?_
    exact speaks_andThen (speaks_run .answering) (speaks_run (.connected _))
  | dialing => exact speaks_run .placing
  | proceeding => exact speaks_run .proceeding
  | alerting => exact speaks_run .alerting
  | connected => exact speaks_andThen (speaks_run (.connected _)) (speaks_modify fun _ => rfl)
  | callStatus | disconnected => exact speaks_farEndDrops _
  | dropCall =>
    refine speaks_andThen (speaks_onlyIf (speaks_modify fun _ => rfl)) fun line => ?_
    exact speaks_run (.disconnected line.callExitReason.name) line
  | releaseCall => exact speaks_andThen (speaks_run .released) (speaks_modify fun _ => rfl)
  | fatalError | taskFail => exact speaks_request fun _ _ => rfl
  | resetLineDev =>
    exact speaks_andThen (speaks_run .closed) (speaks_andThen (speaks_run .opened) (speaks_waitsForCall _))
  | unknown => exact .skip speaks_composes

theorem speaks_input (label : LineInput) : Respects Speaks (input label) := by
  cases label with
  | event event =>
    intro line
    by_cases found : event.results.getCRN = true
    · rw [input_found found]
      exact speaks_switch event line
    · rw [input_lost found]
      exact speaks_composes.nothing line
  | voice event =>
    cases event with
    | play termReason => exact speaks_reportEvent _
    | digit digit => exact speaks_run (.digitReceived digit)
    | other => exact .skip speaks_composes
  | command command =>
    cases command with
    | makeCall ani dnis placed =>
      refine speaks_andThen (speaks_request fun _ _ => rfl) ?_
      cases placed with
      | none => exact .skip speaks_composes
      | some crn => exact speaks_andThen (speaks_modify fun _ => rfl) (speaks_run .outboundInitiated)
    | rejectCall => exact speaks_andThen (speaks_run .rejecting) (speaks_request fun _ _ => rfl)
    | answerCall | acceptCall | hangupCall | releaseCall => exact speaks_request fun _ _ => rfl

end Speaks

/-! ## The lines of an installation -/

def Indexed (tel : TTelecom) : Prop := ∀ (i : Nat) (line : TLine), tel.lines[i]? = some line → line.index = i

theorem lines_onLine {tel : TTelecom} {i : Nat} {line : TLine} (here : tel.lines[i]? = some line) (handler : Handler) :
    (tel.onLine i handler).lines = tel.lines.set i (handler line).1 := by
  unfold TTelecom.onLine
  rw [here]

theorem onLine_none {tel : TTelecom} {i : Nat} (nowhere : tel.lines[i]? = none) (handler : Handler) :
    tel.onLine i handler = tel := by
  unfold TTelecom.onLine
  rw [nowhere]

theorem getElem?_onLine (tel : TTelecom) (i k : Nat) (handler : Handler) :
    (tel.onLine i handler).lines[k]? =
      if i = k then (tel.lines[k]?).map fun line => (handler line).1 else tel.lines[k]? := by
  cases here : tel.lines[i]? with
  | none =>
    rw [onLine_none here]
    split
    · next same => rw [← same, here, Option.map_none]
    · rfl
  | some line =>
    rw [lines_onLine here, List.getElem?_set]
    split
    · next same =>
      subst same
      rw [if_pos (List.getElem?_eq_some_iff.mp here).1, here, Option.map_some]
    · rfl

theorem indexed_onLine {tel : TTelecom} (indexed : Indexed tel) (i : Nat) {handler : Handler}
    (speaks : Respects Speaks handler) : Indexed (tel.onLine i handler) := by
  intro k line here
  rw [getElem?_onLine] at here
  split at here
  · obtain ⟨before, there, rfl⟩ := Option.map_eq_some_iff.mp here
    exact (speaks before).1.trans (indexed k before there)
  · exact indexed k line here

theorem handle_silent {tel : TTelecom} (indexed : Indexed tel) {i k : Nat}
    (other : ∀ line, tel.lines[i]? = some line → i ≠ k) (input : LineInput) :
    (handle i input tel).2.filterMap (reportOf k) = [] := by
  unfold handle
  dsimp only
  cases here : tel.lines[i]? with
  | none => rfl
  | some line => exact (speaks_input input line).2 k (indexed i line here ▸ other line here)

/-! ## Runs -/

section Runs
variable {lines : List NamedLine} {usrAttr : Int → Option Nat}

def Stands (k : Nat) (tel : TTelecom) (line : TLine) : Prop := Indexed tel ∧ tel.lines[k]? = some line

/-- Each line is a part of the process. -/
theorem process_part (handles : Handles lines usrAttr) (apart : Apart lines) {k : Nat} {named : NamedLine}
    (here : lines[k]? = some named) :
    PartOf (process lines usrAttr) TLine.input (own k named) (Stands k) (reportOf k) (reportOf k) where
  mine := by
    rintro input taken takes tel line ⟨indexed, stands⟩
    have routed := (route_iff handles apart here).mpr takes
    unfold process
    rw [routed]
    refine ⟨⟨indexed_onLine indexed k (speaks_input taken), ?_⟩, ?_⟩
    · change (tel.onLine k _).lines[k]? = _
      rw [getElem?_onLine, if_pos rfl, stands, Option.map_some]
    · change (((tel.lines[k]?).map fun line => (TLine.input taken line).2).getD []).filterMap (reportOf k) = _
      rw [stands]
      rfl
  others := by
    rintro input takes tel line ⟨indexed, stands⟩
    unfold process
    cases routed : route lines usrAttr input with
    | none => exact ⟨⟨indexed, stands⟩, rfl⟩
    | some routed' =>
      obtain ⟨j, taken⟩ := routed'
      have different : j ≠ k := by
        rintro rfl
        exact Option.some_ne_none _ (((route_iff handles apart here).mp routed).symm.trans takes)
      refine ⟨⟨indexed_onLine indexed j (speaks_input taken), ?_⟩, handle_silent indexed (fun _ _ => different) taken⟩
      change (tel.onLine j _).lines[k]? = _
      rw [getElem?_onLine, if_neg different, stands]

def Known (before : TTelecom) (effects : List Effect) (after : TTelecom) : Prop :=
  Indexed before → Indexed after ∧ after.lines.length = before.lines.length ∧
    ∀ k, before.lines.length ≤ k → effects.filterMap (reportOf k) = []

theorem known_composes : Composes Known where
  nothing _ indexed := ⟨indexed, rfl, fun _ _ => rfl⟩
  compose := by
    intro s t u before after one two indexed
    obtain ⟨indexed', length, silent⟩ := one indexed
    obtain ⟨indexed'', length', silent'⟩ := two indexed'
    refine ⟨indexed'', length'.trans length, fun k behind => ?_⟩
    rw [List.filterMap_append, silent k behind, silent' k (length ▸ behind), List.append_nil]

theorem process_known (input : ProcessInput) : Respects Known (process lines usrAttr input) := by
  unfold process
  cases route lines usrAttr input with
  | none => exact .skip known_composes
  | some routed =>
    intro tel indexed
    refine ⟨indexed_onLine indexed routed.1 (speaks_input routed.2), TTelecom.length_onLine tel routed.1 _, ?_⟩
    intro k behind
    refine handle_silent indexed ?_ routed.2
    rintro other there rfl
    exact absurd behind (not_le.mpr (List.getElem?_eq_some_iff.mp there).1)

end Runs

/-! ## From the boards on -/

def Configured (lines : List TLine) : Prop :=
  ∀ (i : Nat) (line : TLine), lines[i]? = some line → ∃ ani dnis crn, line = TLine.fresh i ani dnis crn

theorem getElem?_openFrom (i left k : Nat) (tel : TTelecom) :
    (TTelecom.openFrom (fun _ => true) i left tel).2.lines[k]? =
      if i ≤ k ∧ k < i + left then (tel.lines[k]?).map fun line => (TLine.openLine true line).1 else tel.lines[k]? := by
  induction left generalizing i tel with
  | zero => rw [if_neg (by omega)]; rfl
  | succ left ih =>
    have turn : TTelecom.openFrom (fun _ => true) i (left + 1) tel =
        TTelecom.openFrom (fun _ => true) (i + 1) left (tel.onLine i (TLine.openLine true)) := rfl
    rw [turn, ih, getElem?_onLine]
    by_cases first : i = k
    · rw [if_neg (by omega), if_pos first, if_pos (by omega)]
    · rw [if_neg first]
      by_cases inside : i + 1 ≤ k ∧ k < i + 1 + left
      · rw [if_pos inside, if_pos (by omega)]
      · rw [if_neg inside, if_neg (by omega)]

/-- All lines are opened. -/
theorem lines_openLines (lines : List TLine) :
    (TTelecom.openLines (fun _ => true) lines).2.lines = lines.map fun line => (TLine.openLine true line).1 := by
  refine List.ext_getElem? fun k => ?_
  rw [List.getElem?_map]
  unfold TTelecom.openLines
  dsimp only
  split
  · next none_ =>
    rw [List.length_eq_zero_iff.mp (Nat.lt_one_iff.mp none_)]
    rfl
  · rw [getElem?_openFrom]
    split
    · rfl
    · next outside =>
      dsimp only
      rw [List.getElem?_eq_none_iff.mpr (by omega), Option.map_none]

theorem indexed_openLines {lines : List TLine} (configured : Configured lines) :
    Indexed (TTelecom.openLines (fun _ => true) lines).2 := by
  intro i line here
  rw [lines_openLines, List.getElem?_map] at here
  obtain ⟨before, there, rfl⟩ := Option.map_eq_some_iff.mp here
  obtain ⟨ani, dnis, crn, rfl⟩ := configured i before there
  rfl

theorem apart_of_allotted {voice dti : Boards} {lines : List NamedLine}
    (allotted : Allotted voice dti (lines.map NamedLine.toLineNames)) : Apart lines := by
  obtain ⟨gcNames, voiceNames⟩ := And.intro allotted.gcDevNames allotted.voiceNames
  rw [List.map_map] at gcNames voiceNames
  exact ⟨gcNames, voiceNames⟩

def twoLines : List NamedLine :=
  [⟨⟨"dxxxB1C1".toList, ":N_dtiB1T1:P_cn_r2_io:V_dxxxB1C1".toList⟩, 1, 11⟩,
    ⟨⟨"dxxxB1C2".toList, ":N_dtiB1T2:P_cn_r2_io:V_dxxxB1C2".toList⟩, 2, 12⟩]

def twoAttrs (dev : Int) : Option Nat := if dev = 1 then some 0 else if dev = 2 then some 1 else none

theorem twoLines_handles : Handles twoLines twoAttrs where
  gcDev := by decide
  voiceDev := by decide
  given := by decide
  opened := by
    intro dev k gives
    unfold twoAttrs at gives
    split at gives
    · next first =>
      cases gives
      exact ⟨_, rfl, first.symm⟩
    · split at gives
      · next second =>
        cases gives
        exact ⟨_, rfl, second.symm⟩
      · cases gives

def digitTwo : ProcessInput :=
  .srl ⟨⟨12, 134, 0, 0⟩, some ⟨false, ⟨12, 134, 0, 0⟩, 0⟩, false, .plain .unknown 0, .digit '7'⟩

end WorkThread

end Foolject.Telecom
