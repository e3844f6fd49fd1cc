import Foolject.Lib.Transition
import Foolject.Hmp.Loop

/-! The call references of the channels, and what the transfers do with them.

The switch is the side of the Global Call library: which call is up on which line. A channel
takes the reference of every event that it is handed, so that an event of the line that comes
in the middle of a call makes it forget the call.
-/

set_option autoImplicit false

namespace Foolject.Hmp
open Transducer Function

/-! ## The channels -/

structure Given where
  /-- What `gc_GetCRN` finds. -/
  crn : Nat
  /-- The address that a transfer refers to. -/
  address : List Char
  /-- The reference of the call that is placed. The library may refuse it. -/
  placed : Option Nat
  second : Index
  deriving DecidableEq

structure Handed where
  index : Index
  input : Input
  given : Given
  deriving DecidableEq

structure Calls where
  channls : Index → Channel
  crn : Index → Nat
  reroutingAddr : Index → List Char
  superXferPrimaryChIndex : Index → Int

inductive Request where
  /-- A function that is given the reference of the channel's own call. -/
  | onCall (action : Action) (crn : Nat)
  | makeCall (line : Index)
  | blindXfer (crn : Nat)
  | initXfer (crn : Nat)
  | invokeXfer (primary secondary : Nat)
  | makeXferCall (line : Index) (primary : Nat) (address : List Char)
  /-- An access to `channls` outside of the array. -/
  | outside (index : Int)
  deriving DecidableEq

namespace Calls

def idle (s : Calls) : Option Index := (List.finRange maxChannels).find? fun index => s.crn index = 0

def getIdleChannelId (s : Calls) : Int :=
  match s.idle with
  | some index => index.val
  | none => -1

def at? (index : Int) : Option Index := (List.finRange maxChannels).find? fun element => (element.val : Int) = index

/-- A call that is refused leaves the reference as it was. -/
def place (s : Calls) (line : Index) (placed : Option Nat) : Calls :=
  { s with crn := update s.crn line (placed.getD (s.crn line)) }

def superXfer (s : Calls) (index : Index) : Request :=
  match at? (s.superXferPrimaryChIndex index) with
  | some primary => .invokeXfer (s.crn primary) (s.crn index)
  | none => .outside (s.superXferPrimaryChIndex index)

def makeXferCall (handed : Handed) : Transducer Calls Request := fun s =>
  match at? s.getIdleChannelId with
  | some line => (s.place line handed.given.placed,
      [.makeXferCall line (s.crn handed.index) (s.reroutingAddr handed.index)])
  | none => (s, [.outside s.getIdleChannelId])

/-- What an action means for the calls. -/
def perform (handed : Handed) (action : Action) : Transducer Calls Request := fun s =>
  match action with
  | .connectFax | .restoreVoice | .printOfferInfo | .callAck | .acceptCall | .answerCall | .dropCall
  | .releaseCall | .reqModifyCall | .acceptModifyCall | .sendT38Request | .responseCodecRequest _ =>
    (s, [.onCall action (s.crn handed.index)])
  -- Before a call is made the codecs are those of the channel.
  | .setCodec => (s, if handed.input = .command .makeCall then [] else [.onCall action (s.crn handed.index)])
  | .makeCall => (s.place handed.index handed.given.placed, [.makeCall handed.index])
  | .invokeXfer =>
    (s, [if handed.input = .command .blindXfer then .blindXfer (s.crn handed.index) else s.superXfer handed.index])
  | .initXfer =>
    ({ s with superXferPrimaryChIndex :=
        update s.superXferPrimaryChIndex handed.given.second (s.channls handed.index).id },
      [.initXfer (s.crn handed.given.second)])
  | .acceptXfer =>
    ({ s with reroutingAddr := update s.reroutingAddr handed.index handed.given.address },
      [.onCall action (s.crn handed.index)])
  | .makeXferCall => makeXferCall handed s
  | _ => (s, [])

/-- `gc_GetCRN`, which each event comes to before its handler. -/
def getCRN (handed : Handed) (s : Calls) : Calls :=
  match handed.input with
  | .gc _ => { s with crn := update s.crn handed.index handed.given.crn }
  | _ => s

/-- The last line of the handler of `GCEV_RELEASECALL`. -/
def forget (handed : Handed) (s : Calls) : Calls :=
  if handed.input = .gc .releaseCall then { s with crn := update s.crn handed.index 0 } else s

def runHandler (handed : Handed) : Transducer Calls Request := fun s =>
  let handled := Channel.handle handed.input (s.channls handed.index)
  runAll (perform handed) handled.2 { s with channls := update s.channls handed.index handled.1 }

def handle (handed : Handed) : Transducer Calls Request := fun s =>
  let performed := runHandler handed (s.getCRN handed)
  (performed.1.forget handed, performed.2)

end Calls

/-! ## The switch -/

structure Switch where
  /-- The call that is up on the line, or 0. -/
  live : Index → Nat
  /-- An event of the line has come since the last one of the call. -/
  lost : Index → Bool
  /-- The channel that a transfer was last initiated from, for its second channel. -/
  asked : Index → Option Index
  /-- The address of the last transfer request. -/
  referred : Index → Option (List Char)

namespace Switch

def silent : Switch := ⟨fun _ => 0, fun _ => false, fun _ => none, fun _ => none⟩

/-- The call that the channel can know of. -/
def known (w : Switch) (line : Index) : Nat := if w.lost line then 0 else w.live line

def up (w : Switch) (line : Index) (crn : Nat) : Option Switch :=
  if w.live line = 0 ∧ crn ≠ 0 ∧ ∀ other, w.live other ≠ crn then
    some { w with live := update w.live line crn, lost := update w.lost line false }
  else none

def hears (w : Switch) (line : Index) (crn : Nat) : Option Switch :=
  if crn = w.live line then some { w with lost := update w.lost line false }
  else if crn = 0 then some { w with lost := update w.lost line true }
  else none

/-- What the library may hand over. The end of a call comes with the call, and what follows a
transfer that was initiated or requested comes behind it. -/
def arrive (handed : Handed) (w : Switch) : Option Switch :=
  match handed.input with
  | .gc .offered => w.up handed.index handed.given.crn
  | .gc .releaseCall => if handed.given.crn = w.live handed.index then w.hears handed.index handed.given.crn else none
  | .gc .initXfer => if (w.asked handed.index).isSome then w.hears handed.index handed.given.crn else none
  | .gc .acceptXfer => if (w.referred handed.index).isSome then w.hears handed.index handed.given.crn else none
  | .gc _ => w.hears handed.index handed.given.crn
  | _ => some w

/-- A line takes one call at a time, and gives it a reference that no other call has. -/
def answer (given : Given) (w : Switch) : Request → Option Switch
  | .makeCall line | .makeXferCall line _ _ =>
    match given.placed with
    | some crn => w.up line crn
    | none => some w
  | _ => some w

def leave (handed : Handed) (w : Switch) : Switch :=
  match handed.input with
  | .gc .releaseCall =>
    { w with live := update w.live handed.index 0, lost := update w.lost handed.index false }
  | .gc .reqXfer => { w with referred := update w.referred handed.index (some handed.given.address) }
  | .command .initSuperXfer => { w with asked := update w.asked handed.given.second (some handed.index) }
  | _ => w

def Fits (w : Switch) (handed : Handed) : Request → Prop
  | .onCall _ crn => crn = w.known handed.index
  | .makeCall line => line = handed.index
  | .blindXfer crn => crn = w.known handed.index
  | .initXfer crn => crn = w.known handed.given.second
  | .invokeXfer primary secondary => secondary = w.known handed.index ∧
      ∃ asking, w.asked handed.index = some asking ∧ primary = w.known asking
  | .makeXferCall line primary address => w.known line = 0 ∧ primary = w.known handed.index ∧
      w.referred handed.index = some address
  | .outside index => index = -1 ∧ handed.input = .gc .acceptXfer ∧ ∀ line, w.known line ≠ 0

end Switch

/-- The channels know what the switch lets them know. -/
structure Calls.Tracks (s : Calls) (w : Switch) : Prop where
  id : ∀ index, (s.channls index).id = index.val
  crn : ∀ index, s.crn index = w.known index
  asked : ∀ index asking, w.asked index = some asking → s.superXferPrimaryChIndex index = asking.val
  referred : ∀ index address, w.referred index = some address → s.reroutingAddr index = address

/-! ## The actions of a handler -/

namespace Channel

def Plain : Action → Prop
  | .makeCall | .invokeXfer | .initXfer | .acceptXfer | .makeXferCall => False
  | _ => True

def plainly (before : Channel) (actions : List Action) (after : Channel) : Prop :=
  after.id = before.id ∧ ∀ action ∈ actions, Plain action

theorem composes_plainly : Composes plainly where
  nothing _ := ⟨rfl, fun _ inside => absurd inside List.not_mem_nil⟩
  compose := by
    rintro s t u before after ⟨one, first⟩ ⟨two, second⟩
    refine ⟨two.trans one, fun action inside => ?_⟩
    rcases List.mem_append.mp inside with early | late
    · exact first action early
    · exact second action late

abbrev Plainly (handler : Handler) : Prop := Respects plainly handler

theorem plainly_act {action : Action} (plain : Plain action) : Plainly (act action) := by
  refine fun ch => ⟨rfl, fun other inside => ?_⟩
  rw [List.mem_singleton.mp inside]
  exact plain

theorem plainly_modify {change : Channel → Channel} (keeps : ∀ ch, (change ch).id = ch.id) :
    Plainly (Transducer.modify change) := fun ch => ⟨keeps ch, fun _ inside => absurd inside List.not_mem_nil⟩

theorem Plainly.behind {action : Action} {rest : Handler} (plain : Plain action) (after : Plainly rest) :
    Plainly (andThen (act action) rest) := (plainly_act plain).andThen composes_plainly after

theorem plainly_restore : Plainly (act .restoreVoice) := plainly_act trivial

theorem plainly_restoreIfFax : Plainly restoreIfFax := plainly_restore.onlyIf composes_plainly

theorem plainly_dropCall : Plainly dropCall :=
  Respects.andThen composes_plainly (plainly_restore.onlyIf composes_plainly) (plainly_act trivial)

theorem plainly_doFax (dir : FaxDir) (file : Option (List Char)) : Plainly (doFax dir file) := by
  intro ch
  cases flag : ch.alreadyConnectFax with
  | false =>
    rw [doFax_first dir file flag]
    exact ⟨rfl, by simp [Plain]⟩
  | true =>
    rw [doFax_again dir file flag]
    exact ⟨rfl, by simp [Plain]⟩

theorem plainly_processParm (parm : Parm) : Plainly (processParm parm) := by
  cases parm with
  | t38Requested =>
    have connects : Plainly connectIfFirst :=
      Respects.onlyIf composes_plainly (Plainly.behind trivial (plainly_modify fun _ => rfl))
    exact Plainly.behind trivial connects
  | audioRequested => exact Plainly.behind trivial (plainly_act trivial)
  | ready localTime =>
    have sends : Plainly sendFaxInner := fun ch => ⟨rfl, by simp [sendFaxInner, emit, Plain]⟩
    have receives : Plainly (receiveFaxInner localTime) :=
      fun ch => ⟨rfl, by simp [receiveFaxInner, andThen, emit, Transducer.modify, Plain]⟩
    exact Plainly.behind trivial (Respects.onlyIf composes_plainly
      ((sends.onlyIf composes_plainly).andThen composes_plainly (receives.onlyIf composes_plainly)))
  | other => exact plainly_act trivial

theorem plainly_processExtension (parms : List Parm) : Plainly (processExtension parms) :=
  Respects.runAll composes_plainly plainly_processParm parms

def Special : Input → Prop
  | .command .makeCall | .command .blindXfer | .command .initSuperXfer => True
  | .gc .reqXfer | .gc .acceptXfer | .gc .initXfer => True
  | _ => False

theorem plainly_gcEvent {event : GcEvent} (plain : ¬ Special (.gc event)) : Plainly (gcEvent event) := by
  cases event with
  | reqXfer | acceptXfer | initXfer => exact absurd trivial plain
  | openEx => exact Plainly.behind trivial (Plainly.behind trivial (plainly_act trivial))
  | offered | accept => exact Plainly.behind trivial (plainly_act trivial)
  | answered | connected => exact composes_plainly.nothing
  | disconnected =>
    exact Plainly.behind trivial (plainly_restoreIfFax.andThen composes_plainly plainly_dropCall)
  | extensionCmplt parms | extension parms => exact plainly_processExtension parms
  | reqModifyCall parms =>
    exact (plainly_processExtension parms).andThen composes_plainly (plainly_act trivial)
  | releaseCall => exact plainly_modify fun _ => rfl
  | taskFail => exact Plainly.behind trivial plainly_restoreIfFax
  | _ => exact plainly_act trivial

theorem plainly_r4Event (event : R4Event) : Plainly (r4Event event) := by
  have done : Plainly processFaxDone :=
    Plainly.behind trivial (Plainly.behind trivial (plainly_modify fun _ => rfl))
  cases event with
  | play | record => exact Plainly.behind trivial (plainly_act trivial)
  | cst digit =>
    cases digit with
    | none => exact composes_plainly.nothing
    | some digit => exact plainly_act trivial
  | phaseB | phaseD => exact plainly_act trivial
  | faxSend | faxRecv | faxError => exact Plainly.behind trivial done
  | other => exact composes_plainly.nothing

theorem plainly_command {command : Command} (plain : ¬ Special (.command command)) :
    Plainly (Channel.command command) := by
  cases command with
  | makeCall | blindXfer | initSuperXfer => exact absurd trivial plain
  | dropCall => exact plainly_dropCall
  | doFax dir file => exact plainly_doFax dir file
  | _ => exact plainly_act trivial

theorem plainly_handle {input : Input} (plain : ¬ Special input) : Plainly (handle input) := by
  cases input with
  | command command => exact plainly_command plain
  | gc event => exact Plainly.behind trivial (plainly_gcEvent plain)
  | r4 event => exact Plainly.behind trivial (plainly_r4Event event)

end Channel

/-! ## What the channels learn -/

namespace Switch

structure Shows (before : Switch) (line : Index) (crn : Nat) (after : Switch) : Prop where
  known : after.known = update before.known line crn
  asked : after.asked = before.asked
  referred : after.referred = before.referred

variable {w next arrived : Switch} {line : Index} {crn : Nat} {handed : Handed}

theorem known_update {live : Index → Nat} (lost : Bool) (forgotten : lost = true → crn = 0)
    (up : lost = false → live line = crn) (others : ∀ other, other ≠ line → live other = w.live other) :
    ({ w with live := live, lost := update w.lost line lost } : Switch).known = update w.known line crn := by
  funext other
  by_cases same : other = line
  · subst same
    have flag : update w.lost other lost other = lost := update_self ..
    have here : update w.known other crn other = crn := update_self ..
    rw [here]
    cases lost with
    | true => exact (if_pos flag).trans (forgotten rfl).symm
    | false => exact (if_neg (Bool.eq_false_iff.mp flag)).trans (up rfl)
  · have flag : update w.lost line lost other = w.lost other := update_of_ne same ..
    have there : update w.known line crn other = w.known other := update_of_ne same ..
    rw [there]
    simp only [known, flag, others other same]

theorem up_shows (taken : w.up line crn = some next) : Shows w line crn next := by
  obtain ⟨-, shape⟩ := Option.ite_none_right_eq_some.mp taken
  cases shape
  refine ⟨known_update false (by simp) (fun _ => update_self ..) ?_, rfl, rfl⟩
  exact fun other different => update_of_ne different ..

theorem hears_shows (heard : w.hears line crn = some next) : Shows w line crn next := by
  unfold hears at heard
  split at heard
  · rename_i own
    cases heard
    exact ⟨known_update false (by simp) (fun _ => own.symm) fun _ _ => rfl, rfl, rfl⟩
  · obtain ⟨none_, shape⟩ := Option.ite_none_right_eq_some.mp heard
    cases shape
    exact ⟨known_update true (fun _ => none_) (by simp) fun _ _ => rfl, rfl, rfl⟩

theorem arrive_shows {event : GcEvent} (isEvent : handed.input = .gc event)
    (arrives : w.arrive handed = some arrived) : Shows w handed.index handed.given.crn arrived := by
  unfold arrive at arrives
  rw [isEvent] at arrives
  cases event with
  | offered => exact up_shows arrives
  | releaseCall | initXfer | acceptXfer => exact hears_shows (Option.ite_none_right_eq_some.mp arrives).2
  | _ => exact hears_shows arrives

theorem arrive_same (noEvent : ∀ event, handed.input ≠ .gc event) (arrives : w.arrive handed = some arrived) :
    arrived = w := by
  unfold arrive at arrives
  cases isInput : handed.input with
  | gc event => exact absurd isInput (noEvent event)
  | command command =>
    rw [isInput] at arrives
    exact (Option.some.inj arrives).symm
  | r4 event =>
    rw [isInput] at arrives
    exact (Option.some.inj arrives).symm

end Switch

namespace Calls

variable {s : Calls} {w arrived answered : Switch} {handed : Handed} {action : Action} {actions : List Action}

theorem Tracks.shows {line : Index} {crn : Nat} {next : Switch} (tracks : s.Tracks w)
    (shows_ : Switch.Shows w line crn next) : Tracks { s with crn := update s.crn line crn } next where
  id := tracks.id
  crn := by
    have same : s.crn = w.known := funext tracks.crn
    intro index
    rw [shows_.known, ← same]
  asked := by
    rw [shows_.asked]
    exact tracks.asked
  referred := by
    rw [shows_.referred]
    exact tracks.referred

theorem Tracks.arrives (tracks : s.Tracks w) (arrives : w.arrive handed = some arrived) :
    (s.getCRN handed).Tracks arrived := by
  unfold getCRN
  cases isInput : handed.input with
  | gc event => exact tracks.shows (Switch.arrive_shows isInput arrives)
  | command command =>
    rw [Switch.arrive_same (by rw [isInput]; exact fun _ => Input.noConfusion) arrives]
    exact tracks
  | r4 event =>
    rw [Switch.arrive_same (by rw [isInput]; exact fun _ => Input.noConfusion) arrives]
    exact tracks

/-! ## Plain actions -/

theorem perform_plain (plain : Channel.Plain action) : (perform handed action s).1 = s ∧
    ∀ request ∈ (perform handed action s).2, ∃ named, request = .onCall named (s.crn handed.index) := by
  unfold perform
  cases action with
  | makeCall | invokeXfer | initXfer | acceptXfer | makeXferCall => exact plain.elim
  | setCodec =>
    refine ⟨rfl, fun request inside => ?_⟩
    dsimp only at inside
    split at inside
    · exact absurd inside List.not_mem_nil
    · exact ⟨_, List.mem_singleton.mp inside⟩
  | connectFax | restoreVoice | printOfferInfo | callAck | acceptCall | answerCall | dropCall
  | releaseCall | reqModifyCall | acceptModifyCall | sendT38Request | responseCodecRequest =>
    exact ⟨rfl, fun request inside => ⟨_, List.mem_singleton.mp inside⟩⟩
  | _ => exact ⟨rfl, fun request inside => absurd inside List.not_mem_nil⟩

theorem runAll_plain (plain : ∀ action ∈ actions, Channel.Plain action) :
    (runAll (perform handed) actions s).1 = s ∧
    ∀ request ∈ (runAll (perform handed) actions s).2, ∃ named, request = .onCall named (s.crn handed.index) := by
  induction actions with
  | nil => exact ⟨rfl, fun request inside => absurd inside List.not_mem_nil⟩
  | cons action rest ih =>
    obtain ⟨same, first⟩ := @perform_plain s handed action (plain action List.mem_cons_self)
    obtain ⟨kept, later⟩ := ih fun other inside => plain other (List.mem_cons_of_mem _ inside)
    rw [runAll, andThen, same]
    refine ⟨kept, fun request inside => ?_⟩
    rcases List.mem_append.mp inside with early | late
    · exact first request early
    · exact later request late

theorem answers_onCall {requests : List Request}
    (own : ∀ request ∈ requests, ∃ named crn, request = .onCall named crn) (given : Given) (w : Switch) :
    requests.foldlM (fun w request => Switch.answer given w request) w = some w := by
  induction requests with
  | nil => rfl
  | cons request rest ih =>
    obtain ⟨named, crn, rfl⟩ := own request List.mem_cons_self
    rw [List.foldlM_cons]
    exact ih fun other inside => own other (List.mem_cons_of_mem _ inside)

/-! ## One input -/

structure Serves (handed : Handed) (arrived : Switch) (done : Calls × List Request) : Prop where
  fits : ∀ request ∈ done.2, arrived.Fits handed request
  tracks : ∀ answered,
    done.2.foldlM (fun w request => Switch.answer handed.given w request) arrived = some answered →
    done.1.Tracks (answered.leave handed)

theorem serves_single {request : Request} (fits : arrived.Fits handed request)
    (tracks : ∀ answered, arrived.answer handed.given request = some answered → s.Tracks (answered.leave handed)) :
    Serves handed arrived (s, [request]) where
  fits := by
    intro other inside
    rw [List.mem_singleton.mp inside]
    exact fits
  tracks := by
    intro answered taken
    rw [List.foldlM_cons] at taken
    obtain ⟨after, answers, last⟩ := Option.bind_eq_some_iff.mp taken
    cases last
    exact tracks _ answers

theorem Tracks.place {line : Index} (tracks : s.Tracks arrived)
    (answers : arrived.answer handed.given (.makeCall line) = some answered) :
    (s.place line handed.given.placed).Tracks answered := by
  unfold Switch.answer at answers
  unfold Calls.place
  cases refused : handed.given.placed with
  | none =>
    rw [refused] at answers
    cases answers
    rw [Option.getD_none, update_eq_self]
    exact tracks
  | some crn =>
    rw [refused] at answers
    exact tracks.shows (Switch.up_shows answers)

theorem idle_some {line : Index} (found : s.idle = some line) : s.crn line = 0 := by
  unfold idle at found
  have zero := List.find?_some found
  exact of_decide_eq_true zero

theorem idle_none (none_ : s.idle = none) (line : Index) : s.crn line ≠ 0 := by
  unfold idle at none_
  exact fun zero => List.find?_eq_none.mp none_ line (List.mem_finRange line) (decide_eq_true zero)

theorem at?_val (index : Index) : at? (index.val : Int) = some index := by
  revert index
  decide

theorem serves_makeXferCall (tracks : s.Tracks arrived) (isInput : handed.input = .gc .acceptXfer)
    (referred : (arrived.referred handed.index).isSome = true) : Serves handed arrived (makeXferCall handed s) := by
  have stays (w : Switch) : w.leave handed = w := by rw [Switch.leave, isInput]
  unfold makeXferCall getIdleChannelId
  cases found : s.idle with
  | none =>
    refine serves_single ⟨rfl, isInput, fun line => ?_⟩ fun answered same => ?_
    · rw [← tracks.crn line]
      exact idle_none found line
    · cases same
      rw [stays]
      exact tracks
  | some line =>
    dsimp only
    rw [at?_val]
    obtain ⟨address, isAddress⟩ := Option.isSome_iff_exists.mp referred
    refine serves_single ⟨?_, tracks.crn handed.index, ?_⟩ fun answered answers => ?_
    · rw [← tracks.crn line]
      exact idle_some found
    · rw [isAddress, tracks.referred handed.index address isAddress]
    · rw [stays]
      exact tracks.place answers

theorem Tracks.set (tracks : s.Tracks arrived) {index : Index} {ch : Channel}
    (same : ch.id = (s.channls index).id) :
    Tracks { s with channls := update s.channls index ch } arrived := by
  refine ⟨fun other => ?_, tracks.crn, tracks.asked, tracks.referred⟩
  dsimp only
  by_cases own : other = index
  · subst own
    rw [update_self, same]
    exact tracks.id _
  · rw [update_of_ne own]
    exact tracks.id other

theorem leave_plain (plain : ¬ Channel.Special handed.input) (goesOn : handed.input ≠ .gc .releaseCall)
    (w : Switch) : w.leave handed = w := by
  -- Behind any other input than the end of a call there is nothing left to do.
  unfold Switch.leave
  split
  · rename_i isInput
    exact absurd isInput goesOn
  · rename_i isInput
    rw [isInput] at plain
    exact absurd trivial plain
  · rename_i isInput
    rw [isInput] at plain
    exact absurd trivial plain
  · rfl

theorem Tracks.forget (tracks : s.Tracks arrived) (plain : ¬ Channel.Special handed.input) :
    (s.forget handed).Tracks (arrived.leave handed) := by
  by_cases released : handed.input = .gc .releaseCall
  · rw [Calls.forget, if_pos released, Switch.leave, released]
    exact tracks.shows ⟨Switch.known_update false (by simp) (fun _ => update_self ..)
      fun other different => update_of_ne different .., rfl, rfl⟩
  · rw [Calls.forget, if_neg released, leave_plain plain released]
    exact tracks

theorem runHandler_plain (plain : ¬ Channel.Special handed.input) :
    (runHandler handed s).1 =
      { s with channls :=
          update s.channls handed.index (Channel.handle handed.input (s.channls handed.index)).1 } ∧
    ∀ request ∈ (runHandler handed s).2, ∃ named, request = .onCall named (s.crn handed.index) :=
  runAll_plain (Channel.plainly_handle plain _).2

theorem serves_plain (tracks : s.Tracks arrived) (plain : ¬ Channel.Special handed.input) :
    Serves handed arrived ((runHandler handed s).1.forget handed, (runHandler handed s).2) := by
  obtain ⟨same, own⟩ := @runHandler_plain s handed plain
  have alone : ∀ request ∈ (runHandler handed s).2, ∃ named crn, request = .onCall named crn := by
    intro request inside
    obtain ⟨named, onCall⟩ := own request inside
    exact ⟨named, _, onCall⟩
  refine ⟨fun request inside => ?_, fun answered answers => ?_⟩
  · obtain ⟨named, rfl⟩ := own request inside
    exact tracks.crn handed.index
  · rw [answers_onCall alone] at answers
    cases answers
    dsimp only
    rw [same]
    exact (tracks.set (Channel.plainly_handle plain _).1).forget plain

theorem runHandler_eq {actions : List Action}
    (handler : Channel.handle handed.input (s.channls handed.index) = (s.channls handed.index, actions)) :
    runHandler handed s = runAll (perform handed) actions s := by
  unfold runHandler
  rw [handler]
  dsimp only
  rw [update_eq_self]

theorem serves_command {command : Command} (isInput : handed.input = .command command)
    (tracks : s.Tracks arrived) (special : Channel.Special (.command command)) :
    Serves handed arrived (runHandler handed s) := by
  cases command with
  | makeCall =>
    have ran : runHandler handed s = (s.place handed.index handed.given.placed, [.makeCall handed.index]) := by
      rw [@runHandler_eq s handed [.setCodec, .makeCall] (by rw [isInput]; rfl)]
      simp [runAll, andThen, skip, perform, isInput]
    rw [ran]
    refine serves_single rfl fun answered answers => ?_
    rw [Switch.leave, isInput]
    exact tracks.place answers
  | blindXfer =>
    have ran : runHandler handed s = (s, [.blindXfer (s.crn handed.index)]) := by
      rw [@runHandler_eq s handed [.invokeXfer] (by rw [isInput]; rfl)]
      simp [runAll, andThen, skip, perform, isInput]
    rw [ran]
    refine serves_single (tracks.crn handed.index) fun answered same => ?_
    cases same
    rw [Switch.leave, isInput]
    exact tracks
  | initSuperXfer =>
    have ran : runHandler handed s =
        ({ s with superXferPrimaryChIndex :=
            update s.superXferPrimaryChIndex handed.given.second (s.channls handed.index).id },
          [.initXfer (s.crn handed.given.second)]) := by
      rw [@runHandler_eq s handed [.initXfer] (by rw [isInput]; rfl)]
      simp [runAll, andThen, skip, perform]
    rw [ran]
    refine serves_single (tracks.crn handed.given.second) fun answered same => ?_
    cases same
    rw [Switch.leave, isInput]
    refine ⟨tracks.id, tracks.crn, fun index asking asked => ?_, tracks.referred⟩
    dsimp only at asked ⊢
    by_cases second : index = handed.given.second
    · subst second
      rw [update_self] at asked ⊢
      cases asked
      rw [tracks.id]
    · rw [update_of_ne second] at asked ⊢
      exact tracks.asked index asking asked
  | _ => exact special.elim

theorem serves_event {event : GcEvent} (isInput : handed.input = .gc event) (tracks : s.Tracks arrived)
    (special : Channel.Special (.gc event)) (asked : event = .initXfer → (arrived.asked handed.index).isSome = true)
    (referred : event = .acceptXfer → (arrived.referred handed.index).isSome = true) :
    Serves handed arrived (runHandler handed s) := by
  cases event with
  | reqXfer =>
    have ran : runHandler handed s =
        ({ s with reroutingAddr := update s.reroutingAddr handed.index handed.given.address },
          [.onCall .acceptXfer (s.crn handed.index)]) := by
      rw [@runHandler_eq s handed [.printEvent, .acceptXfer] (by rw [isInput]; rfl)]
      simp [runAll, andThen, skip, perform]
    rw [ran]
    refine serves_single (tracks.crn handed.index) fun answered same => ?_
    cases same
    rw [Switch.leave, isInput]
    refine ⟨tracks.id, tracks.crn, tracks.asked, fun index address referred => ?_⟩
    dsimp only at referred ⊢
    by_cases own : index = handed.index
    · subst own
      rw [update_self] at referred ⊢
      cases referred
      rfl
    · rw [update_of_ne own] at referred ⊢
      exact tracks.referred index address referred
  | acceptXfer =>
    have ran : runHandler handed s = makeXferCall handed s := by
      rw [@runHandler_eq s handed [.printEvent, .makeXferCall] (by rw [isInput]; rfl)]
      simp [runAll, andThen, skip, perform]
    rw [ran]
    exact serves_makeXferCall tracks isInput (referred rfl)
  | initXfer =>
    have ran : runHandler handed s = (s, [s.superXfer handed.index]) := by
      rw [@runHandler_eq s handed [.printEvent, .invokeXfer] (by rw [isInput]; rfl)]
      simp [runAll, andThen, skip, perform, isInput]
    obtain ⟨asking, isAsking⟩ := Option.isSome_iff_exists.mp (asked rfl)
    have names : s.superXfer handed.index = .invokeXfer (s.crn asking) (s.crn handed.index) := by
      rw [superXfer, tracks.asked handed.index asking isAsking, at?_val]
    rw [ran, names]
    refine serves_single ⟨tracks.crn handed.index, asking, isAsking, tracks.crn asking⟩ fun answered same => ?_
    cases same
    rw [Switch.leave, isInput]
    exact tracks
  | _ => exact special.elim

theorem forget_special (special : Channel.Special handed.input) (s : Calls) : s.forget handed = s := by
  refine if_neg fun released => ?_
  rw [released] at special
  exact special

theorem serves_handle (tracks : s.Tracks w) (arrives : w.arrive handed = some arrived) :
    Serves handed arrived (handle handed s) := by
  have now := tracks.arrives arrives
  unfold handle
  by_cases special : Channel.Special handed.input
  · dsimp only
    rw [forget_special special]
    cases isInput : handed.input with
    | r4 event =>
      rw [isInput] at special
      exact special.elim
    | command command => exact serves_command isInput now (isInput ▸ special)
    | gc event =>
      have shows_ := Switch.arrive_shows isInput arrives
      refine serves_event isInput now (isInput ▸ special) ?_ ?_
      · rintro rfl
        rw [shows_.asked]
        rw [Switch.arrive, isInput] at arrives
        exact (Option.ite_none_right_eq_some.mp arrives).1
      · rintro rfl
        rw [shows_.referred]
        rw [Switch.arrive, isInput] at arrives
        exact (Option.ite_none_right_eq_some.mp arrives).1
  · exact serves_plain now special

/-! ## The channels of the loop -/

theorem perform_channls (handed : Handed) (action : Action) (s : Calls) :
    (perform handed action s).1.channls = s.channls := by
  cases action with
  | makeXferCall =>
    unfold perform makeXferCall
    dsimp only
    split <;> rfl
  | _ => rfl

theorem runAll_perform_channls (handed : Handed) (actions : List Action) (s : Calls) :
    (runAll (perform handed) actions s).1.channls = s.channls := by
  induction actions generalizing s with
  | nil => rfl
  | cons action rest ih =>
    rw [runAll, andThen_fst, ih]
    exact perform_channls handed action s

theorem getCRN_channls (handed : Handed) (s : Calls) : (s.getCRN handed).channls = s.channls := by
  unfold getCRN
  split <;> rfl

theorem forget_channls (handed : Handed) (s : Calls) : (s.forget handed).channls = s.channls := by
  unfold forget
  split <;> rfl

theorem handle_channls (handed : Handed) (s : Calls) : (handle handed s).1.channls =
    (member handed.index (Channel.handle handed.input) s.channls).1 := by
  unfold handle runHandler
  dsimp only
  rw [forget_channls, runAll_perform_channls, getCRN_channls]
  rfl

/-- The references change nothing in what the channels do: they go through the states that the
loop leads them through. -/
theorem runAll_channls (inputs : List Handed) (s : Calls) : (runAll handle inputs s).1.channls =
    (Loop.handleAll (inputs.map fun handed => (handed.index, handed.input)) s.channls).1 := by
  induction inputs generalizing s with
  | nil => rfl
  | cons handed rest ih =>
    rw [runAll, andThen_fst, ih, handle_channls]
    rfl

/-! ## Whole runs -/

/-- As `pre_test` leaves the channels: the references are what the memory holds. -/
def preTest (memory : Calls) : Calls :=
  { memory with channls := fun index => .opened index (memory.channls index) }

def Opens (handed : Handed) : Prop :=
  (handed.input = .gc .openEx ∨ handed.input = .gc .unblocked) ∧ handed.given.crn = 0

def Opened (s : Calls) : Prop := ∃ (memory : Calls) (lines : List Handed), (∀ handed ∈ lines, Opens handed) ∧
  (∀ index, ∃ handed ∈ lines, handed.index = index) ∧ s = (runAll handle lines (preTest memory)).1

theorem handle_opens (opens : Opens handed) (s : Calls) :
    (handle handed s).1 = { s with crn := update s.crn handed.index 0 } := by
  obtain ⟨isInput, none_⟩ := opens
  rcases isInput with isInput | isInput
  · have ran (s : Calls) : (runHandler handed s).1 = s := by
      rw [@runHandler_eq s handed [.printEvent, .setDtmf, .connectVoice, .setAlarm] (by rw [isInput]; rfl)]
      simp [runAll, andThen, skip, perform]
    simp [handle, ran, getCRN, forget, isInput, none_]
  · have ran (s : Calls) : (runHandler handed s).1 = s := by
      rw [@runHandler_eq s handed [.printEvent, .waitCall] (by rw [isInput]; rfl)]
      simp [runAll, andThen, skip, perform]
    simp [handle, ran, getCRN, forget, isInput, none_]

theorem runAll_opens {lines : List Handed} (opens : ∀ handed ∈ lines, Opens handed) (s : Calls) :
    (runAll handle lines s).1.channls = s.channls ∧
    ∀ index, s.crn index = 0 ∨ (∃ handed ∈ lines, handed.index = index) →
      (runAll handle lines s).1.crn index = 0 := by
  induction lines generalizing s with
  | nil =>
    refine ⟨rfl, fun index before => before.elim id fun some => ?_⟩
    obtain ⟨handed, inside, -⟩ := some
    exact absurd inside List.not_mem_nil
  | cons first rest ih =>
    have turn := handle_opens (opens first List.mem_cons_self) s
    obtain ⟨channls, crn⟩ := ih (fun handed inside => opens handed (List.mem_cons_of_mem _ inside))
      (handle first s).1
    rw [runAll, andThen_fst]
    refine ⟨channls.trans (by rw [turn]), fun index before => crn index ?_⟩
    rw [turn]
    by_cases own : index = first.index
    · exact .inl (by rw [own]; exact update_self ..)
    · rcases before with zero | ⟨handed, inside, same⟩
      · exact .inl (Eq.trans (update_of_ne own ..) zero)
      · rcases List.mem_cons.mp inside with rfl | later
        · exact absurd same.symm own
        · exact .inr ⟨handed, later, same⟩

theorem Opened.tracks (opened : Opened s) : s.Tracks .silent := by
  obtain ⟨memory, lines, opens, all, rfl⟩ := opened
  obtain ⟨channls, crn⟩ := runAll_opens opens (preTest memory)
  refine ⟨fun index => ?_, fun index => crn index (.inr (all index)), ?_, ?_⟩
  · rw [channls]
    rfl
  · rintro index asking none_
    cases none_
  · rintro index address none_
    cases none_

/-- The library hands something over, the channel makes its requests, and the library answers them. -/
def serve (sides : Calls × Switch) (handed : Handed) : Option (Calls × Switch) :=
  (sides.2.arrive handed).bind fun arrived =>
    ((handle handed sides.1).2.foldlM (fun w request => Switch.answer handed.given w request) arrived).map
      fun answered => ((handle handed sides.1).1, answered.leave handed)

def system : System (Calls × Switch) Handed :=
  .ofStep (fun sides => Opened sides.1 ∧ sides.2 = .silent) serve

theorem tracks_reached {sides : Calls × Switch} (reached : system.Reaches System.Always sides) :
    sides.1.Tracks sides.2 := by
  refine reached.invariant (fun sides => sides.1.Tracks sides.2) ?_ ?_
  · rintro ⟨s, w⟩ ⟨opened, silent⟩
    cases silent
    exact opened.tracks
  · rintro ⟨s, w⟩ handed next tracks - stepped
    obtain ⟨arrived, arrives, stepped⟩ := Option.bind_eq_some_iff.mp stepped
    obtain ⟨answered, answers, rfl⟩ := Option.map_eq_some_iff.mp stepped
    exact (serves_handle tracks arrives).tracks answered answers

theorem handle_acceptXfer (isInput : handed.input = .gc .acceptXfer) (s : Calls) :
    (handle handed s).2 = (makeXferCall handed (s.getCRN handed)).2 := by
  have ran (s : Calls) : runHandler handed s = makeXferCall handed s := by
    rw [@runHandler_eq s handed [.printEvent, .makeXferCall] (by rw [isInput]; rfl)]
    simp [runAll, andThen, skip, perform]
  unfold handle
  rw [ran]

def emptyChannel : Channel := ⟨0, 0, 0, .tx, [], false, false⟩

def newCalls : Calls :=
  (runAll handle [⟨firstIndex, .gc .openEx, ⟨0, [], none, firstIndex⟩⟩,
      ⟨firstIndex, .gc .unblocked, ⟨0, [], none, firstIndex⟩⟩,
      ⟨secondIndex, .gc .openEx, ⟨0, [], none, firstIndex⟩⟩]
    (preTest ⟨fun _ => emptyChannel, fun _ => 9, fun _ => [], fun _ => 9⟩)).1

theorem newCalls_opened : Opened newCalls := by
  refine ⟨_, _, ?_, ?_, rfl⟩
  · intro handed inside
    simp only [List.mem_cons, List.not_mem_nil, or_false] at inside
    rcases inside with rfl | rfl | rfl
    · exact ⟨.inl rfl, rfl⟩
    · exact ⟨.inr rfl, rfl⟩
    · exact ⟨.inl rfl, rfl⟩
  · decide

/-- A caller of the first channel is to be transferred, while somebody calls the second one. -/
def transfers : List Handed :=
  [⟨firstIndex, .gc .offered, ⟨7, [], none, firstIndex⟩⟩,
    ⟨firstIndex, .gc .reqXfer, ⟨7, "31@host".toList, none, firstIndex⟩⟩,
    ⟨secondIndex, .gc .offered, ⟨8, [], none, firstIndex⟩⟩]

end Calls

end Foolject.Hmp
