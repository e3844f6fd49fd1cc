import Foolject.Hmp.Orders

/-! The registration of the HMP test at its proxy, over whole sessions.

The address that is registered stays in the global buffers, where the next `reg` writes over it even if it is
called off, or if nothing is registered because the program already is.
-/

set_option autoImplicit false

namespace Foolject.Hmp.CommandLine
open Transducer Dialogue

def Turn.sent : Turn → List Sent
  | .ordered _ sent => sent
  | .calledOff => []

def sents (turns : List Turn) : List Sent := turns.flatMap Turn.sent

/-! ## Requests -/

def isRequest : Sent → Bool
  | .register _ | .deregister => true
  | _ => false

def requests (sent : List Sent) : List Sent := sent.filter isRequest

theorem requests_cons (turn : Turn) (turns : List Turn) :
    requests (sents (turn :: turns)) = requests turn.sent ++ requests (sents turns) := by
  unfold requests sents
  rw [List.flatMap_cons, List.filter_append]

def visit (identity : Identity) : List Sent := [.register identity, .deregister]

namespace Session

variable {sizes : Sizes} {s : Session}

/-- Nothing is asked of the texts. -/
theorem anything_sensible : Sensible fun _ _ => True where
  any _ := ⟨trivial, trivial⟩
  ready _ _ := trivial

def pending (registered : Bool) (identity : Identity) : List Sent :=
  if registered = true then [.register identity] else []

theorem requests_sent (order : Order) (registered : Bool) (identity before : Identity) :
    ∃ (visits : List Identity) (after : Identity),
      pending registered before ++ requests (order.sent registered identity) =
        visits.flatMap visit ++ pending (order.registered registered) after := by
  cases registered with
  | false =>
    cases order with
    | registration identity => exact ⟨[], identity, rfl⟩
    | _ => exact ⟨[], before, rfl⟩
  | true =>
    cases order with
    | unregistration => exact ⟨[before], before, rfl⟩
    | _ => exact ⟨[], before, rfl⟩

theorem requests_paired (regular : s.Regular fun _ _ => True) (before : Identity) (lines : List Line) :
    ∃ visits : List Identity, pending s.registered before ++ requests (sents (runAll (feed sizes) lines s).2) ++
      (runAll (feed sizes) lines s).1.postTest = visits.flatMap visit := by
  induction lines generalizing s before with
  | nil =>
    obtain ⟨registered, memory, place⟩ := s
    cases registered with
    | false => exact ⟨[], rfl⟩
    | true => exact ⟨[before], rfl⟩
  | cons line rest ih =>
    have fed := @feed_cases sizes s _ line regular fun _ _ _ => trivial
    have later := fed.regular anything_sensible regular
    have turn : runAll (feed sizes) (line :: rest) s = ((runAll (feed sizes) rest (feed sizes line s).1).1,
      (feed sizes line s).2 ++ (runAll (feed sizes) rest (feed sizes line s).1).2) := rfl
    rw [turn]
    generalize feed sizes line s = after at fed later
    cases fed with
    | ignored _ => exact ih regular before
    | tooLong _ _ => exact ih later before
    | calledOff _ _ _ => exact ih later before
    | goesOn _ _ _ => exact ih later before
    | printsTooMuch _ _ _ _ => exact ih later before
    | @ordered order memory _ _ _ _ _ =>
      obtain ⟨visits, after, first⟩ := requests_sent order s.registered (identityOf memory) before
      obtain ⟨others, second⟩ := ih later after
      refine ⟨visits ++ others, ?_⟩
      dsimp only at second ⊢
      rw [List.singleton_append, requests_cons, ← List.append_assoc]
      unfold Turn.sent
      rw [first, List.flatMap_append, ← second]
      simp only [List.append_assoc]

/-! ## The identity of calls -/

structure RegistersAgain (s : Session) (line : Line) : Prop where
  registered : s.registered = true
  asks : s.place = .asks (analyseCli s.registered)
  word : begins Word.register.text line = true

def Once (sizes : Sizes) : Session → List Line → Prop
  | _, [] => True
  | s, line :: rest => ¬ s.RegistersAgain line ∧ Once sizes (feed sizes line s).1 rest

end Session

def Buffer.Local : Buffer → Prop
  | .proxyIp | .localIp | .ownAlias | .password | .realm => False
  | _ => True

def inForce : Option Identity → Sent → Option Identity
  | _, .register identity => some identity
  | _, .deregister => none
  | identity, _ => identity

def Truthful : Option Identity → Sent → Prop
  | registered, .makeCallAlias _ identity _ => registered = some identity
  | registered, .authentication identity => registered = none ∨ registered = some identity
  | _, _ => True

namespace Session

variable {sizes : Sizes} {s : Session} {line : Line} {after : Session × List Turn}

def localOnly (buffer : Buffer) (_ : Line) : Prop := buffer.Local

/-- What is in force is in the global buffers, and what is asked leaves them alone, but at the start of a command. -/
structure Holds (s : Session) (account : Option Identity) : Prop where
  off : s.registered = false → account = none
  on : s.registered = true → account = some (identityOf s.memory)
  asks : s.registered = true → ∀ asking, s.place = .asks asking → asking = analyseCli true ∨
    ∃ buffer fallback next before, asking = .gets buffer fallback next ∧
      asking.Ensures localOnly (Ends localOnly true before) s.memory

theorem ensures_local {word : Word} (other : word ≠ .register) {memory : Buffer → Line} {before : Identity}
    (same : identityOf memory = before) : (ask true word).Ensures localOnly (Ends localOnly true before) memory := by
  refine ensures_ask word (fun _ => ⟨trivial, trivial⟩) ?_ same
  cases word with
  | register => exact absurd rfl other
  | _ => simp [Word.defaults, localOnly, Buffer.Local]

theorem identityOf_update {memory : Buffer → Line} {buffer : Buffer} (inside : buffer.Local) (value : Line) :
    identityOf (Function.update memory buffer value) = identityOf memory := by
  cases buffer with
  | input | ani | dnis | dnisAlias | file | confirm => rfl
  | proxyIp | localIp | ownAlias | password | realm => cases inside

theorem not_registration {registered : Bool} {before : Identity} {memory : Buffer → Line} {order : Order}
    (ends : Ends localOnly registered before order memory) (identity : Identity) : order ≠ .registration identity := by
  rintro rfl
  exact ends.texts (.proxyIp, identity.proxyIp) List.mem_cons_self

/-- While nothing is registered, no call is made through the proxy. -/
theorem off_step (off : s.registered = false) (fed : Fed sizes (fun _ _ => True) s line after) :
    Along inForce Truthful none (sents after.2) ∧ after.1.Holds ((sents after.2).foldl inForce none) := by
  have silent {s' : Session} (same : s'.registered = s.registered) : s'.Holds none :=
    ⟨fun _ => rfl, fun on => absurd ((same.trans off).symm.trans on) Bool.false_ne_true,
      fun on => absurd ((same.trans off).symm.trans on) Bool.false_ne_true⟩
  cases fed with
  | ignored _ => exact ⟨trivial, silent rfl⟩
  | tooLong _ _ => exact ⟨trivial, silent rfl⟩
  | calledOff _ _ _ => exact ⟨trivial, silent rfl⟩
  | goesOn _ _ _ => exact ⟨trivial, silent rfl⟩
  | printsTooMuch _ _ _ _ => exact ⟨trivial, silent rfl⟩
  | @ordered order memory before _ _ ends _ =>
    rw [off] at ends ⊢
    cases order with
    | registration identity =>
      refine ⟨⟨Or.inl rfl, trivial, trivial⟩, fun on => absurd on.symm Bool.false_ne_true, fun _ => ?_, fun _ => ?_⟩
      · exact congrArg some ends.identity.symm
      · rintro asking ⟨⟩
        exact Or.inl rfl
    | makeCallAlias index dnisAlias => exact absurd ends.suits Bool.false_ne_true
    | makeCall index ani dnis => exact ⟨⟨trivial, trivial⟩, silent off.symm⟩
    | _ => exact ⟨trivial, silent off.symm⟩

/-- While something is, the identity in the buffers stays what it is. -/
theorem on_step (on : s.registered = true) (inside : ∀ buffer fallback next,
      s.place = .asks (.gets buffer fallback next) → buffer.Local) (fed : Fed sizes localOnly s line after)
    (holds : s.Holds (some (identityOf s.memory))) :
    Along inForce Truthful (some (identityOf s.memory)) (sents after.2) ∧
      after.1.Holds ((sents after.2).foldl inForce (some (identityOf s.memory))) := by
  -- A session with the same identity that asks for the next command, or for nothing.
  have stays {s' : Session} (registered : s'.registered = true) (same : identityOf s'.memory = identityOf s.memory)
      (asks : ∀ asking, s'.place = .asks asking → asking = analyseCli true) : s'.Holds (some (identityOf s.memory)) :=
    ⟨fun off => absurd (off.symm.trans registered) Bool.false_ne_true, fun _ => congrArg some same.symm,
      fun _ asking here => Or.inl (asks asking here)⟩
  have same {memory : Buffer → Line} (enters : s.Enters localOnly memory) :
      identityOf memory = identityOf s.memory := by
    obtain ⟨buffer, value, inside, rfl⟩ := enters
    exact identityOf_update inside value
  cases fed with
  | ignored _ => exact ⟨trivial, holds⟩
  | tooLong _ _ => exact ⟨trivial, stays on rfl (by rintro _ ⟨⟩)⟩
  | calledOff asks _ _ =>
    refine ⟨trivial, stays on (identityOf_update (inside _ _ _ asks) _) ?_⟩
    rintro asking ⟨⟩
    exact congrArg analyseCli on
  | @goesOn buffer memory fallback next before _ enters ensures =>
    refine ⟨trivial, fun off => absurd (off.symm.trans on) Bool.false_ne_true, fun _ => ?_, fun _ => ?_⟩
    · exact congrArg some (same enters).symm
    · rintro asking ⟨⟩
      rw [on] at ensures
      exact Or.inr ⟨_, _, _, _, rfl, ensures⟩
  | printsTooMuch _ enters _ _ => exact ⟨trivial, stays on (same enters) (by rintro _ ⟨⟩)⟩
  | @ordered order memory before _ enters ends _ =>
    have kept := same enters
    rw [on] at ends ⊢
    cases order with
    | registration identity => exact absurd rfl (not_registration ends identity)
    | unregistration =>
      exact ⟨⟨trivial, trivial⟩, fun _ => rfl, fun on => absurd on Bool.false_ne_true,
        fun on => absurd on Bool.false_ne_true⟩
    | makeCallAlias index dnisAlias =>
      refine ⟨⟨Or.inr ?_, ?_, trivial⟩, stays rfl kept (by rintro _ ⟨⟩; rfl)⟩
      · exact congrArg some kept.symm
      · exact congrArg some kept.symm
    | makeCall index ani dnis => exact absurd ends.suits.symm Bool.false_ne_true
    | quit => exact ⟨trivial, stays rfl kept (by rintro _ ⟨⟩)⟩
    | _ => exact ⟨trivial, stays rfl kept (by rintro _ ⟨⟩; rfl)⟩

/-- What is asked while something is registered comes into local buffers, unless a registration is begun. -/
theorem Holds.fed (holds : s.Holds (some (identityOf s.memory))) (on : s.registered = true)
    (once : ¬ s.RegistersAgain line) : Fed sizes localOnly s line (feed sizes line s) := by
  by_cases asked : ∃ asking, s.place = .asks asking
  · obtain ⟨asking, asks⟩ := asked
    rcases holds.asks on asking asks with rfl | ⟨buffer, fallback, next, before, rfl, ensures⟩
    · refine @feed_asks _ _ _ .input [] line _ (identityOf s.memory) asks fun _ => ⟨trivial, ?_⟩
      rw [meant_empty]
      cases found : Word.of line with
      | none => exact .of_nil trivial rfl rfl
      | some word =>
        rw [on]
        have other : word ≠ .register := by
          rintro rfl
          exact once ⟨on, asks.trans (by rw [on]), Word.of_eq_some_iff.mp found⟩
        exact ensures_local other rfl
    · refine @feed_asks _ _ _ _ _ _ _ before asks fun accepts => ⟨?_, ?_⟩
      · exact of_meant ensures.1 fun _ => ensures.1
      · rw [on]
        exact ensures.meant fun _ => ensures.1
  · have elsewhere : ∀ asking, s.place ≠ .asks asking := fun asking asks => asked ⟨asking, asks⟩
    rw [feed_elsewhere elsewhere]
    exact .ignored elsewhere

theorem Holds.inside (holds : s.Holds (some (identityOf s.memory))) (on : s.registered = true) {buffer : Buffer}
    {fallback : Line} {next : Line → Asking} (asks : s.place = .asks (.gets buffer fallback next)) : buffer.Local := by
  rcases holds.asks on _ asks with top | ⟨_, _, _, _, same, ensures⟩
  · cases top
    trivial
  · cases same
    exact ensures.1

theorem sents_append (before later : List Turn) : sents (before ++ later) = sents before ++ sents later :=
  List.flatMap_append

/-- So it is over a session in which no registration is begun while there is one. -/
theorem calls_truthful {account : Option Identity} (regular : s.Regular fun _ _ => True) (holds : s.Holds account)
    {lines : List Line} (once : s.Once sizes lines) :
    Along inForce Truthful account (sents (runAll (feed sizes) lines s).2) := by
  induction lines generalizing s account with
  | nil => trivial
  | cons line rest ih =>
    obtain ⟨here, behind⟩ := once
    have turn : (runAll (feed sizes) (line :: rest) s).2 =
        (feed sizes line s).2 ++ (runAll (feed sizes) rest (feed sizes line s).1).2 := rfl
    have fed := @feed_cases sizes s _ line regular fun _ _ _ => trivial
    rw [turn, sents_append, along_append]
    cases on : s.registered with
    | false =>
      obtain ⟨first, next⟩ := off_step on fed
      rw [holds.off on]
      exact ⟨first, ih (fed.regular anything_sensible regular) next behind⟩
    | true =>
      obtain rfl := holds.on on
      obtain ⟨first, next⟩ := on_step on (fun _ _ _ => holds.inside on) (holds.fed on here) holds
      exact ⟨first, ih (fed.regular anything_sensible regular) next behind⟩

end Session

/-- Whatever is typed, registrations and their ends take turns, and what is left at the end is taken back. The calls
through the proxy are made with the identity that is registered if no registration is begun while there is one. -/
theorem registration_paired (sizes : Sizes) (lines : List Line) :
    (∃ visits : List Identity, requests (sents (runAll (Session.feed sizes) lines .start).2) ++
      (runAll (Session.feed sizes) lines .start).1.postTest = visits.flatMap visit) ∧
    (Session.start.Once sizes lines →
      Along inForce Truthful none (sents (runAll (Session.feed sizes) lines .start).2)) := by
  have regular := Session.regular_start Session.anything_sensible
  refine ⟨Session.requests_paired regular ⟨[], [], [], [], []⟩ lines, Session.calls_truthful regular ?_⟩
  exact ⟨fun _ => rfl, fun on => absurd on Bool.false_ne_true, fun on => absurd on Bool.false_ne_true⟩

def calledOffAgain : List Line :=
  ["reg".toList, [], [], [], [], [], "reg".toList, "back".toList, "mc".toList, [], []]

example : (sents (runAll (Session.feed exampleSizes) calledOffAgain .start).2).getLast? =
    some (.makeCallAlias firstIndex { exampleIdentity with proxyIp := "back".toList } "31".toList) := by decide

theorem registration_paired_quit : Along inForce Truthful none
    (sents (runAll (Session.feed exampleSizes) ["reg".toList, [], [], [], [], [], "mc".toList, [], [], "quit".toList]
      .start).2) := by
  -- To register, and to quit.
  refine (registration_paired exampleSizes _).2 ?_
  have plain {s : Session} {line : Line} (different : begins Word.register.text line = false) :
      ¬ s.RegistersAgain line := fun again => absurd (different.symm.trans again.word) Bool.false_ne_true
  refine ⟨fun again => absurd again.registered Bool.false_ne_true, ?_⟩
  exact ⟨plain rfl, plain rfl, plain rfl, plain rfl, plain rfl, plain rfl, plain rfl, plain rfl, plain rfl, trivial⟩

end Foolject.Hmp.CommandLine
