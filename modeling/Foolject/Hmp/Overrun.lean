import Foolject.Hmp.Orders

/-! What is written past the end of a buffer of the command line.

Nothing looks at the length of a line. If all lines are short enough, only the answer to the question for a
confirmation does not fit, whose buffer takes one character.
-/

set_option autoImplicit false

namespace Foolject.Hmp.CommandLine
open Transducer Dialogue

/-- A bound for the lines with which all that is put together from them fits. -/
structure Roomy (sizes : Sizes) (bound : Nat) : Prop where
  defaults : 17 ≤ bound
  identity : 2 * bound + 5 < sizes.gcAddrSize
  address : 2 * bound + 1 < sizes.maxAddressLen
  server : bound < sizes.regServer
  client : 2 * bound + 1 < sizes.regClient
  contact : 2 * bound + 10 < 250

structure Identity.Within (bound : Nat) (identity : Identity) : Prop where
  proxyIp : identity.proxyIp.length ≤ bound
  localIp : identity.localIp.length ≤ bound
  ownAlias : identity.ownAlias.length ≤ bound

def within (bound : Nat) (buffer : Buffer) (text : Line) : Prop :=
  buffer ≠ .input → buffer ≠ .confirm → text.length ≤ bound

theorem Roomy.lt_size {sizes : Sizes} {bound : Nat} (roomy : Roomy sizes bound) {buffer : Buffer}
    (other : buffer ≠ .confirm) : bound < buffer.size sizes := by
  have room := roomy.identity
  have small := roomy.contact
  cases buffer with
  | confirm => exact absurd rfl other
  | file =>
    change bound < 260
    omega
  | _ =>
    change bound < sizes.gcAddrSize
    omega

section Prints
variable {sizes : Sizes} {bound : Nat} {identity : Identity}

theorem length_atSign (user host : Line) : (atSign user host).length = user.length + host.length + 1 := by
  unfold atSign
  rw [List.length_append, List.length_cons, Nat.add_assoc]

theorem authentication_fits (roomy : Roomy sizes bound) (within : identity.Within bound) :
    ∀ print ∈ identity.authentication sizes, print.2.length < print.1 := by
  have room := roomy.identity
  have proxyIp := within.proxyIp
  have ownAlias := within.ownAlias
  simp only [Identity.authentication, List.forall_mem_singleton, List.length_append, length_atSign]
  have word : "sip:".toList.length = 4 := by decide
  omega

theorem registration_fits (roomy : Roomy sizes bound) (within : identity.Within bound) :
    ∀ print ∈ identity.registration sizes, print.2.length < print.1 := by
  obtain ⟨-, -, -, server, client, contact⟩ := roomy
  obtain ⟨proxyIp, localIp, ownAlias⟩ := within
  have word : "sip:".toList.length = 4 := by decide
  have port : ":5060".toList.length = 5 := by decide
  simp only [Identity.registration, List.forall_mem_cons, List.length_append, length_atSign]
  refine ⟨by omega, by omega, by omega, fun _ none => absurd none List.not_mem_nil⟩

theorem headers_fit {address : Line} (short : address.length ≤ 500) :
    (fromHeader address).length < 1024 ∧ (contactHeader address).length < 1024 := by
  have first : "From: foolbear<sip:".toList.length = 19 ∧ "Contact: foolbear<sip:".toList.length = 22 := by decide
  have last : ">".toList.length = 1 ∧ ":5060>".toList.length = 6 := by decide
  unfold fromHeader contactHeader
  simp only [List.length_append]
  omega

theorem makeCall_fits (roomy : Roomy sizes bound) (within : identity.Within bound) {dnisAlias : Line}
    (short : dnisAlias.length ≤ bound) : ∀ print ∈ identity.makeCall sizes dnisAlias, print.2.length < print.1 := by
  obtain ⟨-, -, address, -, -, contact⟩ := roomy
  obtain ⟨proxyIp, localIp, ownAlias⟩ := within
  have one := (@headers_fit (atSign identity.ownAlias identity.proxyIp) (by rw [length_atSign]; omega)).1
  have two := (@headers_fit (atSign identity.ownAlias identity.localIp) (by rw [length_atSign]; omega)).2
  simp only [Identity.makeCall, List.forall_mem_cons, length_atSign]
  exact ⟨by omega, by omega, by omega, one, two, fun _ none => absurd none List.not_mem_nil⟩

theorem printed_fits (roomy : Roomy sizes bound) (inside : identity.Within bound) {registered : Bool} {order : Order}
    {before : Identity} {memory : Buffer → Line} (ends : Ends (within bound) registered before order memory) :
    ∀ print ∈ order.printed sizes registered identity, print.2.length < print.1 := by
  have none : ∀ print ∈ ([] : List (Nat × Line)), print.2.length < print.1 := fun _ none =>
    absurd none List.not_mem_nil
  cases order with
  | makeCall index ani dnis =>
    have short : ani.length ≤ bound := ends.texts (.ani, ani) List.mem_cons_self (by rintro ⟨⟩) (by rintro ⟨⟩)
    have small := roomy.contact
    obtain ⟨one, two⟩ := @headers_fit ani (by omega)
    exact List.forall_mem_cons.mpr ⟨one, List.forall_mem_cons.mpr ⟨two, none⟩⟩
  | makeCallAlias index dnisAlias =>
    have short : dnisAlias.length ≤ bound :=
      ends.texts (.dnisAlias, _) List.mem_cons_self (by rintro ⟨⟩) (by rintro ⟨⟩)
    exact List.forall_mem_append.mpr ⟨authentication_fits roomy inside, makeCall_fits roomy inside short⟩
  | registration identity =>
    have texts := ends.texts
    simp only [Order.texts, List.forall_mem_cons] at texts
    obtain ⟨proxyIp, localIp, ownAlias, -, -, -⟩ := texts
    have typed : identity.Within bound :=
      ⟨proxyIp (by decide) (by decide), localIp (by decide) (by decide), ownAlias (by decide) (by decide)⟩
    cases registered with
    | true => exact none
    | false => exact List.forall_mem_append.mpr ⟨authentication_fits roomy typed, registration_fits roomy typed⟩
  | reqModifyCall index =>
    obtain ⟨-, -, -, -, -, contact⟩ := roomy
    obtain ⟨proxyIp, localIp, ownAlias⟩ := inside
    have word : "Contact: HMP test by foolbear<sip:".toList.length = 34 ∧ ":5060>".toList.length = 6 := by decide
    refine List.forall_mem_singleton.mpr ?_
    simp only [List.length_append, length_atSign]
    omega
  | _ => exact none

end Prints

namespace Session

variable {sizes : Sizes} {bound : Nat} {s : Session}

theorem within_sensible (roomy : Roomy sizes bound) : Sensible (within bound) where
  any _ := ⟨fun different => absurd rfl different, fun _ different => absurd rfl different⟩
  ready text default _ _ := by
    have short : text.2.length ≤ 17 := by
      revert text
      decide
    exact short.trans roomy.defaults

structure Short (bound : Nat) (s : Session) : Prop where
  regular : s.Regular (within bound)
  identity : (identityOf s.memory).Within bound

theorem identity_update {memory : Buffer → Line} {buffer : Buffer} {value : Line}
    (inside : (identityOf memory).Within bound) (short : within bound buffer value) :
    (identityOf (Function.update memory buffer value)).Within bound := by
  obtain ⟨proxyIp, localIp, ownAlias⟩ := inside
  have stays (other : Buffer) (asked : other ≠ .input ∧ other ≠ .confirm) (before : (memory other).length ≤ bound) :
      (Function.update memory buffer value other).length ≤ bound := by
    by_cases this : other = buffer
    · subst this
      rw [Function.update_self]
      exact short asked.1 asked.2
    · rw [Function.update_of_ne this]
      exact before
  exact ⟨stays .proxyIp (by decide) proxyIp, stays .localIp (by decide) localIp,
    stays .ownAlias (by decide) ownAlias⟩

structure Overruns (s : Session) (line : Line) : Prop where
  asks : ∃ fallback next, s.place = .asks (.gets .confirm fallback next)
  long : 2 ≤ line.length

theorem Short.step (roomy : Roomy sizes bound) (short : s.Short bound) {line : Line} (typed : line.length ≤ bound) :
    (feed sizes line s).1.Short bound ∧
      ((feed sizes line s).1.place = .overrun ↔ s.place = .overrun ∨ s.Overruns line) := by
  have fed := @feed_cases sizes s _ line short.regular fun _ _ _ _ _ => typed
  have later := fed.regular (within_sensible roomy) short.regular
  have entered {memory : Buffer → Line} (enters : s.Enters (within bound) memory) :
      (identityOf memory).Within bound := by
    obtain ⟨buffer, value, fine, rfl⟩ := enters
    exact identity_update short.identity fine
  -- A line that is taken has fitted, so it is not too long an answer to that question.
  have taken (takes : s.Takes sizes line) : s.place ≠ .overrun ∧ ¬ s.Overruns line := by
    obtain ⟨buffer, fallback, next, asks, fits, -⟩ := takes
    rw [asks]
    refine ⟨by rintro ⟨⟩, ?_⟩
    rintro ⟨⟨_, _, confirms⟩, long⟩
    cases asks.symm.trans confirms
    exact absurd fits (not_lt.mpr long)
  generalize feed sizes line s = after at fed later
  cases fed with
  | ignored elsewhere =>
    refine ⟨short, (or_iff_left ?_).symm⟩
    rintro ⟨⟨_, _, asks⟩, -⟩
    exact elsewhere _ asks
  | @tooLong buffer fallback next asks long =>
    have confirms : buffer = .confirm := by
      by_contra other
      exact absurd (roomy.lt_size other) (not_lt.mpr (long.trans typed))
    subst confirms
    exact ⟨⟨later, short.identity⟩, iff_of_true rfl (Or.inr ⟨⟨fallback, next, asks⟩, long⟩)⟩
  | @calledOff buffer fallback next asks fits _ =>
    refine ⟨⟨later, identity_update short.identity fun _ _ => typed⟩, iff_of_false (by rintro ⟨⟩) ?_⟩
    rintro (overrun | ⟨⟨_, _, confirms⟩, long⟩)
    · cases asks.symm.trans overrun
    · cases asks.symm.trans confirms
      exact absurd fits (not_lt.mpr long)
  | goesOn takes enters _ => exact ⟨⟨later, entered enters⟩, iff_of_false (by rintro ⟨⟩) (not_or.mpr (taken takes))⟩
  | printsTooMuch takes enters ends tooMuch =>
    exact absurd (printed_fits roomy (entered enters) ends) tooMuch
  | ordered takes enters _ _ =>
    refine ⟨⟨later, entered enters⟩, iff_of_false ?_ (not_or.mpr (taken takes))⟩
    dsimp only
    split
    · rintro ⟨⟩
    · rintro ⟨⟩

theorem Short.run (roomy : Roomy sizes bound) (short : s.Short bound) {lines : List Line}
    (typed : ∀ line ∈ lines, line.length ≤ bound) : (runAll (feed sizes) lines s).1.place = .overrun ↔
      s.place = .overrun ∨
        ∃ before line rest, lines = before ++ line :: rest ∧ (runAll (feed sizes) before s).1.Overruns line := by
  induction lines generalizing s with
  | nil =>
    refine (or_iff_left ?_).symm
    rintro ⟨before, line, rest, parts, -⟩
    exact List.append_ne_nil_of_right_ne_nil before (List.cons_ne_nil line rest) parts.symm
  | cons line lines ih =>
    obtain ⟨next, first⟩ := short.step roomy (typed line List.mem_cons_self)
    have later := ih next fun other member => typed other (List.mem_cons_of_mem _ member)
    have turn : (runAll (feed sizes) (line :: lines) s).1 = (runAll (feed sizes) lines (feed sizes line s).1).1 := rfl
    rw [turn, later, first, or_assoc]
    refine or_congr_right ⟨?_, ?_⟩
    · rintro (here | ⟨before, other, rest, rfl, overruns⟩)
      · exact ⟨[], line, lines, rfl, here⟩
      · exact ⟨line :: before, other, rest, rfl, overruns⟩
    · rintro ⟨before, other, rest, parts, overruns⟩
      cases before with
      | nil =>
        obtain ⟨rfl, rfl⟩ := List.cons.inj parts
        exact Or.inl overruns
      | cons head before =>
        obtain ⟨rfl, rfl⟩ := List.cons.inj parts
        exact Or.inr ⟨before, other, rest, rfl, overruns⟩

end Session

/-- If no line is longer than the bound, whatever is put together from them, a session writes past the end of a buffer
exactly if two characters or more are typed at the question for a confirmation. -/
theorem overrun_iff {sizes : Sizes} {bound : Nat} (roomy : Roomy sizes bound) {lines : List Line}
    (typed : ∀ line ∈ lines, line.length ≤ bound) :
    (runAll (Session.feed sizes) lines .start).1.place = .overrun ↔
      ∃ before line rest, lines = before ++ line :: rest ∧
        (runAll (Session.feed sizes) before .start).1.Overruns line := by
  have short : Session.start.Short bound :=
    ⟨Session.regular_start (Session.within_sensible roomy), Nat.zero_le _, Nat.zero_le _, Nat.zero_le _⟩
  refine (short.run roomy typed).trans (or_iff_right ?_)
  rintro ⟨⟩

theorem overrun_iff_back :
    (runAll (Session.feed exampleSizes) ["gf".toList, "back".toList] .start).1.place = .overrun := by
  -- `back` cannot be answered there.
  refine (@overrun_iff exampleSizes 20 ⟨by decide, by decide, by decide, by decide, by decide, by decide⟩ _ ?_).mpr ?_
  · decide
  · exact ⟨["gf".toList], "back".toList, [], rfl, ⟨_, _, rfl⟩, by decide⟩

end Foolject.Hmp.CommandLine
