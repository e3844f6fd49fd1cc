import Foolject.Redundancy.Iteration

/-! What the datagrams of another group do to a server.

They are not answered, but each of them counts like a timeout, so that a server that
is still asking gives up the sooner. The two runs that are compared differ in the
count alone until one of them gives up.
-/

set_option autoImplicit false

namespace Foolject

namespace Received

/-- Nothing, or a datagram with both parameters. -/
def WellFormed : Received → Prop
  | .null => True
  | .datagram _ serverId role => serverId.isSome ∧ role.isSome

def counts (serverId : Int) (ip : IpAddress) : Received → Nat
  | .null => 1
  | .datagram remote id _ => if id = some serverId ∧ remote ≠ ip then 0 else 1

def Decides (serverId : Int) (ip : IpAddress) : Received → Prop
  | .null => False
  | .datagram remote id role => id = some serverId ∧ remote ≠ ip ∧
      ∃ told ∈ role.bind TRole.ofCode,
        Negotiate.reaction told .whoAmI (decide (0 < ip.stricmp remote)) ≠ .whileNotQuit

end Received

inductive Event (serverId : Int) where
  | given (answer : Answer) (wellFormed : answer.received.WellFormed)
  | inserted (ip : IpAddress) (foreign role connection : Int) (differs : foreign ≠ serverId)

namespace Event
variable {serverId : Int}

def isGiven : Event serverId → Bool
  | given _ _ => true
  | inserted _ _ _ _ _ => false

/-- Each given result that a server which asks receives below the limit is received below the
limit with the inserted results counted, too. -/
def InTime (ip : IpAddress) : Nat → Nat → List (Event serverId) → Prop
  | _, _, [] => True
  | count, more, inserted _ _ _ _ _ :: rest => InTime ip count (more + 1) rest
  | count, more, given answer _ :: rest =>
    count ≤ 15 → count + more ≤ 15 ∧ (¬ answer.received.Decides serverId ip →
      InTime ip (count + answer.received.counts serverId ip) more rest)

end Event

namespace Server

/-- Equal but for the count and what was received last. -/
structure Alike (s t : Server) : Prop where
  shared : t.toRedundancy = s.toRedundancy
  pc : t.pc = s.pc
  role : t.role = s.role
  bound : t.bound = s.bound

variable {s t : Server} {answer : Answer}

structure Matches (s t : Server) (first second : List Server × Server) : Prop where
  effects : second.1.map effect = first.1.map effect
  shared : second.2.toRedundancy = first.2.toRedundancy
  pc : second.2.pc = first.2.pc
  bound : second.2.bound = first.2.bound
  count : second.2.negotiateCount + s.negotiateCount = first.2.negotiateCount + t.negotiateCount

theorem effect_congr (shared : t.toRedundancy = s.toRedundancy) (pc : t.pc = s.pc) :
    t.effect = s.effect := by
  rcases s with ⟨rddcp, thread, bound⟩
  rcases t with ⟨rddcp', thread', bound'⟩
  cases thread
  cases thread'
  cases shared
  cases pc
  rfl

/-- Behind the receive of a datagram only the counts are left to differ. -/
theorem Alike.reacting (alike : s.Alike t) (ip : IpAddress) (serverId role : Int) :
    t.reacting ip (some serverId) (some role) =
      (s.reacting ip (some serverId) (some role)).withCount t.negotiateCount := by
  obtain ⟨shared, pc, role', bound⟩ := alike
  rcases s with ⟨rddcp, thread, _⟩
  rcases t with ⟨rddcp', thread', _⟩
  cases thread
  cases thread'
  cases shared
  cases pc
  cases role'
  cases bound
  rfl

theorem Alike.handle (alike : s.Alike t) (here : s.pc = .recvBroadCastMsg)
    (wellFormed : answer.received.WellFormed) :
    Matches s t (s.handle answer) (t.handle answer) := by
  have there : t.pc = .recvBroadCastMsg := alike.pc.trans here
  have shown : t.effect = s.effect := effect_congr alike.shared alike.pc
  obtain ⟨received, connection⟩ := answer
  cases received with
  | null =>
    rw [handle_null here, handle_null there, alike.role]
    by_cases asks : s.role = .whoAmI
    · rw [if_pos asks, if_pos asks]
      refine ⟨?_, alike.shared, rfl, alike.bound, ?_⟩
      · simp only [List.map_cons, List.map_nil, shown]
        exact congrArg (fun last => [s.effect, last]) (effect_congr alike.shared rfl)
      · dsimp only
        omega
    · rw [if_neg asks, if_neg asks]
      exact ⟨by simp [shown], alike.shared, rfl, alike.bound, Nat.add_comm _ _⟩
  | datagram ip serverId role =>
    obtain ⟨⟨serverId, rfl⟩, role, rfl⟩ :
        (∃ id, serverId = some id) ∧ ∃ value, role = some value :=
      wellFormed.imp Option.isSome_iff_exists.mp Option.isSome_iff_exists.mp
    by_cases ignored : (some serverId).getD s.remoteServerId ≠ s.serverId ∨ ip = s.ip
    · have ignored' : (some serverId).getD t.remoteServerId ≠ t.serverId ∨ ip = t.ip := by
        rw [alike.shared]
        exact ignored
      rw [handle_ignored here ignored, handle_ignored there ignored', alike.role]
      refine ⟨by simp [shown], alike.shared, rfl, alike.bound, ?_⟩
      dsimp only
      omega
    · obtain ⟨group, other⟩ := not_or.mp ignored
      have group' : (some serverId).getD t.remoteServerId = t.serverId := by
        rw [alike.shared]
        exact not_not.mp group
      have other' : ip ≠ t.ip := by rwa [alike.shared]
      have behind : (s.reacting ip (some serverId) (some role)).pc.Behind := react_behind _ _
      rw [handle_group here (not_not.mp group) other, handle_group there group' other',
        alike.reacting, upTo_withCount t.negotiateCount 5 behind]
      refine ⟨?_, rfl, rfl, rfl, ?_⟩
      · simp [shown, Function.comp_def]
      · dsimp only
        rw [upTo_count 5 behind]
        exact Nat.add_comm _ _

/-! ## What a received result does to a server that asks -/

def Asks (server : Server) : Prop := server.pc = .whileNotQuit ∧ server.iAm = .whoAmI

theorem reaction_whoAmI (remote : TRole) (higher : Bool) :
    Negotiate.reaction remote .whoAmI higher = .whileNotQuit ∨
    Negotiate.reaction remote .whoAmI higher = .promoteByAddress ∨
    Negotiate.reaction remote .whoAmI higher = .becomeBackup ∨
    Negotiate.reaction remote .whoAmI higher = .setEvent := by
  cases remote <;> cases higher <;> decide

/-- From a reaction that is none to the loop head, from any other away from asking. -/
theorem upTo_asks (asks : s.iAm = .whoAmI) (react : s.pc = .whileNotQuit ∨
    s.pc = .promoteByAddress ∨ s.pc = .becomeBackup ∨ s.pc = .setEvent) :
    (s.upTo NegotiatePc.Ends answer 5).2.Asks ↔ s.pc = .whileNotQuit := by
  rcases react with at_ | at_ | at_ | at_ <;>
    simp [upTo, at_, Server.step, Negotiate.step, NegotiatePc.Ends, Asks, asks, Redundancy.setMyRole,
      Redundancy.vnConnect]

theorem handle_asks (here : s.pc = .recvBroadCastMsg) (role : s.role = .whoAmI)
    (asks : s.iAm = .whoAmI) (wellFormed : answer.received.WellFormed) :
    ((s.handle answer).2.Asks ↔ ¬ answer.received.Decides s.serverId s.ip) ∧
    (s.handle answer).2.negotiateCount = s.negotiateCount + answer.received.counts s.serverId s.ip := by
  obtain ⟨received, connection⟩ := answer
  cases received with
  | null =>
    rw [handle_null here, if_pos role]
    exact ⟨⟨fun _ => id, fun _ => ⟨rfl, asks⟩⟩, rfl⟩
  | datagram ip serverId value =>
    obtain ⟨⟨serverId, rfl⟩, value, rfl⟩ :
        (∃ id, serverId = some id) ∧ ∃ number, value = some number :=
      wellFormed.imp Option.isSome_iff_exists.mp Option.isSome_iff_exists.mp
    by_cases group : serverId = s.serverId ∧ ip ≠ s.ip
    · obtain ⟨same, other⟩ := group
      have behind : (s.reacting ip (some serverId) (some value)).pc.Behind := react_behind _ _
      have own : (some serverId).getD s.remoteServerId = s.serverId := same
      rw [handle_group here own other]
      refine ⟨?_, ?_⟩
      · have decides : Received.Decides s.serverId s.ip (.datagram ip (some serverId) (some value)) ↔
            (s.reacting ip (some serverId) (some value)).pc ≠ .whileNotQuit := by
          rw [reacting_pc, role]
          cases told : TRole.ofCode value <;> simp [Received.Decides, same, other, told]
        rw [decides, not_not]
        refine upTo_asks asks ?_
        rw [reacting_pc, role, Option.getD_some]
        cases TRole.ofCode value with
        | none => exact .inl rfl
        | some told => exact reaction_whoAmI _ _
      · dsimp only
        rw [upTo_count 5 behind, Received.counts, if_pos ⟨by rw [same], other⟩]
        rfl
    · have ignored : (some serverId).getD s.remoteServerId ≠ s.serverId ∨ ip = s.ip := by
        by_cases same : serverId = s.serverId
        · exact .inr (not_not.mp fun other => group ⟨same, other⟩)
        · exact .inl same
      rw [handle_ignored here ignored, if_pos role]
      refine ⟨⟨fun _ decides => group ⟨Option.some.inj decides.1, decides.2.1⟩, fun _ => ⟨rfl, asks⟩⟩, ?_⟩
      rw [Received.counts, if_neg fun both => group ⟨Option.some.inj both.1, both.2⟩]

/-! ## Two runs -/

/-- How a server with some results inserted stands to one without, at the loop head. -/
inductive Twin (more : Nat) (s t : Server) : Prop where
  | same : t.toRedundancy = s.toRedundancy → t.bound = s.bound → s.pc = .whileNotQuit →
      t.pc = .whileNotQuit → (s.iAm = .whoAmI → t.negotiateCount = s.negotiateCount + more) →
      Twin more s t
  | ahead : t.toRedundancy = s.toRedundancy.setMyRole .primaryWithoutBackup → t.bound = s.bound →
      s.Asks → t.pc = .whileNotQuit → 15 < s.negotiateCount + more → Twin more s t
  | returned : s.pc = .returned → t.pc = .returned → Twin more s t

def Fits (server : Server) (more : Nat) : Prop :=
  server.Asks → server.negotiateCount ≤ 15 → server.negotiateCount + more ≤ 15

variable {more : Nat}

theorem Twin.arrive (twin : Twin more s t) (head : s.pc = .whileNotQuit) (fits : s.Fits more) :
    t.pc = .whileNotQuit ∧ s.atRecv.Alike t.atRecv := by
  cases twin with
  | same shared bound _ head' count =>
    have role : t.arrivingRole = s.arrivingRole := by
      have iAm : t.iAm = s.iAm := congrArg Redundancy.iAm shared
      rw [arrivingRole, arrivingRole, iAm]
      by_cases asks : s.iAm = .whoAmI
      · have limit : t.negotiateCount > negotiateMaxCount ↔ s.negotiateCount > negotiateMaxCount := by
          have fits := fits ⟨head, asks⟩
          rw [count asks, negotiateMaxCount]
          omega
        simp only [limit]
      · simp [asks]
    refine ⟨head', ⟨?_, rfl, role, bound⟩⟩
    simp only [atRecv, shared, role]
  | ahead shared bound asks head' many =>
    have limit : s.negotiateCount > negotiateMaxCount := by
      by_contra few
      have enough := fits asks (Nat.not_lt.mp few)
      omega
    have role : s.arrivingRole = .primaryWithoutBackup := by
      rw [arrivingRole, if_pos ⟨limit, asks.2⟩]
    have role' : t.arrivingRole = .primaryWithoutBackup := by
      have iAm : t.iAm = .primaryWithoutBackup := congrArg Redundancy.iAm shared
      simp [arrivingRole, iAm]
    refine ⟨head', ⟨?_, rfl, role'.trans role.symm, bound⟩⟩
    simp only [atRecv, shared, role, role', Redundancy.setMyRole]
  | returned ended =>
    rw [head] at ended
    cases ended

def shows (answer : Answer) (server : Server) : List Effect :=
  (server.arrive.2.handle answer).1.map effect

theorem iteration_head (answer : Answer) (head : s.pc = .whileNotQuit) (stays : s.quitInnerThread = false) :
    s.shows answer = (s.atRecv.handle answer).1.map effect ∧
    (s.iteration answer).2 = (s.atRecv.handle answer).2 := by
  rw [shows, iteration, arrive_last head stays]
  exact ⟨rfl, rfl⟩

theorem iteration_returned (answer : Answer) (ended : s.pc = .returned) :
    s.shows answer = [] ∧ (s.iteration answer).2 = s := by
  have arrives : s.arrive = ([], s) := by simp [Server.arrive, upTo, ended]
  simp [shows, iteration, arrives, Server.handle, ended]

theorem Twin.quit (twin : Twin more s t) (head : s.pc = .whileNotQuit) :
    t.quitInnerThread = s.quitInnerThread := by
  cases twin with
  | same shared => rw [shared]
  | ahead shared => rw [shared, Redundancy.setMyRole]
  | returned ended =>
    rw [head] at ended
    cases ended

theorem Twin.count (twin : Twin more s t) (head : s.pc = .whileNotQuit) (fits : s.Fits more)
    (asks : s.arrivingRole = .whoAmI) : t.negotiateCount = s.negotiateCount + more := by
  obtain ⟨asked, few⟩ := arrivingRole_whoAmI.mp asks
  cases twin with
  | same _ _ _ _ count => exact count asked
  | ahead _ _ asks _ many =>
    have enough := fits asks few
    omega
  | returned ended =>
    rw [head] at ended
    cases ended

theorem Twin.given (twin : Twin more s t) (stays : s.quitInnerThread = false)
    (wellFormed : answer.received.WellFormed) (fits : s.Fits more) :
    t.shows answer = s.shows answer ∧ Twin more (s.iteration answer).2 (t.iteration answer).2 := by
  by_cases head : s.pc = .whileNotQuit
  · obtain ⟨head', alike⟩ := twin.arrive head fits
    obtain ⟨shows, last⟩ := iteration_head answer head stays
    obtain ⟨shows', last'⟩ := iteration_head answer head' ((twin.quit head).trans stays)
    obtain ⟨effects, shared, pc, bound, count⟩ := alike.handle rfl wellFormed
    refine ⟨by rw [shows, shows', effects], ?_⟩
    rw [last, last']
    rcases (handle_ends rfl : (s.atRecv.handle answer).2.pc.Ends) with again | ended
    · refine .same shared bound again (pc.trans again) fun asks => ?_
      have asked : s.atRecv.iAm = .whoAmI := by
        by_contra role
        exact handle_role rfl role asks
      have before := twin.count head fits asked
      have counted : (t.atRecv.handle answer).2.negotiateCount + s.negotiateCount =
          (s.atRecv.handle answer).2.negotiateCount + t.negotiateCount := count
      omega
    · exact .returned ended (pc.trans ended)
  · cases twin with
    | same _ _ head' => exact absurd head' head
    | ahead _ _ asks => exact absurd asks.1 head
    | returned ended ended' =>
      obtain ⟨shows, last⟩ := iteration_returned answer ended
      obtain ⟨shows', last'⟩ := iteration_returned answer ended'
      rw [shows, shows', last, last']
      exact ⟨rfl, .returned ended ended'⟩

/-- Where the inserted results make the difference, the very receive is in another role. -/
theorem Twin.given_unfit (answer : Answer) (twin : Twin more s t) (stays : s.quitInnerThread = false) (asks : s.Asks)
    (few : s.negotiateCount ≤ 15) (many : 15 < s.negotiateCount + more) :
    t.shows answer ≠ s.shows answer := by
  have role : s.arrivingRole = .whoAmI := arrivingRole_whoAmI.mpr ⟨asks.2, few⟩
  have role' : t.pc = .whileNotQuit ∧ t.arrivingRole ≠ .whoAmI := by
    cases twin with
    | same _ _ _ head' count =>
      refine ⟨head', fun asks' => ?_⟩
      have few' := (arrivingRole_whoAmI.mp asks').2
      rw [count asks.2] at few'
      omega
    | ahead shared _ _ head' =>
      refine ⟨head', fun asks' => ?_⟩
      have iAm : t.iAm = .primaryWithoutBackup := congrArg Redundancy.iAm shared
      rw [(arrivingRole_whoAmI.mp asks').1] at iAm
      cases iAm
    | returned ended =>
      rw [asks.1] at ended
      cases ended
  intro same
  obtain ⟨rest, path⟩ := handle_first answer (rfl : s.atRecv.pc = .recvBroadCastMsg)
  obtain ⟨rest', path'⟩ := handle_first answer (rfl : t.atRecv.pc = .recvBroadCastMsg)
  rw [(iteration_head answer asks.1 stays).1, (iteration_head answer role'.1 ((twin.quit asks.1).trans stays)).1,
    path, path'] at same
  have first : t.atRecv.effect = s.atRecv.effect := (List.cons.inj same).1
  exact role'.2 ((congrArg Effect.role first).trans role)

theorem atRecv_shared (role : s.arrivingRole = s.iAm) :
    s.atRecv.toRedundancy = s.toRedundancy := by
  rw [atRecv, role]

/-- A datagram of another group makes a server count, if it asks, and nothing else. -/
theorem Twin.inserted (twin : Twin more s t) (stays : s.quitInnerThread = false) (ip : IpAddress)
    {serverId : Int} (role connection : Int) (foreign : serverId ≠ s.serverId) :
    Twin (more + 1) s (t.iteration ⟨.datagram ip (some serverId) (some role), connection⟩).2 := by
  cases twin with
  | returned ended ended' =>
    rw [(iteration_returned _ ended').2]
    exact .returned ended ended'
  | same shared bound head head' count =>
    have stays' : t.quitInnerThread = false := by rw [shared, stays]
    have ignored : (some serverId).getD t.atRecv.remoteServerId ≠ t.atRecv.serverId ∨ ip = t.atRecv.ip :=
      .inl (show serverId ≠ t.serverId by rw [shared]; exact foreign)
    rw [(iteration_head _ head' stays').2, handle_ignored rfl ignored]
    have iAm : t.iAm = s.iAm := congrArg Redundancy.iAm shared
    by_cases asks : s.iAm = .whoAmI
    · have counted := count asks
      by_cases few : t.negotiateCount ≤ 15
      · have role : t.arrivingRole = .whoAmI := arrivingRole_whoAmI.mpr ⟨iAm.trans asks, few⟩
        refine .same ((atRecv_shared (role.trans (iAm.trans asks).symm)).trans shared) bound head rfl ?_
        intro _
        have role' : t.atRecv.role = .whoAmI := role
        simp only [role', if_true]
        have same : t.atRecv.negotiateCount = t.negotiateCount := rfl
        omega
      · have role : t.arrivingRole = .primaryWithoutBackup :=
          if_pos ⟨Nat.not_le.mp few, iAm.trans asks⟩
        refine .ahead ?_ bound ⟨head, asks⟩ rfl (by omega)
        simp only [atRecv, role, shared, Redundancy.setMyRole]
    · have role : t.arrivingRole = t.iAm := if_neg fun many => asks (iAm.symm.trans many.2)
      exact .same ((atRecv_shared role).trans shared) bound head rfl fun wrong => absurd wrong asks
  | ahead shared bound asks head' many =>
    have stays' : t.quitInnerThread = false := by rw [shared, Redundancy.setMyRole, stays]
    have ignored : (some serverId).getD t.atRecv.remoteServerId ≠ t.atRecv.serverId ∨ ip = t.atRecv.ip :=
      .inl (show serverId ≠ t.serverId by rw [shared]; exact foreign)
    rw [(iteration_head _ head' stays').2, handle_ignored rfl ignored]
    have iAm : t.iAm = .primaryWithoutBackup := congrArg Redundancy.iAm shared
    have role : t.arrivingRole = t.iAm := by simp [arrivingRole, iAm]
    exact .ahead ((atRecv_shared role).trans shared) bound asks rfl (by omega)

/-! ## The observations of the given results -/

variable {own : Int}

def observe : Server → List (Event own) → List (List Effect)
  | _, [] => []
  | server, .given answer _ :: rest =>
    server.shows answer :: observe (server.iteration answer).2 rest
  | server, .inserted ip serverId role connection _ :: rest =>
    observe (server.iteration ⟨.datagram ip (some serverId) (some role), connection⟩).2 rest

/-- A server goes on asking after a result exactly if it asks below the limit and the result
does not decide. -/
theorem iteration_asks (ends : s.pc.Ends) (stays : s.quitInnerThread = false)
    (wellFormed : answer.received.WellFormed) :
    (s.iteration answer).2.Asks ↔
      s.Asks ∧ s.negotiateCount ≤ 15 ∧ ¬ answer.received.Decides s.serverId s.ip := by
  rcases ends with head | ended
  · rw [(iteration_head answer head stays).2]
    by_cases asks : s.arrivingRole = .whoAmI
    · obtain ⟨asked, few⟩ := arrivingRole_whoAmI.mp asks
      have goesOn := (handle_asks (rfl : s.atRecv.pc = .recvBroadCastMsg) asks asks wellFormed).1
      rw [goesOn]
      exact ⟨fun undecided => ⟨⟨head, asked⟩, few, undecided⟩, fun all => all.2.2⟩
    · refine ⟨fun still => absurd still.2 (handle_role rfl asks), fun all => ?_⟩
      exact absurd (arrivingRole_whoAmI.mpr ⟨all.1.2, all.2.1⟩) asks
  · rw [(iteration_returned answer ended).2]
    refine ⟨fun still => ?_, fun all => all.1⟩
    have head := still.1
    rw [ended] at head
    cases head

theorem iteration_count (asks : s.Asks) (few : s.negotiateCount ≤ 15)
    (stays : s.quitInnerThread = false) (wellFormed : answer.received.WellFormed) :
    (s.iteration answer).2.negotiateCount =
      s.negotiateCount + answer.received.counts s.serverId s.ip := by
  have role := arrivingRole_whoAmI.mpr ⟨asks.2, few⟩
  rw [(iteration_head answer asks.1 stays).2]
  exact (handle_asks (rfl : s.atRecv.pc = .recvBroadCastMsg) role role wellFormed).2

theorem Twin.ends (twin : Twin more s t) : s.pc.Ends := by
  cases twin with
  | same _ _ head => exact .inl head
  | ahead _ _ asks => exact .inl asks.1
  | returned ended => exact .inr ended

theorem Twin.observe_iff (events : List (Event own)) (twin : Twin more s t)
    (stays : s.quitInnerThread = false) (group : s.serverId = own) :
    t.observe events = s.observe (events.filter Event.isGiven) ↔
      (s.Asks → Event.InTime s.ip s.negotiateCount more events) := by
  induction events generalizing more s t with
  | nil => simp [observe, Event.InTime]
  | cons event rest ih =>
    cases event with
    | inserted ip foreign role connection differs =>
      have next := twin.inserted stays ip role connection (group ▸ differs)
      rw [List.filter_cons_of_neg (by simp [Event.isGiven]), observe, ih next stays group]
      rfl
    | given answer wellFormed =>
      rw [List.filter_cons_of_pos rfl, observe, observe, List.cons.injEq, Event.InTime]
      by_cases fits : s.Fits more
      · obtain ⟨shows, next⟩ := twin.given stays wellFormed fits
        obtain ⟨same, ip, quit⟩ := iteration_parameters s answer
        rw [ih next (quit.trans stays) (same.trans group), ip,
          iteration_asks twin.ends stays wellFormed, group]
        refine ⟨fun ⟨_, later⟩ asks few => ⟨fits asks few, fun undecided => ?_⟩,
          fun inTime => ⟨shows, fun ⟨asks, few, undecided⟩ => ?_⟩⟩
        · have after := later ⟨asks, few, undecided⟩
          rwa [iteration_count asks few stays wellFormed, group] at after
        · rw [iteration_count asks few stays wellFormed, group]
          exact (inTime asks few).2 undecided
      · simp only [Fits, not_forall] at fits
        obtain ⟨asks, few, many⟩ := fits
        have differs := twin.given_unfit answer stays asks few (Nat.not_le.mp many)
        exact ⟨fun both => absurd both.1 differs, fun inTime => absurd (inTime asks few).1 many⟩

theorem observe_inserted (server : Server) (head : server.pc = .whileNotQuit)
    (stays : server.quitInnerThread = false) (events : List (Event server.serverId)) :
    server.observe events = server.observe (events.filter Event.isGiven) ↔
      (server.iAm = .whoAmI → Event.InTime server.ip server.negotiateCount 0 events) := by
  have twin : Twin 0 server server := .same rfl rfl head head fun _ => rfl
  rw [twin.observe_iff events stays rfl]
  exact ⟨fun inTime asks => inTime ⟨head, asks⟩, fun inTime asks => inTime asks.2⟩

def asking : Server :=
  ⟨⟨1, threeAddresses 0, .whoAmI, .empty, -1, [], false, false⟩,
    { Negotiate.start with pc := .whileNotQuit }, true⟩

def foreignQuestion : Event 1 := .inserted (threeAddresses 1) 2 0 0 (by decide)

def timeout : Event 1 := .given ⟨.null, 0⟩ trivial

theorem observe_inserted_timeout :
    asking.observe [foreignQuestion, timeout] = asking.observe [timeout] :=
  (observe_inserted asking rfl rfl [foreignQuestion, timeout]).mpr fun _ => by
    simp [Event.InTime, foreignQuestion, timeout, asking, Negotiate.start]

theorem observe_inserted_differs :
    asking.observe (List.replicate 16 foreignQuestion ++ [timeout]) ≠ asking.observe [timeout] := by
  decide +kernel

end Server

end Foolject
