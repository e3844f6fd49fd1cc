import Mathlib.Data.List.Infix

/-! Killing the first process whose command line contains all keys.

The snapshot lists the searching process too, and its own command line contains its keys.
-/

set_option autoImplicit false

namespace Foolject.Kill

structure ProcessInfo where
  id : Nat
  name : List Char
  cmdLine : List Char
  deriving DecidableEq, Repr

/-- What Windows answers. -/
structure Windows where
  /-- The identifiers and the executables in the order of the snapshot, if one can be taken. -/
  toolhelp : Option (List (Nat × List Char))
  ntProcessInfo : Nat → Option (List Char)
  openProcess : Nat → Bool
  terminateProcess : Nat → Bool

structure Result where
  returned : Bool
  reason : List Char
  attempted : Option Nat
  deriving DecidableEq, Repr

def getProcessCmdLine (windows : Windows) (pid : Nat) : List Char := (windows.ntProcessInfo pid).getD []

def createProcessSnapshot (windows : Windows) : Option (List ProcessInfo) :=
  windows.toolhelp.bind fun entries =>
    if entries.length > 0 then
      some (entries.map fun pe => ⟨pe.1, pe.2, getProcessCmdLine windows pe.1⟩)
    else none

def killProcessId (windows : Windows) (pid : Nat) (reason : List Char) : Result :=
  if windows.openProcess pid = false then ⟨false, "OpenProcess error".toList, some pid⟩
  else if windows.terminateProcess pid = false then ⟨false, "TerminateProcess error".toList, some pid⟩
  else ⟨true, reason, some pid⟩

/-- `std::string::find`, with no position for `npos`. -/
def find : (text key : List Char) → Option Nat
  | [], key => if key.isPrefixOf [] = true then some 0 else none
  | c :: text, key =>
    if key.isPrefixOf (c :: text) = true then some 0 else (find text key).map (· + 1)

def holdsKeys (cmdLine : List Char) : (keys : List (List Char)) → Bool
  | [] => true
  | key :: rest => if find cmdLine key = none then false else holdsKeys cmdLine rest

def searchSnapshot (windows : Windows) (keys : List (List Char)) (reason : List Char) : List ProcessInfo → Result
  | [] => ⟨false, "not found".toList, none⟩
  | it :: rest =>
    if holdsKeys it.cmdLine keys = true then killProcessId windows it.id reason
    else searchSnapshot windows keys reason rest

def killProcess (windows : Windows) (keys : List (List Char)) (reason : List Char) : Result :=
  match createProcessSnapshot windows with
  | none => ⟨false, "snapshot error".toList, none⟩
  | some snapshot => searchSnapshot windows keys reason snapshot

/-! ## What the search finds -/

theorem find_isSome_iff (text key : List Char) : (find text key).isSome = true ↔ key <:+: text := by
  induction text with
  | nil =>
    rw [List.infix_nil]
    cases key with
    | nil => exact iff_of_true rfl rfl
    | cons c key => exact iff_of_false Bool.false_ne_true (List.cons_ne_nil c key)
  | cons c text ih =>
    rw [find, List.infix_cons_iff, ← List.isPrefixOf_iff_prefix]
    by_cases here : key.isPrefixOf (c :: text) = true
    · rw [if_pos here]
      exact iff_of_true rfl (Or.inl here)
    · rw [if_neg here, Option.isSome_map, ih]
      exact ⟨Or.inr, fun either => either.resolve_left here⟩

def Named (keys : List (List Char)) (process : ProcessInfo) : Prop := ∀ key ∈ keys, key <:+: process.cmdLine

instance (keys : List (List Char)) (process : ProcessInfo) : Decidable (Named keys process) :=
  inferInstanceAs (Decidable (∀ key ∈ keys, key <:+: process.cmdLine))

theorem holdsKeys_iff (keys : List (List Char)) (process : ProcessInfo) :
    holdsKeys process.cmdLine keys = true ↔ Named keys process := by
  unfold Named
  induction keys with
  | nil => exact iff_of_true rfl fun key inside => by cases inside
  | cons key rest ih =>
    rw [holdsKeys, List.forall_mem_cons, ← ih, ← find_isSome_iff, Option.isSome_iff_ne_none]
    by_cases missing : find process.cmdLine key = none
    · rw [if_pos missing]
      exact iff_of_false Bool.false_ne_true fun both => both.1 missing
    · rw [if_neg missing]
      exact (and_iff_right missing).symm

variable {windows : Windows} {keys : List (List Char)} {reason : List Char} {snapshot : List ProcessInfo}

theorem killProcessId_attempts (pid : Nat) : (killProcessId windows pid reason).attempted = some pid := by
  unfold killProcessId
  split
  · rfl
  · split <;> rfl

/-- The process that is attempted is the first one that has the keys. -/
theorem searchSnapshot_first {before after : List ProcessInfo} {process : ProcessInfo} (named : Named keys process)
    (first : ∀ other ∈ before, ¬ Named keys other) :
    searchSnapshot windows keys reason (before ++ process :: after) = killProcessId windows process.id reason := by
  induction before with
  | nil => exact if_pos ((holdsKeys_iff keys process).mpr named)
  | cons other before ih =>
    have passed : ¬ holdsKeys other.cmdLine keys = true :=
      mt (holdsKeys_iff keys other).mp (first other List.mem_cons_self)
    rw [List.cons_append, searchSnapshot, if_neg passed]
    exact ih fun other inside => first other (List.mem_cons_of_mem _ inside)

/-! ## The process that runs the search -/

/-- The first process of the snapshot, other than the searching one, that has the keys. -/
def FirstOther (own : Nat) (keys : List (List Char)) (snapshot : List ProcessInfo) (process : ProcessInfo) : Prop :=
  ∃ before after, snapshot = before ++ process :: after ∧ process.id ≠ own ∧ Named keys process ∧
    ∀ other ∈ before, other.id ≠ own → ¬ Named keys other

structure SparesItself (windows : Windows) (own : Nat) (keys : List (List Char)) (reason : List Char)
    (snapshot : List ProcessInfo) : Prop where
  hits : ∀ process, FirstOther own keys snapshot process →
    killProcess windows keys reason = killProcessId windows process.id reason
  misses : (∀ process ∈ snapshot, process.id ≠ own → ¬ Named keys process) →
    killProcess windows keys reason = ⟨false, "not found".toList, none⟩

def OtherBeforeOwn (own : Nat) (keys : List (List Char)) (snapshot : List ProcessInfo) : Prop :=
  ∃ before process after, snapshot = before ++ process :: after ∧ process.id ≠ own ∧ Named keys process ∧
    ∀ other ∈ before, other.id ≠ own

theorem exists_first {p : ProcessInfo → Prop} (some : ∃ process ∈ snapshot, p process) :
    ∃ before process after, snapshot = before ++ process :: after ∧ p process ∧ ∀ other ∈ before, ¬ p other := by
  induction snapshot with
  | nil =>
    obtain ⟨process, inside, -⟩ := some
    cases inside
  | cons head rest ih =>
    by_cases holds : p head
    · exact ⟨[], head, rest, rfl, holds, fun other inside => by cases inside⟩
    · obtain ⟨process, inside, found⟩ := some
      have later : process ∈ rest := (List.mem_cons.mp inside).resolve_left fun same => holds (same ▸ found)
      obtain ⟨before, first, after, split, here, none⟩ := ih ⟨process, later, found⟩
      refine ⟨head :: before, first, after, congrArg (head :: ·) split, here, ?_⟩
      intro other inside
      rcases List.mem_cons.mp inside with rfl | early
      · exact holds
      · exact none other early

theorem FirstOther.before_unnamed {own : Nat} {before after : List ProcessInfo} {process : ProcessInfo}
    (split : snapshot = before ++ process :: after)
    (first : ∀ other ∈ before, other.id ≠ own → ¬ Named keys other)
    (earlier : OtherBeforeOwn own keys snapshot) : ∀ other ∈ before, ¬ Named keys other := by
  obtain ⟨early, target, late, splitEarly, different, named, clear⟩ := earlier
  intro other inside
  apply first other inside
  rcases List.append_eq_append_iff.mp (split.symm.trans splitEarly) with ⟨gap, longer, -⟩ | ⟨gap, longer, rest⟩
  · apply clear
    rw [longer]
    exact List.mem_append_left gap inside
  · cases gap with
    | nil =>
      rw [List.append_nil] at longer
      exact clear other (longer ▸ inside)
    | cons head gap =>
      -- The target would stand before the first other process that has the keys.
      have same : target = head := (List.cons.inj rest).1
      have member : target ∈ before := by
        rw [longer, same]
        exact List.mem_append_right early List.mem_cons_self
      exact absurd named (first target member different)

/-- A search that spares the process that runs it does not attempt to kill that process. -/
theorem SparesItself.attempted_ne {own : Nat} (spares : SparesItself windows own keys reason snapshot) :
    (killProcess windows keys reason).attempted ≠ some own := by
  intro attempted
  by_cases others : ∃ process ∈ snapshot, process.id ≠ own ∧ Named keys process
  · obtain ⟨early, target, late, split, ⟨different, named⟩, none⟩ := exists_first others
    have hit := spares.hits target ⟨early, late, split, different, named,
      fun other inside notOwn has => none other inside ⟨notOwn, has⟩⟩
    rw [hit, killProcessId_attempts] at attempted
    exact different (Option.some.inj attempted)
  · have missed := spares.misses fun process inside different has => others ⟨process, inside, different, has⟩
    rw [missed] at attempted
    cases attempted

/-- The search spares the process that runs it exactly if another one is found first. -/
theorem killProcess_spares_iff {own : Nat} (taken : createProcessSnapshot windows = some snapshot)
    (running : ∃ me ∈ snapshot, me.id = own) (searched : ∀ me ∈ snapshot, me.id = own → Named keys me) :
    SparesItself windows own keys reason snapshot ↔ OtherBeforeOwn own keys snapshot := by
  have search : killProcess windows keys reason = searchSnapshot windows keys reason snapshot := by
    unfold killProcess
    rw [taken]
  constructor
  · intro spares
    -- The running process has the keys, so the search ends at some process, and that is another one.
    obtain ⟨me, present, mine⟩ := running
    obtain ⟨before, first, after, split, named, clear⟩ := exists_first ⟨me, present, searched me present mine⟩
    have inSnapshot : ∀ other ∈ before, other ∈ snapshot := by
      intro other inside
      rw [split]
      exact List.mem_append_left _ inside
    refine ⟨before, first, after, split, ?_, named, fun other inside same =>
      clear other inside (searched other (inSnapshot other inside) same)⟩
    intro itself
    apply spares.attempted_ne
    rw [search, split, searchSnapshot_first named clear, killProcessId_attempts, itself]
  · intro earlier
    constructor
    · rintro process ⟨before, after, split, different, named, first⟩
      rw [search, split]
      exact searchSnapshot_first named (FirstOther.before_unnamed split first earlier)
    · intro never
      obtain ⟨before, process, after, split, different, named, -⟩ := earlier
      refine absurd named (never process ?_ different)
      rw [split]
      exact List.mem_append_right before List.mem_cons_self

theorem killProcess_spares_iff_editor_first : ∃ (windows : Windows) (snapshot : List ProcessInfo),
    createProcessSnapshot windows = some snapshot ∧ (∃ me ∈ snapshot, me.id = 8) ∧
      (∀ me ∈ snapshot, me.id = 8 → Named ["a.txt".toList] me) ∧
      (SparesItself windows 8 ["a.txt".toList] [] snapshot ↔ OtherBeforeOwn 8 ["a.txt".toList] snapshot) := by
  let windows : Windows := {
    toolhelp := some [(4, "notepad.exe".toList), (8, "kill.exe".toList)]
    ntProcessInfo := fun pid => some (if pid = 4 then "notepad a.txt".toList else "kill a.txt".toList)
    openProcess := fun _ => true
    terminateProcess := fun _ => true }
  let snapshot : List ProcessInfo := [⟨4, "notepad.exe".toList, "notepad a.txt".toList⟩,
    ⟨8, "kill.exe".toList, "kill a.txt".toList⟩]
  have taken : createProcessSnapshot windows = some snapshot := by decide
  have running : ∃ me ∈ snapshot, me.id = 8 := by decide
  have searched : ∀ me ∈ snapshot, me.id = 8 → Named ["a.txt".toList] me := by decide
  exact ⟨windows, snapshot, taken, running, searched, killProcess_spares_iff taken running searched⟩

theorem killProcess_kills_itself : ∃ (windows : Windows) (snapshot : List ProcessInfo),
    createProcessSnapshot windows = some snapshot ∧
      snapshot = [⟨8, "kill.exe".toList, "kill a.txt".toList⟩, ⟨9, "notepad.exe".toList, "notepad a.txt".toList⟩] ∧
      (∀ me ∈ snapshot, me.id = 8 → Named ["a.txt".toList] me) ∧
      killProcess windows ["a.txt".toList] [] = ⟨true, [], some 8⟩ ∧
      ¬ SparesItself windows 8 ["a.txt".toList] [] snapshot := by
  -- The program kills itself although the process that is meant comes next.
  let windows : Windows := {
    toolhelp := some [(8, "kill.exe".toList), (9, "notepad.exe".toList)]
    ntProcessInfo := fun pid => some (if pid = 8 then "kill a.txt".toList else "notepad a.txt".toList)
    openProcess := fun _ => true
    terminateProcess := fun _ => true }
  have taken : createProcessSnapshot windows =
      some [⟨8, "kill.exe".toList, "kill a.txt".toList⟩, ⟨9, "notepad.exe".toList, "notepad a.txt".toList⟩] := by decide
  have killed : killProcess windows ["a.txt".toList] [] = ⟨true, [], some 8⟩ := by decide
  refine ⟨windows, _, taken, rfl, by decide, killed, ?_⟩
  intro spares
  have other : FirstOther 8 ["a.txt".toList]
      [⟨8, "kill.exe".toList, "kill a.txt".toList⟩, ⟨9, "notepad.exe".toList, "notepad a.txt".toList⟩]
      ⟨9, "notepad.exe".toList, "notepad a.txt".toList⟩ := by
    refine ⟨[⟨8, "kill.exe".toList, "kill a.txt".toList⟩], [], rfl, by decide, by decide, ?_⟩
    intro process inside different
    rw [List.mem_singleton.mp inside] at different
    exact absurd rfl different
  have hit := congrArg Result.attempted (spares.hits _ other)
  rw [killed, killProcessId_attempts] at hit
  exact absurd hit (by decide)

end Foolject.Kill
