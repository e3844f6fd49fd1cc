import Foolject.Kill.Program

/-! The program against the search that it makes, where Windows answers a call in the same way whenever it is made. -/

set_option autoImplicit false

namespace Foolject.Kill.Program

abbrev Answers := (c : calls.Call) → calls.Reply c

def windowsOf (answer : Answers) : Windows where
  toolhelp :=
    let taken := createToolhelp32Snapshot.eval answer
    if taken.1 = invalidHandleValue then none else some taken.2
  ntProcessInfo pid :=
    let told := (smGetNtProcessInfo pid).eval answer
    if told.1 = true then told.2.map SmProcessInfo.cmdLine else none
  openProcess pid := decide ((openProcess .allAccess pid).eval answer ≠ 0)
  terminateProcess pid := (terminateProcess ((openProcess .allAccess pid).eval answer)).eval answer

variable {answer : Answers}

theorem eval_getProcessCmdLine (pid : Nat) :
    (getProcessCmdLine pid).eval answer = Kill.getProcessCmdLine (windowsOf answer) pid := by
  unfold getProcessCmdLine Kill.getProcessCmdLine windowsOf
  rw [Procedure.eval_bind]
  dsimp only
  generalize (smGetNtProcessInfo pid).eval answer = told
  obtain ⟨status, info⟩ := told
  cases status with
  | false => rfl
  | true => cases info <;> rfl

theorem eval_snapshotLoop (entries : List (Nat × List Char)) : (snapshotLoop entries).eval answer =
    entries.map fun pe => ⟨pe.1, pe.2, Kill.getProcessCmdLine (windowsOf answer) pe.1⟩ := by
  induction entries with
  | nil => rfl
  | cons pe rest ih =>
    rw [snapshotLoop, Procedure.eval_bind, Procedure.eval_bind, ih, eval_getProcessCmdLine]
    rfl

theorem eval_createProcessSnapshot :
    createProcessSnapshot.eval answer = Kill.createProcessSnapshot (windowsOf answer) := by
  have toolhelp : (windowsOf answer).toolhelp =
      if (createToolhelp32Snapshot.eval answer).1 = invalidHandleValue then none
      else some (createToolhelp32Snapshot.eval answer).2 := rfl
  unfold createProcessSnapshot Kill.createProcessSnapshot
  rw [Procedure.eval_bind, toolhelp]
  generalize createToolhelp32Snapshot.eval answer = taken
  obtain ⟨hSnapshot, entries⟩ := taken
  dsimp only
  by_cases failed : hSnapshot = invalidHandleValue
  · rw [if_pos failed, if_pos failed]
    rfl
  · rw [if_neg failed, if_neg failed, Procedure.eval_bind, eval_snapshotLoop, Procedure.eval_bind, Procedure.eval_pure,
      List.length_map]
    rfl

theorem eval_killProcessId (pid : Nat) (reason : List Char) :
    (killProcessId pid reason).eval answer = Kill.killProcessId (windowsOf answer) pid reason := by
  have opens : (windowsOf answer).openProcess pid = decide ((openProcess .allAccess pid).eval answer ≠ 0) := rfl
  have terminates : (windowsOf answer).terminateProcess pid =
    (terminateProcess ((openProcess .allAccess pid).eval answer)).eval answer := rfl
  unfold killProcessId Kill.killProcessId
  rw [Procedure.eval_bind, opens, terminates]
  by_cases failed : (openProcess .allAccess pid).eval answer = 0
  · rw [if_pos failed, if_pos (decide_eq_false (not_not.mpr failed))]
    rfl
  · rw [if_neg failed, decide_eq_true failed, if_neg (by decide), Procedure.eval_bind, Procedure.eval_bind,
      Procedure.eval_pure]
    cases (terminateProcess ((openProcess .allAccess pid).eval answer)).eval answer <;> rfl

/-! ## The keys -/

variable {keys : List (List Char)} {keycount : Nat} {reason : List Char} {snapshot : List ProcessInfo}

theorem holdsKeys_eq (cmdLine : List Char) (keys : List (List Char)) (keycount : Nat) :
    holdsKeys cmdLine keys keycount = if keycount ≤ keys.length then some (Kill.holdsKeys cmdLine (keys.take keycount))
      else if Kill.holdsKeys cmdLine keys = true then none else some false := by
  induction keys generalizing keycount with
  | nil =>
    cases keycount with
    | zero => rfl
    | succ keycount => rfl
  | cons key rest ih =>
    cases keycount with
    | zero => rfl
    | succ keycount =>
      rw [holdsKeys, ih, List.length_cons, List.take_succ_cons, Kill.holdsKeys, Kill.holdsKeys]
      by_cases missing : find cmdLine key = none
      · rw [if_pos missing, if_pos missing, if_pos missing, if_neg Bool.false_ne_true, ite_self]
      · rw [if_neg missing, if_neg missing, if_neg missing]
        simp only [Nat.add_le_add_iff_right]

theorem eval_searchSnapshot (inside : keycount ≤ keys.length) :
    (searchSnapshot keys keycount reason snapshot).eval answer =
      some (Kill.searchSnapshot (windowsOf answer) (keys.take keycount) reason snapshot) := by
  induction snapshot with
  | nil => rfl
  | cons it rest ih =>
    rw [searchSnapshot, Kill.searchSnapshot, holdsKeys_eq, if_pos inside]
    cases Kill.holdsKeys it.cmdLine (keys.take keycount) with
    | true =>
      dsimp only
      rw [Procedure.eval_bind, eval_killProcessId]
      rfl
    | false => exact ih

theorem eval_searchSnapshot_outside (outside : keys.length < keycount) :
    (searchSnapshot keys keycount reason snapshot).eval answer =
      if ∃ process ∈ snapshot, Named keys process then none else some ⟨false, "not found".toList, none⟩ := by
  -- A process that has all the keys of the array is never found.
  induction snapshot with
  | nil => rfl
  | cons it rest ih =>
    rw [searchSnapshot, holdsKeys_eq, if_neg (Nat.not_le.mpr outside)]
    by_cases named : Named keys it
    · rw [if_pos ((holdsKeys_iff keys it).mpr named), if_pos ⟨it, List.mem_cons_self, named⟩]
      rfl
    · have later : (∃ process ∈ it :: rest, Named keys process) ↔ ∃ process ∈ rest, Named keys process := by
        rw [List.exists_mem_cons_iff]
        exact or_iff_right named
      rw [if_neg (mt (holdsKeys_iff keys it).mp named)]
      simp only [later]
      exact ih

theorem searchSnapshot_congr {windows : Windows} {others : List (List Char)}
    (same : ∀ process, Named keys process ↔ Named others process) (snapshot : List ProcessInfo) :
    Kill.searchSnapshot windows keys reason snapshot = Kill.searchSnapshot windows others reason snapshot := by
  induction snapshot with
  | nil => rfl
  | cons it rest ih =>
    have both : Kill.holdsKeys it.cmdLine keys = true ↔ Kill.holdsKeys it.cmdLine others = true := by
      rw [holdsKeys_iff, holdsKeys_iff, same]
    rw [Kill.searchSnapshot, Kill.searchSnapshot, ih]
    simp only [both]

theorem searchSnapshot_none {windows : Windows} (none : ∀ process ∈ snapshot, ¬ Named keys process) :
    Kill.searchSnapshot windows keys reason snapshot = ⟨false, "not found".toList, .none⟩ := by
  induction snapshot with
  | nil => rfl
  | cons it rest ih =>
    obtain ⟨here, later⟩ := List.forall_mem_cons.mp none
    rw [Kill.searchSnapshot, if_neg (mt (holdsKeys_iff keys it).mp here)]
    exact ih later

/-! ## The program -/

theorem named_append_empty (keys : List (List Char)) (count : Nat) (process : ProcessInfo) :
    Named (keys ++ List.replicate count []) process ↔ Named keys process := by
  unfold Named
  rw [List.forall_mem_append]
  refine and_iff_left fun key member => ?_
  rw [List.eq_of_mem_replicate member]
  exact List.nil_infix

theorem length_copyKeys (args : List (List Char)) : (copyKeys args).length = sizeofKeys := by
  unfold copyKeys sizeofKeys
  rw [List.length_append, List.length_take, List.length_replicate]
  omega

theorem named_copyKeys (args : List (List Char)) (process : ProcessInfo) :
    Named (copyKeys args) process ↔ Named (args.take (sizeofKeys - 1)) process := named_append_empty _ _ process

theorem named_take_copyKeys (args : List (List Char)) (process : ProcessInfo) :
    Named ((copyKeys args).take args.length) process ↔ Named (args.take (sizeofKeys - 1)) process := by
  have front : (args.take (sizeofKeys - 1)).take args.length = args.take (sizeofKeys - 1) :=
    List.take_of_length_le (List.length_take_le' _ _)
  unfold copyKeys
  rw [List.take_append, front, List.take_replicate]
  exact named_append_empty _ _ process

def Overruns (windows : Windows) (args : List (List Char)) : Prop :=
  sizeofKeys < args.length ∧ ∃ snapshot, Kill.createProcessSnapshot windows = some snapshot ∧
    ∃ process ∈ snapshot, Named (args.take (sizeofKeys - 1)) process

theorem eval_killProcess (args : List (List Char)) :
    ((killProcess (copyKeys args) args.length reason).eval answer = none ↔ Overruns (windowsOf answer) args) ∧
    (¬ Overruns (windowsOf answer) args → (killProcess (copyKeys args) args.length reason).eval answer =
      some (Kill.killProcess (windowsOf answer) (args.take (sizeofKeys - 1)) reason)) := by
  unfold killProcess Kill.killProcess Overruns
  rw [Procedure.eval_bind, eval_createProcessSnapshot]
  cases Kill.createProcessSnapshot (windowsOf answer) with
  | none =>
    refine ⟨iff_of_false (Option.some_ne_none _) ?_, fun _ => rfl⟩
    rintro ⟨-, snapshot, taken, -⟩
    cases taken
  | some snapshot =>
    dsimp only
    have one : (∃ taken, some snapshot = some taken ∧ ∃ process ∈ taken, Named (args.take (sizeofKeys - 1)) process) ↔
        ∃ process ∈ snapshot, Named (args.take (sizeofKeys - 1)) process := by
      constructor
      · rintro ⟨taken, same, found⟩
        cases same
        exact found
      · exact fun found => ⟨snapshot, rfl, found⟩
    rw [one]
    by_cases many : sizeofKeys < args.length
    · rw [eval_searchSnapshot_outside (by rw [length_copyKeys]; exact many)]
      simp only [named_copyKeys, many, true_and]
      by_cases found : ∃ process ∈ snapshot, Named (args.take (sizeofKeys - 1)) process
      · rw [if_pos found]
        exact ⟨iff_of_true rfl found, fun missing => absurd found missing⟩
      · rw [if_neg found]
        refine ⟨iff_of_false (Option.some_ne_none _) found, fun _ => ?_⟩
        rw [searchSnapshot_none fun process member named => found ⟨process, member, named⟩]
    · rw [eval_searchSnapshot (by rw [length_copyKeys]; exact Nat.not_lt.mp many)]
      refine ⟨iff_of_false (Option.some_ne_none _) fun both => many both.1, fun _ => ?_⟩
      rw [searchSnapshot_congr (named_take_copyKeys args)]

/-- With the privilege and the library, the program reads behind its keys exactly if it has more than a hundred
arguments and finds a process with the first 99; and otherwise it does what the search for these does. -/
theorem tmain_searches {args : List (List Char)} (enabled : smEnableTokenPrivilege.eval answer = true)
    (loaded : smLoadNTDLLFunctions.eval answer ≠ 0) (given : args ≠ []) :
    ((tmain args).eval answer = .outside ↔ Overruns (windowsOf answer) args) ∧
    (¬ Overruns (windowsOf answer) args → (tmain args).eval answer =
      .searched (Kill.killProcess (windowsOf answer) (args.take (sizeofKeys - 1)) [])) := by
  have some_ : args.length > 0 := List.length_pos_iff.mpr given
  obtain ⟨lost, finds⟩ := @eval_killProcess answer [] args
  have outcome : (tmain args).eval answer =
      ((killProcess (copyKeys args) args.length []).eval answer).elim .outside .searched := by
    unfold tmain proceed search
    rw [Procedure.eval_bind, enabled, if_neg (by decide), Procedure.eval_bind, if_neg loaded, if_pos some_,
      Procedure.eval_bind, Procedure.eval_bind, Procedure.eval_pure]
    cases (killProcess (copyKeys args) args.length []).eval answer with
    | none => rfl
    | some result =>
      have inside : Outcome.searched result ≠ .outside := nofun
      change Procedure.eval answer (if Outcome.searched result = .outside then _ else _) = Outcome.searched result
      rw [if_neg inside, Procedure.eval_bind]
      rfl
  rw [outcome]
  by_cases overruns : Overruns (windowsOf answer) args
  · rw [lost.mpr overruns]
    exact ⟨iff_of_true rfl overruns, fun inside => absurd overruns inside⟩
  · rw [finds overruns]
    exact ⟨iff_of_false nofun overruns, fun _ => rfl⟩

theorem tmain_searches_example :
    (tmain ["a".toList]).eval exampleAnswers = .searched ⟨true, [], some 200⟩ ∧
    (tmain (List.replicate 101 "a".toList)).eval exampleAnswers = .outside := by
  -- One argument, and a hundred and one.
  have enabled : smEnableTokenPrivilege.eval exampleAnswers = true := rfl
  have loaded : smLoadNTDLLFunctions.eval exampleAnswers ≠ 0 := by decide
  have found : Kill.createProcessSnapshot (windowsOf exampleAnswers) =
      some [⟨100, "kill.exe".toList, "b".toList⟩, ⟨200, "notepad.exe".toList, "a".toList⟩] := by decide +kernel
  constructor
  · refine ((tmain_searches enabled loaded (List.cons_ne_nil _ _)).2 fun overruns => ?_).trans (by decide +kernel)
    exact absurd overruns.1 (by decide)
  · refine (tmain_searches enabled loaded (List.cons_ne_nil _ _)).1.mpr ⟨by decide, _, found, ?_⟩
    refine ⟨_, List.mem_cons_of_mem _ List.mem_cons_self, fun key member => ?_⟩
    have copied : key ∈ List.replicate 101 "a".toList := List.mem_of_mem_take member
    rw [List.eq_of_mem_replicate copied]

end Foolject.Kill.Program
