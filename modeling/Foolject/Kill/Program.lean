import Foolject.Kill.Ownership

/-! The program from `_tmain` on, call by call.

The keys are copied into an array of a hundred strings, of which the last one stays empty. The messages on the
console are left out.
-/

set_option autoImplicit false

namespace Foolject.Kill.Program

/-! ## The start and the end -/

/-- `sm_EnableTokenPrivilege` once the token has been asked for. -/
def adjust : Option Nat → Proc Bool
  | none => pure false
  | some hToken => do
    let found ← lookupPrivilegeValue
    if found = true then do
      let error ← adjustTokenPrivileges hToken
      pure (decide (error = 0))
    else pure false

/-- The handle of the token stays open. -/
def smEnableTokenPrivilege : Proc Bool := do
  let token ← openProcessToken
  adjust token

def smLoadNTDLLFunctions : Proc Nat := do
  let hNtDll ← loadLibrary
  if hNtDll = 0 then pure 0
  else do
    let address ← getProcAddress hNtDll
    if address = 0 then do
      freeLibrary hNtDll
      pure 0
    else pure hNtDll

def smFreeNTDLLFunctions (hNtDll : Nat) : Proc Unit := if hNtDll = 0 then pure () else freeLibrary hNtDll

/-! ## The search -/

def getProcessCmdLine (pid : Nat) : Proc (List Char) := do
  let (status, pi) ← smGetNtProcessInfo pid
  pure (if status = true then pi.elim [] SmProcessInfo.cmdLine else [])

def snapshotLoop : List (Nat × List Char) → Proc (List ProcessInfo)
  | [] => pure []
  | pe :: rest => do
    let cmdLine ← getProcessCmdLine pe.1
    let snapshot ← snapshotLoop rest
    pure (⟨pe.1, pe.2, cmdLine⟩ :: snapshot)

def createProcessSnapshot : Proc (Option (List ProcessInfo)) := do
  let (hSnapshot, entries) ← createToolhelp32Snapshot
  if hSnapshot = invalidHandleValue then pure none
  else do
    let snapshot ← snapshotLoop entries
    closeHandle hSnapshot
    pure (if snapshot.length > 0 then some snapshot else none)

def killProcessId (pid : Nat) (reason : List Char) : Proc Result := do
  let hProcess ← openProcess .allAccess pid
  if hProcess = 0 then pure ⟨false, "OpenProcess error".toList, some pid⟩
  else do
    let terminated ← terminateProcess hProcess
    closeHandle hProcess
    pure (if terminated = true then ⟨true, reason, some pid⟩ else ⟨false, "TerminateProcess error".toList, some pid⟩)

/-- The loop over the keys. Behind the last string of the array it has no result. -/
def holdsKeys (cmdLine : List Char) : (keys : List (List Char)) → (keycount : Nat) → Option Bool
  | _, 0 => some true
  | [], _ + 1 => none
  | key :: rest, keycount + 1 => if find cmdLine key = none then some false else holdsKeys cmdLine rest keycount

def searchSnapshot (keys : List (List Char)) (keycount : Nat) (reason : List Char) :
    List ProcessInfo → Proc (Option Result)
  | [] => pure (some ⟨false, "not found".toList, none⟩)
  | it :: rest =>
    match holdsKeys it.cmdLine keys keycount with
    | none => pure none
    | some true => do
      let result ← killProcessId it.id reason
      pure (some result)
    | some false => searchSnapshot keys keycount reason rest

def killProcess (keys : List (List Char)) (keycount : Nat) (reason : List Char) : Proc (Option Result) := do
  let snapshot ← createProcessSnapshot
  match snapshot with
  | none => pure (some ⟨false, "snapshot error".toList, none⟩)
  | some snapshot => searchSnapshot keys keycount reason snapshot

/-! ## The program -/

inductive Outcome where
  | notEnabled
  | notLoaded
  /-- There are no arguments. -/
  | idle
  | searched (result : Result)
  /-- It reads behind the array of the keys. -/
  | outside
  deriving DecidableEq

def sizeofKeys : Nat := 100

/-- The array after the loop over the arguments. -/
def copyKeys (args : List (List Char)) : List (List Char) :=
  args.take (sizeofKeys - 1) ++ List.replicate (sizeofKeys - min args.length (sizeofKeys - 1)) []

def search (args : List (List Char)) : Proc Outcome :=
  if args.length > 0 then do
    let result ← killProcess (copyKeys args) args.length []
    pure (result.elim .outside .searched)
  else pure .idle

def proceed (args : List (List Char)) (enabled : Bool) : Proc Outcome :=
  if enabled = false then pure .notEnabled
  else do
    let hNtDll ← smLoadNTDLLFunctions
    if hNtDll = 0 then pure .notLoaded
    else do
      let outcome ← search args
      if outcome = .outside then pure .outside
      else do
        smFreeNTDLLFunctions hNtDll
        pure outcome

def tmain (args : List (List Char)) : Proc Outcome := do
  let enabled ← smEnableTokenPrivilege
  proceed args enabled

/-! ## What it holds -/

section
variable {account : Account}

theorem getProcessCmdLine_keeps (account : Account) (pid : Nat) : Keeps (getProcessCmdLine pid) account := by
  refine Procedure.Ensures.bind (smGetNtProcessInfo_gives account pid).keeps ?_
  rintro _ _ rfl
  exact .pure rfl

theorem snapshotLoop_keeps (entries : List (Nat × List Char)) : Keeps (snapshotLoop entries) account := by
  induction entries with
  | nil => exact .pure rfl
  | cons pe rest ih =>
    refine Procedure.Ensures.bind (getProcessCmdLine_keeps account pe.1) ?_
    rintro _ _ rfl
    refine Procedure.Ensures.bind ih ?_
    rintro _ _ rfl
    exact .pure rfl

theorem createProcessSnapshot_keeps (account : Account) : Keeps createProcessSnapshot account := by
  refine Procedure.Ensures.perform trivial fun (taken : Nat × List (Nat × List Char)) _ => ?_
  obtain ⟨hSnapshot, entries⟩ := taken
  change Leaves _ _ (account.opened hSnapshot)
  dsimp only
  by_cases failed : hSnapshot = invalidHandleValue
  · rw [if_pos failed, Account.opened, if_pos (.inr failed)]
    exact .pure rfl
  · rw [if_neg failed]
    refine Procedure.Ensures.bind (snapshotLoop_keeps entries) ?_
    rintro _ _ rfl
    exact leaves_closeHandle failed (.pure rfl)

theorem killProcessId_keeps (pid : Nat) (reason : List Char) : Keeps (killProcessId pid reason) account := by
  refine leaves_openProcess fun hProcess valid => ?_
  by_cases failed : hProcess = 0
  · rw [if_pos failed, Account.opened, if_pos (.inl failed)]
    exact .pure rfl
  · rw [if_neg failed]
    refine Procedure.Ensures.perform (mem_opened failed valid) fun terminated _ => ?_
    exact leaves_closeHandle valid (.pure rfl)

theorem searchSnapshot_keeps (keys : List (List Char)) (keycount : Nat) (reason : List Char)
    (snapshot : List ProcessInfo) : Keeps (searchSnapshot keys keycount reason snapshot) account := by
  induction snapshot with
  | nil => exact .pure rfl
  | cons it rest ih =>
    unfold searchSnapshot
    cases holdsKeys it.cmdLine keys keycount with
    | none => exact .pure rfl
    | some found =>
      cases found with
      | true =>
        refine Procedure.Ensures.bind (killProcessId_keeps it.id reason) ?_
        rintro _ _ rfl
        exact .pure rfl
      | false => exact ih

theorem search_keeps (args : List (List Char)) : Keeps (search args) account := by
  unfold search
  by_cases given : args.length > 0
  · rw [if_pos given]
    have killed : Keeps (killProcess (copyKeys args) args.length []) account := by
      refine Procedure.Ensures.bind (createProcessSnapshot_keeps account) ?_
      rintro snapshot _ rfl
      cases snapshot with
      | none => exact .pure rfl
      | some snapshot => exact searchSnapshot_keeps _ _ _ snapshot
    refine Procedure.Ensures.bind killed ?_
    rintro _ _ rfl
    exact .pure rfl
  · rw [if_neg given]
    exact .pure rfl

theorem smLoadNTDLLFunctions_leaves (account : Account) : Leaves
    (fun hNtDll after => after = if hNtDll = 0 then account else account.withModule hNtDll)
    smLoadNTDLLFunctions account := by
  refine Procedure.Ensures.perform trivial fun (hNtDll : Nat) _ => ?_
  change Leaves _ _ (if hNtDll = 0 then account else account.withModule hNtDll)
  by_cases missing : hNtDll = 0
  · rw [if_pos missing, if_pos missing]
    exact .pure rfl
  · rw [if_neg missing, if_neg missing]
    refine Procedure.Ensures.perform List.mem_cons_self fun (address : Nat) _ => ?_
    by_cases unknown : address = 0
    · dsimp only
      rw [if_pos unknown]
      refine Procedure.Ensures.perform List.mem_cons_self fun _ _ => ?_
      change { account with modules := (hNtDll :: account.modules).erase hNtDll } = account
      rw [List.erase_cons_head]
    · dsimp only
      rw [if_neg unknown]
      change account.withModule hNtDll = if hNtDll = 0 then account else account.withModule hNtDll
      rw [if_neg missing]

/-- What was held before is held again, but for the library where the search is lost behind the keys. -/
structure GivenBack (account : Account) (outcome : Outcome) (after : Account) : Prop where
  handles : after.handles = account.handles
  blocks : after.blocks = account.blocks
  modules : outcome ≠ .outside → after.modules = account.modules

theorem proceed_leaves (account : Account) (args : List (List Char)) (enabled : Bool) :
    Leaves (GivenBack account) (proceed args enabled) account := by
  unfold proceed
  by_cases refused : enabled = false
  · rw [if_pos refused]
    exact .pure ⟨rfl, rfl, fun _ => rfl⟩
  rw [if_neg refused]
  refine Procedure.Ensures.bind (smLoadNTDLLFunctions_leaves account) ?_
  rintro hNtDll _ rfl
  by_cases missing : hNtDll = 0
  · rw [if_pos missing, if_pos missing]
    exact .pure ⟨rfl, rfl, fun _ => rfl⟩
  rw [if_neg missing, if_neg missing]
  refine Procedure.Ensures.bind (search_keeps args) ?_
  rintro outcome _ rfl
  by_cases lost : outcome = .outside
  · rw [if_pos lost]
    exact .pure ⟨rfl, rfl, fun inside => absurd rfl inside⟩
  · rw [if_neg lost, smFreeNTDLLFunctions, if_neg missing]
    refine Procedure.Ensures.perform List.mem_cons_self fun _ _ => ?_
    refine ⟨rfl, rfl, fun _ => ?_⟩
    change (hNtDll :: account.modules).erase hNtDll = account.modules
    rw [List.erase_cons_head]

theorem adjust_keeps (token : Option Nat) (honest : Account.Honest .openProcessToken token) :
    Keeps (adjust token) (token.elim account account.opened) := by
  cases token with
  | none => exact .pure rfl
  | some hToken =>
    obtain ⟨some, valid⟩ := honest hToken rfl
    refine Procedure.Ensures.perform trivial fun (found : Bool) _ => ?_
    cases found with
    | true => exact Procedure.Ensures.perform (mem_opened some valid) fun error _ => .pure rfl
    | false => exact .pure rfl

end

def Account.empty : Account := ⟨[], [], []⟩

def exampleAnswers : (c : calls.Call) → calls.Reply c
  | .openProcessToken => some 4
  | .lookupPrivilegeValue => true
  | .adjustTokenPrivileges _ => (0 : Nat)
  | .loadLibrary => (8 : Nat)
  | .getProcAddress _ => (9 : Nat)
  | .freeLibrary _ => ()
  | .createToolhelp32Snapshot => (12, [(100, "kill.exe".toList), (200, "notepad.exe".toList)])
  | .openProcess _ pid => if pid = invalidHandleValue then (0 : Nat) else pid
  | .terminateProcess _ => true
  | .closeHandle _ => ()
  | .heapAlloc _ => (1000 : Nat)
  | .heapFree _ => true
  | .ntQueryInformationProcess hProcess _ _ => ⟨if hProcess = 0 then -1 else 0, sizeofBasic, ⟨0, 16, 1, 8, 0⟩⟩
  | .readPeb _ _ => some ⟨0, 32, 1⟩
  | .readParameters _ _ => some ⟨⟨0, 0⟩, ⟨2, 48⟩⟩
  | .readText hProcess _ _ size => if 2 ≤ size then some [if hProcess = 200 then 97 else 98] else none
  | .wideCharToMultiByte _ wide => wide.map fun c => Char.ofNat c.toNat
  | .expandEnvironmentStrings => []

theorem honest_exampleAnswers (account : Account) (c : calls.Call) : ownership.honest account c (exampleAnswers c) := by
  cases c with
  | openProcessToken =>
    rintro _ ⟨⟩
    decide
  | openProcess access pid =>
    change (if pid = invalidHandleValue then 0 else pid) ≠ invalidHandleValue
    split
    · decide
    · assumption
  | ntQueryInformationProcess hProcess block size =>
    intro none
    change (if hProcess = 0 then (-1 : Int) else 0) < 0
    rw [if_pos none]
    decide
  | readText hProcess address block size =>
    change ∀ wide ∈ if 2 ≤ size then some [if hProcess = 200 then (97 : UInt16) else 98] else none,
      2 * wide.length ≤ size
    split
    · rintro _ ⟨⟩
      assumption
    · nofun
  | wideCharToMultiByte block wide =>
    change (wide.map fun c => Char.ofNat c.toNat).length ≤ 2 * wide.length
    rw [List.length_map]
    omega
  | expandEnvironmentStrings => exact Nat.zero_lt_succ _
  | _ => trivial

end Foolject.Kill.Program
