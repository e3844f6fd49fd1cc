import Foolject.Kill.ProcessInfo

/-! What the search holds of Windows: handles, blocks of memory, and modules.

A handle of zero is none, and neither is `INVALID_HANDLE_VALUE`.
-/

set_option autoImplicit false

namespace Foolject.Kill.Program

structure Account where
  handles : List Nat
  /-- With their sizes. -/
  blocks : List (Nat × Nat)
  modules : List Nat
  deriving DecidableEq

namespace Account

def withBlock (account : Account) (block size : Nat) : Account :=
  { account with blocks := (block, size) :: account.blocks }

def withModule (account : Account) (hNtDll : Nat) : Account :=
  { account with modules := hNtDll :: account.modules }

def opened (account : Account) (handle : Nat) : Account :=
  if handle = 0 ∨ handle = invalidHandleValue then account
  else { account with handles := handle :: account.handles }

/-- To close zero does nothing. -/
def Allows (account : Account) : Call → Prop
  | .adjustTokenPrivileges hToken => hToken ∈ account.handles
  | .getProcAddress hNtDll => hNtDll ∈ account.modules
  | .freeLibrary hNtDll => hNtDll ∈ account.modules
  | .terminateProcess hProcess => hProcess ∈ account.handles
  | .closeHandle handle => handle ∈ account.handles ∨ handle = 0
  | .heapFree block => ∃ size, (block, size) ∈ account.blocks
  | .ntQueryInformationProcess hProcess block size =>
    (hProcess ∈ account.handles ∨ hProcess = 0) ∧ (block, size) ∈ account.blocks
  | .readPeb hProcess _ => hProcess ∈ account.handles
  | .readParameters hProcess _ => hProcess ∈ account.handles
  | .readText hProcess _ block size => hProcess ∈ account.handles ∧ (block, size) ∈ account.blocks
  | .wideCharToMultiByte block wide => ∃ size, (block, size) ∈ account.blocks ∧ 2 * wide.length ≤ size
  | _ => True

/-- `OpenProcess` fails with zero, nothing can be queried without a handle, and a character is at most two bytes. -/
def Honest : (c : Call) → c.Reply → Prop
  | .openProcessToken, (token : Option Nat) => ∀ hToken ∈ token, hToken ≠ 0 ∧ hToken ≠ invalidHandleValue
  | .openProcess _ _, (hProcess : Nat) => hProcess ≠ invalidHandleValue
  | .ntQueryInformationProcess hProcess _ _, (query : Query) => hProcess = 0 → query.status < 0
  | .readText _ _ _ size, (read : Option (List UInt16)) => ∀ wide ∈ read, 2 * wide.length ≤ size
  | .wideCharToMultiByte _ wide, (text : List Char) => text.length ≤ 2 * wide.length
  | .expandEnvironmentStrings, (path : List Char) => path.length < maxUnicodePath
  | _, _ => True

def after (account : Account) : (c : Call) → c.Reply → Account
  | .openProcessToken, (token : Option Nat) => token.elim account account.opened
  | .loadLibrary, (hNtDll : Nat) => if hNtDll = 0 then account else account.withModule hNtDll
  | .freeLibrary hNtDll, _ => { account with modules := account.modules.erase hNtDll }
  | .createToolhelp32Snapshot, (snapshot : Nat × List (Nat × List Char)) => account.opened snapshot.1
  | .openProcess _ _, (hProcess : Nat) => account.opened hProcess
  | .closeHandle handle, _ =>
    if handle = 0 then account else { account with handles := account.handles.erase handle }
  | .heapAlloc size, (block : Nat) => if block = 0 then account else account.withBlock block size
  | .heapFree block, _ => { account with blocks := account.blocks.eraseP (·.1 = block) }
  | _, _ => account

end Account

abbrev ownership : Contract calls := ⟨Account, Account.Allows, fun _ => Account.Honest, Account.after⟩

abbrev Leaves {Result : Type} (post : Result → Account → Prop) (proc : Proc Result) (account : Account) : Prop :=
  @Procedure.Ensures calls Result ownership post proc account

/-- What it holds before it holds again afterwards. -/
abbrev Keeps {Result : Type} (proc : Proc Result) (account : Account) : Prop :=
  Leaves (fun _ after => after = account) proc account

abbrev Gives {Result : Type} (good : Result → Prop) (proc : Proc Result) (account : Account) : Prop :=
  Leaves (fun result after => after = account ∧ good result) proc account

theorem Gives.keeps {Result : Type} {good : Result → Prop} {proc : Proc Result} {account : Account}
    (gives : Gives good proc account) : Keeps proc account :=
  Procedure.Ensures.mono gives fun _ _ both => both.1

/-! ## What is held is given back in turn -/

section
variable {Result : Type} {post : Result → Account → Prop} {account : Account} {handle block size hNtDll : Nat}

theorem mem_opened (some : handle ≠ 0) (valid : handle ≠ invalidHandleValue) :
    handle ∈ (account.opened handle).handles := by
  rw [Account.opened, if_neg (not_or.mpr ⟨some, valid⟩)]
  exact List.mem_cons_self

theorem leaves_openProcess {access : Access} {pid : Nat} {next : Nat → Proc Result}
    (later : ∀ hProcess, hProcess ≠ invalidHandleValue → Leaves post (next hProcess) (account.opened hProcess)) :
    Leaves post (openProcess access pid >>= next) account :=
  Procedure.Ensures.perform trivial later

theorem leaves_closeHandle {next : Unit → Proc Result} (valid : handle ≠ invalidHandleValue)
    (later : Leaves post (next ()) account) : Leaves post (closeHandle handle >>= next) (account.opened handle) := by
  by_cases none : handle = 0
  · refine Procedure.Ensures.perform (.inr none) fun _ _ => ?_
    change Leaves post (next ()) (if handle = 0 then account.opened handle else _)
    rw [if_pos none, Account.opened, if_pos (.inl none)]
    exact later
  · refine Procedure.Ensures.perform (.inl (mem_opened none valid)) fun _ _ => ?_
    change Leaves post (next ()) (if handle = 0 then _ else
      { account.opened handle with handles := (account.opened handle).handles.erase handle })
    rw [if_neg none, Account.opened, if_neg (not_or.mpr ⟨none, valid⟩), List.erase_cons_head]
    exact later

theorem leaves_heapAlloc {next : Nat → Proc Result} (fails : Leaves post (next 0) account)
    (allocates : ∀ block, block ≠ 0 → Leaves post (next block) (account.withBlock block size)) :
    Leaves post (heapAlloc size >>= next) account := by
  refine Procedure.Ensures.perform trivial fun (block : Nat) _ => ?_
  change Leaves post (next block) (if block = 0 then account else account.withBlock block size)
  by_cases none : block = 0
  · rw [if_pos none, none]
    exact fails
  · rw [if_neg none]
    exact allocates block none

theorem leaves_heapFree {next : Bool → Proc Result} (later : ∀ freed, Leaves post (next freed) account) :
    Leaves post (heapFree block >>= next) (account.withBlock block size) := by
  refine Procedure.Ensures.perform ⟨size, List.mem_cons_self⟩ fun (freed : Bool) _ => ?_
  change Leaves post (next freed) { account with blocks := ((block, size) :: account.blocks).eraseP (·.1 = block) }
  have first : ((block, size) :: account.blocks).eraseP (·.1 = block) = account.blocks :=
    List.eraseP_cons_of_pos (decide_eq_true rfl)
  rw [first]
  exact later freed

end

/-! ## The information of a process -/

section
variable {account : Account} {hProcess : Nat}

theorem bufferSize_le (length : Nat) : bufferSize length ≤ length ∧ bufferSize length < maxUnicodePath := by
  unfold bufferSize maxUnicodePath
  split <;> omega

theorem convert_gives {pwszBuffer length : Nat} (inside : (pwszBuffer, length) ∈ account.blocks)
    (read : Option (List UInt16)) :
    Gives (fun text => text.length < maxUnicodePath) (convert pwszBuffer length read) account := by
  cases read with
  | none => exact .pure ⟨rfl, Nat.zero_lt_succ _⟩
  | some wide =>
    obtain ⟨least, most⟩ := bufferSize_le length
    have converted : 2 * (wide.take (bufferSize length / 2)).length ≤ bufferSize length := by
      rw [List.length_take]
      omega
    refine ⟨⟨length, inside, Nat.le_trans converted least⟩, fun (text : List Char) bytes => ?_⟩
    exact ⟨rfl, Nat.lt_of_le_of_lt (Nat.le_trans bytes converted) most⟩

theorem readString_gives (inside : hProcess ∈ account.handles) (string : UnicodeString) :
    Gives (fun result => result.2.length < maxUnicodePath) (readString hProcess string) account := by
  unfold readString
  by_cases filled : string.length > 0
  · rw [if_pos filled]
    refine leaves_heapAlloc (.pure ⟨rfl, Nat.zero_lt_succ _⟩) fun pwszBuffer block => ?_
    rw [if_neg block]
    refine Procedure.Ensures.perform ⟨inside, List.mem_cons_self⟩ fun read _ => ?_
    refine Procedure.Ensures.bind (convert_gives List.mem_cons_self read) ?_
    rintro text _ ⟨rfl, short⟩
    exact leaves_heapFree fun freed => .pure ⟨rfl, short⟩
  · rw [if_neg filled]
    exact .pure ⟨rfl, Nat.zero_lt_succ _⟩

theorem readStrings_gives (inside : hProcess ∈ account.handles) (parameters : Parameters) {spi : SmProcessInfo}
    (terminated : spi.Terminated) :
    Gives (fun result => result.2.Terminated) (readStrings hProcess parameters spi) account := by
  refine Procedure.Ensures.bind (readString_gives inside _) ?_
  rintro ⟨freed, szCmdLine⟩ _ ⟨rfl, cmdLine⟩
  dsimp only
  by_cases stuck : freed = true
  · rw [if_pos stuck]
    refine Procedure.Ensures.bind (readString_gives inside _) ?_
    rintro ⟨freed, szImgPath⟩ _ ⟨rfl, imgPath⟩
    exact .pure ⟨rfl, imgPath, cmdLine⟩
  · rw [if_neg stuck]
    exact .pure ⟨rfl, terminated.1, cmdLine⟩

theorem readEnvironment_gives (inside : hProcess ∈ account.handles) {spi : SmProcessInfo}
    (terminated : spi.Terminated) :
    Gives (fun result => result.2.Terminated) (readEnvironment hProcess spi) account := by
  unfold readEnvironment
  by_cases none : spi.dwPEBBaseAddress = 0
  · rw [if_pos none]
    exact .pure ⟨rfl, terminated⟩
  · rw [if_neg none]
    refine Procedure.Ensures.perform inside fun (peb : Option Peb) _ => ?_
    cases peb with
    | none => exact .pure ⟨rfl, terminated⟩
    | some peb =>
      refine Procedure.Ensures.perform inside fun (parameters : Option Parameters) _ => ?_
      cases parameters with
      | none => exact .pure ⟨rfl, terminated⟩
      | some parameters => exact readStrings_gives inside parameters terminated

theorem readProcess_gives {dwPID : Nat} {query : Query} (inside : 0 ≤ query.status → hProcess ∈ account.handles) :
    Gives (fun result => result.2.Terminated) (readProcess dwPID hProcess query) account := by
  -- A process that could not be opened has not been queried, so nothing is read of it.
  have zero : (SmProcessInfo.zero dwPID).Terminated := ⟨Nat.zero_lt_succ _, Nat.zero_lt_succ _⟩
  unfold readProcess
  by_cases queried : query.status ≥ 0
  · rw [if_pos queried]
    refine Procedure.Ensures.bind (readEnvironment_gives (inside queried) ?_) ?_
    · exact zero
    rintro ⟨status, spi⟩ _ ⟨rfl, terminated⟩
    dsimp only
    by_cases system : status = true ∧ spi.dwPID = 4
    · rw [if_pos system]
      exact Procedure.Ensures.perform trivial fun path short => .pure ⟨rfl, short, terminated.2⟩
    · rw [if_neg system]
      exact .pure ⟨rfl, terminated⟩
  · rw [if_neg queried]
    exact .pure ⟨rfl, zero⟩

theorem finish_gives {dwPID pbi size : Nat} {query : Query} (valid : hProcess ≠ invalidHandleValue)
    (queried : hProcess = 0 → query.status < 0) :
    Leaves (fun result after => after = account ∧ ∀ spi ∈ result.2, spi.Terminated) (finish dwPID hProcess pbi query)
      ((account.opened hProcess).withBlock pbi size) := by
  have inside : 0 ≤ query.status → hProcess ∈ ((account.opened hProcess).withBlock pbi size).handles := by
    intro succeeded
    refine mem_opened ?_ valid
    intro none
    exact absurd succeeded (Int.not_le.mpr (queried none))
  refine Procedure.Ensures.bind (readProcess_gives inside) ?_
  rintro ⟨status, spi⟩ _ ⟨rfl, terminated⟩
  refine leaves_heapFree fun _ => ?_
  refine leaves_closeHandle valid (.pure ⟨rfl, ?_⟩)
  rintro _ ⟨⟩
  exact terminated

/-- Whatever fails, the handle of the process and the blocks go back, and the texts end inside of their arrays. -/
theorem smGetNtProcessInfo_gives (account : Account) (dwPID : Nat) :
    Gives (fun result => ∀ spi ∈ result.2, spi.Terminated) (smGetNtProcessInfo dwPID) account := by
  refine leaves_openProcess fun hProcess valid => ?_
  rw [if_neg valid]
  refine leaves_heapAlloc ?_ fun pbi block => ?_
  · rw [if_pos rfl]
    exact leaves_closeHandle valid (.pure ⟨rfl, nofun⟩)
  rw [if_neg block]
  have held : hProcess ∈ (account.opened hProcess).handles ∨ hProcess = 0 := by
    by_cases none : hProcess = 0
    · exact .inr none
    · exact .inl (mem_opened none valid)
  refine Procedure.Ensures.perform ⟨held, List.mem_cons_self⟩ fun (query : Query) queried => ?_
  dsimp only
  by_cases more : query.status ≥ 0 ∧ sizeofBasic < query.needed
  · rw [if_pos more]
    refine leaves_heapFree fun _ => leaves_heapAlloc ?_ fun pbi block => ?_
    · rw [if_pos rfl]
      exact leaves_closeHandle valid (.pure ⟨rfl, nofun⟩)
    rw [if_neg block]
    refine Procedure.Ensures.perform ⟨held, List.mem_cons_self⟩ fun (query : Query) queried => ?_
    exact finish_gives valid queried
  · rw [if_neg more]
    exact finish_gives valid queried

end

end Foolject.Kill.Program
