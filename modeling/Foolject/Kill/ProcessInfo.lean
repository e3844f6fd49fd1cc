import Foolject.Lib.Procedure
import Foolject.Kill.KillProcess

/-! What the search knows of a process, call by call.

The information comes from the memory of the process. The build is the one without `UNICODE`.
-/

set_option autoImplicit false

namespace Foolject.Kill.Program

/-! ## The calls -/

/-- `PROCESS_BASIC_INFORMATION`, where `pebBaseAddress` may be zero. -/
structure BasicInformation where
  exitStatus : Int
  pebBaseAddress : Nat
  affinityMask : Nat
  basePriority : Int
  inheritedFromUniqueProcessId : Nat

structure UnicodeString where
  /-- In bytes. -/
  length : Nat
  buffer : Nat

structure Peb where
  beingDebugged : Nat
  processParameters : Nat
  sessionId : Nat

structure Parameters where
  imagePathName : UnicodeString
  commandLine : UnicodeString

structure Query where
  status : Int
  needed : Nat
  basic : BasicInformation

inductive Access where
  | queryInformationAndVmRead
  | allAccess
  deriving DecidableEq

/-- The calls of Windows, one for each kind of thing that `ReadProcessMemory` reads. -/
inductive Call where
  | openProcessToken
  | lookupPrivilegeValue
  | adjustTokenPrivileges (hToken : Nat)
  | loadLibrary
  | getProcAddress (hNtDll : Nat)
  | freeLibrary (hNtDll : Nat)
  | createToolhelp32Snapshot
  | openProcess (access : Access) (pid : Nat)
  | terminateProcess (hProcess : Nat)
  | closeHandle (handle : Nat)
  | heapAlloc (size : Nat)
  | heapFree (block : Nat)
  | ntQueryInformationProcess (hProcess block size : Nat)
  | readPeb (hProcess address : Nat)
  | readParameters (hProcess address : Nat)
  | readText (hProcess address block size : Nat)
  | wideCharToMultiByte (block : Nat) (wide : List UInt16)
  | expandEnvironmentStrings

/-- A handle or an address may be `NULL`, which is zero. -/
def Call.Reply : Call → Type
  | openProcessToken => Option Nat
  | lookupPrivilegeValue => Bool
  /- What `GetLastError` says afterwards. -/
  | adjustTokenPrivileges _ => Nat
  | loadLibrary => Nat
  | getProcAddress _ => Nat
  | freeLibrary _ => Unit
  /- The handle, and what `Process32First` and `Process32Next` give one after the other. -/
  | createToolhelp32Snapshot => Nat × List (Nat × List Char)
  | openProcess _ _ => Nat
  | terminateProcess _ => Bool
  | closeHandle _ => Unit
  | heapAlloc _ => Nat
  | heapFree _ => Bool
  | ntQueryInformationProcess _ _ _ => Query
  | readPeb _ _ => Option Peb
  | readParameters _ _ => Option Parameters
  | readText _ _ _ _ => Option (List UInt16)
  | wideCharToMultiByte _ _ => List Char
  | expandEnvironmentStrings => List Char

abbrev calls : Interface := ⟨Call, Call.Reply⟩

abbrev Proc (Result : Type) := Procedure calls Result

def ask (c : Call) : Proc c.Reply := @Procedure.perform calls c

def openProcessToken : Proc (Option Nat) := ask .openProcessToken

def lookupPrivilegeValue : Proc Bool := ask .lookupPrivilegeValue

def adjustTokenPrivileges (hToken : Nat) : Proc Nat := ask (.adjustTokenPrivileges hToken)

def loadLibrary : Proc Nat := ask .loadLibrary

def getProcAddress (hNtDll : Nat) : Proc Nat := ask (.getProcAddress hNtDll)

def freeLibrary (hNtDll : Nat) : Proc Unit := ask (.freeLibrary hNtDll)

def createToolhelp32Snapshot : Proc (Nat × List (Nat × List Char)) := ask .createToolhelp32Snapshot

def terminateProcess (hProcess : Nat) : Proc Bool := ask (.terminateProcess hProcess)

def openProcess (access : Access) (pid : Nat) : Proc Nat := ask (.openProcess access pid)

def closeHandle (handle : Nat) : Proc Unit := ask (.closeHandle handle)

def heapAlloc (size : Nat) : Proc Nat := ask (.heapAlloc size)

def heapFree (block : Nat) : Proc Bool := ask (.heapFree block)

def ntQueryInformationProcess (hProcess block size : Nat) : Proc Query :=
  ask (.ntQueryInformationProcess hProcess block size)

def readPeb (hProcess address : Nat) : Proc (Option Peb) := ask (.readPeb hProcess address)

def readParameters (hProcess address : Nat) : Proc (Option Parameters) :=
  ask (.readParameters hProcess address)

def readText (hProcess address block size : Nat) : Proc (Option (List UInt16)) :=
  ask (.readText hProcess address block size)

def wideCharToMultiByte (block : Nat) (wide : List UInt16) : Proc (List Char) :=
  ask (.wideCharToMultiByte block wide)

def expandEnvironmentStrings : Proc (List Char) := ask .expandEnvironmentStrings

/-! ## The information of a process -/

def invalidHandleValue : Nat := 4294967295

/-- The size of `szImgPath` and of `szCmdLine`. -/
def maxUnicodePath : Nat := 32767

/-- `sizeof(smPROCESS_BASIC_INFORMATION)`. -/
def sizeofBasic : Nat := 24

/-- The arrays hold the texts and zeros behind them. -/
structure SmProcessInfo where
  dwPID : Nat
  dwParentPID : Nat
  dwSessionID : Nat
  dwPEBBaseAddress : Nat
  dwAffinityMask : Nat
  dwBasePriority : Int
  dwExitStatus : Int
  cBeingDebugged : Nat
  szImgPath : List Char
  szCmdLine : List Char

def SmProcessInfo.Terminated (spi : SmProcessInfo) : Prop :=
  spi.szImgPath.length < maxUnicodePath ∧ spi.szCmdLine.length < maxUnicodePath

def SmProcessInfo.cmdLine (spi : SmProcessInfo) : List Char := spi.szCmdLine.takeWhile (· ≠ Char.ofNat 0)

def SmProcessInfo.zero (dwPID : Nat) : SmProcessInfo := ⟨dwPID, 0, 0, 0, 0, 0, 0, 0, [], []⟩

def bufferSize (length : Nat) : Nat := if length ≥ maxUnicodePath then maxUnicodePath - 1 else length

def convert (pwszBuffer length : Nat) : Option (List UInt16) → Proc (List Char)
  | none => pure []
  | some wide => wideCharToMultiByte pwszBuffer (wide.take (bufferSize length / 2))

def readString (hProcess : Nat) (string : UnicodeString) : Proc (Bool × List Char) :=
  if string.length > 0 then do
    let pwszBuffer ← heapAlloc string.length
    if pwszBuffer = 0 then pure (true, [])
    else do
      let read ← readText hProcess string.buffer pwszBuffer string.length
      let text ← convert pwszBuffer string.length read
      let freed ← heapFree pwszBuffer
      pure (freed, text)
  else pure (true, [])

/-- The strings of the parameters, of which the second is not read where the memory of the first got stuck. -/
def readStrings (hProcess : Nat) (parameters : Parameters) (spi : SmProcessInfo) : Proc (Bool × SmProcessInfo) := do
  let (freed, szCmdLine) ← readString hProcess parameters.commandLine
  if freed = true then do
    let (freed, szImgPath) ← readString hProcess parameters.imagePathName
    pure (freed, { spi with szCmdLine := szCmdLine, szImgPath := szImgPath })
  else pure (false, { spi with szCmdLine := szCmdLine })

def readParametersOf (hProcess : Nat) (spi : SmProcessInfo) (peb : Peb) : Proc (Bool × SmProcessInfo) := do
  let parameters ← readParameters hProcess peb.processParameters
  match parameters with
  | none => pure (true, spi)
  | some parameters => readStrings hProcess parameters spi

def readEnvironment (hProcess : Nat) (spi : SmProcessInfo) : Proc (Bool × SmProcessInfo) :=
  if spi.dwPEBBaseAddress = 0 then pure (true, spi)
  else do
    let peb ← readPeb hProcess spi.dwPEBBaseAddress
    match peb with
    | none => pure (true, spi)
    | some peb =>
      readParametersOf hProcess { spi with dwSessionID := peb.sessionId, cBeingDebugged := peb.beingDebugged } peb

def SmProcessInfo.withBasic (spi : SmProcessInfo) (pbi : BasicInformation) : SmProcessInfo :=
  { spi with
    dwParentPID := pbi.inheritedFromUniqueProcessId
    dwBasePriority := pbi.basePriority
    dwExitStatus := pbi.exitStatus
    dwPEBBaseAddress := pbi.pebBaseAddress
    dwAffinityMask := pbi.affinityMask }

/-- What is done once the basic information has been queried. A string whose memory got stuck is the last. -/
def readProcess (dwPID hProcess : Nat) (query : Query) : Proc (Bool × SmProcessInfo) :=
  if query.status ≥ 0 then do
    let (status, spi) ← readEnvironment hProcess ((SmProcessInfo.zero dwPID).withBasic query.basic)
    if status = true ∧ spi.dwPID = 4 then do
      let path ← expandEnvironmentStrings
      pure (status, { spi with szImgPath := path })
    else pure (status, spi)
  else pure (true, SmProcessInfo.zero dwPID)

/-- From there on, with the label `gnpiFreeMemFailed`. -/
def finish (dwPID hProcess pbi : Nat) (query : Query) : Proc (Bool × Option SmProcessInfo) := do
  let (status, spi) ← readProcess dwPID hProcess query
  let _ ← heapFree pbi
  closeHandle hProcess
  pure (status, some spi)

/-- What it returns, and what it leaves in `*ppi`. -/
def smGetNtProcessInfo (dwPID : Nat) : Proc (Bool × Option SmProcessInfo) := do
  let hProcess ← openProcess .queryInformationAndVmRead dwPID
  if hProcess = invalidHandleValue then pure (false, none)
  else do
    let pbi ← heapAlloc sizeofBasic
    if pbi = 0 then do
      closeHandle hProcess
      pure (false, none)
    else do
      let query ← ntQueryInformationProcess hProcess pbi sizeofBasic
      if query.status ≥ 0 ∧ sizeofBasic < query.needed then do
        let _ ← heapFree pbi
        let pbi ← heapAlloc query.needed
        if pbi = 0 then do
          closeHandle hProcess
          pure (false, none)
        else do
          let query ← ntQueryInformationProcess hProcess pbi query.needed
          finish dwPID hProcess pbi query
      else finish dwPID hProcess pbi query

end Foolject.Kill.Program
