import Foolject.Lib.Dialogue
import Foolject.Hmp.Loop

/-! The command line of the HMP test, as lines of text.

`gets` reads each answer into a buffer, and a line that begins with `back` calls the command off. The
address of the service is kept in global buffers from one command to the next. What is printed is left out.
-/

set_option autoImplicit false

namespace Foolject.Hmp.CommandLine
open Transducer

/-! ## Lines -/

/-- Sizes of the headers of the library. -/
structure Sizes where
  gcAddrSize : Nat
  maxAddressLen : Nat
  regServer : Nat
  regClient : Nat
  /-- The defaults fit. -/
  enough : 18 ≤ gcAddrSize

def maxPath : Nat := 260

inductive Buffer where
  | input
  | ani
  | dnis
  | dnisAlias
  | file
  | confirm
  | proxyIp
  | localIp
  | ownAlias
  | password
  | realm
  deriving DecidableEq, Repr

def Buffer.size (sizes : Sizes) : Buffer → Nat
  | .file => maxPath
  | .confirm => 2
  | _ => sizes.gcAddrSize

/-- `strnicmp` with the length of the word, which is in lower case. -/
def begins (word line : Line) : Bool := (line.take word.length).map Char.toLower = word

def back : Line := "back".toList

def terms (sizes : Sizes) : Terms Buffer := ⟨Buffer.size sizes, begins back⟩

def isSpace (c : Char) : Bool := c = ' ' ∨ 9 ≤ c.toNat ∧ c.toNat ≤ 13

def number (digits : Line) : Int :=
  (digits.takeWhile Char.isDigit).foldl (fun value c => 10 * value + (c.toNat - 48)) 0

/-- At the ends of the range of `int` it stays there. -/
def atoi (line : Line) : Int :=
  match line.dropWhile isSpace with
  | '-' :: digits => max (-2147483648) (-number digits)
  | '+' :: digits => min 2147483647 (number digits)
  | digits => min 2147483647 (number digits)

def indexOf (fallback : Index) (line : Line) : Index :=
  if inside : 0 ≤ atoi line ∧ atoi line < maxChannels then ⟨(atoi line).toNat, by omega⟩ else fallback

/-! ## Commands -/

inductive Word where
  | quit
  | help
  | makeCall
  | dropCall
  | blindXfer
  | superXfer
  | playFile
  | recordFile
  | sendFax
  | receiveFax
  | glareFax
  | stop
  | modifyCall
  | register
  | unregister
  | enumDevices
  | caps
  | stat
  deriving DecidableEq, Repr

namespace Word

def text : Word → Line
  | .quit => "quit".toList
  | .help => "help".toList
  | .makeCall => "mc".toList
  | .dropCall => "dc".toList
  | .blindXfer => "bx".toList
  | .superXfer => "sx".toList
  | .playFile => "pw".toList
  | .recordFile => "rw".toList
  | .sendFax => "sf".toList
  | .receiveFax => "rf".toList
  | .glareFax => "gf".toList
  | .stop => "stop".toList
  | .modifyCall => "modify".toList
  | .register => "reg".toList
  | .unregister => "unreg".toList
  | .enumDevices => "enum".toList
  | .caps => "caps".toList
  | .stat => "stat".toList

/-- In the order in which `analyse_cli` tries them. -/
def all : List Word :=
  [.quit, .help, .makeCall, .dropCall, .blindXfer, .superXfer, .playFile, .recordFile, .sendFax, .receiveFax,
    .glareFax, .stop, .modifyCall, .register, .unregister, .enumDevices, .caps, .stat]

def of (input : Line) : Option Word := all.find? fun word => begins word.text input

end Word

structure Identity where
  proxyIp : Line
  localIp : Line
  ownAlias : Line
  password : Line
  realm : Line
  deriving DecidableEq, Repr

/-- The function that a command ends in. -/
inductive Order where
  | quit
  | help
  | makeCall (index : Index) (ani dnis : Line)
  | makeCallAlias (index : Index) (dnisAlias : Line)
  | dropCall (index : Index)
  | blindXfer (index : Index) (dnis : Line)
  | initSuperXfer (index second : Index)
  | playWaveFile (index : Index) (file : Line)
  | recordWaveFile (index : Index)
  | sendFax (index : Index) (file : Line)
  | receiveFax (index : Index)
  | glareFax (file : Line)
  | stop (index : Index)
  | reqModifyCall (index : Index)
  | registration (identity : Identity)
  | unregistration
  | enumDevInformation
  | enumSupportCapabilities
  | printSysStatus
  /-- An unknown word, or a question that is not confirmed. -/
  | nothing
  deriving DecidableEq, Repr

abbrev Asking := Dialogue Buffer Order

def askIndex (fallback : Index) (next : Index → Asking) : Asking :=
  .gets .input [] fun line => next (indexOf fallback line)

def askAni (next : Line → Asking) : Asking := .gets .ani "30@192.168.101.30".toList next

def askDnis (next : Line → Asking) : Asking := .gets .dnis "31@192.168.101.30".toList next

def askFaxFile (next : Line → Asking) : Asking := .gets .file "fax.tif".toList next

def askIdentity (next : Identity → Asking) : Asking :=
  .gets .proxyIp "192.168.101.58".toList fun proxyIp =>
  .gets .localIp "192.168.101.30".toList fun localIp =>
  .gets .ownAlias "30".toList fun ownAlias =>
  .gets .password "30".toList fun password =>
  .gets .realm "ewings".toList fun realm => next ⟨proxyIp, localIp, ownAlias, password, realm⟩

/-- An empty answer confirms. -/
def confirms (line : Line) : Prop := line = [] ∨ line.head? = some 'Y' ∨ line.head? = some 'y'

instance (line : Line) : Decidable (confirms line) := inferInstanceAs (Decidable (_ ∨ _ ∨ _))

def ask (registered : Bool) : Word → Asking
  | .quit => .done .quit
  | .help => .done .help
  | .makeCall =>
    if registered = true then
      askIndex firstIndex fun index =>
        .gets .dnisAlias "31".toList fun dnisAlias => .done (.makeCallAlias index dnisAlias)
    else askIndex firstIndex fun index => askAni fun ani => askDnis fun dnis => .done (.makeCall index ani dnis)
  | .dropCall => askIndex firstIndex fun index => .done (.dropCall index)
  | .blindXfer => askIndex firstIndex fun index => askDnis fun dnis => .done (.blindXfer index dnis)
  | .superXfer =>
    askIndex firstIndex fun index => askIndex secondIndex fun second => .done (.initSuperXfer index second)
  | .playFile =>
    askIndex firstIndex fun index => .gets .file "play.wav".toList fun file => .done (.playWaveFile index file)
  | .recordFile => askIndex firstIndex fun index => .done (.recordWaveFile index)
  | .sendFax => askIndex firstIndex fun index => askFaxFile fun file => .done (.sendFax index file)
  | .receiveFax => askIndex firstIndex fun index => .done (.receiveFax index)
  | .glareFax => .gets .confirm [] fun confirm =>
    if confirms confirm then askFaxFile fun file => .done (.glareFax file) else .done .nothing
  | .stop => askIndex firstIndex fun index => .done (.stop index)
  | .modifyCall => askIndex firstIndex fun index => .done (.reqModifyCall index)
  | .register => askIdentity fun identity => .done (.registration identity)
  | .unregister => .done .unregistration
  | .enumDevices => .done .enumDevInformation
  | .caps => .done .enumSupportCapabilities
  | .stat => .done .printSysStatus

def analyseCli (registered : Bool) : Asking := .gets .input [] fun input =>
  match Word.of input with
  | some word => ask registered word
  | none => .done .nothing

/-! ## What the orders do -/

inductive Sent where
  | authentication (identity : Identity)
  | register (identity : Identity)
  | deregister
  | makeCall (index : Index) (ani dnis : Line)
  | makeCallAlias (index : Index) (identity : Identity) (dnisAlias : Line)
  deriving DecidableEq, Repr

namespace Order

def sent (registered : Bool) (identity : Identity) : Order → List Sent
  | .makeCall index ani dnis => [.makeCall index ani dnis]
  | .makeCallAlias index dnisAlias => [.authentication identity, .makeCallAlias index identity dnisAlias]
  | .registration identity => if registered = true then [] else [.authentication identity, .register identity]
  | .unregistration => if registered = true then [.deregister] else []
  | _ => []

def registered (before : Bool) : Order → Bool
  | .registration _ => true
  | .unregistration => false
  | _ => before

def cli : Order → Cli
  | .makeCall index _ _ | .makeCallAlias index _ => .on index.val .makeCall
  | .dropCall index => .on index.val .dropCall
  | .blindXfer index _ => .on index.val .blindXfer
  | .initSuperXfer index _ => .on index.val .initSuperXfer
  | .playWaveFile index _ => .on index.val .playWaveFile
  | .recordWaveFile index => .on index.val .recordWaveFile
  | .sendFax index file => .on index.val (.doFax .tx (some file))
  | .receiveFax index => .on index.val (.doFax .rx none)
  | .glareFax file => .glare file
  | .stop index => .on index.val .stop
  | .reqModifyCall index => .on index.val .reqModifyCall
  | _ => .other

end Order

namespace Order

def commands : Order → List (Index × Command)
  | .makeCall index _ _ | .makeCallAlias index _ => [(index, .makeCall)]
  | .dropCall index => [(index, .dropCall)]
  | .blindXfer index _ => [(index, .blindXfer)]
  | .initSuperXfer index _ => [(index, .initSuperXfer)]
  | .playWaveFile index _ => [(index, .playWaveFile)]
  | .recordWaveFile index => [(index, .recordWaveFile)]
  | .sendFax index file => [(index, .doFax .tx (some file))]
  | .receiveFax index => [(index, .doFax .rx none)]
  | .glareFax file => [(firstIndex, .doFax .tx (some file)), (secondIndex, .doFax .rx none)]
  | .stop index => [(index, .stop)]
  | .reqModifyCall index => [(index, .reqModifyCall)]
  | _ => []

theorem cliIndex_val (index : Index) : cliIndex index.val = index := by
  revert index
  decide

/-- The loop hands an order to just these channels. -/
theorem handed_cli (s : Loop) (order : Order) :
    s.handed (.cli order.cli) = order.commands.map fun labelled => (labelled.1, .command labelled.2) := by
  cases order with
  | quit | help | registration | unregistration | enumDevInformation | enumSupportCapabilities | printSysStatus
  | nothing | glareFax => rfl
  | _ =>
    unfold Loop.handed cli
    dsimp only
    rw [cliIndex_val]
    rfl

end Order

def atSign (user host : Line) : Line := user ++ '@' :: host

def fromHeader (address : Line) : Line := "From: foolbear<sip:".toList ++ address ++ ">".toList

def contactHeader (address : Line) : Line := "Contact: foolbear<sip:".toList ++ address ++ ":5060>".toList

namespace Identity
variable (identity : Identity)

/-- What `authentication`, `registration` and the second `make_call` print into buffers, with the sizes. -/
def authentication (sizes : Sizes) : List (Nat × Line) :=
  [(sizes.gcAddrSize, "sip:".toList ++ atSign identity.ownAlias identity.proxyIp)]

def registration (sizes : Sizes) : List (Nat × Line) :=
  [(sizes.regServer, identity.proxyIp), (sizes.regClient, atSign identity.ownAlias identity.proxyIp),
    (250, "sip:".toList ++ atSign identity.ownAlias identity.localIp ++ ":5060".toList)]

def makeCall (sizes : Sizes) (dnisAlias : Line) : List (Nat × Line) :=
  [(sizes.maxAddressLen, atSign identity.ownAlias identity.proxyIp),
    (sizes.maxAddressLen, atSign dnisAlias identity.proxyIp),
    (sizes.maxAddressLen, atSign identity.ownAlias identity.localIp),
    (1024, fromHeader (atSign identity.ownAlias identity.proxyIp)),
    (1024, contactHeader (atSign identity.ownAlias identity.localIp))]

end Identity

def Order.printed (sizes : Sizes) (registered : Bool) (identity : Identity) : Order → List (Nat × Line)
  | .makeCall _ ani _ => [(1024, fromHeader ani), (1024, contactHeader ani)]
  | .makeCallAlias _ dnisAlias => identity.authentication sizes ++ identity.makeCall sizes dnisAlias
  | .registration identity =>
    if registered = true then [] else identity.authentication sizes ++ identity.registration sizes
  | .reqModifyCall _ =>
    [(1024,
      "Contact: HMP test by foolbear<sip:".toList ++ atSign identity.ownAlias identity.localIp ++ ":5060>".toList)]
  | _ => []

def identityOf (memory : Buffer → Line) : Identity where
  proxyIp := memory .proxyIp
  localIp := memory .localIp
  ownAlias := memory .ownAlias
  password := memory .password
  realm := memory .realm

/-! ## The session -/

inductive Place where
  | asks (asking : Asking)
  /-- More than it holds has been written into a buffer. -/
  | overrun
  /-- `analyse_cli` has returned FALSE. -/
  | left

structure Session where
  registered : Bool
  memory : Buffer → Line
  place : Place

inductive Turn where
  | ordered (order : Order) (sent : List Sent)
  | calledOff
  deriving DecidableEq, Repr

namespace Session

def start : Session := ⟨false, fun _ => [], .asks (analyseCli false)⟩

def Fits (sizes : Sizes) (s : Session) (order : Order) : Prop :=
  ∀ print ∈ order.printed sizes s.registered (identityOf s.memory), print.2.length < print.1

instance (sizes : Sizes) (s : Session) (order : Order) : Decidable (s.Fits sizes order) :=
  inferInstanceAs (Decidable (∀ print ∈ _, _))

def perform (sizes : Sizes) (order : Order) : Transducer Session Turn := fun s =>
  if s.Fits sizes order then
    ({ s with
        registered := order.registered s.registered
        place := if order = .quit then .left else .asks (analyseCli (order.registered s.registered)) },
      [.ordered order (order.sent s.registered (identityOf s.memory))])
  else ({ s with place := .overrun }, [])

def settle (sizes : Sizes) : Asking → Transducer Session Turn
  | .done order => perform sizes order
  | asking => modify fun s => { s with place := .asks asking }

def feed (sizes : Sizes) (line : Line) : Transducer Session Turn := fun s =>
  match s.place with
  | .asks (.gets buffer fallback next) =>
    if buffer.size sizes ≤ line.length then ({ s with place := .overrun }, [])
    else if begins back line = true then
      ({ s with memory := Function.update s.memory buffer line, place := .asks (analyseCli s.registered) },
        [.calledOff])
    else
      settle sizes (next (Dialogue.meant fallback line))
        { s with memory := Function.update s.memory buffer (Dialogue.meant fallback line) }
  | _ => (s, [])

def postTest (s : Session) : List Sent := if s.registered = true then [.deregister] else []

end Session

end Foolject.Hmp.CommandLine
