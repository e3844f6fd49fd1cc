import Mathlib.Data.List.Basic

/-! Procedures that call a system and go on with what it replies.

A contract keeps an account of the calls. It says which call is allowed where, and which reply is honest. What a
procedure ensures for every honest reply holds along each of its runs.
-/

set_option autoImplicit false

namespace Foolject

structure Interface where
  Call : Type
  Reply : Call → Type

structure Interface.Event (I : Interface) where
  call : I.Call
  reply : I.Reply call

inductive Procedure (I : Interface) (Result : Type) where
  | done (result : Result)
  | call (call : I.Call) (next : I.Reply call → Procedure I Result)

structure Contract (I : Interface) where
  Account : Type
  allowed : Account → I.Call → Prop
  honest : Account → (call : I.Call) → I.Reply call → Prop
  after : Account → (call : I.Call) → I.Reply call → Account

variable {I : Interface} {First Second : Type}

namespace Contract

def Honest (contract : Contract I) : contract.Account → List I.Event → Prop
  | _, [] => True
  | account, event :: rest =>
    contract.honest account event.call event.reply ∧
      contract.Honest (contract.after account event.call event.reply) rest

def Allowed (contract : Contract I) : contract.Account → List I.Event → Prop
  | _, [] => True
  | account, event :: rest =>
    contract.allowed account event.call ∧ contract.Allowed (contract.after account event.call event.reply) rest

def final (contract : Contract I) : contract.Account → List I.Event → contract.Account
  | account, [] => account
  | account, event :: rest => contract.final (contract.after account event.call event.reply) rest

end Contract

namespace Procedure

def bind : Procedure I First → (First → Procedure I Second) → Procedure I Second
  | .done result, next => next result
  | .call c rest, next => .call c fun reply => (rest reply).bind next

instance : Monad (Procedure I) where
  pure := done
  bind := bind

def perform (c : I.Call) : Procedure I (I.Reply c) := .call c .done

/-! ## Runs -/

inductive Runs : Procedure I First → List I.Event → First → Prop where
  | done {result : First} : Runs (.done result) [] result
  | call {c : I.Call} {next : I.Reply c → Procedure I First} {trace : List I.Event} {result : First}
      (reply : I.Reply c) : Runs (next reply) trace result → Runs (.call c next) (⟨c, reply⟩ :: trace) result

theorem Runs.of_call {c : I.Call} {next : I.Reply c → Procedure I First} {trace : List I.Event} {result : First}
    (runs : Runs (.call c next) trace result) :
    ∃ reply rest, trace = ⟨c, reply⟩ :: rest ∧ Runs (next reply) rest result := by
  cases runs with
  | call reply later => exact ⟨reply, _, rfl, later⟩

/-- The result if the same call always has the same reply. -/
def eval (answer : (c : I.Call) → I.Reply c) : Procedure I First → First
  | .done result => result
  | .call c next => (next (answer c)).eval answer

def events (answer : (c : I.Call) → I.Reply c) : Procedure I First → List I.Event
  | .done _ => []
  | .call c next => ⟨c, answer c⟩ :: (next (answer c)).events answer

variable {answer : (c : I.Call) → I.Reply c}

theorem runs_events (procedure : Procedure I First) :
    Runs procedure (procedure.events answer) (procedure.eval answer) := by
  induction procedure with
  | done result => exact .done
  | call c next ih => exact .call (answer c) (ih (answer c))

@[simp] theorem eval_pure (result : First) : (pure result : Procedure I First).eval answer = result := rfl

@[simp] theorem eval_bind (first : Procedure I First) (next : First → Procedure I Second) :
    (first >>= next).eval answer = (next (first.eval answer)).eval answer := by
  induction first with
  | done result => rfl
  | call c rest ih => exact ih (answer c)

/-! ## What holds for every honest reply -/

section
variable {contract : Contract I} {post : First → contract.Account → Prop} {account : contract.Account}

/-- Every call is allowed, and the result and the account at the end are as `post` says. -/
def Ensures (contract : Contract I) (post : First → contract.Account → Prop) :
    Procedure I First → contract.Account → Prop
  | .done result, account => post result account
  | .call c next, account => contract.allowed account c ∧
    ∀ reply, contract.honest account c reply → Ensures contract post (next reply) (contract.after account c reply)

theorem Ensures.pure {result : First} (holds : post result account) :
    Ensures contract post (Pure.pure result : Procedure I First) account := holds

theorem Ensures.mono {procedure : Procedure I First} {weaker : First → contract.Account → Prop}
    (ensures : Ensures contract post procedure account)
    (weaken : ∀ result account, post result account → weaker result account) :
    Ensures contract weaker procedure account := by
  induction procedure generalizing account with
  | done result => exact weaken result account ensures
  | call c next ih => exact ⟨ensures.1, fun reply honest => ih reply (ensures.2 reply honest)⟩

theorem Ensures.bind {first : Procedure I First} {next : First → Procedure I Second}
    {ends : Second → contract.Account → Prop} (begins : Ensures contract post first account)
    (goesOn : ∀ result account, post result account → Ensures contract ends (next result) account) :
    Ensures contract ends (first >>= next) account := by
  induction first generalizing account with
  | done result => exact goesOn result account begins
  | call c rest ih => exact ⟨begins.1, fun reply honest => ih reply (begins.2 reply honest)⟩

theorem Ensures.perform {c : I.Call} {next : I.Reply c → Procedure I First} (allowed : contract.allowed account c)
    (goesOn : ∀ reply, contract.honest account c reply →
      Ensures contract post (next reply) (contract.after account c reply)) :
    Ensures contract post (Procedure.perform c >>= next) account := ⟨allowed, goesOn⟩

/-- What is ensured holds along every run with honest replies. -/
theorem Ensures.runs {procedure : Procedure I First} {trace : List I.Event} {result : First}
    (ensures : Ensures contract post procedure account) (runs : Runs procedure trace result)
    (honest : contract.Honest account trace) :
    contract.Allowed account trace ∧ post result (contract.final account trace) := by
  induction runs generalizing account with
  | done => exact ⟨trivial, ensures⟩
  | call reply _ ih =>
    obtain ⟨now, later⟩ := honest
    obtain ⟨allowed, holds⟩ := ih (ensures.2 reply now) later
    exact ⟨⟨ensures.1, allowed⟩, holds⟩

/-- Where the honesty of a reply does not depend on what came before it. -/
theorem honest_events {procedure : Procedure I First} (honest : ∀ account c, contract.honest account c (answer c)) :
    contract.Honest account (procedure.events answer) := by
  induction procedure generalizing account with
  | done result => trivial
  | call c next ih => exact ⟨honest account c, ih (answer c)⟩

end

end Procedure

end Foolject
