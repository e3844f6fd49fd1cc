import Mathlib.Data.List.Basic

/-! The command line of a service, as `RegisterService` goes through it.

`NEXT_ARG` takes the text behind the letter of a switch, or else the next argument. Behind the
last argument that is the NULL at the end of the array, and the loop goes on behind the array.
-/

set_option autoImplicit false

namespace Foolject.Reload.Arguments

abbrev Word := List Char

/-- The values of `fnc`. -/
inductive Fnc where
  | startDispatcher
  | installService
  | removeService
  | startupService
  | endService
  deriving DecidableEq, Repr

inductive Setting where
  | startName
  | password
  deriving DecidableEq, Repr

structure Settings where
  fnc : Fnc
  pszStartName : Option Word
  pszPassword : Option Word
  deriving DecidableEq, Repr

def Settings.put (settings : Settings) (value : Word) : Setting → Settings
  | .startName => { settings with pszStartName := some value }
  | .password => { settings with pszPassword := some value }

inductive Switch where
  | choose (fnc : Fnc)
  /-- With the text behind the letter. -/
  | set (setting : Setting) (value : Word)
  | debug (faceless : Bool)
  | ignored
  deriving DecidableEq, Repr

def switchOf : Word → Switch
  | '-' :: 'i' :: _ => .choose .installService
  | '-' :: 'l' :: value => .set .startName value
  | '-' :: 'p' :: value => .set .password value
  | '-' :: 'u' :: _ => .choose .removeService
  | '-' :: 's' :: _ => .choose .startupService
  | '-' :: 'e' :: _ => .choose .endService
  | '-' :: 'd' :: _ => .debug false
  | '-' :: 'f' :: _ => .debug true
  | _ => .ignored

inductive Ending where
  | called (settings : Settings)
  | debugging (faceless : Bool) (settings : Settings)
  /-- With a read behind the array. -/
  | outside
  deriving DecidableEq, Repr

def registerLoop : List Word → Settings → Ending
  | [], settings => .called settings
  | word :: rest, settings =>
    match switchOf word with
    | .choose fnc => registerLoop rest { settings with fnc := fnc }
    | .set setting [] =>
      match rest with
      | [] => .outside
      | value :: rest => registerLoop rest (settings.put value setting)
    | .set setting value => registerLoop rest (settings.put value setting)
    | .debug faceless => .debugging faceless settings
    | .ignored => registerLoop rest settings

inductive Called where
  | fnc (fnc : Fnc)
  | debugService (faceless : Bool)
  deriving DecidableEq, Repr

def start : Settings := ⟨.startDispatcher, none, none⟩

/-- What is called behind the last argument. On Win95 a service without switches runs faceless. -/
def callOf (osIsWin95 : Bool) (settings : Settings) : Called :=
  if settings.fnc = .startDispatcher ∧ osIsWin95 = true then .debugService true else .fnc settings.fnc

/-- `RegisterService`, with no result when it reads behind the array. -/
def registerService (osIsWin95 : Bool) (arguments : List Word) : Option (Called × Settings) :=
  match registerLoop arguments start with
  | .outside => none
  | .debugging faceless settings => some (.debugService faceless, settings)
  | .called settings => some (callOf osIsWin95 settings, settings)

/-! ## The grammar of the command line -/

/-- A switch with the argument it takes, if it takes one, or an argument that is none. -/
inductive Item where
  | choose (word : Word) (fnc : Fnc) (chooses : switchOf word = .choose fnc)
  | joined (word : Word) (setting : Setting) (value : Word) (sets : switchOf word = .set setting value)
      (nonempty : value ≠ [])
  | separate (word : Word) (setting : Setting) (sets : switchOf word = .set setting []) (value : Word)
  | ignored (word : Word) (ignores : switchOf word = .ignored)

namespace Item

def words : Item → List Word
  | .choose word _ _ => [word]
  | .joined word _ _ _ _ => [word]
  | .separate word _ _ value => [word, value]
  | .ignored word _ => [word]

def apply (settings : Settings) : Item → Settings
  | .choose _ fnc _ => { settings with fnc := fnc }
  | .joined _ setting value _ _ => settings.put value setting
  | .separate _ setting _ value => settings.put value setting
  | .ignored _ _ => settings

end Item

def line (items : List Item) : List Word := items.flatMap Item.words

def endsIn (settings : Settings) : List Word → Ending
  | [] => .called settings
  | word :: _ =>
    match switchOf word with
    | .debug faceless => .debugging faceless settings
    | _ => .outside

inductive Stops : List Word → Prop where
  | finished : Stops []
  | debugs {word : Word} {rest : List Word} {faceless : Bool} : switchOf word = .debug faceless → Stops (word :: rest)
  | bare {word : Word} {setting : Setting} : switchOf word = .set setting [] → Stops [word]

variable {settings : Settings} {arguments rest : List Word}

theorem registerLoop_item (item : Item) : registerLoop (item.words ++ rest) settings =
    registerLoop rest (item.apply settings) := by
  cases item with
  | choose word fnc chooses =>
    rw [Item.words, List.singleton_append, registerLoop, chooses]
    rfl
  | joined word setting value sets nonempty =>
    obtain ⟨c, value, rfl⟩ := List.exists_cons_of_ne_nil nonempty
    rw [Item.words, List.singleton_append, registerLoop, sets]
    rfl
  | separate word setting sets value =>
    rw [Item.words, List.cons_append, List.singleton_append, registerLoop, sets]
    rfl
  | ignored word ignores =>
    rw [Item.words, List.singleton_append, registerLoop, ignores]
    rfl

theorem registerLoop_line (items : List Item) : registerLoop (line items ++ rest) settings =
    registerLoop rest (items.foldl Item.apply settings) := by
  induction items generalizing settings with
  | nil => rfl
  | cons item items ih =>
    rw [line, List.flatMap_cons, List.append_assoc, registerLoop_item, List.foldl_cons]
    exact ih

theorem registerLoop_stops (stops : Stops rest) : registerLoop rest settings = endsIn settings rest := by
  cases stops with
  | finished => rfl
  | debugs debugs => rw [registerLoop, endsIn, debugs]
  | bare sets => rw [registerLoop, endsIn, sets]

/-- Every command line is one of items, up to where the loop stops. -/
theorem exists_line (arguments : List Word) : ∃ items rest, arguments = line items ++ rest ∧ Stops rest := by
  induction length : arguments.length using Nat.strongRecOn generalizing arguments with
  | ind n ih =>
    -- An item at the front leaves fewer arguments.
    have more (item : Item) (later : List Word) (split : arguments = item.words ++ later)
        (shorter : later.length < n) : ∃ items rest, arguments = line items ++ rest ∧ Stops rest := by
      obtain ⟨items, rest, same, stops⟩ := ih later.length shorter later rfl
      refine ⟨item :: items, rest, ?_, stops⟩
      rw [split, same, line, line, List.flatMap_cons, List.append_assoc]
    cases arguments with
    | nil => exact ⟨[], [], rfl, .finished⟩
    | cons word later =>
      have fewer : later.length < n := by
        rw [← length]
        exact Nat.lt_succ_self _
      cases asks : switchOf word with
      | choose fnc => exact more (.choose word fnc asks) later rfl fewer
      | debug faceless => exact ⟨[], word :: later, rfl, .debugs asks⟩
      | ignored => exact more (.ignored word asks) later rfl fewer
      | set setting value =>
        by_cases empty : value = []
        · rw [empty] at asks
          cases later with
          | nil => exact ⟨[], [word], rfl, .bare asks⟩
          | cons next later => exact more (.separate word setting asks next) later rfl (Nat.lt_of_succ_lt fewer)
        · exact more (.joined word setting value asks empty) later rfl fewer

inductive Calls (osIsWin95 : Bool) (settings : Settings) : List Word → Called → Prop where
  | finished : Calls osIsWin95 settings [] (callOf osIsWin95 settings)
  | debugs {word : Word} {later : List Word} {faceless : Bool} : switchOf word = .debug faceless →
      Calls osIsWin95 settings (word :: later) (.debugService faceless)

theorem registerService_line (osIsWin95 : Bool) (items : List Item) (stops : Stops rest) :
    (∃ word setting, switchOf word = .set setting [] ∧ rest = [word]) ∧
        registerService osIsWin95 (line items ++ rest) = none ∨
      ∃ called, Calls osIsWin95 (items.foldl Item.apply start) rest called ∧
        registerService osIsWin95 (line items ++ rest) = some (called, items.foldl Item.apply start) := by
  unfold registerService
  rw [registerLoop_line, registerLoop_stops stops]
  cases stops with
  | finished => exact Or.inr ⟨_, .finished, rfl⟩
  | debugs debugs =>
    rw [endsIn, debugs]
    exact Or.inr ⟨_, .debugs debugs, rfl⟩
  | bare sets =>
    rw [endsIn, sets]
    exact Or.inl ⟨⟨_, _, sets, rfl⟩, rfl⟩

/-- `RegisterService` reads behind the arguments exactly if "-l" or "-p" ends them without a value, and otherwise it
calls what the items before the end ask for, with the settings of the last items that set them. -/
theorem registerService_iff (osIsWin95 : Bool) (arguments : List Word) :
    (registerService osIsWin95 arguments = none ↔ ∃ items word setting, switchOf word = .set setting [] ∧
      arguments = line items ++ [word]) ∧
    ∀ called settings, registerService osIsWin95 arguments = some (called, settings) ↔ ∃ items rest,
      arguments = line items ++ rest ∧ settings = items.foldl Item.apply start ∧
        Calls osIsWin95 settings rest called := by
  constructor
  · constructor
    · intro outside
      obtain ⟨items, rest, rfl, stops⟩ := exists_line arguments
      rcases registerService_line osIsWin95 items stops with ⟨⟨word, setting, bare, rfl⟩, -⟩ | ⟨called, -, returns⟩
      · exact ⟨items, word, setting, bare, rfl⟩
      · cases returns.symm.trans outside
    · rintro ⟨items, word, setting, bare, rfl⟩
      unfold registerService
      rw [registerLoop_line, registerLoop_stops (.bare bare), endsIn, bare]
  · intro called settings
    constructor
    · intro returns
      obtain ⟨items, rest, rfl, stops⟩ := exists_line arguments
      rcases registerService_line osIsWin95 items stops with ⟨-, outside⟩ | ⟨other, calls, found⟩
      · cases returns.symm.trans outside
      · cases returns.symm.trans found
        exact ⟨items, rest, rfl, rfl, calls⟩
    · rintro ⟨items, rest, rfl, rfl, calls⟩
      unfold registerService
      cases calls with
      | finished =>
        rw [registerLoop_line]
        rfl
      | debugs debugs => rw [registerLoop_line, registerLoop_stops (.debugs debugs), endsIn, debugs]

example : registerService false ["-i".toList, "-l".toList, "-d".toList, "-pword".toList] =
    some (.fnc .installService, ⟨.installService, some "-d".toList, some "word".toList⟩) := by decide

end Foolject.Reload.Arguments
