import Foolject.Hmp.CommandLine

/-! Which orders the command line can give.

They are those whose texts could have been typed: not empty, short enough for their buffers, and not
beginning with `back`.
-/

set_option autoImplicit false

namespace Foolject.Hmp.CommandLine
open Transducer Dialogue

/-! ## Words -/

/-- No word begins with another, so the order of the tests does not matter. -/
theorem text_prefixFree : ∀ one ∈ Word.all, ∀ two ∈ Word.all, one.text <+: two.text → one = two := by decide

theorem Word.mem_all (word : Word) : word ∈ all := by
  cases word <;> decide

theorem take_of_begins {word line : Line} (here : begins word line = true) :
    (line.take word.length).map Char.toLower = word := of_decide_eq_true here

theorem prefix_of_begins {short long line : Line} (one : begins short line = true) (two : begins long line = true)
    (shorter : short.length ≤ long.length) : short <+: long := by
  rw [← take_of_begins one, ← take_of_begins two]
  exact (List.take_prefix_take_left shorter).map Char.toLower

theorem Word.eq_of_begins {one two : Word} {input : Line} (first : begins one.text input = true)
    (second : begins two.text input = true) : one = two := by
  rcases Nat.le_total one.text.length two.text.length with shorter | longer
  · exact text_prefixFree one one.mem_all two two.mem_all (prefix_of_begins first second shorter)
  · exact (text_prefixFree two two.mem_all one one.mem_all (prefix_of_begins second first longer)).symm

theorem Word.of_eq_some_iff {word : Word} {input : Line} : of input = some word ↔ begins word.text input = true := by
  have found {other : Word} (found : of input = some other) : begins other.text input = true :=
    @List.find?_some _ (fun word : Word => begins word.text input) _ _ found
  constructor
  · exact found
  · intro here
    have isSome : (of input).isSome = true := List.find?_isSome.mpr ⟨word, word.mem_all, here⟩
    obtain ⟨other, this⟩ := Option.isSome_iff_exists.mp isSome
    rw [this, eq_of_begins (found this) here]

/-! ## Texts -/

def Word.defaults : Word → List (Buffer × Line)
  | .makeCall => [(.ani, "30@192.168.101.30".toList), (.dnis, "31@192.168.101.30".toList), (.dnisAlias, "31".toList)]
  | .blindXfer => [(.dnis, "31@192.168.101.30".toList)]
  | .playFile => [(.file, "play.wav".toList)]
  | .sendFax | .glareFax => [(.file, "fax.tif".toList)]
  | .register =>
    [(.proxyIp, "192.168.101.58".toList), (.localIp, "192.168.101.30".toList), (.ownAlias, "30".toList),
      (.password, "30".toList), (.realm, "ewings".toList)]
  | _ => []

def defaults : List (Buffer × Line) := Word.all.flatMap Word.defaults

structure Typable (sizes : Sizes) (buffer : Buffer) (text : Line) : Prop where
  typed : text ≠ []
  accepted : (terms sizes).Accepts buffer text

theorem typable_default (sizes : Sizes) : ∀ text ∈ defaults, Typable sizes text.1 text.2 := by
  intro text default
  have short : text.2 ≠ [] ∧ text.2.length < text.1.size ⟨18, 0, 0, 0, le_refl 18⟩ ∧ begins back text.2 = false := by
    revert text
    decide
  have larger : text.1.size ⟨18, 0, 0, 0, le_refl 18⟩ ≤ text.1.size sizes := by
    cases text.1 <;> first | exact le_refl _ | exact sizes.enough
  exact ⟨short.1, lt_of_lt_of_le short.2.1 larger, short.2.2⟩

namespace Order

def texts : Order → List (Buffer × Line)
  | .makeCall _ ani dnis => [(.ani, ani), (.dnis, dnis)]
  | .makeCallAlias _ dnisAlias => [(.dnisAlias, dnisAlias)]
  | .blindXfer _ dnis => [(.dnis, dnis)]
  | .playWaveFile _ file | .sendFax _ file | .glareFax file => [(.file, file)]
  | .registration identity =>
    [(.proxyIp, identity.proxyIp), (.localIp, identity.localIp), (.ownAlias, identity.ownAlias),
      (.password, identity.password), (.realm, identity.realm)]
  | _ => []

/-- A call is made through the proxy if the program is registered there. -/
def Suits (registered : Bool) : Order → Prop
  | .makeCall .. => registered = false
  | .makeCallAlias .. => registered = true
  | _ => True

structure WellFormed (sizes : Sizes) (registered : Bool) (order : Order) : Prop where
  suits : order.Suits registered
  typable : ∀ text ∈ order.texts, Typable sizes text.1 text.2

end Order

def Order.identity (before : Identity) : Order → Identity
  | .registration identity => identity
  | _ => before

structure Ends (good : Buffer → Line → Prop) (registered : Bool) (before : Identity) (order : Order)
    (memory : Buffer → Line) : Prop where
  suits : order.Suits registered
  texts : ∀ text ∈ order.texts, good text.1 text.2
  identity : identityOf memory = order.identity before

section Ensures
variable {good : Buffer → Line → Prop} {registered : Bool} {memory : Buffer → Line}

theorem Ends.of_nil {before : Identity} {order : Order} (suits : order.Suits registered) (empty : order.texts = [])
    (same : identityOf memory = order.identity before) : Ends good registered before order memory where
  suits := suits
  texts := by
    rw [empty]
    exact fun _ nothing => absurd nothing List.not_mem_nil
  identity := same

theorem Ends.of_single {before : Identity} {order : Order} {buffer : Buffer} {text : Line}
    (suits : order.Suits registered) (single : order.texts = [(buffer, text)]) (fine : good buffer text)
    (same : identityOf memory = order.identity before) : Ends good registered before order memory where
  suits := suits
  texts := by
    rw [single]
    exact fun _ member => List.mem_singleton.mp member ▸ fine
  identity := same

theorem ensures_askIndex {ends : Order → (Buffer → Line) → Prop} {fallback : Index} {next : Index → Asking}
    (any : ∀ line, good .input line)
    (later : ∀ index line, (next index).Ensures good ends (Function.update memory .input line)) :
    (askIndex fallback next).Ensures good ends memory :=
  ⟨any [], fun line _ => later (indexOf fallback line) line⟩

theorem ensures_ask (word : Word) (any : ∀ line, good .input line ∧ good .confirm line)
    (ready : ∀ text ∈ word.defaults, good text.1 text.2) {before : Identity} (same : identityOf memory = before) :
    (ask registered word).Ensures good (Ends good registered before) memory := by
  subst same
  have index := fun line => (any line).1
  cases word <;> dsimp only [ask]
  case quit => exact .of_nil trivial rfl rfl
  case help => exact .of_nil trivial rfl rfl
  case makeCall =>
    cases registered with
    | true =>
      rw [if_pos rfl]
      refine ensures_askIndex index fun index line => ⟨ready (.dnisAlias, _) (by decide), fun dnisAlias fine => ?_⟩
      exact .of_single rfl rfl fine rfl
    | false =>
      rw [if_neg Bool.false_ne_true]
      refine ensures_askIndex index fun index line => ⟨ready (.ani, _) (by decide), fun ani fine => ?_⟩
      refine ⟨ready (.dnis, _) (by decide), fun dnis fine' => ⟨rfl, fun text member => ?_, rfl⟩⟩
      rcases List.mem_cons.mp member with rfl | last
      · exact fine
      · rw [List.mem_singleton.mp last]
        exact fine'
  case dropCall => exact ensures_askIndex index fun index line => .of_nil trivial rfl rfl
  case blindXfer =>
    refine ensures_askIndex index fun index line => ⟨ready (.dnis, _) (by decide), fun dnis fine => ?_⟩
    exact .of_single trivial rfl fine rfl
  case superXfer =>
    refine ensures_askIndex index fun first line => ensures_askIndex index fun second line => ?_
    exact .of_nil trivial rfl rfl
  case playFile =>
    refine ensures_askIndex index fun index line => ⟨ready (.file, _) (by decide), fun file fine => ?_⟩
    exact .of_single trivial rfl fine rfl
  case recordFile => exact ensures_askIndex index fun index line => .of_nil trivial rfl rfl
  case sendFax =>
    refine ensures_askIndex index fun index line => ⟨ready (.file, _) (by decide), fun file fine => ?_⟩
    exact .of_single trivial rfl fine rfl
  case receiveFax => exact ensures_askIndex index fun index line => .of_nil trivial rfl rfl
  case glareFax =>
    refine ⟨(any []).2, fun confirm _ => ?_⟩
    dsimp only
    by_cases confirmed : confirms confirm
    · rw [if_pos confirmed]
      refine ⟨ready (.file, _) (by decide), fun file fine => ?_⟩
      exact .of_single trivial rfl fine rfl
    · rw [if_neg confirmed]
      exact .of_nil trivial rfl rfl
  case stop => exact ensures_askIndex index fun index line => .of_nil trivial rfl rfl
  case modifyCall => exact ensures_askIndex index fun index line => .of_nil trivial rfl rfl
  case register =>
    refine ⟨ready (.proxyIp, _) (by decide), fun proxyIp fine1 => ?_⟩
    refine ⟨ready (.localIp, _) (by decide), fun localIp fine2 => ?_⟩
    refine ⟨ready (.ownAlias, _) (by decide), fun ownAlias fine3 => ?_⟩
    refine ⟨ready (.password, _) (by decide), fun password fine4 => ?_⟩
    refine ⟨ready (.realm, _) (by decide), fun realm fine5 => ⟨trivial, fun text member => ?_, rfl⟩⟩
    simp only [Order.texts, List.mem_cons, List.not_mem_nil, or_false] at member
    rcases member with rfl | rfl | rfl | rfl | rfl
    · exact fine1
    · exact fine2
    · exact fine3
    · exact fine4
    · exact fine5
  case unregister => exact .of_nil trivial rfl rfl
  case enumDevices => exact .of_nil trivial rfl rfl
  case caps => exact .of_nil trivial rfl rfl
  case stat => exact .of_nil trivial rfl rfl

/-- What holds of every default and every answer holds of the texts of the order. -/
theorem ensures_analyseCli (any : ∀ line, good .input line ∧ good .confirm line)
    (ready : ∀ text ∈ defaults, good text.1 text.2) :
    (analyseCli registered).Ensures good (Ends good registered (identityOf memory)) memory := by
  refine ⟨(any []).1, fun input _ => ?_⟩
  dsimp only
  cases Word.of input with
  | none => exact .of_nil trivial rfl rfl
  | some word =>
    refine ensures_ask word any (fun text member => ready text ?_) rfl
    exact List.mem_flatMap.mpr ⟨word, word.mem_all, member⟩

end Ensures

/-! ## Scripts -/

def digits (index : Index) : Line := (toString index.val).toList

namespace Order

/-- What can be typed for an order. -/
def script : Order → List Line
  | .quit => [Word.quit.text]
  | .help => [Word.help.text]
  | .makeCall index ani dnis => [Word.makeCall.text, digits index, ani, dnis]
  | .makeCallAlias index dnisAlias => [Word.makeCall.text, digits index, dnisAlias]
  | .dropCall index => [Word.dropCall.text, digits index]
  | .blindXfer index dnis => [Word.blindXfer.text, digits index, dnis]
  | .initSuperXfer index second => [Word.superXfer.text, digits index, digits second]
  | .playWaveFile index file => [Word.playFile.text, digits index, file]
  | .recordWaveFile index => [Word.recordFile.text, digits index]
  | .sendFax index file => [Word.sendFax.text, digits index, file]
  | .receiveFax index => [Word.receiveFax.text, digits index]
  | .glareFax file => [Word.glareFax.text, [], file]
  | .stop index => [Word.stop.text, digits index]
  | .reqModifyCall index => [Word.modifyCall.text, digits index]
  | .registration identity =>
    [Word.register.text, identity.proxyIp, identity.localIp, identity.ownAlias, identity.password, identity.realm]
  | .unregistration => [Word.unregister.text]
  | .enumDevInformation => [Word.enumDevices.text]
  | .enumSupportCapabilities => [Word.caps.text]
  | .printSysStatus => [Word.stat.text]
  | .nothing => [[]]

end Order

section Script
variable {sizes : Sizes} {registered : Bool} {order : Order} {rest : List Line} {memory after : Buffer → Line}

theorem accepts_input {line : Line} (short : line.length < 18) (goesOn : begins back line = false) :
    (terms sizes).Accepts .input line := ⟨lt_of_lt_of_le short sizes.enough, goesOn⟩

theorem answers_word {word : Word} (answers : Answered (terms sizes) (ask registered word)
    (Function.update memory .input word.text) rest order after) :
    Answered (terms sizes) (analyseCli registered) memory (word.text :: rest) order after := by
  have fits : word.text.length < 18 ∧ begins back word.text = false ∧ word.text ≠ [] := by
    cases word <;> decide
  have found : Word.of word.text = some word := by
    cases word <;> rfl
  refine .line (accepts_input fits.1 fits.2.1) ?_
  rw [meant_of_ne fits.2.2, found]
  exact answers

theorem answers_index {index fallback : Index} {next : Index → Asking}
    (answers : Answered (terms sizes) (next index) (Function.update memory .input (digits index)) rest order after) :
    Answered (terms sizes) (askIndex fallback next) memory (digits index :: rest) order after := by
  have both : ∀ index : Index, (digits index).length < 18 ∧ begins back (digits index) = false ∧ digits index ≠ [] ∧
      0 ≤ atoi (digits index) ∧ atoi (digits index) < maxChannels ∧ (atoi (digits index)).toNat = index.val := by
    decide
  obtain ⟨short, goesOn, typed, low, high, same⟩ := both index
  refine .line (accepts_input short goesOn) ?_
  have read : indexOf fallback (digits index) = index := by
    unfold indexOf
    rw [dif_pos ⟨low, high⟩]
    exact Fin.ext same
  rw [meant_of_ne typed, read]
  exact answers

theorem answers_text {buffer : Buffer} {fallback text : Line} {next : Line → Asking}
    (typable : Typable sizes buffer text)
    (answers : Answered (terms sizes) (next text) (Function.update memory buffer text) rest order after) :
    Answered (terms sizes) (.gets buffer fallback next) memory (text :: rest) order after := by
  refine .line typable.accepted ?_
  rw [meant_of_ne typable.typed]
  exact answers

attribute [local irreducible] askIndex in
theorem answers_script (wellFormed : order.WellFormed sizes registered) :
    ∃ after, Answered (terms sizes) (analyseCli registered) memory order.script order after := by
  obtain ⟨suits, typable⟩ := wellFormed
  cases order with
  | quit => exact ⟨_, answers_word .done⟩
  | help => exact ⟨_, answers_word .done⟩
  | makeCall index ani dnis =>
    obtain rfl : registered = false := suits
    exact ⟨_, answers_word (answers_index (answers_text (typable (.ani, ani) List.mem_cons_self)
      (answers_text (typable (.dnis, dnis) (List.mem_cons_of_mem _ List.mem_cons_self)) .done)))⟩
  | makeCallAlias index dnisAlias =>
    obtain rfl : registered = true := suits
    exact ⟨_, answers_word (answers_index (answers_text (typable (.dnisAlias, dnisAlias) List.mem_cons_self) .done))⟩
  | dropCall index => exact ⟨_, answers_word (answers_index .done)⟩
  | blindXfer index dnis =>
    exact ⟨_, answers_word (answers_index (answers_text (typable (.dnis, dnis) List.mem_cons_self) .done))⟩
  | initSuperXfer index second => exact ⟨_, answers_word (answers_index (answers_index .done))⟩
  | playWaveFile index file =>
    exact ⟨_, answers_word (answers_index (answers_text (typable (.file, file) List.mem_cons_self) .done))⟩
  | recordWaveFile index => exact ⟨_, answers_word (answers_index .done)⟩
  | sendFax index file =>
    exact ⟨_, answers_word (answers_index (answers_text (typable (.file, file) List.mem_cons_self) .done))⟩
  | receiveFax index => exact ⟨_, answers_word (answers_index .done)⟩
  | glareFax file =>
    have accepts : (terms sizes).Accepts .confirm [] := ⟨Nat.zero_lt_two, rfl⟩
    exact ⟨_, answers_word (.line accepts (answers_text (typable (.file, file) List.mem_cons_self) .done))⟩
  | stop index => exact ⟨_, answers_word (answers_index .done)⟩
  | reqModifyCall index => exact ⟨_, answers_word (answers_index .done)⟩
  | registration identity =>
    have each : ∀ text ∈ (Order.registration identity).texts, Typable sizes text.1 text.2 := typable
    simp only [Order.texts, List.forall_mem_cons] at each
    obtain ⟨proxyIp, localIp, ownAlias, password, realm, -⟩ := each
    exact ⟨_, answers_word (answers_text proxyIp (answers_text localIp (answers_text ownAlias
      (answers_text password (answers_text realm .done)))))⟩
  | unregistration => exact ⟨_, answers_word .done⟩
  | enumDevInformation => exact ⟨_, answers_word .done⟩
  | enumSupportCapabilities => exact ⟨_, answers_word .done⟩
  | printSysStatus => exact ⟨_, answers_word .done⟩
  | nothing => exact ⟨_, .line (accepts_input (by decide) rfl) .done⟩

end Script

/-! ## Sessions -/

def Turn.order : Turn → Option Order
  | .ordered order _ => some order
  | .calledOff => none

def orders (turns : List Turn) : List Order := turns.filterMap Turn.order

structure Account where
  registered : Bool
  identity : Identity
  left : Bool

def Account.after (account : Account) (order : Order) : Account where
  registered := order.registered account.registered
  identity := order.identity account.identity
  left := order = .quit

def Account.Fits (sizes : Sizes) (account : Account) (order : Order) : Prop :=
  ∀ print ∈ order.printed sizes account.registered (account.after order).identity, print.2.length < print.1

instance (sizes : Sizes) (account : Account) (order : Order) : Decidable (account.Fits sizes order) :=
  inferInstanceAs (Decidable (∀ print ∈ _, _))

/-- An order that can be given. -/
structure Account.Allows (sizes : Sizes) (account : Account) (order : Order) : Prop where
  here : account.left = false
  wellFormed : order.WellFormed sizes account.registered

def follow : Account → List Order → List Turn
  | _, [] => []
  | account, order :: rest =>
    .ordered order (order.sent account.registered (account.after order).identity) :: follow (account.after order) rest

def Account.start : Account := ⟨false, ⟨[], [], [], [], []⟩, false⟩

namespace Session

variable {sizes : Sizes} {s : Session} {order : Order} {lines : List Line}

theorem perform_fits (fits : s.Fits sizes order) : perform sizes order s =
    ({ s with
        registered := order.registered s.registered
        place := if order = .quit then .left else .asks (analyseCli (order.registered s.registered)) },
      [.ordered order (order.sent s.registered (identityOf s.memory))]) := if_pos fits

theorem settle_gets {buffer : Buffer} {fallback : Line} {next : Line → Asking} :
    settle sizes (.gets buffer fallback next) s = ({ s with place := .asks (.gets buffer fallback next) }, []) := rfl

theorem feed_accepts {buffer : Buffer} {fallback line : Line} {next : Line → Asking}
    (asks : s.place = .asks (.gets buffer fallback next)) (accepts : (terms sizes).Accepts buffer line) :
    feed sizes line s = settle sizes (next (meant fallback line))
      { s with memory := Function.update s.memory buffer (meant fallback line) } := by
  have fits : line.length < buffer.size sizes := accepts.fits
  have goesOn : begins back line = false := accepts.goesOn
  unfold feed
  rw [asks]
  dsimp only
  rw [if_neg (not_le.mpr fits), if_neg (Bool.eq_false_iff.mp goesOn)]

theorem runAll_answers {asking : Asking} {memory after : Buffer → Line}
    (answers : Answered (terms sizes) asking memory lines order after) (same : s.memory = memory) :
    andThen (settle sizes asking) (runAll (feed sizes) lines) s = perform sizes order { s with memory := after } := by
  induction answers generalizing s with
  | done =>
    subst same
    unfold andThen runAll skip
    dsimp only
    rw [List.append_nil]
    rfl
  | @line buffer fallback line next memory after rest order accepts _ ih =>
    subst same
    have here := @feed_accepts sizes { s with place := .asks (.gets buffer fallback next) } _ _ _ _ rfl accepts
    have later := @ih { s with
      memory := Function.update s.memory buffer (meant fallback line), place := .asks (.gets buffer fallback next) } rfl
    unfold andThen at later ⊢
    rw [settle_gets, runAll]
    unfold andThen
    dsimp only
    rw [List.nil_append, here]
    exact later

/-- A script, typed where a command is asked for, comes to its order. -/
theorem runAll_script (asks : s.place = .asks (analyseCli s.registered))
    (wellFormed : order.WellFormed sizes s.registered) : ∃ after,
      runAll (feed sizes) order.script s = perform sizes order { s with memory := after } ∧
      identityOf after = order.identity (identityOf s.memory) := by
  obtain ⟨after, answers⟩ := @answers_script sizes s.registered order s.memory wellFormed
  have ensures := @ensures_analyseCli (fun _ _ => True) s.registered s.memory (fun _ => ⟨trivial, trivial⟩)
    fun _ _ => trivial
  refine ⟨after, ?_, (ensures.answered answers fun _ _ _ _ => trivial).identity⟩
  rw [← runAll_answers answers rfl]
  -- The first question is asked already.
  have settled : settle sizes (analyseCli s.registered) s = (s, []) := by
    obtain ⟨registered, memory, place⟩ := s
    obtain rfl : place = .asks (analyseCli registered) := asks
    rfl
  unfold andThen
  rw [settled]
  rfl

/-! ### What a line does -/

def Regular (good : Buffer → Line → Prop) (s : Session) : Prop :=
  ∀ asking, s.place = .asks asking → ∃ buffer fallback next before,
    asking = .gets buffer fallback next ∧ asking.Ensures good (Ends good s.registered before) s.memory

/-- The texts that stand for empty answers are `good`, and so is any line where no text is asked for. -/
structure Sensible (good : Buffer → Line → Prop) : Prop where
  any : ∀ line, good .input line ∧ good .confirm line
  ready : ∀ text ∈ defaults, good text.1 text.2

theorem regular_start {good : Buffer → Line → Prop} (sensible : Sensible good) : start.Regular good := by
  rintro asking ⟨⟩
  exact ⟨_, _, _, _, rfl, ensures_analyseCli sensible.any sensible.ready⟩

def Takes (sizes : Sizes) (s : Session) (line : Line) : Prop :=
  ∃ buffer fallback next, s.place = .asks (.gets buffer fallback next) ∧ (terms sizes).Accepts buffer line

def Enters (good : Buffer → Line → Prop) (s : Session) (memory : Buffer → Line) : Prop :=
  ∃ buffer value, good buffer value ∧ memory = Function.update s.memory buffer value

inductive Fed (sizes : Sizes) (good : Buffer → Line → Prop) (s : Session) (line : Line) :
    Session × List Turn → Prop where
  | ignored : (∀ asking, s.place ≠ .asks asking) → Fed sizes good s line (s, [])
  | tooLong {buffer : Buffer} {fallback : Line} {next : Line → Asking} : s.place = .asks (.gets buffer fallback next) →
      buffer.size sizes ≤ line.length → Fed sizes good s line ({ s with place := .overrun }, [])
  | calledOff {buffer : Buffer} {fallback : Line} {next : Line → Asking} :
      s.place = .asks (.gets buffer fallback next) → line.length < buffer.size sizes → begins back line = true →
      Fed sizes good s line
        ({ s with memory := Function.update s.memory buffer line, place := .asks (analyseCli s.registered) },
          [.calledOff])
  | goesOn {buffer : Buffer} {memory : Buffer → Line} {fallback : Line} {next : Line → Asking} {before : Identity} :
      s.Takes sizes line → s.Enters good memory →
      (Dialogue.gets buffer fallback next).Ensures good (Ends good s.registered before) memory →
      Fed sizes good s line ({ s with memory := memory, place := .asks (.gets buffer fallback next) }, [])
  | printsTooMuch {order : Order} {memory : Buffer → Line} {before : Identity} : s.Takes sizes line →
      s.Enters good memory → Ends good s.registered before order memory →
      ¬ Fits sizes { s with memory := memory } order →
      Fed sizes good s line ({ s with memory := memory, place := .overrun }, [])
  | ordered {order : Order} {memory : Buffer → Line} {before : Identity} : s.Takes sizes line →
      s.Enters good memory → Ends good s.registered before order memory →
      Fits sizes { s with memory := memory } order →
      Fed sizes good s line
        ({ registered := order.registered s.registered
           memory := memory
           place := if order = .quit then .left else .asks (analyseCli (order.registered s.registered)) },
          [.ordered order (order.sent s.registered (identityOf memory))])

variable {good : Buffer → Line → Prop}

theorem feed_asks {buffer : Buffer} {fallback line : Line} {next : Line → Asking} {before : Identity}
    (asks : s.place = .asks (.gets buffer fallback next))
    (later : (terms sizes).Accepts buffer line → good buffer (meant fallback line) ∧
      (next (meant fallback line)).Ensures good (Ends good s.registered before)
        (Function.update s.memory buffer (meant fallback line))) : Fed sizes good s line (feed sizes line s) := by
  by_cases long : buffer.size sizes ≤ line.length
  · have same : feed sizes line s = ({ s with place := .overrun }, []) := by
      unfold feed
      rw [asks]
      exact if_pos long
    rw [same]
    exact .tooLong asks long
  · by_cases off : begins back line = true
    · have same : feed sizes line s = ({ s with
          memory := Function.update s.memory buffer line, place := .asks (analyseCli s.registered) },
          [.calledOff]) := by
        unfold feed
        rw [asks]
        dsimp only
        rw [if_neg long, if_pos off]
      rw [same]
      exact .calledOff asks (not_le.mp long) off
    · have accepts : (terms sizes).Accepts buffer line := ⟨not_le.mp long, Bool.eq_false_iff.mpr off⟩
      obtain ⟨fine, later⟩ := later accepts
      have enters : s.Enters good (Function.update s.memory buffer (meant fallback line)) := ⟨buffer, _, fine, rfl⟩
      have takes : s.Takes sizes line := ⟨buffer, fallback, next, asks, accepts⟩
      rw [feed_accepts asks accepts]
      cases answered : next (meant fallback line) with
      | done order =>
        rw [answered] at later
        by_cases fits : Fits sizes { s with memory := Function.update s.memory buffer (meant fallback line) } order
        · rw [settle, perform_fits fits]
          exact .ordered takes enters later fits
        · have same : perform sizes order { s with memory := Function.update s.memory buffer (meant fallback line) } =
              ({ s with memory := Function.update s.memory buffer (meant fallback line), place := .overrun }, []) :=
            if_neg fits
          rw [settle, same]
          exact .printsTooMuch takes enters later fits
      | gets buffer fallback next =>
        rw [answered] at later
        exact .goesOn takes enters later

theorem feed_elsewhere {line : Line} (elsewhere : ∀ asking, s.place ≠ .asks asking) : feed sizes line s = (s, []) := by
  unfold feed
  split
  · next asks => exact absurd asks (elsewhere _)
  · rfl

theorem feed_cases {line : Line} (regular : s.Regular good)
    (fine : ∀ buffer, line ≠ [] → (terms sizes).Accepts buffer line → good buffer line) :
    Fed sizes good s line (feed sizes line s) := by
  by_cases asked : ∃ asking, s.place = .asks asking
  · obtain ⟨asking, asks⟩ := asked
    obtain ⟨buffer, fallback, next, before, rfl, ensures⟩ := regular asking asks
    exact feed_asks asks fun accepts =>
      have good := fun typed => fine buffer typed accepts
      ⟨of_meant ensures.1 good, ensures.meant good⟩
  · have elsewhere : ∀ asking, s.place ≠ .asks asking := fun asking asks => asked ⟨asking, asks⟩
    rw [feed_elsewhere elsewhere]
    exact .ignored elsewhere

theorem Fed.regular {line : Line} {after : Session × List Turn} (sensible : Sensible good) (regular : s.Regular good)
    (fed : Fed sizes good s line after) : after.1.Regular good := by
  have begins {registered : Bool} {memory : Buffer → Line} {asking : Asking}
      (asks : Place.asks (analyseCli registered) = .asks asking) : ∃ buffer fallback next before,
      asking = .gets buffer fallback next ∧ asking.Ensures good (Ends good registered before) memory := by
    cases asks
    exact ⟨_, _, _, _, rfl, ensures_analyseCli sensible.any sensible.ready⟩
  cases fed with
  | ignored _ => exact regular
  | tooLong _ _ => rintro asking ⟨⟩
  | calledOff _ _ _ => exact fun asking asks => begins asks
  | goesOn _ _ ensures =>
    rintro asking ⟨⟩
    exact ⟨_, _, _, _, rfl, ensures⟩
  | printsTooMuch _ _ _ _ => rintro asking ⟨⟩
  | @ordered order _ _ _ _ _ _ =>
    intro asking asks
    dsimp only at asks
    by_cases quits : order = .quit
    · rw [if_pos quits] at asks
      cases asks
    · rw [if_neg quits] at asks
      exact begins asks

/-! ### Runs -/

structure At (s : Session) (account : Account) : Prop where
  registered : s.registered = account.registered
  here : ∀ asking, s.place = .asks asking → account.left = false

def typing (sizes : Sizes) (buffer : Buffer) (text : Line) : Prop :=
  buffer ≠ .input → buffer ≠ .confirm → Typable sizes buffer text

theorem typing_sensible (sizes : Sizes) : Sensible (typing sizes) where
  any _ := ⟨fun different => absurd rfl different, fun _ different => absurd rfl different⟩
  ready text default _ _ := typable_default sizes text default

theorem wellFormed_of_ends {registered : Bool} {before : Identity} {memory : Buffer → Line}
    (ends : Ends (typing sizes) registered before order memory) : order.WellFormed sizes registered := by
  have asked : ∀ text ∈ order.texts, text.1 ≠ .input ∧ text.1 ≠ .confirm := by
    cases order <;> simp [Order.texts]
  exact ⟨ends.suits, fun text member => ends.texts text member (asked text member).1 (asked text member).2⟩

/-- Whatever is typed, each order can be given where it is. -/
theorem orders_allowed {account : Account} (regular : s.Regular (typing sizes)) (place : s.At account)
    (lines : List Line) :
    Along Account.after (Account.Allows sizes) account (orders (runAll (feed sizes) lines s).2) := by
  induction lines generalizing s account with
  | nil => trivial
  | cons line rest ih =>
    have fed := @feed_cases sizes s _ line regular fun buffer typed accepts _ _ => ⟨typed, accepts⟩
    have later := fed.regular (typing_sensible sizes) regular
    have both : (runAll (feed sizes) (line :: rest) s).2 =
        (feed sizes line s).2 ++ (runAll (feed sizes) rest (feed sizes line s).1).2 := rfl
    rw [both]
    generalize feed sizes line s = after at fed later
    cases fed with
    | ignored _ => exact ih regular place
    | tooLong _ _ => exact ih later ⟨place.registered, by rintro _ ⟨⟩⟩
    | calledOff asks _ _ => exact ih later ⟨place.registered, fun _ _ => place.here _ asks⟩
    | goesOn takes _ _ =>
      obtain ⟨_, _, _, asks, -⟩ := takes
      exact ih later ⟨place.registered, fun _ _ => place.here _ asks⟩
    | printsTooMuch _ _ _ _ => exact ih later ⟨place.registered, by rintro _ ⟨⟩⟩
    | @ordered order _ _ takes _ ends _ =>
      obtain ⟨_, _, _, asks, -⟩ := takes
      refine ⟨⟨place.here _ asks, ?_⟩, ih later ⟨?_, ?_⟩⟩
      · rw [← place.registered]
        exact wellFormed_of_ends ends
      · exact congrArg order.registered place.registered
      · intro next asks
        dsimp only at asks
        unfold Account.after
        by_cases quits : order = .quit
        · rw [if_pos quits] at asks
          cases asks
        · exact decide_eq_false quits

structure Ready (s : Session) (account : Account) : Prop where
  registered : s.registered = account.registered
  identity : identityOf s.memory = account.identity
  asks : account.left = false → s.place = .asks (analyseCli s.registered)

/-- Orders that can be given come of their scripts. -/
theorem scripts_follow {account : Account} {orders : List Order} (ready : s.Ready account)
    (allowed : Along Account.after (fun account order => account.Allows sizes order ∧ account.Fits sizes order) account
      orders) : (runAll (feed sizes) (orders.flatMap Order.script) s).2 = follow account orders := by
  induction orders generalizing s account with
  | nil => rfl
  | cons order rest ih =>
    obtain ⟨⟨⟨here, wellFormed⟩, fits⟩, later⟩ := allowed
    rw [← ready.registered] at wellFormed
    obtain ⟨after, typed, identity⟩ := runAll_script (ready.asks here) wellFormed
    rw [ready.identity] at identity
    have inside : Fits sizes { s with memory := after } order := by
      unfold Fits
      rw [identity]
      dsimp only
      rw [ready.registered]
      exact fits
    rw [List.flatMap_cons, runAll_append]
    unfold andThen
    rw [typed, perform_fits inside]
    have next : Ready
        { registered := order.registered s.registered
          memory := after
          place := if order = .quit then .left else .asks (analyseCli (order.registered s.registered)) }
        (account.after order) :=
      ⟨congrArg order.registered ready.registered, identity, fun stays => if_neg (of_decide_eq_false stays)⟩
    dsimp only
    rw [ih next later, ready.registered, identity]
    rfl

end Session

/-- The orders that a session can give are those that `Account.Allows` has: whatever is typed, each order is allowed
where it is, and all lists of allowed orders that print nothing too long come of their scripts, with what they ask of
the service. No command word begins with another. -/
theorem orders_exactly (sizes : Sizes) :
    (∀ lines, Along Account.after (Account.Allows sizes) .start (orders (runAll (Session.feed sizes) lines .start).2)) ∧
    (∀ orders, Along Account.after (fun account order => account.Allows sizes order ∧ account.Fits sizes order) .start
        orders →
      (runAll (Session.feed sizes) (orders.flatMap Order.script) .start).2 = follow .start orders) ∧
    ∀ one two : Word, one.text <+: two.text → one = two := by
  refine ⟨?_, ?_, ?_⟩
  · intro lines
    exact Session.orders_allowed (Session.regular_start (Session.typing_sensible sizes)) ⟨rfl, fun _ _ => rfl⟩ lines
  · exact fun orders allowed => Session.scripts_follow ⟨rfl, rfl, fun _ => rfl⟩ allowed
  · exact fun one two => text_prefixFree one one.mem_all two two.mem_all

def exampleSizes : Sizes := ⟨128, 50, 64, 64, by decide⟩

def exampleIdentity : Identity where
  proxyIp := "192.168.101.58".toList
  localIp := "192.168.101.30".toList
  ownAlias := "30".toList
  password := "30".toList
  realm := "ewings".toList

theorem orders_exactly_registered :
    (runAll (Session.feed exampleSizes) ([.registration exampleIdentity, .makeCallAlias secondIndex "31".toList,
      .unregistration, .quit].flatMap Order.script) .start).2 =
      [.ordered (.registration exampleIdentity) [.authentication exampleIdentity, .register exampleIdentity],
        .ordered (.makeCallAlias secondIndex "31".toList)
          [.authentication exampleIdentity, .makeCallAlias secondIndex exampleIdentity "31".toList],
        .ordered .unregistration [.deregister], .ordered .quit []] := by
  -- To register, make a call through the proxy, unregister and quit.
  refine (orders_exactly exampleSizes).2.1 _ ?_
  have wellFormed {registered : Bool} {order : Order} (suits : order.Suits registered)
      (known : ∀ text ∈ order.texts, text ∈ defaults) : order.WellFormed exampleSizes registered :=
    ⟨suits, fun text member => typable_default exampleSizes text (known text member)⟩
  refine ⟨⟨⟨rfl, wellFormed trivial (by decide)⟩, by decide⟩, ?_⟩
  refine ⟨⟨⟨rfl, wellFormed rfl (by decide)⟩, by decide⟩, ?_⟩
  refine ⟨⟨⟨rfl, wellFormed trivial (by decide)⟩, by decide⟩, ?_⟩
  exact ⟨⟨⟨rfl, wellFormed trivial (by decide)⟩, by decide⟩, trivial⟩

end Foolject.Hmp.CommandLine
