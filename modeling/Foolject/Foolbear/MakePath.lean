import Mathlib.Data.List.DropRight
import Mathlib.Logic.Function.Basic

/-! The creation of a path with all its directories, as `foolbear.cpp` does it.

The file system is a set of directories. A path names the directory that it names without its trailing backslashes,
and `fool_make_path` cuts a path at its last backslash all the same: what a trailing one leaves is another name of the
directory that the path itself names.
-/

set_option autoImplicit false

namespace Foolject.Foolbear

def backslash : UInt8 := 92

/-! ## The file system -/

def strip (path : List UInt8) : List UInt8 := path.rdropWhile (· = backslash)

abbrev Dirs := List UInt8 → Bool

def Dirs.empty : Dirs := fun _ => false

def access (dirs : Dirs) (path : List UInt8) : Bool := dirs (strip path)

/-! ## The code -/

def substr (str : List UInt8) (count : Nat) : List UInt8 := str.take count

/-- The search goes back from the end, and stops at a backslash or at the first character. -/
def extractPath (fname : List UInt8) : Option (List UInt8) :=
  let searched := fname.rdropWhile (· ≠ backslash)
  if searched = [] then none else some (substr fname (searched.length - 1))

/-- The parent component of a path; one that is right behind the leading backslashes has none. -/
def parent (path : List UInt8) : Option (List UInt8) :=
  ((extractPath (strip path)).map strip).filter (· ≠ [])

def mkdir (dirs : Dirs) (path : List UInt8) : Bool × Dirs :=
  if access dirs path = false ∧ (parent path).all dirs then (true, Function.update dirs (strip path) true)
  else (false, dirs)

/-- What is left to do after the call for the front of the path. -/
def finish (path : List UInt8) (called : Bool × Dirs) : Bool × Dirs :=
  if called.1 then mkdir called.2 path else (false, called.2)

def ppathSize : Nat := 256

/-- Each call takes a unit of fuel, and a path too long for `ppath` has no result. -/
def makePath : Nat → Dirs → List UInt8 → Option (Bool × Dirs)
  | 0, _, _ => none
  | fuel + 1, dirs, path =>
    if path = [] ∨ access dirs path then some (true, dirs)
    else
      match extractPath path with
      | none => some (mkdir dirs path)
      | some ppath =>
        -- The front is written past the end of `ppath`.
        if ppathSize ≤ ppath.length then none
        else (makePath fuel dirs ppath).map (finish path)

variable {dirs : Dirs} {called after : Bool × Dirs} {path ppath front rest name : List UInt8} {fuel : Nat}

/-! ## Cutting a path -/

theorem strip_nil : strip [] = [] := rfl

@[simp] theorem strip_concat (front : List UInt8) : strip (front ++ [backslash]) = strip front :=
  List.rdropWhile_concat_pos _ _ _ (by simp)

theorem strip_of_last {last : UInt8} (other : last ≠ backslash) : strip (front ++ [last]) = front ++ [last] :=
  List.rdropWhile_concat_neg _ _ _ (by simpa using other)

theorem strip_of_free (free : backslash ∉ rest) (filled : rest ≠ []) (front : List UInt8) :
    strip (front ++ rest) = front ++ rest := by
  obtain ⟨start, last, rfl⟩ := rest.eq_nil_or_concat'.resolve_left filled
  rw [← List.append_assoc]
  exact strip_of_last fun found => free (by simp [found])

theorem strip_component (front : List UInt8) (free : backslash ∉ rest) (filled : rest ≠ []) :
    strip (front ++ backslash :: rest) = front ++ backslash :: rest := by
  have regroup : front ++ backslash :: rest = (front ++ [backslash]) ++ rest := by simp
  rw [regroup]
  exact strip_of_free free filled _

theorem length_strip_le (path : List UInt8) : (strip path).length ≤ path.length :=
  (List.rdropWhile_prefix _ _).length_le

@[simp] theorem extractPath_concat (front : List UInt8) : extractPath (front ++ [backslash]) = some front := by
  have searched : (front ++ [backslash]).rdropWhile (· ≠ backslash) = front ++ [backslash] :=
    List.rdropWhile_concat_neg _ _ _ (by simp)
  simp only [extractPath, searched, substr]
  simp

theorem extractPath_of_last {last : UInt8} (other : last ≠ backslash) :
    extractPath (front ++ [last]) = extractPath front := by
  have searched : (front ++ [last]).rdropWhile (· ≠ backslash) = front.rdropWhile (· ≠ backslash) :=
    List.rdropWhile_concat_pos _ _ _ (by simpa using other)
  have short : (front.rdropWhile (· ≠ backslash)).length - 1 ≤ front.length :=
    (Nat.sub_le _ _).trans (List.rdropWhile_prefix _ _).length_le
  simp only [extractPath, searched, substr, List.take_append_of_le_length short]

/-- The last backslash is cut off, with the characters behind it. -/
theorem extractPath_append (front : List UInt8) (free : backslash ∉ rest) :
    extractPath (front ++ backslash :: rest) = some front := by
  induction rest using List.reverseRecOn with
  | nil => exact extractPath_concat front
  | append_singleton start last previous =>
    obtain ⟨before, other⟩ : backslash ∉ start ∧ backslash ≠ last := by simpa using free
    have regroup : front ++ backslash :: (start ++ [last]) = (front ++ backslash :: start) ++ [last] := by simp
    rw [regroup, extractPath_of_last other.symm, previous before]

theorem extractPath_eq_some (cut : extractPath path = some ppath) :
    ∃ behind, backslash ∉ behind ∧ path = ppath ++ backslash :: behind := by
  induction path using List.reverseRecOn with
  | nil => exact absurd cut (by simp [extractPath])
  | append_singleton front last previous =>
    by_cases found : last = backslash
    · subst found
      rw [extractPath_concat] at cut
      obtain rfl := Option.some.inj cut
      exact ⟨[], by simp, rfl⟩
    · rw [extractPath_of_last found] at cut
      obtain ⟨behind, free, rfl⟩ := previous cut
      refine ⟨behind ++ [last], ?_, by simp⟩
      simpa [free] using Ne.symm found

theorem extractPath_eq_none (whole : extractPath path = none) : backslash ∉ path := by
  induction path using List.reverseRecOn with
  | nil => simp
  | append_singleton front last previous =>
    by_cases found : last = backslash
    · subst found
      rw [extractPath_concat] at whole
      exact absurd whole (by simp)
    · rw [extractPath_of_last found] at whole
      simpa [previous whole] using Ne.symm found

theorem extractPath_shorter (cut : extractPath path = some ppath) : ppath.length < path.length := by
  obtain ⟨behind, -, rfl⟩ := extractPath_eq_some cut
  simp

/-! ## The directories above -/

/-- The directory that the path names, and those above it. -/
inductive Upward : List UInt8 → List UInt8 → Prop where
  | self (path : List UInt8) : Upward path (strip path)
  | above {path ppath name : List UInt8} : extractPath (strip path) = some ppath → Upward ppath name →
      Upward path name

theorem Upward.length_le (upward : Upward path name) : name.length ≤ path.length := by
  induction upward with
  | self path => exact length_strip_le path
  | above cut _ shorter => exact shorter.trans ((extractPath_shorter cut).le.trans (length_strip_le _))

theorem Upward.of_strip (upward : Upward path name) (same : strip front = strip path) : Upward front name := by
  cases upward with
  | self => exact same ▸ Upward.self front
  | above cut higher => exact .above (same ▸ cut) higher

/-! ## Where the recursion comes -/

def Trailing (path : List UInt8) : Prop := ∃ front, front ≠ [] ∧ path = front ++ [backslash]

/-- The calls that go on to create something. -/
inductive Comes (dirs : Dirs) : List UInt8 → List UInt8 → Prop where
  | here {path : List UInt8} : path ≠ [] → access dirs path = false → Comes dirs path path
  | cut {path ppath later : List UInt8} : path ≠ [] → access dirs path = false → extractPath path = some ppath →
      Comes dirs ppath later → Comes dirs path later

def Blocked (dirs : Dirs) (path : List UInt8) : Prop := ∃ later, Comes dirs path later ∧ Trailing later

/-- The directory is missing, and is created under the path without its trailing backslashes. -/
def CreatedBefore (dirs : Dirs) (path : List UInt8) : Prop :=
  Trailing path ∧ access dirs path = false ∧ (strip path = [] ∨ ¬ Blocked dirs (strip path))

theorem not_blocked_of_stop (stop : path = [] ∨ access dirs path = true) : ¬ Blocked dirs path := by
  rintro ⟨later, comes, -⟩
  have going : path ≠ [] ∧ access dirs path = false := by
    cases comes with
    | here filled missing => exact ⟨filled, missing⟩
    | cut filled missing => exact ⟨filled, missing⟩
  rcases stop with empty | there
  · exact going.1 empty
  · exact absurd there (by simp [going.2])

/-- A call for a missing path is blocked at once, or where the call for its front is. -/
theorem blocked_iff (filled : path ≠ []) (missing : access dirs path = false) :
    Blocked dirs path ↔ Trailing path ∨ ∃ ppath, extractPath path = some ppath ∧ Blocked dirs ppath := by
  constructor
  · rintro ⟨later, comes, trailing⟩
    cases comes with
    | here => exact .inl trailing
    | cut _ _ cut further => exact .inr ⟨_, cut, later, further, trailing⟩
  · rintro (trailing | ⟨ppath, cut, later, further, trailing⟩)
    · exact ⟨path, .here filled missing, trailing⟩
    · exact ⟨later, .cut filled missing cut further, trailing⟩

theorem not_blocked_root : ¬ Blocked dirs [backslash] := by
  have notTrailing : ¬ Trailing [backslash] := fun ⟨front, filled, shape⟩ =>
    filled (List.append_cancel_right (shape : [] ++ [backslash] = front ++ [backslash])).symm
  by_cases missing : access dirs [backslash] = false
  · rw [blocked_iff (by simp) missing]
    rintro (trailing | ⟨ppath, cut, blocked⟩)
    · exact notTrailing trailing
    · have empty : ([] : List UInt8) = ppath := Option.some.inj ((extractPath_concat []).symm.trans cut)
      exact not_blocked_of_stop (.inl empty.symm) blocked
  · exact not_blocked_of_stop (.inr (by simpa using missing))

theorem CreatedBefore.blocked (before : CreatedBefore dirs path) : Blocked dirs path := by
  have filled : path ≠ [] := by
    obtain ⟨front, -, rfl⟩ := before.1
    simp
  exact (blocked_iff filled before.2.1).mpr (.inl before.1)

theorem not_trailing_of_free (free : backslash ∉ rest) (filled : rest ≠ []) (front : List UInt8) :
    ¬ Trailing (front ++ rest) := by
  rintro ⟨before, -, ends⟩
  obtain ⟨start, last, rfl⟩ := rest.eq_nil_or_concat'.resolve_left filled
  rw [← List.append_assoc] at ends
  obtain ⟨-, same⟩ := List.append_inj' ends rfl
  exact free (by simp [List.cons.inj same])

theorem not_trailing_component (front : List UInt8) (free : backslash ∉ rest) (filled : rest ≠ []) :
    ¬ Trailing (front ++ backslash :: rest) := by
  have regroup : front ++ backslash :: rest = (front ++ [backslash]) ++ rest := by simp
  rw [regroup]
  exact not_trailing_of_free free filled _

/-- A component without a backslash behind it blocks nothing. -/
theorem blocked_component (free : backslash ∉ rest) (filled : rest ≠ [])
    (missing : access dirs (front ++ backslash :: rest) = false) :
    Blocked dirs (front ++ backslash :: rest) ↔ Blocked dirs front := by
  rw [blocked_iff (by simp) missing, extractPath_append front free]
  simp [not_trailing_component front free filled]

theorem createdBefore_concat (filled : front ≠ []) (missing : access dirs front = false) :
    CreatedBefore dirs (front ++ [backslash]) ↔ ¬ Blocked dirs front ∨ CreatedBefore dirs front := by
  -- The call behind a trailing backslash finds the directory as the call in front of it has left it.
  have trailing : Trailing (front ++ [backslash]) := ⟨front, filled, rfl⟩
  have outer : CreatedBefore dirs (front ++ [backslash]) ↔ strip front = [] ∨ ¬ Blocked dirs (strip front) := by
    simp [CreatedBefore, trailing, access, show dirs (strip front) = false from missing]
  rw [outer]
  by_cases again : Trailing front
  · -- Of two trailing backslashes the inner one has blocked its own call already.
    have blocked : Blocked dirs front := (blocked_iff filled missing).mpr (.inl again)
    simp [CreatedBefore, again, missing, blocked]
  · have inner : ¬ CreatedBefore dirs front := fun created => again created.1
    obtain ⟨start, last, rfl⟩ := front.eq_nil_or_concat'.resolve_left filled
    by_cases found : last = backslash
    · subst found
      -- The front is a single backslash.
      have empty : start = [] := by
        by_contra nonempty
        exact again ⟨start, nonempty, rfl⟩
      subst empty
      exact iff_of_true (.inl (strip_concat [])) (.inl not_blocked_root)
    · rw [strip_of_last found]
      simp [inner]

/-! ## What a call leaves -/

/-- The outcome of a call: nothing goes, what comes is on the way up, the answer is whether nothing blocked the calls,
and after another answer the directory is there only if it was created before. -/
structure Made (dirs : Dirs) (path : List UInt8) (after : Bool × Dirs) : Prop where
  kept : ∀ name, dirs name = true → after.2 name = true
  only : ∀ name, after.2 name = true → dirs name = true ∨ path ≠ [] ∧ Upward path name
  answer : after.1 = true ↔ ¬ Blocked dirs path
  there : path ≠ [] → (access after.2 path = true ↔ after.1 = true ∨ CreatedBefore dirs path)

theorem Made.stop (stop : path = [] ∨ access dirs path = true) : Made dirs path (true, dirs) where
  kept _ there := there
  only _ there := .inl there
  answer := by simp [not_blocked_of_stop stop]
  there filled := by simp [stop.resolve_left filled]

theorem Made.of_nil (outcome : Made dirs [] after) : after = (true, dirs) := by
  have same : after.2 = dirs := by
    funext name
    exact Bool.eq_iff_iff.mpr
      ⟨fun there => (outcome.only name there).resolve_right fun both => both.1 rfl, outcome.kept name⟩
  exact Prod.ext (outcome.answer.mpr (not_blocked_of_stop (.inl rfl))) same

/-- A directory that is created is new, and nothing else changes. -/
theorem mkdir_of_parent (missing : access dirs path = false) (above : ∀ name, parent path = some name → dirs name) :
    mkdir dirs path = (true, Function.update dirs (strip path) true) := by
  refine if_pos ⟨missing, ?_⟩
  cases component : parent path with
  | none => rfl
  | some name => exact above name component

theorem mkdir_of_access (there : access dirs path = true) : mkdir dirs path = (false, dirs) :=
  if_neg fun both => absurd both.1 (by simp [there])

theorem Made.add {between : Dirs} (filled : path ≠ []) (kept : ∀ name, dirs name = true → between name = true)
    (only : ∀ name, between name = true → dirs name = true ∨ Upward path name) (free : ¬ Blocked dirs path) :
    Made dirs path (true, Function.update between (strip path) true) where
  kept name there := by
    by_cases same : name = strip path
    · simp [same]
    · simpa [same] using kept name there
  only name there := by
    by_cases same : name = strip path
    · exact .inr ⟨filled, same ▸ Upward.self path⟩
    · exact (only name (by simpa [same] using there)).imp_right fun upward => ⟨filled, upward⟩
  answer := by simp [free]
  there _ := by simp [access]

theorem made_whole (filled : path ≠ []) (missing : access dirs path = false) (whole : extractPath path = none) :
    Made dirs path (mkdir dirs path) := by
  have free := extractPath_eq_none whole
  have own : strip path = path := strip_of_free free filled []
  have unparented : parent path = none := by
    rw [parent, own, whole]
    rfl
  have open' : ¬ Blocked dirs path := by
    rw [blocked_iff filled missing]
    rintro (trailing | ⟨ppath, cut, -⟩)
    · exact not_trailing_of_free free filled [] trailing
    · exact absurd cut (by simp [whole])
  rw [mkdir_of_parent missing (by simp [unparented])]
  exact .add filled (fun _ there => there) (fun _ there => .inl there) open'

theorem made_root (missing : access dirs [backslash] = false) :
    Made dirs [backslash] (mkdir dirs [backslash]) := by
  have unparented : parent [backslash] = none := by decide
  rw [mkdir_of_parent missing (by simp [unparented])]
  exact .add (by simp) (fun _ there => there) (fun _ there => .inl there) not_blocked_root

theorem made_trailing (filled : front ≠ []) (missing : access dirs front = false) (previous : Made dirs front called) :
    Made dirs (front ++ [backslash]) (finish (front ++ [backslash]) called) := by
  -- What a trailing backslash cuts off is no directory of its own, so the path itself is never created.
  have refused : finish (front ++ [backslash]) called = (false, called.2) := by
    by_cases ok : called.1 = true
    · have there : access called.2 (front ++ [backslash]) = true := by
        simpa [access] using (previous.there filled).mpr (.inl ok)
      rw [finish, if_pos ok, mkdir_of_access there]
    · exact if_neg ok
  rw [refused]
  exact
    { kept := previous.kept
      only := fun name there =>
        (previous.only name there).imp_right fun both => ⟨by simp, both.2.of_strip (strip_concat front)⟩
      answer := by
        have trailing : Trailing (front ++ [backslash]) := ⟨front, filled, rfl⟩
        have still : access dirs (front ++ [backslash]) = false := by simpa [access] using missing
        simp [(blocked_iff (by simp) still).mpr (.inl trailing)]
      there := fun _ => by
        rw [createdBefore_concat filled missing, ← previous.answer]
        simpa [access] using previous.there filled }

theorem made_component (free : backslash ∉ rest) (filled : rest ≠ [])
    (missing : access dirs (front ++ backslash :: rest) = false) (previous : Made dirs front called) :
    Made dirs (front ++ backslash :: rest) (finish (front ++ backslash :: rest) called) := by
  have whole : front ++ backslash :: rest ≠ [] := by simp
  have cut : extractPath (front ++ backslash :: rest) = some front := extractPath_append front free
  have own : strip (front ++ backslash :: rest) = front ++ backslash :: rest := strip_component front free filled
  have blocked : Blocked dirs (front ++ backslash :: rest) ↔ Blocked dirs front := blocked_component free filled missing
  have notBefore : ¬ CreatedBefore dirs (front ++ backslash :: rest) :=
    fun created => not_trailing_component front free filled created.1
  have only : ∀ name, called.2 name = true → dirs name = true ∨ Upward (front ++ backslash :: rest) name := by
    intro name there
    refine (previous.only name there).imp_right fun ⟨_, upward⟩ => .above ?_ upward
    rw [own, cut]
  -- The directories that the front brings are shorter.
  have still : access called.2 (front ++ backslash :: rest) = false := by
    rw [Bool.eq_false_iff]
    intro there
    rcases previous.only _ there with before | ⟨-, upward⟩
    · exact absurd before (by simpa [access] using missing)
    · have short := upward.length_le
      rw [own, List.length_append, List.length_cons] at short
      omega
  by_cases ok : called.1 = true
  · -- A front without a name is no parent.
    have above : ∀ name, parent (front ++ backslash :: rest) = some name → called.2 name := by
      intro name component
      rw [parent, own, cut] at component
      obtain ⟨same, nonempty⟩ : strip front = name ∧ name ≠ [] := by simpa using component
      have filledFront : front ≠ [] := by
        rintro rfl
        exact nonempty (same ▸ strip_nil)
      exact same ▸ (previous.there filledFront).mpr (.inl ok)
    rw [finish, if_pos ok, mkdir_of_parent still above]
    exact .add whole previous.kept only fun stuck => previous.answer.mp ok (blocked.mp stuck)
  · have stuck : Blocked dirs (front ++ backslash :: rest) := by
      rw [blocked]
      by_contra open'
      exact ok (previous.answer.mpr open')
    rw [finish, if_neg ok]
    exact
      { kept := previous.kept
        only := fun name there => (only name there).imp_right fun upward => ⟨whole, upward⟩
        answer := by simp [stuck]
        there := fun _ => by simp [still, notBefore] }

/-! ## A call, with all those it makes -/

theorem makePath_of_cut (filled : path ≠ []) (missing : access dirs path = false) (cut : extractPath path = some ppath)
    (room : ppath.length < ppathSize) (called : makePath fuel dirs ppath = some after) :
    makePath (fuel + 1) dirs path = some (finish path after) := by
  rw [makePath, if_neg (by simp [filled, missing]), cut]
  simp only [if_neg (Nat.not_le.mpr room), called, Option.map_some]

theorem makePath_made (enough : path.length < fuel) (short : path.length < ppathSize) :
    ∃ after, makePath fuel dirs path = some after ∧ Made dirs path after := by
  -- By induction on the fuel: the front of a path is shorter.
  induction fuel generalizing path with
  | zero => omega
  | succ fuel inner =>
    by_cases stop : path = [] ∨ access dirs path = true
    · exact ⟨(true, dirs), if_pos stop, .stop stop⟩
    · obtain ⟨filled, missing⟩ : path ≠ [] ∧ access dirs path = false := by simpa using stop
      cases cut : extractPath path with
      | none =>
        refine ⟨mkdir dirs path, ?_, made_whole filled missing cut⟩
        rw [makePath, if_neg stop, cut]
      | some front =>
        have shorter := extractPath_shorter cut
        obtain ⟨after, called, previous⟩ := @inner front (by omega) (by omega)
        refine ⟨finish path after, makePath_of_cut filled missing cut (by omega) called, ?_⟩
        obtain ⟨rest, free, rfl⟩ := extractPath_eq_some cut
        by_cases component : rest = []
        · -- Nothing is behind the last backslash.
          subst component
          by_cases nothing : front = []
          · subst nothing
            rw [previous.of_nil]
            exact made_root missing
          · exact made_trailing nothing (by simpa [access] using missing) previous
        · exact made_component free component missing previous

/-- A call returns, creates nothing but the directory and those above it, and answers whether the directory is there
unless that was created before the path was tried. -/
theorem makePath_answer (dirs : Dirs) (filled : path ≠ []) (short : path.length < 256) (enough : path.length < fuel) :
    ∃ ok made, makePath fuel dirs path = some (ok, made) ∧
      (∀ name, dirs name = true → made name = true) ∧
      (∀ name, made name = true → dirs name = true ∨ Upward path name) ∧
      ((ok = true ↔ access made path = true) ↔ ¬ CreatedBefore dirs path) := by
  obtain ⟨⟨ok, made⟩, called, outcome⟩ := @makePath_made dirs path fuel enough short
  refine ⟨ok, made, called, outcome.kept, fun name there => (outcome.only name there).imp_right (·.2), ?_⟩
  rw [outcome.there filled]
  constructor
  · intro right before
    exact outcome.answer.mp (right.mpr (.inr before)) before.blocked
  · intro never
    simp [never]

theorem makePath_answer_nested : ∃ ok made, makePath 4 .empty [97, backslash, 98] = some (ok, made) ∧
    (ok = true ↔ access made [97, backslash, 98] = true) := by
  -- Two components, where no directory exists.
  obtain ⟨ok, made, called, -, -, right⟩ :=
    @makePath_answer [97, backslash, 98] 4 .empty (by simp) (by decide) (by decide)
  refine ⟨ok, made, called, right.mpr fun before => ?_⟩
  exact @not_trailing_of_free [98] (by decide) (by simp) [97, backslash] before.1

theorem makePath_denies : ∃ made, makePath 3 .empty [97, backslash] = some (false, made) ∧
    access made [97, backslash] = true :=
  -- The directory is created, and the answer is that it is not.
  ⟨_, rfl, by decide⟩

end Foolject.Foolbear
