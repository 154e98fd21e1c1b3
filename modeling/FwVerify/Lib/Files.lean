import Mathlib.Logic.Function.Basic

/-!
# A file store with failing operations

The contents of files by path, and the whole-file operations on them. An operation that
fails leaves every file as it was; whether one fails is given from outside. Programs over
the store stop at the first error they raise and keep the effects they had up to there.

## Main definitions

* `Files` — contents by path, `none` for a path with no file
* `write`, `copy`, `remove` — the operations, each returning whether it succeeded
* `FileM` — programs that may stop with an error text
* `FileM.exec` — running one: its outcome and the files it leaves
-/

set_option autoImplicit false

namespace FileStore

/-- File contents by path; `none` where there is no file. -/
abbrev Files := String → Option String

/-- Programs over the store that may stop with an error text. -/
abbrev FileM := ExceptT String (StateM Files)

variable {α β : Type}

/-- Run a program: how it ends, and the files it leaves behind. -/
def FileM.exec (prog : FileM α) (files : Files) : Except String α × Files :=
  prog.run.run files

/-- Whether there is a file at the path. -/
def pathExists (path : String) : FileM Bool := do
  return ((← get) path).isSome

/-- Replace or create the file at `path`. -/
def write (succeeds : Bool) (path body : String) : FileM Bool := do
  if succeeds then
    modify fun files => Function.update files path (some body)
  return succeeds

/-- Copy the file at `source` over `target`; fails when there is none. -/
def copy (succeeds : Bool) (source target : String) : FileM Bool := do
  match (← get) source with
  | none => return false
  | some body => write succeeds target body

/-- Delete the file at `path`. -/
def remove (succeeds : Bool) (path : String) : FileM Bool := do
  if succeeds then
    modify fun files => Function.update files path none
  return succeeds

/-- Go on with a result from outside the store, or stop with its error. -/
def stopOnError (result : Except String α) : FileM α :=
  match result with
  | .ok a => pure a
  | .error error => throw error

/-- Stop with an error unless the operation succeeded. -/
def orFail (succeeded : Bool) (error : String) : FileM Unit :=
  if succeeded then pure () else throw error

/-- Run a program for its effects, whatever it ends with. -/
def ignoring (prog : FileM Unit) : FileM Unit := ExceptT.mk do
  let _ ← prog.run
  return .ok ()

section Exec

variable (files : Files)

@[simp] theorem exec_pure (a : α) : FileM.exec (pure a : FileM α) files = (.ok a, files) := rfl

@[simp] theorem exec_throw (error : String) :
    FileM.exec (throw error : FileM α) files = (.error error, files) := rfl

/-- A program's continuation runs on what the program left, unless it stopped. -/
@[simp] theorem exec_bind (prog : FileM α) (next : α → FileM β) :
    FileM.exec (prog >>= next) files =
      match FileM.exec prog files with
      | (.ok a, files') => FileM.exec (next a) files'
      | (.error error, files') => (.error error, files') := by
  rcases hrun : FileM.exec prog files with ⟨_ | _, _⟩
  all_goals
    simp only [FileM.exec, ExceptT.run_bind, StateT.run_bind] at hrun ⊢
    rw [hrun]
    rfl

@[simp] theorem exec_stopOnError (result : Except String α) :
    FileM.exec (stopOnError result) files = (result, files) := by
  cases result <;> rfl

@[simp] theorem exec_ignoring (prog : FileM Unit) :
    FileM.exec (ignoring prog) files = (.ok (), (FileM.exec prog files).2) := rfl

@[simp] theorem exec_orFail (succeeded : Bool) (error : String) :
    FileM.exec (orFail succeeded error) files =
      (if succeeded then .ok () else .error error, files) := by
  cases succeeded <;> rfl

@[simp] theorem exec_map (f : α → β) (prog : FileM α) :
    FileM.exec (f <$> prog) files =
      ((FileM.exec prog files).1.map f, (FileM.exec prog files).2) := by
  rw [← bind_pure_comp, exec_bind]
  rcases FileM.exec prog files with ⟨_ | _, _⟩ <;> rfl

@[simp] theorem map_ok (f : α → β) (a : α) :
    Except.map f (.ok a : Except String α) = .ok (f a) := rfl

@[simp] theorem exec_pathExists (path : String) :
    FileM.exec (pathExists path) files = (.ok (files path).isSome, files) := rfl

@[simp] theorem exec_write (succeeds : Bool) (path body : String) :
    FileM.exec (write succeeds path body) files =
      (.ok succeeds, if succeeds then Function.update files path (some body) else files) := by
  cases succeeds <;> rfl

@[simp] theorem exec_remove (succeeds : Bool) (path : String) :
    FileM.exec (remove succeeds path) files =
      (.ok succeeds, if succeeds then Function.update files path none else files) := by
  cases succeeds <;> rfl

theorem exec_copy_none {source target : String} (succeeds : Bool) (h : files source = none) :
    FileM.exec (copy succeeds source target) files = (.ok false, files) := by
  change FileM.exec (match files source with
    | none => pure false
    | some body => write succeeds target body) files = _
  rw [h]
  rfl

theorem exec_copy_some {source target body : String} (succeeds : Bool)
    (h : files source = some body) :
    FileM.exec (copy succeeds source target) files =
      (.ok succeeds, if succeeds then Function.update files target (some body) else files) := by
  change FileM.exec (match files source with
    | none => pure false
    | some body => write succeeds target body) files = _
  rw [h]
  exact exec_write files succeeds target body

end Exec

/-! ## Frames -/

/-- The program leaves the file at `path` alone, however it ends. -/
def Leaves (path : String) (prog : FileM α) : Prop :=
  ∀ files, (FileM.exec prog files).2 path = files path

namespace Leaves

variable {path : String}

theorem pure (a : α) : Leaves path (Pure.pure a : FileM α) := fun _ => rfl

theorem bind {prog : FileM α} {next : α → FileM β} (hprog : Leaves path prog)
    (hnext : ∀ a, Leaves path (next a)) : Leaves path (prog >>= next) := by
  intro files
  have hfirst := hprog files
  rw [exec_bind]
  rcases hrun : FileM.exec prog files with ⟨error | a, files'⟩
  · rw [hrun] at hfirst
    exact hfirst
  · rw [hrun] at hfirst
    exact (hnext a files').trans hfirst

theorem ite (c : Prop) [Decidable c] {prog prog' : FileM α} (h : Leaves path prog)
    (h' : Leaves path prog') : Leaves path (if c then prog else prog') := by
  split
  · exact h
  · exact h'

theorem write {target : String} (hne : path ≠ target) (succeeds : Bool) (body : String) :
    Leaves path (FileStore.write succeeds target body) := by
  intro files
  cases succeeds with
  | true => exact Function.update_of_ne hne ..
  | false => rfl

theorem remove {target : String} (hne : path ≠ target) (succeeds : Bool) :
    Leaves path (FileStore.remove succeeds target) := by
  intro files
  cases succeeds with
  | true => exact Function.update_of_ne hne ..
  | false => rfl

theorem copy {source target : String} (hne : path ≠ target) (succeeds : Bool) :
    Leaves path (FileStore.copy succeeds source target) := by
  intro files
  cases hsource : files source with
  | none => rw [exec_copy_none files succeeds hsource]
  | some body =>
    rw [exec_copy_some files succeeds hsource]
    cases succeeds with
    | true => exact Function.update_of_ne hne ..
    | false => rfl

theorem pathExists (target : String) : Leaves path (FileStore.pathExists target) := fun _ => rfl

theorem ignoring {prog : FileM Unit} (hprog : Leaves path prog) :
    Leaves path (FileStore.ignoring prog) := hprog

theorem throw (error : String) : Leaves path (MonadExcept.throw error : FileM α) := fun _ => rfl

theorem stopOnError (result : Except String α) :
    Leaves path (FileStore.stopOnError result) := by
  intro files
  rw [exec_stopOnError]

theorem orFail (succeeded : Bool) (error : String) :
    Leaves path (FileStore.orFail succeeded error) := by
  intro files
  rw [exec_orFail]

end Leaves

end FileStore
