import HeaderBindings.Proofs.Files.Tree
import HeaderBindings.Proofs.Run.HeaderFiles

/-!
# What activities change

The activities of a run read and write the files of a tree one after the other,
and any of them may fail.  What a sequence of them changes is put together from
what its members change.  The activities of a stage read and render first and
write at last, so that a failure of the reading or the rendering leaves the
tree as it was.
-/

namespace HeaderBindings

open FileTree

/-- Whether a failure is one of reading or rendering, which come before the writing. -/
def StageError.isRendering : StageError → Bool
  | .unreadable .. => true
  | .malformedManifest _ => true
  | .extraction _ => true
  | .missingMark .. => true
  | .managed _ => true
  | _ => false

namespace Generation

variable {α β ε : Type} {paths others : List Path}

/-! ## Activities on a tree -/

def ReadsOnly (activity : StateM FileTree α) : Prop :=
  ∀ tree, (activity.run tree).2 = tree

def Touches (paths : List Path) (activity : StateM FileTree α) : Prop :=
  ∀ tree, ChangesOnly paths tree (activity.run tree).2

theorem run_bind (activity : StateM FileTree α) (next : α → StateM FileTree β) (tree : FileTree) :
    (activity >>= next).run tree = (next (activity.run tree).1).run (activity.run tree).2 :=
  rfl

section

variable {activity : StateM FileTree α} {next : α → StateM FileTree β}

theorem readsOnly_pure (a : α) : ReadsOnly (pure a : StateM FileTree α) :=
  fun _ => rfl

theorem ReadsOnly.bind (first : ReadsOnly activity) (rest : ∀ a, ReadsOnly (next a)) :
    ReadsOnly (activity >>= next) := by
  intro tree
  rw [run_bind, rest, first]

theorem ReadsOnly.touches (reads : ReadsOnly activity) : Touches [] activity := by
  intro tree
  rw [reads tree]
  exact .refl tree

theorem Touches.mono (touches : Touches paths activity) (included : paths ⊆ others) :
    Touches others activity :=
  fun tree => (touches tree).mono included

theorem Touches.bind (first : Touches paths activity) (rest : ∀ a, Touches others (next a)) :
    Touches (paths ++ others) (activity >>= next) := by
  intro tree
  rw [run_bind]
  exact (first tree).trans (rest _ _)

end

section

variable {step : FileTree → Except FileError FileTree} {tree : FileTree}

theorem run_change_ok {after : FileTree} (stepped : step tree = .ok after) :
    (change step).run tree = (.ok (), after) := by
  have read : (get : StateM FileTree FileTree).run tree = (tree, tree) := rfl
  rw [change, run_bind, read]
  dsimp only
  rw [stepped]
  rfl

theorem run_change_error {error : FileError} (stepped : step tree = .error error) :
    (change step).run tree = (.error error, tree) := by
  have read : (get : StateM FileTree FileTree).run tree = (tree, tree) := rfl
  rw [change, run_bind, read]
  dsimp only
  rw [stepped]
  rfl

end

theorem touches_change {step : FileTree → Except FileError FileTree}
    (changes : ∀ tree after, step tree = .ok after → ChangesOnly paths tree after) :
    Touches paths (change step) := by
  intro tree
  cases stepped : step tree with
  | ok after =>
      rw [run_change_ok stepped]
      exact changes tree after stepped
  | error error =>
      rw [run_change_error stepped]
      exact (ChangesOnly.refl tree).mono (List.nil_subset paths)

theorem touches_writeFile (path : Path) (bytes : List UInt8) :
    Touches [path] (MonadFiles.writeFile path bytes : StateM FileTree _) :=
  touches_change fun _ _ => write_changes

theorem touches_copyFile (source destination : Path) :
    Touches [destination] (MonadFiles.copyFile source destination : StateM FileTree _) :=
  touches_change fun _ _ => copy_changes

theorem touches_makeDirectory (path : Path) :
    Touches [] (MonadFiles.makeDirectory path : StateM FileTree _) :=
  touches_change fun _ _ => makeDirectory_changes

theorem readsOnly_isDirectory (path : Path) :
    ReadsOnly (MonadFiles.isDirectory path : StateM FileTree Bool) :=
  fun _ => rfl

theorem touches_ensureDirectory (path : Path) :
    Touches [] (ensureDirectory path : StateM FileTree (Except FileError Unit)) := by
  refine (touches_makeDirectory path).bind fun made => ?_
  cases made with
  | ok => exact (readsOnly_pure _).touches
  | error error =>
      refine ((readsOnly_isDirectory path).bind fun isThere => ?_).touches
      cases isThere <;> exact readsOnly_pure _

theorem touches_ensureDirectoriesIn (paths : List Path) :
    Touches [] (ensureDirectoriesIn paths : StateM FileTree (Except FileError Unit)) := by
  induction paths with
  | nil => exact (readsOnly_pure _).touches
  | cons path outer ih =>
      rw [ensureDirectoriesIn]
      split
      · exact (readsOnly_pure _).touches
      · refine (touches_makeDirectory path).bind fun made => ?_
        have isThere (error : FileError) : Touches [] (do
            if ← MonadFiles.isDirectory path then pure (.ok ()) else pure (.error error) :
              StateM FileTree (Except FileError Unit)) := by
          refine ((readsOnly_isDirectory path).bind fun isThere => ?_).touches
          cases isThere <;> exact readsOnly_pure _
        cases made with
        | ok => exact (readsOnly_pure _).touches
        | error error =>
            cases error with
            | notFound =>
                refine ih.bind fun made => ?_
                cases made with
                | ok => exact touches_ensureDirectory path
                | error error => exact (readsOnly_pure _).touches
            | _ => exact isThere _

/-! ## Activities that fail -/

section

variable {activity : ExceptT ε (StateM FileTree) α} {next : α → ExceptT ε (StateM FileTree) β}
variable {tree : FileTree}

/-- What follows an activity is run after its success. -/
theorem run_bind_ok {a : α} (succeeded : (activity.run.run tree).1 = .ok a) :
    (activity >>= next).run.run tree = (next a).run.run (activity.run.run tree).2 := by
  rw [ExceptT.run_bind, run_bind, succeeded]

theorem run_bind_error {error : ε} (failed : (activity.run.run tree).1 = .error error) :
    (activity >>= next).run.run tree = (.error error, (activity.run.run tree).2) := by
  rw [ExceptT.run_bind, run_bind, failed]
  rfl

/-- A success of two activities is one of both. -/
theorem exists_run_bind_ok {b : β} (succeeded : ((activity >>= next).run.run tree).1 = .ok b) :
    ∃ a, (activity.run.run tree).1 = .ok a ∧
      (activity >>= next).run.run tree = (next a).run.run (activity.run.run tree).2 := by
  cases outcome : (activity.run.run tree).1 with
  | ok a => exact ⟨a, rfl, run_bind_ok outcome⟩
  | error cause =>
      rw [run_bind_error outcome] at succeeded
      cases succeeded

end

section

variable {activity : ExceptT StageError (StateM FileTree) α}
variable {next : α → ExceptT StageError (StateM FileTree) β}

/-- No failure of an activity is one of reading or rendering. -/
def FailsLate (activity : ExceptT StageError (StateM FileTree) α) : Prop :=
  ∀ tree error, (activity.run.run tree).1 = .error error → error.isRendering = false

def Returns (post : α → Prop) (activity : ExceptT StageError (StateM FileTree) α) : Prop :=
  ∀ tree a, (activity.run.run tree).1 = .ok a → post a

/-- An activity touches some files, but none if it fails in reading or rendering; and what it
returns is as it is said. -/
structure Renders (paths : List Path) (post : α → Prop)
    (activity : ExceptT StageError (StateM FileTree) α) : Prop where
  touches : Touches paths activity.run
  early : ∀ tree error, (activity.run.run tree).1 = .error error → error.isRendering = true →
    (activity.run.run tree).2 = tree
  returns : Returns post activity

theorem Touches.bindRun (first : Touches paths activity.run)
    (rest : ∀ a, Touches others (next a).run) :
    Touches (paths ++ others) (activity >>= next).run := by
  rw [ExceptT.run_bind]
  refine first.bind fun outcome => ?_
  cases outcome with
  | ok a => exact rest a
  | error error => exact (readsOnly_pure _).touches.mono (List.nil_subset others)

theorem ReadsOnly.bindRun (first : ReadsOnly activity.run) (rest : ∀ a, ReadsOnly (next a).run) :
    ReadsOnly (activity >>= next).run := by
  rw [ExceptT.run_bind]
  refine first.bind fun outcome => ?_
  cases outcome with
  | ok a => exact rest a
  | error error => exact readsOnly_pure _

theorem FailsLate.bind (first : FailsLate activity) (rest : ∀ a, FailsLate (next a)) :
    FailsLate (activity >>= next) := by
  intro tree error failed
  cases outcome : (activity.run.run tree).1 with
  | ok a =>
      rw [run_bind_ok outcome] at failed
      exact rest a _ error failed
  | error cause =>
      rw [run_bind_error outcome] at failed
      cases failed
      exact first tree _ outcome

theorem Returns.bind {post : β → Prop} (rest : ∀ a, Returns post (next a)) :
    Returns post (activity >>= next) := by
  intro tree b returned
  cases outcome : (activity.run.run tree).1 with
  | ok a =>
      rw [run_bind_ok outcome] at returned
      exact rest a _ b returned
  | error cause =>
      rw [run_bind_error outcome] at returned
      cases returned

theorem returns_pure {post : α → Prop} {a : α} (holds : post a) : Returns post (pure a) := by
  intro tree b returned
  cases returned
  exact holds

theorem failsLate_pure (a : α) : FailsLate (pure a) := by
  intro tree error failed
  cases failed

/-- The last part of a stage writes. -/
theorem Renders.writing {post : α → Prop} (touches : Touches paths activity.run)
    (late : FailsLate activity) (returns : Returns post activity) :
    Renders paths post activity := by
  refine ⟨touches, fun tree error failed rendering => ?_, returns⟩
  rw [late tree error failed] at rendering
  cases rendering

/-- The first parts of a stage read. -/
theorem Renders.reading {post : β → Prop} (reads : ReadsOnly activity.run)
    (rest : ∀ a, Renders paths post (next a)) :
    Renders paths post (activity >>= next) := by
  refine ⟨reads.touches.bindRun fun a => (rest a).touches, fun tree error failed rendering => ?_,
    .bind fun a => (rest a).returns⟩
  cases outcome : (activity.run.run tree).1 with
  | ok a =>
      rw [run_bind_ok outcome, reads] at failed ⊢
      exact (rest a).early tree error failed rendering
  | error cause => rw [run_bind_error outcome, reads]

theorem readsOnly_ofExcept (value : Except StageError α) :
    ReadsOnly (ofExcept value : ExceptT StageError (StateM FileTree) α).run :=
  fun _ => rfl

/-- A value of a stage is the one that it is computed from. -/
theorem Renders.given {post : β → Prop} {value : Except StageError α}
    (rest : ∀ a, value = .ok a → Renders paths post (next a)) :
    Renders paths post (ofExcept value >>= next) := by
  cases value with
  | ok a => exact rest a rfl
  | error cause =>
      refine ⟨(readsOnly_pure _).touches.mono (List.nil_subset paths), fun _ _ _ _ => rfl, ?_⟩
      intro tree b returned
      cases returned

end

/-! ## Reading and writing -/

theorem readsOnly_readText (path : Path) :
    ReadsOnly (readText path : ExceptT StageError (StateM FileTree) String).run := by
  intro tree
  rw [run_readText]

theorem touches_onFiles {operation : StateM FileTree (Except FileError α)}
    (describe : FileError → StageError) (touches : Touches paths operation) :
    Touches paths (onFiles operation describe).run := by
  have whole := touches.bind fun outcome =>
    (readsOnly_pure (outcome.mapError describe)).touches
  rwa [List.append_nil] at whole

theorem failsLate_onFiles {operation : StateM FileTree (Except FileError α)}
    {describe : FileError → StageError} (late : ∀ error, (describe error).isRendering = false) :
    FailsLate (onFiles operation describe) := by
  intro tree error failed
  have described : ((operation.run tree).1).mapError describe = .error error := failed
  cases outcome : (operation.run tree).1 with
  | ok a =>
      rw [outcome] at described
      cases described
  | error cause =>
      rw [outcome] at described
      cases described
      exact late cause

theorem touches_writeText (path : Path) (text : String) :
    Touches [path] (writeText path text : ExceptT StageError (StateM FileTree) Unit).run := by
  rw [writeText]
  have written := touches_onFiles (.unwritable path)
    (touches_writeFile path text.toUTF8.toList)
  cases path.parent? with
  | none => exact written
  | some parent =>
      exact (touches_onFiles (.noDirectory parent)
        (touches_ensureDirectoriesIn parent.ancestors)).bindRun fun _ => written

theorem failsLate_writeText (path : Path) (text : String) :
    FailsLate (writeText path text : ExceptT StageError (StateM FileTree) Unit) := by
  rw [writeText]
  have written : FailsLate (onFiles (MonadFiles.writeFile path text.toUTF8.toList)
      (.unwritable path) : ExceptT StageError (StateM FileTree) Unit) :=
    failsLate_onFiles fun _ => rfl
  cases path.parent? with
  | none => exact written
  | some parent => exact (failsLate_onFiles fun _ => rfl).bind fun _ => written

end Generation

end HeaderBindings
