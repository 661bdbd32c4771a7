import HeaderBindings.Proofs.Run.Activity
import HeaderBindings.Run.Command

/-!
# What a run changes

A generation that fails has changed what the stages before the failing one
write, and nothing of the failing stage where that fails in reading its
template or in rendering.  A generation that succeeds has changed the files it
lists and the copies of the shared headers.  The sources to be built grow by
one exactly then.
-/

namespace HeaderBindings

open FileTree Generation

/-! ## The files of the stages -/

namespace Settings

variable (settings : Settings) (base : Path)

/-- The files that the stage of the exported side writes. -/
def exportsFiles : List Path :=
  ((generatedName (base.join settings.exports.template)).toOption.map fun name =>
      (base.join settings.sourceFolder).join (settings.exports.folder.join ⟨name⟩)).toList ++
    [(base.join settings.interfaceFolder).join ⟨"api.json"⟩]

/-- The copy of a shared header. -/
def sharedCopy? (shared : Path) : Option Path :=
  (nameOf (base.join shared)).toOption.map (base.join settings.native.folder).join

def sharedCopies : List Path :=
  settings.native.sharedHeaders.filterMap (settings.sharedCopy? base)

/-- The files that the stage of the native wrapper writes. -/
def nativeFiles : List Path :=
  ((nameOf (base.join settings.native.template)).toOption.map
    (base.join settings.native.folder).join).toList ++ settings.sharedCopies base

/-- The files that the stage of the managed wrapper writes. -/
def managedFiles : List Path :=
  settings.managed.toList.flatMap fun managed =>
    ((nameOf (base.join managed.template)).toOption.map (base.join managed.folder).join).toList

end Settings

namespace Generation

variable {settings : Settings} {base : Path} {api : Api}

theorem writeExports_renders
    (settings : Settings) (base : Path) (api : Api) (sourceFolder : Path) (headers : List Path)
    (isFolder : sourceFolder = base.join settings.sourceFolder) :
    Renders (settings.exportsFiles base)
      (fun files => settings.exportsFiles base = [sourceFolder.join files.1, files.2])
      (writeExports settings base sourceFolder headers api :
        ExceptT StageError (StateM FileTree) (Path × Path)) := by
  rw [writeExports]
  refine .reading (readsOnly_readText _) fun template => ?_
  refine .reading (readsOnly_ofExcept _) fun source => ?_
  refine .given fun name isName => ?_
  have files : settings.exportsFiles base =
      [sourceFolder.join (settings.exports.folder.join ⟨name⟩),
        (base.join settings.interfaceFolder).join ⟨"api.json"⟩] := by
    rw [Settings.exportsFiles, isName, isFolder]
    rfl
  rw [files]
  refine .writing ?_ ?_ ?_
  · exact (touches_writeText _ _).bindRun fun _ =>
      (touches_writeText _ _).bindRun fun _ => (readsOnly_pure _).touches
  · exact (failsLate_writeText _ _).bind fun _ =>
      (failsLate_writeText _ _).bind fun _ => failsLate_pure _
  · exact .bind fun _ => .bind fun _ => returns_pure rfl

theorem touches_copyShared (shared : Path) :
    Touches (settings.sharedCopy? base shared).toList
      (copyShared base (base.join settings.native.folder) shared :
        ExceptT StageError (StateM FileTree) Unit).run := by
  rw [Settings.sharedCopy?, copyShared]
  cases nameOf (base.join shared) with
  | error cause => exact (readsOnly_pure _).touches
  | ok name => exact touches_onFiles _ (touches_copyFile _ _)

theorem failsLate_copyShared (folder shared : Path) :
    FailsLate (copyShared base folder shared : ExceptT StageError (StateM FileTree) Unit) := by
  refine .bind ?_ fun name => failsLate_onFiles fun _ => rfl
  intro tree error failed
  have unnamed : nameOf (base.join shared) = .error error := failed
  rw [nameOf] at unnamed
  split at unnamed
  · cases unnamed
  · cases unnamed
    rfl

theorem touches_forM {items : List Path} {activity : Path → ExceptT StageError (StateM FileTree) Unit}
    {files : Path → Option Path} (each : ∀ item, Touches (files item).toList (activity item).run) :
    Touches (items.filterMap files) (items.forM activity).run := by
  induction items with
  | nil => exact (readsOnly_pure _).touches
  | cons item rest ih =>
      have files_cons : (item :: rest).filterMap files =
          (files item).toList ++ rest.filterMap files := by
        rw [List.filterMap_cons]
        cases files item <;> rfl
      rw [files_cons]
      exact (each item).bindRun fun _ => ih

theorem failsLate_forM {items : List Path}
    {activity : Path → ExceptT StageError (StateM FileTree) Unit}
    (each : ∀ item, FailsLate (activity item)) : FailsLate (items.forM activity) := by
  induction items with
  | nil => exact failsLate_pure _
  | cons item rest ih => exact (each item).bind fun _ => ih

theorem writeNative_renders (settings : Settings) (base : Path) (api : Api) :
    Renders (settings.nativeFiles base)
      (fun header => settings.nativeFiles base = header :: settings.sharedCopies base)
      (writeNative settings base api : ExceptT StageError (StateM FileTree) Path) := by
  rw [writeNative]
  refine .reading (readsOnly_readText _) fun template => ?_
  refine .reading (readsOnly_ofExcept _) fun header => ?_
  refine .given fun name isName => ?_
  have files : settings.nativeFiles base =
      (base.join settings.native.folder).join name :: settings.sharedCopies base := by
    rw [Settings.nativeFiles, isName]
    rfl
  rw [files]
  refine .writing ?_ ?_ ?_
  · refine Touches.mono ((touches_writeText _ _).bindRun fun _ =>
      (touches_forM touches_copyShared).bindRun fun _ => (readsOnly_pure _).touches) ?_
    rw [List.append_nil]
    exact List.Subset.refl _
  · exact (failsLate_writeText _ _).bind fun _ =>
      (failsLate_forM fun _ => failsLate_copyShared _ _).bind fun _ => failsLate_pure _
  · exact .bind fun _ => .bind fun _ => returns_pure rfl

theorem writeManaged_renders (base : Path) (api : Api) {managed : ManagedSettings}
    (isManaged : settings.managed = some managed) :
    Renders (settings.managedFiles base)
      (fun source => settings.managedFiles base = [source])
      (writeManaged settings managed base api : ExceptT StageError (StateM FileTree) Path) := by
  rw [writeManaged]
  refine .reading (readsOnly_readText _) fun template => ?_
  refine .reading (readsOnly_ofExcept _) fun source => ?_
  refine .given fun name isName => ?_
  have files : settings.managedFiles base = [(base.join managed.folder).join name] := by
    simp [Settings.managedFiles, isManaged, isName, Except.toOption]
  rw [files]
  refine .writing ?_ ?_ ?_
  · exact (touches_writeText _ _).bindRun fun _ => (readsOnly_pure _).touches
  · exact (failsLate_writeText _ _).bind fun _ => failsLate_pure _
  · exact .bind fun _ => returns_pure rfl

/-! ## The headers -/

theorem readsOnly_filterAuxM (paths kept : List Path) :
    ReadsOnly (paths.filterAuxM MonadFiles.isPresent kept : StateM FileTree (List Path)) := by
  induction paths generalizing kept with
  | nil => exact readsOnly_pure _
  | cons path rest ih =>
      have reads : ReadsOnly (MonadFiles.isPresent path : StateM FileTree Bool) := fun _ => rfl
      exact reads.bind fun isThere => ih _

theorem readsOnly_headers (sourceFolder manifest : Path) :
    ReadsOnly (headers sourceFolder manifest :
      ExceptT StageError (StateM FileTree) (List Path)).run := by
  rw [headers]
  refine .bindRun (readsOnly_readText _) fun text => ?_
  cases sourcesOf? text with
  | none => exact readsOnly_pure _
  | some sources =>
      have present : ReadsOnly (presentHeaders sourceFolder sources : StateM FileTree (List Path)) :=
        (readsOnly_filterAuxM _ []).bind fun _ => readsOnly_pure _
      exact present.bind fun _ => readsOnly_pure _

theorem readsOnly_readHeaders (paths : List Path) :
    ReadsOnly (readHeaders paths : StateM FileTree (List HeaderSource × Option StageError)) := by
  induction paths with
  | nil => exact readsOnly_pure _
  | cons path rest ih =>
      rw [readHeaders]
      refine (readsOnly_readText path).bind fun outcome => ?_
      cases outcome with
      | error error => exact readsOnly_pure _
      | ok text => exact ih.bind fun _ => readsOnly_pure _

theorem readsOnly_extractInterface (options : Header.Options) (paths : List Path) :
    ReadsOnly (extractInterface options paths :
      StateM FileTree (List Notice × Except StageError Api)) := by
  rw [extractInterface]
  refine (readsOnly_readHeaders paths).bind fun outcome => ?_
  rcases outcome with ⟨sources, failure⟩
  cases failure <;> exact readsOnly_pure _

/-! ## The stages in a row -/

section

variable {α β : Type} {activity : ExceptT StageError (StateM FileTree) α} {stage : Stage}
variable {next : α → ExceptT GenerationError (StateM FileTree) β} {tree : FileTree}

theorem run_inStage_ok {a : α} (succeeded : (activity.run.run tree).1 = .ok a) :
    (inStage stage activity >>= next).run.run tree =
      (next a).run.run (activity.run.run tree).2 := by
  apply run_bind_ok
  show (activity.run.run tree).1.mapError _ = _
  rw [succeeded]
  rfl

theorem run_inStage_error {cause : StageError} (failed : (activity.run.run tree).1 = .error cause) :
    (inStage stage activity >>= next).run.run tree =
      (.error { stage, cause }, (activity.run.run tree).2) := by
  apply run_bind_error
  show (activity.run.run tree).1.mapError _ = _
  rw [failed]
  rfl

end

end Generation

/-- The files that a generation lists, and the copies of the shared headers. -/
def Generated.files (generated : Generated) (settings : Settings) (base : Path) : List Path :=
  [(base.join settings.sourceFolder).join generated.exportsSource, generated.interfaceFile] ++
    (generated.nativeHeader :: settings.sharedCopies base) ++ generated.managedSource.toList

/-- What a generation changes, by how it ends. -/
structure Settings.Framed (settings : Settings) (base : Path)
    (before : FileTree) (result : Except GenerationError Generated) (after : FileTree) : Prop where
  nothing : ∀ error, result = .error error →
    error.stage = .extraction ∨ error.stage = .exports ∧ error.cause.isRendering = true →
      after = before
  exportsOnly : ∀ error, result = .error error →
    error.stage = .native → error.cause.isRendering = true →
      ChangesOnly (settings.exportsFiles base) before after
  noManaged : ∀ error, result = .error error →
    error.stage = .managed → error.cause.isRendering = true →
      ChangesOnly (settings.exportsFiles base ++ settings.nativeFiles base) before after
  listed : ∀ generated, result = .ok generated →
    ChangesOnly (generated.files settings base) before after
  always : ChangesOnly
    (settings.exportsFiles base ++ settings.nativeFiles base ++ settings.managedFiles base)
    before after

namespace Generation

variable {settings : Settings} {base : Path} {api : Api}

theorem framed_error {error : GenerationError} {before after : FileTree}
    (nothing : error.stage = .extraction ∨ error.stage = .exports ∧ error.cause.isRendering = true →
      after = before)
    (exportsOnly : error.stage = .native → error.cause.isRendering = true →
      ChangesOnly (settings.exportsFiles base) before after)
    (noManaged : error.stage = .managed → error.cause.isRendering = true →
      ChangesOnly (settings.exportsFiles base ++ settings.nativeFiles base) before after)
    (always : ChangesOnly
      (settings.exportsFiles base ++ settings.nativeFiles base ++ settings.managedFiles base)
      before after) :
    settings.Framed base before (.error error) after := by
  constructor
  case nothing =>
    intro _ isError
    cases isError
    exact nothing
  case exportsOnly =>
    intro _ isError
    cases isError
    exact exportsOnly
  case noManaged =>
    intro _ isError
    cases isError
    exact noManaged
  case listed =>
    intro generated isOk
    cases isOk
  case always => exact always

theorem framed_extraction (cause : StageError) (tree : FileTree) :
    settings.Framed base tree (.error { stage := .extraction, cause }) tree :=
  framed_error (fun _ => rfl) (fun stage => nomatch stage) (fun stage => nomatch stage)
    ((ChangesOnly.refl tree).mono (List.nil_subset _))

theorem framed_ok {generated : Generated} {before after : FileTree}
    (files : generated.files settings base =
      settings.exportsFiles base ++ settings.nativeFiles base ++ settings.managedFiles base)
    (changes : ChangesOnly
      (settings.exportsFiles base ++ settings.nativeFiles base ++ settings.managedFiles base)
      before after) :
    settings.Framed base before (.ok generated) after := by
  constructor
  case nothing =>
    intro error isError
    cases isError
  case exportsOnly =>
    intro error isError
    cases isError
  case noManaged =>
    intro error isError
    cases isError
  case listed =>
    intro _ isOk
    cases isOk
    rw [files]
    exact changes
  case always => exact changes

/-- The last stage, after the others have written their files. -/
theorem writeManaged_framed {before middle : FileTree} (result : Option Path → Generated)
    (files : ∀ source, (result source).files settings base =
      settings.exportsFiles base ++ settings.nativeFiles base ++ source.toList)
    (earlier : ChangesOnly (settings.exportsFiles base ++ settings.nativeFiles base)
      before middle) :
    let run := (do
      let source ←
        match settings.managed with
        | some managed => some <$> inStage .managed (writeManaged settings managed base api)
        | none => pure none
      pure (result source) : ExceptT GenerationError (StateM FileTree) Generated).run.run middle
    settings.Framed base before run.1 run.2 := by
  cases isManaged : settings.managed with
  | none =>
      have noFiles : settings.managedFiles base = [] := by
        rw [Settings.managedFiles, isManaged]
        rfl
      refine framed_ok ?_ ?_
      · rw [files none, noFiles]
        rfl
      · exact earlier.mono (List.subset_append_left _ _)
  | some managed =>
      have stage := writeManaged_renders base api isManaged
      simp only [bind_map_left]
      cases written : ((writeManaged settings managed base api :
          ExceptT StageError (StateM FileTree) Path).run.run middle).1 with
      | error cause =>
          rw [run_inStage_error written]
          refine framed_error ?_ (fun stage => nomatch stage) (fun _ rendering => ?_) ?_
          · rintro (stage | ⟨stage, _⟩) <;> cases stage
          · rw [stage.early middle cause written rendering]
            exact earlier
          · exact earlier.trans (stage.touches middle)
      | ok source =>
          rw [run_inStage_ok written]
          refine framed_ok ?_ ?_
          · rw [files, stage.returns middle source written]
            rfl
          · exact earlier.trans (stage.touches middle)

/-- The stages that write, one after the other. -/
theorem writeBindings_framed (headers : List Path) (tree : FileTree) :
    let run := (writeBindings settings base (base.join settings.sourceFolder) headers api :
      ExceptT GenerationError (StateM FileTree) Generated).run.run tree
    settings.Framed base tree run.1 run.2 := by
  have exports := writeExports_renders settings base api (base.join settings.sourceFolder) headers rfl
  have native := writeNative_renders settings base api
  rw [writeBindings]
  cases exported : ((writeExports settings base (base.join settings.sourceFolder) headers api :
      ExceptT StageError (StateM FileTree) (Path × Path)).run.run tree).1 with
  | error cause =>
      rw [run_inStage_error exported]
      refine framed_error ?_ (fun stage => nomatch stage) (fun stage => nomatch stage) ?_
      · rintro (stage | ⟨_, rendering⟩)
        · cases stage
        · exact exports.early tree cause exported rendering
      · exact (exports.touches tree).mono (by simp)
  | ok files =>
      rw [run_inStage_ok exported]
      have first := exports.touches tree
      have exportsFiles := exports.returns tree files exported
      generalize (StateT.run (writeExports settings base _ headers api :
        ExceptT StageError (StateM FileTree) _).run tree).2 = middle at first ⊢
      cases wrapped : ((writeNative settings base api :
          ExceptT StageError (StateM FileTree) Path).run.run middle).1 with
      | error cause =>
          rw [run_inStage_error wrapped]
          refine framed_error ?_ (fun _ rendering => ?_) (fun stage => nomatch stage) ?_
          · rintro (stage | ⟨stage, _⟩) <;> cases stage
          · rw [native.early middle cause wrapped rendering]
            exact first
          · exact (first.trans (native.touches middle)).mono (List.subset_append_left _ _)
      | ok header =>
          rw [run_inStage_ok wrapped]
          have nativeFiles := native.returns middle header wrapped
          refine writeManaged_framed (fun managedSource =>
            { exportsSource := files.1, interfaceFile := files.2, nativeHeader := header
              managedSource, fingerprint := api.fingerprint }) ?_
            (first.trans (native.touches middle))
          intro source
          rw [exportsFiles, nativeFiles]
          rfl

end Generation

/-! ## Runs -/

/-- How a generation ends a run: the exit code, and the sources to be built after it. -/
structure Report.Ends (report : Report) : Prop where
  success : ∀ generated, report.result = .ok generated →
    (RunOutcome.ofReport report).exitCode = 0 ∧
      ∀ sources, (RunOutcome.ofReport report).addTo sources = sources ++ [generated.exportsSource]
  failure : ∀ error, report.result = .error error →
    (RunOutcome.ofReport report).exitCode ≠ 0 ∧
      ∀ sources, (RunOutcome.ofReport report).addTo sources = sources

theorem GenerationError.exitCode_ne_zero (error : GenerationError) : error.exitCode ≠ 0 := by
  rw [exitCode]
  split
  · decide
  · cases error.stage <;> decide

theorem Report.ends (report : Report) : report.Ends := by
  constructor
  case success =>
    intro generated isOk
    rw [RunOutcome.ofReport, isOk]
    exact ⟨rfl, fun _ => rfl⟩
  case failure =>
    intro error isError
    rw [RunOutcome.ofReport, isError]
    exact ⟨error.exitCode_ne_zero, fun sources => List.append_nil sources⟩

/--
Whatever the settings and the tree are, what a generation changes is fixed by
how it ends, and it is a success that gives the exit code zero and one more
source to be built.
-/
theorem generate_framed (settings : Settings) (base : Path) (tree : FileTree) :
    let run := (generate settings base : StateM FileTree Report).run tree
    settings.Framed base tree run.1.result run.2 ∧ run.1.Ends := by
  refine ⟨?_, Report.ends _⟩
  unfold generate
  rw [run_bind, readsOnly_headers]
  cases ((headers (base.join settings.sourceFolder) settings.manifest :
      ExceptT StageError (StateM FileTree) (List Path)).run.run tree).1 with
  | error cause => exact framed_extraction cause tree
  | ok paths =>
      rw [run_bind, readsOnly_extractInterface]
      rcases ((extractInterface _ paths : StateM FileTree _).run tree).1 with ⟨notices, extracted⟩
      cases extracted with
      | error cause => exact framed_extraction cause tree
      | ok api => exact writeBindings_framed paths tree

end HeaderBindings
