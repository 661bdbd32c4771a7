import HeaderBindings.Files.Tree
import HeaderBindings.Proofs.Interface.HeaderOrder
import HeaderBindings.Run.Generation

/-!
# The files of the headers

The headers of a project are read from files.  In a tree of files reading
changes nothing, so a list of paths stands for a list of headers as long as
each of them can be read, and what holds of headers in any order holds of their
paths in any order.
-/

namespace HeaderBindings.Generation

variable {tree : FileTree} {path : Path} {paths others : List Path} {options : Header.Options}

/-- The header that a tree holds at a path. -/
def headerAt? (tree : FileTree) (path : Path) : Option HeaderSource :=
  (tree.read path).toOption.map fun bytes => { name := path.text, text := Text.decode bytes }

/-- The interface that a tree gives for some headers. -/
def interfaceOf (options : Header.Options) (tree : FileTree) (paths : List Path) :
    Except StageError Api :=
  ((extractInterface options paths : StateM FileTree _).run tree).1.2

theorem run_readText (tree : FileTree) (path : Path) :
    ((readText path : ExceptT StageError (StateM FileTree) String).run.run tree) =
      (((tree.read path).mapError (.unreadable path)).map Text.decode, tree) := by
  cases bytes : tree.read path with
  | ok content =>
      simp [readText, onFiles, MonadFiles.readFile, bytes, Except.mapError, Except.map]
      rfl
  | error error =>
      simp [readText, onFiles, MonadFiles.readFile, bytes, Except.mapError, Except.map]
      rfl

theorem run_readHeaders_present {source : HeaderSource} {rest : List Path}
    (present : headerAt? tree path = some source) :
    (readHeaders (path :: rest) : StateM FileTree _).run tree =
      (let ((sources, failure), after) := (readHeaders rest : StateM FileTree _).run tree
       ((source :: sources, failure), after)) := by
  cases bytes : tree.read path with
  | error error => simp [headerAt?, bytes, Except.toOption] at present
  | ok content =>
      have isSource : { name := path.text, text := Text.decode content } = source := by
        simpa [headerAt?, bytes, Except.toOption] using present
      rw [← isSource, readHeaders, StateT.run_bind, run_readText, bytes]
      rfl

theorem run_readHeaders_missing {rest : List Path} (missing : headerAt? tree path = none) :
    ∃ error, (readHeaders (path :: rest) : StateM FileTree _).run tree =
      (([], some error), tree) := by
  cases bytes : tree.read path with
  | ok content => simp [headerAt?, bytes, Except.toOption] at missing
  | error error =>
      refine ⟨.unreadable path error, ?_⟩
      rw [readHeaders, StateT.run_bind, run_readText, bytes]
      rfl

theorem run_readHeaders_of_present (present : paths.all fun path => (headerAt? tree path).isSome) :
    (readHeaders paths : StateM FileTree _).run tree =
      ((paths.filterMap (headerAt? tree), none), tree) := by
  induction paths with
  | nil => rfl
  | cons path rest ih =>
      rw [List.all_cons, Bool.and_eq_true] at present
      rcases Option.isSome_iff_exists.mp present.1 with ⟨source, isThere⟩
      rw [run_readHeaders_present isThere, ih present.2, List.filterMap_cons, isThere]

theorem run_readHeaders_of_missing
    (missing : (paths.all fun path => (headerAt? tree path).isSome) = false) :
    ∃ sources error, (readHeaders paths : StateM FileTree _).run tree =
      ((sources, some error), tree) := by
  induction paths with
  | nil => cases missing
  | cons path rest ih =>
      cases isThere : headerAt? tree path with
      | none =>
          exact ⟨[], run_readHeaders_missing isThere⟩
      | some source =>
          rw [List.all_cons, isThere] at missing
          rcases ih missing with ⟨sources, error, run⟩
          exact ⟨source :: sources, error, by rw [run_readHeaders_present isThere, run]⟩

theorem interfaceOf_present (present : paths.all fun path => (headerAt? tree path).isSome) :
    interfaceOf options tree paths =
      (extract options (paths.filterMap (headerAt? tree))).result.mapError .extraction := by
  rw [interfaceOf, extractInterface, StateT.run_bind, run_readHeaders_of_present present]
  rfl

theorem interfaceOf_missing
    (missing : (paths.all fun path => (headerAt? tree path).isSome) = false) :
    ∃ error, interfaceOf options tree paths = .error error := by
  rcases run_readHeaders_of_missing missing with ⟨sources, error, run⟩
  refine ⟨(gather options {} sources).failure.elim error fun failure =>
    .extraction (.scan failure), ?_⟩
  rw [interfaceOf, extractInterface, StateT.run_bind, run]
  rfl

theorem sameUpToOrder_mapError {ε δ : Type} {outcome other : Except ε Api} (change : ε → δ)
    (same : SameUpToOrder outcome other) :
    SameUpToOrder (outcome.mapError change) (other.mapError change) := by
  cases same with
  | failed error other => exact .failed _ _
  | succeeded perm => exact .succeeded perm

theorem interfaceOf_perm
    (perm : paths.Perm others)
    (separate : Separate options (paths.filterMap (headerAt? tree))) :
    SameUpToOrder (interfaceOf options tree paths) (interfaceOf options tree others) := by
  cases present : paths.all fun path => (headerAt? tree path).isSome with
  | true =>
      have othersPresent : others.all fun path => (headerAt? tree path).isSome := by
        rwa [← perm.all_eq]
      rw [interfaceOf_present present, interfaceOf_present othersPresent]
      exact sameUpToOrder_mapError _ (extract_perm (perm.filterMap _) separate)
  | false =>
      have missing : (others.all fun path => (headerAt? tree path).isSome) = false := by
        rwa [← perm.all_eq]
      have failure : ∃ error, interfaceOf options tree paths = .error error :=
        interfaceOf_missing present
      have otherFailure : ∃ error, interfaceOf options tree others = .error error :=
        interfaceOf_missing missing
      rcases failure with ⟨error, failed⟩
      rcases otherFailure with ⟨other, otherFailed⟩
      rw [failed, otherFailed]
      exact .failed error other

end HeaderBindings.Generation

namespace HeaderBindings

open Generation (headerAt? interfaceOf)

/--
What a header adds depends on its text and the options alone, whatever was
read before; and headers that declare no class in common can be given in any
order, as texts and as files.
-/
theorem headers_inAnyOrder (options : Header.Options) :
    (∀ conditions, Header.LeftBehind options conditions →
      ∀ (api : Api) (header other text : String),
        Header.scanLines options header [] conditions.reset none (Text.trimmedLines text) =
            Header.scan options header text ∧
          (gatherHeader options api ⟨header, text⟩).api =
            (Header.scan options other text).classes.foldl Api.upsert api ∧
          (gatherHeader options api ⟨header, text⟩).failure.isSome =
            (Header.scan options other text).failure.isSome) ∧
      (∀ sources others : List HeaderSource, sources.Perm others → Separate options sources →
        SameUpToOrder (extract options sources).result (extract options others).result) ∧
      ∀ (tree : FileTree) (paths others : List Path), paths.Perm others →
        Separate options (paths.filterMap (headerAt? tree)) →
        SameUpToOrder (interfaceOf options tree paths) (interfaceOf options tree others) := by
  refine ⟨?_, ?_, ?_⟩
  · intro conditions left api header other text
    have sameOutcome := Header.outcome_scan_named options header other text
    refine ⟨Header.scanLines_leftBehind left header text, ?_, congrArg Prod.snd sameOutcome⟩
    rw [gatherHeader_api]
    exact congrArg (fun outcome => outcome.1.foldl Api.upsert api) sameOutcome
  · exact fun sources others perm separate => extract_perm perm separate
  · exact fun tree paths others perm separate => Generation.interfaceOf_perm perm separate

/-- A header with an enum. -/
def enumHeader : HeaderSource :=
  { name := "enum.h", text := "NAPI_CLASS class A\nNAPI_ENUM enum M : int \x7b X \x7d;" }

/-- A header with a function that returns the enum of `enumHeader`. -/
def userHeader : HeaderSource :=
  { name := "user.h", text := "NAPI_CLASS class B\nNAPI A::M f();" }

/-- The two headers as files. -/
def headerTree : FileTree where
  workingDirectory := []
  nodes := [enumHeader, userHeader].map fun source =>
    ([source.name.toList], .file source.text.toUTF8.toList)

theorem enumHeader_inAnyOrder :
    Separate {} [enumHeader, userHeader] ∧
      Separate {} (([⟨"enum.h"⟩, ⟨"user.h"⟩] : List Path).filterMap (headerAt? headerTree)) ∧
      Header.scanLines {} "user.h" []
          (((Preprocessor.Conditions.ofDefinitions []).reset.after
            ["#define X", "#ifdef Y"]).reset) none (Text.trimmedLines userHeader.text) =
        Header.scan {} "user.h" userHeader.text ∧
      SameUpToOrder (extract {} [enumHeader, userHeader]).result
        (extract {} [userHeader, enumHeader]).result ∧
      SameUpToOrder (interfaceOf {} headerTree [⟨"enum.h"⟩, ⟨"user.h"⟩])
        (interfaceOf {} headerTree [⟨"user.h"⟩, ⟨"enum.h"⟩]) :=
  have separate : Separate {} [enumHeader, userHeader] := by
    decide +kernel
  have files : ([⟨"enum.h"⟩, ⟨"user.h"⟩] : List Path).filterMap (headerAt? headerTree) =
      [enumHeader, userHeader] := by
    decide +kernel
  have separateFiles :
      Separate {} (([⟨"enum.h"⟩, ⟨"user.h"⟩] : List Path).filterMap (headerAt? headerTree)) := by
    rw [files]
    exact separate
  have ⟨byItself, asTexts, asFiles⟩ := headers_inAnyOrder {}
  ⟨separate, separateFiles,
    (byItself _ (.header ["#define X", "#ifdef Y"] .start) {} "user.h" "user.h"
      userHeader.text).1,
    asTexts _ _ (.swap _ _ []) separate,
    asFiles headerTree _ _ (.swap _ _ []) separateFiles⟩

end HeaderBindings
