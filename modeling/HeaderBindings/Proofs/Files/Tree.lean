import HeaderBindings.Files.Tree
import HeaderBindings.Proofs.Outcome

/-!
# Trees that grow

No operation removes anything: directories stay directories, and files stay
files with other bytes at most.  So a path that names something goes on to name
the same thing, and what a number of operations has changed can be named at the
end by the paths that were given to them.
-/

namespace HeaderBindings.FileTree

variable {tree before middle after : FileTree} {location found : Location} {path : Path}
variable {pieces : List (List Char)} {piece : List Char} {bytes : List UInt8}

/-- The bytes of the file at a location. -/
def file? (tree : FileTree) (location : Location) : Option (List UInt8) :=
  match tree.node? location with
  | some (.file bytes) => some bytes
  | _ => none

theorem node?_nil (tree : FileTree) : tree.node? [] = some .directory :=
  rfl

theorem ne_nil_of_not_directory (notDirectory : tree.node? location ≠ some .directory) :
    location ≠ [] := by
  rintro rfl
  exact notDirectory tree.node?_nil

theorem lookup_filter_ne {nodes : List (Location × Node)} {other : Location}
    (different : other ≠ location) :
    (nodes.filter fun entry => entry.1 != location).lookup other = nodes.lookup other := by
  induction nodes with
  | nil => rfl
  | cons entry rest ih =>
      rcases entry with ⟨key, node⟩
      by_cases same : key = location
      · have skipped : (other == key) = false := by
          rw [same]
          exact beq_false_of_ne different
        rw [List.filter_cons_of_neg (by simp [same]), ih, List.lookup_cons, skipped]
      · rw [List.filter_cons_of_pos (by simp [same]), List.lookup_cons, List.lookup_cons, ih]

theorem node?_setNode_self (inside : location ≠ []) (node : Node) :
    (tree.setNode location node).node? location = some node := by
  simp [node?, setNode, inside]

theorem node?_setNode_ne {other : Location} (different : other ≠ location) (node : Node) :
    (tree.setNode location node).node? other = tree.node? other := by
  by_cases atRoot : other = []
  · rw [atRoot, node?_nil, node?_nil]
  · simp only [node?, setNode, List.isEmpty_eq_false_iff.mpr atRoot, List.lookup_cons,
      beq_false_of_ne different, lookup_filter_ne different]

/-! ## Growth -/

/-- Everything in a tree is still there in another one, as a file or as a directory. -/
structure Grows (before after : FileTree) : Prop where
  workingDirectory : after.workingDirectory = before.workingDirectory
  directories : ∀ location,
    before.node? location = some .directory → after.node? location = some .directory
  files : ∀ location bytes, before.node? location = some (.file bytes) →
    ∃ others, after.node? location = some (.file others)

namespace Grows

theorem refl (tree : FileTree) : Grows tree tree :=
  ⟨rfl, fun _ there => there, fun _ bytes there => ⟨bytes, there⟩⟩

theorem trans (first : Grows before middle) (second : Grows middle after) :
    Grows before after := by
  refine ⟨second.workingDirectory.trans first.workingDirectory, ?_, ?_⟩
  · intro location there
    exact second.directories location (first.directories location there)
  · intro location bytes there
    rcases first.files location bytes there with ⟨others, kept⟩
    exact second.files location others kept

theorem isSome (grows : Grows before after) (there : (before.node? location).isSome = true) :
    (after.node? location).isSome = true := by
  cases node : before.node? location with
  | none =>
      rw [node] at there
      cases there
  | some found =>
      cases found with
      | directory => rw [grows.directories location node, Option.isSome_some]
      | file bytes =>
          rcases grows.files location bytes node with ⟨others, kept⟩
          rw [kept, Option.isSome_some]

/-- A node is put where nothing is, or a file where a file is. -/
theorem setNode (inside : location ≠ []) {node : Node}
    (notDirectory : tree.node? location ≠ some .directory)
    (fits : tree.node? location = none ∨ ∃ bytes, node = .file bytes) :
    Grows tree (tree.setNode location node) := by
  refine ⟨rfl, ?_, ?_⟩
  · intro other there
    by_cases same : other = location
    · rw [same] at there
      exact absurd there notDirectory
    · rw [node?_setNode_ne same, there]
  · intro other bytes there
    by_cases same : other = location
    · rcases fits with free | ⟨others, rfl⟩
      · rw [same, free] at there
        cases there
      · exact ⟨others, by rw [same, node?_setNode_self inside]⟩
    · exact ⟨bytes, by rw [node?_setNode_ne same, there]⟩

theorem follow (grows : Grows before after) (followed : before.follow location piece = .ok found) :
    after.follow location piece = .ok found := by
  rw [FileTree.follow] at followed ⊢
  cases node : before.node? location with
  | none =>
      rw [node] at followed
      cases followed
  | some there =>
      cases there with
      | file bytes =>
          rw [node] at followed
          cases followed
      | directory =>
          rw [node] at followed
          rw [grows.directories location node]
          by_cases skipped : Path.isSkipped piece
          · rw [if_pos skipped] at followed ⊢
            exact followed
          · rw [if_neg skipped] at followed ⊢
            by_cases parent : piece = "..".toList
            · rw [if_pos parent] at followed ⊢
              exact followed
            · rw [if_neg parent] at followed ⊢
              rcases Outcome.bind_eq_ok_iff.mp followed with ⟨inner, named, isThere⟩
              refine Outcome.bind_eq_ok_iff.mpr ⟨inner, named, ?_⟩
              split at isThere
              next there => rw [if_pos (grows.isSome there), isThere]
              next => cases isThere

theorem followAll (grows : Grows before after)
    (followed : pieces.foldlM before.follow location = .ok found) :
    pieces.foldlM after.follow location = .ok found := by
  induction pieces generalizing location with
  | nil => exact followed
  | cons piece rest ih =>
      rw [List.foldlM_cons] at followed ⊢
      rcases Outcome.bind_eq_ok_iff.mp followed with ⟨inner, first, others⟩
      exact Outcome.bind_eq_ok_iff.mpr ⟨inner, grows.follow first, ih others⟩

theorem start (grows : Grows before after) (text : List Char) :
    after.start text = before.start text := by
  rw [FileTree.start, FileTree.start, grows.workingDirectory]

theorem locate (grows : Grows before after) (located : before.locate path = .ok found) :
    after.locate path = .ok found := by
  rcases Outcome.bind_eq_ok_iff.mp located with ⟨_, named, followed⟩
  refine Outcome.bind_eq_ok_iff.mpr ⟨_, named, ?_⟩
  show ((path.text.toList).splitOn '/').foldlM after.follow (after.start path.text.toList) = _
  rw [grows.start]
  exact grows.followAll followed

end Grows

/-! ## Targets -/

/-- The location of a target. -/
def Target.place : Target → Location
  | .present location => location
  | .free location => location

/-- A target is what its path names as soon as something is there; before that it may be free. -/
structure Names (tree : FileTree) (location : Location) (pieces : List (List Char))
    (target : Target) : Prop where
  free : ∀ found, target = .free found → tree.node? found = none
  followed : ∀ after, Grows tree after → (after.node? target.place).isSome = true →
    pieces.foldlM after.follow location = .ok target.place

theorem names_present (followed : pieces.foldlM tree.follow location = .ok found) :
    tree.Names location pieces (.present found) := by
  constructor
  · intro other isFree
    cases isFree
  · intro after grows _
    exact grows.followAll followed

theorem names_piece {target : Target}
    (isTarget : tree.targetFrom location [piece] = .ok target) :
    tree.Names location [piece] target := by
  have present {found : Location} (followed : tree.follow location piece = .ok found) :
      tree.Names location [piece] (.present found) := by
    apply names_present
    rw [List.foldlM_cons, followed]
    rfl
  rw [targetFrom] at isTarget
  cases node : tree.node? location with
  | none =>
      rw [node] at isTarget
      cases isTarget
  | some there =>
      cases there with
      | file bytes =>
          rw [node] at isTarget
          cases isTarget
      | directory =>
          rw [node] at isTarget
          by_cases skipped : Path.isSkipped piece
          · rw [if_pos skipped] at isTarget
            cases isTarget
            exact present (by rw [follow, node]; exact if_pos skipped)
          · rw [if_neg skipped] at isTarget
            by_cases parent : piece = "..".toList
            · rw [if_pos parent] at isTarget
              cases isTarget
              exact present (by rw [follow, node]; exact (if_neg skipped).trans (if_pos parent))
            · rw [if_neg parent] at isTarget
              rcases Outcome.bind_eq_ok_iff.mp isTarget with ⟨inner, named, isThere⟩
              have entered (other : FileTree) (isDirectory : other.node? location = some .directory)
                  (isInside : (other.node? inner).isSome = true) :
                  other.follow location piece = .ok inner := by
                rw [follow, isDirectory, if_neg skipped, if_neg parent, named]
                exact if_pos isInside
              split at isThere
              next isInside =>
                cases isThere
                exact present (entered tree node isInside)
              next isOutside =>
                cases isThere
                refine ⟨?_, fun after grows isInside => ?_⟩
                · intro found isFree
                  cases isFree
                  exact Option.not_isSome_iff_eq_none.mp isOutside
                · rw [List.foldlM_cons, entered after (grows.directories _ node) isInside]
                  rfl

theorem names_of_targetFrom {target : Target}
    (isTarget : tree.targetFrom location pieces = .ok target) :
    tree.Names location pieces target := by
  induction pieces generalizing location with
  | nil =>
      cases isTarget
      exact names_present rfl
  | cons piece rest ih =>
      cases rest with
      | nil => exact names_piece isTarget
      | cons next rest =>
          rcases Outcome.bind_eq_ok_iff.mp isTarget with ⟨inner, first, others⟩
          have named := ih others
          refine ⟨named.free, fun after grows isInside => ?_⟩
          rw [List.foldlM_cons]
          exact Outcome.bind_eq_ok_iff.mpr
            ⟨inner, grows.follow first, named.followed after grows isInside⟩

theorem locate_of_target {target : Target}
    (isTarget : before.target path (path.text.toList.splitOn '/') = .ok target)
    (grows : Grows before after) (isInside : (after.node? target.place).isSome = true) :
    after.locate path = .ok target.place := by
  rcases Outcome.bind_eq_ok_iff.mp isTarget with ⟨_, named, from_⟩
  refine Outcome.bind_eq_ok_iff.mpr ⟨_, named, ?_⟩
  show (path.text.toList.splitOn '/').foldlM after.follow (after.start path.text.toList) = _
  rw [grows.start]
  exact (names_of_targetFrom from_).followed after grows isInside

theorem node?_of_free (isTarget : tree.target path pieces = .ok (.free found)) :
    tree.node? found = none := by
  rcases Outcome.bind_eq_ok_iff.mp isTarget with ⟨_, _, from_⟩
  exact (names_of_targetFrom from_).free found rfl

/-! ## Changes -/

/-- A tree has grown, and the files in which it differs are the ones that some paths name. -/
structure ChangesOnly (paths : List Path) (before after : FileTree) : Prop where
  grows : Grows before after
  elsewhere : ∀ location, after.file? location ≠ before.file? location →
    ∃ path ∈ paths, after.locate path = .ok location

namespace ChangesOnly

variable {paths others : List Path}

theorem refl (tree : FileTree) : ChangesOnly [] tree tree :=
  ⟨.refl tree, fun _ different => absurd rfl different⟩

theorem mono (changes : ChangesOnly paths before after) (included : paths ⊆ others) :
    ChangesOnly others before after := by
  refine ⟨changes.grows, fun location different => ?_⟩
  rcases changes.elsewhere location different with ⟨path, member, located⟩
  exact ⟨path, included member, located⟩

theorem trans (first : ChangesOnly paths before middle) (second : ChangesOnly others middle after) :
    ChangesOnly (paths ++ others) before after := by
  refine ⟨first.grows.trans second.grows, fun location different => ?_⟩
  by_cases same : after.file? location = middle.file? location
  · rw [same] at different
    rcases first.elsewhere location different with ⟨path, member, located⟩
    exact ⟨path, List.mem_append_left _ member, second.grows.locate located⟩
  · rcases second.elsewhere location same with ⟨path, member, located⟩
    exact ⟨path, List.mem_append_right _ member, located⟩

theorem setFile (notDirectory : tree.node? found ≠ some .directory)
    (located : (tree.setNode found (.file bytes)).locate path = .ok found) :
    ChangesOnly [path] tree (tree.setNode found (.file bytes)) := by
  refine ⟨.setNode (ne_nil_of_not_directory notDirectory) notDirectory (Or.inr ⟨bytes, rfl⟩), ?_⟩
  intro location different
  by_cases same : location = found
  · exact ⟨path, List.mem_singleton_self path, same ▸ located⟩
  · exact absurd (by rw [file?, file?, node?_setNode_ne same]) different

theorem setDirectory (free : tree.node? found = none) :
    ChangesOnly [] tree (tree.setNode found .directory) := by
  have notDirectory : tree.node? found ≠ some .directory := by
    rw [free]
    exact (Option.some_ne_none _).symm
  have inside := ne_nil_of_not_directory notDirectory
  refine ⟨.setNode inside notDirectory (Or.inl free), ?_⟩
  intro location different
  by_cases same : location = found
  · exact absurd (by rw [file?, file?, same, node?_setNode_self inside, free]) different
  · exact absurd (by rw [file?, file?, node?_setNode_ne same]) different

end ChangesOnly

/-! ## Operations -/

theorem write_changes (written : tree.write path bytes = .ok after) :
    ChangesOnly [path] tree after := by
  rcases Outcome.bind_eq_ok_iff.mp written with ⟨target, isTarget, put⟩
  have atTarget (notDirectory : tree.node? target.place ≠ some .directory) :
      ChangesOnly [path] tree (tree.setNode target.place (.file bytes)) := by
    have inside := ne_nil_of_not_directory notDirectory
    apply ChangesOnly.setFile notDirectory
    apply locate_of_target isTarget
    · exact .setNode inside notDirectory (Or.inr ⟨bytes, rfl⟩)
    · rw [node?_setNode_self inside, Option.isSome_some]
  cases target with
  | free found =>
      cases put
      apply atTarget
      rw [Target.place, node?_of_free isTarget]
      exact (Option.some_ne_none _).symm
  | present found =>
      cases node : tree.node? found with
      | none => simp [node] at put
      | some there =>
          cases there with
          | directory => simp [node] at put
          | file old =>
              simp only [node, Except.ok.injEq] at put
              rw [← put]
              apply atTarget
              rw [Target.place, node]
              exact fun equal => by cases equal

theorem makeDirectory_changes (made : tree.makeDirectory path = .ok after) :
    ChangesOnly [] tree after := by
  rcases Outcome.bind_eq_ok_iff.mp made with ⟨target, isTarget, put⟩
  cases target with
  | present found => cases put
  | free found =>
      cases put
      exact .setDirectory (node?_of_free isTarget)

theorem copy_changes {source destination : Path}
    (copied : tree.copy source destination = .ok after) :
    ChangesOnly [destination] tree after := by
  rcases Outcome.bind_eq_ok_iff.mp copied with ⟨_, _, rest⟩
  rcases Outcome.bind_eq_ok_iff.mp rest with ⟨emptied, first, rest⟩
  rcases Outcome.bind_eq_ok_iff.mp rest with ⟨content, _, second⟩
  exact ((write_changes first).trans (write_changes second)).mono (by simp)

end HeaderBindings.FileTree
