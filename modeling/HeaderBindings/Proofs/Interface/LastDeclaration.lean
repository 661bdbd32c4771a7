import HeaderBindings.Proofs.Header.ClassBody
import HeaderBindings.Proofs.Interface.HeaderOrder

/-!
# Classes that are declared again

Headers are scanned into one interface, and a class can be declared more than
once.  The interface then holds one class of each name, in the place of the
first declaration of the name and with exactly the content of the last one.
What counts as a declaration is a body of a class that could be read to its end:
a scan that fails keeps the bodies before the one that it fails in.
-/

namespace HeaderBindings

open Header (Options)

/-- An interface holds each of some classes as it was declared last, in the order in which the names
were declared first. -/
structure Api.HoldsLast (api : Api) (declared : List Class) : Prop where
  names : api.classes.map Class.name = (declared.map Class.name).eraseDups
  distinct : (api.classes.map Class.name).Nodup
  classes : ∀ c, c ∈ api.classes ↔ Table.LastOf Class.name declared c
  found : ∀ name, api.class? name = declared.findRev? fun c => c.name == name

/-! ## Declarations one after another -/

/-- A class that is put into a list is found under its name, and the other names are found as
before. -/
theorem find?_upsertInto (c : Class) (classes : List Class) (name : String) :
    (Api.upsertInto c classes).find? (fun d => d.name == name) =
      if c.name == name then some c else classes.find? fun d => d.name == name := by
  induction classes with
  | nil =>
      rw [Api.upsertInto, List.find?_cons, List.find?_nil]
      cases c.name == name <;> rfl
  | cons first rest ih =>
      rw [Api.upsertInto]
      by_cases same : first.name = c.name
      · rw [if_pos (beq_iff_eq.mpr same), List.find?_cons, List.find?_cons, same]
        cases c.name == name <;> rfl
      · rw [if_neg (by simpa using same), List.find?_cons, List.find?_cons, ih]
        cases isFirst : first.name == name with
        | false => rfl
        | true =>
            have different : (c.name == name) = false := by
              rw [beq_eq_false_iff_ne, ← beq_iff_eq.mp isFirst]
              exact Ne.symm same
            rw [different]
            rfl

theorem foldl_upsert_concat (declared : List Class) (c : Class) :
    ((declared ++ [c]).foldl Api.upsert {}).classes =
      Api.upsertInto c (declared.foldl Api.upsert {}).classes := by
  rw [List.foldl_concat]
  rfl

theorem map_name_foldl_upsert (declared : List Class) :
    (declared.foldl Api.upsert {}).classes.map Class.name =
      (declared.map Class.name).eraseDups := by
  induction declared using List.reverseRecOn with
  | nil => rfl
  | append_singleton declared c ih =>
      rw [foldl_upsert_concat, Header.map_name_upsertInto, ih, List.map_append,
        List.map_singleton, List.eraseDups_append, List.removeAll]
      generalize declared.map Class.name = names
      by_cases known : c.name ∈ names
      · rw [if_pos (List.mem_eraseDups.mpr known)]
        simp [known]
      · rw [if_neg (mt List.mem_eraseDups.mp known)]
        simp [known, List.eraseDups_cons]

theorem class?_foldl_upsert (declared : List Class) (name : String) :
    (declared.foldl Api.upsert {}).class? name = declared.findRev? fun c => c.name == name := by
  rw [List.findRev?_eq_find?_reverse]
  induction declared using List.reverseRecOn with
  | nil => rfl
  | append_singleton declared c ih =>
      rw [Api.class?, foldl_upsert_concat, find?_upsertInto, List.reverse_concat, List.find?_cons,
        ← ih]
      cases c.name == name <;> rfl

/-- Whatever classes are declared in whatever order, the interface holds the last ones. -/
theorem holdsLast_foldl_upsert (declared : List Class) :
    (declared.foldl Api.upsert {}).HoldsLast declared where
  names := map_name_foldl_upsert declared
  distinct := by
    induction declared using List.reverseRecOn with
    | nil => exact List.nodup_nil
    | append_singleton declared c ih =>
        rw [foldl_upsert_concat]
        exact Header.nodup_upsertInto ih c
  classes c := by
    rw [foldl_upsert_classes]
    apply @Table.mem_foldl_iff _ _ Class.name _ _ (fun table c => Api.upsertInto c table)
      fun table => (table.map Class.name).Nodup
    · exact List.nodup_nil
    · exact fun table added names => Header.nodup_upsertInto names added
    · exact fun table added other names => Header.mem_upsertInto names
  found := class?_foldl_upsert declared

/-! ## Headers one after another -/

/-- The classes of a header that are declared to their end, in the order of the lines that open
them. -/
def HeaderSource.declarations (options : Options) (source : HeaderSource) : List Class :=
  (Header.readable ((Header.bodies (Header.liveLines options source.name source.text)).map
    Header.ClassBody.class?)).1

/-- The interface after the scans of some headers, some of which may fail. -/
def scannedApi (options : Options) (sources : List HeaderSource) : Api :=
  sources.foldl (fun api source => (gatherHeader options api source).api) {}

/-- The headers that an extraction scans: those down to the first one that fails. -/
def reachedHeaders (options : Options) : List HeaderSource → List HeaderSource
  | [] => []
  | source :: rest => if source.fails options then [source] else source :: reachedHeaders options rest

section Scans

variable {options : Options} {api : Api} {sources : List HeaderSource}

theorem classes_eq_declarations (source : HeaderSource) :
    source.classes options = source.declarations options :=
  congrArg Prod.fst (Header.outcome_scan options source.name source.text)

theorem scannedApi_eq (options : Options) (sources : List HeaderSource) :
    scannedApi options sources =
      (sources.flatMap (HeaderSource.declarations options)).foldl Api.upsert {} := by
  rw [scannedApi]
  generalize ({} : Api) = api
  induction sources generalizing api with
  | nil => rfl
  | cons source rest ih =>
      rw [List.foldl_cons, ih, List.flatMap_cons, List.foldl_append, gatherHeader_api,
        classes_eq_declarations]

theorem gather_api_eq_foldl (api : Api) (sources : List HeaderSource) :
    (gather options api sources).api =
      (reachedHeaders options sources).foldl (fun api source => (gatherHeader options api source).api)
        api := by
  induction sources generalizing api with
  | nil => rfl
  | cons source rest ih =>
      have first : (gatherHeader options api source).failure.isSome = source.fails options := rfl
      rw [gather, reachedHeaders, first]
      split
      · rfl
      · rw [List.foldl_cons, ← ih]

end Scans

/--
After any declarations, and after the scans of any headers, those that fail
included, the interface has one class of each name: in the place of the first
declaration of the name, and with the content of the last complete one.  An
extraction gathers the classes of the headers down to the first that fails.
-/
theorem declared_lastOfEach :
    (∀ declared : List Class, (declared.foldl Api.upsert {}).HoldsLast declared) ∧
      ∀ (options : Options) (sources : List HeaderSource),
        (scannedApi options sources).HoldsLast
            (sources.flatMap (HeaderSource.declarations options)) ∧
          (gather options {} sources).api = scannedApi options (reachedHeaders options sources) := by
  refine ⟨holdsLast_foldl_upsert, fun options sources => ⟨?_, gather_api_eq_foldl {} sources⟩⟩
  rw [scannedApi_eq]
  exact holdsLast_foldl_upsert _

end HeaderBindings
