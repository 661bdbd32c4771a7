import HeaderBindings.Model.Fingerprint
import HeaderBindings.Proofs.Json.RoundTrip

/-!
# The interface read back

Every record is written with its fields in order and read back field by field,
the fields that are left out as their defaults.  So the file of an interface
gives back all that is published of it: the interface without the documentation
that only served to resolve references.  The text of the fingerprint holds the
same content in the other layout, and so it tells published interfaces apart.
-/

namespace HeaderBindings

open Json (Value)

/-! ## Records -/

section Records

variable {α : Type} (fields : List (String × Value)) (name : String)

@[simp]
theorem text?_string (text : String) : (Value.string text).text? = some text :=
  rfl

@[simp]
theorem bool?_bool (value : Bool) : (Value.bool value).bool? = some value :=
  rfl

theorem field?_ofFields : (Value.ofFields fields).field? name = fields.reverse.lookup name := by
  rw [Json.ofFields_eq]
  exact Table.lookup_ofEntries fields name

@[simp]
theorem record?_ofFields (names : List String) :
    record? names (.ofFields fields) = some (.ofFields fields) :=
  rfl

@[simp]
theorem kind?_ofFields :
    kind? (.ofFields fields) = (fields.reverse.lookup "kind").bind Value.text? := by
  rw [← field?_ofFields]
  rfl

@[simp]
theorem required?_ofFields (read : Value → Option α) :
    required? (.ofFields fields) name read = (fields.reverse.lookup name).bind read := by
  rw [required?, field?_ofFields]

/-- A field that is left out holds its default. -/
@[simp]
theorem defaulted?_ofFields (default : α) (read : Value → Option α) :
    defaulted? (.ofFields fields) name default read =
      ((fields.reverse.lookup name).map read).getD (some default) := by
  rw [defaulted?, field?_ofFields]
  cases fields.reverse.lookup name <;> rfl

end Records

section Lists

variable {α β : Type} {write : α → Value}

/-- A list is read back item by item. -/
theorem listOf?_map {read : Value → Option β} {view : α → β}
    (each : ∀ x, read (write x) = some (view x)) (items : List α) :
    (Value.array (items.map write)).listOf? read = some (items.map view) := by
  rw [Value.listOf?]
  induction items with
  | nil => rfl
  | cons item rest ih =>
      rw [List.map_cons, List.mapM_cons, each, ih]
      rfl

theorem listOf?_map_self {read : Value → Option α} (each : ∀ x, read (write x) = some x)
    (items : List α) : (Value.array (items.map write)).listOf? read = some items := by
  have same : ∀ x, read (write x) = some (id x) := each
  rw [listOf?_map same, List.map_id]

@[simp]
theorem texts?_ofTexts (texts : List String) : (Value.ofTexts texts).texts? = some texts :=
  listOf?_map_self text?_string texts

end Lists

@[simp]
theorem TypeClass.decode?_encode (typeClass : TypeClass) :
    decode? typeClass.encode = some typeClass := by
  cases typeClass <;> simp [encode, decode?, List.lookup_cons]

@[simp]
theorem ArrayGroup.decode?_encode (group : ArrayGroup) :
    decode? group.encode = some group := by
  cases group <;> simp [encode, decode?, List.lookup_cons]

theorem Argument.decode?_encode (arg : Argument) :
    decode? arg.encode = some arg := by
  -- Which fields are written depends on the optional parts, so these are told apart first.
  rcases arg with ⟨name, type, abiType, default, isInstance, typeClass⟩
  cases default <;> cases isInstance <;>
    simp [encode, decode?, flagField, decodeDefault?, List.lookup_cons]

@[simp]
theorem Return.decode?_encode (result : Return) :
    decode? result.encode = some result := by
  simp [encode, decode?, List.lookup_cons]

theorem EnumConstant.decode?_encode (constant : EnumConstant) :
    decode? constant.encode = some constant := by
  simp [encode, decode?, List.lookup_cons]

theorem EnumType.decode?_encode (e : EnumType) :
    decode? e.encode = some e := by
  have constants := listOf?_map_self EnumConstant.decode?_encode e.constants
  simp [encode, decode?, List.lookup_cons, constants]

theorem Property.decode?_encode (property : Property) :
    decode? property.encode = some property := by
  simp [encode, decode?, List.lookup_cons]

@[simp]
theorem ClassKind.decode?_encode (kind : ClassKind) :
    decode? kind.encode = some kind := by
  cases kind <;> rfl

/-- A function as the interface file has it: without the reference to borrowed documentation. -/
def Function.published (f : Function) : Function :=
  { f with docsFrom := none }

theorem Function.decode?_encode (f : Function) :
    decode? f.encode = some f.published := by
  have args := listOf?_map_self Argument.decode?_encode f.args
  cases grouped : f.arrayGroups with
  | nil =>
      cases isPrivate : f.isPrivate <;>
        simp [encode, decode?, published, flagField, List.lookup_cons, isPrivate, grouped, args]
  | cons group rest =>
      have groups := listOf?_map_self ArrayGroup.decode?_encode (group :: rest)
      rw [List.map_cons] at groups
      cases isPrivate : f.isPrivate <;>
        simp [encode, decode?, published, flagField, List.lookup_cons, isPrivate, grouped, args,
          groups]

/-- A class as the interface file has it: without the documentation of methods that are not
exposed. -/
def Class.published (c : Class) : Class :=
  { c with functions := c.functions.map Function.published, declaredDocs := [] }

theorem Class.decode?_encode (c : Class) :
    decode? c.encode = some c.published := by
  have enums := listOf?_map_self EnumType.decode?_encode c.enums
  have functions := listOf?_map Function.decode?_encode c.functions
  have properties := listOf?_map_self Property.decode?_encode c.properties
  simp [encode, decode?, published, List.lookup_cons, enums, functions, properties]

/-! ## Written records are in order -/

open Json.Value (InOrder)

theorem inOrder_ofFields {fields : List (String × Value)}
    (each : ∀ field ∈ fields, field.2.InOrder) : (Value.ofFields fields).InOrder := by
  rw [Json.ofFields_eq]
  apply InOrder.object (Table.ascending_ofEntries fields)
  exact fun field member => each field (Table.mem_ofEntries.mp member).mem

theorem inOrder_map {α : Type} {write : α → Value} (each : ∀ x, (write x).InOrder)
    (items : List α) : (Value.array (items.map write)).InOrder := by
  apply InOrder.array
  intro value member
  rcases List.mem_map.mp member with ⟨item, _, rfl⟩
  exact each item

@[simp]
theorem inOrder_ofTexts (texts : List String) : (Value.ofTexts texts).InOrder :=
  inOrder_map InOrder.string texts

theorem inOrder_flagField (name : String) (flag : Bool) :
    ∀ field ∈ flagField name flag, field.2.InOrder := by
  cases flag <;> simp [flagField]

@[simp]
theorem TypeClass.inOrder_encode (typeClass : TypeClass) : typeClass.encode.InOrder := by
  cases typeClass <;> exact inOrder_ofFields (by simp)

theorem ArrayGroup.inOrder_encode (group : ArrayGroup) : group.encode.InOrder := by
  cases group <;> exact inOrder_ofFields (by simp)

theorem Argument.inOrder_encode (arg : Argument) : arg.encode.InOrder := by
  apply inOrder_ofFields
  simp only [List.forall_mem_append]
  refine ⟨⟨?_, ?_⟩, inOrder_flagField _ _⟩
  · simp
  · simp

@[simp]
theorem Return.inOrder_encode (result : Return) : result.encode.InOrder :=
  inOrder_ofFields (by simp)

theorem Function.inOrder_encode (f : Function) : f.encode.InOrder := by
  apply inOrder_ofFields
  simp only [List.forall_mem_append]
  refine ⟨⟨?_, inOrder_flagField _ _⟩, ?_⟩
  · simp [inOrder_map Argument.inOrder_encode]
  · split <;> simp [inOrder_map ArrayGroup.inOrder_encode]

theorem EnumConstant.inOrder_encode (constant : EnumConstant) : constant.encode.InOrder :=
  inOrder_ofFields (by simp)

theorem EnumType.inOrder_encode (e : EnumType) : e.encode.InOrder :=
  inOrder_ofFields (by simp [inOrder_map EnumConstant.inOrder_encode])

theorem Property.inOrder_encode (property : Property) : property.encode.InOrder :=
  inOrder_ofFields (by simp)

@[simp]
theorem ClassKind.inOrder_encode (kind : ClassKind) : kind.encode.InOrder := by
  cases kind <;> exact .string _

theorem Class.inOrder_encode (c : Class) : c.encode.InOrder :=
  inOrder_ofFields (by
    simp [inOrder_map EnumType.inOrder_encode, inOrder_map Function.inOrder_encode,
      inOrder_map Property.inOrder_encode])

theorem Api.inOrder_encode (api : Api) : api.encode.InOrder :=
  inOrder_map Class.inOrder_encode api.classes

/-! ## The interface -/

namespace Api

/-- An interface as its file has it. -/
def published (api : Api) : Api :=
  { classes := api.classes.map Class.published }

theorem decode?_encode (api : Api) :
    decode? api.encode = some api.published := by
  have classes := listOf?_map Class.decode?_encode api.classes
  simp [encode, decode?, published, classes]

/-- What an interface does not publish is not written. -/
theorem encode_published (api : Api) : api.published.encode = api.encode := by
  have functions (f : Function) : f.published.encode = f.encode := rfl
  have classes (c : Class) : c.published.encode = c.encode := by
    simp [Class.encode, Class.published, List.map_map, Function.comp_def, functions]
  simp [encode, published, Function.comp_def, classes]

theorem ofDocument?_document (api : Api) : ofDocument? api.document = some api.published := by
  have inOrder : (Value.ofFields
      [("hash", .string api.fingerprint), ("classes", api.encode)]).InOrder :=
    inOrder_ofFields (by simp [api.inOrder_encode])
  rw [ofDocument?, document, Json.parse?_indented inOrder, Option.bind_some, required?_ofFields]
  simp [decode?_encode]

theorem hashedText_injective {api other : Api} (same : api.hashedText = other.hashedText) :
    api.published = other.published := by
  have written : some api.encode = some other.encode := by
    rw [← Json.parse?_line api.inOrder_encode, ← Json.parse?_line other.inOrder_encode]
    exact congrArg Json.parse? same
  have read : decode? api.encode = decode? other.encode :=
    congrArg decode? (Option.some.inj written)
  rw [decode?_encode, decode?_encode] at read
  exact Option.some.inj read

/--
The classes of an interface file give back the published interface, and the
text that the fingerprint is taken of is the same exactly for the same
published interface.
-/
theorem published_determined :
    (∀ api : Api, ofDocument? api.document = some api.published) ∧
      ∀ api other : Api,
        api.hashedText = other.hashedText ↔ api.published = other.published := by
  refine ⟨ofDocument?_document, fun api other => ⟨hashedText_injective, fun same => ?_⟩⟩
  rw [hashedText, hashedText, ← encode_published api, ← encode_published other, same]

end Api

end HeaderBindings
