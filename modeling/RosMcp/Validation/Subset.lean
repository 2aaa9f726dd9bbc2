import RosMcp.Mcp.Schemas

/-!
# The documented schema subset

`Subset` is the language of schemas that the checker documents: every node has one of the six types, and only the
keywords that belong to its type.  `Accepts` is the meaning of such a schema, by recursion over it and in exact
arithmetic; a boolean is not a number, and an integer is a JSON number written without a fraction.

`toSchema` writes a schema of the subset as the dictionary that the checker reads.  On values with finite numbers the
checker accepts exactly what the schema means (`checkSchema_subset_iff`), and the schemas of all tools are in the subset
(`toolDefinitions_subset`).
-/

namespace RosMcp

open PyFloat

/-! ### The subset -/

/-- A finite JSON number, written without or with a fraction. -/
inductive JsonNumber
  | integer (n : ℤ)
  | decimal (x : ℝ)

namespace JsonNumber

def value : JsonNumber → ℝ
  | integer n => n
  | decimal x => x

def toJson : JsonNumber → Json (PyFloat ℝ)
  | integer n => .int n
  | decimal x => .float (.fin x)

@[simp] theorem number?_toJson (m : JsonNumber) : m.toJson.number? = some (PyFloat.fin m.value) := by
  cases m <;> rfl

end JsonNumber

/-- A schema of the subset; a keyword that is left out is `none`, empty, or its default. -/
inductive Subset
  | string (enum : Option (List String))
  | number (minimum maximum : Option JsonNumber)
  | integer (minimum maximum : Option JsonNumber)
  | boolean
  | array (items : Option Subset) (maxItems : Option Nat)
  | object (properties : List (String × Subset)) (required : List String) (additionalProperties : Bool)

namespace Subset

/-- The number lies between the bounds that are given. -/
def Between (minimum maximum : Option JsonNumber) (x : ℝ) : Prop :=
  (∀ m ∈ minimum, m.value ≤ x) ∧ ∀ m ∈ maximum, x ≤ m.value

/-- The values that a schema accepts. -/
inductive Accepts : Subset → Json (PyFloat ℝ) → Prop
  | string {enum : Option (List String)} {s : String} (henum : ∀ allowed ∈ enum, s ∈ allowed) :
      Accepts (.string enum) (.str s)
  | number {minimum maximum : Option JsonNumber} (x : JsonNumber) (hbounds : Between minimum maximum x.value) :
      Accepts (.number minimum maximum) x.toJson
  | integer {minimum maximum : Option JsonNumber} {n : ℤ} (hbounds : Between minimum maximum n) :
      Accepts (.integer minimum maximum) (.int n)
  | boolean (b : Bool) : Accepts .boolean (.bool b)
  | array {itemSchema : Option Subset} {maxItems : Option Nat} {items : List (Json (PyFloat ℝ))}
      (hmax : ∀ m ∈ maxItems, items.length ≤ m)
      (hitems : ∀ s, itemSchema = some s → ∀ item ∈ items, Accepts s item) :
      Accepts (.array itemSchema maxItems) (.arr items)
  | object {properties : List (String × Subset)} {required : List String} {additionalProperties : Bool}
      {fields : List (String × Json (PyFloat ℝ))} (hrequired : ∀ key ∈ required, ∃ value, (key, value) ∈ fields)
      (hknown : ∀ key value, (key, value) ∈ fields → ∀ s, getKey properties key = some s → Accepts s value)
      (hother : ∀ key value, (key, value) ∈ fields → getKey properties key = none → additionalProperties = true) :
      Accepts (.object properties required additionalProperties) (.obj fields)

mutual

/-- The dictionary that the checker reads. -/
def toSchema : Subset → Schema (PyFloat ℝ)
  | string enum => { type := some .string, enum }
  | number minimum maximum =>
    { type := some .number, minimum := minimum.map JsonNumber.toJson, maximum := maximum.map JsonNumber.toJson }
  | integer minimum maximum =>
    { type := some .integer, minimum := minimum.map JsonNumber.toJson, maximum := maximum.map JsonNumber.toJson }
  | boolean => { type := some .boolean }
  | array items maxItems => { type := some .array, items := toItems items, maxItems }
  | object properties required additionalProperties =>
    { type := some .object, properties := toProperties properties, required, additionalProperties }

def toItems : Option Subset → Option (Schema (PyFloat ℝ))
  | none => none
  | some s => some s.toSchema

def toProperties : List (String × Subset) → List (String × Schema (PyFloat ℝ))
  | [] => []
  | (key, s) :: rest => (key, s.toSchema) :: toProperties rest

end

private theorem toItems_eq (items : Option Subset) : toItems items = items.map toSchema := by
  cases items <;> rfl

/-- Looking up a property commutes with writing the schema out. -/
private theorem getKey_toProperties (properties : List (String × Subset)) (key : String) :
    getKey (toProperties properties) key = (getKey properties key).map toSchema := by
  induction properties with
  | nil => rfl
  | cons property rest ih =>
    obtain ⟨name, s⟩ := property
    unfold getKey at ih ⊢
    rw [toProperties, List.find?_cons, List.find?_cons]
    cases name == key with
    | true => rfl
    | false => exact ih

end Subset

/-! ### Values with finite numbers -/

mutual

/-- Every number in the value is finite. -/
def Json.FiniteNumbers : Json (PyFloat ℝ) → Prop
  | .float x => x.IsFinite
  | .arr items => Json.FiniteItems items
  | .obj fields => Json.FiniteFields fields
  | _ => True

def Json.FiniteItems : List (Json (PyFloat ℝ)) → Prop
  | [] => True
  | value :: rest => value.FiniteNumbers ∧ Json.FiniteItems rest

def Json.FiniteFields : List (String × Json (PyFloat ℝ)) → Prop
  | [] => True
  | (_, value) :: rest => value.FiniteNumbers ∧ Json.FiniteFields rest

end

private theorem Json.FiniteItems.mem {items : List (Json (PyFloat ℝ))} (h : Json.FiniteItems items)
    {item : Json (PyFloat ℝ)} (hmem : item ∈ items) : item.FiniteNumbers := by
  induction items with
  | nil => cases hmem
  | cons value rest ih =>
    rcases List.mem_cons.1 hmem with rfl | hmem
    · exact h.1
    · exact ih h.2 hmem

private theorem Json.FiniteFields.mem {fields : List (String × Json (PyFloat ℝ))} (h : Json.FiniteFields fields)
    {key : String} {value : Json (PyFloat ℝ)} (hmem : (key, value) ∈ fields) : value.FiniteNumbers := by
  induction fields with
  | nil => cases hmem
  | cons field rest ih =>
    rcases List.mem_cons.1 hmem with rfl | hmem
    · exact h.1
    · exact ih h.2 hmem

/-- A finite number of the checker is a JSON number. -/
private theorem JsonNumber.exists_of_accepts {value : Json (PyFloat ℝ)} (hfinite : value.FiniteNumbers)
    (h : SchemaType.number.accepts value = true) : ∃ x : JsonNumber, value = x.toJson := by
  cases value with
  | int n => exact ⟨.integer n, rfl⟩
  | float x =>
    obtain ⟨y, rfl⟩ := hfinite
    exact ⟨.decimal y, rfl⟩
  | null | bool b | str s | arr items | obj fields => cases h

/-! ### The checker decides the subset -/

namespace Subset

/-- The bounds of a written schema are those of the subset. -/
theorem bounded_iff {schema : Schema (PyFloat ℝ)} {minimum maximum : Option JsonNumber} {value : Json (PyFloat ℝ)}
    {x : ℝ} (hmin : schema.minimum = minimum.map JsonNumber.toJson)
    (hmax : schema.maximum = maximum.map JsonNumber.toJson) (hvalue : value.number? = some (PyFloat.fin x)) :
    schema.Bounded value ↔ Between minimum maximum x := by
  unfold Schema.Bounded Between
  rw [hmin, hmax, hvalue]
  cases minimum <;> cases maximum <;> simp

/-- A key of an object is looked up. -/
theorem getKey_isSome_iff {β : Type} {fields : List (String × β)} {key : String} :
    (getKey fields key).isSome = true ↔ ∃ value, (key, value) ∈ fields := by
  constructor
  · intro h
    obtain ⟨value, hvalue⟩ := Option.isSome_iff_exists.1 h
    exact ⟨value, getKey_mem hvalue⟩
  · rintro ⟨value, hmem⟩
    unfold getKey
    rw [Option.isSome_map, List.find?_isSome]
    exact ⟨(key, value), hmem, by simp⟩

/-- What the subset accepts conforms to the written schema. -/
private theorem Accepts.conforms {s : Subset} {value : Json (PyFloat ℝ)}
    (h : s.Accepts value) : Conforms s.toSchema value := by
  have hnumber : ∀ {schema : Schema (PyFloat ℝ)} {minimum maximum : Option JsonNumber} {value : Json (PyFloat ℝ)}
      {x : ℝ},
      schema.minimum = minimum.map JsonNumber.toJson → schema.maximum = maximum.map JsonNumber.toJson →
      value.number? = some (PyFloat.fin x) → Between minimum maximum x → schema.Bounded value :=
    fun hmin hmax hvalue hbounds => (bounded_iff hmin hmax hvalue).2 hbounds
  induction h with
  | @string enum text henum =>
    constructor
    case type =>
      rintro t ⟨⟩
      rfl
    case enum => exact fun allowed hallowed => List.contains_iff_mem.2 (henum allowed hallowed)
    case required | known | additional | maxItems | items => rintro _ ⟨⟩
    case bounds => rintro (⟨⟨⟩⟩ | ⟨⟨⟩⟩)
  | @number minimum maximum x hbounds =>
    constructor
    case type =>
      rintro t ⟨⟩
      cases x <;> rfl
    case bounds => exact fun _ => hnumber rfl rfl x.number?_toJson hbounds
    case required | known | additional | maxItems | items | enum => rintro _ ⟨⟩
  | @integer minimum maximum n hbounds =>
    constructor
    case type =>
      rintro t ⟨⟩
      rfl
    case bounds => exact fun _ => hnumber rfl rfl (JsonNumber.integer n).number?_toJson hbounds
    case required | known | additional | maxItems | items | enum => rintro _ ⟨⟩
  | boolean b =>
    constructor
    case type =>
      rintro t ⟨⟩
      rfl
    case required | known | additional | maxItems | items | enum => rintro _ ⟨⟩
    case bounds => rintro (⟨⟨⟩⟩ | ⟨⟨⟩⟩)
  | @array itemSchema maxItems items hmax _ ih =>
    constructor
    case type =>
      rintro t ⟨⟩
      rfl
    case maxItems =>
      rintro _ - ⟨⟩
      exact hmax
    case items =>
      rintro _ - ⟨⟩ itemsSchema hitemsSchema item hitem
      change toItems itemSchema = some itemsSchema at hitemsSchema
      rw [toItems_eq, Option.map_eq_some_iff] at hitemsSchema
      obtain ⟨s, hs, rfl⟩ := hitemsSchema
      exact ih s hs item hitem
    case required | known | additional | enum => rintro _ ⟨⟩
    case bounds => rintro (⟨⟨⟩⟩ | ⟨⟨⟩⟩)
  | @object properties required additionalProperties fields hrequired _ hother ih =>
    constructor
    case type =>
      rintro t ⟨⟩
      rfl
    case required =>
      rintro _ - ⟨⟩ key hkey
      exact getKey_isSome_iff.2 (hrequired key hkey)
    case known =>
      rintro _ - ⟨⟩ key value hmem sub hsub
      change getKey (toProperties properties) key = some sub at hsub
      rw [getKey_toProperties, Option.map_eq_some_iff] at hsub
      obtain ⟨s, hs, rfl⟩ := hsub
      exact ih key value hmem s hs
    case additional =>
      rintro _ - ⟨⟩ key value hmem hnone
      change getKey (toProperties properties) key = none at hnone
      rw [getKey_toProperties, Option.map_eq_none_iff] at hnone
      exact hother key value hmem hnone
    case maxItems | items | enum => rintro _ ⟨⟩
    case bounds => rintro (⟨⟨⟩⟩ | ⟨⟨⟩⟩)

/-- With finite numbers, what conforms to the written schema is accepted. -/
private theorem accepts_of_conforms {schema : Schema (PyFloat ℝ)} {value : Json (PyFloat ℝ)}
    (h : Conforms schema value) :
    ∀ s : Subset, s.toSchema = schema → value.FiniteNumbers → s.Accepts value := by
  induction h with
  | intro schema value htype hrequired _ hother hmax _ henum hbounds ihKnown ihItems =>
    rintro s rfl hfinite
    cases s with
    | string enum =>
      have haccepts := htype .string rfl
      cases value with
      | str text => exact .string fun allowed hallowed => List.contains_iff_mem.1 (henum allowed hallowed)
      | null | bool b | int n | float x | arr items | obj fields => cases haccepts
    | number minimum maximum =>
      obtain ⟨x, rfl⟩ := JsonNumber.exists_of_accepts hfinite (htype .number rfl)
      exact .number x ((bounded_iff rfl rfl x.number?_toJson).1 (hbounds (Or.inl rfl)))
    | integer minimum maximum =>
      have haccepts := htype .integer rfl
      cases value with
      | int n =>
        exact .integer ((bounded_iff rfl rfl (JsonNumber.integer n).number?_toJson).1 (hbounds (Or.inr rfl)))
      | null | bool b | float x | str text | arr items | obj fields => cases haccepts
    | boolean =>
      have haccepts := htype .boolean rfl
      cases value with
      | bool b => exact .boolean b
      | null | int n | float x | str text | arr items | obj fields => cases haccepts
    | array itemSchema maxItems =>
      have haccepts := htype .array rfl
      cases value with
      | arr items =>
        refine .array (hmax items rfl rfl) ?_
        rintro s rfl item hitem
        exact ihItems items rfl rfl s.toSchema rfl item hitem s rfl (hfinite.mem hitem)
      | null | bool b | int n | float x | str text | obj fields => cases haccepts
    | object properties required additionalProperties =>
      have haccepts := htype .object rfl
      cases value with
      | obj fields =>
        refine .object ?_ ?_ ?_
        · intro key hkey
          exact getKey_isSome_iff.1 (hrequired fields rfl rfl key hkey)
        · intro key value hmem s hs
          have hsub : getKey (toProperties properties) key = some s.toSchema := by
            rw [getKey_toProperties, hs, Option.map_some]
          exact ihKnown fields rfl rfl key value hmem s.toSchema hsub s rfl (hfinite.mem hmem)
        · intro key value hmem hnone
          refine hother fields rfl rfl key value hmem ?_
          change getKey (toProperties properties) key = none
          rw [getKey_toProperties, hnone, Option.map_none]
      | null | bool b | int n | float x | str text | arr items => cases haccepts

end Subset

/-- On values with finite numbers the checker accepts exactly what a schema of the subset means. -/
theorem checkSchema_subset_iff (s : Subset) {value : Json (PyFloat ℝ)} (hfinite : value.FiniteNumbers) :
    s.toSchema.checkSchema value = .ok none ↔ s.Accepts value := by
  unfold Schema.checkSchema
  rw [Schema.check_eq_none_iff]
  constructor
  · intro h
    exact Subset.accepts_of_conforms h s rfl hfinite
  · exact Subset.Accepts.conforms

/-- At most two numbers, none of them negative, under a key that is required. -/
def samplePoints : Subset :=
  .object [("points", .array (some (.number (some (.integer 0)) none)) (some 2))] ["points"] false

theorem checkSchema_subset_points :
    samplePoints.toSchema.checkSchema (.obj [("points", .arr [.float (.fin (1 / 2)), .int 3])]) = .ok none ∧
      samplePoints.toSchema.checkSchema (.obj [("points", .arr [.float (.fin (1 / 2)), .bool true])]) ≠ .ok none := by
  have hhalf : (PyFloat.fin (1 / 2 : ℝ)).IsFinite := ⟨_, rfl⟩
  have hfinite : ∀ item : Json (PyFloat ℝ), item.FiniteNumbers →
      Json.FiniteNumbers (.obj [("points", .arr [.float (.fin (1 / 2)), item])]) := fun _ hitem =>
    ⟨⟨hhalf, hitem, trivial⟩, trivial⟩
  constructor
  · refine (checkSchema_subset_iff samplePoints (hfinite (.int 3) trivial)).2 (.object ?_ ?_ ?_)
    · intro key hkey
      obtain rfl := List.mem_singleton.1 hkey
      exact ⟨_, List.mem_singleton_self _⟩
    · intro key value hmem s hs
      obtain ⟨rfl, rfl⟩ := Prod.mk.inj (List.mem_singleton.1 hmem)
      obtain rfl := Option.some.inj hs
      refine .array (by rintro m ⟨⟩; exact le_rfl) ?_
      rintro s ⟨⟩ item hitem
      have bounded : ∀ x : JsonNumber, 0 ≤ x.value → Subset.Between (some (.integer 0)) none x.value := by
        intro x hx
        refine ⟨?_, by rintro m ⟨⟩⟩
        rintro m ⟨⟩
        simpa [JsonNumber.value] using hx
      rcases List.mem_cons.1 hitem with rfl | hitem
      · exact .number (.decimal (1 / 2)) (bounded _ (by norm_num [JsonNumber.value]))
      · obtain rfl := List.mem_singleton.1 hitem
        exact .number (.integer 3) (bounded _ (by norm_num [JsonNumber.value]))
    · intro key value hmem hnone
      obtain ⟨rfl, rfl⟩ := Prod.mk.inj (List.mem_singleton.1 hmem)
      cases hnone
  · -- a boolean is no number
    intro h
    cases (checkSchema_subset_iff samplePoints (hfinite (.bool true) trivial)).1 h with
    | object _ hknown _ =>
      cases hknown "points" _ (List.mem_singleton_self _) _ rfl with
      | array _ hitems =>
        have hnumber := hitems _ rfl (.bool true) (by simp)
        generalize hvalue : (Json.bool true : Json (PyFloat ℝ)) = value at hnumber
        cases hnumber with
        | number x => cases x <;> cases hvalue

/-- The schemas of the tools are in the subset. -/
theorem toolDefinitions_subset {d : ToolDefinition (PyFloat ℝ)} (h : d ∈ toolDefinitions) :
    ∃ s : Subset, d.spec.inputSchema = s.toSchema := by
  have hclosed : ∀ (properties : List (String × Subset)) (required : List String),
      closedObject (Subset.toProperties properties) required = (Subset.object properties required false).toSchema :=
    fun _ _ => rfl
  simp only [toolDefinitions, List.mem_cons, List.not_mem_nil, or_false] at h
  rcases h with rfl | rfl | rfl | rfl | rfl | rfl | rfl | rfl
  · exact ⟨_, hclosed [] []⟩
  · exact ⟨_, hclosed [("frame", .string none)] []⟩
  · exact ⟨_, hclosed [("direction", .string (some directionNames)), ("distance_m", .number (some (.integer 0)) none),
      ("angle_deg", .number (some (.integer 0)) (some (.integer 360))),
      ("timeout_s", .number (some (.decimal ((0.1 : ℚ) : ℝ))) none)] ["direction"]⟩
  · exact ⟨_, hclosed [] []⟩
  · exact ⟨_, hclosed [("x", .number none none), ("y", .number none none), ("yaw", .number none none),
      ("frame", .string none)] ["x", "y"]⟩
  · exact ⟨_, hclosed [("include_raw_ranges", .boolean)] []⟩
  · exact ⟨_, hclosed [("max_width_px", .integer none (some (.integer 1280)))] []⟩
  · exact ⟨_, hclosed [("labels", .array (some (.string none)) none)] []⟩

end RosMcp
