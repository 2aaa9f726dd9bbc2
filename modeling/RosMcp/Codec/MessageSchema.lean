import RosMcp.Codec.TypeGrammar
import RosMcp.Lib.Dict
import RosMcp.Validation.SchemaCheck

/-!
# Message schemas (`codec/message_codec.py`)

`schemaFor` builds the JSON schema of a message type from what rosidl reports of its fields, and keeps it in a cache.
Type strings are lists of characters, and `get_message(type_name).get_fields_and_field_types()` is the parameter
`getMessage`: the fields in the order of the dict, with distinct names.

A family of definitions gives every message type its fields in the grammar of `FieldType`.  `MirrorsMessage` says that
a schema describes a definition: an array schema for the array and sequence forms, with their bound and the schema of
what they repeat, a nested object for a message type, and `string` for the string types.  The codec gives such a schema
to a family without cycles unless one of its fields repeats bounded strings, is of a primitive type that the table does
not list, or has a bound that `int` refuses to read.
-/

namespace RosMcp

variable {N : Type}

/-! ### The source -/

/-- `_PRIMITIVE_JSON_TYPES` -/
def primitiveJsonTypes : List (String × String) :=
  [("boolean", "boolean"), ("bool", "boolean"), ("byte", "integer"), ("char", "integer"), ("float", "number"),
    ("float32", "number"), ("float64", "number"), ("double", "number"), ("int8", "integer"), ("uint8", "integer"),
    ("int16", "integer"), ("uint16", "integer"), ("int32", "integer"), ("uint32", "integer"), ("int64", "integer"),
    ("uint64", "integer"), ("string", "string"), ("wstring", "string")]

/-- `_is_message_type` -/
def isMessageType (fieldType : List Char) : Bool := fieldType.contains '/'

/-- `_to_message_type_name` -/
def toMessageTypeName (fieldType : List Char) : List Char :=
  if '/' ∈ fieldType ∧ ¬ "/msg/".toList <:+: fieldType then
    fieldType.takeWhile (· != '/') ++ "/msg/".toList ++ (fieldType.dropWhile (· != '/')).tail
  else fieldType

/-- `int(digits)`, for decimal digits -/
def parseInt (digits : List Char) : Except PyException ℕ :=
  if digits.length ≤ intMaxStrDigits then .ok (Nat.ofDigitChars 10 digits 0)
  else .error ⟨.valueError, "Exceeds the limit (4300 digits) for integer string conversion: value has " ++
    s!"{digits.length} digits; use sys.set_int_max_str_digits() to increase the limit"⟩

/-- `_scalar_or_message_schema`, where `nested` is `_build_schema` one level below. -/
def scalarOrMessageSchema (nested : List Char → Except PyException (Json N)) (baseType : List Char) :
    Except PyException (Json N) :=
  if isMessageType baseType then
    if baseType = "octet".toList ∨ baseType = "uint8[]".toList then
      .ok (.obj [("type", .str "string"), ("format", .str "binary")])
    else nested (toMessageTypeName baseType)
  else .ok (.obj [("type", .str ((getKey primitiveJsonTypes (String.ofList baseType)).getD "string"))])

/-- `_schema_for_field_type` -/
def schemaForFieldType (nested : List Char → Except PyException (Json N)) (fieldType : List Char) :
    Except PyException (Json N) :=
  match recognize fieldType with
  | some groups => do
    let itemSchema ← scalarOrMessageSchema nested groups.base
    -- a group that matched nothing is empty or `None`, and both are falsy
    match groups.bound.getD [] with
    | [] => pure (.obj [("type", .str "array"), ("items", itemSchema)])
    | bound => do
      let maxItems ← parseInt bound
      pure (.obj [("type", .str "array"), ("items", itemSchema), ("maxItems", .int maxItems)])
  | none => scalarOrMessageSchema nested fieldType

/-- The depth beyond which nested definitions are not described. -/
def maxDepth : ℕ := 16

section Codec

variable (getMessage : List Char → Except PyException (List (String × List Char)))

/-- `_build_schema`; `levels` counts the depths from this one to the cap, so it is 0 when `depth > 16`. -/
def buildSchema : ℕ → List Char → Except PyException (Json N)
  | 0, _ => .ok (.obj [("type", .str "object"), ("note", .str "max recursion depth reached")])
  | levels + 1, typeName => do
    let fields ← getMessage typeName
    let properties ← fields.mapM fun field => do
      let schema ← schemaForFieldType (buildSchema levels) field.2
      pure (field.1, schema)
    pure (.obj [("type", .str "object"), ("typeName", .str (String.ofList typeName)), ("properties", .obj properties)])

/-- `self._schema_cache` -/
abbrev SchemaCache (N : Type) := Dict (List Char) (Json N)

/-- `schema_for` -/
def schemaFor (cache : SchemaCache N) (typeName : List Char) : Except PyException (Json N) × SchemaCache N :=
  match cache.lookup typeName with
  | some cached => (.ok cached, cache)
  | none =>
    match buildSchema getMessage (maxDepth + 1) typeName with
    | .ok schema => (.ok schema, cache.insert typeName schema)
    | .error e => (.error e, cache)

end Codec

/-! ### What a schema should say -/

/-- The message types with their definitions: the fields in order, each with its type. -/
abbrev Family := TypeName → Option (List (String × FieldType))

/-- `pkg/msg/Type` -/
def TypeName.interface (name : TypeName) : List Char := name.pkg.chars ++ "/msg/".toList ++ name.cls.chars

/-- `schema[key]` -/
def Json.entry (schema : Json N) (key : String) : Option (Json N) :=
  match schema with
  | .obj fields => getKey fields key
  | _ => none

def HasType (type : String) (schema : Json N) : Prop := schema.entry "type" = some (.str type)

/-- A plain or bounded string type. -/
def BaseType.IsString : BaseType → Prop
  | .primitive name => name.chars = "string".toList ∨ name.chars = "wstring".toList
  | .boundedString _ _ => True
  | .message _ => False

/-- What `T` asks of its schema; `Definition` says what a schema has to be for a nested definition. -/
structure MirrorsBase (Definition : TypeName → Json N → Prop) (base : BaseType) (schema : Json N) : Prop where
  not_array : ¬ HasType "array" schema
  object_iff : HasType "object" schema ↔ ∃ name, base = .message name
  nested : ∀ name, base = .message name → Definition name schema
  string_iff : HasType "string" schema ↔ base.IsString

/-- What a field type asks of its schema; `Given` is the relation between a type `T` and the schema of a plain field. -/
structure MirrorsField (Given : BaseType → Json N → Prop) (Definition : TypeName → Json N → Prop) (t : FieldType)
    (schema : Json N) : Prop where
  array_iff : HasType "array" schema ↔ t.IsArray
  maxItems : schema.entry "maxItems" = t.bound.map fun n => .int n
  plain : ¬ t.IsArray → MirrorsBase Definition t.base schema
  items : t.IsArray → ∃ items, schema.entry "items" = some items ∧ Given t.base items ∧
    MirrorsBase Definition t.base items

/-- What a definition asks of its schema, where `Field` is what a field type asks. -/
structure MirrorsDefinition (Field : FieldType → Json N → Prop) (typeName : List Char)
    (fields : List (String × FieldType)) (schema : Json N) : Prop where
  object : HasType "object" schema
  typeName : schema.entry "typeName" = some (.str (String.ofList typeName))
  properties : ∃ properties, schema.entry "properties" = some (.obj properties) ∧
    List.Forall₂ (fun field property => property.1 = field.1 ∧ Field field.2 property.2) fields properties

section Family

variable (family : Family)

/-- The definition of `name` has a field with elements of the type `target`. -/
def Refers (name target : TypeName) : Prop :=
  ∃ fields, family name = some fields ∧ ∃ field ∈ fields, field.2.base = .message target

/-- `name` and the definitions nested in it are all defined, and every chain of them is at most `levels` long. -/
def Spans : ℕ → TypeName → Prop
  | 0, _ => False
  | levels + 1, name => (family name).isSome ∧ ∀ target, Refers family name target → Spans levels target

variable (getMessage : List Char → Except PyException (List (String × List Char)))

/-- rosidl reports the definitions of the family. -/
def Reports : Prop :=
  ∀ name fields, family name = some fields →
    getMessage name.interface = .ok (fields.map fun field => (field.1, field.2.text))

/-- `schema` is what a plain field of the type `base` gets, with `levels` levels below its definition. -/
def PlainSchema (levels : ℕ) (base : BaseType) (schema : Json N) : Prop :=
  schemaForFieldType (buildSchema getMessage levels) (FieldType.plain base).text = .ok schema

/-- The schema describes the definition of `name`, down to `levels` levels of nesting. -/
def MirrorsMessage : ℕ → TypeName → Json N → Prop
  | 0, _, _ => False
  | levels + 1, name, schema => ∃ fields, family name = some fields ∧
    MirrorsDefinition (MirrorsField (PlainSchema getMessage levels) (MirrorsMessage levels)) name.interface fields
      schema

end Family

/-- The codec reads the field type: it repeats no bounded string, the table lists its primitive name, and `int` reads
its bound. -/
structure FieldType.Readable (t : FieldType) : Prop where
  names : t.IsArray → ¬ t.base.IsBounded
  listed : ∀ name, t.base = .primitive name → (getKey primitiveJsonTypes (String.ofList name.chars)).isSome
  bound : ∀ n, t.bound = some n → n < 10 ^ intMaxStrDigits

/-! ### Types that are not repeated -/

/-- The properties of a schema that was just built. -/
@[simp] theorem entry_cons (key key' : String) (value : Json N) (fields : List (String × Json N)) :
    (Json.obj ((key, value) :: fields)).entry key' =
      if key = key' then some value else (Json.obj fields).entry key' := by
  by_cases h : key = key' <;> simp [Json.entry, getKey, h]

@[simp] theorem entry_nil (key : String) : (Json.obj ([] : List (String × Json N))).entry key = none := rfl

private theorem hasType_cons {type type' : String} {fields : List (String × Json N)} :
    HasType type' (.obj (("type", .str type) :: fields)) ↔ type = type' := by
  simp [HasType]

private theorem HasType.unique {type type' : String} {schema : Json N} (h : HasType type schema)
    (h' : HasType type' schema) :
    type = type' := by
  unfold HasType at h h'
  rw [h] at h'
  simpa using h'

private theorem Ident.slash_not_mem (name : Ident) : '/' ∉ name.chars :=
  fun h => absurd (List.all_eq_true.mp name.isName _ h) (by decide)

/-- `pkg/Type` becomes `pkg/msg/Type`. -/
private theorem toMessageTypeName_text (name : TypeName) : toMessageTypeName name.text = name.interface := by
  have hslash : '/' ∈ name.text := List.mem_append_right _ List.mem_cons_self
  have hmsg : ¬ "/msg/".toList <:+: name.text := by
    intro h
    have hcount := h.sublist.count_le '/'
    have hone : name.text.count '/' = 1 := by
      simp [TypeName.text, List.count_eq_zero.mpr name.pkg.slash_not_mem, List.count_eq_zero.mpr name.cls.slash_not_mem]
    have htwo : "/msg/".toList.count '/' = 2 := by decide
    omega
  have hpkg : ∀ c ∈ name.pkg.chars, (c != '/') = true := by
    intro c hc
    have hne : c ≠ '/' := fun heq => name.pkg.slash_not_mem (heq ▸ hc)
    simpa using hne
  have htake : name.text.takeWhile (· != '/') = name.pkg.chars := by
    rw [TypeName.text, List.takeWhile_append_of_pos hpkg]
    simp
  have hdrop : name.text.dropWhile (· != '/') = '/' :: name.cls.chars := by
    rw [TypeName.text, List.dropWhile_append_of_pos hpkg]
    simp
  rw [toMessageTypeName, if_pos ⟨hslash, hmsg⟩, htake, hdrop]
  rfl

/-- The schema types of the table: none of them is structured, and the string names are the two of them. -/
theorem primitiveJsonTypes_spec {name type : String} (h : getKey primitiveJsonTypes name = some type) :
    type ≠ "array" ∧ type ≠ "object" ∧ (type = "string" ↔ name = "string" ∨ name = "wstring") := by
  have hall : ∀ entry ∈ primitiveJsonTypes, entry.2 ≠ "array" ∧ entry.2 ≠ "object" ∧
      (entry.2 = "string" ↔ entry.1 = "string" ∨ entry.1 = "wstring") := by decide
  exact hall _ (getKey_mem h)

private theorem angle_mem_bounded {t : FieldType} (hbase : t.base.IsBounded) : '<' ∈ t.text := by
  obtain ⟨word, rest, -, -, htext⟩ := BaseType.text_of_isBounded hbase
  have hangle : '<' ∈ t.base.text := by simp [htext]
  cases t with
  | plain base => exact hangle
  | array base size => exact List.mem_append_left _ hangle
  | sequence base bound =>
    rw [FieldType.text_sequence]
    exact List.mem_append_left _ (by decide)

private theorem slash_not_mem_bounded {t : FieldType} (hbase : t.base.IsBounded) : '/' ∉ t.text := by
  have hdigits : ∀ n, '/' ∉ Nat.toDigits 10 n := fun n h => absurd (isDigit_toDigits _ h) (by decide)
  have hslash : '/' ∉ t.base.text := by
    generalize t.base = base at hbase
    cases base with
    | primitive name => exact absurd hbase not_false
    | boundedString wide bound => cases wide <;> simp [BaseType.text, hdigits]
    | message name => exact absurd hbase not_false
  cases t with
  | plain base => exact hslash
  | array base size =>
    have hslash' : '/' ∉ base.text := hslash
    simp [FieldType.text_array, hdigits, hslash']
  | sequence base bound =>
    have hslash' : '/' ∉ base.text := hslash
    cases bound <;> simp [FieldType.text_sequence, hdigits, hslash']

section Base

variable {nested : List Char → Except PyException (Json N)} {Definition : TypeName → Json N → Prop}

/-- A type without a slash is looked up in the table. -/
private theorem scalarOrMessageSchema_of_not_mem {text : List Char} (h : '/' ∉ text) :
    scalarOrMessageSchema nested text =
      .ok (.obj [("type", .str ((getKey primitiveJsonTypes (String.ofList text)).getD "string"))]) := by
  simp [scalarOrMessageSchema, isMessageType, h]

private theorem scalarOrMessageSchema_message (name : TypeName) :
    scalarOrMessageSchema nested name.text = nested name.interface := by
  have hslash : '/' ∈ name.text := List.mem_append_right _ List.mem_cons_self
  have hbinary : ¬ (name.text = "octet".toList ∨ name.text = "uint8[]".toList) := by
    rintro (heq | heq) <;>
      · rw [heq] at hslash
        exact absurd hslash (by decide)
  have hmessage : isMessageType name.text = true := by simpa [isMessageType] using hslash
  rw [scalarOrMessageSchema, if_pos hmessage, if_neg hbinary, toMessageTypeName_text]

private theorem isString_primitive_iff {name : Ident} :
    (BaseType.primitive name).IsString ↔
      String.ofList name.chars = "string" ∨ String.ofList name.chars = "wstring" := by
  have hiff : ∀ text : String, String.ofList name.chars = text ↔ name.chars = text.toList := by
    intro text
    rw [← String.toList_inj, String.toList_ofList]
  rw [hiff, hiff]
  exact Iff.rfl

/-- A primitive name that the table does not list falls to the default, which is the type of the string names. -/
theorem mirrorsBase_primitive_iff {name : Ident} :
    MirrorsBase Definition (.primitive name)
      (.obj [("type", .str ((getKey primitiveJsonTypes (String.ofList name.chars)).getD "string"))]) ↔
    (getKey primitiveJsonTypes (String.ofList name.chars)).isSome := by
  cases hkey : getKey primitiveJsonTypes (String.ofList name.chars) with
  | none =>
    apply iff_of_false _ (by simp)
    intro h
    rcases isString_primitive_iff.mp (h.string_iff.mp (hasType_cons.mpr rfl)) with hname | hname <;>
      · rw [hname] at hkey
        exact absurd hkey (by decide)
  | some type =>
    obtain ⟨harray, hobject, hstring⟩ := primitiveJsonTypes_spec hkey
    apply iff_of_true _ rfl
    constructor
    · rwa [hasType_cons]
    · simpa [hasType_cons] using hobject
    · rintro target ⟨⟩
    · rw [hasType_cons, isString_primitive_iff]
      exact hstring

private theorem mirrorsBase_boundedString (wide : Bool) (bound : ℕ) :
    MirrorsBase Definition (.boundedString wide bound) (.obj [("type", (.str "string" : Json N))]) := by
  constructor
  · simp [hasType_cons]
  · simp [hasType_cons]
  · rintro target ⟨⟩
  · simp [hasType_cons, BaseType.IsString]

/-- A text with an angle bracket is not a name of the table. -/
private theorem getKey_primitiveJsonTypes_of_angle {text : List Char} (h : '<' ∈ text) :
    getKey primitiveJsonTypes (String.ofList text) = none := by
  rw [Option.eq_none_iff_forall_ne_some]
  intro type hkey
  have hall : ∀ entry ∈ primitiveJsonTypes, '<' ∉ entry.1.toList := by decide
  have hname := hall _ (getKey_mem hkey)
  rw [String.toList_ofList] at hname
  exact hname h

private theorem scalarOrMessageSchema_bounded {text : List Char} (hangle : '<' ∈ text) (hslash : '/' ∉ text) :
    scalarOrMessageSchema nested text = .ok (.obj [("type", .str "string")]) := by
  rw [scalarOrMessageSchema_of_not_mem hslash, getKey_primitiveJsonTypes_of_angle hangle]
  rfl

private theorem mirrorsBase_message_iff (hobject : ∀ name schema, Definition name schema → HasType "object" schema)
    {name : TypeName} {schema : Json N} : MirrorsBase Definition (.message name) schema ↔ Definition name schema := by
  constructor
  · intro h
    exact h.nested name rfl
  · intro h
    have htype := hobject name schema h
    constructor
    · intro harray
      exact absurd (htype.unique harray) (by decide)
    · exact iff_of_true htype ⟨name, rfl⟩
    · rintro target ⟨⟩
      exact h
    · apply iff_of_false _ not_false
      intro hstring
      exact absurd (htype.unique hstring) (by decide)

/-- `T` gets a schema that describes it when it is a bounded string, a listed primitive, or a message type whose
definition does. -/
theorem scalar_mirrors_iff (hobject : ∀ name schema, Definition name schema → HasType "object" schema)
    (base : BaseType) :
    (∃ schema, scalarOrMessageSchema nested base.text = .ok schema ∧ MirrorsBase Definition base schema) ↔
      (∀ name, base = .primitive name → (getKey primitiveJsonTypes (String.ofList name.chars)).isSome) ∧
      ∀ name, base = .message name → ∃ schema, nested name.interface = .ok schema ∧ Definition name schema := by
  cases base with
  | primitive name =>
    have htext : scalarOrMessageSchema nested (BaseType.primitive name).text =
        .ok (.obj [("type", .str ((getKey primitiveJsonTypes (String.ofList name.chars)).getD "string"))]) :=
      scalarOrMessageSchema_of_not_mem name.slash_not_mem
    simp [htext, mirrorsBase_primitive_iff]
  | boundedString wide bound =>
    have hslash := slash_not_mem_bounded (t := .plain (.boundedString wide bound)) trivial
    have hangle := angle_mem_bounded (t := .plain (.boundedString wide bound)) trivial
    have htext : scalarOrMessageSchema nested (BaseType.boundedString wide bound).text =
        .ok (.obj [("type", .str "string")]) := scalarOrMessageSchema_bounded hangle hslash
    simp [htext, mirrorsBase_boundedString]
  | message name =>
    have htext : scalarOrMessageSchema nested (BaseType.message name).text = nested name.interface :=
      scalarOrMessageSchema_message name
    simp [htext, mirrorsBase_message_iff hobject]

/-- Nothing but an array schema has a bound. -/
private theorem entry_maxItems_scalar
    (hnested : ∀ typeName schema, nested typeName = .ok schema → schema.entry "maxItems" = none)
    {text : List Char} {schema : Json N} (h : scalarOrMessageSchema nested text = .ok schema) :
    schema.entry "maxItems" = none := by
  unfold scalarOrMessageSchema at h
  split at h
  · split at h
    · cases h
      simp
    · exact hnested _ _ h
  · cases h
    simp

/-! ### Types that are repeated -/

/-- `{"type": "array", "items": items}`, with the bound where there is one. -/
def arraySchema (items : Json N) (bound : Option ℕ) : Json N :=
  .obj (("type", .str "array") :: ("items", items) :: (bound.map fun n => ("maxItems", Json.int n)).toList)

@[simp] theorem hasType_arraySchema (items : Json N) (bound : Option ℕ) (type : String) :
    HasType type (arraySchema items bound) ↔ "array" = type := hasType_cons

@[simp] theorem entry_items_arraySchema (items : Json N) (bound : Option ℕ) :
    (arraySchema items bound).entry "items" = some items := by simp [arraySchema]

@[simp] theorem entry_maxItems_arraySchema (items : Json N) (bound : Option ℕ) :
    (arraySchema items bound).entry "maxItems" = bound.map fun n => .int n := by
  cases bound <;> simp [arraySchema]

private theorem parseInt_toDigits {n m : ℕ} : parseInt
    (Nat.toDigits 10 n) = .ok m ↔ n < 10 ^ intMaxStrDigits ∧ m = n := by
  have hlength : (Nat.toDigits 10 n).length ≤ intMaxStrDigits ↔ n < 10 ^ intMaxStrDigits :=
    Nat.length_toDigits_le_iff (by decide) (by decide)
  unfold parseInt
  rw [← hlength, Nat.ofDigitChars_ten_toDigits]
  split
  · rename_i h
    simp [h, eq_comm]
  · rename_i h
    simp [h]

/-- A recognised form gets an array schema, unless its items raise or `int` refuses its bound. -/
private theorem schemaForFieldType_names {t : FieldType} (ht : t.IsArray) (hbase : ¬ t.base.IsBounded)
    {schema : Json N} :
    schemaForFieldType nested t.text = .ok schema ↔
      (∀ n, t.bound = some n → n < 10 ^ intMaxStrDigits) ∧
      ∃ items, scalarOrMessageSchema nested t.base.text = .ok items ∧ schema = arraySchema items t.bound := by
  rw [schemaForFieldType, recognize_names ht hbase]
  simp only [bind_returns_iff]
  cases t.bound with
  | none => simp [arraySchema, pure, Except.pure, eq_comm]
  | some n =>
    cases hdigits : Nat.toDigits 10 n with
    | nil => exact absurd hdigits Nat.toDigits_ne_nil
    | cons d ds =>
      have hint : ∀ m, parseInt (d :: ds) = .ok m ↔ n < 10 ^ intMaxStrDigits ∧ m = n := by
        intro m
        rw [← hdigits]
        exact parseInt_toDigits
      simp only [Option.map_some, Option.getD_some, hdigits, bind_returns_iff, hint, Option.some.injEq]
      constructor
      · rintro ⟨items, hitems, m, ⟨hn, rfl⟩, hschema⟩
        refine ⟨?_, items, hitems, ?_⟩
        · rintro _ rfl
          exact hn
        · cases hschema
          rfl
      · rintro ⟨hn, items, hitems, rfl⟩
        exact ⟨items, hitems, n, ⟨hn n rfl, rfl⟩, rfl⟩

private theorem schemaForFieldType_plain (base : BaseType) :
    schemaForFieldType nested (FieldType.plain base).text = scalarOrMessageSchema nested base.text := by
  rw [schemaForFieldType, recognize_plain]
  rfl

/-- An array or sequence form over a bounded string falls to the default. -/
private theorem schemaForFieldType_bounded {t : FieldType} (hbase : t.base.IsBounded) :
    schemaForFieldType nested t.text = .ok (.obj [("type", .str "string")]) := by
  rw [schemaForFieldType, recognize_bounded hbase]
  exact scalarOrMessageSchema_bounded (angle_mem_bounded hbase) (slash_not_mem_bounded hbase)

/-- The items of an array schema are all that is left to describe. -/
theorem mirrorsField_arraySchema_iff {Given : BaseType → Json N → Prop} {t : FieldType} (ht : t.IsArray)
    {items : Json N} :
    MirrorsField Given Definition t (arraySchema items t.bound) ↔
      Given t.base items ∧ MirrorsBase Definition t.base items := by
  constructor
  · intro h
    obtain ⟨items', hitems', hgiven, hmirrors⟩ := h.items ht
    rw [entry_items_arraySchema, Option.some.injEq] at hitems'
    rw [hitems']
    exact ⟨hgiven, hmirrors⟩
  · rintro ⟨hgiven, hmirrors⟩
    constructor
    · simp [ht]
    · simp
    · exact fun hplain => absurd ht hplain
    · exact fun _ => ⟨items, by simp, hgiven, hmirrors⟩

/-- A form over a bounded string falls to the default, which is no array schema. -/
private theorem not_mirrorsField_bounded {Given : BaseType → Json N → Prop} {t : FieldType} (ht : t.IsArray)
    (hbase : t.base.IsBounded) {schema : Json N} (hschema : schemaForFieldType nested t.text = .ok schema) :
    ¬ MirrorsField Given Definition t schema := by
  rw [schemaForFieldType_bounded hbase] at hschema
  cases hschema
  intro h
  exact absurd (hasType_cons.mp (h.array_iff.mpr ht)) (by decide)

private theorem mirrorsField_plain_iff {Given : BaseType → Json N → Prop} {base : BaseType} {schema : Json N}
    (hmaxItems : schema.entry "maxItems" = none) :
    MirrorsField Given Definition (.plain base) schema ↔ MirrorsBase Definition base schema := by
  constructor
  · intro h
    exact h.plain not_false
  · intro h
    constructor
    · exact iff_of_false h.not_array not_false
    · exact hmaxItems
    · exact fun _ => h
    · exact fun harray => absurd harray not_false

/-- A field gets a schema that describes its type when the codec reads the type and describes the definition that it
refers to, if it does. -/
theorem field_mirrors_iff (hobject : ∀ name schema, Definition name schema → HasType "object" schema)
    (hnested : ∀ typeName schema, nested typeName = .ok schema → schema.entry "maxItems" = none) (t : FieldType) :
    (∃ schema, schemaForFieldType nested t.text = .ok schema ∧
      MirrorsField (fun base items => schemaForFieldType nested (FieldType.plain base).text = .ok items) Definition t
        schema) ↔
    t.Readable ∧ ∀ name, t.base = .message name →
      ∃ schema, nested name.interface = .ok schema ∧ Definition name schema := by
  have hbase := @scalar_mirrors_iff N nested Definition hobject t.base
  by_cases ht : t.IsArray
  · by_cases hbounded : t.base.IsBounded
    · apply iff_of_false
      · rintro ⟨schema, hschema, hmirrors⟩
        exact not_mirrorsField_bounded ht hbounded hschema hmirrors
      · rintro ⟨hreadable, -⟩
        exact hreadable.names ht hbounded
    · constructor
      · rintro ⟨schema, hschema, hmirrors⟩
        obtain ⟨hbound, items, hitems, rfl⟩ := (schemaForFieldType_names ht hbounded).mp hschema
        obtain ⟨-, hmirrors⟩ := (mirrorsField_arraySchema_iff ht).mp hmirrors
        obtain ⟨hlisted, hmessage⟩ := hbase.mp ⟨items, hitems, hmirrors⟩
        exact ⟨⟨fun _ => hbounded, hlisted, hbound⟩, hmessage⟩
      · rintro ⟨hreadable, hmessage⟩
        obtain ⟨items, hitems, hmirrors⟩ := hbase.mpr ⟨hreadable.listed, hmessage⟩
        refine ⟨_, (schemaForFieldType_names ht hbounded).mpr ⟨hreadable.bound, items, hitems, rfl⟩, ?_⟩
        rw [mirrorsField_arraySchema_iff ht, schemaForFieldType_plain]
        exact ⟨hitems, hmirrors⟩
  · cases t with
    | plain base =>
      rw [schemaForFieldType_plain]
      constructor
      · rintro ⟨schema, hschema, hmirrors⟩
        rw [mirrorsField_plain_iff (entry_maxItems_scalar hnested hschema)] at hmirrors
        obtain ⟨hlisted, hmessage⟩ := hbase.mp ⟨schema, hschema, hmirrors⟩
        refine ⟨⟨fun h => absurd h ht, hlisted, ?_⟩, hmessage⟩
        rintro n ⟨⟩
      · rintro ⟨hreadable, hmessage⟩
        obtain ⟨schema, hschema, hmirrors⟩ := hbase.mpr ⟨hreadable.listed, hmessage⟩
        refine ⟨schema, hschema, ?_⟩
        rw [mirrorsField_plain_iff (entry_maxItems_scalar hnested hschema)]
        exact hmirrors
    | array base size => exact absurd trivial ht
    | sequence base bound => exact absurd trivial ht

end Base

/-! ### Definitions -/

/-- Computing a list, with a relation on every entry. -/
theorem exists_mapM_forall₂_iff {α β ε : Type} {f : α → Except ε β} {R : α → β → Prop} {xs : List α} :
    (∃ ys, xs.mapM f = .ok ys ∧ List.Forall₂ R xs ys) ↔ ∀ x ∈ xs, ∃ y, f x = .ok y ∧ R x y := by
  induction xs with
  | nil => simp [pure, Except.pure]
  | cons x xs ih =>
    rw [List.forall_mem_cons, ← ih]
    simp only [List.mapM_cons, bind_returns_iff, pure, Except.pure, Except.ok.injEq]
    constructor
    · rintro ⟨_, ⟨y, hy, ys, hys, rfl⟩, hR⟩
      obtain ⟨hRy, hRys⟩ := List.forall₂_cons.mp hR
      exact ⟨⟨y, hy, hRy⟩, ys, hys, hRys⟩
    · rintro ⟨⟨y, hy, hRy⟩, ys, hys, hRys⟩
      exact ⟨y :: ys, ⟨y, hy, ys, hys, rfl⟩, .cons hRy hRys⟩

section Definitions

variable {getMessage : List Char → Except PyException (List (String × List Char))} {family : Family}

private theorem entry_maxItems_buildSchema {levels : ℕ} {typeName : List Char} {schema : Json N}
    (h : buildSchema getMessage levels typeName = .ok schema) : schema.entry "maxItems" = none := by
  cases levels with
  | zero =>
    cases h
    simp
  | succ levels =>
    obtain ⟨fields, -, h⟩ := bind_returns_iff.mp h
    obtain ⟨properties, -, h⟩ := bind_returns_iff.mp h
    cases h
    simp

private theorem MirrorsMessage.hasType {levels : ℕ} {name : TypeName} {schema : Json N}
    (h : MirrorsMessage family getMessage levels name schema) : HasType "object" schema := by
  cases levels with
  | zero => exact absurd h not_false
  | succ levels =>
    obtain ⟨fields, -, hdefinition⟩ := h
    exact hdefinition.object

/-- The properties of a definition that rosidl reports. -/
private theorem buildSchema_succ (hreports : Reports family getMessage) {levels : ℕ} {name : TypeName}
    {fields : List (String × FieldType)} (hfields : family name = some fields) {schema : Json N} :
    buildSchema getMessage (levels + 1) name.interface = .ok schema ↔
      ∃ properties, (fields.mapM fun field => do
          let schema ← schemaForFieldType (buildSchema getMessage levels) field.2.text
          pure (field.1, schema)) = .ok properties ∧
        .obj [("type", .str "object"), ("typeName", .str (String.ofList name.interface)),
          ("properties", .obj properties)] = schema := by
  rw [buildSchema, hreports name fields hfields]
  simp only [bind_returns_iff, Except.ok.injEq, exists_eq_left', List.mapM_map, Function.comp_def, pure, Except.pure]

private theorem exists_properties_iff {Field : FieldType → Json N → Prop}
    {build : List Char → Except PyException (Json N)}
    {fields : List (String × FieldType)} :
    (∃ properties, (fields.mapM fun field => do
        let schema ← build field.2.text
        pure (field.1, schema)) = .ok properties ∧
      List.Forall₂ (fun field property => property.1 = field.1 ∧ Field field.2 property.2) fields properties) ↔
    ∀ field ∈ fields, ∃ schema, build field.2.text = .ok schema ∧ Field field.2 schema := by
  rw [exists_mapM_forall₂_iff]
  apply forall₂_congr
  intro field _
  simp only [bind_returns_iff, pure, Except.pure, Except.ok.injEq]
  constructor
  · rintro ⟨_, ⟨schema, hschema, rfl⟩, -, hfield⟩
    exact ⟨schema, hschema, hfield⟩
  · rintro ⟨schema, hschema, hfield⟩
    exact ⟨_, ⟨schema, hschema, rfl⟩, rfl, hfield⟩

/-- A definition gets a schema that describes it when each of its fields does. -/
theorem definition_mirrors_iff (hreports : Reports family getMessage) {levels : ℕ} {name : TypeName}
    {fields : List (String × FieldType)} (hfields : family name = some fields) :
    (∃ schema : Json N, buildSchema getMessage (levels + 1) name.interface = .ok schema ∧
      MirrorsMessage family getMessage (levels + 1) name schema) ↔
    ∀ field ∈ fields, ∃ schema : Json N,
      schemaForFieldType (buildSchema getMessage levels) field.2.text = .ok schema ∧
      MirrorsField (PlainSchema getMessage levels) (MirrorsMessage family getMessage levels) field.2 schema := by
  rw [← exists_properties_iff]
  constructor
  · rintro ⟨schema, hschema, fields', hfields', hdefinition⟩
    obtain rfl : fields = fields' := by simpa [hfields] using hfields'
    obtain ⟨properties, hproperties, rfl⟩ := (buildSchema_succ hreports hfields).mp hschema
    obtain ⟨properties', hentry, hall⟩ := hdefinition.properties
    obtain rfl : properties = properties' := by simpa using hentry
    exact ⟨properties, hproperties, hall⟩
  · rintro ⟨properties, hproperties, hall⟩
    refine ⟨_, (buildSchema_succ hreports hfields).mpr ⟨properties, hproperties, rfl⟩, fields, hfields, ?_⟩
    constructor
    · exact hasType_cons.mpr rfl
    · simp
    · exact ⟨properties, by simp, hall⟩

/-- The fields of the definition of `name` are all read. -/
def ReadableDefinition (family : Family) (name : TypeName) : Prop :=
  ∀ fields, family name = some fields → ∀ field ∈ fields, field.2.Readable

/-- A field of a definition, with `levels` levels below it. -/
theorem level_mirrors_iff (levels : ℕ) (t : FieldType) :
    (∃ schema : Json N, schemaForFieldType (buildSchema getMessage levels) t.text = .ok schema ∧
      MirrorsField (PlainSchema getMessage levels) (MirrorsMessage family getMessage levels) t schema) ↔
    t.Readable ∧ ∀ target, t.base = .message target →
      ∃ schema : Json N, buildSchema getMessage levels target.interface = .ok schema ∧
        MirrorsMessage family getMessage levels target schema :=
  field_mirrors_iff (fun _ _ => MirrorsMessage.hasType) (fun _ _ => entry_maxItems_buildSchema) t

/-- The schema of a definition describes it when the codec reads every field of the definition and of those nested in
it.  The induction is on the levels that are left. -/
theorem build_mirrors_iff (hreports : Reports family getMessage) {levels : ℕ} {name : TypeName}
    (hspans : Spans family levels name) :
    (∃ schema : Json N, buildSchema getMessage levels name.interface = .ok schema ∧
      MirrorsMessage family getMessage levels name schema) ↔
    ∀ target, Relation.ReflTransGen (Refers family) name target → ReadableDefinition family target := by
  induction levels generalizing name with
  | zero => exact absurd hspans not_false
  | succ levels ih =>
    obtain ⟨hdefined, htargets⟩ := hspans
    obtain ⟨fields, hfields⟩ := Option.isSome_iff_exists.mp hdefined
    rw [definition_mirrors_iff hreports hfields]
    simp only [level_mirrors_iff]
    constructor
    · intro h target hreach
      rcases Relation.ReflTransGen.cases_head hreach with rfl | ⟨next, hrefers, hreach'⟩
      · intro fields' hfields' field hfield
        obtain rfl : fields = fields' := by simpa [hfields] using hfields'
        exact (h field hfield).1
      · obtain ⟨fields', hfields', field, hfield, hbase⟩ := id hrefers
        obtain rfl : fields = fields' := by simpa [hfields] using hfields'
        have hnext := (h field hfield).2 next hbase
        exact (ih (htargets next hrefers)).mp hnext target hreach'
    · intro h field hfield
      refine ⟨h name .refl fields hfields field hfield, ?_⟩
      intro target hbase
      have hrefers : Refers family name target := ⟨fields, hfields, field, hfield, hbase⟩
      apply (ih (htargets target hrefers)).mpr
      intro target' hreach
      exact h target' (.head hrefers hreach)

/-! ### The cache -/

/-- The caches that concurrent calls leave: each store puts a schema that was just built under its name. -/
inductive Filled (getMessage : List Char → Except PyException (List (String × List Char))) : SchemaCache N → Prop
  | empty : Filled getMessage ∅
  | store {cache : SchemaCache N} {typeName : List Char} {schema : Json N} (hcache : Filled getMessage cache)
      (hschema : buildSchema getMessage (maxDepth + 1) typeName = .ok schema) :
      Filled getMessage (cache.insert typeName schema)

/-- A cached schema is the one that would be built. -/
private theorem Filled.lookup {cache : SchemaCache N} (h : Filled getMessage cache) {typeName : List Char}
    {schema : Json N}
    (hlookup : cache.lookup typeName = some schema) : buildSchema getMessage (maxDepth + 1) typeName = .ok schema := by
  induction h with
  | empty => simp at hlookup
  | @store cache typeName' schema' hcache hschema ih =>
    by_cases heq : typeName = typeName'
    · subst heq
      rw [AList.lookup_insert, Option.some.injEq] at hlookup
      rw [← hlookup]
      exact hschema
    · rw [AList.lookup_insert_ne heq] at hlookup
      exact ih hlookup

/-- A call keeps the cache sound. -/
theorem Filled.schemaFor {cache : SchemaCache N} (h : Filled getMessage cache) (typeName : List Char) :
    Filled getMessage (schemaFor getMessage cache typeName).2 := by
  unfold RosMcp.schemaFor
  split
  · exact h
  · split
    · rename_i hschema
      exact .store h hschema
    · exact h

/-- What a call returns does not depend on the calls before it. -/
theorem schemaFor_eq {cache : SchemaCache N} (h : Filled getMessage cache) (typeName : List Char) :
    (schemaFor getMessage cache typeName).1 = buildSchema getMessage (maxDepth + 1) typeName := by
  unfold schemaFor
  split
  · rename_i cached hcached
    exact (h.lookup hcached).symm
  · split
    · rename_i hschema
      exact hschema.symm
    · rename_i herror
      exact herror.symm

/-- The schema of a message type describes its definition and those nested in it, at most 16 deep, exactly when none of
their fields repeats bounded strings, has a primitive type that the table does not list, or has an unreadable bound. -/
theorem schemaFor_mirrors_iff (hreports : Reports family getMessage) {cache : SchemaCache N}
    (hcache : Filled getMessage cache) {name : TypeName} (hspans : Spans family (maxDepth + 1) name) :
    (∃ schema, (schemaFor getMessage cache name.interface).1 = .ok schema ∧
      MirrorsMessage family getMessage (maxDepth + 1) name schema) ↔
    ∀ target, Relation.ReflTransGen (Refers family) name target → ReadableDefinition family target := by
  rw [schemaFor_eq hcache]
  exact build_mirrors_iff hreports hspans

end Definitions

/-! ### Finite families -/

def familyOf (definitions : List (TypeName × List (String × FieldType))) : Family :=
  fun name => (definitions.find? fun d => d.1 = name).map Prod.snd

/-- What rosidl reports on the definitions of a finite family. -/
def reportOf (definitions : List (TypeName × List (String × FieldType))) (typeName : List Char) :
    Except PyException (List (String × List Char)) :=
  match definitions.find? fun d => d.1.interface = typeName with
  | some d => .ok (d.2.map fun field => (field.1, field.2.text))
  | none => .error ⟨.attributeError, "module has no attribute"⟩

section Finite

variable {definitions : List (TypeName × List (String × FieldType))}

private theorem familyOf_mem {name : TypeName} {fields : List (String × FieldType)}
    (h : familyOf definitions name = some fields) : (name, fields) ∈ definitions := by
  obtain ⟨⟨name', fields'⟩, hfind, rfl⟩ := Option.map_eq_some_iff.mp h
  have hname : name' = name := by simpa using List.find?_some hfind
  rw [← hname]
  exact List.mem_of_find?_eq_some hfind

private theorem reports_of_mem
    (h : ∀ d ∈ definitions, reportOf definitions d.1.interface = .ok (d.2.map fun field => (field.1, field.2.text))) :
    Reports (familyOf definitions) (reportOf definitions) :=
  fun name fields hfields => h (name, fields) (familyOf_mem hfields)

end Finite

def point32 : TypeName := ⟨⟨"geometry_msgs".toList, by decide, by decide⟩, ⟨"Point32".toList, by decide, by decide⟩⟩

def polygon : TypeName := ⟨⟨"geometry_msgs".toList, by decide, by decide⟩, ⟨"Polygon".toList, by decide, by decide⟩⟩

def floatField : FieldType := .plain (.primitive ⟨"float".toList, by decide, by decide⟩)

/-- `geometry_msgs/Polygon`, a sequence of points -/
def polygonMessages : List (TypeName × List (String × FieldType)) :=
  [(polygon, [("points", .sequence (.message point32) none)]),
    (point32, [("x", floatField), ("y", floatField), ("z", floatField)])]

def labels : TypeName := ⟨⟨"demo_msgs".toList, by decide, by decide⟩, ⟨"Labels".toList, by decide, by decide⟩⟩

/-- A message with an array of bounded strings. -/
def labelMessages : List (TypeName × List (String × FieldType)) :=
  [(labels, [("names", .array (.boundedString false 10) 5)])]

private theorem floatField_readable : floatField.Readable := by
  constructor
  · exact fun h => absurd h not_false
  · rintro _ ⟨⟩
    decide
  · rintro _ ⟨⟩

private theorem polygonMessages_readable {name : TypeName} : ReadableDefinition (familyOf polygonMessages) name := by
  intro fields hfields field hfield
  have hmem := familyOf_mem hfields
  simp only [polygonMessages, List.mem_cons, List.not_mem_nil, or_false, Prod.mk.injEq] at hmem
  rcases hmem with ⟨-, rfl⟩ | ⟨-, rfl⟩
  · obtain rfl : field = ("points", .sequence (.message point32) none) := by simpa using hfield
    constructor
    · exact fun _ => not_false
    · rintro _ ⟨⟩
    · rintro _ ⟨⟩
  · have hfloat : field.2 = floatField := by
      simp only [List.mem_cons, List.not_mem_nil, or_false] at hfield
      rcases hfield with rfl | rfl | rfl <;> rfl
    rw [hfloat]
    exact floatField_readable

private theorem polygonMessages_span : Spans (familyOf polygonMessages) (maxDepth + 1) polygon := by
  have hpoint : ∀ target, ¬ Refers (familyOf polygonMessages) point32 target := by
    rintro target ⟨fields, hfields, field, hfield, hbase⟩
    have hdef : familyOf polygonMessages point32 =
        some [("x", floatField), ("y", floatField), ("z", floatField)] := by decide
    rw [hdef, Option.some.injEq] at hfields
    subst hfields
    simp only [List.mem_cons, List.not_mem_nil, or_false] at hfield
    rcases hfield with rfl | rfl | rfl <;> cases hbase
  have hpolygon : ∀ target, Refers (familyOf polygonMessages) polygon target → target = point32 := by
    rintro target ⟨fields, hfields, field, hfield, hbase⟩
    have hdef : familyOf polygonMessages polygon = some [("points", .sequence (.message point32) none)] := by decide
    rw [hdef, Option.some.injEq] at hfields
    subst hfields
    obtain rfl : field = ("points", .sequence (.message point32) none) := by simpa using hfield
    cases hbase
    rfl
  refine ⟨by decide, ?_⟩
  intro target htarget
  rw [hpolygon target htarget]
  exact ⟨by decide, fun target h => absurd h (hpoint target)⟩

/-- The schema of `geometry_msgs/msg/Polygon` describes it. -/
theorem schemaFor_mirrors_polygon :
    ∃ schema : Json ℤ, (schemaFor (reportOf polygonMessages) ∅ polygon.interface).1 = .ok schema ∧
      MirrorsMessage (familyOf polygonMessages) (reportOf polygonMessages) (maxDepth + 1) polygon schema :=
  (schemaFor_mirrors_iff (reports_of_mem (by decide)) .empty polygonMessages_span).mpr
    fun _ _ => polygonMessages_readable

/-- The array of bounded strings of `demo_msgs/msg/Labels` gets the schema of a string. -/
theorem schemaFor_misses_labels :
    Reports (familyOf labelMessages) (reportOf labelMessages) ∧
      Spans (familyOf labelMessages) (maxDepth + 1) labels ∧
      ¬ ∃ schema : Json ℤ, (schemaFor (reportOf labelMessages) ∅ labels.interface).1 = .ok schema ∧
        MirrorsMessage (familyOf labelMessages) (reportOf labelMessages) (maxDepth + 1) labels schema := by
  have hreports : Reports (familyOf labelMessages) (reportOf labelMessages) := reports_of_mem (by decide)
  have hdef : familyOf labelMessages labels = some [("names", .array (.boundedString false 10) 5)] := by decide
  have hspans : Spans (familyOf labelMessages) (maxDepth + 1) labels := by
    refine ⟨by decide, ?_⟩
    rintro target ⟨fields, hfields, field, hfield, hbase⟩
    rw [hdef, Option.some.injEq] at hfields
    subst hfields
    obtain rfl : field = ("names", .array (.boundedString false 10) 5) := by simpa using hfield
    cases hbase
  refine ⟨hreports, hspans, ?_⟩
  rw [schemaFor_eq .empty, build_mirrors_iff hreports hspans]
  intro h
  have hreadable := h labels .refl _ hdef _ List.mem_cons_self
  exact hreadable.names trivial trivial

end RosMcp
