import RosMcp.Contracts.Core
import RosMcp.Lib.PyFloat

/-!
# The schema checker (`validation/schema_check.py`)

`check` is the recursive `_check` on the JSON-Schema subset of the tool schemas.  It returns the message of the first
violation in the order of the source, or nothing.  A message that prints an integer of more than 4300 digits is not
returned: `str` raises on such an integer, so `check` raises with it.

`Conforms` is the recursive meaning of a schema, without an order and without messages; `check` returns nothing on
exactly the values that conform (`check_eq_none_iff`).
-/

namespace RosMcp

/-! ### Schemas -/

/-- The keys of `_TYPE_CHECKERS`. -/
inductive SchemaType
  | string | number | integer | boolean | array | object
  deriving DecidableEq, Repr

def SchemaType.value : SchemaType → String
  | .string => "string"
  | .number => "number"
  | .integer => "integer"
  | .boolean => "boolean"
  | .array => "array"
  | .object => "object"

/-- A schema; the defaults are what `_check` takes for a key that is missing. -/
structure Schema (N : Type) where
  type : Option SchemaType := none
  properties : List (String × Schema N) := []
  required : List String := []
  additionalProperties : Bool := true
  items : Option (Schema N) := none
  maxItems : Option Nat := none
  enum : Option (List String) := none
  minimum : Option (Json N) := none
  maximum : Option (Json N) := none

variable {N : Type}

/-- `_TYPE_CHECKERS`: a boolean is neither a number nor an integer. -/
def SchemaType.accepts : SchemaType → Json N → Bool
  | .string, .str _ => true
  | .number, .int _ => true
  | .number, .float _ => true
  | .integer, .int _ => true
  | .boolean, .bool _ => true
  | .array, .arr _ => true
  | .object, .obj _ => true
  | _, _ => false

/-- `type(value).__name__` -/
def Json.typeName : Json N → String
  | .null => "NoneType"
  | .bool _ => "bool"
  | .int _ => "int"
  | .float _ => "float"
  | .str _ => "str"
  | .arr _ => "list"
  | .obj _ => "dict"

/-- `value in allowed`, for a list of strings. -/
def Json.isIn (value : Json N) (allowed : List String) : Bool :=
  match value with
  | .str s => allowed.contains s
  | _ => false

/-! ### Printing a value -/

/-- `sys.get_int_max_str_digits()` -/
def intMaxStrDigits : Nat := 4300

mutual

/-- No integer in the value has more digits than `str` agrees to print. -/
def Json.printable : Json N → Bool
  | .int n => decide (n.natAbs < 10 ^ intMaxStrDigits)
  | .arr items => printableItems items
  | .obj fields => printableFields fields
  | _ => true

def Json.printableItems : List (Json N) → Bool
  | [] => true
  | value :: rest => value.printable && printableItems rest

def Json.printableFields : List (String × Json N) → Bool
  | [] => true
  | (_, value) :: rest => value.printable && printableFields rest

end

/-- A short integer is printed. -/
theorem printable_int {n : ℤ} (h : n.natAbs < 10 ^ 4) : (Json.int n : Json N).printable = true := by
  have hle : 10 ^ 4 ≤ 10 ^ intMaxStrDigits := Nat.pow_le_pow_right (by decide) (by decide)
  unfold Json.printable
  exact decide_eq_true (Nat.lt_of_lt_of_le h hle)

/-- A value in an f-string. -/
def pyRepr (value : Json N) : Except PyException (Fragment N) :=
  if value.printable then .ok (.repr value)
  else .error ⟨.valueError, "Exceeds the limit (4300 digits) for integer string conversion; " ++
    "use sys.set_int_max_str_digits() to increase the limit"⟩

/-! ### The single checks -/

/-- The message of a violation, or nothing. -/
abbrev Check (N : Type) := Except PyException (Option (Message N))

/-- `a`, and then `b` unless `a` has found a violation. -/
def firstError (a b : Check N) : Check N :=
  match a with
  | .ok none => b
  | .ok (some message) => .ok (some message)
  | .error exc => .error exc

namespace Schema

def checkType (schema : Schema N) (path : String) (value : Json N) : Check N :=
  match schema.type with
  | none => .ok none
  | some t =>
    if t.accepts value then .ok none
    else .ok (some [.text path, .text ": expected type ", .text t.value, .text ", got ", .text value.typeName])

/-- `for key in required` -/
def checkRequired (schema : Schema N) (path : String) (fields : List (String × Json N)) : Check N :=
  match schema.required.find? fun key => (getKey fields key).isNone with
  | none => .ok none
  | some key => .ok (some [.text path, .text ": missing required field '", .text key, .text "'"])

/-- `elif not additional_allowed` -/
def checkAdditional (schema : Schema N) (path : String) (key : String) : Check N :=
  if schema.additionalProperties then .ok none
  else .ok (some [.text path, .text ": unexpected field '", .text key, .text "'"])

def checkMaxItems (schema : Schema N) (path : String) (items : List (Json N)) : Check N :=
  match schema.maxItems with
  | none => .ok none
  | some maxItems =>
    if maxItems < items.length then
      .ok (some [.text path, .text ": array longer than maxItems=", .repr (.int maxItems)])
    else .ok none

def checkEnum (schema : Schema N) (path : String) (value : Json N) : Check N :=
  match schema.enum with
  | none => .ok none
  | some allowed =>
    if value.isIn allowed then .ok none
    else (pyRepr value).map fun r => some [.text path, .text ": ", r, .text " not in allowed values ", .texts allowed]

section Check

variable [IntCast N]

/-- A comparison of `value` with a bound of the schema. -/
def checkBound (violated : N → N → Bool) (relation : String) (path : String) (value : Json N)
    (bound : Option (Json N)) : Check N :=
  match value.number?, bound, bound.bind Json.number? with
  | some v, some b, some limit =>
    if violated v limit then
      (pyRepr value).bind fun r => (pyRepr b).map fun rb => some [.text path, .text ": ", r, .text relation, rb]
    else .ok none
  | _, _, _ => .ok none

variable [LT N] [DecidableLT N]

def checkMinimum (schema : Schema N) (path : String) (value : Json N) : Check N :=
  checkBound (fun v m => decide (v < m)) " < minimum " path value schema.minimum

def checkMaximum (schema : Schema N) (path : String) (value : Json N) : Check N :=
  checkBound (fun v m => decide (m < v)) " > maximum " path value schema.maximum

/-- `if expected_type in ("number", "integer")` -/
def checkBounds (schema : Schema N) (path : String) (value : Json N) : Check N :=
  if schema.type = some .number ∨ schema.type = some .integer then
    firstError (schema.checkMinimum path value) (schema.checkMaximum path value)
  else .ok none

/-! ### The whole check -/

mutual

/-- `_check` -/
def check (schema : Schema N) (path : String) (value : Json N) : Check N :=
  firstError (schema.checkType path value)
    (firstError
      (match schema.type, value with
        | some .object, .obj fields =>
          firstError (schema.checkRequired path fields) (schema.checkFields path fields)
        | some .array, .arr items =>
          firstError (schema.checkMaxItems path items)
            (match schema.items with
              | some itemsSchema => itemsSchema.checkItems path 0 items
              | none => .ok none)
        | _, _ => .ok none)
      (firstError (schema.checkEnum path value) (schema.checkBounds path value)))

/-- `for key, sub_value in value.items()` -/
def checkFields (schema : Schema N) (path : String) : List (String × Json N) → Check N
  | [] => .ok none
  | (key, value) :: rest =>
    firstError
      (match getKey schema.properties key with
        | some sub => sub.check (path ++ "." ++ key) value
        | none => schema.checkAdditional path key)
      (schema.checkFields path rest)

/-- `for i, item in enumerate(value)` -/
def checkItems (schema : Schema N) (path : String) (i : Nat) : List (Json N) → Check N
  | [] => .ok none
  | value :: rest =>
    firstError (schema.check (path ++ "[" ++ toString i ++ "]") value) (schema.checkItems path (i + 1) rest)

end

/-- `check_schema` -/
def checkSchema (schema : Schema N) (value : Json N) : Check N := schema.check "$" value

end Check

end Schema

/-! ### What a schema means -/

theorem getKey_mem {β : Type} {fields : List (String × β)} {key : String} {value : β}
    (h : getKey fields key = some value) : (key, value) ∈ fields := by
  obtain ⟨⟨key', value'⟩, hfind, rfl⟩ := Option.map_eq_some_iff.1 h
  have hkey : key' = key := by simpa using List.find?_some hfind
  rw [← hkey]
  exact List.mem_of_find?_eq_some hfind

section Conforms

variable [IntCast N] [LT N]

/-- `value` respects the bounds of `schema`, where both are numbers. -/
def Schema.Bounded (schema : Schema N) (value : Json N) : Prop :=
  ∀ v ∈ value.number?, (∀ m ∈ schema.minimum.bind Json.number?, ¬ v < m) ∧
    ∀ m ∈ schema.maximum.bind Json.number?, ¬ m < v

/-- `value` conforms to `schema`. -/
inductive Conforms : Schema N → Json N → Prop
  | intro (schema : Schema N) (value : Json N)
      (type : ∀ t ∈ schema.type, t.accepts value = true)
      (required : ∀ fields, schema.type = some .object → value = .obj fields →
        ∀ key ∈ schema.required, (getKey fields key).isSome = true)
      (known : ∀ fields, schema.type = some .object → value = .obj fields → ∀ key sub, (key, sub) ∈ fields →
        ∀ subSchema, getKey schema.properties key = some subSchema → Conforms subSchema sub)
      (additional : ∀ fields, schema.type = some .object → value = .obj fields → ∀ key sub, (key, sub) ∈ fields →
        getKey schema.properties key = none → schema.additionalProperties = true)
      (maxItems : ∀ items, schema.type = some .array → value = .arr items →
        ∀ m ∈ schema.maxItems, items.length ≤ m)
      (items : ∀ items, schema.type = some .array → value = .arr items →
        ∀ itemsSchema, schema.items = some itemsSchema → ∀ item ∈ items, Conforms itemsSchema item)
      (enum : ∀ allowed ∈ schema.enum, value.isIn allowed = true)
      (bounds : schema.type = some .number ∨ schema.type = some .integer → schema.Bounded value) :
      Conforms schema value

variable {schema sub : Schema N} {value : Json N} {fields : List (String × Json N)} {key : String}

/-- A known field that is present conforms to its own schema. -/
theorem Conforms.field (h : Conforms schema (.obj fields)) (htype : schema.type = some .object)
    (hsub : getKey schema.properties key = some sub) (hvalue : getKey fields key = some value) :
    Conforms sub value := by
  cases h with
  | intro _ _ _ _ hknown =>
    exact hknown fields htype rfl key value (getKey_mem hvalue) sub hsub

/-- A number is one, within its bounds. -/
theorem Conforms.number (h : Conforms schema value) (htype : schema.type = some .number) :
    ∃ v, value.number? = some v ∧ (∀ m ∈ schema.minimum.bind Json.number?, ¬ v < m) ∧
      ∀ m ∈ schema.maximum.bind Json.number?, ¬ m < v := by
  cases h with
  | intro _ _ hok _ _ _ _ _ _ hbounds =>
    have hnumber : ∃ v, value.number? = some v := by
      have haccepts := hok .number htype
      cases value with
      | int n => exact ⟨n, rfl⟩
      | float x => exact ⟨x, rfl⟩
      | null | bool b | str s | arr items | obj fields => cases haccepts
    obtain ⟨v, hv⟩ := hnumber
    exact ⟨v, hv, hbounds (Or.inl htype) v hv⟩

/-- A number within its bounds conforms. -/
theorem conforms_number {v : N} (htype : schema.type = some .number) (henum : schema.enum = none)
    (hv : value.number? = some v) (hmin : ∀ m ∈ schema.minimum.bind Json.number?, ¬ v < m)
    (hmax : ∀ m ∈ schema.maximum.bind Json.number?, ¬ m < v) : Conforms schema value := by
  have haccepts : SchemaType.number.accepts value = true := by
    cases value with
    | int n | float x => rfl
    | null | bool b | str s | arr items | obj fields => cases hv
  have hother : ∀ t, t ≠ .number → schema.type ≠ some t := by
    intro t hne h
    rw [htype] at h
    exact hne (Option.some.inj h).symm
  constructor
  case type =>
    intro t ht
    obtain rfl := Option.some.inj (htype.symm.trans ht)
    exact haccepts
  case required | known | additional | maxItems | items => exact fun _ h => absurd h (hother _ (by decide))
  case enum =>
    intro allowed hallowed
    rw [henum] at hallowed
    cases hallowed
  case bounds =>
    intro _ v' hv'
    obtain rfl := Option.some.inj (hv.symm.trans hv')
    exact ⟨hmin, hmax⟩

end Conforms

/-! ### The check decides it -/

private theorem firstError_eq_none {a b : Check N} : firstError a b = .ok none ↔ a = .ok none ∧ b = .ok none := by
  unfold firstError
  split <;> simp

namespace Schema

variable {schema : Schema N} {path : String} {value : Json N}

theorem checkType_eq_none : schema.checkType path value = .ok none ↔ ∀ t ∈ schema.type, t.accepts value = true := by
  unfold checkType
  cases schema.type with
  | none => simp
  | some t => by_cases h : t.accepts value = true <;> simp [h]

theorem checkRequired_eq_none {fields : List (String × Json N)} : schema.checkRequired path fields = .ok none ↔
    ∀ key ∈ schema.required, (getKey fields key).isSome = true := by
  unfold checkRequired
  cases h : schema.required.find? fun key => (getKey fields key).isNone with
  | none =>
    rw [List.find?_eq_none] at h
    simpa [Option.isSome_iff_ne_none] using h
  | some key =>
    have hmem := List.mem_of_find?_eq_some h
    have hnone := List.find?_some h
    simp only [Except.ok.injEq, reduceCtorEq, false_iff]
    intro hall
    have hsome := hall key hmem
    simp_all

theorem checkAdditional_eq_none {key : String} : schema.checkAdditional path key = .ok none ↔
    schema.additionalProperties = true := by
  unfold checkAdditional
  by_cases h : schema.additionalProperties = true <;> simp [h]

theorem checkMaxItems_eq_none {items : List (Json N)} : schema.checkMaxItems path items = .ok none ↔
    ∀ m ∈ schema.maxItems, items.length ≤ m := by
  unfold checkMaxItems
  cases schema.maxItems with
  | none => simp
  | some m => by_cases h : m < items.length <;> simp [h]; omega

theorem checkEnum_eq_none : schema.checkEnum path value = .ok none ↔
    ∀ allowed ∈ schema.enum, value.isIn allowed = true := by
  unfold checkEnum
  cases schema.enum with
  | none => simp
  | some allowed =>
    by_cases h : value.isIn allowed = true
    · simp [h]
    · cases pyRepr value <;> simp [h, Except.map]

section Numbers

variable [IntCast N]

theorem checkBound_eq_none {violated : N → N → Bool} {relation : String} {bound : Option (Json N)} :
    checkBound violated relation path value bound = .ok none ↔
      ∀ v ∈ value.number?, ∀ m ∈ bound.bind Json.number?, violated v m = false := by
  unfold checkBound
  cases value.number? with
  | none => simp
  | some v =>
    cases bound with
    | none => simp
    | some b =>
      cases hb : b.number? with
      | none => simp [hb]
      | some m =>
        by_cases h : violated v m = true
        · cases hr : pyRepr value <;> cases hrb : pyRepr b <;> simp [hb, h, hrb, Except.bind, Except.map]
        · simp [hb, h]

variable [LT N] [DecidableLT N]

private theorem checkBounds_eq_none : schema.checkBounds path value = .ok none ↔
    (schema.type = some .number ∨ schema.type = some .integer → schema.Bounded value) := by
  unfold checkBounds
  by_cases h : schema.type = some .number ∨ schema.type = some .integer
  · rw [if_pos h, firstError_eq_none, checkMinimum, checkMaximum, checkBound_eq_none, checkBound_eq_none]
    simp only [decide_eq_false_iff_not, h, forall_const]
    constructor
    · rintro ⟨hmin, hmax⟩ v hv
      exact ⟨hmin v hv, hmax v hv⟩
    · intro hb
      exact ⟨fun v hv => (hb v hv).1, fun v hv => (hb v hv).2⟩
  · simp [h]

/-- Every field is known and conforms, or is additional and allowed. -/
def FieldsConform (schema : Schema N) (fields : List (String × Json N)) : Prop :=
  ∀ key sub, (key, sub) ∈ fields →
    (∀ subSchema, getKey schema.properties key = some subSchema → Conforms subSchema sub) ∧
      (getKey schema.properties key = none → schema.additionalProperties = true)

/-- One level of the check, when the levels below decide what they should. -/
private theorem check_eq_none_of_nested
    (hfields : ∀ fields, value = .obj fields →
      (schema.checkFields path fields = .ok none ↔ schema.FieldsConform fields))
    (hitems : ∀ items, value = .arr items → ∀ s : Schema N,
      (s.checkItems path 0 items = .ok none ↔ ∀ item ∈ items, Conforms s item)) :
    schema.check path value = .ok none ↔ Conforms schema value := by
  unfold check
  rw [firstError_eq_none, firstError_eq_none, firstError_eq_none, checkType_eq_none, checkEnum_eq_none,
    checkBounds_eq_none]
  constructor
  · rintro ⟨htype, hnested, henum, hbounds⟩
    constructor
    case type => exact htype
    case required =>
      rintro fields ht rfl
      rw [ht, firstError_eq_none, checkRequired_eq_none] at hnested
      exact hnested.1
    case known =>
      rintro fields ht rfl key sub hmem
      rw [ht, firstError_eq_none, hfields fields rfl] at hnested
      exact (hnested.2 key sub hmem).1
    case additional =>
      rintro fields ht rfl key sub hmem
      rw [ht, firstError_eq_none, hfields fields rfl] at hnested
      exact (hnested.2 key sub hmem).2
    case maxItems =>
      rintro items ht rfl
      rw [ht, firstError_eq_none, checkMaxItems_eq_none] at hnested
      exact hnested.1
    case items =>
      rintro items ht rfl s hs
      rw [ht, firstError_eq_none, hs] at hnested
      exact (hitems items rfl s).1 hnested.2
    case enum => exact henum
    case bounds => exact hbounds
  · rintro ⟨_, _, htype, hrequired, hknown, hadditional, hmax, hitem, henum, hbounds⟩
    refine ⟨htype, ?_, henum, hbounds⟩
    split
    · next fields ht =>
      rw [firstError_eq_none, checkRequired_eq_none, hfields fields rfl]
      exact ⟨hrequired fields ht rfl, fun key sub hmem =>
        ⟨hknown fields ht rfl key sub hmem, hadditional fields ht rfl key sub hmem⟩⟩
    · next items ht =>
      rw [firstError_eq_none, checkMaxItems_eq_none]
      refine ⟨hmax items ht rfl, ?_⟩
      cases hs : schema.items with
      | none => rfl
      | some s => exact (hitems items rfl s).2 (hitem items ht rfl s hs)
    · rfl

mutual

/-- The check returns nothing on exactly the values that conform. -/
theorem check_eq_none_iff (schema : Schema N) (path : String) (value : Json N) :
    schema.check path value = .ok none ↔ Conforms schema value := by
  cases value with
  | obj fields =>
    have hfields := checkFields_eq_none_iff schema path fields
    exact check_eq_none_of_nested (by rintro _ ⟨⟩; exact hfields) (by rintro _ ⟨⟩)
  | arr items =>
    have hitems := fun s : Schema N => checkItems_eq_none_iff s path 0 items
    exact check_eq_none_of_nested (by rintro _ ⟨⟩) (by rintro _ ⟨⟩; exact hitems)
  | null | bool b | int n | float x | str s => exact check_eq_none_of_nested (by rintro _ ⟨⟩) (by rintro _ ⟨⟩)

theorem checkFields_eq_none_iff (schema : Schema N) (path : String) (fields : List (String × Json N)) :
    schema.checkFields path fields = .ok none ↔ schema.FieldsConform fields := by
  cases fields with
  | nil => simp [checkFields, FieldsConform]
  | cons field rest =>
    obtain ⟨key, sub⟩ := field
    have hrest := checkFields_eq_none_iff schema path rest
    have hsub := fun s : Schema N => check_eq_none_iff s (path ++ "." ++ key) sub
    unfold checkFields
    rw [firstError_eq_none, hrest]
    have hfirst : (match getKey schema.properties key with
        | some s => s.check (path ++ "." ++ key) sub
        | none => schema.checkAdditional path key) = .ok none ↔
        (∀ s, getKey schema.properties key = some s → Conforms s sub) ∧
          (getKey schema.properties key = none → schema.additionalProperties = true) := by
      cases getKey schema.properties key with
      | none => simp [checkAdditional_eq_none]
      | some s => simp [hsub]
    rw [hfirst]
    constructor
    · rintro ⟨hhead, htail⟩ key' sub' hmem
      rcases List.mem_cons.1 hmem with heq | hmem
      · obtain ⟨rfl, rfl⟩ := Prod.mk.inj heq
        exact hhead
      · exact htail key' sub' hmem
    · intro hall
      exact ⟨hall key sub List.mem_cons_self, fun key' sub' hmem => hall key' sub' (List.mem_cons_of_mem _ hmem)⟩

theorem checkItems_eq_none_iff (schema : Schema N) (path : String) (i : Nat) (items : List (Json N)) :
    schema.checkItems path i items = .ok none ↔ ∀ item ∈ items, Conforms schema item := by
  cases items with
  | nil => simp [checkItems]
  | cons item rest =>
    unfold checkItems
    rw [firstError_eq_none, check_eq_none_iff schema _ item, checkItems_eq_none_iff schema path (i + 1) rest]
    simp

end

end Numbers

end Schema

end RosMcp
