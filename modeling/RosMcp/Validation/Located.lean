import RosMcp.Validation.SchemaCheck

/-!
# Where the messages of the schema checker point

A message begins with a path such as `$.poses[2].x`.  `checkSchema` returns nothing on a value that conforms; otherwise
the path of its message is that of a place in the value, everything that the schema says about what comes before this
place is satisfied, and the rest of the message names something that the schema of the place forbids there
(`checkSchema_reports`).  Where the checker raises instead, it has found such a place, and was printing an integer that
is too long.
-/

namespace RosMcp

variable {N : Type}

inductive PathStep
  | field (key : String)
  | item (index : Nat)
  deriving DecidableEq, Repr

/-- The path as the f-strings of `_check` build it. -/
def renderPath (path : String) : List PathStep → String
  | [] => path
  | .field key :: place => renderPath (path ++ "." ++ key) place
  | .item i :: place => renderPath (path ++ "[" ++ toString i ++ "]") place

namespace Schema

section Places

variable [IntCast N] [LT N]

/-- The value at `place` of `value` is `found`, to be checked against `sub`, and what is checked before it conforms. -/
inductive FirstAt : Schema N → Json N → List PathStep → Schema N → Json N → Prop
  | here (schema : Schema N) (value : Json N) : FirstAt schema value [] schema value
  | field {schema inner sub : Schema N} {before after : List (String × Json N)} {key : String} {value found : Json N}
    {place : List PathStep} (type : schema.type = some .object)
    (required : ∀ k ∈ schema.required, (getKey (before ++ (key, value) :: after) k).isSome = true)
    (conform : schema.FieldsConform before) (known : getKey schema.properties key = some inner)
    (rest : FirstAt inner value place sub found) :
    FirstAt schema (.obj (before ++ (key, value) :: after)) (.field key :: place) sub found
  | item {schema inner sub : Schema N} {before after : List (Json N)} {value found : Json N} {place : List PathStep}
    (type : schema.type = some .array)
    (maxItems : ∀ m ∈ schema.maxItems, (before ++ value :: after).length ≤ m)
    (conform : ∀ x ∈ before, Conforms inner x) (items : schema.items = some inner)
    (rest : FirstAt inner value place sub found) :
    FirstAt schema (.arr (before ++ value :: after)) (.item before.length :: place) sub found

/-- Something that `schema` forbids of `value`, not looking into its parts, as a message says it after the path. -/
inductive Violation (schema : Schema N) : Json N → Message N → Prop
  | type {value : Json N} {t : SchemaType} (type : schema.type = some t) (refused : t.accepts value = false) :
    Violation schema value [.text ": expected type ", .text t.value, .text ", got ", .text value.typeName]
  | required {fields : List (String × Json N)} {key : String} (type : schema.type = some .object)
    (required : key ∈ schema.required) (missing : getKey fields key = none) :
    Violation schema (.obj fields) [.text ": missing required field '", .text key, .text "'"]
  | additional {fields : List (String × Json N)} {key : String} {value : Json N} (type : schema.type = some .object)
    (present : (key, value) ∈ fields) (unknown : getKey schema.properties key = none)
    (closed : schema.additionalProperties = false) :
    Violation schema (.obj fields) [.text ": unexpected field '", .text key, .text "'"]
  | maxItems {items : List (Json N)} {m : Nat} (type : schema.type = some .array) (maxItems : schema.maxItems = some m)
    (long : m < items.length) :
    Violation schema (.arr items) [.text ": array longer than maxItems=", .repr (.int m)]
  | enum {value : Json N} {allowed : List String} (enum : schema.enum = some allowed)
    (refused : value.isIn allowed = false) :
    Violation schema value [.text ": ", .repr value, .text " not in allowed values ", .texts allowed]
  | minimum {value b : Json N} {v m : N} (type : schema.type = some .number ∨ schema.type = some .integer)
    (number : value.number? = some v) (bound : schema.minimum = some b) (limit : b.number? = some m) (low : v < m) :
    Violation schema value [.text ": ", .repr value, .text " < minimum ", .repr b]
  | maximum {value b : Json N} {v m : N} (type : schema.type = some .number ∨ schema.type = some .integer)
    (number : value.number? = some v) (bound : schema.maximum = some b) (limit : b.number? = some m) (high : m < v) :
    Violation schema value [.text ": ", .repr value, .text " > maximum ", .repr b]

/-- A check of `value` that begins at `path` has stopped at a violation. -/
inductive Stops (schema : Schema N) (path : String) (value : Json N) : Check N → Prop
  | message {place : List PathStep} {sub : Schema N} {found : Json N} {detail : Message N}
    (first : FirstAt schema value place sub found) (violation : Violation sub found detail) :
    Stops schema path value (.ok (some (.text (renderPath path place) :: detail)))
  | raised {place : List PathStep} {sub : Schema N} {found x : Json N} {detail : Message N} {text : String}
    (first : FirstAt schema value place sub found) (violation : Violation sub found detail)
    (printed : Fragment.repr x ∈ detail) (long : x.printable = false) :
    Stops schema path value (.error ⟨.valueError, text⟩)

variable {schema : Schema N} {path : String} {value : Json N} {a b : Check N}

/-! ### The single checks -/

private theorem stops_here {detail : Message N} (h : Violation schema value detail) :
    Stops schema path value (.ok (some (.text path :: detail))) :=
  .message (.here schema value) h

/-- A check stops as soon as one of its parts does. -/
private theorem firstError_ends (ha : a = .ok none ∨ Stops schema path value a)
    (hb : a = .ok none → b = .ok none ∨ Stops schema path value b) :
    firstError a b = .ok none ∨ Stops schema path value (firstError a b) := by
  rcases ha with rfl | hstops
  · exact hb rfl
  · right
    have hfirst : firstError a b = a := by cases hstops <;> rfl
    rwa [hfirst]

private theorem checkType_ends :
    schema.checkType path value = .ok none ∨ Stops schema path value (schema.checkType path value) := by
  unfold checkType
  split
  · exact Or.inl rfl
  · next t ht =>
    split
    · exact Or.inl rfl
    · next hrefused => exact Or.inr (stops_here (.type ht (by simpa using hrefused)))

private theorem checkRequired_ends {fields : List (String × Json N)} (htype : schema.type = some .object) :
    schema.checkRequired path fields = .ok none ∨
      Stops schema path (.obj fields) (schema.checkRequired path fields) := by
  unfold checkRequired
  split
  · exact Or.inl rfl
  · next key hfind =>
    have hmissing : getKey fields key = none := by simpa using List.find?_some hfind
    exact Or.inr (stops_here (.required htype (List.mem_of_find?_eq_some hfind) hmissing))

private theorem checkAdditional_ends {fields : List (String × Json N)} {key : String}
    (htype : schema.type = some .object)
    (hpresent : (key, value) ∈ fields) (hunknown : getKey schema.properties key = none) :
    schema.checkAdditional path key = .ok none ∨ Stops schema path (.obj fields) (schema.checkAdditional path key) := by
  unfold checkAdditional
  split
  · exact Or.inl rfl
  · next hclosed => exact Or.inr (stops_here (.additional htype hpresent hunknown (by simpa using hclosed)))

private theorem checkMaxItems_ends {items : List (Json N)} (htype : schema.type = some .array) :
    schema.checkMaxItems path items = .ok none ∨ Stops schema path (.arr items) (schema.checkMaxItems path items) := by
  unfold checkMaxItems
  split
  · exact Or.inl rfl
  · next m hmax =>
    split
    · next hlong => exact Or.inr (stops_here (.maxItems htype hmax hlong))
    · exact Or.inl rfl

omit [IntCast N] [LT N] in
/-- Printing the value raises, or does not change it. -/
theorem pyRepr_cases (value : Json N) : pyRepr value = .ok (.repr value) ∨
    value.printable = false ∧ ∃ text, pyRepr value = .error ⟨.valueError, text⟩ := by
  unfold pyRepr
  split
  · exact Or.inl rfl
  · next h => exact Or.inr ⟨by simpa using h, _, rfl⟩

private theorem checkEnum_ends :
    schema.checkEnum path value = .ok none ∨ Stops schema path value (schema.checkEnum path value) := by
  unfold checkEnum
  split
  · exact Or.inl rfl
  · next allowed henum =>
    split
    · exact Or.inl rfl
    · next hrefused =>
      have hviolation : Violation schema value _ := .enum henum (by simpa using hrefused)
      right
      rcases pyRepr_cases value with hr | ⟨hlong, text, hr⟩
      · rw [hr]
        exact stops_here hviolation
      · rw [hr]
        exact .raised (.here schema value) hviolation (by simp) hlong

/-- A comparison with a bound stops at a violation, as soon as it is one. -/
private theorem checkBound_ends {violated : N → N → Bool} {relation : String} {bound : Option (Json N)}
    (hviolation : ∀ v b m, value.number? = some v → bound = some b → b.number? = some m → violated v m = true →
      Violation schema value [.text ": ", .repr value, .text relation, .repr b]) :
    checkBound violated relation path value bound = .ok none ∨
      Stops schema path value (checkBound violated relation path value bound) := by
  unfold checkBound
  cases hv : value.number? with
  | none => exact Or.inl rfl
  | some v =>
    cases bound with
    | none => exact Or.inl rfl
    | some b =>
      cases hm : b.number? with
      | none =>
        left
        simp [hm]
      | some m =>
        simp only [Option.bind_some, hm]
        split
        · next hbreaks =>
          have h := hviolation v b m hv rfl hm hbreaks
          right
          rcases pyRepr_cases value with hr | ⟨hlong, text, hr⟩
          · rcases pyRepr_cases b with hrb | ⟨hlong, text, hrb⟩
            · rw [hr, hrb]
              exact stops_here h
            · rw [hr, hrb]
              exact .raised (.here schema value) h (by simp) hlong
          · rw [hr]
            exact .raised (.here schema value) h (by simp) hlong
        · exact Or.inl rfl

variable [DecidableLT N]

private theorem checkBounds_ends : schema.checkBounds path value = .ok none ∨
    Stops schema path value (schema.checkBounds path value) := by
  unfold checkBounds
  split
  · next htype =>
    refine firstError_ends (checkBound_ends fun v b m hv hb hm hlow => ?_)
      fun _ => checkBound_ends fun v b m hv hb hm hhigh => ?_
    · exact .minimum htype hv hb hm (of_decide_eq_true hlow)
    · exact .maximum htype hv hb hm (of_decide_eq_true hhigh)
  · exact Or.inl rfl

/-! ### The whole check -/

omit [DecidableLT N] in
/-- Where the check of a field stops, that of the object does. -/
private theorem Stops.field {inner : Schema N} {before after : List (String × Json N)} {key : String} {result : Check N}
    (type : schema.type = some .object)
    (required : ∀ k ∈ schema.required, (getKey (before ++ (key, value) :: after) k).isSome = true)
    (conform : schema.FieldsConform before) (known : getKey schema.properties key = some inner)
    (h : Stops inner (path ++ "." ++ key) value result) :
    Stops schema path (.obj (before ++ (key, value) :: after)) result := by
  cases h with
  | message first violation => exact .message (.field type required conform known first) violation
  | raised first violation printed long =>
    exact .raised (.field type required conform known first) violation printed long

omit [DecidableLT N] in
private theorem Stops.item {inner : Schema N} {before after : List (Json N)} {result : Check N}
    (type : schema.type = some .array)
    (maxItems : ∀ m ∈ schema.maxItems, (before ++ value :: after).length ≤ m)
    (conform : ∀ x ∈ before, Conforms inner x) (items : schema.items = some inner)
    (h : Stops inner (path ++ "[" ++ toString before.length ++ "]") value result) :
    Stops schema path (.arr (before ++ value :: after)) result := by
  cases h with
  | message first violation => exact .message (.item type maxItems conform items first) violation
  | raised first violation printed long =>
    exact .raised (.item type maxItems conform items first) violation printed long

/-- One level of the check, when the levels below end or stop as they should. -/
private theorem check_ends_of_nested
    (hfields : ∀ fields, value = .obj fields → schema.type = some .object →
      (∀ k ∈ schema.required, (getKey fields k).isSome = true) →
      schema.checkFields path fields = .ok none ∨ Stops schema path value (schema.checkFields path fields))
    (hitems : ∀ items inner, value = .arr items → schema.type = some .array →
      (∀ m ∈ schema.maxItems, items.length ≤ m) → schema.items = some inner →
      inner.checkItems path 0 items = .ok none ∨ Stops schema path value (inner.checkItems path 0 items)) :
    schema.check path value = .ok none ∨ Stops schema path value (schema.check path value) := by
  unfold check
  refine firstError_ends checkType_ends fun hok => firstError_ends ?_
    fun _ => firstError_ends checkEnum_ends fun _ => checkBounds_ends
  split
  · next fields htype =>
    exact firstError_ends (checkRequired_ends htype) fun hrequired =>
      hfields fields rfl htype (checkRequired_eq_none.1 hrequired)
  · next items htype =>
    refine firstError_ends (checkMaxItems_ends htype) fun hmax => ?_
    split
    · next inner hinner => exact hitems items inner rfl htype (checkMaxItems_eq_none.1 hmax) hinner
    · exact Or.inl rfl
  · exact Or.inl rfl

mutual

theorem check_ends (schema : Schema N) (path : String) (value : Json N) :
    schema.check path value = .ok none ∨ Stops schema path value (schema.check path value) := by
  cases value with
  | obj fields =>
    have hends := checkFields_ends schema path [] fields
    exact check_ends_of_nested
      (by rintro _ ⟨⟩ htype hrequired; exact hends htype hrequired (by simp [FieldsConform])) (by rintro _ _ ⟨⟩)
  | arr items =>
    have hends := fun inner => checkItems_ends schema inner path [] items
    exact check_ends_of_nested (by rintro _ ⟨⟩)
      (by rintro _ inner ⟨⟩ htype hmax hinner; exact hends inner htype hmax hinner (by simp))
  | null | bool b | int n | float x | str s => exact check_ends_of_nested (by rintro _ ⟨⟩) (by rintro _ _ ⟨⟩)

theorem checkFields_ends (schema : Schema N) (path : String) (before fields : List (String × Json N))
    (htype : schema.type = some .object)
    (hrequired : ∀ k ∈ schema.required, (getKey (before ++ fields) k).isSome = true)
    (hbefore : schema.FieldsConform before) :
    schema.checkFields path fields = .ok none ∨
      Stops schema path (.obj (before ++ fields)) (schema.checkFields path fields) := by
  cases fields with
  | nil => exact Or.inl rfl
  | cons field rest =>
    obtain ⟨key, value⟩ := field
    have hvalue := fun inner => check_ends inner (path ++ "." ++ key) value
    have hrest := checkFields_ends schema path (before ++ [(key, value)]) rest htype
    simp only [List.append_assoc, List.singleton_append] at hrest
    unfold checkFields
    refine firstError_ends ?_ fun hfirst => hrest hrequired ?_
    · split
      · next inner hinner =>
        exact (hvalue inner).imp_right (Stops.field htype hrequired hbefore hinner)
      · next hunknown =>
        have hmem : (key, value) ∈ before ++ (key, value) :: rest := by simp
        exact checkAdditional_ends htype hmem hunknown
    · -- the field conforms
      intro k v hmem
      rcases List.mem_append.1 hmem with hold | hnew
      · exact hbefore k v hold
      · obtain ⟨rfl, rfl⟩ := Prod.mk.inj (List.mem_singleton.1 hnew)
        refine ⟨fun inner hinner => ?_, fun hunknown => ?_⟩
        · rw [hinner] at hfirst
          exact (check_eq_none_iff inner _ v).1 hfirst
        · rw [hunknown] at hfirst
          exact checkAdditional_eq_none.1 hfirst

theorem checkItems_ends (schema inner : Schema N) (path : String) (before items : List (Json N))
    (htype : schema.type = some .array) (hmax : ∀ m ∈ schema.maxItems, (before ++ items).length ≤ m)
    (hinner : schema.items = some inner) (hbefore : ∀ x ∈ before, Conforms inner x) :
    inner.checkItems path before.length items = .ok none ∨
      Stops schema path (.arr (before ++ items)) (inner.checkItems path before.length items) := by
  cases items with
  | nil => exact Or.inl rfl
  | cons value rest =>
    have hvalue := check_ends inner (path ++ "[" ++ toString before.length ++ "]") value
    have hrest := checkItems_ends schema inner path (before ++ [value]) rest htype
    simp only [List.append_assoc, List.singleton_append, List.length_append, List.length_singleton] at hrest
    unfold checkItems
    refine firstError_ends (hvalue.imp_right (Stops.item htype hmax hbefore hinner)) fun hfirst =>
      hrest (by simpa using hmax) hinner ?_
    intro x hmem
    rcases List.mem_append.1 hmem with hold | hnew
    · exact hbefore x hold
    · obtain rfl := List.mem_singleton.1 hnew
      exact (check_eq_none_iff inner _ x).1 hfirst

end

/-- The checker returns nothing on the values that conform.  On every other value it stops at the first place that
does not: its message is the path of the place with what is wrong there, and it raises only while it prints a number
there. -/
theorem checkSchema_reports (schema : Schema N) (value : Json N) :
    schema.checkSchema value = .ok none ∧ Conforms schema value ∨
      ¬ Conforms schema value ∧ Stops schema "$" value (schema.checkSchema value) := by
  rw [← check_eq_none_iff schema "$" value]
  rcases check_ends schema "$" value with hnone | hstops
  · exact Or.inl ⟨hnone, hnone⟩
  · refine Or.inr ⟨fun hnone => ?_, hstops⟩
    rw [hnone] at hstops
    cases hstops

example : (⟨some .object, [("labels", { type := some .array, items := some { type := some .string } })], [], true, none,
      none, none, none, none⟩ : Schema ℤ).checkSchema (.obj [("labels", .arr [.str "cup", .int 3])]) =
    .ok (some [.text "$.labels[1]", .text ": expected type ", .text "string", .text ", got ", .text "int"]) := by
  rfl

end Places

end Schema

end RosMcp
