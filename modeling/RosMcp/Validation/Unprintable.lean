import RosMcp.Validation.SchemaCheck

/-!
# Where the schema checker raises

The checker prints the value that breaks a bound or an `enum`, and `str` refuses to print an integer of more than 4300
digits.  On a schema of flat fields the checker therefore raises exactly when its first violation is such an integer
outside the bounds of its field (`checkObject_raises`).
-/

namespace RosMcp

variable {N : Type}

/-- A check that raises. -/
def Raises (c : Check N) : Prop := ∃ exc, c = .error exc

@[simp] theorem not_raises_ok {o : Option (Message N)} : ¬ Raises (.ok o : Check N) := by
  intro h
  obtain ⟨exc, h⟩ := h
  cases h

private theorem raises_firstError {a b : Check N} : Raises (firstError a b) ↔ Raises a ∨ a = .ok none ∧ Raises b := by
  unfold firstError
  split
  · simp
  · simp
  · simp [Raises]

private theorem firstError_ok_none {a : Check N} : firstError a (.ok none) = a := by
  unfold firstError
  cases a with
  | error exc => rfl
  | ok o => cases o <;> rfl

/-- A value is printed unless an integer in it is too long. -/
private theorem pyRepr_eq_error {value : Json N} : (∃ exc, pyRepr value = .error exc) ↔ value.printable = false := by
  unfold pyRepr
  by_cases h : value.printable = true
  · simp [h]
  · simp [h]

namespace Schema

/-- `n` is outside the bounds of the number that `schema` describes, and too long to be printed. -/
structure Oversized [IntCast N] [LT N] (schema : Schema N) (n : ℤ) : Prop where
  numeric : schema.type = some .number ∨ schema.type = some .integer
  unbounded : ¬ schema.Bounded (.int n)
  long : 10 ^ intMaxStrDigits ≤ n.natAbs

variable {schema : Schema N} {path : String} {value : Json N}

/-! ### The single checks -/

private theorem not_raises_checkType : ¬ Raises (schema.checkType path value) := by
  unfold checkType
  split
  · simp
  · split <;> simp

private theorem not_raises_checkRequired {fields : List (String × Json N)} : ¬ Raises
    (schema.checkRequired path fields) := by
  unfold checkRequired
  split <;> simp

private theorem not_raises_checkAdditional {key : String} : ¬ Raises (schema.checkAdditional path key) := by
  unfold checkAdditional
  split <;> simp

private theorem not_raises_checkMaxItems {items : List (Json N)} : ¬ Raises (schema.checkMaxItems path items) := by
  unfold checkMaxItems
  split
  · simp
  · split <;> simp

/-- The `enum` of a string is printed with the string. -/
private theorem not_raises_checkEnum (hstring : schema.enum ≠ none → ∃ s, value = .str s) :
    ¬ Raises (schema.checkEnum path value) := by
  unfold checkEnum
  cases henum : schema.enum with
  | none => simp
  | some allowed =>
    obtain ⟨s, rfl⟩ := hstring (by simp [henum])
    have hprint : pyRepr (.str s : Json N) = .ok (.repr (.str s)) := rfl
    by_cases hin : (Json.str s : Json N).isIn allowed = true
    · simp [hin]
    · simp [hin, hprint, Except.map]

section Bounds

variable [IntCast N]

/-- A number that is too long to be printed is an integer. -/
private theorem number_unprintable {v : N} (hv : value.number? = some v) (hprint : value.printable = false) :
    ∃ n, value = .int n ∧ 10 ^ intMaxStrDigits ≤ n.natAbs := by
  cases value with
  | int n =>
    refine ⟨n, rfl, ?_⟩
    unfold Json.printable at hprint
    have hlong := of_decide_eq_false hprint
    exact not_lt.1 hlong
  | float x => simp [Json.printable] at hprint
  | null | bool b | str s | arr items | obj fields => cases hv

private theorem raises_checkBound {violated : N → N → Bool} {relation : String} {bound : Option (Json N)}
    (hbound : ∀ b ∈ bound, b.printable = true) :
    Raises (checkBound violated relation path value bound) ↔
      (∃ v ∈ value.number?, ∃ m ∈ bound.bind Json.number?, violated v m = true) ∧ value.printable = false := by
  unfold checkBound
  cases hv : value.number? with
  | none => simp
  | some v =>
    cases bound with
    | none => simp
    | some b =>
      have hb : pyRepr b = .ok (.repr b) := by
        unfold pyRepr
        rw [if_pos (hbound b rfl)]
      cases hm : b.number? with
      | none => simp [hm]
      | some m =>
        by_cases hviolated : violated v m = true
        · by_cases hprint : value.printable = true
          · have hr : pyRepr value = .ok (.repr value) := by
              unfold pyRepr
              rw [if_pos hprint]
            simp [hm, hviolated, hprint, hr, hb, Except.bind, Except.map]
          · obtain ⟨exc, hr⟩ := pyRepr_eq_error.2 (Bool.not_eq_true _ ▸ hprint)
            have hraises : Raises (.error exc : Check N) := ⟨exc, rfl⟩
            simp [hm, hviolated, hprint, hr, Except.bind, hraises]
        · simp [hm, hviolated]

variable [LT N] [DecidableLT N]

/-- The bounds of a schema are numbers that can be printed. -/
def PrintableBounds (schema : Schema N) : Prop :=
  (∀ b ∈ schema.minimum, b.printable = true) ∧ ∀ b ∈ schema.maximum, b.printable = true

/-- The comparisons with the bounds raise on exactly the integers that are outside and too long. -/
private theorem raises_checkBounds (hbounds : schema.PrintableBounds) :
    Raises (schema.checkBounds path value) ↔ ∃ n, value = .int n ∧ schema.Oversized n := by
  have hmin : Raises (schema.checkMinimum path value) ↔ (∃ v ∈ value.number?,
      ∃ m ∈ schema.minimum.bind Json.number?, decide (v < m) = true) ∧ value.printable = false :=
    raises_checkBound hbounds.1
  have hmax : Raises (schema.checkMaximum path value) ↔ (∃ v ∈ value.number?,
      ∃ m ∈ schema.maximum.bind Json.number?, decide (m < v) = true) ∧ value.printable = false :=
    raises_checkBound hbounds.2
  unfold checkBounds
  by_cases hnumeric : schema.type = some .number ∨ schema.type = some .integer
  · rw [if_pos hnumeric, raises_firstError]
    constructor
    · intro h
      have hviolated : (∃ v, value.number? = some v ∧ ¬ schema.Bounded value) ∧ value.printable = false := by
        rcases h with h | ⟨-, h⟩
        · obtain ⟨⟨v, hv, m, hm, hlt⟩, hprint⟩ := hmin.1 h
          exact ⟨⟨v, hv, fun hb => (hb v hv).1 m hm (of_decide_eq_true hlt)⟩, hprint⟩
        · obtain ⟨⟨v, hv, m, hm, hlt⟩, hprint⟩ := hmax.1 h
          exact ⟨⟨v, hv, fun hb => (hb v hv).2 m hm (of_decide_eq_true hlt)⟩, hprint⟩
      obtain ⟨⟨v, hv, hunbounded⟩, hprint⟩ := hviolated
      obtain ⟨n, rfl, hlong⟩ := number_unprintable hv hprint
      exact ⟨n, rfl, hnumeric, hunbounded, hlong⟩
    · rintro ⟨n, rfl, -, hunbounded, hlong⟩
      have hprint : (Json.int n : Json N).printable = false := by
        unfold Json.printable
        exact decide_eq_false (not_lt.2 hlong)
      by_cases hlow : Raises (schema.checkMinimum path (.int n))
      · exact Or.inl hlow
      · refine Or.inr ⟨?_, ?_⟩
        · rw [hmin, not_and_or] at hlow
          have hnone : ¬ ∃ v ∈ (Json.int n : Json N).number?, ∃ m ∈ schema.minimum.bind Json.number?,
              decide (v < m) = true := hlow.resolve_right (not_not.2 hprint)
          unfold checkMinimum
          rw [checkBound_eq_none]
          intro v hv m hm
          by_contra hlt
          exact hnone ⟨v, hv, m, hm, by simpa using hlt⟩
        · rw [hmax]
          refine ⟨?_, hprint⟩
          by_contra hhigh
          apply hunbounded
          intro v hv
          constructor
          · intro m hm hlt
            exact hlow (hmin.2 ⟨⟨v, hv, m, hm, decide_eq_true hlt⟩, hprint⟩)
          · intro m hm hlt
            exact hhigh ⟨v, hv, m, hm, decide_eq_true hlt⟩
  · rw [if_neg hnumeric]
    simp only [not_raises_ok, false_iff]
    rintro ⟨n, -, hover⟩
    exact hnumeric hover.numeric

/-! ### Flat fields -/

/-- A field without fields of its own, whose `enum` is one of strings. -/
structure Flat (schema : Schema N) : Prop where
  object : schema.type ≠ some .object
  items : ∀ s ∈ schema.items, ∀ path value, ¬ Raises (s.check path value)
  enum : schema.enum ≠ none → schema.type = some .string
  bounds : schema.PrintableBounds

private theorem not_raises_checkItems (hitems : ∀ path value, ¬ Raises (schema.check path value)) (i : Nat)
    (items : List (Json N)) : ¬ Raises (schema.checkItems path i items) := by
  induction items generalizing i with
  | nil => simp [checkItems]
  | cons item rest ih =>
    unfold checkItems
    rw [raises_firstError, not_or, not_and]
    exact ⟨hitems _ item, fun _ => ih (i + 1)⟩

/-- The check of a flat field raises exactly on the integers that are outside its bounds and too long. -/
theorem Flat.raises_check (h : schema.Flat) :
    Raises (schema.check path value) ↔ ∃ n, value = .int n ∧ schema.Oversized n := by
  unfold check
  rw [raises_firstError, raises_firstError, raises_firstError, raises_checkBounds h.bounds]
  constructor
  · intro hraises
    have hrest := hraises.resolve_left not_raises_checkType
    obtain ⟨htype, hnested | ⟨-, henum | ⟨-, hbounds⟩⟩⟩ := hrest
    · -- a flat field has no fields of its own, and its items do not raise
      split at hnested
      · next ht => exact absurd ht h.object
      · rw [raises_firstError] at hnested
        obtain ⟨-, hitems⟩ := hnested.resolve_left not_raises_checkMaxItems
        cases hs : schema.items with
        | none =>
          rw [hs] at hitems
          exact absurd hitems not_raises_ok
        | some s =>
          rw [hs] at hitems
          exact absurd hitems (not_raises_checkItems (h.items s hs) 0 _)
      · exact absurd hnested not_raises_ok
    · -- a value that is compared with an `enum` has passed for a string
      refine absurd henum (not_raises_checkEnum fun hne => ?_)
      have haccepts := checkType_eq_none.1 htype .string (h.enum hne)
      cases value with
      | str s => exact ⟨s, rfl⟩
      | null | bool b | int n | float x | arr items | obj fields => cases haccepts
    · exact hbounds
  · rintro ⟨n, rfl, hover⟩
    have hstring : schema.type ≠ some .string := by
      intro hs
      rcases hover.numeric with hn | hn <;> rw [hs] at hn <;> cases hn
    have htype : schema.checkType path (.int n) = .ok none := by
      rw [checkType_eq_none]
      intro t ht
      rcases hover.numeric with hn | hn
      · obtain rfl := Option.some.inj (hn.symm.trans ht)
        rfl
      · obtain rfl := Option.some.inj (hn.symm.trans ht)
        rfl
    have henum : schema.checkEnum path (.int n) = .ok none := by
      rw [checkEnum_eq_none]
      intro allowed hallowed
      exact absurd (h.enum fun hnone => by rw [hnone] at hallowed; cases hallowed) hstring
    refine Or.inr ⟨htype, Or.inr ⟨?_, Or.inr ⟨henum, n, rfl, hover⟩⟩⟩
    split
    · next hvalue => cases hvalue
    · next hvalue => cases hvalue
    · rfl

/-! ### An object of flat fields -/

/-- The first violation among the fields is an integer that is outside the bounds of its field and too long. -/
def FirstOversized (schema : Schema N) (fields : List (String × Json N)) : Prop :=
  (∀ key ∈ schema.required, (getKey fields key).isSome = true) ∧
    ∃ before key n after sub, fields = before ++ (key, .int n) :: after ∧ schema.FieldsConform before ∧
      getKey schema.properties key = some sub ∧ sub.Oversized n

omit [DecidableLT N] in
private theorem FieldsConform.cons_iff {key : String} {rest : List (String × Json N)} :
    schema.FieldsConform ((key, value) :: rest) ↔
      ((∀ s, getKey schema.properties key = some s → Conforms s value) ∧
        (getKey schema.properties key = none → schema.additionalProperties = true)) ∧ schema.FieldsConform rest := by
  constructor
  · intro h
    exact ⟨h key value List.mem_cons_self, fun key' sub hmem => h key' sub (List.mem_cons_of_mem _ hmem)⟩
  · rintro ⟨hhead, hrest⟩ key' sub hmem
    rcases List.mem_cons.1 hmem with heq | hmem
    · obtain ⟨rfl, rfl⟩ := Prod.mk.inj heq
      exact hhead
    · exact hrest key' sub hmem

/-- The loop over the fields raises at the first one that is not checked through. -/
private theorem raises_checkFields (hflat : ∀ key s, getKey schema.properties key = some s → s.Flat)
    (fields : List (String × Json N)) :
    Raises (schema.checkFields path fields) ↔
      ∃ before key n after sub, fields = before ++ (key, .int n) :: after ∧ schema.FieldsConform before ∧
        getKey schema.properties key = some sub ∧ sub.Oversized n := by
  induction fields with
  | nil => simp [checkFields]
  | cons field rest ih =>
    obtain ⟨key, value⟩ := field
    have hone : schema.checkFields path [(key, value)] = .ok none ↔ schema.FieldsConform [(key, value)] :=
      checkFields_eq_none_iff schema path [(key, value)]
    have hfirst : Raises (schema.checkFields path [(key, value)]) ↔
        ∃ n sub, value = .int n ∧ getKey schema.properties key = some sub ∧ sub.Oversized n := by
      unfold checkFields
      rw [raises_firstError, checkFields]
      cases hkey : getKey schema.properties key with
      | none => simp [not_raises_checkAdditional]
      | some sub => simp [(hflat key sub hkey).raises_check]
    have hsplit : schema.checkFields path ((key, value) :: rest) =
        firstError (schema.checkFields path [(key, value)]) (schema.checkFields path rest) := by
      simp only [checkFields, firstError_ok_none]
    rw [hsplit, raises_firstError, hfirst, hone, ih]
    constructor
    · rintro (⟨n, sub, rfl, hsub, hover⟩ | ⟨hhead, before, key', n, after, sub, rfl, hbefore, hsub, hover⟩)
      · exact ⟨[], key, n, rest, sub, rfl, by simp [FieldsConform], hsub, hover⟩
      · exact ⟨(key, value) :: before, key', n, after, sub, rfl,
          FieldsConform.cons_iff.2 ⟨(FieldsConform.cons_iff.1 hhead).1, hbefore⟩, hsub, hover⟩
    · rintro ⟨before, key', n, after, sub, hfields, hbefore, hsub, hover⟩
      cases before with
      | nil =>
        obtain ⟨hfield, -⟩ := List.cons.inj hfields
        obtain ⟨rfl, rfl⟩ := Prod.mk.inj hfield
        exact Or.inl ⟨n, sub, rfl, hsub, hover⟩
      | cons field before =>
        obtain ⟨rfl, hrest⟩ := List.cons.inj hfields
        obtain ⟨hhead, hbefore⟩ := FieldsConform.cons_iff.1 hbefore
        have hconforms : schema.FieldsConform [(key, value)] :=
          FieldsConform.cons_iff.2 ⟨hhead, by simp [FieldsConform]⟩
        exact Or.inr ⟨hconforms, before, key', n, after, sub, hrest, hbefore, hsub, hover⟩

/-- The check of an object of flat fields raises exactly when its first violation cannot be printed. -/
theorem checkObject_raises (htype : schema.type = some .object) (henum : schema.enum = none)
    (hflat : ∀ key s, getKey schema.properties key = some s → s.Flat) (fields : List (String × Json N)) :
    Raises (schema.checkSchema (.obj fields)) ↔ schema.FirstOversized fields := by
  have hbounds : ¬ Raises (schema.checkBounds "$" (.obj fields)) := by
    unfold checkBounds
    rw [if_neg (by simp [htype])]
    exact not_raises_ok
  have hno : ¬ Raises (schema.checkEnum "$" (.obj fields)) :=
    not_raises_checkEnum fun hne => absurd henum hne
  have hobject : schema.checkType "$" (.obj fields) = .ok none := by
    rw [checkType_eq_none]
    intro t ht
    obtain rfl := Option.some.inj (htype.symm.trans ht)
    rfl
  unfold checkSchema check FirstOversized
  rw [hobject, htype, raises_firstError, raises_firstError, raises_firstError]
  dsimp only
  rw [raises_firstError, checkRequired_eq_none, raises_checkFields hflat]
  simp [not_raises_checkRequired, hno, hbounds]

end Bounds

end Schema

end RosMcp
