import RosMcp.Lib.PyFloat

/-!
# Truncation of large values (`RosidlMessageCodec.to_dict`)

`truncateLargeValues` rebuilds the nested value of a message: sequences longer than the limit are replaced by a marker
with their length, and what is left consists of dictionaries, short lists and scalars (`Within`).

A value is reached by the positions of its ancestors.  As long as none of these is replaced, the result has at the same
place the value rebuilt (`at_truncate`): so nothing is lost but what lies inside a replaced sequence, and a second pass
changes nothing (`truncate_spec`).
-/

namespace RosMcp

/-! ### Values -/

/-- A value without parts: a boolean, a number, a string, or anything else that `_truncate_large_values` does not look
into. -/
inductive RawScalar (S : Type)
  | bool (b : Bool)
  | int (n : ℤ)
  | str (s : String)
  | other (x : S)

/-- A nested value; `array` is an object with `tolist`, given by what that returns. -/
inductive RawValue (S : Type)
  | dict (fields : List (RawScalar S × RawValue S))
  | list (items : List (RawValue S))
  | tuple (items : List (RawValue S))
  | bytes (data : List UInt8)
  | array (toList : RawValue S)
  | scalar (x : RawScalar S)

variable {S : Type}

namespace RawValue

/-- Induction over a value and its parts. -/
private theorem induct {motive : RawValue S → Prop}
    (dict : ∀ fields, (∀ key v, (key, v) ∈ fields → motive v) → motive (.dict fields))
    (list : ∀ items, (∀ v ∈ items, motive v) → motive (.list items))
    (tuple : ∀ items, (∀ v ∈ items, motive v) → motive (.tuple items)) (bytes : ∀ data, motive (.bytes data))
    (array : ∀ v, motive v → motive (.array v)) (scalar : ∀ x, motive (.scalar x)) (value : RawValue S) :
    motive value :=
  match value with
  | .dict fields => dict fields fun _ v _ => induct dict list tuple bytes array scalar v
  | .list items => list items fun v _ => induct dict list tuple bytes array scalar v
  | .tuple items => tuple items fun v _ => induct dict list tuple bytes array scalar v
  | .bytes data => bytes data
  | .array v => array v (induct dict list tuple bytes array scalar v)
  | .scalar x => scalar x
termination_by sizeOf value
decreasing_by
  · rename_i key hmem
    have hfield := List.sizeOf_lt_of_mem hmem
    simp only [Prod.mk.sizeOf_spec, RawValue.dict.sizeOf_spec] at hfield ⊢
    omega
  · rename_i hmem
    have hitem := List.sizeOf_lt_of_mem hmem
    simp only [RawValue.list.sizeOf_spec]
    omega
  · rename_i hmem
    have hitem := List.sizeOf_lt_of_mem hmem
    simp only [RawValue.tuple.sizeOf_spec]
    omega
  · simp only [RawValue.array.sizeOf_spec]
    omega

/-- `len`, of a sequence; the length of an array is that of its list. -/
def length? : RawValue S → Option ℕ
  | .list items => some items.length
  | .tuple items => some items.length
  | .bytes data => some data.length
  | .array v => v.length?
  | _ => none

/-- The part at a position; the parts of an array are those of its list. -/
def child? : RawValue S → ℕ → Option (RawValue S)
  | .dict fields, i => fields[i]?.map Prod.snd
  | .list items, i => items[i]?
  | .tuple items, i => items[i]?
  | .array v, i => v.child? i
  | _, _ => none

/-- The value that is reached through the positions of a path. -/
def at? : RawValue S → List ℕ → Option (RawValue S)
  | v, [] => some v
  | v, i :: path => (v.child? i).bind fun u => u.at? path

end RawValue

/-! ### The code -/

/-- `_TRUNCATION_NOTE` -/
def truncationNote : String := "use a dedicated perception tool or raise element_limit explicitly"

/-- The dictionary that replaces a sequence. -/
def truncationMarker (length : ℕ) : RawValue S :=
  .dict [(.str "truncated", .scalar (.bool true)), (.str "length", .scalar (.int length)),
    (.str "note", .scalar (.str truncationNote))]

/-- A hexadecimal digit. -/
def hexDigit (n : ℕ) : Char := "0123456789abcdef".toList.getD n '0'

/-- `bytes.hex()` -/
def hex (data : List UInt8) : String :=
  String.ofList (data.flatMap fun b => [hexDigit (b.toNat / 16), hexDigit (b.toNat % 16)])

mutual

/-- `_truncate_large_values` -/
def truncateLargeValues (elementLimit : ℕ) : RawValue S → RawValue S
  | .dict fields => .dict (truncateFields elementLimit fields)
  | .bytes data =>
    if elementLimit < data.length then truncationMarker data.length else .scalar (.str (hex data))
  | .list items =>
    if elementLimit < items.length then truncationMarker items.length else .list (truncateItems elementLimit items)
  | .tuple items =>
    if elementLimit < items.length then truncationMarker items.length else .list (truncateItems elementLimit items)
  | .array toList => truncateLargeValues elementLimit toList
  | .scalar x => .scalar x

def truncateItems (elementLimit : ℕ) : List (RawValue S) → List (RawValue S)
  | [] => []
  | v :: rest => truncateLargeValues elementLimit v :: truncateItems elementLimit rest

def truncateFields (elementLimit : ℕ) : List (RawScalar S × RawValue S) → List (RawScalar S × RawValue S)
  | [] => []
  | (key, v) :: rest => (key, truncateLargeValues elementLimit v) :: truncateFields elementLimit rest

end

section Truncate

variable {limit : ℕ} {v u : RawValue S}

private theorem truncateItems_eq (items : List (RawValue S)) :
    truncateItems limit items = items.map (truncateLargeValues limit) := by
  induction items with
  | nil => rfl
  | cons v rest ih => rw [truncateItems, ih, List.map_cons]

private theorem truncateFields_eq (fields : List (RawScalar S × RawValue S)) :
    truncateFields limit fields = fields.map fun field => (field.1, truncateLargeValues limit field.2) := by
  induction fields with
  | nil => rfl
  | cons field rest ih => rw [truncateFields, ih, List.map_cons]

/-! ### What is left -/

/-- The value is made of dictionaries, lists within the limit, and scalars. -/
inductive Within (limit : ℕ) : RawValue S → Prop
  | dict {fields : List (RawScalar S × RawValue S)} (h : ∀ key v, (key, v) ∈ fields → Within limit v) :
      Within limit (.dict fields)
  | list {items : List (RawValue S)} (hlength : items.length ≤ limit) (h : ∀ v ∈ items, Within limit v) :
      Within limit (.list items)
  | scalar (x : RawScalar S) : Within limit (.scalar x)

private theorem truncationMarker_within (n : ℕ) : Within limit (truncationMarker n : RawValue S) := by
  refine .dict ?_
  intro key v hmem
  simp only [List.mem_cons, Prod.mk.injEq, List.not_mem_nil, or_false] at hmem
  rcases hmem with ⟨-, rfl⟩ | ⟨-, rfl⟩ | ⟨-, rfl⟩ <;> exact .scalar _

private theorem truncateItems_within {items : List (RawValue S)} (hlength : items.length ≤ limit)
    (h : ∀ v ∈ items, Within limit (truncateLargeValues limit v)) :
    Within limit (.list (truncateItems limit items)) := by
  rw [truncateItems_eq]
  refine .list (by rwa [List.length_map]) ?_
  intro v hmem
  obtain ⟨u, hu, rfl⟩ := List.mem_map.1 hmem
  exact h u hu

/-- What the truncation leaves is made of dictionaries, lists within the limit, and scalars. -/
private theorem truncate_within (v : RawValue S) : Within limit (truncateLargeValues limit v) := by
  induction v using RawValue.induct with
  | dict fields ih =>
    rw [truncateLargeValues, truncateFields_eq]
    refine .dict ?_
    intro key v hmem
    obtain ⟨⟨key', u⟩, hu, heq⟩ := List.mem_map.1 hmem
    obtain ⟨rfl, rfl⟩ := Prod.mk.inj heq
    exact ih _ u hu
  | list items ih | tuple items ih =>
    unfold truncateLargeValues
    split
    · exact truncationMarker_within _
    · next h => exact truncateItems_within (not_lt.1 h) ih
  | bytes data =>
    unfold truncateLargeValues
    split
    · exact truncationMarker_within _
    · exact .scalar _
  | array v ih =>
    unfold truncateLargeValues
    exact ih
  | scalar x =>
    unfold truncateLargeValues
    exact .scalar x

/-- A value within the limit is returned unchanged. -/
private theorem truncate_of_within (h : Within limit v) : truncateLargeValues limit v = v := by
  induction h with
  | @dict fields _ ih =>
    rw [truncateLargeValues, truncateFields_eq]
    have hsame : fields.map (fun field => (field.1, truncateLargeValues limit field.2)) = fields.map id := by
      apply List.map_congr_left
      rintro ⟨key, v⟩ hmem
      rw [ih key v hmem]
      rfl
    rw [hsame, List.map_id]
  | @list items hlength _ ih =>
    have hsame : items.map (truncateLargeValues limit) = items.map id := List.map_congr_left ih
    rw [truncateLargeValues, if_neg (not_lt.2 hlength), truncateItems_eq, hsame, List.map_id]
  | scalar x => rw [truncateLargeValues]

/-- The parts of a value within the limit are within it. -/
private theorem Within.child (h : Within limit v) {i : ℕ} (hchild : v.child? i = some u) : Within limit u := by
  cases h with
  | dict h =>
    obtain ⟨⟨key, w⟩, hfield, rfl⟩ := Option.map_eq_some_iff.1 hchild
    exact h key w (List.mem_of_getElem? hfield)
  | list hlength h => exact h u (List.mem_of_getElem? hchild)
  | scalar x => cases hchild

private theorem Within.at (h : Within limit v) {path : List ℕ} (hpath : v.at? path = some u) : Within limit u := by
  induction path generalizing v with
  | nil =>
    obtain rfl := Option.some.inj hpath
    exact h
  | cons i path ih =>
    obtain ⟨w, hchild, hrest⟩ := Option.bind_eq_some_iff.1 hpath
    exact ih (h.child hchild) hrest

/-! ### What is replaced -/

/-- The value is a sequence longer than the limit. -/
def Oversize (limit : ℕ) (v : RawValue S) : Prop := ∃ n, v.length? = some n ∧ limit < n

/-- A sequence longer than the limit is replaced by a marker with its length. -/
private theorem truncate_of_length {n : ℕ} (hlength : v.length? = some n) (hn : limit < n) :
    truncateLargeValues limit v = truncationMarker n := by
  induction v using RawValue.induct with
  | list items | tuple items | bytes data =>
    obtain rfl := Option.some.inj hlength
    rw [truncateLargeValues, if_pos hn]
  | array v ih =>
    rw [truncateLargeValues]
    exact ih hlength
  | dict fields | scalar x => cases hlength

/-- The parts of a value that is not replaced are rebuilt in their places. -/
private theorem child_truncate (h : ¬ Oversize limit v) (i : ℕ) :
    (truncateLargeValues limit v).child? i = (v.child? i).map (truncateLargeValues limit) := by
  induction v using RawValue.induct with
  | dict fields =>
    rw [truncateLargeValues, truncateFields_eq]
    unfold RawValue.child?
    rw [List.getElem?_map, Option.map_map, Option.map_map]
    rfl
  | list items | tuple items =>
    have hshort : ¬ limit < items.length := fun hn => h ⟨_, rfl, hn⟩
    rw [truncateLargeValues, if_neg hshort, truncateItems_eq]
    unfold RawValue.child?
    exact List.getElem?_map
  | bytes data =>
    have hshort : ¬ limit < data.length := fun hn => h ⟨_, rfl, hn⟩
    rw [truncateLargeValues, if_neg hshort]
    rfl
  | array v ih =>
    rw [truncateLargeValues]
    exact ih h
  | scalar x =>
    rw [truncateLargeValues]
    rfl

/-- No value above the end of the path is replaced. -/
def Exposed (limit : ℕ) : RawValue S → List ℕ → Prop
  | _, [] => True
  | v, i :: path => ¬ Oversize limit v ∧ ∀ u, v.child? i = some u → Exposed limit u path

/-- Where nothing above is replaced, the result has the value rebuilt. -/
private theorem at_truncate {path : List ℕ} (h : Exposed limit v path) :
    (truncateLargeValues limit v).at? path = (v.at? path).map (truncateLargeValues limit) := by
  induction path generalizing v with
  | nil => rfl
  | cons i path ih =>
    unfold RawValue.at?
    rw [child_truncate h.1]
    cases hchild : v.child? i with
    | none => rfl
    | some u => exact ih (h.2 u hchild)

end Truncate

/-- The truncation is bounded, replaces exactly the long sequences that it reaches, keeps the keys, leaves values within
the limit alone, and is idempotent. -/
theorem truncate_spec (limit : ℕ) (v : RawValue S) :
    (∀ path items, (truncateLargeValues limit v).at? path = some (.list items) → items.length ≤ limit) ∧
      (∀ path u n, Exposed limit v path → v.at? path = some u → u.length? = some n → limit < n →
        (truncateLargeValues limit v).at? path = some (truncationMarker n)) ∧
      (∀ path fields, Exposed limit v path → v.at? path = some (.dict fields) →
        ∃ fields', (truncateLargeValues limit v).at? path = some (.dict fields') ∧
          fields'.map Prod.fst = fields.map Prod.fst) ∧
      (Within limit v → truncateLargeValues limit v = v) ∧
      truncateLargeValues limit (truncateLargeValues limit v) = truncateLargeValues limit v := by
  refine ⟨?_, ?_, ?_, truncate_of_within, truncate_of_within (truncate_within v)⟩
  · intro path items hpath
    cases (truncate_within v).at hpath with
    | list hlength h => exact hlength
  · intro path u n hexposed hpath hlength hn
    rw [at_truncate hexposed, hpath, Option.map_some, truncate_of_length hlength hn]
  · intro path fields hexposed hpath
    refine ⟨truncateFields limit fields, ?_, ?_⟩
    · rw [at_truncate hexposed, hpath, Option.map_some, truncateLargeValues]
    · rw [truncateFields_eq, List.map_map]
      rfl

/-- `to_dict`, of what `message_to_ordereddict` returns. -/
def toDict (raw : RawValue S) (elementLimit : ℕ := 4096) : Except PyException (RawValue S) :=
  match truncateLargeValues elementLimit raw with
  | .dict fields => .ok (.dict fields)
  | _ => .error ⟨.assertionError, ""⟩

end RosMcp
