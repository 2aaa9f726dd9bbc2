import RosMcp.Lib.JsonText
import RosMcp.Lib.PyFloat
import RosMcp.Validation.SchemaCheck

/-!
# JSON documents (`json.dumps` and RFC 8259)

`dumps` is `json.dumps` with its defaults: ASCII only, `", "` and `": "` between the items, and the names `NaN`,
`Infinity` and `-Infinity` for the floats that JSON has no number for.  `decode` reads the documents of RFC 8259, which
have no such names.  So the text of a value is read back as the value when its floats are finite, and is no document
otherwise (`decode_text`).

The finite floats are the elements of `α`; their decimal texts, `float.__repr__` and `float`, are a parameter.
-/

namespace RosMcp

open JsonText

variable {α : Type}

/-! ### Writing -/

/-- `float.__repr__` as a number token, and `float` of one. -/
structure FloatText (α : Type) where
  repr : α → Number
  float : Number → α

/-- The text of a float has a fraction or an exponent, and `float(repr(x)) == x`. -/
structure FloatText.RoundTrips (T : FloatText α) : Prop where
  isInt_repr : ∀ x, (T.repr x).isInt = false
  float_repr : ∀ x, T.float (T.repr x) = x

def floatText (T : FloatText α) : PyFloat α → List Char
  | .fin x => (T.repr x).text
  | .posInf => ['I', 'n', 'f', 'i', 'n', 'i', 't', 'y']
  | .negInf => ['-', 'I', 'n', 'f', 'i', 'n', 'i', 't', 'y']
  | .nan => ['N', 'a', 'N']

/-- What stands before an item of a container. -/
def itemSeparator (first : Bool) : List Char := if first then [] else [',', ' ']

mutual

def Json.text (T : FloatText α) : Json (PyFloat α) → List Char
  | .null => ['n', 'u', 'l', 'l']
  | .bool true => ['t', 'r', 'u', 'e']
  | .bool false => ['f', 'a', 'l', 's', 'e']
  | .int n => (intNumber n).text
  | .float x => floatText T x
  | .str s => encodeBasestringAscii s.toList
  | .arr items => '[' :: Json.itemsText T true items
  | .obj fields => '{' :: Json.fieldsText T true fields

/-- `_iterencode_list` after the opening bracket. -/
def Json.itemsText (T : FloatText α) (first : Bool) : List (Json (PyFloat α)) → List Char
  | [] => [']']
  | value :: rest => itemSeparator first ++ (value.text T ++ Json.itemsText T false rest)

/-- `_iterencode_dict` after the opening brace. -/
def Json.fieldsText (T : FloatText α) (first : Bool) : List (String × Json (PyFloat α)) → List Char
  | [] => ['}']
  | (key, value) :: rest =>
    itemSeparator first ++ (encodeBasestringAscii key.toList ++ ([':', ' '] ++ (value.text T ++
      Json.fieldsText T false rest)))

end

/-- `json.dumps`; an integer that is too long to be printed raises as in an f-string. -/
def dumps (T : FloatText α) (value : Json (PyFloat α)) : Except PyException String :=
  (pyRepr value).map fun _ => String.ofList (value.text T)

/-! ### Reading -/

/-- `ws` -/
def isWs (c : Char) : Bool := c = ' ' || c = '\t' || c = '\n' || c = '\r'

def skipWs (s : List Char) : List Char := s.dropWhile isWs

/-- The rest of a text that begins with a word. -/
def takeWord : List Char → List Char → Option (List Char)
  | [], s => some s
  | w :: word, c :: s => if c = w then takeWord word s else none
  | _ :: _, [] => none

/-- The value of a number token: an integer, or a float when the token has a fraction or an exponent. -/
def numberValue (T : FloatText α) (n : Number) : Json α := if n.isInt then .int n.toInt else .float (T.float n)

/-- Up to the next item of a container: whether there is one, and the rest of the text from there. -/
def nextItem (close : Char) (first : Bool) (s : List Char) : Option (Bool × List Char) :=
  match skipWs s with
  | [] => none
  | c :: s =>
    if c = close then some (false, s)
    else if first then some (true, c :: s)
    else if c = ',' then some (true, skipWs s)
    else none

/-- The key of a member, with the name separator. -/
def takeKey : List Char → Option (String × List Char)
  | '"' :: s => (takeString s).bind fun r =>
    match skipWs r.2 with
    | ':' :: s => some (String.ofList r.1, skipWs s)
    | _ => none
  | _ => none

mutual

/-- A value at the head of a text, and the rest; `fuel` bounds the depth of the recursion. -/
def parseValue (T : FloatText α) : ℕ → List Char → Option (Json α × List Char)
  | 0, _ => none
  | _ + 1, [] => none
  | fuel + 1, c :: s =>
    if c = '"' then (takeString s).map fun r => (.str (String.ofList r.1), r.2)
    else if c = '[' then (parseItems T fuel true s).map fun r => (.arr r.1, r.2)
    else if c = '{' then (parseFields T fuel true s).map fun r => (.obj r.1, r.2)
    else if c = 'n' then (takeWord ['u', 'l', 'l'] s).map fun s => (.null, s)
    else if c = 't' then (takeWord ['r', 'u', 'e'] s).map fun s => (.bool true, s)
    else if c = 'f' then (takeWord ['a', 'l', 's', 'e'] s).map fun s => (.bool false, s)
    else (takeNumber (c :: s)).map fun r => (numberValue T r.1, r.2)

def parseItems (T : FloatText α) : ℕ → Bool → List Char → Option (List (Json α) × List Char)
  | 0, _, _ => none
  | fuel + 1, first, s =>
    (nextItem ']' first s).bind fun next =>
      if next.1 then
        (parseValue T fuel next.2).bind fun r =>
          (parseItems T fuel false r.2).map fun rs => (r.1 :: rs.1, rs.2)
      else some ([], next.2)

def parseFields (T : FloatText α) : ℕ → Bool → List Char → Option (List (String × Json α) × List Char)
  | 0, _, _ => none
  | fuel + 1, first, s =>
    (nextItem '}' first s).bind fun next =>
      if next.1 then
        (takeKey next.2).bind fun key =>
          (parseValue T fuel key.2).bind fun r =>
            (parseFields T fuel false r.2).map fun rs => ((key.1, r.1) :: rs.1, rs.2)
      else some ([], next.2)

end

/-- A JSON document: one value, with white space around it. -/
def decode (T : FloatText α) (text : String) : Option (Json α) :=
  let s := skipWs text.toList
  (parseValue T (2 * s.length + 1) s).bind fun r => if skipWs r.2 = [] then some r.1 else none

/-! ### What is read back -/

mutual

/-- What a document says of a value: nothing when a float is not finite. -/
def Json.reread (T : FloatText α) : Json (PyFloat α) → Option (Json α)
  | .null => some .null
  | .bool b => some (.bool b)
  | .int n => some (.int n)
  | .float (.fin x) => some (numberValue T (T.repr x))
  | .float .posInf => none
  | .float .negInf => none
  | .float .nan => none
  | .str s => some (.str s)
  | .arr items => (Json.rereadItems T items).map .arr
  | .obj fields => (Json.rereadFields T fields).map .obj

def Json.rereadItems (T : FloatText α) : List (Json (PyFloat α)) → Option (List (Json α))
  | [] => some []
  | value :: rest => (value.reread T).bind fun d => (Json.rereadItems T rest).map fun ds => d :: ds

def Json.rereadFields (T : FloatText α) : List (String × Json (PyFloat α)) → Option (List (String × Json α))
  | [] => some []
  | (key, value) :: rest =>
    (value.reread T).bind fun d => (Json.rereadFields T rest).map fun ds => (key, d) :: ds

end

mutual

/-- The depth of the recursion that reads the value. -/
def Json.size : Json (PyFloat α) → ℕ
  | .arr items => 1 + Json.itemsSize items
  | .obj fields => 1 + Json.fieldsSize fields
  | _ => 1

def Json.itemsSize : List (Json (PyFloat α)) → ℕ
  | [] => 1
  | value :: rest => 1 + (value.size + Json.itemsSize rest)

def Json.fieldsSize : List (String × Json (PyFloat α)) → ℕ
  | [] => 1
  | (_, value) :: rest => 1 + (value.size + Json.fieldsSize rest)

end

/-- A character with which a value can begin. -/
structure Opens (c : Char) : Prop where
  notWs : isWs c = false
  notComma : c ≠ ','
  notBracket : c ≠ ']'

private theorem opens_digitChar (d : Fin 10) : Opens (digitChar d) := by
  revert d
  have h : ∀ d, isWs (digitChar d) = false ∧ digitChar d ≠ ',' ∧ digitChar d ≠ ']' := by decide
  exact fun d => ⟨(h d).1, (h d).2.1, (h d).2.2⟩

private theorem opens_number (n : Number) : ∃ c s, n.text = c :: s ∧ Opens c := by
  obtain ⟨c, s, htext, hc⟩ := n.text_eq_cons
  refine ⟨c, s, htext, ?_⟩
  rcases hc with rfl | ⟨d, rfl⟩
  · constructor <;> decide
  · exact opens_digitChar d

/-- The text of a value begins with a character that opens it. -/
private theorem text_eq_cons (T : FloatText α) (value : Json (PyFloat α)) : ∃ c s, value.text T = c :: s ∧ Opens c := by
  cases value with
  | int n => exact opens_number (intNumber n)
  | float x =>
    cases x with
    | fin x => exact opens_number (T.repr x)
    | posInf | negInf | nan => exact ⟨_, _, rfl, by constructor <;> decide⟩
  | bool b => cases b <;> exact ⟨_, _, rfl, by constructor <;> decide⟩
  | null | str s | arr items | obj fields => exact ⟨_, _, rfl, by constructor <;> decide⟩

private theorem skipWs_cons {c : Char} (hc : isWs c = false) (s : List Char) : skipWs (c :: s) = c :: s := by
  simp [skipWs, hc]

private theorem skipWs_space (s : List Char) : skipWs (' ' :: s) = skipWs s := rfl

private theorem nextItem_close (close : Char) (hclose : isWs close = false) (first : Bool) (s : List Char) :
    nextItem close first (close :: s) = some (false, s) := by
  simp [nextItem, skipWs_cons hclose]

private theorem nextItem_item (close : Char) {c : Char} (hclose : close ≠ ',') (hc : Opens c) (hne : c ≠ close)
    (first : Bool)
    (s : List Char) : nextItem close first (itemSeparator first ++ c :: s) = some (true, c :: s) := by
  cases first with
  | true => simp [nextItem, itemSeparator, skipWs_cons hc.notWs, hne]
  | false =>
    have hcomma : isWs ',' = false := by decide
    have hspace : skipWs (' ' :: c :: s) = c :: s := by rw [skipWs_space, skipWs_cons hc.notWs]
    simp [nextItem, itemSeparator, skipWs_cons hcomma, hspace, hclose.symm]

private theorem takeKey_encode {c : Char} (hc : Opens c) (key : String) (s : List Char) :
    takeKey (encodeBasestringAscii key.toList ++ ([':', ' '] ++ c :: s)) = some (key, c :: s) := by
  have hspace : skipWs (' ' :: c :: s) = c :: s := by rw [skipWs_space, skipWs_cons hc.notWs]
  have hcolon : skipWs (':' :: ' ' :: c :: s) = ':' :: ' ' :: c :: s := skipWs_cons (by decide) _
  simp [takeKey, encodeBasestringAscii, takeString_encode, hcolon, hspace]

/-- What follows an item of a container. -/
private theorem itemsText_numberEnds (T : FloatText α) (items : List (Json (PyFloat α))) (s : List Char) :
    NumberEnds (Json.itemsText T false items ++ s) := by
  cases items with
  | nil =>
    rintro c ⟨⟩
    decide
  | cons value rest =>
    rintro c ⟨⟩
    decide

private theorem fieldsText_numberEnds (T : FloatText α) (fields : List (String × Json (PyFloat α))) (s : List Char) :
    NumberEnds (Json.fieldsText T false fields ++ s) := by
  cases fields with
  | nil =>
    rintro c ⟨⟩
    decide
  | cons field rest =>
    rintro c ⟨⟩
    decide

/-- A text that begins as no string, container or word is read as a number. -/
private theorem parseValue_number (T : FloatText α) (fuel : ℕ) {c : Char} (hc : c ∉ ['"', '[', '{', 'n', 't', 'f'])
    (s : List Char) :
    parseValue T (fuel + 1) (c :: s) = (takeNumber (c :: s)).map fun r => (numberValue T r.1, r.2) := by
  simp only [List.mem_cons, List.not_mem_nil, or_false, not_or] at hc
  obtain ⟨hquote, hbracket, hbrace, hn, ht, hf⟩ := hc
  unfold parseValue
  rw [if_neg hquote, if_neg hbracket, if_neg hbrace, if_neg hn, if_neg ht, if_neg hf]

private theorem parseValue_numberText (T : FloatText α) (fuel : ℕ) (n : Number) {s : List Char} (hs : NumberEnds s) :
    parseValue T (fuel + 1) (n.text ++ s) = some (numberValue T n, s) := by
  obtain ⟨c, rest, htext, hc⟩ := n.text_eq_cons
  have hother : c ∉ ['"', '[', '{', 'n', 't', 'f'] := by
    rcases hc with rfl | ⟨d, rfl⟩
    · decide
    · have hdigit : ∀ d, digitChar d ∉ ['"', '[', '{', 'n', 't', 'f'] := by decide
      exact hdigit d
  have htake := takeNumber_text n hs
  rw [htext, List.cons_append] at htake ⊢
  rw [parseValue_number T fuel hother, htake]
  rfl

private theorem numberValue_intNumber (T : FloatText α) (n : ℤ) : numberValue T (intNumber n) = .int n := by
  have hvalue : (intNumber n).toInt = n := by
    unfold Number.toInt intNumber
    dsimp only
    split
    · next h =>
      have hneg : n < 0 := of_decide_eq_true h
      omega
    · next h =>
      have hnonneg : ¬ n < 0 := by simpa using h
      omega
  have hint : (intNumber n).isInt = true := rfl
  unfold numberValue
  rw [if_pos hint, hvalue]

/-- The names of the floats that are no numbers are no values. -/
private theorem parseValue_floatText (T : FloatText α) (fuel : ℕ) (x : PyFloat α) {s : List Char} (hs : NumberEnds s) :
    parseValue T (fuel + 1) (floatText T x ++ s) = ((Json.float x).reread T).map fun d => (d, s) := by
  have hname : ∀ c s, c ∉ ['"', '[', '{', 'n', 't', 'f'] → NoDigitHead (takeMinus (c :: s)).2 →
      parseValue T (fuel + 1) (c :: s) = none := by
    intro c s hc hhead
    rw [parseValue_number T fuel hc, takeNumber_eq_none hhead]
    rfl
  cases x with
  | fin x => exact parseValue_numberText T fuel (T.repr x) hs
  | posInf => exact hname 'I' _ (by decide) (noDigitHead_cons (by decide))
  | negInf => exact hname '-' _ (by decide) (noDigitHead_cons (by decide))
  | nan => exact hname 'N' _ (by decide) (noDigitHead_cons (by decide))

mutual

/-- The decoder reads the text of a value as the value says. -/
theorem parseValue_text (T : FloatText α) (value : Json (PyFloat α)) (fuel : ℕ) (hfuel : value.size ≤ fuel)
    {s : List Char} (hs : NumberEnds s) :
    parseValue T fuel (value.text T ++ s) = (value.reread T).map fun d => (d, s) := by
  cases fuel with
  | zero => cases value <;> simp [Json.size] at hfuel
  | succ fuel =>
    cases value with
    | null => simp [parseValue, Json.text, Json.reread, takeWord]
    | bool b => cases b <;> simp [parseValue, Json.text, Json.reread, takeWord]
    | int n =>
      have hnumber := parseValue_numberText T fuel (intNumber n) hs
      rw [numberValue_intNumber] at hnumber
      exact hnumber
    | float x => exact parseValue_floatText T fuel x hs
    | str text =>
      simp [parseValue, Json.text, Json.reread, encodeBasestringAscii, takeString_encode, String.ofList_toList]
    | arr items =>
      have hitems := parseItems_text T true items fuel (by simp only [Json.size] at hfuel; omega) s
      simp [parseValue, Json.text, Json.reread, hitems, Function.comp_def]
    | obj fields =>
      have hfields := parseFields_text T true fields fuel (by simp only [Json.size] at hfuel; omega) s
      simp [parseValue, Json.text, Json.reread, hfields, Function.comp_def]

theorem parseItems_text (T : FloatText α) (first : Bool) (items : List (Json (PyFloat α))) (fuel : ℕ)
    (hfuel : Json.itemsSize items ≤ fuel) (s : List Char) :
    parseItems T fuel first (Json.itemsText T first items ++ s) =
      (Json.rereadItems T items).map fun ds => (ds, s) := by
  cases fuel with
  | zero => cases items <;> simp [Json.itemsSize] at hfuel
  | succ fuel =>
    cases items with
    | nil =>
      have hclose := nextItem_close ']' (by decide) first s
      simp [parseItems, Json.itemsText, Json.rereadItems, hclose]
    | cons value rest =>
      simp only [Json.itemsSize] at hfuel
      have hvalue := parseValue_text T value fuel (by omega) (itemsText_numberEnds T rest s)
      have hrest := parseItems_text T false rest fuel (by omega) s
      obtain ⟨c, text, htext, hc⟩ := text_eq_cons T value
      have hnext := nextItem_item ']' (by decide) hc hc.notBracket first
        (text ++ (Json.itemsText T false rest ++ s))
      rw [htext] at hvalue
      simp only [List.cons_append] at hvalue
      simp only [Json.itemsText, htext, List.append_assoc, List.cons_append, parseItems, hnext, Option.bind_some,
        if_true, hvalue]
      cases hd : value.reread T with
      | none => simp [Json.rereadItems, hd]
      | some d => simp [Json.rereadItems, hd, hrest, Function.comp_def]

theorem parseFields_text (T : FloatText α) (first : Bool) (fields : List (String × Json (PyFloat α))) (fuel : ℕ)
    (hfuel : Json.fieldsSize fields ≤ fuel) (s : List Char) :
    parseFields T fuel first (Json.fieldsText T first fields ++ s) =
      (Json.rereadFields T fields).map fun ds => (ds, s) := by
  cases fuel with
  | zero => cases fields <;> simp [Json.fieldsSize] at hfuel
  | succ fuel =>
    cases fields with
    | nil =>
      have hclose := nextItem_close '}' (by decide) first s
      simp [parseFields, Json.fieldsText, Json.rereadFields, hclose]
    | cons field rest =>
      obtain ⟨key, value⟩ := field
      simp only [Json.fieldsSize] at hfuel
      have hvalue := parseValue_text T value fuel (by omega) (fieldsText_numberEnds T rest s)
      have hrest := parseFields_text T false rest fuel (by omega) s
      obtain ⟨c, text, htext, hc⟩ := text_eq_cons T value
      have hkey := takeKey_encode hc key (text ++ (Json.fieldsText T false rest ++ s))
      have hquote : Opens '"' := by constructor <;> decide
      have hnext := nextItem_item '}' (by decide) hquote (by decide) first
        (key.toList.flatMap escapeChar ++ ['"'] ++ ([':', ' '] ++ c :: (text ++ (Json.fieldsText T false rest ++ s))))
      rw [htext] at hvalue
      simp only [List.cons_append] at hvalue
      simp only [encodeBasestringAscii, List.cons_append] at hkey
      simp only [Json.fieldsText, htext, encodeBasestringAscii, List.append_assoc, List.cons_append, List.nil_append,
        parseFields] at hnext hkey ⊢
      simp only [hnext, Option.bind_some, if_true, hkey, hvalue]
      cases hd : value.reread T with
      | none => simp [Json.rereadFields, hd]
      | some d => simp [Json.rereadFields, hd, hrest, Function.comp_def]

end

/-! ### Whole documents -/

mutual

/-- The text of a value is long enough for the recursion that reads it. -/
theorem size_le_text (T : FloatText α) (value : Json (PyFloat α)) : value.size + 1 ≤ 2 * (value.text T).length := by
  have hpos : 1 ≤ (value.text T).length := by
    obtain ⟨c, s, htext, -⟩ := text_eq_cons T value
    simp [htext]
  cases value with
  | arr items =>
    have hitems := itemsSize_le_text T true items
    simp only [Json.size, Json.text, List.length_cons]
    omega
  | obj fields =>
    have hfields := fieldsSize_le_text T true fields
    simp only [Json.size, Json.text, List.length_cons]
    omega
  | null | bool b | int n | float x | str s =>
    simp only [Json.size]
    omega

theorem itemsSize_le_text (T : FloatText α) (first : Bool) (items : List (Json (PyFloat α))) :
    Json.itemsSize items ≤ 2 * (Json.itemsText T first items).length := by
  cases items with
  | nil => simp [Json.itemsSize, Json.itemsText]
  | cons value rest =>
    have hvalue := size_le_text T value
    have hrest := itemsSize_le_text T false rest
    simp only [Json.itemsSize, Json.itemsText, List.length_append]
    omega

theorem fieldsSize_le_text (T : FloatText α) (first : Bool) (fields : List (String × Json (PyFloat α))) :
    Json.fieldsSize fields ≤ 2 * (Json.fieldsText T first fields).length := by
  cases fields with
  | nil => simp [Json.fieldsSize, Json.fieldsText]
  | cons field rest =>
    obtain ⟨key, value⟩ := field
    have hvalue := size_le_text T value
    have hrest := fieldsSize_le_text T false rest
    simp only [Json.fieldsSize, Json.fieldsText, List.length_append]
    omega

end

/-- A written value is a document exactly when what it says can be read. -/
theorem decode_text (T : FloatText α) (value : Json (PyFloat α)) :
    decode T (String.ofList (value.text T)) = value.reread T := by
  obtain ⟨c, text, htext, hc⟩ := text_eq_cons T value
  have hskip : skipWs (value.text T) = value.text T := by rw [htext, skipWs_cons hc.notWs]
  have hsize : value.size ≤ 2 * (value.text T).length + 1 := by
    have := size_le_text T value
    omega
  have hends : NumberEnds [] := by
    rintro c ⟨⟩
  have hparse := parseValue_text T value _ hsize hends
  rw [List.append_nil] at hparse
  unfold decode
  simp only [String.toList_ofList, hskip, hparse]
  cases value.reread T with
  | none => rfl
  | some d => rfl

/-! ### ASCII -/

private theorem floatText_printable (T : FloatText α) (x : PyFloat α) : ∀ c ∈ floatText T x, Printable c := by
  cases x with
  | fin x => exact (T.repr x).text_printable
  | posInf | negInf | nan => exact printable_of_all rfl

mutual

/-- `json.dumps` writes printable ASCII characters only. -/
theorem Json.text_printable (T : FloatText α) (value : Json (PyFloat α)) : ∀ c ∈ value.text T, Printable c := by
  intro c hc
  cases value with
  | null =>
    have hword : ∀ c ∈ ['n', 'u', 'l', 'l'], Printable c := printable_of_all rfl
    exact hword c hc
  | bool b =>
    have hwords : ∀ c ∈ ['t', 'r', 'u', 'e'] ++ ['f', 'a', 'l', 's', 'e'], Printable c := printable_of_all rfl
    cases b with
    | true => exact hwords c (List.mem_append_left _ hc)
    | false => exact hwords c (List.mem_append_right _ hc)
  | int n => exact (intNumber n).text_printable c hc
  | float x => exact floatText_printable T x c hc
  | str s => exact encodeBasestringAscii_printable s.toList c hc
  | arr items =>
    rcases List.mem_cons.1 hc with rfl | hc
    · decide
    · exact Json.itemsText_printable T true items c hc
  | obj fields =>
    rcases List.mem_cons.1 hc with rfl | hc
    · decide
    · exact Json.fieldsText_printable T true fields c hc

theorem Json.itemsText_printable (T : FloatText α) (first : Bool) (items : List (Json (PyFloat α))) :
    ∀ c ∈ Json.itemsText T first items, Printable c := by
  intro c hc
  cases items with
  | nil =>
    obtain rfl := List.mem_singleton.1 hc
    decide
  | cons value rest =>
    rcases List.mem_append.1 hc with hc | hc
    · cases first <;> simp [itemSeparator] at hc
      rcases hc with rfl | rfl <;> decide
    rcases List.mem_append.1 hc with hc | hc
    · exact Json.text_printable T value c hc
    · exact Json.itemsText_printable T false rest c hc

theorem Json.fieldsText_printable (T : FloatText α) (first : Bool) (fields : List (String × Json (PyFloat α))) :
    ∀ c ∈ Json.fieldsText T first fields, Printable c := by
  intro c hc
  cases fields with
  | nil =>
    obtain rfl := List.mem_singleton.1 hc
    decide
  | cons field rest =>
    obtain ⟨key, value⟩ := field
    rcases List.mem_append.1 hc with hc | hc
    · cases first <;> simp [itemSeparator] at hc
      rcases hc with rfl | rfl <;> decide
    rcases List.mem_append.1 hc with hc | hc
    · exact encodeBasestringAscii_printable key.toList c hc
    rcases List.mem_append.1 hc with hc | hc
    · have hcolon : ∀ c ∈ [':', ' '], Printable c := printable_of_all rfl
      exact hcolon c hc
    rcases List.mem_append.1 hc with hc | hc
    · exact Json.text_printable T value c hc
    · exact Json.fieldsText_printable T false rest c hc

end

end RosMcp
