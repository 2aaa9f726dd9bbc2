import RosMcp.Lib.Scan

/-!
# Field types and the patterns that read them (`codec/message_codec.py`)

rosidl reports the type of a field as a text: `T`, `T[N]`, `sequence<T>` or `sequence<T, N>`, where `T` is a primitive
name, `string<N>`, `wstring<N>` or `pkg/Type`.  `FieldType` is this grammar and `FieldType.text` the report.

The two regular expressions of the codec are anchored and have no alternatives, so they are scanned from the left.
`\d` and `\s` are read on ASCII, as rosidl reports no other characters.

The base that the patterns accept has no angle brackets.  So they recognise the array forms over names and miss those
over bounded strings (`recognize_text`).
-/

namespace RosMcp

open Scan

/-! ### The patterns -/

/-- `[a-zA-Z0-9_/]` -/
def isBaseChar (c : Char) : Bool := c.isAlphanum || c == '_' || c == '/'

/-- `\s` -/
def isSpaceChar (c : Char) : Bool := [' ', '\t', '\n', '\r', '\x0b', '\x0c', '\x1c', '\x1d', '\x1e', '\x1f'].contains c

/-- `$`: the end of the text, or a line break that ends it. -/
def atEnd (text : List Char) : Bool := text = [] || text = ['\n']

/-- The groups of a match; a group that takes no part in it is `None`. -/
structure Groups where
  base : List Char
  bound : Option (List Char)
  deriving DecidableEq

/-- `_ARRAY_PATTERN`: `^(?P<base>[a-zA-Z0-9_/]+)\[(?P<bound>\d*)\]$` -/
def arrayPattern (text : List Char) : Option Groups := do
  let (base, rest) ← oneOrMore isBaseChar text
  let rest ← expect ['['] rest
  let tail ← expect [']'] (rest.dropWhile Char.isDigit)
  if atEnd tail then some ⟨base, some (rest.takeWhile Char.isDigit)⟩ else none

/-- `,\s*(?P<bound>\d+)` -/
def sequenceBound (text : List Char) : Option (List Char × List Char) := do
  let rest ← expect [','] text
  oneOrMore Char.isDigit (rest.dropWhile isSpaceChar)

/-- `_SEQUENCE_PATTERN`: `^sequence<(?P<base>[a-zA-Z0-9_/]+)(?:,\s*(?P<bound>\d+))?>$` -/
def sequencePattern (text : List Char) : Option Groups := do
  let rest ← expect "sequence<".toList text
  let (base, rest) ← oneOrMore isBaseChar rest
  let (bound, rest) := match sequenceBound rest with
    | some (bound, rest) => (some bound, rest)
    | none => (none, rest)
  let tail ← expect ['>'] rest
  if atEnd tail then some ⟨base, bound⟩ else none

/-- `array_match or seq_match` -/
def recognize (text : List Char) : Option Groups := (arrayPattern text).or (sequencePattern text)

/-! ### The grammar -/

/-- A name of letters, digits and underscores. -/
structure Ident where
  chars : List Char
  ne_nil : chars ≠ []
  isName : chars.all (fun c => c.isAlphanum || c == '_') = true
  deriving DecidableEq

/-- `pkg/Type` -/
structure TypeName where
  pkg : Ident
  cls : Ident
  deriving DecidableEq

/-- `T`: a primitive name (`string` and `wstring` are two of them), a bounded string, or a message type. -/
inductive BaseType
  | primitive (name : Ident)
  | boundedString (wide : Bool) (bound : ℕ)
  | message (name : TypeName)
  deriving DecidableEq

/-- The type of a field. -/
inductive FieldType
  | plain (base : BaseType)
  | array (base : BaseType) (size : ℕ)
  | sequence (base : BaseType) (bound : Option ℕ)
  deriving DecidableEq

def TypeName.text (name : TypeName) : List Char := name.pkg.chars ++ '/' :: name.cls.chars

def BaseType.text : BaseType → List Char
  | .primitive name => name.chars
  | .boundedString wide bound =>
    (if wide then "wstring" else "string").toList ++ '<' :: (Nat.toDigits 10 bound ++ ['>'])
  | .message name => name.text

/-- The text that rosidl reports. -/
def FieldType.text : FieldType → List Char
  | .plain base => base.text
  | .array base size => base.text ++ '[' :: (Nat.toDigits 10 size ++ [']'])
  | .sequence base none => "sequence<".toList ++ (base.text ++ ['>'])
  | .sequence base (some bound) =>
    "sequence<".toList ++ (base.text ++ ',' :: ' ' :: (Nat.toDigits 10 bound ++ ['>']))

theorem FieldType.text_array (base : BaseType) (size : ℕ) :
    (FieldType.array base size).text = base.text ++ '[' :: (Nat.toDigits 10 size ++ [']']) := rfl

/-- A sequence form ends in an angle bracket, behind its bound. -/
theorem FieldType.text_sequence (base : BaseType) (bound : Option ℕ) :
    (FieldType.sequence base bound).text = "sequence<".toList ++
      (base.text ++ ((bound.elim [] fun n => ',' :: ' ' :: Nat.toDigits 10 n) ++ ['>'])) := by
  cases bound <;> rfl

/-- `T` -/
def FieldType.base : FieldType → BaseType
  | .plain base | .array base _ | .sequence base _ => base

/-- `N`, in `T[N]` and `sequence<T, N>`. -/
def FieldType.bound : FieldType → Option ℕ
  | .plain _ => none
  | .array _ size => some size
  | .sequence _ bound => bound

/-- An array or sequence form. -/
def FieldType.IsArray : FieldType → Prop
  | .plain _ => False
  | .array _ _ | .sequence _ _ => True

def BaseType.IsBounded : BaseType → Prop
  | .boundedString _ _ => True
  | _ => False

instance : DecidablePred BaseType.IsBounded
  | .boundedString _ _ => isTrue trivial
  | .primitive _ | .message _ => isFalse not_false

/-! ### Names -/

/-- A nonempty text without characters outside the class of the patterns. -/
structure IsNames (text : List Char) : Prop where
  ne_nil : text ≠ []
  all : ∀ c ∈ text, isBaseChar c = true

private theorem IsNames.not_mem {text : List Char} {c : Char} (h : IsNames text)
    (hc : isBaseChar c = false) : c ∉ text := by
  intro hmem
  rw [h.all c hmem] at hc
  exact absurd hc (by decide)

/-- A text that the patterns take for names, by evaluation. -/
private theorem isNames_of_all {text : List Char} (hne : text ≠ [])
    (hall : text.all isBaseChar = true) : IsNames text :=
  ⟨hne, List.all_eq_true.mp hall⟩

private theorem isNames_sequence : IsNames "sequence".toList := isNames_of_all (by decide) (by decide)

private theorem Ident.isNames (name : Ident) : IsNames name.chars := by
  refine ⟨name.ne_nil, ?_⟩
  intro c hc
  have h := List.all_eq_true.mp name.isName c hc
  simp only [isBaseChar, Bool.or_eq_true] at h ⊢
  exact Or.inl h

private theorem TypeName.isNames (name : TypeName) : IsNames name.text := by
  refine ⟨by simp [TypeName.text], ?_⟩
  intro c hc
  rw [TypeName.text, List.mem_append, List.mem_cons] at hc
  rcases hc with hpkg | rfl | hcls
  · exact name.pkg.isNames.all c hpkg
  · decide
  · exact name.cls.isNames.all c hcls

/-- Without a bounded string, `T` is made of names. -/
private theorem BaseType.isNames {base : BaseType} (h : ¬ base.IsBounded) : IsNames base.text := by
  cases base with
  | primitive name => exact name.isNames
  | boundedString wide bound => exact absurd trivial h
  | message name => exact name.isNames

/-- A bounded string is a name up to its angle bracket. -/
theorem BaseType.text_of_isBounded {base : BaseType} (h : base.IsBounded) :
    ∃ word rest, IsNames word ∧ word ≠ "sequence".toList ∧ base.text = word ++ '<' :: rest := by
  cases base with
  | primitive name => exact absurd h not_false
  | boundedString wide bound =>
    refine ⟨_, _, ?_, ?_, rfl⟩
    · cases wide <;> exact isNames_of_all (by decide) (by decide)
    · cases wide <;> decide
  | message name => exact absurd h not_false

theorem isDigit_toDigits {n : ℕ} : ∀ c ∈ Nat.toDigits 10 n, c.isDigit = true :=
  fun _ hc => Nat.isDigit_of_mem_toDigits (by decide) (by decide) hc

private theorem isSpaceChar_of_isDigit {c : Char} (h : c.isDigit = true) : isSpaceChar c = false := by
  by_contra hspace
  have hmem : c ∈ [' ', '\t', '\n', '\r', '\x0b', '\x0c', '\x1c', '\x1d', '\x1e', '\x1f'] := by
    simpa only [isSpaceChar, List.contains_iff_mem, Bool.not_eq_false] using hspace
  have hnone : [' ', '\t', '\n', '\r', '\x0b', '\x0c', '\x1c', '\x1d', '\x1e', '\x1f'].all (!·.isDigit) = true := by
    decide
  have hc := List.all_eq_true.mp hnone c hmem
  rw [h] at hc
  exact absurd hc (by decide)

/-! ### What the patterns read -/

private theorem sequenceBound_digits (bound : ℕ) :
    sequenceBound (',' :: ' ' :: (Nat.toDigits 10 bound ++ ['>'])) = some (Nat.toDigits 10 bound, ['>']) := by
  have hspace : (' ' :: (Nat.toDigits 10 bound ++ ['>'])).dropWhile isSpaceChar = Nat.toDigits 10 bound ++ ['>'] := by
    cases hdigits : Nat.toDigits 10 bound with
    | nil => exact absurd hdigits Nat.toDigits_ne_nil
    | cons d ds =>
      have hd : d.isDigit = true := isDigit_toDigits d (by rw [hdigits]; exact List.mem_cons_self)
      have hblank : isSpaceChar ' ' = true := by decide
      simp [hblank, isSpaceChar_of_isDigit hd]
  have hscan : oneOrMore Char.isDigit (Nat.toDigits 10 bound ++ ['>']) = some (Nat.toDigits 10 bound, ['>']) :=
    oneOrMore_append Nat.toDigits_ne_nil isDigit_toDigits (by simp)
  simp [sequenceBound, hspace, hscan]

section Names

variable {word rest : List Char} (hword : IsNames word)
include hword

private theorem oneOrMore_names {c : Char} (hc : isBaseChar c = false) :
    oneOrMore isBaseChar (word ++ c :: rest) = some (word, c :: rest) := by
  apply oneOrMore_append hword.ne_nil hword.all
  intro a ha
  obtain rfl : c = a := by simpa using ha
  exact hc

private theorem arrayPattern_names : arrayPattern word = none := by
  have hscan : oneOrMore isBaseChar (word ++ []) = some (word, []) :=
    oneOrMore_append hword.ne_nil hword.all (by simp)
  rw [List.append_nil] at hscan
  simp [arrayPattern, hscan, expect]

private theorem arrayPattern_angle : arrayPattern (word ++ '<' :: rest) = none := by
  have hbracket : expect ['['] ('<' :: rest) = none := expect_singleton_ne (by decide)
  simp [arrayPattern, oneOrMore_names hword (show isBaseChar '<' = false by decide), hbracket]

private theorem arrayPattern_array (size : ℕ) :
    arrayPattern (word ++ '[' :: (Nat.toDigits 10 size ++ [']'])) = some ⟨word, some (Nat.toDigits 10 size)⟩ := by
  have htake : (Nat.toDigits 10 size ++ [']']).takeWhile Char.isDigit = Nat.toDigits 10 size := by
    rw [List.takeWhile_append_of_pos isDigit_toDigits]
    simp
  have hdrop : (Nat.toDigits 10 size ++ [']']).dropWhile Char.isDigit = [']'] := by
    rw [List.dropWhile_append_of_pos isDigit_toDigits]
    simp
  simp [arrayPattern, oneOrMore_names hword (show isBaseChar '[' = false by decide), htake, hdrop, atEnd]

private theorem sequencePattern_sequence :
    sequencePattern ("sequence<".toList ++ (word ++ ['>'])) = some ⟨word, none⟩ := by
  have hbound : sequenceBound ['>'] = none := by decide
  simp only [sequencePattern, expect_append, Option.bind_eq_bind, Option.bind_some,
    oneOrMore_names hword (show isBaseChar '>' = false by decide), hbound, expect_singleton_self]
  rfl

private theorem sequencePattern_bounded (bound : ℕ) :
    sequencePattern ("sequence<".toList ++ (word ++ ',' :: ' ' :: (Nat.toDigits 10 bound ++ ['>']))) =
      some ⟨word, some (Nat.toDigits 10 bound)⟩ := by
  have hcomma : oneOrMore isBaseChar (word ++ ',' :: ' ' :: (Nat.toDigits 10 bound ++ ['>'])) =
      some (word, ',' :: ' ' :: (Nat.toDigits 10 bound ++ ['>'])) := oneOrMore_names hword (by decide)
  rw [sequencePattern, expect_append]
  simp only [Option.bind_eq_bind, Option.bind_some, hcomma]
  rw [sequenceBound_digits]
  rfl

private theorem sequencePattern_sequence_angle : sequencePattern
    ("sequence<".toList ++ (word ++ '<' :: rest)) = none := by
  have hbound : sequenceBound ('<' :: rest) = none := by
    simp [sequenceBound, expect]
  have hclose : expect ['>'] ('<' :: rest) = none := expect_singleton_ne (by decide)
  simp only [sequencePattern, expect_append, Option.bind_eq_bind, Option.bind_some,
    oneOrMore_names hword (show isBaseChar '<' = false by decide), hbound, hclose, Option.bind_none]

/-- Before its first angle bracket, a match of the sequence pattern reads `sequence`. -/
private theorem sequencePattern_angle (hne : word ≠ "sequence".toList) : sequencePattern
    (word ++ '<' :: rest) = none := by
  have hprefix : expect "sequence<".toList (word ++ '<' :: rest) = none := by
    rw [Option.eq_none_iff_forall_ne_some]
    intro tail h
    rw [expect_eq_some_iff] at h
    have hangle : isBaseChar '<' = false := by decide
    have hscan : oneOrMore isBaseChar (word ++ '<' :: rest) = some (word, '<' :: rest) := oneOrMore_names hword hangle
    have hscan' : oneOrMore isBaseChar ("sequence".toList ++ '<' :: tail) = some ("sequence".toList, '<' :: tail) :=
      oneOrMore_names isNames_sequence hangle
    have htext : word ++ '<' :: rest = "sequence".toList ++ '<' :: tail := h
    rw [htext, hscan'] at hscan
    simp at hscan
    exact hne hscan.1.symm
  rw [sequencePattern, hprefix]
  rfl

end Names

private theorem sequencePattern_of_not_mem {text : List Char} (h : '<' ∉ text) : sequencePattern text = none := by
  have hprefix : expect "sequence<".toList text = none := expect_eq_none (a := '<') (by decide) h
  rw [sequencePattern, hprefix]
  rfl

private theorem arrayPattern_sequence (text : List Char) : arrayPattern ("sequence<".toList ++ text) = none := by
  have hangle : arrayPattern ("sequence".toList ++ '<' :: text) = none := arrayPattern_angle isNames_sequence
  exact hangle

/-- The patterns recognise an array form over names, with its size. -/
private theorem recognize_array {base : BaseType} (hbase : ¬ base.IsBounded) (size : ℕ) :
    recognize (FieldType.array base size).text = some ⟨base.text, some (Nat.toDigits 10 size)⟩ := by
  show (arrayPattern (base.text ++ _)).or _ = _
  rw [arrayPattern_array (BaseType.isNames hbase)]
  rfl

/-- The patterns recognise a sequence form over names, with its bound. -/
private theorem recognize_sequence {base : BaseType} (hbase : ¬ base.IsBounded) (bound : Option ℕ) :
    recognize (FieldType.sequence base bound).text = some ⟨base.text, bound.map (Nat.toDigits 10)⟩ := by
  cases bound with
  | none =>
    show (arrayPattern ("sequence<".toList ++ _)).or (sequencePattern ("sequence<".toList ++ (base.text ++ _))) = _
    rw [arrayPattern_sequence, sequencePattern_sequence (BaseType.isNames hbase)]
    rfl
  | some bound =>
    show (arrayPattern ("sequence<".toList ++ _)).or (sequencePattern ("sequence<".toList ++ (base.text ++ _))) = _
    rw [arrayPattern_sequence, sequencePattern_bounded (BaseType.isNames hbase)]
    rfl

theorem recognize_names {t : FieldType} (ht : t.IsArray) (hbase : ¬ t.base.IsBounded) :
    recognize t.text = some ⟨t.base.text, t.bound.map (Nat.toDigits 10)⟩ := by
  cases t with
  | plain base => exact absurd ht not_false
  | array base size => exact recognize_array hbase size
  | sequence base bound => exact recognize_sequence hbase bound

/-- A plain type is not recognised. -/
theorem recognize_plain (base : BaseType) : recognize (FieldType.plain base).text = none := by
  show (arrayPattern base.text).or (sequencePattern base.text) = none
  by_cases hbase : base.IsBounded
  · obtain ⟨word, rest, hword, hne, htext⟩ := BaseType.text_of_isBounded hbase
    rw [htext, arrayPattern_angle hword, sequencePattern_angle hword hne]
    rfl
  · have hword := BaseType.isNames hbase
    rw [arrayPattern_names hword, sequencePattern_of_not_mem (hword.not_mem (by decide))]
    rfl

/-- An array or sequence form over a bounded string is not recognised either. -/
theorem recognize_bounded {t : FieldType} (hbase : t.base.IsBounded) : recognize t.text = none := by
  obtain ⟨word, rest, hword, hne, htext⟩ := BaseType.text_of_isBounded hbase
  cases t with
  | plain base => exact recognize_plain base
  | array base size =>
    have hfield : (FieldType.array base size).text =
        word ++ '<' :: (rest ++ '[' :: (Nat.toDigits 10 size ++ [']'])) := by
      rw [← List.cons_append, ← List.append_assoc, ← htext]
      rfl
    rw [hfield, recognize, arrayPattern_angle hword, sequencePattern_angle hword hne]
    rfl
  | sequence base bound =>
    obtain ⟨tail, hfield⟩ : ∃ tail, (FieldType.sequence base bound).text =
        "sequence<".toList ++ (word ++ '<' :: (rest ++ tail)) := by
      simp only [← List.cons_append, ← List.append_assoc word, ← htext]
      cases bound <;> exact ⟨_, rfl⟩
    rw [hfield, recognize, arrayPattern_sequence, sequencePattern_sequence_angle hword]
    rfl

example : recognize "sequence<geometry_msgs/Point32, 4>".toList =
    some ⟨"geometry_msgs/Point32".toList, some ['4']⟩ := by decide +kernel

example : recognize "string<10>[5]".toList = none := by decide +kernel

end RosMcp
