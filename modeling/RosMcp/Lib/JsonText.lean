import Mathlib.Data.Nat.Digits.Lemmas

/-!
# The lexical level of JSON texts

Numbers and strings of RFC 8259 as texts, and the scanners that read them back.  A `Number` is a number token with its
fraction and its exponent as digits; `takeNumber` reads exactly the token off a text that does not go on with it
(`takeNumber_text`).  `encodeBasestringAscii` is the ASCII encoding of Python's `json` module, which writes every
character outside `' '..'~'` as escaped UTF-16 code units, and `takeString` reads it back (`takeString_encode`).
-/

namespace JsonText

/-! ### Digits -/

def digitChar (d : Fin 10) : Char := Char.ofNat (48 + d)

/-- `DIGIT` -/
def digitValue (c : Char) : Option (Fin 10) :=
  if h : 48 ≤ c.toNat ∧ c.toNat < 58 then some ⟨c.toNat - 48, by omega⟩ else none

/-- The digits at the head of a text, and the rest. -/
def takeDigits : List Char → List (Fin 10) × List Char
  | [] => ([], [])
  | c :: s =>
    match digitValue c with
    | some d => (d :: (takeDigits s).1, (takeDigits s).2)
    | none => ([], c :: s)

/-- The text does not begin with a digit. -/
def NoDigitHead (s : List Char) : Prop := ∀ c ∈ s.head?, digitValue c = none

@[simp] theorem digitValue_digitChar (d : Fin 10) : digitValue (digitChar d) = some d := by
  revert d
  decide

theorem takeDigits_append (ds : List (Fin 10)) {s : List Char} (hs : NoDigitHead s) :
    takeDigits (ds.map digitChar ++ s) = (ds, s) := by
  induction ds with
  | nil =>
    cases s with
    | nil => rfl
    | cons c s =>
      have hc : digitValue c = none := hs c rfl
      simp [takeDigits, hc]
  | cons d ds ih => simp [takeDigits, ih]

/-- The decimal digits of a number, without leading zeros. -/
def natDigits (n : ℕ) : List (Fin 10) := if n = 0 then [0] else (Nat.digits 10 n).reverse.map (Fin.ofNat 10)

/-- The number that the digits denote. -/
def digitsValue (ds : List (Fin 10)) : ℕ := Nat.ofDigits 10 (ds.reverse.map Fin.val)

/-- `int`: no digits after a leading zero. -/
def validInt : List (Fin 10) → Bool
  | [] => false
  | [_] => true
  | d :: _ => d ≠ 0

theorem digitsValue_natDigits (n : ℕ) : digitsValue (natDigits n) = n := by
  unfold natDigits digitsValue
  split
  · next h =>
    subst h
    rfl
  · have hdigits : (Nat.digits 10 n).map (Fin.val ∘ Fin.ofNat 10) = Nat.digits 10 n := by
      refine (List.map_congr_left ?_).trans (List.map_id _)
      intro d hd
      exact Nat.mod_eq_of_lt (Nat.digits_lt_base (by norm_num) hd)
    rw [← List.map_reverse, List.reverse_reverse, List.map_map, hdigits, Nat.ofDigits_digits]

theorem validInt_natDigits (n : ℕ) : validInt (natDigits n) = true := by
  unfold natDigits
  split
  · rfl
  · next h =>
    have hne : Nat.digits 10 n ≠ [] := Nat.digits_ne_nil_iff_ne_zero.2 h
    obtain ⟨init, last, hsplit⟩ := (List.eq_nil_or_concat (Nat.digits 10 n)).resolve_left hne
    rw [List.concat_eq_append] at hsplit
    have hlast : last ≠ 0 := by
      have hgetLast := Nat.getLast_digit_ne_zero 10 h
      simpa only [hsplit, List.getLast_append_singleton] using hgetLast
    have hlt : last < 10 := Nat.digits_lt_base (by norm_num) (show last ∈ Nat.digits 10 n by simp [hsplit])
    have hdigit : Fin.ofNat 10 last ≠ 0 := by
      intro hzero
      have hval : last % 10 = 0 := congrArg Fin.val hzero
      omega
    rw [hsplit, List.reverse_append, List.map_append]
    cases init.reverse with
    | nil => rfl
    | cons d ds => exact decide_eq_true hdigit

/-! ### Numbers -/

/-- `1*DIGIT` -/
abbrev Digits := { ds : List (Fin 10) // ds ≠ [] }

inductive ExpSign
  | none | plus | minus
  deriving DecidableEq, Repr

/-- A number token: `[ minus ] int [ frac ] [ exp ]`. -/
structure Number where
  negative : Bool
  int : ℕ
  frac : Option Digits
  exp : Option (ExpSign × Digits)

/-- The token has neither a fraction nor an exponent. -/
def Number.isInt (n : Number) : Bool := n.frac.isNone && n.exp.isNone

/-- The integer that a token without fraction and exponent denotes. -/
def Number.toInt (n : Number) : ℤ := if n.negative then -n.int else n.int

def Digits.text (ds : Digits) : List Char := ds.1.map digitChar

def natText (n : ℕ) : List Char := (natDigits n).map digitChar

def signText (negative : Bool) : List Char := if negative then ['-'] else []

def fracText : Option Digits → List Char
  | none => []
  | some ds => '.' :: ds.text

def ExpSign.text : ExpSign → List Char
  | .none => []
  | .plus => ['+']
  | .minus => ['-']

def expText : Option (ExpSign × Digits) → List Char
  | none => []
  | some (sign, ds) => 'e' :: (sign.text ++ ds.text)

def Number.text (n : Number) : List Char := signText n.negative ++ (natText n.int ++ (fracText n.frac ++ expText n.exp))

/-- The token of an integer. -/
def intNumber (n : ℤ) : Number := ⟨decide (n < 0), n.natAbs, none, none⟩

/-- `int` -/
def takeInt (s : List Char) : Option (ℕ × List Char) :=
  if validInt (takeDigits s).1 then some (digitsValue (takeDigits s).1, (takeDigits s).2) else none

def takeSome (s : List Char) : Option (Digits × List Char) :=
  if h : (takeDigits s).1 ≠ [] then some (⟨(takeDigits s).1, h⟩, (takeDigits s).2) else none

def takeMinus : List Char → Bool × List Char
  | '-' :: s => (true, s)
  | s => (false, s)

/-- `[ frac ]` -/
def takeFrac : List Char → Option (Option Digits × List Char)
  | '.' :: s => (takeSome s).map fun r => (some r.1, r.2)
  | s => some (none, s)

def takeExpSign : List Char → ExpSign × List Char
  | '+' :: s => (.plus, s)
  | '-' :: s => (.minus, s)
  | s => (.none, s)

/-- `[ exp ]` -/
def takeExp : List Char → Option (Option (ExpSign × Digits) × List Char)
  | 'e' :: s | 'E' :: s => (takeSome (takeExpSign s).2).map fun r => (some ((takeExpSign s).1, r.1), r.2)
  | s => some (none, s)

/-- A number token at the head of a text, and the rest. -/
def takeNumber (s : List Char) : Option (Number × List Char) := do
  let (negative, s) := takeMinus s
  let (int, s) ← takeInt s
  let (frac, s) ← takeFrac s
  let (exp, s) ← takeExp s
  return (⟨negative, int, frac, exp⟩, s)

/-- No number token goes on with this text. -/
def NumberEnds (s : List Char) : Prop := ∀ c ∈ s.head?, digitValue c = none ∧ c ≠ '.' ∧ c ≠ 'e' ∧ c ≠ 'E'

theorem NumberEnds.noDigitHead {s : List Char} (hs : NumberEnds s) : NoDigitHead s := fun c hc => (hs c hc).1

theorem noDigitHead_cons {c : Char} {s : List Char} (hc : digitValue c = none) : NoDigitHead (c :: s) := by
  intro c' hc'
  obtain rfl : c = c' := by simpa using hc'
  exact hc

/-- A digit is no other character. -/
theorem digitChar_ne {c : Char} (hc : digitValue c = none) (d : Fin 10) : digitChar d ≠ c := by
  rintro rfl
  rw [digitValue_digitChar] at hc
  cases hc

/-- A digit text begins with a digit. -/
theorem Digits.text_eq_cons (ds : Digits) : ∃ d s, ds.text = digitChar d :: s := by
  obtain ⟨d, rest, hds⟩ := List.exists_cons_of_ne_nil ds.2
  refine ⟨d, rest.map digitChar, ?_⟩
  rw [Digits.text, hds]
  rfl

theorem takeSome_append (ds : Digits) {s : List Char} (hs : NoDigitHead s) :
    takeSome (ds.text ++ s) = some (ds, s) := by
  have htake : takeDigits (ds.text ++ s) = (ds.1, s) := takeDigits_append ds.1 hs
  unfold takeSome
  simp [htake, ds.2]

theorem takeInt_append (n : ℕ) {s : List Char} (hs : NoDigitHead s) : takeInt (natText n ++ s) = some (n, s) := by
  have htake : takeDigits (natText n ++ s) = (natDigits n, s) := takeDigits_append _ hs
  unfold takeInt
  rw [htake, if_pos (validInt_natDigits n), digitsValue_natDigits]

theorem takeExp_append (exp : Option (ExpSign × Digits)) {s : List Char} (hs : NumberEnds s) :
    takeExp (expText exp ++ s) = some (exp, s) := by
  cases exp with
  | none =>
    cases s with
    | nil => rfl
    | cons c s =>
      obtain ⟨-, -, he, hE⟩ := hs c rfl
      unfold takeExp
      split
      · next h => exact absurd (List.cons.inj h).1 he
      · next h => exact absurd (List.cons.inj h).1 hE
      · rfl
  | some e =>
    obtain ⟨sign, ds⟩ := e
    have hsign : takeExpSign (sign.text ++ (ds.text ++ s)) = (sign, ds.text ++ s) := by
      cases sign with
      | plus => rfl
      | minus => rfl
      | none =>
        obtain ⟨d, rest, hds⟩ := ds.text_eq_cons
        rw [hds]
        unfold takeExpSign ExpSign.text
        split
        · next h => exact absurd (List.cons.inj h).1 (digitChar_ne (by decide) d)
        · next h => exact absurd (List.cons.inj h).1 (digitChar_ne (by decide) d)
        · rfl
    have htake := takeSome_append ds hs.noDigitHead
    simp [takeExp, expText, hsign, htake]

theorem takeFrac_append (frac : Option Digits) {s : List Char} (hs : NoDigitHead s) (hdot : ∀ c ∈ s.head?, c ≠ '.') :
    takeFrac (fracText frac ++ s) = some (frac, s) := by
  cases frac with
  | none =>
    unfold takeFrac fracText
    split
    · next h => exact absurd rfl (hdot '.' (by rw [← List.nil_append s, h]; rfl))
    · rfl
  | some ds => simp [takeFrac, fracText, takeSome_append ds hs]

/-- What follows the fraction of a token. -/
theorem expText_head (exp : Option (ExpSign × Digits)) {s : List Char} (hs : NumberEnds s) :
    ∀ c ∈ (expText exp ++ s).head?, digitValue c = none ∧ c ≠ '.' := by
  cases exp with
  | none => exact fun c hc => ⟨(hs c hc).1, (hs c hc).2.1⟩
  | some e =>
    intro c hc
    obtain rfl : 'e' = c := Option.some.inj hc
    decide

/-- What follows the integer part of a token. -/
theorem fracText_noDigitHead (frac : Option Digits) {s : List Char} (hs : NoDigitHead s) :
    NoDigitHead (fracText frac ++ s) := by
  cases frac with
  | none => exact hs
  | some ds => exact noDigitHead_cons (by decide)

theorem natDigits_ne_nil (n : ℕ) : natDigits n ≠ [] := by
  intro h
  have hvalid := validInt_natDigits n
  rw [h] at hvalid
  cases hvalid

/-- The text of a natural number begins with a digit. -/
theorem natText_eq_cons (n : ℕ) : ∃ d s, natText n = digitChar d :: s := by
  obtain ⟨d, ds, hds⟩ := List.exists_cons_of_ne_nil (natDigits_ne_nil n)
  exact ⟨d, ds.map digitChar, by rw [natText, hds]; rfl⟩

/-- A token begins with a minus or a digit. -/
theorem Number.text_eq_cons (n : Number) : ∃ c s, n.text = c :: s ∧ (c = '-' ∨ ∃ d, c = digitChar d) := by
  unfold Number.text
  cases n.negative with
  | true => exact ⟨'-', _, rfl, Or.inl rfl⟩
  | false =>
    obtain ⟨d, s, hd⟩ := natText_eq_cons n.int
    exact ⟨digitChar d, s ++ (fracText n.frac ++ expText n.exp), by rw [hd]; rfl, Or.inr ⟨d, rfl⟩⟩

theorem takeMinus_append (negative : Bool) (n : ℕ) (s : List Char) :
    takeMinus (signText negative ++ (natText n ++ s)) = (negative, natText n ++ s) := by
  cases negative with
  | true => rfl
  | false =>
    obtain ⟨d, rest, hd⟩ := natText_eq_cons n
    rw [hd]
    unfold takeMinus signText
    split
    · next h => exact absurd (List.cons.inj h).1 (digitChar_ne (by decide) d)
    · rfl

/-- The scanner reads a token back. -/
theorem takeNumber_text (n : Number) {s : List Char} (hs : NumberEnds s) : takeNumber (n.text ++ s) = some (n, s) := by
  have hexp := takeExp_append n.exp hs
  have hhead := expText_head n.exp hs
  have hfrac := takeFrac_append n.frac (fun c hc => (hhead c hc).1) (fun c hc => (hhead c hc).2)
  have hint := takeInt_append n.int (fracText_noDigitHead n.frac (fun c hc => (hhead c hc).1))
  unfold takeNumber Number.text
  simp only [List.append_assoc, takeMinus_append, hint, hfrac, hexp, Option.bind_eq_bind, Option.bind_some]
  rfl

theorem takeDigits_eq_nil {s : List Char} (hs : NoDigitHead s) : (takeDigits s).1 = [] := by
  have htake := takeDigits_append [] hs
  rw [List.map_nil, List.nil_append] at htake
  rw [htake]

/-- A text that does not begin with a minus or a digit is no number. -/
theorem takeNumber_eq_none {s : List Char} (hs : NoDigitHead (takeMinus s).2) : takeNumber s = none := by
  have hint : takeInt (takeMinus s).2 = none := by
    unfold takeInt
    rw [takeDigits_eq_nil hs]
    rfl
  unfold takeNumber
  simp [hint]

/-! ### Strings -/

def hexDigit (d : Fin 16) : Char := if d.val < 10 then Char.ofNat (48 + d) else Char.ofNat (87 + d)

/-- `HEXDIG` -/
def hexValue (c : Char) : Option ℕ :=
  if 48 ≤ c.toNat ∧ c.toNat < 58 then some (c.toNat - 48)
  else if 97 ≤ c.toNat ∧ c.toNat < 103 then some (c.toNat - 87)
  else if 65 ≤ c.toNat ∧ c.toNat < 71 then some (c.toNat - 55)
  else none

/-- What a string holds: a character as it is, or an escaped UTF-16 code unit. -/
inductive StringUnit
  | char (c : Char)
  | unit (n : ℕ)

/-- The escapes of two characters. -/
def simpleEscape : Char → Option Char
  | '"' => some '"'
  | '\\' => some '\\'
  | '/' => some '/'
  | 'b' => some '\x08'
  | 'f' => some '\x0c'
  | 'n' => some '\n'
  | 'r' => some '\r'
  | 't' => some '\t'
  | _ => none

/-- Where the scanner of a string is: between two characters, after a backslash, or in the hexadecimal digits of an
escape, with the number of digits to come after the next one and the value so far. -/
inductive Scan
  | plain
  | escaped
  | hex (left value : ℕ)

/-- The rest of a string up to its closing quotation mark, and what follows it. -/
def scanString : Scan → List Char → Option (List StringUnit × List Char)
  | _, [] => none
  | .plain, c :: s =>
    if c = '"' then some ([], s)
    else if c = '\\' then scanString .escaped s
    else if c.toNat < 0x20 then none
    else (scanString .plain s).map fun r => (.char c :: r.1, r.2)
  | .escaped, c :: s =>
    match simpleEscape c with
    | some d => (scanString .plain s).map fun r => (.char d :: r.1, r.2)
    | none => if c = 'u' then scanString (.hex 3 0) s else none
  | .hex left value, c :: s =>
    match hexValue c, left with
    | none, _ => none
    | some d, 0 => (scanString .plain s).map fun r => (.unit (16 * value + d) :: r.1, r.2)
    | some d, left + 1 => scanString (.hex left (16 * value + d)) s

def isHighSurrogate (n : ℕ) : Bool := decide (0xd800 ≤ n ∧ n < 0xdc00)

def isLowSurrogate (n : ℕ) : Bool := decide (0xdc00 ≤ n ∧ n < 0xe000)

/-- The character of a surrogate pair. -/
def pairChar (high low : ℕ) : Char := Char.ofNat (0x10000 + (high - 0xd800) * 0x400 + (low - 0xdc00))

/-- The character that stands for a surrogate without a partner. -/
def replacement : Char := Char.ofNat 0xfffd

def unitChar (n : ℕ) : Char := if isLowSurrogate n then replacement else Char.ofNat n

/-- The characters of a string; a high surrogate waits for its partner. -/
def joinUnits : Option ℕ → List StringUnit → List Char
  | none, [] => []
  | some _, [] => [replacement]
  | none, .char c :: us => c :: joinUnits none us
  | some _, .char c :: us => replacement :: c :: joinUnits none us
  | none, .unit n :: us => if isHighSurrogate n then joinUnits (some n) us else unitChar n :: joinUnits none us
  | some high, .unit n :: us =>
    if isLowSurrogate n then pairChar high n :: joinUnits none us
    else if isHighSurrogate n then replacement :: joinUnits (some n) us
    else replacement :: unitChar n :: joinUnits none us

/-- A string after its opening quotation mark, and what follows it. -/
def takeString (s : List Char) : Option (List Char × List Char) :=
  (scanString .plain s).map fun r => (joinUnits none r.1, r.2)

/-! ### Writing strings -/

/-- The escape of a character in `ESCAPE_DCT`. -/
def shortEscape : Char → Option Char
  | '\\' => some '\\'
  | '"' => some '"'
  | '\x08' => some 'b'
  | '\x0c' => some 'f'
  | '\n' => some 'n'
  | '\r' => some 'r'
  | '\t' => some 't'
  | _ => none

/-- The escape of a code unit, with four hexadecimal digits. -/
def escapeUnit (n : ℕ) : List Char :=
  '\\' :: 'u' :: [n / 4096, n / 256, n / 16, n].map fun k => hexDigit (Fin.ofNat 16 k)

def highSurrogate (n : ℕ) : ℕ := 0xd800 + (n - 0x10000) / 0x400

def lowSurrogate (n : ℕ) : ℕ := 0xdc00 + (n - 0x10000) % 0x400

def escapeChar (c : Char) : List Char :=
  match shortEscape c with
  | some e => ['\\', e]
  | none =>
    if 0x20 ≤ c.toNat ∧ c.toNat ≤ 0x7e then [c]
    else if c.toNat < 0x10000 then escapeUnit c.toNat
    else escapeUnit (highSurrogate c.toNat) ++ escapeUnit (lowSurrogate c.toNat)

/-- `py_encode_basestring_ascii` -/
def encodeBasestringAscii (s : List Char) : List Char := '"' :: (s.flatMap escapeChar ++ ['"'])

/-- What the scanner reads of an escaped character. -/
def charUnits (c : Char) : List StringUnit :=
  if (shortEscape c).isSome ∨ (0x20 ≤ c.toNat ∧ c.toNat ≤ 0x7e) then [.char c]
  else if c.toNat < 0x10000 then [.unit c.toNat]
  else [.unit (highSurrogate c.toNat), .unit (lowSurrogate c.toNat)]

theorem hexValue_hexDigit (d : Fin 16) : hexValue (hexDigit d) = some d.val := by
  revert d
  decide

/-- The scanner reads an escaped code unit. -/
theorem scanString_escapeUnit {n : ℕ} (hn : n < 0x10000) (s : List Char) :
    scanString .plain (escapeUnit n ++ s) = (scanString .plain s).map fun r => (.unit n :: r.1, r.2) := by
  have hvalue : 16 * (16 * (16 * (n / 4096 % 16) + n / 256 % 16) + n / 16 % 16) + n % 16 = n := by omega
  have hu : simpleEscape 'u' = none := rfl
  simp [escapeUnit, scanString, hu, hexValue_hexDigit, hvalue]

theorem simpleEscape_shortEscape {c e : Char} (h : shortEscape c = some e) : simpleEscape e = some c := by
  unfold shortEscape at h
  split at h <;> first | (obtain rfl := Option.some.inj h; rfl) | cases h

theorem shortEscape_eq_none {c : Char} (h : shortEscape c = none) : c ≠ '"' ∧ c ≠ '\\' := by
  constructor
  · rintro rfl
    cases h
  · rintro rfl
    cases h

theorem surrogates_lt {n : ℕ} (hn : n < 0x110000) : highSurrogate n < 0x10000 ∧ lowSurrogate n < 0x10000 := by
  unfold highSurrogate lowSurrogate
  omega

/-- A character is no surrogate. -/
theorem char_valid (c : Char) : c.toNat < 0xd800 ∨ 0xdfff < c.toNat ∧ c.toNat < 0x110000 := c.valid

theorem char_toNat_lt (c : Char) : c.toNat < 0x110000 := by
  have := char_valid c
  omega

/-- The scanner reads an escaped character. -/
theorem scanString_escapeChar (c : Char) (s : List Char) :
    scanString .plain (escapeChar c ++ s) = (scanString .plain s).map fun r => (charUnits c ++ r.1, r.2) := by
  unfold escapeChar charUnits
  cases he : shortEscape c with
  | some e =>
    have hunescape := simpleEscape_shortEscape he
    simp [scanString, hunescape]
  | none =>
    obtain ⟨hquote, hbackslash⟩ := shortEscape_eq_none he
    by_cases hascii : 0x20 ≤ c.toNat ∧ c.toNat ≤ 0x7e
    · have hcontrol : ¬ c.toNat < 0x20 := not_lt.2 hascii.1
      simp [hascii, scanString, hquote, hbackslash, hcontrol]
    · by_cases hplane : c.toNat < 0x10000
      · simp [hascii, hplane, scanString_escapeUnit hplane]
      · obtain ⟨hhigh, hlow⟩ := surrogates_lt (char_toNat_lt c)
        simp [hascii, hplane, scanString_escapeUnit hhigh, scanString_escapeUnit hlow, Function.comp_def]

theorem scanString_flatMap (cs s : List Char) :
    scanString .plain (cs.flatMap escapeChar ++ '"' :: s) = some (cs.flatMap charUnits, s) := by
  induction cs with
  | nil => rfl
  | cons c cs ih =>
    rw [List.flatMap_cons, List.append_assoc, scanString_escapeChar, ih]
    rfl

/-- The units of a character are joined to it. -/
theorem joinUnits_charUnits (c : Char) (us : List StringUnit) :
    joinUnits none (charUnits c ++ us) = c :: joinUnits none us := by
  have hvalid := char_valid c
  unfold charUnits
  split
  · rfl
  · split
    · next hplane =>
      have hhigh : isHighSurrogate c.toNat = false := decide_eq_false (by omega)
      have hlow : isLowSurrogate c.toNat = false := decide_eq_false (by omega)
      simp [joinUnits, unitChar, hhigh, hlow]
    · next hplane =>
      have hhigh : isHighSurrogate (highSurrogate c.toNat) = true := by
        unfold highSurrogate
        exact decide_eq_true (by omega)
      have hlow : isLowSurrogate (lowSurrogate c.toNat) = true := by
        unfold lowSurrogate
        exact decide_eq_true (by omega)
      have hpair : 0x10000 + (highSurrogate c.toNat - 0xd800) * 0x400 + (lowSurrogate c.toNat - 0xdc00) = c.toNat := by
        unfold highSurrogate lowSurrogate
        omega
      simp [joinUnits, hhigh, hlow, pairChar, hpair]

theorem joinUnits_flatMap (cs : List Char) : joinUnits none (cs.flatMap charUnits) = cs := by
  induction cs with
  | nil => rfl
  | cons c cs ih => rw [List.flatMap_cons, joinUnits_charUnits, ih]

/-- A written string is read back. -/
theorem takeString_encode (cs s : List Char) : takeString (cs.flatMap escapeChar ++ '"' :: s) = some (cs, s) := by
  unfold takeString
  rw [scanString_flatMap, Option.map_some, joinUnits_flatMap]

/-! ### Printable texts -/

/-- The character is between `' '` and `'~'`. -/
def Printable (c : Char) : Prop := 0x20 ≤ c.toNat ∧ c.toNat ≤ 0x7e

instance (c : Char) : Decidable (Printable c) := inferInstanceAs (Decidable (_ ∧ _))

/-- A fixed text is checked character by character. -/
theorem printable_of_all {s : List Char} (h : (s.all fun c => decide (Printable c)) = true) : ∀ c ∈ s, Printable c :=
  fun c hc => of_decide_eq_true (List.all_eq_true.1 h c hc)

theorem digitChar_printable (d : Fin 10) : Printable (digitChar d) := by
  revert d
  decide

theorem hexDigit_printable (d : Fin 16) : Printable (hexDigit d) := by
  revert d
  decide

theorem shortEscape_printable {c e : Char} (h : shortEscape c = some e) : Printable e := by
  unfold shortEscape at h
  split at h <;> cases h <;> decide

theorem escapeUnit_printable (n : ℕ) : ∀ c ∈ escapeUnit n, Printable c := by
  intro c hc
  unfold escapeUnit at hc
  rcases List.mem_cons.1 hc with rfl | hc
  · decide
  rcases List.mem_cons.1 hc with rfl | hc
  · decide
  · obtain ⟨k, -, rfl⟩ := List.mem_map.1 hc
    exact hexDigit_printable _

theorem escapeChar_printable (c : Char) : ∀ d ∈ escapeChar c, Printable d := by
  intro d hd
  unfold escapeChar at hd
  split at hd
  · next e he =>
    rcases List.mem_cons.1 hd with rfl | hd
    · decide
    · rw [List.mem_singleton.1 hd]
      exact shortEscape_printable he
  · split at hd
    · next hplain =>
      rw [List.mem_singleton.1 hd]
      exact hplain
    split at hd
    · exact escapeUnit_printable _ d hd
    · exact (List.mem_append.1 hd).elim (escapeUnit_printable _ d) (escapeUnit_printable _ d)

theorem encodeBasestringAscii_printable (s : List Char) : ∀ c ∈ encodeBasestringAscii s, Printable c := by
  intro c hc
  rcases List.mem_cons.1 hc with rfl | hc
  · decide
  rcases List.mem_append.1 hc with hc | hc
  · obtain ⟨d, -, hd⟩ := List.mem_flatMap.1 hc
    exact escapeChar_printable d c hd
  · rw [List.mem_singleton.1 hc]
    decide

theorem digits_printable (ds : List (Fin 10)) : ∀ c ∈ ds.map digitChar, Printable c := by
  intro c hc
  obtain ⟨d, -, rfl⟩ := List.mem_map.1 hc
  exact digitChar_printable d

theorem expText_printable (exp : Option (ExpSign × Digits)) : ∀ c ∈ expText exp, Printable c := by
  cases exp with
  | none => exact fun c hc => absurd hc List.not_mem_nil
  | some e =>
    obtain ⟨sign, ds⟩ := e
    intro c hc
    rcases List.mem_cons.1 hc with rfl | hc
    · decide
    rcases List.mem_append.1 hc with hc | hc
    · cases sign <;> simp [ExpSign.text] at hc <;> (subst hc; decide)
    · exact digits_printable ds.1 c hc

theorem fracText_printable (frac : Option Digits) : ∀ c ∈ fracText frac, Printable c := by
  cases frac with
  | none => exact fun c hc => absurd hc List.not_mem_nil
  | some ds =>
    intro c hc
    rcases List.mem_cons.1 hc with rfl | hc
    · decide
    · exact digits_printable ds.1 c hc

theorem Number.text_printable (n : Number) : ∀ c ∈ n.text, Printable c := by
  intro c hc
  rcases List.mem_append.1 hc with hc | hc
  · cases hn : n.negative <;> simp [signText, hn] at hc
    subst hc
    decide
  rcases List.mem_append.1 hc with hc | hc
  · exact digits_printable _ c hc
  · exact (List.mem_append.1 hc).elim (fracText_printable n.frac c) (expText_printable n.exp c)

end JsonText
