import Mathlib.Data.Rat.Floor
import Mathlib.Data.String.Basic
import RosMcp.Lib.Positional
import RosMcp.Lib.PyFloat

/-!
# Command ids (`commands/ulid.py`)

An id is a ULID: a 48-bit millisecond timestamp followed by 80 random bits, written as 26 letters of Crockford's base
32.  A clock reading is the product `time.time() * 1000` as the code computes it, a rational number of milliseconds;
`os.urandom(10)` is a parameter.

26 letters hold 130 bits, so the two most significant are zero and none of the 128 is lost.  The alphabet ascends in
the order of the code points, although it has gaps, so the ids are ordered as the numbers that they write
(`encodeBase32_lt_iff`), and the timestamp outweighs the random bits (`fromBytes_append_lt`).
-/

namespace RosMcp

open Positional

/-! ### The source -/

/-- `_CROCKFORD_ALPHABET` -/
def crockfordAlphabet : Vector Char 32 :=
  #v['0', '1', '2', '3', '4', '5', '6', '7', '8', '9', 'A', 'B', 'C', 'D', 'E', 'F',
    'G', 'H', 'J', 'K', 'M', 'N', 'P', 'Q', 'R', 'S', 'T', 'V', 'W', 'X', 'Y', 'Z']

/-- `int.from_bytes(data, byteorder="big")` -/
def fromBytes (data : List UInt8) : ℕ := value (data.map UInt8.toFin)

/-- `number.to_bytes(length, byteorder="big")` -/
def toBytes (number length : ℕ) : Except PyException (List UInt8) :=
  if number < 256 ^ length then .ok ((divisions 256 length number).reverse.map UInt8.ofFin)
  else .error ⟨.overflowError, "int too big to convert"⟩

/-- The loop of `_encode_base32`, with `turns` turns left. -/
def encodeLoop : ℕ → ℕ → List Char → List Char
  | 0, _, chars => chars
  | turns + 1, value, chars => encodeLoop turns (value / 32) (chars ++ [crockfordAlphabet.get (Fin.ofNat 32 value)])

/-- `_encode_base32` -/
def encodeBase32 (data : List UInt8) : String := String.ofList (encodeLoop 26 (fromBytes data) []).reverse

/-- `int(time.time() * 1000)` truncates towards zero. -/
def milliseconds (clock : ℚ) : ℤ := clock.num.tdiv clock.den

/-- `... & 0xFFFFFFFFFFFF`: a mask of 48 ones keeps the residue modulo `2 ^ 48`, also of a negative number. -/
def timestampMs (clock : ℚ) : ℕ := (milliseconds clock % 2 ^ 48).toNat

/-- `new_ulid` -/
def newUlid (clock : ℚ) (randomness : Vector UInt8 10) : Except PyException String := do
  let timestampBytes ← toBytes (timestampMs clock) 6
  pure (encodeBase32 (timestampBytes ++ randomness.toList))

/-! ### The encoding -/

private theorem crockfordAlphabet_strictMono : StrictMono crockfordAlphabet.get := by
  rw [Fin.strictMono_iff_lt_succ]
  decide

private theorem encodeLoop_eq (turns value : ℕ) (chars : List Char) :
    encodeLoop turns value chars = chars ++ (divisions 32 turns value).map crockfordAlphabet.get := by
  induction turns generalizing value chars with
  | zero => simp [encodeLoop, divisions]
  | succ turns ih => simp [encodeLoop, divisions, ih]

/-- The id shows the digits to the base 32, the most significant first. -/
private theorem toList_encodeBase32 (data : List UInt8) :
    (encodeBase32 data).toList = (divisions 32 26 (fromBytes data)).reverse.map crockfordAlphabet.get := by
  simp [encodeBase32, encodeLoop_eq]

private theorem length_encodeBase32 (data : List UInt8) : (encodeBase32 data).length = 26 := by
  rw [← String.length_toList, toList_encodeBase32]
  simp

private theorem fromBytes_lt (data : List UInt8) : fromBytes data < 256 ^ data.length := by
  have h := value_lt (data.map UInt8.toFin)
  simpa [fromBytes] using h

private theorem fromBytes_injective {a b : List UInt8} (hlen : a.length = b.length) (h : fromBytes a = fromBytes b) :
    a = b := by
  have hmap : a.map UInt8.toFin = b.map UInt8.toFin := value_injective (by simpa using hlen) h
  exact List.map_injective_iff.mpr (fun _ _ => UInt8.toFin_inj.mp) hmap

/-- 26 digits to the base 32 lose nothing of 16 bytes. -/
private theorem value_digits (data : Vector UInt8 16) :
    value (divisions 32 26 (fromBytes data.toList)).reverse = fromBytes data.toList := by
  rw [value_divisions]
  apply Nat.mod_eq_of_lt
  calc fromBytes data.toList < 256 ^ data.toList.length := fromBytes_lt _
    _ = 256 ^ 16 := by rw [Vector.length_toList]
    _ ≤ 32 ^ 26 := by decide

private theorem encodeBase32_lt_iff (a b : Vector UInt8 16) :
    encodeBase32 a.toList < encodeBase32 b.toList ↔ fromBytes a.toList < fromBytes b.toList := by
  rw [String.lt_iff_toList_lt, toList_encodeBase32, toList_encodeBase32, map_lt_map_iff crockfordAlphabet_strictMono,
    ← value_lt_value_iff (by simp), value_digits, value_digits]

private theorem encodeBase32_injective {a b : Vector UInt8 16}
    (h : encodeBase32 a.toList = encodeBase32 b.toList) : a = b := by
  have hab : ¬ fromBytes a.toList < fromBytes b.toList := fun hlt => h.not_lt ((encodeBase32_lt_iff a b).mpr hlt)
  have hba : ¬ fromBytes b.toList < fromBytes a.toList := fun hlt => h.not_gt ((encodeBase32_lt_iff b a).mpr hlt)
  have heq : fromBytes a.toList = fromBytes b.toList := by omega
  exact Vector.toList_inj.mp (fromBytes_injective (by simp) heq)

example : encodeBase32 (List.replicate 16 255) = "7ZZZZZZZZZZZZZZZZZZZZZZZZZ" := by decide +kernel

/-! ### Minting -/

/-- The leading bytes decide between two strings with tails of one length. -/
private theorem fromBytes_append_lt {a b c d : List UInt8} (hlen : c.length = d.length)
    (h : fromBytes a < fromBytes b) :
    fromBytes (a ++ c) < fromBytes (b ++ d) := by
  unfold fromBytes
  rw [List.map_append, List.map_append]
  exact value_append_lt_value_append (by simpa using hlen) h

private theorem toBytes_of_lt {number length : ℕ} (h : number < 256 ^ length) :
    ∃ data, toBytes number length = .ok data ∧ data.length = length ∧ fromBytes data = number := by
  refine ⟨_, if_pos h, by simp, ?_⟩
  have hmap : ((divisions 256 length number).reverse.map UInt8.ofFin).map UInt8.toFin =
      (divisions 256 length number).reverse := by
    simp [Function.comp_def]
  rw [fromBytes, hmap, value_divisions, Nat.mod_eq_of_lt h]

private theorem timestampMs_lt (clock : ℚ) : timestampMs clock < 256 ^ 6 := by
  have hnonneg := Int.emod_nonneg (milliseconds clock) (show (2 : ℤ) ^ 48 ≠ 0 by norm_num)
  have hlt := Int.emod_lt_of_pos (milliseconds clock) (show (0 : ℤ) < 2 ^ 48 by norm_num)
  unfold timestampMs
  norm_num at hnonneg hlt ⊢
  omega

/-- Minting never raises, and an id encodes 16 bytes that start with the timestamp. -/
theorem newUlid_eq (clock : ℚ) (randomness : Vector UInt8 10) :
    ∃ stamp : Vector UInt8 6, fromBytes stamp.toList = timestampMs clock ∧
      newUlid clock randomness = .ok (encodeBase32 (stamp ++ randomness).toList) := by
  obtain ⟨data, hdata, hlen, hvalue⟩ := toBytes_of_lt (timestampMs_lt clock)
  refine ⟨⟨data.toArray, by simpa using hlen⟩, hvalue, ?_⟩
  rw [newUlid, hdata, Vector.toList_append]
  rfl

/-- A smaller timestamp makes a smaller id, whatever the random bytes are. -/
private theorem newUlid_lt {clock later : ℚ} (h : timestampMs clock < timestampMs later)
    (randomness randomness' : Vector UInt8 10) :
    ∃ id id', newUlid clock randomness = .ok id ∧ newUlid later randomness' = .ok id' ∧ id < id' := by
  obtain ⟨stamp, hstamp, hid⟩ := newUlid_eq clock randomness
  obtain ⟨stamp', hstamp', hid'⟩ := newUlid_eq later randomness'
  refine ⟨_, _, hid, hid', ?_⟩
  rw [encodeBase32_lt_iff, Vector.toList_append, Vector.toList_append]
  apply fromBytes_append_lt (by simp)
  rw [hstamp, hstamp']
  exact h

/-- The mask does not change the milliseconds of a clock between the epoch and `2 ^ 48` ms after it. -/
theorem timestampMs_eq {clock : ℚ} (hnonneg : 0 ≤ milliseconds clock) (hlt : milliseconds clock < 2 ^ 48) :
    (timestampMs clock : ℤ) = milliseconds clock := by
  rw [timestampMs, Int.emod_eq_of_lt hnonneg hlt, Int.toNat_of_nonneg hnonneg]

/-- Ids are ordered as the 16 bytes that they encode, and so by the millisecond of their creation. -/
theorem ulids_sort :
    (∀ a b : Vector UInt8 16,
      (encodeBase32 a.toList).length = 26 ∧
      (encodeBase32 a.toList < encodeBase32 b.toList ↔ fromBytes a.toList < fromBytes b.toList) ∧
      (encodeBase32 a.toList = encodeBase32 b.toList → a = b)) ∧
    ∀ (clock later : ℚ) (randomness randomness' : Vector UInt8 10),
      0 ≤ milliseconds clock → milliseconds clock < milliseconds later → milliseconds later < 2 ^ 48 →
      ∃ id id', newUlid clock randomness = .ok id ∧ newUlid later randomness' = .ok id' ∧ id < id' := by
  constructor
  · intro a b
    exact ⟨length_encodeBase32 _, encodeBase32_lt_iff a b, encodeBase32_injective⟩
  · intro clock later randomness randomness' hnonneg hearlier hlt
    apply newUlid_lt
    have hclock := timestampMs_eq hnonneg (hearlier.trans hlt)
    have hlater := timestampMs_eq (hnonneg.trans hearlier.le) hlt
    omega

/-- The last moment of a millisecond, with the largest random bytes, sorts before the next millisecond. -/
theorem ulids_sort_adjacent :
    ∃ id id', newUlid (1700000000000999 / 1000) (Vector.replicate 10 255) = .ok id ∧
      newUlid 1700000000001 (Vector.replicate 10 0) = .ok id' ∧ id < id' :=
  ulids_sort.2 _ _ _ _ (by decide +kernel) (by decide +kernel) (by decide +kernel)

end RosMcp
