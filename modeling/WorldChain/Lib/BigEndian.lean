import Mathlib

/-! # Fixed-width big-endian words

A word of a given width is written most significant byte first. A byte string of a known length is determined by the
numbers it encodes.
-/

namespace BigEndian

def ofBytes (bytes : List UInt8) : ℕ :=
  bytes.foldl (fun value byte => value * 256 + byte.toNat) 0

def toBytes : ℕ → ℕ → List UInt8
  | 0, _ => []
  | width + 1, value => toBytes width (value / 256) ++ [UInt8.ofNat value]

@[simp] theorem toBytes_length (width value : ℕ) : (toBytes width value).length = width := by
  induction width generalizing value with
  | zero => rfl
  | succ width ih => simp [toBytes, ih]

theorem toBytes_succ (width value : ℕ) :
    toBytes (width + 1) value = UInt8.ofNat (value / 256 ^ width) :: toBytes width value := by
  induction width generalizing value with
  | zero => simp [toBytes]
  | succ width ih =>
    rw [toBytes, ih, Nat.div_div_eq_div_mul, ← pow_succ', List.cons_append, toBytes]

variable {width : ℕ}

theorem drop_toBytes {count : ℕ} (value : ℕ) (fits : count ≤ width) :
    (toBytes width value).drop count = toBytes (width - count) value := by
  induction count generalizing width with
  | zero => rfl
  | succ count ih =>
    obtain ⟨narrower, rfl⟩ := Nat.exists_eq_add_of_le' (Nat.zero_lt_of_lt fits)
    rw [toBytes_succ, List.drop_succ_cons, ih (by omega), Nat.add_sub_add_right]

@[simp] theorem ofBytes_append_singleton (bytes : List UInt8) (byte : UInt8) :
    ofBytes (bytes ++ [byte]) = ofBytes bytes * 256 + byte.toNat := by
  simp [ofBytes]

theorem ofBytes_append (first second : List UInt8) :
    ofBytes (first ++ second) = ofBytes first * 256 ^ second.length + ofBytes second := by
  induction second using List.reverseRecOn with
  | nil => simp [ofBytes]
  | append_singleton rest byte ih =>
    rw [← List.append_assoc, ofBytes_append_singleton, ofBytes_append_singleton, ih, List.length_append, pow_add]
    simp only [List.length_singleton, pow_one]
    ring

theorem ofBytes_lt (bytes : List UInt8) : ofBytes bytes < 256 ^ bytes.length := by
  induction bytes using List.reverseRecOn with
  | nil => simp [ofBytes]
  | append_singleton bytes byte ih =>
    have small := byte.toNat_lt
    simp only [ofBytes_append_singleton, List.length_append, List.length_singleton, pow_succ]
    omega

theorem ofBytes_div_mod (bytes : List UInt8) (count : ℕ) (enough : count ≤ bytes.length) :
    ofBytes bytes / 256 ^ count = ofBytes (bytes.take (bytes.length - count)) ∧
      ofBytes bytes % 256 ^ count = ofBytes (bytes.drop (bytes.length - count)) := by
  have tail : (bytes.drop (bytes.length - count)).length = count := by rw [List.length_drop]; omega
  have small := ofBytes_lt (bytes.drop (bytes.length - count))
  have split := ofBytes_append (bytes.take (bytes.length - count)) (bytes.drop (bytes.length - count))
  rw [tail] at small split
  rw [List.take_append_drop] at split
  rw [split]
  exact ⟨by rw [mul_comm, Nat.mul_add_div (Nat.zero_lt_of_lt small), Nat.div_eq_of_lt small, add_zero],
    by rw [mul_comm, Nat.mul_add_mod, Nat.mod_eq_of_lt small]⟩

theorem toBytes_ofBytes (bytes : List UInt8) : toBytes bytes.length (ofBytes bytes) = bytes := by
  induction bytes using List.reverseRecOn with
  | nil => rfl
  | append_singleton bytes byte ih =>
    have small := byte.toNat_lt
    have quotient : (ofBytes bytes * 256 + byte.toNat) / 256 = ofBytes bytes := by omega
    have low : UInt8.ofNat (ofBytes bytes * 256 + byte.toNat) = byte := by
      apply UInt8.toNat_inj.mp
      rw [UInt8.toNat_ofNat']
      omega
    simp only [List.length_append, List.length_singleton, toBytes, ofBytes_append_singleton,
      quotient, low, ih]

theorem ofBytes_toBytes (width value : ℕ) (bound : value < 256 ^ width) :
    ofBytes (toBytes width value) = value := by
  induction width generalizing value with
  | zero => simp_all [toBytes, ofBytes]
  | succ width ih =>
    have quotient : value / 256 < 256 ^ width := by
      rw [Nat.div_lt_iff_lt_mul (by decide), ← pow_succ]
      exact bound
    rw [toBytes, ofBytes_append_singleton, ih _ quotient, UInt8.toNat_ofNat']
    omega

/-- The word of `width` bytes found at `offset`. -/
def wordAt (width : ℕ) (bytes : List UInt8) (offset : ℕ) : ℕ :=
  ofBytes ((bytes.drop offset).take width)

theorem wordAt_lt (width : ℕ) (bytes : List UInt8) (offset : ℕ) : wordAt width bytes offset < 256 ^ width :=
  (ofBytes_lt _).trans_le (Nat.pow_le_pow_right (by decide) (List.length_take_le ..))

/-- Consecutive words written one after another. -/
def encode (width : ℕ) (words : List ℕ) : List UInt8 :=
  words.flatMap (toBytes width)

def decode (width : ℕ) : ℕ → List UInt8 → List ℕ
  | 0, _ => []
  | count + 1, bytes => ofBytes (bytes.take width) :: decode width count (bytes.drop width)

theorem encode_decode (width count : ℕ) (bytes : List UInt8) (exact : bytes.length = count * width) :
    encode width (decode width count bytes) = bytes := by
  induction count generalizing bytes with
  | zero =>
    have empty : bytes = [] := List.eq_nil_of_length_eq_zero (by simpa using exact)
    simp [decode, encode, empty]
  | succ count ih =>
    have enough : width ≤ bytes.length := by rw [exact, Nat.succ_mul]; omega
    have head : toBytes width (ofBytes (bytes.take width)) = bytes.take width := by
      have whole := toBytes_ofBytes (bytes.take width)
      rwa [List.length_take, Nat.min_eq_left enough] at whole
    have tail := ih (bytes.drop width) (by rw [List.length_drop, exact, Nat.succ_mul]; omega)
    simp only [encode] at tail
    simp only [decode, encode, List.flatMap_cons, head, tail, List.take_append_drop]

theorem decode_encode (width : ℕ) (words : List ℕ) (fits : ∀ word ∈ words, word < 256 ^ width) :
    decode width words.length (encode width words) = words := by
  induction words with
  | nil => rfl
  | cons word rest ih =>
    have split : encode width (word :: rest) = toBytes width word ++ encode width rest := rfl
    rw [List.length_cons, decode, split, List.take_left' (toBytes_length ..),
      List.drop_left' (toBytes_length ..), ofBytes_toBytes _ _ (fits word List.mem_cons_self),
      ih (fun other member => fits other (List.mem_cons_of_mem _ member))]

theorem encode_inj {words others : List ℕ} (fits : ∀ word ∈ words, word < 256 ^ width)
    (otherFits : ∀ word ∈ others, word < 256 ^ width) (same : words.length = others.length)
    (written : encode width words = encode width others) : words = others := by
  rw [← decode_encode width words fits, ← decode_encode width others otherFits, written, same]

theorem decode_eq_wordAt (width count : ℕ) (bytes : List UInt8) :
    decode width count bytes = (List.range count).map (fun index => wordAt width bytes (index * width)) := by
  induction count generalizing bytes with
  | zero => rfl
  | succ count ih =>
    rw [decode, ih, List.range_succ_eq_map, List.map_cons, List.map_map]
    simp only [wordAt, Nat.zero_mul, List.drop_zero, List.cons.injEq, true_and]
    apply List.map_congr_left
    intro index _
    simp only [Function.comp_apply, List.drop_drop, Nat.succ_mul, Nat.add_comm]

end BigEndian
