import WorldChain.Lib.BigEndian
import WorldChain.Machine.Run

/-! # Recursive length prefix

A string or a list is written as a header, which holds its length, and its contents; a single byte below 0x80 is its
own encoding. What is accepted, and with which error the rest is refused, follows the documentation of alloy-rlp.
-/

namespace Rlp

open BigEndian Machine

inductive Error
  | overflow
  | leadingZero
  | inputTooShort
  | nonCanonicalSingleByte
  | nonCanonicalSize
  | unexpectedLength
  | unexpectedString
  | unexpectedList
  | listLengthMismatch (expected got : ℕ)
  | custom (text : String)
deriving DecidableEq, Repr

abbrev Decoder (α : Type) := StateT (List UInt8) (Except Error) α

/-! ## Numbers without leading zeros -/

def bitLength (value : ℕ) : ℕ := if value = 0 then 0 else value.log2 + 1

def leadingZeros (width value : ℕ) : ℕ := 8 * width - bitLength value

def trimmed (width value : ℕ) : List UInt8 := (toBytes width value).drop (leadingZeros width value / 8)

theorem lt_two_pow_bitLength (value : ℕ) : value < 2 ^ bitLength value := by
  rw [bitLength]
  split
  · next zero => simp [zero]
  · exact Nat.lt_log2_self

variable {value width : ℕ}

theorem two_pow_le_of_lt_bitLength {bits : ℕ} (short : bits < bitLength value) : 2 ^ bits ≤ value := by
  rw [bitLength] at short
  split at short
  · omega
  · next nonzero => exact (Nat.le_log2 nonzero).mp (by omega)

theorem two_pow_eight_mul (width : ℕ) : 2 ^ (8 * width) = 256 ^ width := by
  rw [pow_mul]
  norm_num

theorem bitLength_le (bound : value < 256 ^ width) : bitLength value ≤ 8 * width := by
  by_contra long
  have low := two_pow_le_of_lt_bitLength (Nat.lt_of_not_le long)
  rw [two_pow_eight_mul] at low
  omega

theorem trimmed_eq (width value : ℕ) : trimmed width value = toBytes (width - leadingZeros width value / 8) value := by
  apply drop_toBytes
  rw [leadingZeros]
  omega

@[simp] theorem trimmed_length (width value : ℕ) :
    (trimmed width value).length = width - leadingZeros width value / 8 := by
  rw [trimmed_eq, toBytes_length]

theorem trimmed_zero (width : ℕ) : trimmed width 0 = [] := by
  apply List.eq_nil_of_length_eq_zero
  simp [leadingZeros, bitLength]

theorem ofBytes_trimmed (bound : value < 256 ^ width) : ofBytes (trimmed width value) = value := by
  have fits := bitLength_le bound
  have short : bitLength value ≤ 8 * (width - leadingZeros width value / 8) := by
    rw [leadingZeros]
    omega
  rw [trimmed_eq]
  apply ofBytes_toBytes
  calc value < 2 ^ bitLength value := lt_two_pow_bitLength value
    _ ≤ 2 ^ (8 * (width - leadingZeros width value / 8)) := Nat.pow_le_pow_right (by decide) short
    _ = 256 ^ (width - leadingZeros width value / 8) := two_pow_eight_mul _

theorem trimmed_head (bound : value < 256 ^ width) (nonzero : value ≠ 0) :
    ∃ count, (trimmed width value) = UInt8.ofNat (value / 256 ^ count) :: toBytes count value ∧
      0 < value / 256 ^ count ∧ value / 256 ^ count < 256 ∧ (trimmed width value).length = count + 1 := by
  have fits := bitLength_le bound
  have positive : 0 < bitLength value := by
    rw [bitLength, if_neg nonzero]
    omega
  obtain ⟨count, counted⟩ : ∃ count, width - leadingZeros width value / 8 = count + 1 := by
    refine ⟨width - leadingZeros width value / 8 - 1, ?_⟩
    rw [leadingZeros]
    omega
  have long : 8 * count < bitLength value ∧ bitLength value ≤ 8 * (count + 1) := by
    rw [leadingZeros] at counted
    omega
  have low : 256 ^ count ≤ value := by
    have low := two_pow_le_of_lt_bitLength long.1
    rwa [two_pow_eight_mul] at low
  have high : value < 256 ^ (count + 1) := by
    have high := (lt_two_pow_bitLength value).trans_le (Nat.pow_le_pow_right (by decide) long.2)
    rwa [two_pow_eight_mul] at high
  refine ⟨count, ?_, Nat.div_pos low (by positivity), ?_, ?_⟩
  · rw [trimmed_eq, counted, toBytes_succ]
  · rwa [Nat.div_lt_iff_lt_mul (by positivity), ← pow_succ']
  · rw [trimmed_length, counted]

def readUint (width : ℕ) (data : List UInt8) : Except Error ℕ :=
  if width < data.length then .error .overflow
  else if data.head? = some 0 then .error .leadingZero
  else .ok (ofBytes data)

theorem readUint_lt {data : List UInt8} (read : readUint width data = .ok value) : value < 256 ^ width := by
  rw [readUint] at read
  split at read
  · cases read
  · next fits =>
    split at read
    · cases read
    · cases read
      exact (ofBytes_lt data).trans_le (Nat.pow_le_pow_right (by decide) (by omega))

theorem readUint_trimmed (bound : value < 256 ^ width) : readUint width (trimmed width value) = .ok value := by
  have short : ¬ width < (trimmed width value).length := by
    rw [trimmed_length]
    omega
  have canonical : (trimmed width value).head? ≠ some 0 := by
    by_cases nonzero : value = 0
    · simp [nonzero, trimmed_zero]
    · obtain ⟨count, written, positive, small, _⟩ := trimmed_head bound nonzero
      rw [written, List.head?_cons]
      intro zero
      have same := congrArg UInt8.toNat (Option.some.inj zero)
      rw [UInt8.toNat_ofNat', Nat.mod_eq_of_lt small] at same
      exact positive.ne' same
  rw [readUint, if_neg short, if_neg canonical, ofBytes_trimmed bound]

/-! ## Headers -/

structure Header where
  list : Bool
  payloadLength : ℕ
deriving DecidableEq, Repr

/-- What the first byte of an encoding says. -/
inductive Lead
  | single
  | short (list : Bool) (payloadLength : ℕ)
  | long (list : Bool) (lengthOfLength : ℕ)
deriving DecidableEq, Repr

def lead (first : UInt8) : Lead :=
  if first.toNat < 0x80 then .single
  else if first.toNat ≤ 0xB7 then .short false (first.toNat - 0x80)
  else if first.toNat ≤ 0xBF then .long false (first.toNat - 0xB7)
  else if first.toNat ≤ 0xF7 then .short true (first.toNat - 0xC0)
  else .long true (first.toNat - 0xF7)

namespace Header

def encode (header : Header) : List UInt8 :=
  if header.payloadLength < 56 then
    [UInt8.ofNat ((if header.list then 0xC0 else 0x80) + header.payloadLength)]
  else
    UInt8.ofNat ((if header.list then 0xF7 else 0xB7) + (trimmed 8 header.payloadLength).length) ::
      trimmed 8 header.payloadLength

def length (header : Header) : ℕ :=
  if header.payloadLength < 56 then 1 else 1 + 8 - leadingZeros 8 header.payloadLength / 8

def decode : Decoder Header := fun buf =>
  match buf with
  | [] => .error .inputTooShort
  | first :: rest =>
    match lead first with
    | .single => .ok (⟨false, 1⟩, first :: rest)
    | .short list payloadLength =>
      if rest.length < payloadLength then .error .inputTooShort
      else if list = false ∧ payloadLength = 1 ∧ ∀ next ∈ rest.head?, next.toNat < 0x80 then
        .error .nonCanonicalSingleByte
      else .ok (⟨list, payloadLength⟩, rest)
    | .long list lengthOfLength =>
      if rest.length < lengthOfLength then .error .inputTooShort
      else do
        let payloadLength ← readUint 8 (rest.take lengthOfLength)
        if payloadLength < 56 then .error .nonCanonicalSize
        else if (rest.drop lengthOfLength).length < payloadLength then .error .inputTooShort
        else .ok (⟨list, payloadLength⟩, rest.drop lengthOfLength)

theorem length_eq (header : Header) : header.length = header.encode.length := by
  rw [length, encode]
  split
  · rfl
  · have fits : leadingZeros 8 header.payloadLength / 8 ≤ 8 := by
      rw [leadingZeros]
      omega
    rw [List.length_cons, trimmed_length]
    omega

theorem lead_short (list : Bool) {payloadLength : ℕ} (short : payloadLength < 56) :
    lead (UInt8.ofNat ((if list then 0xC0 else 0x80) + payloadLength)) = .short list payloadLength := by
  cases list with
  | false =>
    have code : (UInt8.ofNat (0x80 + payloadLength)).toNat = 0x80 + payloadLength := by
      rw [UInt8.toNat_ofNat']
      omega
    simp only [lead, Bool.false_eq_true, if_false, code]
    rw [if_neg (by omega), if_pos (by omega), Nat.add_sub_cancel_left]
  | true =>
    have code : (UInt8.ofNat (0xC0 + payloadLength)).toNat = 0xC0 + payloadLength := by
      rw [UInt8.toNat_ofNat']
      omega
    simp only [lead, if_true, code]
    rw [if_neg (by omega), if_neg (by omega), if_neg (by omega), if_pos (by omega), Nat.add_sub_cancel_left]

theorem lead_long (list : Bool) {count : ℕ} (positive : 0 < count) (few : count ≤ 8) :
    lead (UInt8.ofNat ((if list then 0xF7 else 0xB7) + count)) = .long list count := by
  cases list with
  | false =>
    have code : (UInt8.ofNat (0xB7 + count)).toNat = 0xB7 + count := by
      rw [UInt8.toNat_ofNat']
      omega
    simp only [lead, Bool.false_eq_true, if_false, code]
    rw [if_neg (by omega), if_neg (by omega), if_pos (by omega), Nat.add_sub_cancel_left]
  | true =>
    have code : (UInt8.ofNat (0xF7 + count)).toNat = 0xF7 + count := by
      rw [UInt8.toNat_ofNat']
      omega
    simp only [lead, if_true, code]
    rw [if_neg (by omega), if_neg (by omega), if_neg (by omega), if_neg (by omega), Nat.add_sub_cancel_left]

section

variable {first : UInt8} {rest after : List UInt8} {header : Header} {list : Bool}

theorem decode_single (small : first.toNat < 0x80) (rest : List UInt8) :
    decode.run (first :: rest) = .ok (⟨false, 1⟩, first :: rest) := by
  simp only [StateT.run, decode, lead, if_pos small]

theorem run_decode_short {payloadLength : ℕ} (leads : lead first = .short list payloadLength) :
    decode.run (first :: rest) = .ok (header, after) ↔ header = ⟨list, payloadLength⟩ ∧ after = rest ∧
      payloadLength ≤ rest.length ∧ (list = false → payloadLength = 1 → ∃ next ∈ rest.head?, 0x80 ≤ next.toNat) := by
  simp only [StateT.run, decode, leads]
  split
  · next missing =>
    refine iff_of_false (by simp) ?_
    rintro ⟨_, _, there, _⟩
    omega
  · next there =>
    split
    · next single =>
      refine iff_of_false (by simp) ?_
      rintro ⟨_, _, _, canonical⟩
      obtain ⟨next, member, large⟩ := canonical single.1 single.2.1
      have small := single.2.2 next member
      omega
    · next canonical =>
      constructor
      · intro decoded
        cases decoded
        refine ⟨rfl, rfl, Nat.le_of_not_lt there, fun string one => ?_⟩
        by_contra none
        exact canonical ⟨string, one, fun next member => Nat.lt_of_not_le fun large => none ⟨next, member, large⟩⟩
      · rintro ⟨rfl, rfl, _, _⟩
        rfl

theorem run_decode_long {lengthOfLength : ℕ} (leads : lead first = .long list lengthOfLength) :
    decode.run (first :: rest) = .ok (header, after) ↔ lengthOfLength ≤ rest.length ∧
      readUint 8 (rest.take lengthOfLength) = .ok header.payloadLength ∧ header.list = list ∧
      after = rest.drop lengthOfLength ∧ 56 ≤ header.payloadLength ∧ header.payloadLength ≤ after.length := by
  simp only [StateT.run, decode, leads]
  split
  · next missing =>
    refine iff_of_false (by simp) ?_
    rintro ⟨held, _⟩
    omega
  · next held =>
    rw [bind_eq_ok]
    constructor
    · rintro ⟨payloadLength, read, decoded⟩
      split at decoded
      · cases decoded
      · next large =>
        split at decoded
        · cases decoded
        · next there =>
          cases decoded
          exact ⟨Nat.le_of_not_lt held, read, rfl, rfl, Nat.le_of_not_lt large, Nat.le_of_not_lt there⟩
    · rintro ⟨_, read, rfl, rfl, large, there⟩
      refine ⟨header.payloadLength, read, ?_⟩
      rw [if_neg (Nat.not_lt.mpr large), if_neg (Nat.not_lt.mpr there)]

end

theorem decode_encode (header : Header) (following : List UInt8) (addressable : header.payloadLength < 256 ^ 8)
    (there : header.payloadLength ≤ following.length)
    (canonical : header.list = false → header.payloadLength = 1 → ∃ next ∈ following.head?, 0x80 ≤ next.toNat) :
    decode.run (header.encode ++ following) = .ok (header, following) := by
  by_cases short : header.payloadLength < 56
  · rw [encode, if_pos short, List.cons_append, List.nil_append, run_decode_short (lead_short header.list short)]
    exact ⟨rfl, rfl, there, canonical⟩
  · obtain ⟨count, written, _, _, counted⟩ := trimmed_head addressable (by omega)
    have fits : (trimmed 8 header.payloadLength).length ≤ 8 := by
      rw [trimmed_length]
      omega
    rw [encode, if_neg short, List.cons_append, run_decode_long (lead_long header.list (by omega) fits), List.take_left,
      List.drop_left, List.length_append]
    exact ⟨Nat.le_add_right .., readUint_trimmed addressable, rfl, rfl, Nat.le_of_not_lt short, there⟩

theorem decode_local {buf rest : List UInt8} {header : Header} (decoded : decode.run buf = .ok (header, rest)) :
    ∃ front, buf = front ++ rest ∧ header.payloadLength ≤ rest.length ∧
      ∀ other, header.payloadLength ≤ other.length →
        other.take header.payloadLength = rest.take header.payloadLength →
        decode.run (front ++ other) = .ok (header, other) := by
  cases buf with
  | nil => cases decoded
  | cons first tail =>
    cases leads : lead first with
    | single =>
      simp only [StateT.run, decode, leads] at decoded
      cases decoded
      refine ⟨[], rfl, by simp, fun other there same => ?_⟩
      obtain ⟨more, rfl⟩ : ∃ more, other = first :: more := by
        cases other with
        | nil => simp at there
        | cons next more => exact ⟨more, by simpa using same⟩
      simp only [StateT.run, decode, List.nil_append, leads]
    | short list payloadLength =>
      obtain ⟨rfl, rfl, there, canonical⟩ := (run_decode_short leads).mp decoded
      refine ⟨[first], rfl, there, fun other enough same => ?_⟩
      rw [List.cons_append, List.nil_append, run_decode_short leads]
      refine ⟨rfl, rfl, enough, fun string one => ?_⟩
      have sameHead : other.head? = rest.head? := by
        have heads := congrArg List.head? same
        simpa only [List.head?_take, one, Nat.one_ne_zero, if_false] using heads
      rw [sameHead]
      exact canonical string one
    | long list lengthOfLength =>
      obtain ⟨held, read, kind, rfl, large, there⟩ := (run_decode_long leads).mp decoded
      have width : (tail.take lengthOfLength).length = lengthOfLength := by
        rw [List.length_take]
        omega
      refine ⟨first :: tail.take lengthOfLength, by simp, there, fun other enough _ => ?_⟩
      rw [List.cons_append, run_decode_long leads, List.take_left' width, List.drop_left' width, List.length_append]
      exact ⟨by omega, read, kind, rfl, large, enough⟩

end Header

end Rlp
