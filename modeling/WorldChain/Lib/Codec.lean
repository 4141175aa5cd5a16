import WorldChain.Lib.Rlp

/-! # Encodings that are read back

A `Codec` writes values, announces how long they are, and reads them back; the laws are part of it. Byte strings,
numbers, structures and vectors are written and read as alloy-rlp and its derive macros do; `windowed` is the lenient
reader of a list, which ignores what follows the last field.
-/

namespace Rlp

open BigEndian Machine

variable {α β : Type}

/-! ## Decoders -/

variable {buf rest data : List UInt8} {decoder : Decoder α} {value : α}

theorem run_bind_eq_ok {next : α → Decoder β} {result : β × List UInt8} :
    (decoder >>= next).run buf = .ok result ↔
      ∃ value rest, decoder.run buf = .ok (value, rest) ∧ (next value).run rest = .ok result := by
  rw [StateT.run_bind, bind_eq_ok]
  constructor
  · rintro ⟨⟨value, rest⟩, first, second⟩
    exact ⟨value, rest, first, second⟩
  · rintro ⟨value, rest, first, second⟩
    exact ⟨(value, rest), first, second⟩

theorem run_bind_of_ok (next : α → Decoder β) (first : decoder.run buf = .ok (value, rest)) :
    (decoder >>= next).run buf = (next value).run rest := by
  rw [StateT.run_bind, first]
  rfl

def Local (decoder : Decoder α) : Prop :=
  ∀ ⦃buf : List UInt8⦄ ⦃value : α⦄ ⦃rest : List UInt8⦄, decoder.run buf = .ok (value, rest) →
    ∃ consumed, buf = consumed ++ rest ∧ ∀ other, decoder.run (consumed ++ other) = .ok (value, other)

namespace Local

theorem pure (value : α) : Local (Pure.pure value : Decoder α) := by
  intro buf result rest decoded
  cases decoded
  exact ⟨[], rfl, fun other => rfl⟩

theorem lift (outcome : Except Error α) : Local (liftM outcome : Decoder α) := by
  intro buf value rest decoded
  cases outcome with
  | error => cases decoded
  | ok => exact Local.pure _ decoded

theorem throw (error : Error) : Local (MonadExcept.throw error : Decoder α) := by
  intro buf value rest decoded
  cases decoded

theorem bind {decoder : Decoder α} {next : α → Decoder β} (first : Local decoder) (second : ∀ value, Local (next value)) :
    Local (decoder >>= next) := by
  intro buf result rest decoded
  obtain ⟨value, middle, begun, ended⟩ := run_bind_eq_ok.mp decoded
  obtain ⟨front, rfl, replay⟩ := first begun
  obtain ⟨back, rfl, replayBack⟩ := second value ended
  refine ⟨front ++ back, (List.append_assoc ..).symm, fun other => ?_⟩
  rw [List.append_assoc, run_bind_of_ok next (replay _), replayBack]

end Local

theorem Local.run_take (isLocal : Local decoder) (count : ℕ) (buf : List UInt8) (value : α) :
    (∃ left, decoder.run (buf.take count) = .ok (value, left)) ↔
      ∃ rest, decoder.run buf = .ok (value, rest) ∧ (buf.drop count).length ≤ rest.length := by
  constructor
  · rintro ⟨left, decoded⟩
    obtain ⟨consumed, split, replay⟩ := isLocal decoded
    have whole := replay (left ++ buf.drop count)
    rw [← List.append_assoc, ← split, List.take_append_drop] at whole
    refine ⟨_, whole, ?_⟩
    rw [List.length_append]
    omega
  · rintro ⟨rest, decoded, within⟩
    obtain ⟨consumed, rfl, replay⟩ := isLocal decoded
    rw [List.length_drop, List.length_append] at within
    refine ⟨rest.take (count - consumed.length), ?_⟩
    rw [List.take_append, List.take_of_length_le (by omega)]
    exact replay _

/-- A decoder that succeeds consumes something. -/
def Consumes (decoder : Decoder α) : Prop := ∀ result, decoder.run [] ≠ .ok result

theorem Consumes.bind (consumes : Consumes decoder) (next : α → Decoder β) :
    Consumes (decoder >>= next) := by
  intro result decoded
  obtain ⟨value, rest, begun, _⟩ := run_bind_eq_ok.mp decoded
  exact consumes _ begun

theorem Header.consumes_decode : Consumes Header.decode := by
  intro result decoded
  cases decoded

/-- The next bytes. -/
def take (count : ℕ) : Decoder (List UInt8) := fun buf => .ok (buf.take count, buf.drop count)

def within (count : ℕ) (decoder : Decoder α) : Decoder α := fun buf => do
  let (value, _) ← decoder.run (buf.take count)
  .ok (value, buf.drop count)

def measured (decoder : Decoder α) : Decoder (α × ℕ) := fun buf => do
  let (value, rest) ← decoder.run buf
  .ok ((value, buf.length - rest.length), rest)

theorem run_measured_eq_ok {count : ℕ} :
    (measured decoder).run buf = .ok ((value, count), rest) ↔
      decoder.run buf = .ok (value, rest) ∧ count = buf.length - rest.length := by
  simp only [StateT.run, measured, bind_eq_ok]
  constructor
  · rintro ⟨⟨inner, left⟩, read, same⟩
    cases same
    exact ⟨read, rfl⟩
  · rintro ⟨read, rfl⟩
    exact ⟨(value, rest), read, rfl⟩

theorem Local.measured (isLocal : Local decoder) : Local (Rlp.measured decoder) := by
  rintro buf ⟨value, count⟩ rest decoded
  obtain ⟨read, rfl⟩ := run_measured_eq_ok.mp decoded
  obtain ⟨consumed, rfl, replay⟩ := isLocal read
  exact ⟨consumed, rfl, fun other => run_measured_eq_ok.mpr ⟨replay other, by simp⟩⟩

/-! ## What a header announces -/

/-- The contents of a string or of a list. -/
def decodeBytes (list : Bool) : Decoder (List UInt8) := do
  let header ← Header.decode
  if header.list = list then take header.payloadLength
  else throw (if list then .unexpectedString else .unexpectedList)

def windowed (fields : Decoder α) : Decoder α := do
  let header ← Header.decode
  if header.list then within header.payloadLength fields else throw .unexpectedString

def structured (fields : ℕ → Decoder α) : Decoder α := do
  let header ← Header.decode
  if header.list then
    let (value, consumed) ← measured (fields header.payloadLength)
    if consumed = header.payloadLength then return value
    else throw (.listLengthMismatch header.payloadLength consumed)
  else throw .unexpectedString

theorem run_decodeBytes_eq_ok {list : Bool} :
    (decodeBytes list).run buf = .ok (data, rest) ↔ ∃ header contents, Header.decode.run buf = .ok (header, contents) ∧
      header.list = list ∧ data = contents.take header.payloadLength ∧ rest = contents.drop header.payloadLength := by
  rw [decodeBytes, run_bind_eq_ok]
  constructor
  · rintro ⟨header, contents, begun, ended⟩
    split at ended
    · next kind =>
      cases ended
      exact ⟨header, contents, begun, kind, rfl, rfl⟩
    · cases ended
  · rintro ⟨header, contents, begun, kind, rfl, rfl⟩
    exact ⟨header, contents, begun, by rw [if_pos kind]; rfl⟩

theorem run_windowed_eq_ok {fields : Decoder α} :
    (windowed fields).run buf = .ok (value, rest) ↔ ∃ header contents left, Header.decode.run buf = .ok (header, contents) ∧
      header.list = true ∧ fields.run (contents.take header.payloadLength) = .ok (value, left) ∧
      rest = contents.drop header.payloadLength := by
  rw [windowed, run_bind_eq_ok]
  constructor
  · rintro ⟨header, contents, begun, ended⟩
    split at ended
    · next kind =>
      obtain ⟨⟨inner, left⟩, read, same⟩ := bind_eq_ok.mp ended
      cases same
      exact ⟨header, contents, left, begun, kind, read, rfl⟩
    · cases ended
  · rintro ⟨header, contents, left, begun, kind, read, rfl⟩
    refine ⟨header, contents, begun, ?_⟩
    rw [if_pos kind]
    exact bind_eq_ok.mpr ⟨(value, left), read, rfl⟩

theorem run_structured_eq_ok {fields : ℕ → Decoder α} :
    (structured fields).run buf = .ok (value, rest) ↔ ∃ header contents, Header.decode.run buf = .ok (header, contents) ∧
      header.list = true ∧ (fields header.payloadLength).run contents = .ok (value, rest) ∧
      contents.length - rest.length = header.payloadLength := by
  rw [structured, run_bind_eq_ok]
  constructor
  · rintro ⟨header, contents, begun, ended⟩
    split at ended
    · next kind =>
      obtain ⟨⟨inner, consumed⟩, left, read, checked⟩ := run_bind_eq_ok.mp ended
      dsimp only at checked
      split at checked
      · next whole =>
        cases checked
        obtain ⟨inside, rfl⟩ := run_measured_eq_ok.mp read
        exact ⟨header, contents, begun, kind, inside, whole⟩
      · cases checked
    · cases ended
  · rintro ⟨header, contents, begun, kind, inside, whole⟩
    refine ⟨header, contents, begun, ?_⟩
    rw [if_pos kind, run_bind_of_ok _ (run_measured_eq_ok.mpr ⟨inside, rfl⟩)]
    dsimp only
    rw [if_pos whole]
    rfl

theorem Header.replay {contents : List UInt8} {header : Header} (begun : decode.run buf = .ok (header, contents)) :
    ∃ front, buf = front ++ contents ∧ (contents.take header.payloadLength).length = header.payloadLength ∧
      ∀ other, decode.run (front ++ (contents.take header.payloadLength ++ other)) =
        .ok (header, contents.take header.payloadLength ++ other) := by
  obtain ⟨front, rfl, there, replay⟩ := decode_local begun
  have width : (contents.take header.payloadLength).length = header.payloadLength := by
    rw [List.length_take, Nat.min_eq_left there]
  refine ⟨front, rfl, width, fun other => replay _ ?_ (List.take_left' width)⟩
  rw [List.length_append, width]
  omega

theorem local_decodeBytes (list : Bool) : Local (decodeBytes list) := by
  intro buf data rest decoded
  obtain ⟨header, contents, begun, kind, rfl, rfl⟩ := run_decodeBytes_eq_ok.mp decoded
  obtain ⟨front, rfl, width, replay⟩ := Header.replay begun
  refine ⟨front ++ contents.take header.payloadLength, by simp, fun other => ?_⟩
  rw [List.append_assoc]
  exact run_decodeBytes_eq_ok.mpr
    ⟨header, _, replay other, kind, (List.take_left' width).symm, (List.drop_left' width).symm⟩

theorem local_windowed (fields : Decoder α) : Local (windowed fields) := by
  intro buf value rest decoded
  obtain ⟨header, contents, left, begun, kind, read, rfl⟩ := run_windowed_eq_ok.mp decoded
  obtain ⟨front, rfl, width, replay⟩ := Header.replay begun
  refine ⟨front ++ contents.take header.payloadLength, by simp, fun other => ?_⟩
  rw [List.append_assoc]
  refine run_windowed_eq_ok.mpr ⟨header, _, left, replay other, kind, ?_, (List.drop_left' width).symm⟩
  rwa [List.take_left' width]

theorem local_structured {fields : ℕ → Decoder α} (isLocal : ∀ budget, Local (fields budget)) : Local (structured fields) := by
  intro buf value rest decoded
  obtain ⟨header, contents, begun, kind, inside, whole⟩ := run_structured_eq_ok.mp decoded
  obtain ⟨consumed, rfl, again⟩ := isLocal _ inside
  obtain ⟨front, rfl, _, replay⟩ := Header.replay begun
  have width : consumed.length = header.payloadLength := by
    rw [← whole, List.length_append, Nat.add_sub_cancel]
  rw [List.take_left' width] at replay
  refine ⟨front ++ consumed, (List.append_assoc ..).symm, fun other => ?_⟩
  rw [List.append_assoc]
  exact run_structured_eq_ok.mpr ⟨header, _, replay other, kind, again other, by simpa using width⟩

/-! ## Lists that have been written -/

/-- A list with these contents. -/
def encodeList (contents : List UInt8) : List UInt8 := (⟨true, contents.length⟩ : Header).encode ++ contents

section

variable {contents rest : List UInt8} (addressable : contents.length < 256 ^ 8)

include addressable

theorem decode_encodeList : Header.decode.run (encodeList contents ++ rest) = .ok (⟨true, contents.length⟩, contents ++ rest) := by
  rw [encodeList, List.append_assoc]
  exact Header.decode_encode _ _ addressable (by simp) fun string => by cases string

theorem decodeBytes_encodeList : (decodeBytes true).run (encodeList contents ++ rest) = .ok (contents, rest) :=
  run_decodeBytes_eq_ok.mpr ⟨_, _, decode_encodeList addressable, rfl, List.take_left.symm, List.drop_left.symm⟩

theorem windowed_encodeList {fields : Decoder α} {value : α} {left : List UInt8}
    (read : fields.run contents = .ok (value, left)) :
    (windowed fields).run (encodeList contents ++ rest) = .ok (value, rest) := by
  refine run_windowed_eq_ok.mpr ⟨_, _, left, decode_encodeList addressable, rfl, ?_, List.drop_left.symm⟩
  rwa [List.take_left]

theorem structured_encodeList {fields : ℕ → Decoder α} {value : α}
    (read : (fields contents.length).run (contents ++ rest) = .ok (value, rest)) :
    (structured fields).run (encodeList contents ++ rest) = .ok (value, rest) :=
  run_structured_eq_ok.mpr ⟨_, _, decode_encodeList addressable, rfl, read, by simp⟩

end

/-! ## Codecs -/

structure Codec (α : Type) where
  encode : α → List UInt8
  length : α → ℕ
  decode : Decoder α
  length_eq (value : α) : length value = (encode value).length
  decode_encode (value : α) (rest : List UInt8) (addressable : (encode value).length < 256 ^ 8) :
    decode.run (encode value ++ rest) = .ok (value, rest)
  isLocal : Local decode
  consumes : Consumes decode

/-- A byte that is its own encoding. -/
def isSingle (data : List UInt8) : Prop := data.length = 1 ∧ ∀ byte ∈ data.head?, byte.toNat < 0x80

instance decidableIsSingle (data : List UInt8) : Decidable (isSingle data) := inferInstanceAs (Decidable (_ ∧ _))

theorem isSingle_iff : isSingle data ↔ ∃ byte, data = [byte] ∧ byte.toNat < 0x80 := by
  constructor
  · rintro ⟨one, small⟩
    obtain ⟨byte, rfl⟩ := List.length_eq_one_iff.mp one
    exact ⟨byte, rfl, small byte rfl⟩
  · rintro ⟨byte, rfl, small⟩
    exact ⟨rfl, by simpa using small⟩

def encodeBytes (data : List UInt8) : List UInt8 :=
  if isSingle data then data else (⟨false, data.length⟩ : Header).encode ++ data

theorem length_le_encodeBytes (data : List UInt8) : data.length ≤ (encodeBytes data).length := by
  rw [encodeBytes]
  split
  · exact le_rfl
  · rw [List.length_append]
    omega

theorem decodeBytes_encodeBytes (rest : List UInt8) (addressable : (encodeBytes data).length < 256 ^ 8) :
    (decodeBytes false).run (encodeBytes data ++ rest) = .ok (data, rest) := by
  have held := (length_le_encodeBytes data).trans_lt addressable
  rw [encodeBytes]
  split
  · next single =>
    obtain ⟨byte, rfl, small⟩ := isSingle_iff.mp single
    exact run_decodeBytes_eq_ok.mpr ⟨_, _, Header.decode_single small rest, rfl, rfl, rfl⟩
  · next several =>
    have canonical : data.length = 1 → ∃ next ∈ (data ++ rest).head?, 0x80 ≤ next.toNat := by
      intro one
      obtain ⟨byte, rfl⟩ := List.length_eq_one_iff.mp one
      refine ⟨byte, by simp, ?_⟩
      by_contra small
      exact several (isSingle_iff.mpr ⟨byte, rfl, by omega⟩)
    have header := Header.decode_encode ⟨false, data.length⟩ (data ++ rest) held (by simp) fun _ => canonical
    rw [List.append_assoc]
    exact run_decodeBytes_eq_ok.mpr ⟨_, _, header, rfl, List.take_left.symm, List.drop_left.symm⟩

namespace Codec

theorem consumes_decodeBytes (list : Bool) : Consumes (decodeBytes list) := Header.consumes_decode.bind _

/-- Byte strings. -/
def bytes : Codec (List UInt8) where
  encode := encodeBytes
  length data := if isSingle data then data.length else data.length + (⟨false, data.length⟩ : Header).length
  decode := decodeBytes false
  length_eq data := by
    rw [encodeBytes, Header.length_eq]
    split
    · rfl
    · rw [List.length_append, Nat.add_comm]
  decode_encode _ rest addressable := decodeBytes_encodeBytes rest addressable
  isLocal := local_decodeBytes false
  consumes := consumes_decodeBytes false

/-- Byte strings of a fixed length. -/
def fixed (width : ℕ) : Codec { data : List UInt8 // data.length = width } where
  encode data := encodeBytes data.1
  length data := bytes.length data.1
  decode := do
    let data ← decodeBytes false
    if exact : data.length = width then return ⟨data, exact⟩ else throw .unexpectedLength
  length_eq data := bytes.length_eq data.1
  decode_encode data rest addressable := by
    rw [run_bind_of_ok _ (decodeBytes_encodeBytes rest addressable), dif_pos data.2]
    rfl
  isLocal := by
    apply (local_decodeBytes false).bind
    intro data
    split
    · exact .pure _
    · exact .throw _
  consumes := (consumes_decodeBytes false).bind _

end Codec

/-! ## Numbers -/

def encodeUint (width value : ℕ) : List UInt8 :=
  if value = 0 then [0x80]
  else if value < 0x80 then [UInt8.ofNat value]
  else UInt8.ofNat (0x80 + (trimmed width value).length) :: trimmed width value

def lengthUint (width value : ℕ) : ℕ := if value < 0x80 then 1 else 1 + width - leadingZeros width value / 8

def toUint (width : ℕ) (data : List UInt8) : Except Error (Fin (256 ^ width)) :=
  match read : readUint width data with
  | .ok value => .ok ⟨value, readUint_lt read⟩
  | .error error => .error error

theorem toUint_trimmed {width : ℕ} (value : Fin (256 ^ width)) : toUint width (trimmed width value) = .ok value := by
  have read := readUint_trimmed value.2
  rw [toUint]
  split
  · next same =>
    rw [read] at same
    cases same
    rfl
  · next same =>
    rw [read] at same
    cases same

theorem encodeUint_eq {width value : ℕ} (narrow : width < 56) (bound : value < 256 ^ width) :
    encodeUint width value = encodeBytes (trimmed width value) := by
  rw [encodeUint, encodeBytes]
  split
  · next zero =>
    rw [zero, trimmed_zero]
    rfl
  · next nonzero =>
    obtain ⟨count, written, positive, small, counted⟩ := trimmed_head bound nonzero
    have first : (UInt8.ofNat (value / 256 ^ count)).toNat = value / 256 ^ count := by
      rw [UInt8.toNat_ofNat', Nat.mod_eq_of_lt small]
    split
    · next below =>
      -- a number below 0x80 has one byte, which is its own encoding
      obtain rfl : count = 0 := by
        by_contra more
        have large : 256 ≤ 256 ^ count := Nat.le_self_pow more 256
        exact absurd (Nat.div_eq_of_lt (by omega : value < 256 ^ count)) positive.ne'
      simp only [pow_zero, Nat.div_one, toBytes] at written first
      rw [written, if_pos (isSingle_iff.mpr ⟨_, rfl, by omega⟩)]
    · next above =>
      have several : ¬ isSingle (trimmed width value) := by
        intro single
        obtain ⟨byte, only, below⟩ := isSingle_iff.mp single
        rw [only, List.length_singleton] at counted
        obtain rfl : count = 0 := by omega
        rw [only, List.cons.injEq] at written
        rw [written.1, first, pow_zero, Nat.div_one] at below
        exact above below
      have short : (trimmed width value).length < 56 := by
        rw [trimmed_length]
        omega
      rw [if_neg several, Header.encode, if_pos short]
      rfl

theorem lengthUint_eq (width value : ℕ) :
    lengthUint width value = (encodeUint width value).length := by
  rw [lengthUint, encodeUint]
  by_cases nonzero : value = 0
  · simp [nonzero]
  · rw [if_neg nonzero]
    split
    · rfl
    · have fits : leadingZeros width value / 8 ≤ width := by
        rw [leadingZeros]
        omega
      rw [List.length_cons, trimmed_length]
      omega

namespace Codec

/-- Numbers of `width` bytes. -/
def uint (width : ℕ) (narrow : width < 56) : Codec (Fin (256 ^ width)) where
  encode value := encodeUint width value
  length value := lengthUint width value
  decode := do
    let data ← decodeBytes false
    toUint width data
  length_eq value := lengthUint_eq width value
  decode_encode value rest addressable := by
    rw [encodeUint_eq narrow value.2] at addressable ⊢
    rw [run_bind_of_ok _ (decodeBytes_encodeBytes rest addressable), toUint_trimmed]
    rfl
  isLocal := (local_decodeBytes false).bind fun data => .lift _
  consumes := (consumes_decodeBytes false).bind _

/-! ## Structures and vectors -/

/-- One value after another. -/
def seq (first : Codec α) (second : Codec β) : Codec (α × β) where
  encode value := first.encode value.1 ++ second.encode value.2
  length value := first.length value.1 + second.length value.2
  decode := do
    let one ← first.decode
    let two ← second.decode
    return (one, two)
  length_eq value := by rw [List.length_append, first.length_eq, second.length_eq]
  decode_encode value rest addressable := by
    rw [List.length_append] at addressable
    rw [List.append_assoc, run_bind_of_ok _ (first.decode_encode _ _ (by omega)),
      run_bind_of_ok _ (second.decode_encode _ _ (by omega))]
    rfl
  isLocal := first.isLocal.bind fun _ => second.isLocal.bind fun _ => .pure _
  consumes := first.consumes.bind _

def congr (form : α ≃ β) (codec : Codec α) : Codec β where
  encode value := codec.encode (form.symm value)
  length value := codec.length (form.symm value)
  decode := do
    let value ← codec.decode
    return form value
  length_eq value := codec.length_eq _
  decode_encode value rest addressable := by
    rw [run_bind_of_ok _ (codec.decode_encode _ rest addressable), Equiv.apply_symm_apply]
    rfl
  isLocal := codec.isLocal.bind fun _ => .pure _
  consumes := codec.consumes.bind _

theorem encode_ne_nil (codec : Codec α) (value : α) : codec.encode value ≠ [] := by
  intro none
  have read := codec.decode_encode value [] (by rw [none]; decide)
  rw [none] at read
  exact codec.consumes _ read

end Codec

/-- The announced length of a list. -/
def lengthList (payloadLength : ℕ) : ℕ := (⟨true, payloadLength⟩ : Header).length + payloadLength

theorem lengthList_eq (contents : List UInt8) : lengthList contents.length = (encodeList contents).length := by
  rw [lengthList, encodeList, Header.length_eq, List.length_append]

theorem length_le_encodeList (contents : List UInt8) : contents.length ≤ (encodeList contents).length := by
  rw [encodeList, List.length_append]
  omega

theorem encodeList_head (contents rest : List UInt8) : (encodeList contents ++ rest).head? ≠ some 0x80 := by
  have first : ∃ code tail, (⟨true, contents.length⟩ : Header).encode = UInt8.ofNat code :: tail ∧ 0xC0 ≤ code ∧ code ≤ 0xFF := by
    simp only [Header.encode, if_true]
    split
    · next short => exact ⟨_, _, rfl, by omega, by omega⟩
    · refine ⟨_, _, rfl, by omega, ?_⟩
      rw [trimmed_length]
      omega
  obtain ⟨code, tail, written, low, high⟩ := first
  rw [encodeList, written, List.append_assoc, List.cons_append, List.head?_cons]
  intro same
  have value := congrArg UInt8.toNat (Option.some.inj same)
  rw [UInt8.toNat_ofNat', Nat.mod_eq_of_lt (by omega)] at value
  exact absurd value (by change code ≠ 0x80; omega)

theorem consumes_structured (fields : ℕ → Decoder α) : Consumes (structured fields) := Header.consumes_decode.bind _

theorem consumes_windowed (fields : Decoder α) : Consumes (windowed fields) := Header.consumes_decode.bind _

def decodeItems (item : Decoder α) : ℕ → List UInt8 → Except Error (List α)
  | _, [] => .ok []
  -- an item consumes at least a byte, so there are no more items than bytes
  | 0, _ :: _ => .error .inputTooShort
  | fuel + 1, payload => do
    let (value, rest) ← item.run payload
    let values ← decodeItems item fuel rest
    .ok (value :: values)

def optional (last : Decoder α) : Decoder (Option α) := fun buf =>
  if buf.head? = some 0x80 then .ok (none, buf.drop 1)
  else do
    let (value, rest) ← last.run buf
    .ok (some value, rest)

def trailing (fields : Decoder α) (last : Decoder β) (budget : ℕ) : Decoder (α × Option β) := do
  let (value, consumed) ← measured fields
  if consumed < budget then
    let more ← optional last
    return (value, more)
  else return (value, none)

theorem local_optional {last : Decoder α} (isLocal : Local last) (consumes : Consumes last) : Local (optional last) := by
  intro buf value rest decoded
  simp only [StateT.run, optional] at decoded
  split at decoded
  · next empty =>
    cases decoded
    cases buf with
    | nil => cases empty
    | cons first tail =>
      cases empty
      exact ⟨[0x80], rfl, fun other => rfl⟩
  · next present =>
    obtain ⟨⟨inner, left⟩, read, same⟩ := bind_eq_ok.mp decoded
    cases same
    obtain ⟨consumed, rfl, replay⟩ := isLocal read
    obtain ⟨first, tail, rfl⟩ : ∃ first tail, consumed = first :: tail := by
      cases consumed with
      | nil => exact absurd (replay []) (consumes _)
      | cons first tail => exact ⟨first, tail, rfl⟩
    refine ⟨first :: tail, rfl, fun other => ?_⟩
    have stays : (first :: tail ++ other).head? ≠ some 0x80 := present
    simp only [StateT.run, optional] at replay ⊢
    rw [if_neg stays, replay other]
    rfl

theorem local_trailing {fields : Decoder α} {last : Decoder β} (isLocal : Local fields) (lastLocal : Local last)
    (consumes : Consumes last) (budget : ℕ) : Local (trailing fields last budget) := by
  apply isLocal.measured.bind
  rintro ⟨value, consumed⟩
  dsimp only
  split
  · exact (local_optional lastLocal consumes).bind fun _ => .pure _
  · exact .pure _

theorem decodeItems_flatMap (item : Codec α) (values : List α) (fuel : ℕ)
    (enough : (values.flatMap item.encode).length ≤ fuel) (addressable : (values.flatMap item.encode).length < 256 ^ 8) :
    decodeItems item.decode fuel (values.flatMap item.encode) = .ok values := by
  induction values generalizing fuel with
  | nil =>
    rw [List.flatMap_nil, decodeItems]
  | cons value values ih =>
    obtain ⟨first, tail, written⟩ := List.exists_cons_of_ne_nil (item.encode_ne_nil value)
    have longer : 0 < (item.encode value).length := by simp [written]
    rw [List.flatMap_cons, List.length_append] at enough addressable
    obtain ⟨fuel, rfl⟩ : ∃ less, fuel = less + 1 := Nat.exists_eq_succ_of_ne_zero (by omega)
    have read := item.decode_encode value (values.flatMap item.encode) (by omega)
    rw [List.flatMap_cons]
    rw [written, List.cons_append] at read ⊢
    rw [decodeItems.eq_def]
    dsimp only
    rw [read]
    change (decodeItems item.decode fuel (values.flatMap item.encode) >>= fun values => .ok (value :: values)) = _
    rw [ih fuel (by omega) (by omega)]
    rfl

theorem optional_encode (last : Codec α) (notEmpty : ∀ value rest, (last.encode value ++ rest).head? ≠ some 0x80) (value : α)
    (rest : List UInt8) (addressable : (last.encode value).length < 256 ^ 8) :
    (optional last.decode).run (last.encode value ++ rest) = .ok (some value, rest) := by
  have read := last.decode_encode value rest addressable
  simp only [StateT.run, optional] at read ⊢
  rw [if_neg (notEmpty value rest), read]
  rfl

theorem trailing_encode (fields : Codec α) (last : Codec β)
    (notEmpty : ∀ value rest, (last.encode value ++ rest).head? ≠ some 0x80) (value : α) (more : Option β) (rest : List UInt8)
    (addressable : (fields.encode value ++ more.elim [] last.encode).length < 256 ^ 8) :
    (trailing fields.decode last.decode (fields.encode value ++ more.elim [] last.encode).length).run
      (fields.encode value ++ more.elim [] last.encode ++ rest) = .ok ((value, more), rest) := by
  rw [List.length_append] at addressable
  have begun := run_measured_eq_ok.mpr ⟨fields.decode_encode value (more.elim [] last.encode ++ rest) (by omega), rfl⟩
  have consumed : (fields.encode value ++ (more.elim [] last.encode ++ rest)).length -
      (more.elim [] last.encode ++ rest).length = (fields.encode value).length := by
    rw [List.length_append, Nat.add_sub_cancel]
  rw [consumed] at begun
  rw [List.append_assoc, trailing, run_bind_of_ok _ begun, List.length_append]
  dsimp only
  cases more with
  | none =>
    rw [if_neg (by simp)]
    rfl
  | some more =>
    have longer := List.length_pos_of_ne_nil (last.encode_ne_nil more)
    rw [Option.elim_some] at addressable
    rw [if_pos (by rw [Option.elim_some]; omega), Option.elim_some,
      run_bind_of_ok _ (optional_encode last notEmpty more rest (by omega))]
    rfl

namespace Codec

/-- A list whose contents are left as they are. -/
def uninterpreted : Codec (List UInt8) where
  encode := encodeList
  length contents := lengthList contents.length
  decode := decodeBytes true
  length_eq := lengthList_eq
  decode_encode _ _ addressable := decodeBytes_encodeList ((length_le_encodeList _).trans_lt addressable)
  isLocal := local_decodeBytes true
  consumes := consumes_decodeBytes true

/-- A structure: a list of its fields. -/
def derived (fields : Codec α) : Codec α where
  encode value := encodeList (fields.encode value)
  length value := lengthList (fields.length value)
  decode := structured fun _ => fields.decode
  length_eq value := by rw [fields.length_eq, lengthList_eq]
  decode_encode value rest addressable := by
    have inside := (length_le_encodeList _).trans_lt addressable
    exact structured_encodeList inside (fields.decode_encode value rest inside)
  isLocal := local_structured fun _ => fields.isLocal
  consumes := consumes_structured _

/-- A vector: a list of its items. -/
def vector (item : Codec α) : Codec (List α) where
  encode values := encodeList (values.flatMap item.encode)
  length values := lengthList (values.map item.length).sum
  decode := do
    let payload ← decodeBytes true
    decodeItems item.decode payload.length payload
  length_eq values := by
    have total : (values.map item.length).sum = (values.flatMap item.encode).length := by
      rw [List.length_flatMap]
      congr 2
      funext value
      exact item.length_eq value
    rw [total, lengthList_eq]
  decode_encode values rest addressable := by
    have inside := (length_le_encodeList _).trans_lt addressable
    rw [run_bind_of_ok _ (decodeBytes_encodeList inside), decodeItems_flatMap item values _ le_rfl inside]
    rfl
  isLocal := (local_decodeBytes true).bind fun _ => .lift _
  consumes := (consumes_decodeBytes true).bind _

def derivedTrailing (fields : Codec α) (last : Codec β)
    (notEmpty : ∀ value rest, (last.encode value ++ rest).head? ≠ some 0x80) : Codec (α × Option β) where
  encode value := encodeList (fields.encode value.1 ++ value.2.elim [] last.encode)
  length value := lengthList (fields.length value.1 + value.2.elim 0 last.length)
  decode := structured (trailing fields.decode last.decode)
  length_eq value := by
    have total : fields.length value.1 + value.2.elim 0 last.length =
        (fields.encode value.1 ++ value.2.elim [] last.encode).length := by
      rw [List.length_append, fields.length_eq]
      cases value.2 with
      | none => rfl
      | some more => rw [Option.elim_some, Option.elim_some, last.length_eq]
    rw [total, lengthList_eq]
  decode_encode value rest addressable := by
    have inside := (length_le_encodeList _).trans_lt addressable
    exact structured_encodeList inside (trailing_encode fields last notEmpty value.1 value.2 rest inside)
  isLocal := local_structured (local_trailing fields.isLocal last.isLocal last.consumes)
  consumes := consumes_structured _

end Codec

end Rlp
