import WorldChain.Lib.Codec

/-! # Flashblock payloads on the wire

The delta and the base of a flashblock are structures of the wire format. The payload itself is a list whose length is
computed by hand: it holds its metadata as JSON bytes, and the empty string when it has no base.
-/

namespace WorldChain.Primitives

open Rlp

abbrev B64 := { data : List UInt8 // data.length = 8 }

abbrev Address := { data : List UInt8 // data.length = 20 }

abbrev B256 := { data : List UInt8 // data.length = 32 }

abbrev B512 := { data : List UInt8 // data.length = 64 }

abbrev Bloom := { data : List UInt8 // data.length = 256 }

abbrev U64 := Fin (256 ^ 8)

abbrev U256 := Fin (256 ^ 32)

instance neZeroU64 : NeZero (256 ^ 8) := ⟨by decide⟩

instance neZeroU256 : NeZero (256 ^ 32) := ⟨by decide⟩

/-- Values that are written as bytes and read back from them. -/
structure Binary (α : Type) where
  toBytes : α → List UInt8
  ofBytes : List UInt8 → Option α
  ofBytes_toBytes (value : α) : ofBytes (toBytes value) = some value

/-- The formats that are defined elsewhere. -/
structure Formats (Key Sig Metadata AccountChanges : Type) where
  key : Binary Key
  signature : Binary Sig
  json : Binary Metadata
  accountChanges : Codec AccountChanges

namespace Binary

variable {α : Type}

/-- Read a value from a byte string. -/
def decode (binary : Binary α) (complaint : String) : Decoder α := do
  let data ← Codec.bytes.decode
  match binary.ofBytes data with
  | some value => return value
  | none => throw (.custom complaint)

theorem decode_encode (binary : Binary α) (complaint : String) (value : α) (rest : List UInt8)
    (addressable : (Codec.bytes.encode (binary.toBytes value)).length < 256 ^ 8) :
    (binary.decode complaint).run (Codec.bytes.encode (binary.toBytes value) ++ rest) = .ok (value, rest) := by
  rw [decode, run_bind_of_ok _ (Codec.bytes.decode_encode _ rest addressable), binary.ofBytes_toBytes]
  rfl

end Binary

variable {Key Sig Metadata AccountChanges : Type}

/-! ## Structures -/

abbrev b64 : Codec B64 := .fixed 8

abbrev b256 : Codec B256 := .fixed 32

abbrev u8 : Codec (Fin (256 ^ 1)) := .uint 1 (by decide)

abbrev u64 : Codec U64 := .uint 8 (by decide)

structure ExecutionPayloadBaseV1 where
  parentBeaconBlockRoot : B256
  parentHash : B256
  feeRecipient : Address
  prevRandao : B256
  blockNumber : U64
  gasLimit : U64
  timestamp : U64
  extraData : List UInt8
  baseFeePerGas : U256
deriving DecidableEq

namespace ExecutionPayloadBaseV1

def fields : B256 × B256 × Address × B256 × U64 × U64 × U64 × List UInt8 × U256 ≃ ExecutionPayloadBaseV1 where
  toFun | (a, b, c, d, e, f, g, h, i) => ⟨a, b, c, d, e, f, g, h, i⟩
  invFun | ⟨a, b, c, d, e, f, g, h, i⟩ => (a, b, c, d, e, f, g, h, i)
  left_inv _ := rfl
  right_inv _ := rfl

def codec : Codec ExecutionPayloadBaseV1 :=
  .congr fields <| .derived <| b256.seq <| b256.seq <| (Codec.fixed 20).seq <| b256.seq <| u64.seq <| u64.seq <|
    u64.seq <| Codec.bytes.seq <| .uint 32 (by decide)

theorem encode_head (base : ExecutionPayloadBaseV1) (rest : List UInt8) : (codec.encode base ++ rest).head? ≠ some 0x80 :=
  encodeList_head _ _

end ExecutionPayloadBaseV1

structure Withdrawal where
  index : U64
  validatorIndex : U64
  address : Address
  amount : U64
deriving DecidableEq

namespace Withdrawal

def fields : U64 × U64 × Address × U64 ≃ Withdrawal where
  toFun | (a, b, c, d) => ⟨a, b, c, d⟩
  invFun | ⟨a, b, c, d⟩ => (a, b, c, d)
  left_inv _ := rfl
  right_inv _ := rfl

def codec : Codec Withdrawal := .congr fields <| .derived <| u64.seq <| u64.seq <| (Codec.fixed 20).seq u64

end Withdrawal

structure FlashblockAccessList (AccountChanges : Type) where
  changes : List AccountChanges
  minTxIndex : U64
  maxTxIndex : U64
deriving DecidableEq

structure FlashblockAccessListData (AccountChanges : Type) where
  accessList : FlashblockAccessList AccountChanges
  accessListHash : B256
deriving DecidableEq

namespace FlashblockAccessList

def fields : List AccountChanges × U64 × U64 ≃ FlashblockAccessList AccountChanges where
  toFun | (a, b, c) => ⟨a, b, c⟩
  invFun | ⟨a, b, c⟩ => (a, b, c)
  left_inv _ := rfl
  right_inv _ := rfl

def codec (accountChanges : Codec AccountChanges) : Codec (FlashblockAccessList AccountChanges) :=
  .congr fields <| .derived <| accountChanges.vector.seq <| u64.seq u64

end FlashblockAccessList

namespace FlashblockAccessListData

def fields : FlashblockAccessList AccountChanges × B256 ≃ FlashblockAccessListData AccountChanges where
  toFun | (a, b) => ⟨a, b⟩
  invFun | ⟨a, b⟩ => (a, b)
  left_inv _ := rfl
  right_inv _ := rfl

def codec (accountChanges : Codec AccountChanges) : Codec (FlashblockAccessListData AccountChanges) :=
  .congr fields <| .derived <| (FlashblockAccessList.codec accountChanges).seq b256

theorem encode_head (accountChanges : Codec AccountChanges) (data : FlashblockAccessListData AccountChanges)
    (rest : List UInt8) : ((codec accountChanges).encode data ++ rest).head? ≠ some 0x80 :=
  encodeList_head _ _

end FlashblockAccessListData

structure ExecutionPayloadFlashblockDeltaV1 (AccountChanges : Type) where
  stateRoot : B256
  receiptsRoot : B256
  logsBloom : Bloom
  gasUsed : U64
  blockHash : B256
  transactions : List (List UInt8)
  withdrawals : List Withdrawal
  withdrawalsRoot : B256
  accessListData : Option (FlashblockAccessListData AccountChanges)
deriving DecidableEq

namespace ExecutionPayloadFlashblockDeltaV1

def fields : (B256 × B256 × Bloom × U64 × B256 × List (List UInt8) × List Withdrawal × B256) ×
    Option (FlashblockAccessListData AccountChanges) ≃ ExecutionPayloadFlashblockDeltaV1 AccountChanges where
  toFun | ((a, b, c, d, e, f, g, h), i) => ⟨a, b, c, d, e, f, g, h, i⟩
  invFun | ⟨a, b, c, d, e, f, g, h, i⟩ => ((a, b, c, d, e, f, g, h), i)
  left_inv _ := rfl
  right_inv _ := rfl

/-- The access list is left out when there is none. -/
def codec (accountChanges : Codec AccountChanges) : Codec (ExecutionPayloadFlashblockDeltaV1 AccountChanges) :=
  .congr fields <| .derivedTrailing
    (b256.seq <| b256.seq <| (Codec.fixed 256).seq <| u64.seq <| b256.seq <| Codec.bytes.vector.seq <|
      Withdrawal.codec.vector.seq b256)
    (FlashblockAccessListData.codec accountChanges) (FlashblockAccessListData.encode_head accountChanges)

end ExecutionPayloadFlashblockDeltaV1

/-! ## The payload -/

structure FlashblocksPayloadV1 (Metadata AccountChanges : Type) where
  payloadId : B64
  index : U64
  diff : ExecutionPayloadFlashblockDeltaV1 AccountChanges
  metadata : Metadata
  base : Option ExecutionPayloadBaseV1
deriving DecidableEq

namespace FlashblocksPayloadV1

variable (formats : Formats Key Sig Metadata AccountChanges) (payload : FlashblocksPayloadV1 Metadata AccountChanges)

def payloadLength : ℕ :=
  b64.length payload.payloadId + u64.length payload.index +
    (ExecutionPayloadFlashblockDeltaV1.codec formats.accountChanges).length payload.diff +
    Codec.bytes.length (formats.json.toBytes payload.metadata) + payload.base.elim 1 ExecutionPayloadBaseV1.codec.length

def encode : List UInt8 :=
  (⟨true, payload.payloadLength formats⟩ : Header).encode ++ b64.encode payload.payloadId ++ u64.encode payload.index ++
    (ExecutionPayloadFlashblockDeltaV1.codec formats.accountChanges).encode payload.diff ++
    Codec.bytes.encode (formats.json.toBytes payload.metadata) ++
    payload.base.elim [0x80] ExecutionPayloadBaseV1.codec.encode

def length : ℕ := (⟨true, payload.payloadLength formats⟩ : Header).length + payload.payloadLength formats

def decodeBase : Decoder (Option ExecutionPayloadBaseV1) := fun body =>
  if body.head? = some 0x80 then .ok (none, body)
  else do
    let (base, rest) ← ExecutionPayloadBaseV1.codec.decode.run body
    .ok (some base, rest)

def decodeFields : Decoder (FlashblocksPayloadV1 Metadata AccountChanges) := do
  let payloadId ← b64.decode
  let index ← u64.decode
  let diff ← (ExecutionPayloadFlashblockDeltaV1.codec formats.accountChanges).decode
  let metadata ← formats.json.decode "bad JSON"
  let base ← decodeBase
  return ⟨payloadId, index, diff, metadata, base⟩

def decode : Decoder (FlashblocksPayloadV1 Metadata AccountChanges) := windowed (decodeFields formats)

/-- The fields, as they follow the header. -/
def contents : List UInt8 :=
  b64.encode payload.payloadId ++ (u64.encode payload.index ++
    ((ExecutionPayloadFlashblockDeltaV1.codec formats.accountChanges).encode payload.diff ++
      (Codec.bytes.encode (formats.json.toBytes payload.metadata) ++
        payload.base.elim [0x80] ExecutionPayloadBaseV1.codec.encode)))

theorem payloadLength_eq : payload.payloadLength formats = (payload.contents formats).length := by
  have base : payload.base.elim 1 ExecutionPayloadBaseV1.codec.length =
      (payload.base.elim [0x80] ExecutionPayloadBaseV1.codec.encode).length := by
    cases payload.base with
    | none => rfl
    | some base => exact ExecutionPayloadBaseV1.codec.length_eq base
  simp only [payloadLength, contents, List.length_append, Codec.length_eq, base]
  omega

theorem encode_eq : payload.encode formats = encodeList (payload.contents formats) := by
  rw [encode, encodeList, payloadLength_eq]
  simp only [contents, List.append_assoc]

theorem decodeBase_encode (base : Option ExecutionPayloadBaseV1)
    (addressable : (base.elim [0x80] ExecutionPayloadBaseV1.codec.encode).length < 256 ^ 8) :
    ∃ left, decodeBase.run (base.elim [0x80] ExecutionPayloadBaseV1.codec.encode) = .ok (base, left) := by
  cases base with
  | none => exact ⟨[0x80], rfl⟩
  | some base =>
    have read := ExecutionPayloadBaseV1.codec.decode_encode base [] addressable
    have list := ExecutionPayloadBaseV1.encode_head base []
    rw [List.append_nil] at read list
    refine ⟨[], ?_⟩
    rw [Option.elim_some]
    simp only [StateT.run, decodeBase] at read ⊢
    rw [if_neg list, read]
    rfl

theorem decode_encode (rest : List UInt8) (addressable : (payload.encode formats).length < 256 ^ 8) :
    (decode formats).run (payload.encode formats ++ rest) = .ok (payload, rest) := by
  rw [encode_eq] at addressable ⊢
  have inside := (length_le_encodeList _).trans_lt addressable
  have parts := inside
  simp only [contents, List.length_append] at parts
  obtain ⟨left, base⟩ := decodeBase_encode payload.base (by omega)
  have read : (decodeFields formats).run (payload.contents formats) = .ok (payload, left) := by
    rw [decodeFields, contents, run_bind_of_ok _ (b64.decode_encode _ _ (by omega)),
      run_bind_of_ok _ (u64.decode_encode _ _ (by omega)), run_bind_of_ok _ (Codec.decode_encode _ _ _ (by omega)),
      run_bind_of_ok _ (formats.json.decode_encode _ _ _ (by omega)), run_bind_of_ok _ base]
    rfl
  exact windowed_encodeList inside read

def codec : Codec (FlashblocksPayloadV1 Metadata AccountChanges) where
  encode := encode formats
  length := length formats
  decode := decode formats
  length_eq payload := by
    rw [length, encode_eq, payloadLength_eq]
    exact lengthList_eq _
  decode_encode payload rest addressable := decode_encode formats payload rest addressable
  isLocal := local_windowed _
  consumes := consumes_windowed _

end FlashblocksPayloadV1

end WorldChain.Primitives
