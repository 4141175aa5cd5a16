import WorldChain.Primitives.Payload

/-! # Frames of the peer protocol

A frame is a control message of one byte, or a message together with the authorization of its builder and the builder's
signature.
-/

namespace WorldChain.Primitives

open Rlp Machine

variable {Key Sig Metadata AccountChanges : Type}

/-- The hash function and the signature scheme. -/
structure Crypto (Key Sig : Type) where
  hash : List UInt8 → List UInt8
  verify : Key → List UInt8 → Sig → Bool

inductive FlashblocksError
  | invalidAuthorizerSig
  | invalidBuilderSig
  | inputTooShort
  | unknownMessageType
  | rlp (error : Rlp.Error)
deriving DecidableEq, Repr

/-! ## Authorizations -/

/-- The permission of a builder to publish. -/
structure Authorization (Key Sig : Type) where
  payloadId : B64
  timestamp : U64
  builderVk : Key
  authorizerSig : Sig
deriving DecidableEq

namespace Authorization

variable (formats : Formats Key Sig Metadata AccountChanges) (authorization : Authorization Key Sig)

def payloadLength : ℕ :=
  b64.length authorization.payloadId + u64.length authorization.timestamp +
    Codec.bytes.length (formats.key.toBytes authorization.builderVk) +
    Codec.bytes.length (formats.signature.toBytes authorization.authorizerSig)

def encode : List UInt8 :=
  (⟨true, authorization.payloadLength formats⟩ : Header).encode ++ b64.encode authorization.payloadId ++
    u64.encode authorization.timestamp ++ Codec.bytes.encode (formats.key.toBytes authorization.builderVk) ++
    Codec.bytes.encode (formats.signature.toBytes authorization.authorizerSig)

def length : ℕ :=
  (⟨true, authorization.payloadLength formats⟩ : Header).length + authorization.payloadLength formats

def decodeFields : Decoder (Authorization Key Sig) := do
  let payloadId ← b64.decode
  let timestamp ← u64.decode
  let builderVk ← formats.key.decode "bad builder_pub"
  let authorizerSig ← formats.signature.decode "bad signature"
  return ⟨payloadId, timestamp, builderVk, authorizerSig⟩

def decode : Decoder (Authorization Key Sig) := windowed (decodeFields formats)

/-- What the authorizer signs. -/
def message : List UInt8 :=
  authorization.payloadId.1 ++ (BigEndian.toBytes 8 authorization.timestamp).reverse ++
    formats.key.toBytes authorization.builderVk

def verify (crypto : Crypto Key Sig) (authorizer : Key) : Except FlashblocksError Unit :=
  if crypto.verify authorizer (crypto.hash (authorization.message formats)) authorization.authorizerSig then .ok ()
  else .error .invalidAuthorizerSig

/-- The fields, as they follow the header. -/
def contents : List UInt8 :=
  b64.encode authorization.payloadId ++ (u64.encode authorization.timestamp ++
    (Codec.bytes.encode (formats.key.toBytes authorization.builderVk) ++
      Codec.bytes.encode (formats.signature.toBytes authorization.authorizerSig)))

theorem payloadLength_eq : authorization.payloadLength formats = (authorization.contents formats).length := by
  simp only [payloadLength, contents, List.length_append, Codec.length_eq]
  omega

theorem encode_eq : authorization.encode formats = encodeList (authorization.contents formats) := by
  rw [encode, encodeList, payloadLength_eq]
  simp only [contents, List.append_assoc]

theorem length_eq : authorization.length formats = (authorization.encode formats).length := by
  rw [length, encode_eq, payloadLength_eq]
  exact lengthList_eq _

theorem decode_encode (rest : List UInt8) (addressable : (authorization.encode formats).length < 256 ^ 8) :
    (decode formats).run (authorization.encode formats ++ rest) = .ok (authorization, rest) := by
  rw [encode_eq] at addressable ⊢
  have inside := (length_le_encodeList _).trans_lt addressable
  have parts := inside
  simp only [contents, List.length_append] at parts
  have signature := formats.signature.decode_encode "bad signature" authorization.authorizerSig [] (by omega)
  rw [List.append_nil] at signature
  have read : (decodeFields formats).run (authorization.contents formats) = .ok (authorization, []) := by
    rw [decodeFields, contents, run_bind_of_ok _ (b64.decode_encode _ _ (by omega)),
      run_bind_of_ok _ (u64.decode_encode _ _ (by omega)),
      run_bind_of_ok _ (formats.key.decode_encode _ _ _ (by omega)), run_bind_of_ok _ signature]
    rfl
  exact windowed_encodeList inside read

end Authorization

/-! ## Messages -/

inductive AuthorizedMsg (Metadata AccountChanges : Type)
  | flashblocksPayloadV1 (payload : FlashblocksPayloadV1 Metadata AccountChanges)
  | startPublish
  | stopPublish
deriving DecidableEq

namespace AuthorizedMsg

variable (formats : Formats Key Sig Metadata AccountChanges) (msg : AuthorizedMsg Metadata AccountChanges)

def tag : ℕ :=
  match msg with
  | flashblocksPayloadV1 _ => 0
  | startPublish => 1
  | stopPublish => 2

/-- Only a flashblock has contents besides its tag. -/
def body : List UInt8 :=
  match msg with
  | flashblocksPayloadV1 payload => payload.encode formats
  | startPublish => []
  | stopPublish => []

def bodyLength : ℕ :=
  match msg with
  | flashblocksPayloadV1 payload => payload.length formats
  | startPublish => 0
  | stopPublish => 0

def encode : List UInt8 :=
  (⟨true, 1 + msg.bodyLength formats⟩ : Header).encode ++ encodeUint 4 msg.tag ++ msg.body formats

def length : ℕ := (⟨true, 1 + msg.bodyLength formats⟩ : Header).length + (1 + msg.bodyLength formats)

/-- The message with a tag. -/
def decodeTagged (tag : ℕ) : Decoder (AuthorizedMsg Metadata AccountChanges) :=
  match tag with
  | 0 => do
    let payload ← FlashblocksPayloadV1.decode formats
    return flashblocksPayloadV1 payload
  | 1 => return startPublish
  | 2 => return stopPublish
  | _ => throw (.custom "unknown tag")

/-- The length in the header is not used again. -/
def decode : Decoder (AuthorizedMsg Metadata AccountChanges) := do
  let header ← Header.decode
  if header.list then
    let tag ← u8.decode
    decodeTagged formats tag
  else throw (.custom "AuthorizedMsg must be an RLP list")

theorem tag_spec : msg.tag < 256 ^ 1 ∧ encodeUint 4 msg.tag = encodeUint 1 msg.tag ∧ (encodeUint 1 msg.tag).length = 1 := by
  cases msg with
  | flashblocksPayloadV1 => exact ⟨by simp [tag], rfl, rfl⟩
  | startPublish => exact ⟨by simp [tag], rfl, rfl⟩
  | stopPublish => exact ⟨by simp [tag], rfl, rfl⟩

theorem bodyLength_eq : msg.bodyLength formats = (msg.body formats).length := by
  cases msg with
  | flashblocksPayloadV1 payload => exact (FlashblocksPayloadV1.codec formats).length_eq payload
  | startPublish => rfl
  | stopPublish => rfl

def contents : List UInt8 := encodeUint 1 msg.tag ++ msg.body formats

theorem contents_length : 1 + msg.bodyLength formats = (msg.contents formats).length := by
  rw [contents, List.length_append, msg.tag_spec.2.2, bodyLength_eq]

theorem encode_eq : msg.encode formats = encodeList (msg.contents formats) := by
  rw [encode, encodeList, contents_length, List.append_assoc, msg.tag_spec.2.1]
  rfl

theorem length_eq : msg.length formats = (msg.encode formats).length := by
  rw [length, encode_eq, contents_length]
  exact lengthList_eq _

theorem decodeTagged_body (rest : List UInt8) (addressable : (msg.body formats).length < 256 ^ 8) :
    (decodeTagged formats msg.tag).run (msg.body formats ++ rest) = .ok (msg, rest) := by
  cases msg with
  | flashblocksPayloadV1 payload =>
    have read := payload.decode_encode formats rest addressable
    exact run_bind_of_ok _ read
  | startPublish => rfl
  | stopPublish => rfl

theorem decode_encode (rest : List UInt8) (addressable : (msg.encode formats).length < 256 ^ 8) :
    (decode formats).run (msg.encode formats ++ rest) = .ok (msg, rest) := by
  rw [encode_eq] at addressable ⊢
  have inside := (length_le_encodeList _).trans_lt addressable
  rw [decode, run_bind_of_ok _ (decode_encodeList inside), if_pos rfl]
  rw [contents, List.length_append] at inside
  have tag : u8.decode.run (encodeUint 1 msg.tag ++ (msg.body formats ++ rest)) =
      .ok (⟨msg.tag, msg.tag_spec.1⟩, msg.body formats ++ rest) :=
    u8.decode_encode ⟨msg.tag, msg.tag_spec.1⟩ _ (by change (encodeUint 1 msg.tag).length < _; omega)
  rw [contents, List.append_assoc, run_bind_of_ok _ tag]
  exact decodeTagged_body formats msg rest (by omega)

theorem decode_header (rest : List UInt8) (addressable : (msg.encode formats).length < 256 ^ 8) :
    Header.decode.run (msg.encode formats ++ rest) =
      .ok (⟨true, (msg.contents formats).length⟩, msg.contents formats ++ rest) ∧
    (msg.encode formats ++ rest).length - (msg.contents formats ++ rest).length + (msg.contents formats).length =
      (msg.encode formats).length := by
  rw [encode_eq] at addressable ⊢
  have shorter := length_le_encodeList (msg.contents formats)
  refine ⟨decode_encodeList (shorter.trans_lt addressable), ?_⟩
  rw [List.length_append, List.length_append]
  omega

end AuthorizedMsg

/-! ## Authorized messages -/

/-- A message with its authorization, signed by the builder. -/
structure Authorized (Key Sig Metadata AccountChanges : Type) where
  msg : AuthorizedMsg Metadata AccountChanges
  authorization : Authorization Key Sig
  actorSig : Sig
deriving DecidableEq

/-- An authorized message that has not been read: `msg` is where it stands, and `signed` is what was signed. -/
structure AuthorizedParts (Key Sig : Type) where
  authorization : Authorization Key Sig
  actorSig : Sig
  msg : List UInt8
  signed : List UInt8
deriving DecidableEq

def verifyActor (crypto : Crypto Key Sig) (builder : Key) (signed : List UInt8) (actorSig : Sig) :
    Except FlashblocksError Unit :=
  if crypto.verify builder (crypto.hash signed) actorSig then .ok () else .error .invalidBuilderSig

namespace Authorized

variable (formats : Formats Key Sig Metadata AccountChanges) (authorized : Authorized Key Sig Metadata AccountChanges)

/-- What the builder signs. -/
def signed : List UInt8 := authorized.msg.encode formats ++ authorized.authorization.encode formats

def verify (crypto : Crypto Key Sig) (authorizer : Key) : Except FlashblocksError Unit := do
  authorized.authorization.verify formats crypto authorizer
  verifyActor crypto authorized.authorization.builderVk (authorized.signed formats) authorized.actorSig

def payloadLength : ℕ :=
  authorized.msg.length formats + authorized.authorization.length formats +
    Codec.bytes.length (formats.signature.toBytes authorized.actorSig)

def encode : List UInt8 :=
  (⟨true, authorized.payloadLength formats⟩ : Header).encode ++ authorized.msg.encode formats ++
    authorized.authorization.encode formats ++ Codec.bytes.encode (formats.signature.toBytes authorized.actorSig)

def length : ℕ := (⟨true, authorized.payloadLength formats⟩ : Header).length + authorized.payloadLength formats

def decodeFields : Decoder (Authorized Key Sig Metadata AccountChanges) := do
  let msg ← AuthorizedMsg.decode formats
  let authorization ← Authorization.decode formats
  let actorSig ← formats.signature.decode "bad signature"
  return ⟨msg, authorization, actorSig⟩

def decode : Decoder (Authorized Key Sig Metadata AccountChanges) := windowed (decodeFields formats)

def parseFields : Decoder (AuthorizedParts Key Sig) := fun body => do
  let (msgHeader, cursor) ← Header.decode.run body
  if msgHeader.list then
    let msgLen := body.length - cursor.length + msgHeader.payloadLength
    let afterMsg := body.drop msgLen
    let (authorization, rest) ← (Authorization.decode formats).run afterMsg
    let signedLen := msgLen + (afterMsg.length - rest.length)
    let (actorSig, rest) ← (formats.signature.decode "bad signature").run rest
    .ok (⟨authorization, actorSig, body.take msgLen, body.take signedLen⟩, rest)
  else .error (.custom "AuthorizedMsg must be an RLP list")

def parse : Decoder (AuthorizedParts Key Sig) := windowed (parseFields formats)

end Authorized

namespace AuthorizedParts

variable (formats : Formats Key Sig Metadata AccountChanges) (parts : AuthorizedParts Key Sig)

def verify (crypto : Crypto Key Sig) (authorizer : Key) : Except FlashblocksError Unit := do
  parts.authorization.verify formats crypto authorizer
  verifyActor crypto parts.authorization.builderVk parts.signed parts.actorSig

def intoAuthorized : Except FlashblocksError (Authorized Key Sig Metadata AccountChanges) :=
  match (AuthorizedMsg.decode formats).run parts.msg with
  | .ok (msg, _) => .ok ⟨msg, parts.authorization, parts.actorSig⟩
  | .error error => .error (.rlp error)

end AuthorizedParts

namespace Authorized

variable (formats : Formats Key Sig Metadata AccountChanges) (authorized : Authorized Key Sig Metadata AccountChanges)

/-- The fields, as they follow the header. -/
def contents : List UInt8 :=
  authorized.msg.encode formats ++ (authorized.authorization.encode formats ++
    Codec.bytes.encode (formats.signature.toBytes authorized.actorSig))

theorem payloadLength_eq : authorized.payloadLength formats = (authorized.contents formats).length := by
  simp only [payloadLength, contents, List.length_append, Codec.length_eq, AuthorizedMsg.length_eq, Authorization.length_eq]
  omega

theorem encode_eq : authorized.encode formats = encodeList (authorized.contents formats) := by
  rw [encode, encodeList, payloadLength_eq]
  simp only [contents, List.append_assoc]

theorem length_eq : authorized.length formats = (authorized.encode formats).length := by
  rw [length, encode_eq, payloadLength_eq]
  exact lengthList_eq _

theorem run_parseFields_eq_ok {formats : Formats Key Sig Metadata AccountChanges} {body left : List UInt8}
    {parts : AuthorizedParts Key Sig} : (parseFields formats).run body = .ok (parts, left) ↔
      ∃ header cursor rest, Header.decode.run body = .ok (header, cursor) ∧ header.list = true ∧
        (Authorization.decode formats).run (body.drop (body.length - cursor.length + header.payloadLength)) =
          .ok (parts.authorization, rest) ∧
        (formats.signature.decode "bad signature").run rest = .ok (parts.actorSig, left) ∧
        parts.msg = body.take (body.length - cursor.length + header.payloadLength) ∧
        parts.signed = body.take (body.length - cursor.length + header.payloadLength +
          ((body.drop (body.length - cursor.length + header.payloadLength)).length - rest.length)) := by
  simp only [parseFields, StateT.run, bind_eq_ok]
  constructor
  · rintro ⟨⟨header, cursor⟩, begun, ended⟩
    dsimp only at ended
    split at ended
    · next kind =>
      obtain ⟨⟨authorization, rest⟩, authorized, ended⟩ := bind_eq_ok.mp ended
      obtain ⟨⟨actorSig, last⟩, signature, same⟩ := bind_eq_ok.mp ended
      cases same
      exact ⟨header, cursor, rest, begun, kind, authorized, signature, rfl, rfl⟩
    · cases ended
  · rintro ⟨header, cursor, rest, begun, kind, authorized, signature, msg, signed⟩
    refine ⟨(header, cursor), begun, ?_⟩
    dsimp only
    rw [if_pos kind]
    refine bind_eq_ok.mpr ⟨_, authorized, bind_eq_ok.mpr ⟨_, signature, ?_⟩⟩
    dsimp only
    rw [← msg, ← signed]

section

variable (rest : List UInt8) (addressable : (authorized.encode formats).length < 256 ^ 8)

include addressable

theorem decode_encode : (decode formats).run (authorized.encode formats ++ rest) = .ok (authorized, rest) := by
  rw [encode_eq] at addressable ⊢
  have inside := (length_le_encodeList _).trans_lt addressable
  have parts := inside
  simp only [contents, List.length_append] at parts
  have signature := formats.signature.decode_encode "bad signature" authorized.actorSig [] (by omega)
  rw [List.append_nil] at signature
  have read : (decodeFields formats).run (authorized.contents formats) = .ok (authorized, []) := by
    rw [decodeFields, contents, run_bind_of_ok _ (AuthorizedMsg.decode_encode formats _ _ (by omega)),
      run_bind_of_ok _ (Authorization.decode_encode formats _ _ (by omega)), run_bind_of_ok _ signature]
    rfl
  exact windowed_encodeList inside read

theorem parse_encode : (parse formats).run (authorized.encode formats ++ rest) =
    .ok (⟨authorized.authorization, authorized.actorSig, authorized.msg.encode formats, authorized.signed formats⟩, rest) := by
  rw [encode_eq] at addressable ⊢
  have inside := (length_le_encodeList _).trans_lt addressable
  have parts := inside
  simp only [contents, List.length_append] at parts
  have signature := formats.signature.decode_encode "bad signature" authorized.actorSig [] (by omega)
  rw [List.append_nil] at signature
  obtain ⟨header, msgLen⟩ := authorized.msg.decode_header formats
    (authorized.authorization.encode formats ++ Codec.bytes.encode (formats.signature.toBytes authorized.actorSig)) (by omega)
  have read : (parseFields formats).run (authorized.contents formats) =
      .ok (⟨authorized.authorization, authorized.actorSig, authorized.msg.encode formats, authorized.signed formats⟩, []) := by
    refine run_parseFields_eq_ok.mpr
      ⟨_, _, Codec.bytes.encode (formats.signature.toBytes authorized.actorSig), header, rfl, ?_, signature, ?_, ?_⟩
    · rw [contents, msgLen, List.drop_left]
      exact authorized.authorization.decode_encode formats _ (by omega)
    · rw [contents, msgLen, List.take_left]
    · rw [contents, msgLen, List.drop_left, List.length_append, Nat.add_sub_cancel, ← List.length_append,
        ← List.append_assoc, List.take_left]
      rfl
  exact windowed_encodeList inside read

end

end Authorized

/-! ## Frames -/

/-- A frame with an authorized message in some form, or a control message. -/
inductive Frame (α : Type)
  | authorized (payload : α)
  | requestFlashblocks
  | acceptFlashblocks
  | rejectFlashblocks
  | cancelFlashblocks
deriving DecidableEq

abbrev FlashblocksP2PMsg (Key Sig Metadata AccountChanges : Type) := Frame (Authorized Key Sig Metadata AccountChanges)

abbrev FlashblocksP2PMsgParts (Key Sig : Type) := Frame (AuthorizedParts Key Sig)

/-- The first byte says what the frame is. -/
def Frame.read {α : Type} (payload : Decoder α) (buf : List UInt8) : Except FlashblocksError (Frame α × List UInt8) :=
  match buf with
  | [] => .error .inputTooShort
  | id :: rest =>
    match id.toNat with
    | 0x00 =>
      match payload.run rest with
      | .ok (value, rest) => .ok (authorized value, rest)
      | .error error => .error (.rlp error)
    | 0x01 => .ok (requestFlashblocks, rest)
    | 0x02 => .ok (acceptFlashblocks, rest)
    | 0x03 => .ok (rejectFlashblocks, rest)
    | 0x04 => .ok (cancelFlashblocks, rest)
    | _ => .error .unknownMessageType

theorem Frame.read_authorized {α : Type} (payload : Decoder α) (rest : List UInt8) : Frame.read payload (0x00 :: rest) =
    match payload.run rest with
    | .ok (value, rest) => .ok (authorized value, rest)
    | .error error => .error (.rlp error) := rfl

namespace FlashblocksP2PMsg

variable (formats : Formats Key Sig Metadata AccountChanges) (msg : FlashblocksP2PMsg Key Sig Metadata AccountChanges)

def encode : List UInt8 :=
  match msg with
  | .authorized payload => 0x00 :: payload.encode formats
  | .requestFlashblocks => [0x01]
  | .acceptFlashblocks => [0x02]
  | .rejectFlashblocks => [0x03]
  | .cancelFlashblocks => [0x04]

/-- Used for what peers send. -/
def parse (buf : List UInt8) : Except FlashblocksError (FlashblocksP2PMsgParts Key Sig) := do
  let (parts, _) ← Frame.read (Authorized.parse formats) buf
  .ok parts

def decode (buf : List UInt8) :
    Except FlashblocksError (FlashblocksP2PMsg Key Sig Metadata AccountChanges × List UInt8) :=
  Frame.read (Authorized.decode formats) buf

/-- Every length that is announced while a message is written is the length of what is written. -/
structure AnnouncesLengths (authorized : Authorized Key Sig Metadata AccountChanges) : Prop where
  whole : authorized.length formats = (authorized.encode formats).length
  msg : authorized.msg.length formats = (authorized.msg.encode formats).length
  authorization : authorized.authorization.length formats = (authorized.authorization.encode formats).length
  payload (payload : FlashblocksPayloadV1 Metadata AccountChanges) (is : authorized.msg = .flashblocksPayloadV1 payload) :
    payload.length formats = (payload.encode formats).length

/-- The parts of a frame are those of a message: the message is read from them, and the signatures are checked
over the same bytes. -/
def Matches (crypto : Crypto Key Sig) (parts : FlashblocksP2PMsgParts Key Sig) : Prop :=
  match msg with
  | .authorized authorized => ∃ inner, parts = .authorized inner ∧ inner.intoAuthorized formats = .ok authorized ∧
      inner.signed = authorized.msg.encode formats ++ authorized.authorization.encode formats ∧
      ∀ authorizer, inner.verify formats crypto authorizer = authorized.verify formats crypto authorizer
  | .requestFlashblocks => parts = .requestFlashblocks
  | .acceptFlashblocks => parts = .acceptFlashblocks
  | .rejectFlashblocks => parts = .rejectFlashblocks
  | .cancelFlashblocks => parts = .cancelFlashblocks

theorem announcesLengths (authorized : Authorized Key Sig Metadata AccountChanges) : AnnouncesLengths formats authorized where
  whole := authorized.length_eq formats
  msg := authorized.msg.length_eq formats
  authorization := authorized.authorization.length_eq formats
  payload payload _ := (FlashblocksPayloadV1.codec formats).length_eq payload

/-- The parts that are found in what was written. -/
def writtenParts (authorized : Authorized Key Sig Metadata AccountChanges) : AuthorizedParts Key Sig :=
  ⟨authorized.authorization, authorized.actorSig, authorized.msg.encode formats, authorized.signed formats⟩

section

variable (authorized : Authorized Key Sig Metadata AccountChanges)
  (addressable : (encode formats (.authorized authorized)).length < 256 ^ 8)

include authorized addressable

theorem parse_encode :
    parse formats (encode formats (.authorized authorized)) = .ok (.authorized (writtenParts formats authorized)) ∧
      (writtenParts formats authorized).intoAuthorized formats = .ok authorized := by
  have whole : (authorized.encode formats).length < 256 ^ 8 := by
    simp only [encode, List.length_cons] at addressable
    omega
  have shorter : (authorized.msg.encode formats).length ≤ (authorized.encode formats).length := by
    rw [Authorized.encode_eq, Authorized.contents]
    refine le_trans ?_ (length_le_encodeList _)
    rw [List.length_append]
    omega
  have parsed := authorized.parse_encode formats [] whole
  have read := authorized.msg.decode_encode formats [] (shorter.trans_lt whole)
  rw [List.append_nil] at parsed read
  constructor
  · rw [encode, parse, Frame.read_authorized, parsed]
    rfl
  · rw [AuthorizedParts.intoAuthorized, writtenParts, read]

theorem decode_encode :
    decode formats (encode formats (.authorized authorized)) = .ok (.authorized authorized, []) := by
  simp only [encode, List.length_cons] at addressable
  have decoded := authorized.decode_encode formats [] (by omega)
  rw [List.append_nil] at decoded
  rw [encode, decode, Frame.read_authorized, decoded]

end

/-- A frame is as long as announced and is read back, at once or in parts; the parts verify when the message does. -/
theorem frame_read_back (crypto : Crypto Key Sig) (addressable : (encode formats msg).length < 256 ^ 8) :
    (∀ authorized, msg = .authorized authorized → AnnouncesLengths formats authorized) ∧
      decode formats (encode formats msg) = .ok (msg, []) ∧
      ∃ parts, parse formats (encode formats msg) = .ok parts ∧ Matches formats msg crypto parts := by
  refine ⟨fun authorized _ => announcesLengths formats authorized, ?_⟩
  cases msg with
  | authorized authorized =>
    obtain ⟨parsed, read⟩ := parse_encode formats authorized addressable
    exact ⟨decode_encode formats authorized addressable, _, parsed, _, rfl, read, rfl, fun _ => rfl⟩
  | requestFlashblocks => exact ⟨rfl, _, rfl, rfl⟩
  | acceptFlashblocks => exact ⟨rfl, _, rfl, rfl⟩
  | rejectFlashblocks => exact ⟨rfl, _, rfl, rfl⟩
  | cancelFlashblocks => exact ⟨rfl, _, rfl, rfl⟩

/-! ## A frame with known bytes -/

/-- Values that are byte strings of a fixed length. -/
def fixedBinary (width : ℕ) : Binary { data : List UInt8 // data.length = width } where
  toBytes data := data.1
  ofBytes data := if exact : data.length = width then some ⟨data, exact⟩ else none
  ofBytes_toBytes data := dif_pos data.2

def sampleJson : Binary Unit where
  toBytes _ := BigEndian.toBytes 14 0x7b2266656573223a22307830227d
  ofBytes data := if data = BigEndian.toBytes 14 0x7b2266656573223a22307830227d then some () else none
  ofBytes_toBytes _ := rfl

def sampleFormats : Formats B256 B512 Unit (List UInt8) where
  key := fixedBinary 32
  signature := fixedBinary 64
  json := sampleJson
  accountChanges := .uninterpreted

def fixedBytes (width value : ℕ) : { data : List UInt8 // data.length = width } :=
  ⟨BigEndian.toBytes width value, BigEndian.toBytes_length ..⟩

def sampleAuthorization : Authorization B256 B512 where
  payloadId := fixedBytes 8 0
  timestamp := ⟨1700000001, by decide⟩
  builderVk := fixedBytes 32 0x8139770ea87d175f56a35466c34c7ecccb8d8a91b4ee37a25df60f5b8fc9b394
  authorizerSig := fixedBytes 64 0xc9fb8b6311ebc286ef1976fe3149a1086a4349b531843241653cbd5cfefd0c3bd629a987b20d422cd4a58159cce1570b9b85209b9b8b43ec517109dfae27470d

def sampleSignature : B512 :=
  fixedBytes 64 0x0c121d65aa6696f6e6d2cd9a05e148f5e01b5d1d93f896357a209998d815b302dcf74ac52263f9760616d2ad5386d950189be9663cf6709accff6d23622f630f

def sampleStartPublish : FlashblocksP2PMsg B256 B512 Unit (List UInt8) :=
  .authorized ⟨.startPublish, sampleAuthorization, sampleSignature⟩

def sampleFlashblock : FlashblocksP2PMsg B256 B512 Unit (List UInt8) :=
  .authorized ⟨.flashblocksPayloadV1
    { payloadId := fixedBytes 8 1
      index := 0
      diff :=
        { stateRoot := fixedBytes 32 2
          receiptsRoot := fixedBytes 32 3
          logsBloom := fixedBytes 256 0
          gasUsed := 21000
          blockHash := fixedBytes 32 4
          transactions := [[0x7e, 1], [2]]
          withdrawals := []
          withdrawalsRoot := fixedBytes 32 5
          accessListData := some ⟨⟨[[0x7f], [0x80]], 0, 2⟩, fixedBytes 32 6⟩ }
      metadata := ()
      base := some
        { parentBeaconBlockRoot := fixedBytes 32 7
          parentHash := fixedBytes 32 8
          feeRecipient := fixedBytes 20 9
          prevRandao := fixedBytes 32 10
          blockNumber := 11
          gasLimit := 30000000
          timestamp := 1700000001
          extraData := [1, 2, 3]
          baseFeePerGas := 1000000000 } },
    sampleAuthorization, sampleSignature⟩

theorem start_publish_read_back :
    encode sampleFormats sampleStartPublish = BigEndian.toBytes 186
      0x00f8b7c101f871880000000000000000846553f101a08139770ea87d175f56a35466c34c7ecccb8d8a91b4ee37a25df60f5b8fc9b394b840c9fb8b6311ebc286ef1976fe3149a1086a4349b531843241653cbd5cfefd0c3bd629a987b20d422cd4a58159cce1570b9b85209b9b8b43ec517109dfae27470db8400c121d65aa6696f6e6d2cd9a05e148f5e01b5d1d93f896357a209998d815b302dcf74ac52263f9760616d2ad5386d950189be9663cf6709accff6d23622f630f ∧
    decode sampleFormats (encode sampleFormats sampleStartPublish) = .ok (sampleStartPublish, []) ∧
    decode sampleFormats (encode sampleFormats sampleFlashblock) = .ok (sampleFlashblock, []) :=
  ⟨by decide +kernel,
    (frame_read_back sampleFormats sampleStartPublish ⟨id, fun _ _ _ => true⟩ (by decide +kernel)).2.1,
    (frame_read_back sampleFormats sampleFlashblock ⟨id, fun _ _ _ => true⟩ (by decide +kernel)).2.1⟩

end FlashblocksP2PMsg

end WorldChain.Primitives
