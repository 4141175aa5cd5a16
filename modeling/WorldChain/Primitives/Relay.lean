import WorldChain.Primitives.Readers

/-! # Relaying a flashblock

A node verifies the bytes that it has received, reads the message and forwards what it writes anew from it. The
builder's signature is good for the next node only if the bytes written are the bytes signed.
-/

namespace WorldChain.Primitives

open Rlp Machine

variable {Key Sig Metadata AccountChanges : Type} (formats : Formats Key Sig Metadata AccountChanges)

/-- The largest frame that is sent: 16 MiB. -/
def maxFrame : ℕ := 2 ^ 24

def forward (authorized : Authorized Key Sig Metadata AccountChanges) : Option (List UInt8) :=
  let bytes := FlashblocksP2PMsg.encode formats (.authorized authorized)
  if maxFrame < bytes.length then none else some bytes

/-- A node takes a frame for the authorized message in it. -/
structure Accepts (crypto : Crypto Key Sig) (authorizer : Key) (frame : List UInt8) (parts : AuthorizedParts Key Sig)
    (authorized : Authorized Key Sig Metadata AccountChanges) : Prop where
  parsed : FlashblocksP2PMsg.parse formats frame = .ok (.authorized parts)
  verified : parts.verify formats crypto authorizer = .ok ()
  read : parts.intoAuthorized formats = .ok authorized

variable {formats} {crypto : Crypto Key Sig} {authorizer : Key}

theorem forward_eq_some {authorized : Authorized Key Sig Metadata AccountChanges}
    (small : ¬ maxFrame < (FlashblocksP2PMsg.encode formats (.authorized authorized)).length) :
    forward formats authorized = some (FlashblocksP2PMsg.encode formats (.authorized authorized)) := if_neg small

theorem AuthorizedParts.verify_eq_ok {parts : AuthorizedParts Key Sig} : parts.verify formats crypto authorizer = .ok () ↔
    parts.authorization.verify formats crypto authorizer = .ok () ∧
      crypto.verify parts.authorization.builderVk (crypto.hash parts.signed) parts.actorSig = true := by
  have actor : verifyActor crypto parts.authorization.builderVk parts.signed parts.actorSig = .ok () ↔
      crypto.verify parts.authorization.builderVk (crypto.hash parts.signed) parts.actorSig = true := by
    rw [verifyActor]
    split
    · next good => simp [good]
    · next bad => simp [bad]
  rw [verify, bind_eq_ok, ← actor]
  constructor
  · rintro ⟨_, first, second⟩
    exact ⟨first, second⟩
  · rintro ⟨first, second⟩
    exact ⟨(), first, second⟩

theorem accepts_encode_iff (authorized : Authorized Key Sig Metadata AccountChanges)
    (addressable : (FlashblocksP2PMsg.encode formats (.authorized authorized)).length < 256 ^ 8) :
    (∃ parts relayed, Accepts formats crypto authorizer (FlashblocksP2PMsg.encode formats (.authorized authorized)) parts relayed) ↔
      authorized.authorization.verify formats crypto authorizer = .ok () ∧
        crypto.verify authorized.authorization.builderVk (crypto.hash (authorized.signed formats)) authorized.actorSig = true := by
  obtain ⟨parsed, read⟩ := FlashblocksP2PMsg.parse_encode formats authorized addressable
  constructor
  · rintro ⟨parts, relayed, accepts⟩
    have same := accepts.parsed
    rw [parsed] at same
    cases same
    exact AuthorizedParts.verify_eq_ok.mp accepts.verified
  · intro good
    exact ⟨_, authorized, parsed, AuthorizedParts.verify_eq_ok.mpr good, read⟩

/-- A flashblock that a node forwards is taken by the next node exactly if the bytes that were signed are the ones that
are written for the message. -/
theorem relay_accepted_iff {frame : List UInt8} {parts : AuthorizedParts Key Sig}
    {authorized : Authorized Key Sig Metadata AccountChanges}
    (accepts : Accepts formats crypto authorizer frame parts authorized)
    (binding : crypto.verify parts.authorization.builderVk (crypto.hash (authorized.signed formats)) parts.actorSig = true →
      authorized.signed formats = parts.signed) :
    (∀ bytes, forward formats authorized = some bytes → ∃ next relayed, Accepts formats crypto authorizer bytes next relayed) ↔
      maxFrame < (FlashblocksP2PMsg.encode formats (.authorized authorized)).length ∨
        authorized.signed formats = parts.signed := by
  obtain ⟨_, sameAuthorization, sameSig⟩ := AuthorizedParts.intoAuthorized_eq_ok.mp accepts.read
  obtain ⟨permitted, signed⟩ := AuthorizedParts.verify_eq_ok.mp accepts.verified
  rw [sameAuthorization] at permitted signed binding
  rw [sameSig] at signed binding
  by_cases large : maxFrame < (FlashblocksP2PMsg.encode formats (.authorized authorized)).length
  · have none : forward formats authorized = none := if_pos large
    simp [none, large]
  · have sent := forward_eq_some large
    have addressable : (FlashblocksP2PMsg.encode formats (.authorized authorized)).length < 256 ^ 8 :=
      (Nat.le_of_not_lt large).trans_lt (by decide)
    constructor
    · intro relayed
      exact .inr (binding ((accepts_encode_iff authorized addressable).mp (relayed _ sent)).2)
    · rintro (never | same) bytes is
      · exact absurd never large
      · rw [sent] at is
        cases is
        rw [accepts_encode_iff authorized addressable, same]
        exact ⟨permitted, signed⟩

/-! ## A flashblock with known bytes -/

def sampleBase : ExecutionPayloadBaseV1 where
  parentBeaconBlockRoot := ⟨.replicate 32 0x55, List.length_replicate⟩
  parentHash := ⟨.replicate 32 0x66, List.length_replicate⟩
  feeRecipient := ⟨.replicate 20 0, List.length_replicate⟩
  prevRandao := ⟨.replicate 32 0x77, List.length_replicate⟩
  blockNumber := ⟨1234, by decide⟩
  gasLimit := ⟨30000000, by decide⟩
  timestamp := ⟨1700000999, by decide⟩
  extraData := [0x68, 0x69]
  baseFeePerGas := ⟨1000000000, by decide⟩

def sampleDiff : ExecutionPayloadFlashblockDeltaV1 (List UInt8) where
  stateRoot := ⟨.replicate 32 0x11, List.length_replicate⟩
  receiptsRoot := ⟨.replicate 32 0x22, List.length_replicate⟩
  logsBloom := ⟨.replicate 256 0, List.length_replicate⟩
  gasUsed := ⟨21000, by decide⟩
  blockHash := ⟨.replicate 32 0x33, List.length_replicate⟩
  transactions := [[0xDE, 0xAD, 0xBE, 0xEF]]
  withdrawals := [⟨0, 0, ⟨.replicate 20 0, List.length_replicate⟩, 0⟩]
  withdrawalsRoot := ⟨.replicate 32 0x44, List.length_replicate⟩
  accessListData := some
    { accessList :=
        { changes := [BigEndian.toBytes 47
      0x940000000000000000000000000000000000000042c6c502c3c20103c104c6c503830f4240c3c2042ac5c40282cafe]
          minTxIndex := 0
          maxTxIndex := ⟨5, by decide⟩ }
      accessListHash := ⟨BigEndian.toBytes 32 0x36056e5d8e724530c6aa1548d2d40a02e385a6f874f7c94946d0899c32ab6b78,
        BigEndian.toBytes_length ..⟩ }

def sampleFlashblock : Authorized B256 B512 Unit (List UInt8) where
  msg := .flashblocksPayloadV1 ⟨⟨.replicate 8 0, List.length_replicate⟩, ⟨42, by decide⟩, sampleDiff, (), some sampleBase⟩
  authorization := FlashblocksP2PMsg.sampleAuthorization
  actorSig := ⟨BigEndian.toBytes 64 0xd4a3306d8f030309df67af5a5bcf9128f8c8c0fd2fedf72b19d5f1ff067b878c5f7c432c92fa234d58aef6441508450738f2f0e1497abee89e7002722404c500,
    BigEndian.toBytes_length ..⟩

def sampleFrame : List UInt8 := FlashblocksP2PMsg.encode FlashblocksP2PMsg.sampleFormats (.authorized sampleFlashblock)

theorem sampleFrame_length : sampleFrame.length = 876 := by decide +kernel

example : (sampleFrame.drop 93).take 256 = List.replicate 256 0 ∧
    BigEndian.ofBytes (sampleFrame.take 93) =
      0x00f90368f902b080f902ac8800000000000000002af90201a01111111111111111111111111111111111111111111111111111111111111111a02222222222222222222222222222222222222222222222222222222222222222b90100 ∧
    BigEndian.ofBytes ((sampleFrame.drop 349).take 203) =
      0x825208a03333333333333333333333333333333333333333333333333333333333333333c584deadbeefd9d8808094000000000000000000000000000000000000000080a04444444444444444444444444444444444444444444444444444444444444444f855f3f0ef940000000000000000000000000000000000000042c6c502c3c20103c104c6c503830f4240c3c2042ac5c40282cafe8005a036056e5d8e724530c6aa1548d2d40a02e385a6f874f7c94946d0899c32ab6b788e7b2266656573223a22307830227d := by
  decide +kernel

theorem sampleFrame_addressable : sampleFrame.length < 256 ^ 8 := by
  rw [sampleFrame_length]
  norm_num

theorem sampleFrame_small : ¬ maxFrame < sampleFrame.length := by
  rw [sampleFrame_length, maxFrame]
  omega

open FlashblocksP2PMsg (sampleFormats sampleAuthorization writtenParts)

def sampleAuthorizer : B256 := ⟨.replicate 32 0x01, List.length_replicate⟩

def sampleCrypto (signed : List UInt8) : Crypto B256 B512 where
  hash := id
  verify key digest sig :=
    if key = sampleAuthorization.builderVk then digest = signed ∧ sig = sampleFlashblock.actorSig
    else digest = sampleAuthorization.message sampleFormats ∧ sig = sampleAuthorization.authorizerSig

theorem relay_accepted_as_written :
    (forward sampleFormats sampleFlashblock).isSome = true ∧
    ∀ bytes, forward sampleFormats sampleFlashblock = some bytes → ∃ next relayed,
      Accepts sampleFormats (sampleCrypto (sampleFlashblock.signed sampleFormats)) sampleAuthorizer bytes next relayed := by
  obtain ⟨parsed, read⟩ := FlashblocksP2PMsg.parse_encode sampleFormats sampleFlashblock sampleFrame_addressable
  have accepts : Accepts sampleFormats (sampleCrypto (sampleFlashblock.signed sampleFormats)) sampleAuthorizer _
      (writtenParts sampleFormats sampleFlashblock) sampleFlashblock := ⟨parsed, by decide +kernel, read⟩
  refine ⟨?_, (relay_accepted_iff accepts fun _ => rfl).mpr (.inr rfl)⟩
  rw [forward_eq_some sampleFrame_small]
  rfl

def paddedMsg : List UInt8 :=
  match sampleFlashblock.msg with
  | .flashblocksPayloadV1 payload => encodeList (encodeUint 1 0 ++ encodeList (payload.contents sampleFormats ++ [0x00]))
  | _ => []

def paddedParts : AuthorizedParts B256 B512 where
  authorization := sampleAuthorization
  actorSig := sampleFlashblock.actorSig
  msg := paddedMsg
  signed := paddedMsg ++ sampleAuthorization.encode sampleFormats

def paddedFrame : List UInt8 :=
  0x00 :: encodeList (paddedParts.signed ++ Codec.bytes.encode sampleFlashblock.actorSig.1)

theorem padded_flashblock_is_not_relayed :
    Accepts sampleFormats (sampleCrypto paddedParts.signed) sampleAuthorizer paddedFrame paddedParts sampleFlashblock ∧
    ∃ bytes next, forward sampleFormats sampleFlashblock = some bytes ∧
      FlashblocksP2PMsg.parse sampleFormats bytes = .ok (.authorized next) ∧
      next.verify sampleFormats (sampleCrypto paddedParts.signed) sampleAuthorizer = .error .invalidBuilderSig := by
  obtain ⟨parsed, _⟩ := FlashblocksP2PMsg.parse_encode sampleFormats sampleFlashblock sampleFrame_addressable
  refine ⟨⟨by decide +kernel, by decide +kernel, by decide +kernel⟩, _, _, forward_eq_some sampleFrame_small, parsed, ?_⟩
  decide +kernel

end WorldChain.Primitives
