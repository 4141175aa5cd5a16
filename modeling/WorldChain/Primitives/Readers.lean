import WorldChain.Primitives.Frame

/-! # The two readers of a frame

A message announces its length in its header, and it ends where its last field ends. `parse` looks for the
authorization at the announced end, `decode` where the fields end.
-/

namespace WorldChain.Primitives

open Rlp Machine

variable {Key Sig Metadata AccountChanges : Type} (formats : Formats Key Sig Metadata AccountChanges)

namespace AuthorizedMsg

/-- What follows the header of a message. -/
def decodeContents : Decoder (AuthorizedMsg Metadata AccountChanges) := do
  let tag ← u8.decode
  decodeTagged formats tag

theorem local_decodeContents : Local (decodeContents formats) := by
  apply u8.isLocal.bind
  intro tag
  rw [decodeTagged.eq_def]
  split
  · exact (FlashblocksPayloadV1.codec formats).isLocal.bind fun _ => .pure _
  · exact .pure _
  · exact .pure _
  · exact .throw _

variable {formats} in
theorem run_decode_eq_ok {body rest : List UInt8} {msg : AuthorizedMsg Metadata AccountChanges} :
    (decode formats).run body = .ok (msg, rest) ↔ ∃ header cursor, Header.decode.run body = .ok (header, cursor) ∧
      header.list = true ∧ (decodeContents formats).run cursor = .ok (msg, rest) := by
  rw [decode, run_bind_eq_ok]
  constructor
  · rintro ⟨header, cursor, begun, ended⟩
    split at ended
    · next kind => exact ⟨header, cursor, begun, kind, ended⟩
    · cases ended
  · rintro ⟨header, cursor, begun, kind, ended⟩
    refine ⟨header, cursor, begun, ?_⟩
    rw [if_pos kind]
    exact ended

section

variable {formats} {body cursor : List UInt8} {header : Header} (begun : Header.decode.run body = .ok (header, cursor))

include begun

theorem drop_announced :
    body.drop (body.length - cursor.length + header.payloadLength) = cursor.drop header.payloadLength := by
  obtain ⟨front, rfl, _, _⟩ := Header.decode_local begun
  rw [List.length_append, Nat.add_sub_cancel, ← List.drop_drop, List.drop_left]

theorem run_decode_announced (kind : header.list = true) (msg : AuthorizedMsg Metadata AccountChanges) :
    (∃ left, (decode formats).run (body.take (body.length - cursor.length + header.payloadLength)) = .ok (msg, left)) ↔
      ∃ rest, (decodeContents formats).run cursor = .ok (msg, rest) ∧
        (cursor.drop header.payloadLength).length ≤ rest.length := by
  rw [← (local_decodeContents formats).run_take]
  obtain ⟨front, rfl, _, replay⟩ := Header.replay begun
  have again := replay []
  rw [List.append_nil] at again
  have slice : (front ++ cursor).take ((front ++ cursor).length - cursor.length + header.payloadLength) =
      front ++ cursor.take header.payloadLength := by
    rw [List.length_append, Nat.add_sub_cancel, List.take_length_add_append]
  rw [slice]
  constructor
  · rintro ⟨left, decoded⟩
    obtain ⟨other, inside, same, _, read⟩ := run_decode_eq_ok.mp decoded
    rw [again] at same
    cases same
    exact ⟨left, read⟩
  · rintro ⟨left, read⟩
    exact ⟨left, run_decode_eq_ok.mpr ⟨header, _, again, kind, read⟩⟩

end

end AuthorizedMsg

theorem AuthorizedParts.intoAuthorized_eq_ok {formats : Formats Key Sig Metadata AccountChanges}
    {parts : AuthorizedParts Key Sig} {authorized : Authorized Key Sig Metadata AccountChanges} :
    parts.intoAuthorized formats = .ok authorized ↔
      (∃ left, (AuthorizedMsg.decode formats).run parts.msg = .ok (authorized.msg, left)) ∧
        parts.authorization = authorized.authorization ∧ parts.actorSig = authorized.actorSig := by
  rw [intoAuthorized]
  constructor
  · intro into
    split at into
    · next msg left read =>
      cases into
      exact ⟨⟨left, read⟩, rfl, rfl⟩
    · cases into
  · rintro ⟨⟨left, read⟩, authorization, actorSig⟩
    rw [read, authorization, actorSig]

namespace Authorized

/-- What follows the message. -/
def decodeSignatures : Decoder (Authorization Key Sig × Sig) := do
  let authorization ← Authorization.decode formats
  let actorSig ← formats.signature.decode "bad signature"
  return (authorization, actorSig)

variable {formats}

theorem run_decodeSignatures_eq_ok {buf left : List UInt8} {authorization : Authorization Key Sig} {actorSig : Sig} :
    (decodeSignatures formats).run buf = .ok ((authorization, actorSig), left) ↔
      ∃ rest, (Authorization.decode formats).run buf = .ok (authorization, rest) ∧
        (formats.signature.decode "bad signature").run rest = .ok (actorSig, left) := by
  rw [decodeSignatures, run_bind_eq_ok]
  constructor
  · rintro ⟨inner, rest, begun, ended⟩
    obtain ⟨signature, last, signed, same⟩ := run_bind_eq_ok.mp ended
    cases same
    exact ⟨rest, begun, signed⟩
  · rintro ⟨rest, begun, signed⟩
    exact ⟨authorization, rest, begun, run_bind_eq_ok.mpr ⟨actorSig, left, signed, rfl⟩⟩

theorem run_decodeFields {body : List UInt8} {authorized : Authorized Key Sig Metadata AccountChanges} :
    (∃ left, (decodeFields formats).run body = .ok (authorized, left)) ↔
      ∃ rest left, (AuthorizedMsg.decode formats).run body = .ok (authorized.msg, rest) ∧
        (decodeSignatures formats).run rest = .ok ((authorized.authorization, authorized.actorSig), left) := by
  simp only [decodeFields, run_bind_eq_ok, run_decodeSignatures_eq_ok]
  constructor
  · rintro ⟨left, msg, rest, begun, authorization, middle, second, actorSig, last, third, same⟩
    cases same
    exact ⟨rest, left, begun, middle, second, third⟩
  · rintro ⟨rest, left, begun, middle, second, third⟩
    exact ⟨left, _, rest, begun, _, middle, second, _, left, third, rfl⟩

theorem run_parseFields {body : List UInt8} {authorized : Authorized Key Sig Metadata AccountChanges} :
    (∃ parts left, (parseFields formats).run body = .ok (parts, left) ∧ parts.intoAuthorized formats = .ok authorized) ↔
      ∃ header cursor rest left, Header.decode.run body = .ok (header, cursor) ∧ header.list = true ∧
        (AuthorizedMsg.decodeContents formats).run cursor = .ok (authorized.msg, rest) ∧
        (cursor.drop header.payloadLength).length ≤ rest.length ∧
        (decodeSignatures formats).run (cursor.drop header.payloadLength) =
          .ok ((authorized.authorization, authorized.actorSig), left) := by
  simp only [run_parseFields_eq_ok, AuthorizedParts.intoAuthorized_eq_ok, run_decodeSignatures_eq_ok]
  constructor
  · rintro ⟨parts, left, ⟨header, cursor, rest, begun, kind, authorization, signature, msg, _⟩, read, same, sameSig⟩
    rw [msg, AuthorizedMsg.run_decode_announced begun kind] at read
    obtain ⟨ended, contents, within⟩ := read
    rw [AuthorizedMsg.drop_announced begun, same] at authorization
    rw [sameSig] at signature
    exact ⟨header, cursor, ended, left, begun, kind, contents, within, rest, authorization, signature⟩
  · rintro ⟨header, cursor, ended, left, begun, kind, contents, within, rest, authorization, signature⟩
    refine ⟨⟨authorized.authorization, authorized.actorSig, _, _⟩, left,
      ⟨header, cursor, rest, begun, kind, ?_, signature, rfl, rfl⟩, ?_, rfl, rfl⟩
    · rw [AuthorizedMsg.drop_announced begun]
      exact authorization
    · exact (AuthorizedMsg.run_decode_announced begun kind authorized.msg).mpr ⟨ended, contents, within⟩

variable (formats)

/-- The signatures are the same at both ends of the message, or, when it goes beyond its announced end, there are none
where it ends. -/
def EndsAgree (body : List UInt8) : Prop :=
  ∀ header cursor msg rest, Header.decode.run body = .ok (header, cursor) → header.list = true →
    (AuthorizedMsg.decodeContents formats).run cursor = .ok (msg, rest) →
    if (cursor.drop header.payloadLength).length ≤ rest.length then
      ∀ signatures, (∃ left, (decodeSignatures formats).run rest = .ok (signatures, left)) ↔
        ∃ left, (decodeSignatures formats).run (cursor.drop header.payloadLength) = .ok (signatures, left)
    else ∀ result, (decodeSignatures formats).run rest ≠ .ok result

variable {formats}

theorem fields_agree_iff (body : List UInt8) :
    (∀ authorized, (∃ parts left, (parseFields formats).run body = .ok (parts, left) ∧
        parts.intoAuthorized formats = .ok authorized) ↔
      ∃ left, (decodeFields formats).run body = .ok (authorized, left)) ↔ EndsAgree formats body := by
  simp only [run_parseFields, run_decodeFields, AuthorizedMsg.run_decode_eq_ok]
  constructor
  · intro agree header cursor msg rest begun kind contents
    split
    · next within =>
      rintro ⟨authorization, actorSig⟩
      constructor
      · rintro ⟨left, signed⟩
        obtain ⟨_, _, _, last, begun', _, _, _, announced⟩ :=
          (agree ⟨msg, authorization, actorSig⟩).mpr ⟨rest, left, ⟨header, cursor, begun, kind, contents⟩, signed⟩
        rw [begun] at begun'
        cases begun'
        exact ⟨last, announced⟩
      · rintro ⟨left, announced⟩
        obtain ⟨_, last, ⟨_, _, begun', _, contents'⟩, signed⟩ :=
          (agree ⟨msg, authorization, actorSig⟩).mp ⟨header, cursor, rest, left, begun, kind, contents, within, announced⟩
        rw [begun] at begun'
        cases begun'
        rw [contents] at contents'
        cases contents'
        exact ⟨last, signed⟩
    · next beyond =>
      rintro ⟨⟨authorization, actorSig⟩, left⟩ signed
      obtain ⟨_, _, _, _, begun', _, contents', within, _⟩ :=
        (agree ⟨msg, authorization, actorSig⟩).mpr ⟨rest, left, ⟨header, cursor, begun, kind, contents⟩, signed⟩
      rw [begun] at begun'
      cases begun'
      rw [contents] at contents'
      cases contents'
      exact beyond within
  · intro ends authorized
    constructor
    · rintro ⟨header, cursor, rest, left, begun, kind, contents, within, announced⟩
      have same := ends header cursor _ rest begun kind contents
      rw [if_pos within] at same
      obtain ⟨last, signed⟩ := (same _).mpr ⟨left, announced⟩
      exact ⟨rest, last, ⟨header, cursor, begun, kind, contents⟩, signed⟩
    · rintro ⟨rest, left, ⟨header, cursor, begun, kind, contents⟩, signed⟩
      have same := ends header cursor _ rest begun kind contents
      split at same
      · next within =>
        obtain ⟨last, announced⟩ := (same _).mp ⟨left, signed⟩
        exact ⟨header, cursor, rest, last, begun, kind, contents, within, announced⟩
      · exact absurd signed (same _)

end Authorized

namespace FlashblocksP2PMsg

def receive (buf : List UInt8) : Except FlashblocksError (FlashblocksP2PMsg Key Sig Metadata AccountChanges) := do
  match ← parse formats buf with
  | .authorized parts =>
    let authorized ← parts.intoAuthorized formats
    .ok (.authorized authorized)
  | .requestFlashblocks => .ok .requestFlashblocks
  | .acceptFlashblocks => .ok .acceptFlashblocks
  | .rejectFlashblocks => .ok .rejectFlashblocks
  | .cancelFlashblocks => .ok .cancelFlashblocks

/-- Both readers accept the frame and read the same message, or neither accepts it. -/
def ReadersAgree (buf : List UInt8) : Prop :=
  ∀ msg, receive formats buf = .ok msg ↔ ∃ rest, decode formats buf = .ok (msg, rest)

/-- If the frame has an authorized message, its two ends agree. -/
def EndsAgree (buf : List UInt8) : Prop :=
  ∀ frame header contents, buf = 0x00 :: frame → Header.decode.run frame = .ok (header, contents) → header.list = true →
    Authorized.EndsAgree formats (contents.take header.payloadLength)

variable {formats}

variable {frame : List UInt8}

theorem parse_authorized {parts : FlashblocksP2PMsgParts Key Sig} :
    parse formats (0x00 :: frame) = .ok parts ↔ ∃ inner, parts = .authorized inner ∧
      ∃ left, (Authorized.parse formats).run frame = .ok (inner, left) := by
  rw [parse, bind_eq_ok, Frame.read_authorized]
  constructor
  · rintro ⟨⟨outcome, rest⟩, read, same⟩
    cases same
    split at read
    · next inner _ parsed =>
      cases read
      exact ⟨inner, rfl, _, parsed⟩
    · cases read
  · rintro ⟨inner, rfl, left, parsed⟩
    exact ⟨(.authorized inner, left), by rw [parsed], rfl⟩

theorem receive_authorized {msg : FlashblocksP2PMsg Key Sig Metadata AccountChanges} :
    receive formats (0x00 :: frame) = .ok msg ↔ ∃ authorized, msg = .authorized authorized ∧
      ∃ header contents, Header.decode.run frame = .ok (header, contents) ∧ header.list = true ∧
        ∃ parts left, (Authorized.parseFields formats).run (contents.take header.payloadLength) = .ok (parts, left) ∧
          parts.intoAuthorized formats = .ok authorized := by
  rw [receive, bind_eq_ok]
  constructor
  · rintro ⟨parts, parsed, read⟩
    obtain ⟨inner, rfl, _, windowed⟩ := parse_authorized.mp parsed
    obtain ⟨authorized, into, same⟩ := bind_eq_ok.mp read
    cases same
    obtain ⟨header, contents, left, begun, kind, fields, _⟩ := run_windowed_eq_ok.mp windowed
    exact ⟨authorized, rfl, header, contents, begun, kind, inner, left, fields, into⟩
  · rintro ⟨authorized, rfl, header, contents, begun, kind, inner, left, fields, into⟩
    have windowed := run_windowed_eq_ok.mpr ⟨header, contents, left, begun, kind, fields, rfl⟩
    exact ⟨.authorized inner, parse_authorized.mpr ⟨inner, rfl, _, windowed⟩, bind_eq_ok.mpr ⟨authorized, into, rfl⟩⟩

theorem decode_authorized {msg : FlashblocksP2PMsg Key Sig Metadata AccountChanges} :
    (∃ rest, decode formats (0x00 :: frame) = .ok (msg, rest)) ↔ ∃ authorized, msg = .authorized authorized ∧
      ∃ header contents, Header.decode.run frame = .ok (header, contents) ∧ header.list = true ∧
        ∃ left, (Authorized.decodeFields formats).run (contents.take header.payloadLength) = .ok (authorized, left) := by
  rw [decode, Frame.read_authorized]
  constructor
  · rintro ⟨rest, decoded⟩
    split at decoded
    · next authorized _ read =>
      cases decoded
      obtain ⟨header, contents, left, begun, kind, fields, _⟩ := run_windowed_eq_ok.mp read
      exact ⟨authorized, rfl, header, contents, begun, kind, left, fields⟩
    · cases decoded
  · rintro ⟨authorized, rfl, header, contents, begun, kind, left, fields⟩
    have read := run_windowed_eq_ok.mpr ⟨header, contents, left, begun, kind, fields, rfl⟩
    refine ⟨contents.drop header.payloadLength, ?_⟩
    rw [Authorized.decode, read]

theorem readersAgree_of_ne {id : UInt8} (control : id ≠ 0x00) (rest : List UInt8) : ReadersAgree formats (id :: rest) := by
  intro msg
  have nonzero : id.toNat ≠ 0 := fun zero => control (UInt8.toNat_inj.mp zero)
  have alike : ∀ found : FlashblocksP2PMsg Key Sig Metadata AccountChanges,
      (Except.ok found : Except FlashblocksError _) = .ok msg ↔
        ∃ left, (Except.ok (found, rest) : Except FlashblocksError _) = .ok (msg, left) := by
    intro found
    constructor
    · intro read
      cases read
      exact ⟨rest, rfl⟩
    · rintro ⟨left, read⟩
      cases read
      rfl
  simp only [receive, parse, decode, Frame.read]
  generalize id.toNat = code at nonzero
  rcases code with _ | _ | _ | _ | _ | unknown
  · exact absurd rfl nonzero
  · exact alike .requestFlashblocks
  · exact alike .acceptFlashblocks
  · exact alike .rejectFlashblocks
  · exact alike .cancelFlashblocks
  · constructor
    · intro read
      cases read
    · rintro ⟨_, read⟩
      cases read

/-- The two readers agree on a frame exactly when the two ends of its message do. -/
theorem readers_agree_iff (formats : Formats Key Sig Metadata AccountChanges) (buf : List UInt8) :
    ReadersAgree formats buf ↔ EndsAgree formats buf := by
  constructor
  · rintro agree frame header contents rfl begun kind
    rw [← Authorized.fields_agree_iff]
    intro authorized
    have whole := agree (.authorized authorized)
    rw [receive_authorized, decode_authorized] at whole
    constructor
    · rintro ⟨parts, left, parsed, into⟩
      obtain ⟨_, same, _, _, begun', _, decoded⟩ :=
        whole.mp ⟨authorized, rfl, header, contents, begun, kind, parts, left, parsed, into⟩
      cases same
      rw [begun] at begun'
      cases begun'
      exact decoded
    · intro decoded
      obtain ⟨_, same, _, _, begun', _, parsed⟩ := whole.mpr ⟨authorized, rfl, header, contents, begun, kind, decoded⟩
      cases same
      rw [begun] at begun'
      cases begun'
      exact parsed
  · intro ends
    cases buf with
    | nil => exact fun msg => ⟨fun read => (by cases read), fun ⟨_, read⟩ => (by cases read)⟩
    | cons id frame =>
      by_cases control : id = 0x00
      · subst control
        intro msg
        rw [receive_authorized, decode_authorized]
        have same := fun authorized header contents begun kind =>
          (Authorized.fields_agree_iff _).mpr (ends frame header contents rfl begun kind) authorized
        constructor
        · rintro ⟨authorized, rfl, header, contents, begun, kind, parsed⟩
          exact ⟨authorized, rfl, header, contents, begun, kind, (same _ _ _ begun kind).mp parsed⟩
        · rintro ⟨authorized, rfl, header, contents, begun, kind, decoded⟩
          exact ⟨authorized, rfl, header, contents, begun, kind, (same _ _ _ begun kind).mpr decoded⟩
      · exact readersAgree_of_ne control frame

def startPublishFrame (msg : List UInt8) : List UInt8 :=
  0x00 :: encodeList (msg ++ sampleAuthorization.encode sampleFormats ++ Codec.bytes.encode (sampleSignature.1))

theorem readers_disagree :
    (receive sampleFormats (startPublishFrame [0xC2, 0x01, 0x7F])).toOption = some sampleStartPublish ∧
    (decode sampleFormats (startPublishFrame [0xC2, 0x01, 0x7F])).toOption = none ∧
    (receive sampleFormats (startPublishFrame [0xC0, 0x01])).toOption = none ∧
    (decode sampleFormats (startPublishFrame [0xC0, 0x01])).toOption = some (sampleStartPublish, []) := by
  decide +kernel

end FlashblocksP2PMsg

end WorldChain.Primitives
