import Ibc.Model.Checks
import Ibc.Model.Raw

/-!
# Decoding and encoding messages

`tryFrom` reads a message of the core out of its wire form and fails on what it does not accept;
`toRaw` writes it back. `MsgEnvelope.tryFrom` finds the message by its type, and `MsgEnvelope.toAny`
is the message with its type again. Writing a packet panics when its timestamp has no 64-bit count
of nanoseconds.
-/

namespace Ibc

variable (alnum : Char → Bool)

/-! ### Parts of messages -/

namespace Height

/-- Height zero of any revision is refused. -/
def tryFrom (raw : RawHeight) : Except ClientError Height :=
  Result.okOr (Height.new raw.revisionNumber.toNat raw.revisionHeight.toNat) .invalidHeight

/-- The two numbers, as words. -/
def toRaw (h : Height) : RawHeight := ⟨.ofNat h.revisionNumber, .ofNat h.revisionHeight⟩

/-- A height that has to be there, and to be valid. -/
def required {ε : Type} (raw : Option RawHeight) (missing : ε) : Except ε Height :=
  Result.okOr (raw.bind fun raw => (tryFrom raw).toOption) missing

end Height

/-- An empty proof is refused. -/
def CommitmentProofBytes.tryFrom (bytes : Bytes) : Except CommitmentError CommitmentProofBytes :=
  if h : bytes = [] then .error .emptyMerkleProof else .ok ⟨bytes, h⟩

/-- A proof whose absence is reported as `invalid`. -/
def CommitmentProofBytes.required {ε : Type} (bytes : Bytes) (invalid : ε) :
    Except ε CommitmentProofBytes :=
  (tryFrom bytes).mapError fun _ => invalid

/-- An empty prefix is refused. -/
def CommitmentPrefix.tryFrom (bytes : Bytes) : Except CommitmentError CommitmentPrefix :=
  if bytes = [] then .error .emptyCommitmentPrefix else .ok ⟨bytes⟩

/-- An empty acknowledgement is refused. -/
def Acknowledgement.tryFrom (bytes : Bytes) : Except PacketError Acknowledgement :=
  if h : bytes = [] then .error .invalidAcknowledgement else .ok ⟨bytes, h⟩

/-- A blank identifier and blank features are refused. -/
def ConnectionVersion.tryFrom (raw : ConnectionVersion) :
    Except ConnectionError ConnectionVersion := do
  Result.ensure (trim raw.identifier ≠ "") .emptyVersions
  Result.ensure (∀ feature ∈ raw.features, trim feature ≠ "") .emptyFeatures
  pure raw

/-- A version that may be absent. -/
def ConnectionVersion.optional :
    Option ConnectionVersion → Except ConnectionError (Option ConnectionVersion)
  | some raw => some <$> raw.tryFrom
  | none => pure none

/-- An optional identifier; the empty string stands for none. -/
def parseOptional {ε α : Type} (parse : String → Except ε α) (s : String) : Except ε (Option α) :=
  if s = "" then pure none else some <$> parse s

namespace ConnectionCounterparty

/-- The connection id may be empty; the prefix may not be missing. -/
def tryFrom (raw : RawConnectionCounterparty) : Except ConnectionError ConnectionCounterparty := do
  let connectionId ← (parseOptional (ConnectionId.fromStr alnum) raw.connectionId).mapError
    .invalidIdentifier
  let clientId ← (ClientId.fromStr alnum raw.clientId).mapError .invalidIdentifier
  let pfx ← Result.okOr raw.pfx .missingCounterparty
  let pfx ← (CommitmentPrefix.tryFrom pfx).mapError fun _ => .client .emptyPrefix
  pure ⟨clientId, connectionId, pfx⟩

/-- An OpenInit names no connection of the other chain. -/
def verifyEmptyConnectionId (c : ConnectionCounterparty) : Except ConnectionError Unit :=
  Result.ensure (c.connectionId = none) .invalidCounterparty

end ConnectionCounterparty

namespace Counterparty

/-- A port, and a channel id that may be empty. -/
def tryFrom (raw : String × String) : Except ChannelError Counterparty := do
  let channelId ← (parseOptional (ChannelId.fromStr alnum) raw.2).mapError .invalidIdentifier
  let portId ← (PortId.fromStr alnum raw.1).mapError .invalidIdentifier
  pure ⟨portId, channelId⟩

/-- An OpenInit names no channel of the other chain. -/
def verifyEmptyChannelId (c : Counterparty) : Except ChannelError Unit :=
  match c.channelId with
  | some id => .error (.invalidChannelId "Counterparty channel id must be empty"
      ("Some(ChannelId(\"" ++ id.str ++ "\"))"))
  | none => .ok ()

end Counterparty

/-- The state behind its wire number. -/
def ChannelState.fromI32 : ℕ → Except ChannelError ChannelState
  | 0 => .ok .uninitialized
  | 1 => .ok .init
  | 2 => .ok .tryOpen
  | 3 => .ok .open
  | 4 => .ok .closed
  | n => .error (.invalidState "Must be one of: 0, 1, 2, 3, 4" (toString n))

/-- The ordering behind its wire number. -/
def Order.fromI32 : ℕ → Except ChannelError Order
  | 0 => .ok .none
  | 1 => .ok .unordered
  | 2 => .ok .ordered
  | n => .error (.invalidOrderType "Must be one of 0, 1, 2" (toString n))

/-- All identifiers of a list, in order. -/
def parseHops (alnum : Char → Bool) : List String → Except IdentifierError (List ConnectionId)
  | [] => .ok []
  | s :: ss => do
      let id ← ConnectionId.fromStr alnum s
      let ids ← parseHops alnum ss
      pure (id :: ids)

/-- Numbers and identifiers are read in the order of the fields, then the end is checked. -/
def ChannelEnd.tryFrom (raw : RawChannel) : Except ChannelError ChannelEnd := do
  let state ← ChannelState.fromI32 raw.state
  let ordering ← Order.fromI32 raw.ordering
  let remote ← Result.okOr raw.counterparty .missingCounterparty
  let remote ← Counterparty.tryFrom alnum remote
  let hops ← (parseHops alnum raw.connectionHops).mapError .invalidIdentifier
  ChannelEnd.new state ordering remote hops ⟨raw.version⟩

/-- The timeout of a height on the wire; an absent one stands for none. -/
def TimeoutHeight.tryFromRaw : Option RawHeight → Except ClientError TimeoutHeight
  | some raw => TimeoutHeight.tryFrom raw.revisionNumber.toNat raw.revisionHeight.toNat
  | none => .ok .never

/-- No timeout is written as the height with both numbers zero. -/
def TimeoutHeight.toRaw : TimeoutHeight → Option RawHeight
  | .at h => some h.toRaw
  | .never => some ⟨0, 0⟩

namespace Packet

/-- Sequence zero, empty data, and a packet without any timeout are refused. -/
def tryFrom (raw : RawPacket) : Except PacketError Packet := do
  Result.ensure (raw.sequence ≠ 0) .zeroPacketSequence
  Result.ensure (raw.data ≠ []) .zeroPacketData
  let timeoutHeight ← (TimeoutHeight.tryFromRaw raw.timeoutHeight).mapError fun _ =>
    .invalidTimeoutHeight
  let timeoutTimestamp := Timestamp.fromNanoseconds raw.timeoutTimestamp.toNat
  Result.ensure (timeoutHeight.isSet = true ∨ timeoutTimestamp.isSet = true) .missingTimeout
  let portIdOnA ← (PortId.fromStr alnum raw.sourcePort).mapError .invalidIdentifier
  let chanIdOnA ← (ChannelId.fromStr alnum raw.sourceChannel).mapError .invalidIdentifier
  let portIdOnB ← (PortId.fromStr alnum raw.destinationPort).mapError .invalidIdentifier
  let chanIdOnB ← (ChannelId.fromStr alnum raw.destinationChannel).mapError .invalidIdentifier
  pure ⟨raw.sequence.toNat, portIdOnA, chanIdOnA, portIdOnB, chanIdOnB, raw.data, timeoutHeight,
    timeoutTimestamp⟩

/-- The wire form. A timestamp whose nanoseconds are no word panics. -/
def toRaw {ε : Type} (p : Packet) : Result ε RawPacket := do
  let timeoutTimestamp ← p.timeoutTimestampOnB.nanoseconds
  pure ⟨.ofNat p.seqOnA, p.portIdOnA.str, p.chanIdOnA.str, p.portIdOnB.str, p.chanIdOnB.str, p.data,
    p.timeoutHeightOnB.toRaw, .ofNat timeoutTimestamp⟩

end Packet

/-! ### Client messages -/

namespace MsgCreateClient

/-- The type of the message. -/
def typeUrl : String := "/ibc.core.client.v1.MsgCreateClient"

/-- Both states have to be there; they are not decoded. -/
def tryFrom (raw : RawMsgCreateClient) : Except ClientError MsgCreateClient := do
  let clientState ← Result.okOr raw.clientState .missingRawClientState
  let consensusState ← Result.okOr raw.consensusState .missingRawConsensusState
  pure ⟨clientState, consensusState, ⟨raw.signer⟩⟩

/-- The wire form. -/
def toRaw (msg : MsgCreateClient) : RawMsgCreateClient :=
  ⟨some msg.clientState, some msg.consensusState, msg.signer.str⟩

end MsgCreateClient

namespace MsgUpdateClient

/-- The type of the message. -/
def typeUrl : String := "/ibc.core.client.v1.MsgUpdateClient"

/-- The header has to be there; it is not decoded. -/
def tryFrom (raw : RawMsgUpdateClient) : Except ClientError MsgUpdateClient := do
  let clientId ← (ClientId.fromStr alnum raw.clientId).mapError .invalidMsgUpdateClientId
  let header ← Result.okOr raw.header .missingRawHeader
  pure ⟨clientId, header, ⟨raw.signer⟩⟩

/-- The wire form. -/
def toRaw (msg : MsgUpdateClient) : RawMsgUpdateClient :=
  ⟨msg.clientId.str, some msg.header, msg.signer.str⟩

end MsgUpdateClient

namespace MsgUpgradeClient

/-- The type of the message. -/
def typeUrl : String := "/ibc.core.client.v1.MsgUpgradeClient"

/-- The client id is read last, after the states and the proofs. -/
def tryFrom (raw : RawMsgUpgradeClient) : Except ClientError MsgUpgradeClient := do
  let clientState ← Result.okOr raw.clientState .missingRawClientState
  let consensusState ← Result.okOr raw.consensusState .missingRawConsensusState
  let proofClient ← CommitmentProofBytes.required raw.proofUpgradeClient
    (.upgrade (.invalidUpgradeClientProof .emptyMerkleProof))
  let proofConsensusState ← CommitmentProofBytes.required raw.proofUpgradeConsensusState
    (.upgrade (.invalidUpgradeConsensusStateProof .emptyMerkleProof))
  let clientId ← (ClientId.fromStr alnum raw.clientId).mapError .invalidClientIdentifier
  pure ⟨clientId, clientState, consensusState, proofClient, proofConsensusState, ⟨raw.signer⟩⟩

/-- The wire form. -/
def toRaw (msg : MsgUpgradeClient) : RawMsgUpgradeClient :=
  ⟨msg.clientId.str, some msg.upgradedClientState, some msg.upgradedConsensusState,
    msg.proofUpgradeClient.bytes, msg.proofUpgradeConsensusState.bytes, msg.signer.str⟩

end MsgUpgradeClient

namespace MsgSubmitMisbehaviour

/-- The type of the message. -/
def typeUrl : String := "/ibc.core.client.v1.MsgSubmitMisbehaviour"

/-- The misbehaviour has to be there; it is not decoded. -/
def tryFrom (raw : RawMsgSubmitMisbehaviour) : Except ClientError MsgSubmitMisbehaviour := do
  let misbehaviour ← Result.okOr raw.misbehaviour .missingRawMisbehaviour
  let clientId ← (ClientId.fromStr alnum raw.clientId).mapError .invalidRawMisbehaviour
  pure ⟨clientId, misbehaviour, ⟨raw.signer⟩⟩

/-- The wire form. -/
def toRaw (msg : MsgSubmitMisbehaviour) : RawMsgSubmitMisbehaviour :=
  ⟨msg.clientId.str, some msg.misbehaviour, msg.signer.str⟩

end MsgSubmitMisbehaviour

/-! ### Connection messages -/

namespace MsgConnectionOpenInit

/-- The type of the message. -/
def typeUrl : String := "/ibc.core.connection.v1.MsgConnectionOpenInit"

/-- The counterparty has no connection id, and the version is optional. -/
def tryFrom (raw : RawMsgConnectionOpenInit) : Except ConnectionError MsgConnectionOpenInit := do
  let counterparty ← Result.okOr raw.counterparty .missingCounterparty
  let counterparty ← ConnectionCounterparty.tryFrom alnum counterparty
  counterparty.verifyEmptyConnectionId
  let clientId ← (ClientId.fromStr alnum raw.clientId).mapError .invalidIdentifier
  let version ← ConnectionVersion.optional raw.version
  pure ⟨clientId, counterparty, version, raw.delayPeriod.toNat, ⟨raw.signer⟩⟩

/-- The wire form. -/
def toRaw (msg : MsgConnectionOpenInit) : RawMsgConnectionOpenInit :=
  ⟨msg.clientIdOnA.str, some msg.counterparty.toRaw, msg.version, .ofNat msg.delayPeriod,
    msg.signer.str⟩

end MsgConnectionOpenInit

/-- All versions of a list, in order. -/
def parseVersions : List ConnectionVersion → Except ConnectionError (List ConnectionVersion)
  | [] => .ok []
  | v :: vs => do
      let v ← v.tryFrom
      let vs ← parseVersions vs
      pure (v :: vs)

/-- The state behind its wire number. -/
def ConnectionState.fromI32 : ℕ → Except ConnectionError ConnectionState
  | 0 => .ok .uninitialized
  | 1 => .ok .init
  | 2 => .ok .tryOpen
  | 3 => .ok .open
  | n => .error (.invalidState "Must be one of: 0, 1, 2, 3" (toString n))

theorem ClientId.default_wf : IdentifierWf "07-tendermint-0" := ⟨by decide, by decide⟩

/-- The first client of the Tendermint type. -/
def ClientId.default : ClientId := ⟨"07-tendermint-0", ClientId.default_wf⟩

/-- An end that nothing was written to. -/
def ConnectionEnd.default : ConnectionEnd :=
  ⟨.uninitialized, .default, ⟨.default, none, ⟨[]⟩⟩, [], 0⟩

/-- Nothing of an uninitialized end is read. -/
def ConnectionEnd.tryFrom (raw : RawConnectionEnd) : Except ConnectionError ConnectionEnd := do
  let state ← ConnectionState.fromI32 raw.state
  if state = .uninitialized then
    pure .default
  else
    Result.ensure (raw.clientId ≠ "") .emptyProtoConnectionEnd
    Result.ensure (raw.versions ≠ []) .emptyVersions
    let clientId ← (ClientId.fromStr alnum raw.clientId).mapError .invalidIdentifier
    let counterparty ← Result.okOr raw.counterparty .missingCounterparty
    let counterparty ← ConnectionCounterparty.tryFrom alnum counterparty
    let versions ← parseVersions raw.versions
    ConnectionEnd.new state clientId counterparty versions raw.delayPeriod

namespace MsgConnectionOpenTry

/-- The type of the message. -/
def typeUrl : String := "/ibc.core.connection.v1.MsgConnectionOpenTry"

/-- One version is needed at least. A height zero is reported as missing. -/
def tryFrom (raw : RawMsgConnectionOpenTry) : Except ConnectionError MsgConnectionOpenTry := do
  let versions ← parseVersions raw.counterpartyVersions
  Result.ensure (versions ≠ []) .emptyVersions
  let clientId ← (ClientId.fromStr alnum raw.clientId).mapError .invalidIdentifier
  let clientState ← Result.okOr raw.clientState .missingClientState
  let counterparty ← Result.okOr raw.counterparty .missingCounterparty
  let counterparty ← ConnectionCounterparty.tryFrom alnum counterparty
  let proofInit ← CommitmentProofBytes.required raw.proofInit .invalidProof
  let proofClient ← CommitmentProofBytes.required raw.proofClient .invalidProof
  let proofConsensus ← CommitmentProofBytes.required raw.proofConsensus .invalidProof
  let proofHeight ← Height.required raw.proofHeight .missingProofHeight
  let consensusHeight ← Height.required raw.consensusHeight .missingConsensusHeight
  pure ⟨clientId, clientState, counterparty, versions, proofInit, proofClient, proofConsensus,
    proofHeight, consensusHeight, raw.delayPeriod.toNat, ⟨raw.signer⟩, raw.previousConnectionId⟩

/-- The wire form, with the deprecated connection id. -/
def toRaw (msg : MsgConnectionOpenTry) : RawMsgConnectionOpenTry :=
  ⟨msg.clientIdOnB.str, msg.previousConnectionId, some msg.clientStateOfBOnA,
    some msg.counterparty.toRaw, .ofNat msg.delayPeriod, msg.versionsOnA,
    some msg.proofsHeightOnA.toRaw, msg.proofConnEndOnA.bytes, msg.proofClientStateOfBOnA.bytes,
    msg.proofConsensusStateOfBOnA.bytes, some msg.consensusHeightOfBOnA.toRaw, msg.signer.str⟩

end MsgConnectionOpenTry

namespace MsgConnectionOpenAck

/-- The type of the message. -/
def typeUrl : String := "/ibc.core.connection.v1.MsgConnectionOpenAck"

/-- A missing version is reported like an empty list of versions. -/
def tryFrom (raw : RawMsgConnectionOpenAck) : Except ConnectionError MsgConnectionOpenAck := do
  let connIdOnA ← (ConnectionId.fromStr alnum raw.connectionId).mapError .invalidIdentifier
  let connIdOnB ← (ConnectionId.fromStr alnum raw.counterpartyConnectionId).mapError
    .invalidIdentifier
  let clientState ← Result.okOr raw.clientState .missingClientState
  let version ← Result.okOr raw.version .emptyVersions
  let version ← version.tryFrom
  let proofTry ← CommitmentProofBytes.required raw.proofTry .invalidProof
  let proofClient ← CommitmentProofBytes.required raw.proofClient .invalidProof
  let proofConsensus ← CommitmentProofBytes.required raw.proofConsensus .invalidProof
  let proofHeight ← Height.required raw.proofHeight .missingProofHeight
  let consensusHeight ← Height.required raw.consensusHeight .missingConsensusHeight
  pure ⟨connIdOnA, connIdOnB, clientState, proofTry, proofClient, proofConsensus, proofHeight,
    consensusHeight, version, ⟨raw.signer⟩⟩

/-- The wire form. -/
def toRaw (msg : MsgConnectionOpenAck) : RawMsgConnectionOpenAck :=
  ⟨msg.connIdOnA.str, msg.connIdOnB.str, some msg.version, some msg.clientStateOfAOnB,
    some msg.proofsHeightOnB.toRaw, msg.proofConnEndOnB.bytes, msg.proofClientStateOfAOnB.bytes,
    msg.proofConsensusStateOfAOnB.bytes, some msg.consensusHeightOfAOnB.toRaw, msg.signer.str⟩

end MsgConnectionOpenAck

namespace MsgConnectionOpenConfirm

/-- The type of the message. -/
def typeUrl : String := "/ibc.core.connection.v1.MsgConnectionOpenConfirm"

/-- Identifier, proof and height. -/
def tryFrom (raw : RawMsgConnectionOpenConfirm) :
    Except ConnectionError MsgConnectionOpenConfirm := do
  let connId ← (ConnectionId.fromStr alnum raw.connectionId).mapError .invalidIdentifier
  let proofAck ← CommitmentProofBytes.required raw.proofAck .invalidProof
  let proofHeight ← Height.required raw.proofHeight .missingProofHeight
  pure ⟨connId, proofAck, proofHeight, ⟨raw.signer⟩⟩

/-- The wire form. -/
def toRaw (msg : MsgConnectionOpenConfirm) : RawMsgConnectionOpenConfirm :=
  ⟨msg.connIdOnB.str, msg.proofConnEndOnA.bytes, some msg.proofHeightOnA.toRaw, msg.signer.str⟩

end MsgConnectionOpenConfirm

/-! ### Channel messages -/

namespace MsgChannelOpenInit

/-- The type of the message. -/
def typeUrl : String := "/ibc.core.channel.v1.MsgChannelOpenInit"

/-- The channel end is in `init`, and names no channel of the other chain. -/
def tryFrom (raw : RawMsgChannelOpenInit) : Except ChannelError MsgChannelOpenInit := do
  let channel ← Result.okOr raw.channel .missingChannel
  let chanEndOnA ← ChannelEnd.tryFrom alnum channel
  chanEndOnA.verifyStateMatches .init
  chanEndOnA.remote.verifyEmptyChannelId
  let portIdOnA ← (PortId.fromStr alnum raw.portId).mapError .invalidIdentifier
  pure ⟨portIdOnA, chanEndOnA.connectionHops, chanEndOnA.remote.portId, chanEndOnA.ordering,
    ⟨raw.signer⟩, chanEndOnA.version⟩

/-- The wire form. The message becomes a channel end in `init`. -/
def toRaw (msg : MsgChannelOpenInit) : RawMsgChannelOpenInit :=
  let chanEndOnA : ChannelEnd :=
    ⟨.init, msg.ordering, ⟨msg.portIdOnB, none⟩, msg.connectionHopsOnA, msg.versionProposal⟩
  ⟨msg.portIdOnA.str, some chanEndOnA.toRaw, msg.signer.str⟩

end MsgChannelOpenInit

namespace MsgChannelOpenTry

/-- The type of the message. -/
def typeUrl : String := "/ibc.core.channel.v1.MsgChannelOpenTry"

/-- The channel end is in `tryOpen`, and the deprecated channel id is empty. -/
def tryFrom (raw : RawMsgChannelOpenTry) : Except ChannelError MsgChannelOpenTry := do
  let channel ← Result.okOr raw.channel .missingChannel
  let chanEndOnB ← ChannelEnd.tryFrom alnum channel
  chanEndOnB.verifyStateMatches .tryOpen
  Result.ensure (raw.previousChannelId = "") (.invalidChannelId ("previous channel id must be " ++
    "empty. It has been deprecated as crossing hellos are no longer supported")
    raw.previousChannelId)
  let portIdOnB ← (PortId.fromStr alnum raw.portId).mapError .invalidIdentifier
  let chanIdOnA ← Result.okOr chanEndOnB.remote.channelId .missingCounterparty
  let proofInit ← CommitmentProofBytes.required raw.proofInit .invalidProof
  let proofHeight ← Height.required raw.proofHeight .missingHeight
  pure ⟨portIdOnB, chanEndOnB.connectionHops, chanEndOnB.remote.portId, chanIdOnA,
    ⟨raw.counterpartyVersion⟩, proofInit, proofHeight, chanEndOnB.ordering, ⟨raw.signer⟩,
    chanEndOnB.version⟩

/-- The version of the channel end is not written. -/
def toRaw (msg : MsgChannelOpenTry) : RawMsgChannelOpenTry :=
  let chanEndOnB : ChannelEnd :=
    ⟨.tryOpen, msg.ordering, ⟨msg.portIdOnA, some msg.chanIdOnA⟩, msg.connectionHopsOnB, .empty⟩
  ⟨msg.portIdOnB.str, "", some chanEndOnB.toRaw, msg.versionSupportedOnA.str,
    msg.proofChanEndOnA.bytes, some msg.proofHeightOnA.toRaw, msg.signer.str⟩

end MsgChannelOpenTry

namespace MsgChannelOpenAck

/-- The type of the message. -/
def typeUrl : String := "/ibc.core.channel.v1.MsgChannelOpenAck"

/-- Identifiers, proof and height; any text is a version. -/
def tryFrom (raw : RawMsgChannelOpenAck) : Except ChannelError MsgChannelOpenAck := do
  let portIdOnA ← (PortId.fromStr alnum raw.portId).mapError .invalidIdentifier
  let chanIdOnA ← (ChannelId.fromStr alnum raw.channelId).mapError .invalidIdentifier
  let chanIdOnB ← (ChannelId.fromStr alnum raw.counterpartyChannelId).mapError .invalidIdentifier
  let proofTry ← CommitmentProofBytes.required raw.proofTry .invalidProof
  let proofHeight ← Height.required raw.proofHeight .missingHeight
  pure ⟨portIdOnA, chanIdOnA, chanIdOnB, ⟨raw.counterpartyVersion⟩, proofTry, proofHeight,
    ⟨raw.signer⟩⟩

/-- The wire form. -/
def toRaw (msg : MsgChannelOpenAck) : RawMsgChannelOpenAck :=
  ⟨msg.portIdOnA.str, msg.chanIdOnA.str, msg.chanIdOnB.str, msg.versionOnB.str,
    msg.proofChanEndOnB.bytes, some msg.proofHeightOnB.toRaw, msg.signer.str⟩

end MsgChannelOpenAck

namespace MsgChannelOpenConfirm

/-- The type of the message. -/
def typeUrl : String := "/ibc.core.channel.v1.MsgChannelOpenConfirm"

/-- Identifiers, proof and height. -/
def tryFrom (raw : RawMsgChannelOpenConfirm) : Except ChannelError MsgChannelOpenConfirm := do
  let portIdOnB ← (PortId.fromStr alnum raw.portId).mapError .invalidIdentifier
  let chanIdOnB ← (ChannelId.fromStr alnum raw.channelId).mapError .invalidIdentifier
  let proofAck ← CommitmentProofBytes.required raw.proofAck .invalidProof
  let proofHeight ← Height.required raw.proofHeight .missingHeight
  pure ⟨portIdOnB, chanIdOnB, proofAck, proofHeight, ⟨raw.signer⟩⟩

/-- The wire form. -/
def toRaw (msg : MsgChannelOpenConfirm) : RawMsgChannelOpenConfirm :=
  ⟨msg.portIdOnB.str, msg.chanIdOnB.str, msg.proofChanEndOnA.bytes,
    some msg.proofHeightOnA.toRaw, msg.signer.str⟩

end MsgChannelOpenConfirm

namespace MsgChannelCloseInit

/-- The type of the message. -/
def typeUrl : String := "/ibc.core.channel.v1.MsgChannelCloseInit"

/-- Identifiers only. -/
def tryFrom (raw : RawMsgChannelCloseInit) : Except ChannelError MsgChannelCloseInit := do
  let portIdOnA ← (PortId.fromStr alnum raw.portId).mapError .invalidIdentifier
  let chanIdOnA ← (ChannelId.fromStr alnum raw.channelId).mapError .invalidIdentifier
  pure ⟨portIdOnA, chanIdOnA, ⟨raw.signer⟩⟩

/-- The wire form. -/
def toRaw (msg : MsgChannelCloseInit) : RawMsgChannelCloseInit :=
  ⟨msg.portIdOnA.str, msg.chanIdOnA.str, msg.signer.str⟩

end MsgChannelCloseInit

namespace MsgChannelCloseConfirm

/-- The type of the message. -/
def typeUrl : String := "/ibc.core.channel.v1.MsgChannelCloseConfirm"

/-- Identifiers, proof and height. -/
def tryFrom (raw : RawMsgChannelCloseConfirm) : Except ChannelError MsgChannelCloseConfirm := do
  let portIdOnB ← (PortId.fromStr alnum raw.portId).mapError .invalidIdentifier
  let chanIdOnB ← (ChannelId.fromStr alnum raw.channelId).mapError .invalidIdentifier
  let proofInit ← CommitmentProofBytes.required raw.proofInit .invalidProof
  let proofHeight ← Height.required raw.proofHeight .missingHeight
  pure ⟨portIdOnB, chanIdOnB, proofInit, proofHeight, ⟨raw.signer⟩⟩

/-- The wire form. -/
def toRaw (msg : MsgChannelCloseConfirm) : RawMsgChannelCloseConfirm :=
  ⟨msg.portIdOnB.str, msg.chanIdOnB.str, msg.proofChanEndOnA.bytes,
    some msg.proofHeightOnA.toRaw, msg.signer.str⟩

end MsgChannelCloseConfirm

/-! ### Packet messages -/

/-- The packet of a message, which has to be there. -/
def Packet.required (raw : Option RawPacket) : Except PacketError Packet := do
  let raw ← Result.okOr raw .missingPacket
  Packet.tryFrom alnum raw

namespace MsgRecvPacket

/-- The type of the message. -/
def typeUrl : String := "/ibc.core.channel.v1.MsgRecvPacket"

/-- Packet, proof and height. -/
def tryFrom (raw : RawMsgRecvPacket) : Except PacketError MsgRecvPacket := do
  let packet ← Packet.required alnum raw.packet
  let proofCommitment ← CommitmentProofBytes.required raw.proofCommitment .invalidProof
  let proofHeight ← Height.required raw.proofHeight .missingHeight
  pure ⟨packet, proofCommitment, proofHeight, ⟨raw.signer⟩⟩

/-- The wire form, if the packet has one. -/
def toRaw {ε : Type} (msg : MsgRecvPacket) : Result ε RawMsgRecvPacket := do
  let packet ← msg.packet.toRaw
  pure ⟨some packet, msg.proofCommitmentOnA.bytes, some msg.proofHeightOnA.toRaw, msg.signer.str⟩

end MsgRecvPacket

namespace MsgAcknowledgement

/-- The type of the message. -/
def typeUrl : String := "/ibc.core.channel.v1.MsgAcknowledgement"

/-- Packet, acknowledgement, proof and height. -/
def tryFrom (raw : RawMsgAcknowledgement) : Except PacketError MsgAcknowledgement := do
  let packet ← Packet.required alnum raw.packet
  let acknowledgement ← Acknowledgement.tryFrom raw.acknowledgement
  let proofAcked ← CommitmentProofBytes.required raw.proofAcked .invalidProof
  let proofHeight ← Height.required raw.proofHeight .missingHeight
  pure ⟨packet, acknowledgement, proofAcked, proofHeight, ⟨raw.signer⟩⟩

/-- The wire form, if the packet has one. -/
def toRaw {ε : Type} (msg : MsgAcknowledgement) : Result ε RawMsgAcknowledgement := do
  let packet ← msg.packet.toRaw
  pure ⟨some packet, msg.acknowledgement.bytes, msg.proofAckedOnB.bytes,
    some msg.proofHeightOnB.toRaw, msg.signer.str⟩

end MsgAcknowledgement

namespace MsgTimeout

/-- The type of the message. -/
def typeUrl : String := "/ibc.core.channel.v1.MsgTimeout"

/-- The sequence that the other end expects is not zero. -/
def tryFrom (raw : RawMsgTimeout) : Except PacketError MsgTimeout := do
  Result.ensure (raw.nextSequenceRecv ≠ 0) .zeroPacketSequence
  let packet ← Packet.required alnum raw.packet
  let proofUnreceived ← CommitmentProofBytes.required raw.proofUnreceived .invalidProof
  let proofHeight ← Height.required raw.proofHeight .missingHeight
  pure ⟨packet, raw.nextSequenceRecv.toNat, proofUnreceived, proofHeight, ⟨raw.signer⟩⟩

/-- The wire form, if the packet has one. -/
def toRaw {ε : Type} (msg : MsgTimeout) : Result ε RawMsgTimeout := do
  let packet ← msg.packet.toRaw
  pure ⟨some packet, msg.proofUnreceivedOnB.bytes, some msg.proofHeightOnB.toRaw,
    .ofNat msg.nextSeqRecvOnB, msg.signer.str⟩

end MsgTimeout

namespace MsgTimeoutOnClose

/-- The type of the message. -/
def typeUrl : String := "/ibc.core.channel.v1.MsgTimeoutOnClose"

/-- Like a timeout, with a second proof. -/
def tryFrom (raw : RawMsgTimeoutOnClose) : Except PacketError MsgTimeoutOnClose := do
  Result.ensure (raw.nextSequenceRecv ≠ 0) .zeroPacketSequence
  let packet ← Packet.required alnum raw.packet
  let proofUnreceived ← CommitmentProofBytes.required raw.proofUnreceived .invalidProof
  let proofClose ← CommitmentProofBytes.required raw.proofClose .invalidProof
  let proofHeight ← Height.required raw.proofHeight .missingHeight
  pure ⟨packet, raw.nextSequenceRecv.toNat, proofUnreceived, proofClose, proofHeight, ⟨raw.signer⟩⟩

/-- The wire form, if the packet has one. -/
def toRaw {ε : Type} (msg : MsgTimeoutOnClose) : Result ε RawMsgTimeoutOnClose := do
  let packet ← msg.packet.toRaw
  pure ⟨some packet, msg.proofUnreceivedOnB.bytes, msg.proofCloseOnB.bytes,
    some msg.proofHeightOnB.toRaw, .ofNat msg.nextSeqRecvOnB, msg.signer.str⟩

end MsgTimeoutOnClose

/-! ### All messages -/

/-- Why bytes are not a message: they are not the wire form of one, or its decoder refuses it. The
source keeps the text of the error. -/
inductive MalformedMessage where
  | wire
  | client (e : ClientError)
  | connection (e : ConnectionError)
  | channel (e : ChannelError)
  | packet (e : PacketError)

/-- Why an `Any` is not a message: its type is not known, or its bytes are malformed. -/
inductive RouterError where
  | unknownMessageTypeUrl (url : String)
  | malformedMessageBytes (e : MalformedMessage)

/-- Reads the wire form, then the message. -/
def decodeVec {Raw ε α : Type} (c : Proto.Codec Raw) (tryFrom : Raw → Except ε α)
    (malformed : ε → MalformedMessage) (bytes : Bytes) : Except RouterError α := do
  let raw ← Result.okOr (c.decode bytes) (.malformedMessageBytes .wire)
  (tryFrom raw).mapError fun e => .malformedMessageBytes (malformed e)

namespace MsgEnvelope

/-- Reads one kind of message. -/
def read {Raw ε α : Type} (c : Proto.Codec Raw) (tryFrom : Raw → Except ε α)
    (malformed : ε → MalformedMessage) (envelope : α → MsgEnvelope) (bytes : Bytes) :
    Except RouterError MsgEnvelope :=
  (decodeVec c tryFrom malformed bytes).map envelope

/-- The types of messages, with their readers. -/
def readers (prost : Prost) (alnum : Char → Bool) :
    List (String × (Bytes → Except RouterError MsgEnvelope)) :=
  [(MsgCreateClient.typeUrl,
    read prost.createClient MsgCreateClient.tryFrom .client (.client <| .createClient ·)),
   (MsgUpdateClient.typeUrl,
    read prost.updateClient (MsgUpdateClient.tryFrom alnum) .client (.client <| .updateClient ·)),
   (MsgUpgradeClient.typeUrl,
    read prost.upgradeClient (MsgUpgradeClient.tryFrom alnum) .client
      (.client <| .upgradeClient ·)),
   (MsgSubmitMisbehaviour.typeUrl,
    read prost.misbehaviour (MsgSubmitMisbehaviour.tryFrom alnum) .client
      (.client <| .misbehaviour ·)),
   (MsgConnectionOpenInit.typeUrl,
    read prost.connOpenInit (MsgConnectionOpenInit.tryFrom alnum) .connection
      (.connection <| .openInit ·)),
   (MsgConnectionOpenTry.typeUrl,
    read prost.connOpenTry (MsgConnectionOpenTry.tryFrom alnum) .connection
      (.connection <| .openTry ·)),
   (MsgConnectionOpenAck.typeUrl,
    read prost.connOpenAck (MsgConnectionOpenAck.tryFrom alnum) .connection
      (.connection <| .openAck ·)),
   (MsgConnectionOpenConfirm.typeUrl,
    read prost.connOpenConfirm (MsgConnectionOpenConfirm.tryFrom alnum) .connection
      (.connection <| .openConfirm ·)),
   (MsgChannelOpenInit.typeUrl,
    read prost.chanOpenInit (MsgChannelOpenInit.tryFrom alnum) .channel (.channel <| .openInit ·)),
   (MsgChannelOpenTry.typeUrl,
    read prost.chanOpenTry (MsgChannelOpenTry.tryFrom alnum) .channel (.channel <| .openTry ·)),
   (MsgChannelOpenAck.typeUrl,
    read prost.chanOpenAck (MsgChannelOpenAck.tryFrom alnum) .channel (.channel <| .openAck ·)),
   (MsgChannelOpenConfirm.typeUrl,
    read prost.chanOpenConfirm (MsgChannelOpenConfirm.tryFrom alnum) .channel
      (.channel <| .openConfirm ·)),
   (MsgChannelCloseInit.typeUrl,
    read prost.chanCloseInit (MsgChannelCloseInit.tryFrom alnum) .channel
      (.channel <| .closeInit ·)),
   (MsgChannelCloseConfirm.typeUrl,
    read prost.chanCloseConfirm (MsgChannelCloseConfirm.tryFrom alnum) .channel
      (.channel <| .closeConfirm ·)),
   (MsgRecvPacket.typeUrl,
    read prost.recvPacket (MsgRecvPacket.tryFrom alnum) .packet (.packet <| .recv ·)),
   (MsgAcknowledgement.typeUrl,
    read prost.acknowledgement (MsgAcknowledgement.tryFrom alnum) .packet (.packet <| .ack ·)),
   (MsgTimeout.typeUrl,
    read prost.timeout (MsgTimeout.tryFrom alnum) .packet (.packet <| .timeout ·)),
   (MsgTimeoutOnClose.typeUrl,
    read prost.timeoutOnClose (MsgTimeoutOnClose.tryFrom alnum) .packet
      (.packet <| .timeoutOnClose ·))]

/-- The reader is found by the type. -/
def tryFrom (prost : Prost) (alnum : Char → Bool) (any : Any) : Except RouterError MsgEnvelope :=
  match (readers prost alnum).lookup any.typeUrl with
  | some reader => reader any.value
  | none => .error (.unknownMessageTypeUrl any.typeUrl)

/-- The message in an envelope, with its type and its bytes to sign. -/
def toAny {ε : Type} (prost : Prost) : MsgEnvelope → Result ε Any
  | .client (.createClient msg) =>
      pure ⟨MsgCreateClient.typeUrl, prost.createClient.encode msg.toRaw⟩
  | .client (.updateClient msg) =>
      pure ⟨MsgUpdateClient.typeUrl, prost.updateClient.encode msg.toRaw⟩
  | .client (.upgradeClient msg) =>
      pure ⟨MsgUpgradeClient.typeUrl, prost.upgradeClient.encode msg.toRaw⟩
  | .client (.misbehaviour msg) =>
      pure ⟨MsgSubmitMisbehaviour.typeUrl, prost.misbehaviour.encode msg.toRaw⟩
  | .connection (.openInit msg) =>
      pure ⟨MsgConnectionOpenInit.typeUrl, prost.connOpenInit.encode msg.toRaw⟩
  | .connection (.openTry msg) =>
      pure ⟨MsgConnectionOpenTry.typeUrl, prost.connOpenTry.encode msg.toRaw⟩
  | .connection (.openAck msg) =>
      pure ⟨MsgConnectionOpenAck.typeUrl, prost.connOpenAck.encode msg.toRaw⟩
  | .connection (.openConfirm msg) =>
      pure ⟨MsgConnectionOpenConfirm.typeUrl, prost.connOpenConfirm.encode msg.toRaw⟩
  | .channel (.openInit msg) =>
      pure ⟨MsgChannelOpenInit.typeUrl, prost.chanOpenInit.encode msg.toRaw⟩
  | .channel (.openTry msg) =>
      pure ⟨MsgChannelOpenTry.typeUrl, prost.chanOpenTry.encode msg.toRaw⟩
  | .channel (.openAck msg) =>
      pure ⟨MsgChannelOpenAck.typeUrl, prost.chanOpenAck.encode msg.toRaw⟩
  | .channel (.openConfirm msg) =>
      pure ⟨MsgChannelOpenConfirm.typeUrl, prost.chanOpenConfirm.encode msg.toRaw⟩
  | .channel (.closeInit msg) =>
      pure ⟨MsgChannelCloseInit.typeUrl, prost.chanCloseInit.encode msg.toRaw⟩
  | .channel (.closeConfirm msg) =>
      pure ⟨MsgChannelCloseConfirm.typeUrl, prost.chanCloseConfirm.encode msg.toRaw⟩
  | .packet (.recv msg) => do
      let raw ← msg.toRaw
      pure ⟨MsgRecvPacket.typeUrl, prost.recvPacket.encode raw⟩
  | .packet (.ack msg) => do
      let raw ← msg.toRaw
      pure ⟨MsgAcknowledgement.typeUrl, prost.acknowledgement.encode raw⟩
  | .packet (.timeout msg) => do
      let raw ← msg.toRaw
      pure ⟨MsgTimeout.typeUrl, prost.timeout.encode raw⟩
  | .packet (.timeoutOnClose msg) => do
      let raw ← msg.toRaw
      pure ⟨MsgTimeoutOnClose.typeUrl, prost.timeoutOnClose.encode raw⟩

end MsgEnvelope

end Ibc
