import Ibc.Model.Wire

/-!
# Errors

The errors of the four sub-protocols with their payloads, and `ContextError`, which a caller of the
core sees. An error of one layer turns into an error of the next as the source's conversions do; a
`do` block over the larger type lifts it silently, like the source's question mark.
-/

namespace Ibc

/-- The errors of commitments and proofs. -/
inductive CommitmentError where
  | emptyCommitmentPrefix
  | emptyMerkleProof
  | emptyMerkleRoot
  | emptyVerifiedValue
  | numberOfSpecsMismatch
  | numberOfKeysMismatch
  | invalidMerkleProof
  | verificationFailure
  | invalidRawMerkleProof
  | encodingFailure (reason : String)
deriving DecidableEq

/-- The errors of client upgrades. -/
inductive UpgradeClientError where
  | invalidUpgradeClientProof (e : CommitmentError)
  | invalidUpgradeConsensusStateProof (e : CommitmentError)
  | lowUpgradeHeight (upgradedHeight clientHeight : Height)
  | invalidUpgradeProposal (reason : String)
  | invalidUpgradePlan (reason : String)
  | other (reason : String)
deriving DecidableEq

/-- The errors of clients. -/
inductive ClientError where
  | upgrade (e : UpgradeClientError)
  | clientIdentifierConstructor (clientType : ClientType) (counter : ℕ) (e : IdentifierError)
  | clientFrozen (description : String)
  | clientStateNotFound (clientId : ClientId)
  | clientStateAlreadyExists (clientId : ClientId)
  | consensusStateNotFound (clientId : ClientId) (height : Height)
  | headerVerificationFailure (reason : String)
  | invalidTrustThreshold (numerator denominator : ℕ)
  | failedTrustThresholdConversion (numerator denominator : ℕ)
  | unknownClientStateType (clientStateType : String)
  | emptyPrefix
  | unknownConsensusStateType (consensusStateType : String)
  | unknownHeaderType (headerType : String)
  | unknownMisbehaviourType (misbehaviourType : String)
  | decode
  | invalidHeight
  | invalidHeightResult
  | invalidProofHeight (latestHeight proofHeight : Height)
  | invalidCommitmentProof (e : CommitmentError)
  | lowHeaderHeight (headerHeight latestHeight : Height)
  | invalidConsensusStateTimestamp (time1 time2 : Timestamp)
  | headerNotWithinTrustPeriod (latestTime updateTime : Timestamp)
  | missingLocalConsensusState (height : Height)
  | invalidSigner (reason : String)
  | ics23Verification (e : CommitmentError)
  | misbehaviourHandlingFailure (reason : String)
  | clientSpecific (description : String)
  | other (description : String)
  | missingRawClientState
  | missingRawConsensusState
  | missingRawHeader
  | missingRawMisbehaviour
  | invalidRawMisbehaviour (e : IdentifierError)
  | invalidMsgUpdateClientId (e : IdentifierError)
  | invalidClientIdentifier (e : IdentifierError)
deriving DecidableEq

/-- The errors of connections. -/
inductive ConnectionError where
  | client (e : ClientError)
  | invalidState (expected actual : String)
  | invalidConsensusHeight (targetHeight currentHeight : Height)
  | invalidIdentifier (e : IdentifierError)
  | emptyProtoConnectionEnd
  | emptyVersions
  | invalidVersionLength
  | versionNotSupported (version : ConnectionVersion)
  | noCommonVersion
  | emptyFeatures
  | featureNotSupported (feature : String)
  | noCommonFeatures
  | verifyConnectionState (e : ClientError)
  | connectionNotFound (connectionId : ConnectionId)
  | invalidCounterparty
  | consensusStateVerificationFailure (height : Height) (e : ClientError)
  | clientStateVerificationFailure (clientId : ClientId) (e : ClientError)
  | invalidClientState (reason : String)
  | invalidSigner (reason : String)
  | notEnoughBlocksElapsed (currentHostHeight earliestValidHeight : Height)
  | notEnoughTimeElapsed (currentHostTime earliestValidTime : Timestamp)
  | timestampOverflow
  | other (description : String)
  | missingCounterparty
  | missingClientState
  | missingProofHeight
  | missingConsensusHeight
  | invalidProof
deriving DecidableEq

/-- The errors of ports. -/
inductive PortError where
  | unknownPort (portId : PortId)
deriving DecidableEq

/-- The errors of channels. -/
inductive ChannelError where
  | port (e : PortError)
  | invalidState (expected actual : String)
  | invalidOrderType (expected actual : String)
  | invalidConnectionHopsLength (expected actual : ℕ)
  | invalidSigner (reason : String)
  | versionNotSupported (expected actual : ChannelVersion)
  | missingCounterparty
  | channelNotFound (portId : PortId) (channelId : ChannelId)
  | packetVerificationFailed (sequence : Sequence) (e : ClientError)
  | verifyChannelFailed (e : ClientError)
  | invalidCounterparty (expected actual : Counterparty)
  | processedTimeNotFound (clientId : ClientId) (height : Height)
  | processedHeightNotFound (clientId : ClientId) (height : Height)
  | routeNotFound
  | appModule (description : String)
  | other (description : String)
  | undefinedConnectionCounterparty (connectionId : ConnectionId)
  | invalidIdentifier (e : IdentifierError)
  | invalidChannelId (expected actual : String)
  | missingChannel
  | missingHeight
  | invalidProof
deriving DecidableEq

/-- The errors of packets. -/
inductive PacketError where
  | connection (e : ConnectionError)
  | channel (e : ChannelError)
  | lowPacketHeight (chainHeight : Height) (timeoutHeight : TimeoutHeight)
  | lowPacketTimestamp
  | invalidPacketSequence (givenSequence nextSequence : Sequence)
  | packetReceiptNotFound (sequence : Sequence)
  | incorrectPacketCommitment (sequence : Sequence)
  | undefinedConnectionCounterparty (connectionId : ConnectionId)
  | packetTimeoutNotReached (timeoutHeight : TimeoutHeight) (chainHeight : Height)
      (timeoutTimestamp chainTimestamp : Timestamp)
  | acknowledgementExists (sequence : Sequence)
  | invalidAcknowledgement
  | packetAcknowledgementNotFound (sequence : Sequence)
  | appModule (description : String)
  | routeNotFound
  | zeroPacketSequence
  | zeroPacketData
  | invalidTimeoutHeight
  | missingTimeout
  | invalidIdentifier (e : IdentifierError)
  | missingNextSendSeq (portId : PortId) (channelId : ChannelId)
  | channelNotFound (portId : PortId) (channelId : ChannelId)
  | packetCommitmentNotFound (sequence : Sequence)
  | missingNextRecvSeq (portId : PortId) (channelId : ChannelId)
  | missingNextAckSeq (portId : PortId) (channelId : ChannelId)
  | missingPacket
  | missingHeight
  | invalidProof
deriving DecidableEq

/-- The error of a call into the core. -/
inductive ContextError where
  | clientError (e : ClientError)
  | connectionError (e : ConnectionError)
  | channelError (e : ChannelError)
  | packetError (e : PacketError)
deriving DecidableEq

/-! ### Conversions -/

instance : MonadLift (Except ContextError) (Result ContextError) := ⟨Result.ofExcept id⟩

instance : MonadLift (Except ClientError) (Result ContextError) :=
  ⟨Result.ofExcept ContextError.clientError⟩

instance : MonadLift (Except ConnectionError) (Result ContextError) :=
  ⟨Result.ofExcept ContextError.connectionError⟩

instance : MonadLift (Except ChannelError) (Result ContextError) :=
  ⟨Result.ofExcept ContextError.channelError⟩

instance : MonadLift (Except PacketError) (Result ContextError) :=
  ⟨Result.ofExcept ContextError.packetError⟩

instance : MonadLift (Result ClientError) (Result ContextError) :=
  ⟨Result.mapErr ContextError.clientError⟩

section Lift

variable {α : Type} {a : α}

@[simp] theorem lift_context_eq_ok {x : Except ContextError α} :
    (liftM x : Result ContextError α) = .ok a ↔ x = .ok a := Result.ofExcept_eq_ok

@[simp] theorem lift_client_eq_ok {x : Except ClientError α} :
    (liftM x : Result ContextError α) = .ok a ↔ x = .ok a := Result.ofExcept_eq_ok

@[simp] theorem lift_connection_eq_ok {x : Except ConnectionError α} :
    (liftM x : Result ContextError α) = .ok a ↔ x = .ok a := Result.ofExcept_eq_ok

@[simp] theorem lift_channel_eq_ok {x : Except ChannelError α} :
    (liftM x : Result ContextError α) = .ok a ↔ x = .ok a := Result.ofExcept_eq_ok

@[simp] theorem lift_packet_eq_ok {x : Except PacketError α} :
    (liftM x : Result ContextError α) = .ok a ↔ x = .ok a := Result.ofExcept_eq_ok

@[simp] theorem lift_result_client_eq_ok {x : Result ClientError α} :
    (liftM x : Result ContextError α) = .ok a ↔ x = .ok a := Result.mapErr_eq_ok

end Lift

end Ibc
