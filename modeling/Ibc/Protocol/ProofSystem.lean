import Ibc.Protocol.MockRun

/-!
# Proofs about another chain's store

A proof convinces a light client that a path holds a value, or that it holds nothing (`Verifies`).
`OneFact` says that a proof proves at most one such fact under a root, and `Complete` that every
fact of a store has a proof.

`LightClient.withStore` turns any light client into one with both properties, for a given store
under each root: a proof is the fact it proves, written out. Writing out loses nothing
(`factCode_inj`). `ProofRun` is the mock host with such a client, and the messages that open a
channel with proofs.
-/

namespace Ibc

variable {CS Cons : Type}

namespace LightClient

/-- Under a root, a proof verifies for at most one fact. -/
def OneFact (L : LightClient CS Cons) : Prop :=
  ∀ cs pfx root proof path path' value value', L.Verifies cs pfx root proof path value →
    L.Verifies cs pfx root proof path' value' → path = path' ∧ value = value'

/-- A proof of a value is about one path: it says nothing of another one, neither a value nor that
there is none. -/
def BindsPath (L : LightClient CS Cons) : Prop :=
  ∀ cs pfx root proof path path' value value', L.Verifies cs pfx root proof path (some value) →
    L.Verifies cs pfx root proof path' value' → path = path'

theorem OneFact.bindsPath {L : LightClient CS Cons} (h : L.OneFact) : L.BindsPath :=
  fun _ _ _ _ _ _ _ _ hv hv' => (h _ _ _ _ _ _ _ _ hv hv').1

/-- Every fact of the store under a root has a proof, and no other has one. -/
def Complete (L : LightClient CS Cons) (store : CommitmentRoot → Path → Option Bytes) : Prop :=
  ∀ cs pfx root path value,
    (∃ proof, L.Verifies cs pfx root proof path value) ↔ store root path = value

end LightClient

/-! ### Facts, written out -/

/-- The constructor of a path, and its identifiers and numbers, as byte strings. -/
def Path.parts : Path → List Bytes
  | .clientState id => [[0], Proto.utf8 id.str]
  | .clientConsensusState id h =>
      [[1], Proto.utf8 id.str, Proto.varint h.revisionNumber, Proto.varint h.revisionHeight]
  | .connection id => [[2], Proto.utf8 id.str]
  | .channelEnd port chan => [[3], Proto.utf8 port.str, Proto.utf8 chan.str]
  | .seqSend port chan => [[4], Proto.utf8 port.str, Proto.utf8 chan.str]
  | .seqRecv port chan => [[5], Proto.utf8 port.str, Proto.utf8 chan.str]
  | .seqAck port chan => [[6], Proto.utf8 port.str, Proto.utf8 chan.str]
  | .commitment port chan seq =>
      [[7], Proto.utf8 port.str, Proto.utf8 chan.str, Proto.varint seq]
  | .ack port chan seq => [[8], Proto.utf8 port.str, Proto.utf8 chan.str, Proto.varint seq]
  | .receipt port chan seq => [[9], Proto.utf8 port.str, Proto.utf8 chan.str, Proto.varint seq]
  | .upgradedClientState h => [[10], Proto.varint h]
  | .upgradedClientConsensusState h => [[11], Proto.varint h]
  | .clientConnection id => [[12], Proto.utf8 id.str]
  | .ports id => [[13], Proto.utf8 id.str]

theorem Path.parts_inj {p q : Path} (h : p.parts = q.parts) : p = q := by
  have hutf8 {a b : String} : Proto.utf8 a = Proto.utf8 b ↔ a = b :=
    ⟨Proto.utf8_inj, fun h => h ▸ rfl⟩
  have hvarint {m n : ℕ} : Proto.varint m = Proto.varint n ↔ m = n :=
    ⟨fun h => (Proto.varint_append_inj (l := []) (congrArg (· ++ []) h)).1, fun h => h ▸ rfl⟩
  have hheight {a b : Height} : a = b ↔
      a.revisionNumber = b.revisionNumber ∧ a.revisionHeight = b.revisionHeight := by
    cases a
    cases b
    simp
  -- The first parts tell the constructors apart.
  cases p <;> cases q <;>
    simp [parts, hutf8, hvarint, hheight, ClientId.str_inj, ConnectionId.str_inj, PortId.str_inj,
      ChannelId.str_inj] at h ⊢ <;> exact h

/-- A fact, written out: its value, then the parts of its path. -/
def factCode (path : Path) (value : Option Bytes) : CommitmentProofBytes where
  bytes := Proto.repeatedField 0x0a (value.elim [0] (1 :: ·) :: path.parts)
  nonempty := by simp [Proto.repeatedField]

theorem factCode_inj {path path' : Path} {value value' : Option Bytes}
    (h : factCode path value = factCode path' value') : path = path' ∧ value = value' := by
  have hparts := (Proto.repeatedField_append_inj (Proto.avoids_nil _) (Proto.avoids_nil _)
    (congrArg (·.bytes ++ []) h)).1
  obtain ⟨hvalue, hpath⟩ := List.cons_eq_cons.mp hparts
  refine ⟨Path.parts_inj hpath, ?_⟩
  cases value <;> cases value' <;> simp at hvalue ⊢
  exact hvalue

/-! ### A light client with such proofs -/

namespace LightClient

/-- The client `L`, with proofs that are written-out facts of the store under each root. -/
def withStore (L : LightClient CS Cons) (store : CommitmentRoot → Path → Option Bytes) :
    LightClient CS Cons :=
  { L with
    verifyMembership := fun _ _ proof root path value =>
      if proof = factCode path (some value) ∧ store root path = some value then .ok ()
      else .error (.ics23Verification .verificationFailure)
    verifyNonMembership := fun _ _ proof root path =>
      if proof = factCode path none ∧ store root path = none then .ok ()
      else .error (.ics23Verification .verificationFailure) }

variable {L : LightClient CS Cons} {store : CommitmentRoot → Path → Option Bytes}

theorem verifies_withStore {cs : CS} {pfx : CommitmentPrefix} {root : CommitmentRoot}
    {proof : CommitmentProofBytes} {path : Path} {value : Option Bytes} :
    (L.withStore store).Verifies cs pfx root proof path value ↔
      proof = factCode path value ∧ store root path = value := by
  cases value <;> simp [Verifies, withStore]

theorem oneFact_withStore : (L.withStore store).OneFact := by
  intro cs pfx root proof path path' value value' h h'
  exact factCode_inj ((verifies_withStore.mp h).1.symm.trans (verifies_withStore.mp h').1)

theorem complete_withStore : (L.withStore store).Complete store := by
  intro cs pfx root path value
  simp [verifies_withStore]

end LightClient

/-! ### Opening a channel with proofs -/

namespace ProofRun

open MockRun (clientId connectionId channelId version signer packet)

/-- The block of the other chain at a height. -/
def header (height : ℕ) : MockHeader := ⟨⟨0, height⟩, .fromNanoseconds height⟩

/-- The heights of the other chain that this chain learns of. -/
def heights : List ℕ := [1, 5, 8, 20]

def codec : MockCodec := .ofHeaders (heights.map header)

def rootAt (height : ℕ) : CommitmentRoot := ⟨Proto.varint height⟩

/-- The other chain's store under a root, from what it holds at each height. -/
def storeUnder (facts : ℕ → List (Path × Bytes)) (root : CommitmentRoot) (path : Path) :
    Option Bytes :=
  (heights.find? fun h => rootAt h = root).bind fun h => (facts h).lookup path

/-- The mock client, with a root for each height, and proofs. -/
def lightClient (facts : ℕ → List (Path × Bytes)) :
    LightClient MockClientState MockConsensusState :=
  LightClient.withStore
    { mockClient codec with root := fun c => rootAt c.header.height.revisionHeight }
    (storeUnder facts)

def host (facts : ℕ → List (Path × Bytes)) : Host MockClientState MockConsensusState Unit :=
  { mockHost codec MockRun.library 0 with lightClient := lightClient facts }

theorem host_isolated (facts : ℕ → List (Path × Bytes)) : (host facts).Isolated :=
  mockHost_isolated codec MockRun.library 0

def env : HostEnv MockConsensusState :=
  mockEnv codec 0 ⟨0, 30⟩ (.fromNanoseconds 100) [header 1]

def start : MockCtx Unit := ⟨.empty, (), env, [], [], []⟩

def clientState : Any := ⟨"/ibc.mock.ClientState", (header 1).encodeWrapped⟩

/-- The connection end of the other chain, while it waits for this one. -/
def connectionEnd : ConnectionEnd :=
  ⟨.tryOpen, clientId, ⟨clientId, some connectionId, ⟨Proto.utf8 "mock"⟩⟩, [.default], 0⟩

/-- The channel end of the other chain. -/
def channelEnd (state : ChannelState) (ordering : Order) : ChannelEnd :=
  ⟨state, ordering, ⟨.transfer, some channelId⟩, [connectionId], version⟩

/-- What the other chain holds: a connection at height 5, a channel at height 8, and `last` at
height 20. -/
def facts (ordering : Order) (last : List (Path × Bytes)) : ℕ → List (Path × Bytes)
  | 5 => [(.connection connectionId, connectionEnd.toRaw.encode),
      (.clientState clientId, clientState.encode),
      (.clientConsensusState clientId ⟨0, 1⟩, (MockConsensusState.new (header 1)).encodeVec)]
  | 8 => [(.channelEnd .transfer channelId, (channelEnd .tryOpen ordering).toRaw.encode)]
  | 20 => last
  | _ => []

def createClient : Input MockConsensusState Unit :=
  .dispatch (.client (.createClient
    ⟨clientState, ⟨"/ibc.mock.ConsensusState", (header 1).encodeWrapped⟩, signer⟩))

def updateClient (height : ℕ) : Input MockConsensusState Unit :=
  .dispatch (.client (.updateClient
    ⟨clientId, ⟨"/ibc.mock.Header", (header height).encode⟩, signer⟩))

def connOpenAck : Input MockConsensusState Unit :=
  .dispatch (.connection (.openAck
    ⟨connectionId, connectionId, clientState,
      factCode (.connection connectionId) (some connectionEnd.toRaw.encode),
      factCode (.clientState clientId) (some clientState.encode),
      factCode (.clientConsensusState clientId ⟨0, 1⟩)
        (some (MockConsensusState.new (header 1)).encodeVec),
      ⟨0, 5⟩, ⟨0, 1⟩, .default, signer⟩))

def chanOpenAck (ordering : Order) : Input MockConsensusState Unit :=
  .dispatch (.channel (.openAck
    ⟨.transfer, channelId, channelId, version,
      factCode (.channelEnd .transfer channelId)
        (some (channelEnd .tryOpen ordering).toRaw.encode),
      ⟨0, 8⟩, signer⟩))

/-- A second packet. -/
def packet2 : Packet := { packet with seqOnA := 2 }

/-- The messages that open a channel, send two packets and learn of height 20. -/
def sending (ordering : Order) : List (Input MockConsensusState Unit) :=
  [createClient, MockRun.connOpenInit, updateClient 5, connOpenAck, MockRun.chanOpenInit ordering,
    updateClient 8, chanOpenAck ordering, .sendPacket packet, .sendPacket packet2, updateClient 20]

end ProofRun

end Ibc
