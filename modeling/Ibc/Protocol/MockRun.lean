import Ibc.Model.Mock
import Ibc.Protocol.Run

/-!
# Running the mock host

`runAll` runs a list of inputs, and stops at a panic. What it reaches is reachable
(`Reachable.of_runAll`), so a concrete run can be evaluated. The mock host's module keeps to its own
state (`mockHost_isolated`).

`MockRun.opening` opens a channel of the mock host: a client, a connection, then the channel, each
from its first message to its acknowledgement.
-/

namespace Ibc

variable {CS Cons μ : Type} {H : Host CS Cons μ} {s s' : Ctx CS Cons μ}

/-- Runs the inputs in order; `none` when one of them panics. -/
def runAll (H : Host CS Cons μ) : List (Input Cons μ) → Ctx CS Cons μ → Option (Ctx CS Cons μ)
  | [], s => some s
  | i :: is, s =>
      match i.run H s with
      | (.error (.panic _), _) => none
      | (_, s') => runAll H is s'

theorem Run.of_step (i : Input Cons μ) (h : Step H i s s') {s'' : Ctx CS Cons μ}
    (hr : Run H s' s'') : Run H s s'' := by
  induction hr with
  | refl => exact .step i .refl h
  | step j _ hs ih => exact .step j ih hs

theorem Run.of_runAll {is : List (Input Cons μ)} (h : runAll H is s = some s') : Run H s s' := by
  induction is generalizing s with
  | nil =>
    cases h
    exact .refl
  | cons i is ih =>
    rw [runAll] at h
    split at h
    · cases h
    · next r s₁ hne heq => exact .of_step i ⟨_, heq, hne⟩ (ih h)

theorem Reachable.of_runAll {is : List (Input Cons μ)} (hst : s.store = Store.empty)
    (hh : s.history = []) (h : runAll H is s = some s') : Reachable H s' :=
  (Reachable.init s hst hh).run (.of_runAll h)

theorem ReachableBy.runAll {ok : Input Cons μ → Prop} {is : List (Input Cons μ)}
    (h : ReachableBy H ok s) (hok : ∀ i ∈ is, ok i) (hrun : runAll H is s = some s') :
    ReachableBy H ok s' := by
  induction is generalizing s with
  | nil =>
    cases hrun
    exact h
  | cons i is ih =>
    obtain ⟨hi, hok⟩ := List.forall_mem_cons.mp hok
    rw [Ibc.runAll] at hrun
    split at hrun
    · cases hrun
    · next r s₁ hne heq => exact ih (h.step i hi ⟨_, heq, hne⟩) hok hrun

/-- What a run of inputs shows of its last state is true of a reachable state. -/
theorem Reachable.exists_of_runAll {α : Type} (is : List (Input Cons μ)) (f : Ctx CS Cons μ → α)
    {a : α} (hst : s.store = Store.empty) (hh : s.history = [])
    (h : (runAll H is s).map f = some a) : ∃ s', Reachable H s' ∧ f s' = a := by
  obtain ⟨s', hs', rfl⟩ := Option.map_eq_some_iff.mp h
  exact ⟨s', .of_runAll hst hh hs', rfl⟩

theorem dummyTransferModule_isolated {St : Type} :
    (dummyTransferModule : Module St μ).Isolated := by
  constructor <;> intros <;> exact fun _ _ => rfl

/-- A host whose routes lead to the dummy module only. -/
theorem Host.isolated_of_dummy (h : ∀ id m, H.getRoute id = some m → m = dummyTransferModule) :
    H.Isolated := by
  intro port m hm
  obtain ⟨id, -, hroute⟩ := Option.bind_eq_some_iff.mp hm
  rw [h id m hroute]
  exact dummyTransferModule_isolated

theorem mockHost_isolated (codec : MockCodec) (library : Library) (blockTime : Duration) :
    (mockHost codec library blockTime).Isolated := by
  refine Host.isolated_of_dummy fun id m hm => ?_
  simp only [mockHost] at hm
  split_ifs at hm
  · exact (Option.some.inj hm).symm

/-! ### Opening a channel -/

namespace MockRun

/-- The one header of the sample chains. -/
def header : MockHeader := ⟨⟨0, 1⟩, .fromNanoseconds 1⟩

def codec : MockCodec := .ofHeaders [header]

def clientState : Any := ⟨"/ibc.mock.ClientState", header.encodeWrapped⟩

def consensusState : Any := ⟨"/ibc.mock.ConsensusState", header.encodeWrapped⟩

def signer : Signer := ⟨"0CDA3F47EF3C4906693B170EF650EB968C5F4B2C"⟩

theorem proof_ne_nil : ([0] : List UInt8) ≠ [] := List.cons_ne_nil 0 []

def proof : CommitmentProofBytes := ⟨[0], proof_ne_nil⟩

def clientId : ClientId := ⟨"9999-mock-0", by decide, by decide⟩

def connectionId : ConnectionId := .new 0

def channelId : ChannelId := .new 0

def version : ChannelVersion := ⟨"ics20-1"⟩

/-- The digest of the byte string `[1]`. -/
def sha256One : Bytes :=
  [75, 245, 18, 47, 52, 69, 84, 197, 59, 222, 46, 187, 140, 210, 183, 227, 209, 96, 10, 214, 49,
    195, 133, 165, 215, 204, 226, 60, 119, 133, 69, 154]

/-- The digests of the byte strings the sample packet and its acknowledgement hash. Other strings
are kept apart, so that no two have the same digest. -/
def sha256 (b : Bytes) : Bytes :=
  if b = [1] then sha256One
  else if b = Words.be64 0 ++ Words.be64 0 ++ Words.be64 10 ++ sha256One then
    [24, 169, 211, 209, 187, 92, 82, 144, 3, 246, 166, 64, 32, 90, 223, 16, 236, 108, 40, 27, 200,
      107, 128, 59, 4, 94, 184, 63, 84, 59, 131, 56]
  else 0 :: b

theorem sha256_injective : Function.Injective sha256 := by
  intro a b h
  unfold sha256 at h
  split_ifs at h with ha hb hb' ha' hb hb' hb hb' <;> simp_all [sha256One]

def library : Library := ⟨sha256, Char.isAlphanum⟩

def host : Host MockClientState MockConsensusState Unit := mockHost codec library 0

def env : HostEnv MockConsensusState :=
  mockEnv codec 0 ⟨0, 5⟩ (.fromNanoseconds 10) [header]

theorem host_isolated : host.Isolated := mockHost_isolated codec library 0

def start : MockCtx Unit := ⟨.empty, (), env, [], [], []⟩

def createClient : Input MockConsensusState Unit :=
  .dispatch (.client (.createClient ⟨clientState, consensusState, signer⟩))

def connOpenInit : Input MockConsensusState Unit :=
  .dispatch (.connection (.openInit
    ⟨clientId, ⟨clientId, none, ⟨Proto.utf8 "ibc"⟩⟩, none, 0, signer⟩))

def connOpenAck : Input MockConsensusState Unit :=
  .dispatch (.connection (.openAck
    ⟨connectionId, connectionId, clientState, proof, proof, proof, ⟨0, 1⟩, ⟨0, 1⟩,
      .default, signer⟩))

def chanOpenInit (ordering : Order) : Input MockConsensusState Unit :=
  .dispatch (.channel (.openInit
    ⟨.transfer, [connectionId], .transfer, ordering, signer, version⟩))

def chanOpenAck : Input MockConsensusState Unit :=
  .dispatch (.channel (.openAck
    ⟨.transfer, channelId, channelId, version, proof, ⟨0, 1⟩, signer⟩))

/-- A channel, from the first message to the last. -/
def opening (ordering : Order) : List (Input MockConsensusState Unit) :=
  [createClient, connOpenInit, connOpenAck, chanOpenInit ordering, chanOpenAck]

/-- The sample packet. Both chains number their channels from zero, so it can be sent and received
by either. -/
def packet : Packet where
  seqOnA := 1
  portIdOnA := .transfer
  chanIdOnA := channelId
  portIdOnB := .transfer
  chanIdOnB := channelId
  data := [1]
  timeoutHeightOnB := .at ⟨0, 10⟩
  timeoutTimestampOnB := .none

/-- The commitment to the sample packet. -/
def commitment : PacketCommitment :=
  ⟨sha256 (Words.be64 0 ++ Words.be64 0 ++ Words.be64 10 ++ sha256One)⟩

def ackPacket : Input MockConsensusState Unit :=
  .dispatch (.packet (.ack ⟨packet, dummyAcknowledgement, proof, ⟨0, 1⟩, signer⟩))

def recvPacket : Input MockConsensusState Unit :=
  .dispatch (.packet (.recv ⟨packet, proof, ⟨0, 1⟩, signer⟩))

end MockRun

end Ibc
