import Ibc.Protocol.Binding
import Ibc.Tendermint.Stored

/-!
# Upgrade paths

The upgraded states of a chain are to be proved at the key path that the client was created with:
the last key is the one under which the height and the names of the states follow (`upgradeKeys`).
The client takes off the last key, proves under the first one, and puts a constant for the last. So
it honours its upgrade path for the paths of two keys that end in this constant. A path of one key
panics, and a longer one, or one with another last key, is not the one that is proved
(`upgrade_path_honoured`).
-/

namespace Ibc

open Proto

section General

variable {lib : TmLibrary} {cs : TmClientState} {clientState consensusState : Any}
  {proofClient proofConsensus proof : CommitmentProofBytes} {root : CommitmentRoot}
  {keys : List String} {value : Bytes}

theorem CommitmentPrefix.toText_utf8 (s : String) : (⟨utf8 s⟩ : CommitmentPrefix).toText = s := by
  have hread : Codec.string.decode (utf8 s) = some s := Codec.string.decode_encode s
  rw [CommitmentPrefix.toText, hread]

namespace TmClientState

/-- The key path of an upgraded state: the upgrade path, with the height and the name of the state
behind its last key. -/
def upgradeKeys (cs : TmClientState) (name : String) : List String :=
  cs.upgradePath.dropLast ++
    [cs.upgradePath.getLastD "" ++ "/" ++ toString cs.latestHeight.revisionHeight ++ "/" ++ name]

/-- The proof of a message shows the value at the key path. -/
def ProvenAt (lib : TmLibrary) (cs : TmClientState) (root : CommitmentRoot)
    (proof : CommitmentProofBytes) (keys : List String) (value : Bytes) : Prop :=
  ∃ merkleProof, lib.decodeProof proof = .ok merkleProof ∧
    merkleProof.verifyMembership lib.ics23 cs.proofSpecs root.bytes keys value 0 = .ok ()

/-- The message is for a later height: its states can be decoded, and the new client is ahead. -/
def Announces (lib : TmLibrary) (cs : TmClientState) (clientState consensusState : Any) : Prop :=
  ∃ upgraded cons, lib.clientStateOf clientState = .ok upgraded ∧
    lib.consensusStateOf consensusState = .ok cons ∧ cs.latestHeight < upgraded.latestHeight

/-- The key paths at which the client looks: under the first key of the upgrade path. -/
def LooksAt (lib : TmLibrary) (cs : TmClientState) (key : String) (clientState consensusState : Any)
    (proofClient proofConsensus : CommitmentProofBytes) (root : CommitmentRoot) : Prop :=
  cs.ProvenAt lib root proofClient
      [key, (Path.upgradedClientState cs.latestHeight.revisionHeight).toText] clientState.encode ∧
    cs.ProvenAt lib root proofConsensus
      [key, (Path.upgradedClientConsensusState cs.latestHeight.revisionHeight).toText]
      consensusState.encode

/-- The upgrade path of the client is honoured: the call comes back, and it accepts only what is
proved at the key paths of the two states. -/
structure Honours (lib : TmLibrary) (cs : TmClientState) (clientState consensusState : Any)
    (proofClient proofConsensus : CommitmentProofBytes) (root : CommitmentRoot) : Prop where
  returns : Result.Returns (cs.verifyUpgradeClient lib clientState consensusState proofClient
    proofConsensus root)
  proven : cs.verifyUpgradeClient lib clientState consensusState proofClient proofConsensus root =
      .ok () → cs.upgradePath ≠ [] ∧
    cs.ProvenAt lib root proofClient (cs.upgradeKeys Path.upgradedClient) clientState.encode ∧
    cs.ProvenAt lib root proofConsensus (cs.upgradeKeys Path.upgradedConsState)
      consensusState.encode

/-! ### What the client checks -/

theorem verifyMembership_eq_ok {path : Path} {key : String} {u : Unit} :
    cs.verifyMembership lib ⟨utf8 key⟩ proof root path value = .ok u ↔
      cs.ProvenAt lib root proof [key, path.toText] value := by
  simp only [verifyMembership, Result.bind_eq_ok, Result.mapError_eq_ok, applyPrefix,
    CommitmentPrefix.toText_utf8, ProvenAt]

theorem head?_dropLast_eq_some {path : List String} {key : String} :
    path.dropLast.head? = some key ↔ ∃ key' rest, path = key :: key' :: rest := by
  rcases path with _ | ⟨a, _ | ⟨b, l⟩⟩
  · simp
  · simp
  · simp [eq_comm]

/-- What the client accepts. -/
theorem verifyUpgradeClient_eq_ok :
    cs.verifyUpgradeClient lib clientState consensusState proofClient proofConsensus root =
        .ok () ↔
      cs.Announces lib clientState consensusState ∧
      ∃ key key' rest, cs.upgradePath = key :: key' :: rest ∧ utf8 key ≠ [] ∧
        cs.LooksAt lib key clientState consensusState proofClient proofConsensus root := by
  simp only [verifyUpgradeClient, Result.bind_eq_ok, Result.ofExcept_eq_ok, Result.require_eq_ok,
    Result.index_zero_eq_ok, verifyMembership_eq_ok, head?_dropLast_eq_some, not_le]
  constructor
  · rintro ⟨upgraded, hup, cons, hcons, _, hlt, _, _, key, ⟨key', rest, hpath⟩, _, hkey, _, hclient,
      hconsensus⟩
    exact ⟨⟨upgraded, cons, hup, hcons, hlt⟩, key, key', rest, hpath, hkey, hclient, hconsensus⟩
  · rintro ⟨⟨upgraded, cons, hup, hcons, hlt⟩, key, key', rest, hpath, hkey, hclient, hconsensus⟩
    have hne : cs.upgradePath ≠ [] := by simp [hpath]
    exact ⟨upgraded, hup, cons, hcons, (), hlt, (), hne, key, ⟨key', rest, hpath⟩, (), hkey, (),
      hclient, hconsensus⟩

/-- It panics when the last key was the only one. -/
theorem returns_verifyUpgradeClient :
    Result.Returns (cs.verifyUpgradeClient lib clientState consensusState proofClient
        proofConsensus root) ↔
      ¬ (cs.Announces lib clientState consensusState ∧ ∃ key, cs.upgradePath = [key]) := by
  simp only [verifyUpgradeClient, Result.returns_bind, Result.returns_ofExcept,
    Result.returns_require, Result.ofExcept_eq_ok, Result.require_eq_ok, Result.index_zero_eq_ok,
    true_and, implies_true, and_true, not_le]
  constructor
  · rintro h ⟨⟨upgraded, cons, hup, hcons, hlt⟩, key, hpath⟩
    have hindex := h upgraded hup cons hcons () hlt () (by simp [hpath])
    rw [hpath] at hindex
    exact Result.not_returns_panic hindex
  · intro h upgraded hup cons hcons _ hlt _ hne
    cases hpath : cs.upgradePath with
    | nil => exact absurd hpath hne
    | cons key rest =>
      cases rest with
      | nil => exact absurd ⟨⟨upgraded, cons, hup, hcons, hlt⟩, key, hpath⟩ h
      | cons key' rest => exact Result.returns_ok

/-! ### When the upgrade path is honoured -/

/-- The key path is the one at which the client looks. -/
theorem upgradeKeys_eq {key key' name : String} {rest : List String}
    (hpath : cs.upgradePath = key :: key' :: rest) :
    cs.upgradeKeys name = [key, Path.upgradedIbcState ++ "/" ++
        toString cs.latestHeight.revisionHeight ++ "/" ++ name] ↔
      cs.upgradePath = [key, Path.upgradedIbcState] := by
  cases rest with
  | nil => simp [upgradeKeys, hpath, String.append_assoc]
  | cons key'' rest => simp [upgradeKeys, hpath]

theorem ProvenAt.keys_unique (hkeys : lib.ics23.ChecksKeys) {keys' : List String} {value' : Bytes}
    (h : cs.ProvenAt lib root proof keys value) (h' : cs.ProvenAt lib root proof keys' value') :
    keys = keys' := by
  obtain ⟨p, hp, hverify⟩ := h
  obtain ⟨p', hp', hverify'⟩ := h'
  obtain rfl : p = p' := Except.ok.inj (hp.symm.trans hp')
  exact MerkleProof.keys_eq_of_verifyMembership hkeys hverify hverify'

/-- The keys of a valid client are not blank. -/
theorem Valid.utf8_ne_nil (h : cs.Valid lib) {key : String} (hkey : key ∈ cs.upgradePath) :
    utf8 key ≠ [] := by
  intro hnil
  obtain rfl : key = "" := utf8_inj hnil
  exact h.upgradePath "" hkey (by decide)

end TmClientState

open TmClientState

/-- The upgrade path of a valid client is honoured for a message exactly when the message is turned
down before a key is read, or the path is two keys with the constant at its end, or the states are
not proved where the client looks. -/
theorem upgrade_path_honoured (hkeys : lib.ics23.ChecksKeys) (hvalid : cs.validate lib = .ok ()) :
    cs.Honours lib clientState consensusState proofClient proofConsensus root ↔
      cs.upgradePath = [] ∨ ¬ cs.Announces lib clientState consensusState ∨
      (∃ key, cs.upgradePath = [key, Path.upgradedIbcState]) ∨
      ∃ key key' rest, cs.upgradePath = key :: key' :: rest ∧
        ¬ cs.LooksAt lib key clientState consensusState proofClient proofConsensus root := by
  constructor
  · intro h
    by_cases hann : cs.Announces lib clientState consensusState
    · rcases hpath : cs.upgradePath with _ | ⟨key, _ | ⟨key', rest⟩⟩
      · exact .inl rfl
      · exact absurd ⟨hann, key, hpath⟩ (returns_verifyUpgradeClient.mp h.returns)
      · by_cases hlook :
          cs.LooksAt lib key clientState consensusState proofClient proofConsensus root
        · -- The client accepts, and a proof is accepted at one key path only.
          have hmem : key ∈ cs.upgradePath := by simp [hpath]
          have hne := (validate_eq_ok.mp hvalid).utf8_ne_nil hmem
          have hproven := h.proven (verifyUpgradeClient_eq_ok.mpr
            ⟨hann, key, key', rest, hpath, hne, hlook⟩)
          have hshape := (upgradeKeys_eq hpath).mp (hproven.2.1.keys_unique hkeys hlook.1)
          exact .inr (.inr (.inl ⟨key, hpath ▸ hshape⟩))
        · exact .inr (.inr (.inr ⟨key, key', rest, rfl, hlook⟩))
    · exact .inr (.inl hann)
  · intro h
    constructor
    · rw [returns_verifyUpgradeClient]
      rintro ⟨hann, key, hkey⟩
      rw [hkey] at h
      rcases h with h | h | ⟨_, h⟩ | ⟨_, _, _, h, -⟩
      · cases h
      · exact h hann
      · cases h
      · cases h
    · intro hok
      obtain ⟨hann, key, key', rest, hpath, -, hlook⟩ := verifyUpgradeClient_eq_ok.mp hok
      rcases h with h | h | ⟨key₀, h⟩ | ⟨_, _, _, h, hnot⟩
      · rw [h] at hpath
        cases hpath
      · exact absurd hann h
      · obtain rfl : key = key₀ := (List.cons.inj (hpath.symm.trans h)).1
        have hname (name : String) : cs.upgradeKeys name = [key, Path.upgradedIbcState ++ "/" ++
            toString cs.latestHeight.revisionHeight ++ "/" ++ name] := (upgradeKeys_eq hpath).mpr h
        refine ⟨by simp [hpath], ?_, ?_⟩
        · rw [hname]
          exact hlook.1
        · rw [hname]
          exact hlook.2
      · obtain rfl := (List.cons.inj (hpath.symm.trans h)).1
        exact absurd hlook hnot

end General

/-! ### Sample upgrades -/

namespace TmRun

/-- The client after the upgrade. -/
def upgradedState : TmClientState := { validState with latestHeight := ⟨0, 20⟩ }

def upgradedClientAny : Any :=
  ⟨"/ibc.lightclients.tendermint.v1.ClientState", upgradedState.toRaw.encode⟩

def upgradedConsensusAny : Any :=
  ⟨"/ibc.lightclients.tendermint.v1.ConsensusState", consensusState.encode⟩

/-- The root of the upgrade store, and the root of the chain. -/
def upgradeStoreRoot : Bytes := List.replicate 32 5

def chainRoot : Bytes := List.replicate 32 6

/-- The entries of the two stores, each with the root of its store. -/
def upgradeEntries : List (ExistenceProof × Bytes) :=
  [(⟨utf8 "upgradedIBCState/1/upgradedClient", upgradedClientAny.encode, [0]⟩, upgradeStoreRoot),
    (⟨utf8 "upgradedIBCState/1/upgradedConsState", upgradedConsensusAny.encode, [1]⟩,
      upgradeStoreRoot),
    (⟨utf8 "upgrade", upgradeStoreRoot, [0]⟩, chainRoot)]

/-- The proof library on these entries. -/
def upgradeIcs23 : Ics23 where
  calculateExistenceRoot p := upgradeEntries.lookup p
  verifyMembership proof _ root key value :=
    match proof.proof with
    | some (.exist p) => p.key = key ∧ p.value = value ∧ upgradeEntries.lookup p = some root
    | _ => false
  verifyNonMembership _ _ _ _ := false

theorem upgradeIcs23_checksKeys : upgradeIcs23.ChecksKeys := by
  intro p spec root key value h
  exact (of_decide_eq_true h).1

/-- The proof of the `i`-th entry, through both stores. -/
def upgradeProof (i : ℕ) : MerkleProof :=
  ⟨[⟨(upgradeEntries[i]?).map (.exist ·.1)⟩, ⟨(upgradeEntries[2]?).map (.exist ·.1)⟩]⟩

theorem clientProof_ne_nil : ([1] : List UInt8) ≠ [] := List.cons_ne_nil 1 []

theorem consensusProof_ne_nil : ([2] : List UInt8) ≠ [] := List.cons_ne_nil 2 []

def clientProof : CommitmentProofBytes := ⟨[1], clientProof_ne_nil⟩

def consensusProof : CommitmentProofBytes := ⟨[2], consensusProof_ne_nil⟩

/-- The sample library, with the proofs of the upgraded states. -/
def upgradeLibrary : TmLibrary :=
  { libraryFor upgradedState with
    decodeProof := fun b =>
      if b = clientProof then .ok (upgradeProof 0)
      else if b = consensusProof then .ok (upgradeProof 1)
      else .error .invalidRawMerkleProof
    ics23 := upgradeIcs23 }

/-- The outcome for a client with the given upgrade path. -/
def upgradeOutcome (path : List String) : Result ClientError Unit :=
  { validState with upgradePath := path }.verifyUpgradeClient upgradeLibrary upgradedClientAny
    upgradedConsensusAny clientProof consensusProof ⟨chainRoot⟩

end TmRun

open TmRun TmClientState

/-- The upgrade path of a chain of this kind is honoured, and the upgrade is accepted. -/
theorem two_keys_honoured :
    upgradeOutcome ["upgrade", "upgradedIBCState"] = .ok () ∧
      validState.Honours upgradeLibrary upgradedClientAny upgradedConsensusAny
        clientProof consensusProof ⟨chainRoot⟩ := by
  have hvalid : validState.validate upgradeLibrary = .ok () := by decide +kernel
  refine ⟨by decide +kernel, (upgrade_path_honoured upgradeIcs23_checksKeys hvalid).mpr ?_⟩
  exact .inr (.inr (.inl ⟨"upgrade", rfl⟩))

/-- A valid client with one key panics, and a client with another last key is upgraded by what is
proved elsewhere. -/
theorem one_key_panics :
    { validState with upgradePath := ["upgrade"] }.validate upgradeLibrary = .ok () ∧
      upgradeOutcome ["upgrade"] = .error (.panic .outOfBounds) ∧
    { validState with upgradePath := ["upgrade", "other"] }.validate upgradeLibrary = .ok () ∧
      upgradeOutcome ["upgrade", "other"] = .ok () := by
  refine ⟨?_, ?_, ?_, ?_⟩ <;> decide +kernel

end Ibc
