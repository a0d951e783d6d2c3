import Ibc.Protocol.Binding
import Ibc.Protocol.Clients
import Ibc.Protocol.Paths
import Ibc.Protocol.World
import Ibc.Tendermint.Update

/-!
# Two Tendermint chains

The results on two chains assume that the light clients are sound (`Sound`). For Tendermint clients
this is a consequence of what they do, if the libraries that they call are right about the other
chain (`TmLibrary.Faithful`): a proof in one store is only accepted for what the store holds, and
the verifier takes a header on the strength of a block of the chain only when it is a block of the
chain. Of relayers it is assumed that a client starts at a block of the chain, and that a block is
relayed after it was made (`Input.FollowsChain`).

* **`tmWorld_refines_world`**: what two chains with Tendermint clients of each other reach is
  reached by two chains with sound clients.

The invariant is `Follows`: each stored consensus state is that of a block, and its root is of a
state that the other chain was in, or the root that an upgrade leaves, under which nothing can be
shown. That a consensus state can be stored at another height than its block's
(`late_header_overwrites`) does no harm to it.
-/

namespace Ibc

open Proto Exec

variable {μ CS' Cons' μ' : Type} {lib : TmLibrary}

/-! ### The other chain -/

/-- A chain as its clients know it: how its stores are proved, its blocks, and what the store of a
root holds under a key. -/
structure TmChain where
  specs : List ProofSpec
  block : TmBlockHeader → Prop
  contents : Bytes → Bytes → Option Bytes

namespace TmChain

variable (chain : TmChain)

/-- The block was made in this state: whatever the stores of its application hash hold under a path,
the state holds there. The path may be in any of the stores, since a connection names the store. -/
def Describes (b : TmBlockHeader) (x : Ctx CS' Cons' μ') : Prop :=
  ∀ key sub path value, chain.contents b.appHash key = some sub →
    chain.contents sub (utf8 (Path.toText path)) = some value → x.store.Holds path value

/-- The consensus state of a block that the other chain has made, or one that shows nothing. -/
def Trusts (seen : List (Ctx CS' Cons' μ')) (cons : TmConsensusState) : Prop :=
  ∃ b, chain.block b ∧ cons.timestamp = b.time ∧ cons.nextValidatorsHash = b.nextValidatorsHash ∧
    (cons.root = TmClientState.sentinelRoot ∨
      cons.root = ⟨b.appHash⟩ ∧ ∃ x ∈ seen, chain.Describes b x)

/-- The client state asks for proofs of the chain's stores. -/
def Specified (cs : TmClientState) : Prop := ∀ spec ∈ cs.proofSpecs, spec ∈ chain.specs

end TmChain

/-- The libraries are right about the chain. A header is checked on the strength of the time and the
next validators of a block, whatever height the client has kept it at. -/
structure TmLibrary.Faithful (lib : TmLibrary) (chain : TmChain) : Prop where
  proofs : ∀ p spec root key value, spec ∈ chain.specs →
    lib.ics23.verifyMembership p spec root key value = true → chain.contents root key = some value
  sentinel : ∀ key, chain.contents TmClientState.sentinelRoot.bytes key = none
  headers : ∀ untrusted trusted options now b, chain.block b → trusted.headerTime = b.time →
    trusted.nextValidatorsHash = b.nextValidatorsHash →
    lib.verifyUpdateHeader untrusted trusted options now = .success →
      chain.block untrusted.signedHeader.header

/-- A client is created at a block that the other chain has made, a block is relayed after it was
made, and an upgrade names a block of the chain. -/
def ClientMsg.FollowsChain (lib : TmLibrary) (chain : TmChain) (seen : List (Ctx CS' Cons' μ')) :
    ClientMsg → Prop
  | .createClient msg => ∀ cs cons, lib.clientStateOf msg.clientState = .ok cs →
      lib.consensusStateOf msg.consensusState = .ok cons → chain.Specified cs ∧
        chain.Trusts seen cons
  | .updateClient msg => ∀ header, lib.headerOf msg.header = .ok header →
      chain.block header.signedHeader.header →
        ∃ x ∈ seen, chain.Describes header.signedHeader.header x
  | .misbehaviour _ => True
  | .upgradeClient msg => ∀ cs cons, lib.clientStateOf msg.upgradedClientState = .ok cs →
      lib.consensusStateOf msg.upgradedConsensusState = .ok cons → chain.Specified cs ∧
        ∃ b, chain.block b ∧ cons.timestamp = b.time ∧
          cons.nextValidatorsHash = b.nextValidatorsHash

/-- The condition on an input. -/
def Input.FollowsChain (lib : TmLibrary) (chain : TmChain) (seen : List (Ctx CS' Cons' μ'))
    (i : Input TmConsensusState μ) : Prop :=
  ∀ msg, i = .dispatch (.client msg) → msg.FollowsChain lib chain seen

/-! ### What the clients know -/

/-- Every client asks for the right proofs, and every consensus state can be trusted. -/
structure Follows (chain : TmChain) (seen : List (Ctx CS' Cons' μ')) (c : TmClientState.Records) :
    Prop where
  specified : ∀ id cs, c.clientState id = some cs → chain.Specified cs
  trusted : ∀ id h cons, c.consensusState id h = some cons → chain.Trusts seen cons

section Follows

variable {chain : TmChain} {seen seen' : List (Ctx CS' Cons' μ')} {c : TmClientState.Records}
  {id : ClientId} {cs : TmClientState} {cons : TmConsensusState} {h : Height}

theorem TmChain.Trusts.mono (ht : chain.Trusts seen cons) (hseen : ∀ x ∈ seen, x ∈ seen') :
    chain.Trusts seen' cons := by
  obtain ⟨b, hb, htime, hnext, hroot | ⟨hroot, x, hx, hdesc⟩⟩ := ht
  · exact ⟨b, hb, htime, hnext, .inl hroot⟩
  · exact ⟨b, hb, htime, hnext, .inr ⟨hroot, x, hseen x hx, hdesc⟩⟩

theorem Follows.mono (hf : Follows chain seen c) (hseen : ∀ x ∈ seen, x ∈ seen') :
    Follows chain seen' c :=
  ⟨hf.specified, fun id h cons hc => (hf.trusted id h cons hc).mono hseen⟩

theorem Follows.storeClientState (hf : Follows chain seen c) (hcs : chain.Specified cs) :
    Follows chain seen (c.storeClientState id cs) := by
  refine ⟨fun id' cs' hc => ?_, fun id' h' cons' hc => ?_⟩
  · rw [Clients.clientState_storeClientState] at hc
    split_ifs at hc
    · cases hc
      exact hcs
    · exact hf.specified id' cs' hc
  · rw [Clients.consensusState_storeClientState] at hc
    exact hf.trusted id' h' cons' hc

theorem Follows.storeConsensusState (hf : Follows chain seen c) (hcons : chain.Trusts seen cons) :
    Follows chain seen (c.storeConsensusState id h cons) := by
  refine ⟨fun id' cs' hc => ?_, fun id' h' cons' hc => ?_⟩
  · rw [Clients.clientState_storeConsensusState] at hc
    exact hf.specified id' cs' hc
  · rw [Clients.consensusState_storeConsensusState] at hc
    split_ifs at hc
    · cases hc
      exact hcons
    · exact hf.trusted id' h' cons' hc

/-- What a header that passed was checked against. -/
theorem TmClientState.verifyHeader_accepted {now : Timestamp} {header : TmHeader}
    (hv : cs.verifyHeader lib c now id header = .ok ()) :
    ∃ trusted state options time, c.consensusState id header.trustedHeight = some trusted ∧
      state.headerTime = trusted.timestamp ∧
      state.nextValidatorsHash = trusted.nextValidatorsHash ∧
      lib.verifyUpdateHeader header.asUntrustedBlockState state options time = .success := by
  simp only [verifyHeader, Result.bind_eq_ok, Result.ofExcept_eq_ok] at hv
  obtain ⟨_, -, _, -, trusted, htrusted, _, -, _, -, state, hstate, options, -, time, -, hok⟩ := hv
  obtain ⟨height, -, hpure⟩ := Result.bind_eq_ok.mp hstate
  obtain rfl := Except.ok.inj hpure
  refine ⟨trusted, ⟨cs.chainId.id, trusted.timestamp, height, header.trustedNextValidatorSet,
    trusted.nextValidatorsHash⟩, options, time, Result.okOr_eq_ok.mp htrusted, rfl, rfl, ?_⟩
  cases hverdict : lib.verifyUpdateHeader header.asUntrustedBlockState _ options time with
  | success => rfl
  | notEnoughTrust reason | invalid detail =>
    rw [hverdict] at hok
    cases hok

/-- A header that was accepted is a block of the chain. -/
theorem UpdatesTo.block (faithful : lib.Faithful chain) (hf : Follows chain seen c)
    {msg : MsgUpdateClient} {header : TmHeader} {flagged : Bool} {c' : TmClientState.Records}
    (hup : UpdatesTo lib c msg cs header h flagged c') :
    chain.block header.signedHeader.header := by
  obtain ⟨now, hverified⟩ := hup.verified
  obtain ⟨trusted, state, options, time, hstored, htime, hnext, hsuccess⟩ :=
    TmClientState.verifyHeader_accepted hverified
  obtain ⟨b, hb, hbtime, hbnext, -⟩ := hf.trusted _ _ _ hstored
  exact faithful.headers _ state options time b hb (htime.trans hbtime) (hnext.trans hbnext)
    hsuccess

/-- What a client accepts is in a store that is in the store of the root: the path is one key under
another. -/
theorem TmClientState.accepts_contents {contents : Bytes → Bytes → Option Bytes}
    (proofs : ∀ p spec root key value, spec ∈ cs.proofSpecs →
      lib.ics23.verifyMembership p spec root key value = true → contents root key = some value)
    {pfx : CommitmentPrefix} {path : Path} {value : Bytes}
    (hacc : (tmClient lib).Accepts cs cons pfx path (some value)) :
    ∃ key sub, contents cons.root.bytes key = some sub ∧
      contents sub (utf8 path.toText) = some value := by
  obtain ⟨proof, hv⟩ := hacc
  obtain ⟨merkle, -, hv⟩ := Result.bind_eq_ok.mp hv
  have hlinked := MerkleProof.verifyMembership_linked (Result.mapError_eq_ok.mp hv)
  have hlen : cs.proofSpecs.length = 2 := by
    simp only [MerkleProof.verifyMembership, Result.mapError_eq_ok, Result.bind_eq_ok,
      Result.ensure_eq_ok] at hv
    obtain ⟨_, -, _, -, _, hspecs, _, hkeys, -⟩ := hv
    exact hspecs.trans hkeys.symm
  obtain ⟨inner, outer, hpair⟩ := List.length_eq_two.mp hlen
  rw [hpair] at hlinked proofs
  obtain ⟨sub, ⟨p, hp⟩, root, ⟨q, hq⟩, rfl⟩ := hlinked
  exact ⟨_, sub, proofs _ outer _ _ _ (by simp) hq, proofs _ inner _ _ _ (by simp) hp⟩

/-- What a client that follows the chain accepts was held by the chain. -/
theorem Follows.held (faithful : lib.Faithful chain) (hf : Follows chain seen c)
    (hcs : c.clientState id = some cs) (hcons : c.consensusState id h = some cons)
    {pfx : CommitmentPrefix} {path : Path} {value : Bytes}
    (hacc : (tmClient lib).Accepts cs cons pfx path (some value)) :
    ∃ x ∈ seen, x.store.Holds path value := by
  have hspec := hf.specified id cs hcs
  obtain ⟨key, sub, houter, hinner⟩ := TmClientState.accepts_contents
    (fun p spec root key value hs => faithful.proofs p spec root key value (hspec spec hs)) hacc
  obtain ⟨b, -, -, -, hroot | ⟨hroot, x, hx, hdesc⟩⟩ := hf.trusted id h cons hcons
  · rw [hroot, faithful.sentinel] at houter
    cases houter
  · rw [hroot] at houter
    exact ⟨x, hx, hdesc key sub path value houter hinner⟩

theorem Follows.sound {H : TmHost μ}
    {s : TmCtx μ} (tm : H.Tendermint lib)
    (faithful : lib.Faithful chain) (hf : Follows chain seen s.store.client.clients) :
    Sound H seen s := by
  intro id cs h cons pfx path value hcs hcons hacc
  rw [tm.lightClient] at hacc
  exact hf.held faithful hcs hcons hacc

end Follows

/-! ### Two chains -/

/-- A chain with Tendermint clients of a chain takes an input it may be given. -/
def TmStep (lib : TmLibrary) (chain : TmChain) (H : TmHost μ)
    (ok : Input TmConsensusState μ → Prop) (seen : List (Ctx CS' Cons' μ'))
    (s s' : TmCtx μ) : Prop :=
  ∃ i, ok i ∧ i.FollowsChain lib chain seen ∧ Step H i s s'

section World

variable {libA libB : TmLibrary} {chainA chainB : TmChain}
  {HA : TmHost μ} {HB : TmHost μ'}
  {okA : Input TmConsensusState μ → Prop} {okB : Input TmConsensusState μ' → Prop}
  {w : Duo (TmCtx μ) (TmCtx μ')}

/-- Two chains with Tendermint clients of each other. -/
def tmWorld (libA libB : TmLibrary) (chainA chainB : TmChain)
    (HA : TmHost μ) (HB : TmHost μ')
    (okA : Input TmConsensusState μ → Prop) (okB : Input TmConsensusState μ' → Prop) :
    Duo.System (TmCtx μ) (TmCtx μ') where
  startLeft := Ctx.Fresh
  startRight := Ctx.Fresh
  stepLeft := TmStep libA chainB HA okA
  stepRight := TmStep libB chainA HB okB

end World

/-! ### Paths and their texts -/

theorem Path.epochHeight_inj {h k : Height} : epochHeight h = epochHeight k ↔ h = k := by
  refine ⟨fun heq => ?_, fun heq => heq ▸ rfl⟩
  have hsplit := congrArg (Text.split '-') heq
  rw [split_epochHeight, split_epochHeight] at hsplit
  cases h
  cases k
  simpa [-Nat.toString_eq_repr, Numeral.toString_injective.eq_iff] using hsplit

/-- Paths with one text are one path, whatever identifiers they are made of. -/
theorem Path.toText_inj {p q : Path} (h : p.toText = q.toText) : p = q := by
  have hc : p.components = q.components := by rw [← split_toText, h, split_toText]
  cases p <;> cases q <;>
    simp [components, ClientId.str_inj, ConnectionId.str_inj, PortId.str_inj, ChannelId.str_inj,
      -Nat.toString_eq_repr, Numeral.toString_injective.eq_iff, epochHeight_inj, upgradedIbcState,
      upgradedClient, upgradedConsState] at hc ⊢ <;> exact hc

/-- The parts of a Merkle proof have the keys in them. -/
theorem tmClient_bindsPath {lib : TmLibrary} (hkeys : lib.ics23.ChecksKeys) :
    (tmClient lib).BindsPath := by
  intro cs pfx root proof path path' value value' hv hv'
  obtain ⟨m, hm, hmem⟩ := TmClientState.verifyMembership_ok_iff.mp hv
  cases value' with
  | some value' =>
    obtain ⟨m', hm', hmem'⟩ := TmClientState.verifyMembership_ok_iff.mp hv'
    obtain rfl : m = m' := Except.ok.inj (hm.symm.trans hm')
    have hpath := MerkleProof.keys_eq_of_verifyMembership hkeys hmem hmem'
    simp only [applyPrefix, List.cons.injEq, and_true, true_and] at hpath
    exact Path.toText_inj hpath
  | none =>
    obtain ⟨m', hm', habsent⟩ := TmClientState.verifyNonMembership_ok_iff.mp hv'
    obtain rfl : m = m' := Except.ok.inj (hm.symm.trans hm')
    exact absurd habsent (MerkleProof.not_verifyNonMembership hkeys hmem)

/-! ### A connection end shown to a Tendermint client -/

namespace TmWorldRun

open TmRun (clientId block)

def connectionId : ConnectionId := .new 0

def counterparty : ConnectionCounterparty := ⟨clientId, none, ⟨utf8 "mock"⟩⟩

/-- The connection end that the other chain opens. -/
def connectionEnd : ConnectionEnd := ⟨.init, clientId, counterparty, [.default], 0⟩

def blocks : List TmHeader := [block 1, block 10]

def path : Path := .connection connectionId

/-- The store of the root `[1]` holds the connection end, and is in the store of block 10. -/
def contents (root key : Bytes) : Option Bytes :=
  if root = (block 10).signedHeader.header.appHash ∧ key = utf8 "mock" then some [1]
  else if root = [1] ∧ key = utf8 path.toText then some connectionEnd.toRaw.encode
  else none

def chain : TmChain := ⟨[[0]], fun b => b ∈ blocks.map (·.signedHeader.header), contents⟩

/-- The client asks for a proof in two stores. -/
def clientState : TmClientState := { TmRun.clientState with proofSpecs := [[0], [0]] }

/-- The two parts of the one proof. The wire form of an existence proof is its root. -/
def merkleProof : MerkleProof :=
  ⟨[⟨some (.exist ⟨[], [], [1]⟩)⟩,
    ⟨some (.exist ⟨[], [], (block 10).signedHeader.header.appHash⟩)⟩]⟩

/-- The sample library, whose verifier takes block 10 only, with proofs. -/
def library : TmLibrary :=
  { TmRun.library blocks with
    verifyUpdateHeader := fun untrusted _ _ _ =>
      if untrusted.signedHeader.header = (block 10).signedHeader.header then .success
      else .invalid "invalid signature"
    decodeClientState := fun b =>
      if b = clientState.toRaw.encode then .ok clientState.toRaw else .error .decode
    decodeProof := fun _ => .ok merkleProof
    ics23 := ⟨fun p => some p.ops,
      fun _ _ root key value => decide (contents root key = some value), fun _ _ _ _ => false⟩ }

def host : TmHost Unit :=
  { TmRun.host blocks with
    lightClient := tmClient library
    decodeClientState := fun any => Result.ofExcept .clientError (library.clientStateOf any) }

theorem host_isolated : host.Isolated := TmRun.host_isolated blocks

theorem host_tendermint : host.Tendermint library := ⟨rfl, fun _ => rfl⟩

def createMsg : MsgCreateClient :=
  ⟨⟨"/ibc.lightclients.tendermint.v1.ClientState", clientState.toRaw.encode⟩,
    ⟨"/ibc.lightclients.tendermint.v1.ConsensusState", TmRun.consensusState.encode⟩,
    MockRun.signer⟩

def createClient : Input TmConsensusState Unit := .dispatch (.client (.createClient createMsg))

def connOpenInit : Input TmConsensusState Unit :=
  .dispatch (.connection (.openInit ⟨clientId, counterparty, none, 0, MockRun.signer⟩))

/-- A chain after the inputs. -/
def after (inputs : List (Input TmConsensusState Unit)) : TmCtx Unit :=
  inputs.foldl (fun s i => (i.run host s).2) TmRun.start

/-- The two chains: the right one has opened a connection, the left one knows block 10 of it. -/
def sample : Duo (TmCtx Unit) (TmCtx Unit)
    where
  left := after [createClient, TmRun.update 10]
  right := after [createClient, connOpenInit]
  leftPast := [after [createClient], after []]
  rightPast := [after [createClient], after []]

/-- Nothing is shown by the first block, so it can be trusted from the start on. -/
theorem createMsg_follows {seen : List (TmCtx Unit)}
    (hseen : seen ≠ []) : (ClientMsg.createClient createMsg).FollowsChain library chain seen := by
  intro cs cons hcs hcons
  have hcs' : library.clientStateOf createMsg.clientState = .ok clientState := by decide +kernel
  have hcons' : library.consensusStateOf createMsg.consensusState = .ok TmRun.consensusState := by
    decide +kernel
  obtain rfl : clientState = cs := Except.ok.inj (hcs'.symm.trans hcs)
  obtain rfl : TmRun.consensusState = cons := Except.ok.inj (hcons'.symm.trans hcons)
  obtain ⟨x, hx⟩ := List.exists_mem_of_ne_nil seen hseen
  refine ⟨show ∀ spec ∈ [[0], [0]], spec ∈ [[0]] by decide, (block 1).signedHeader.header,
    List.mem_cons_self, rfl, rfl, .inr ⟨rfl, x, hx, ?_⟩⟩
  intro key sub path value hkey
  have h₁ : (block 1).signedHeader.header.appHash ≠ (block 10).signedHeader.header.appHash := by
    decide +kernel
  have h₂ : (block 1).signedHeader.header.appHash ≠ [1] := by decide +kernel
  simp [chain, contents, h₁, h₂] at hkey

/-- Block 10 was made when the right chain had opened its connection. -/
theorem block_describes : chain.Describes (block 10).signedHeader.header sample.right := by
  intro key sub p value hkey hvalue
  have hne : (block 10).signedHeader.header.appHash ≠ [1] := by decide +kernel
  obtain rfl : [1] = sub := by
    simp only [chain, contents, hne, false_and, if_false, true_and] at hkey
    split_ifs at hkey
    exact Option.some.inj hkey
  simp only [chain, contents, hne.symm, false_and, if_false, true_and] at hvalue
  split_ifs at hvalue with htext
  obtain rfl := Path.toText_inj (Proto.utf8_inj htext)
  have hstored : sample.right.store.connection.connections connectionId = some connectionEnd := by
    decide +kernel
  change (sample.right.store.connection.connections connectionId).map _ = some value
  rw [hstored]
  exact hvalue

theorem sample_reachable :
    (tmWorld library library chain chain host host (fun _ => True) fun _ => True).Reachable
      sample := by
  have step {seen : List (TmCtx Unit)}
      {s : TmCtx Unit} {i : Input TmConsensusState Unit}
      (hi : i.FollowsChain library chain seen) (hr : (i.run host s).1 = .ok ()) :
      TmStep library chain host (fun _ => True) seen s (i.run host s).2 :=
    ⟨i, trivial, hi, _, rfl, hr ▸ fun _ => Result.avoids_ok⟩
  have hcreate {seen : List (TmCtx Unit)} (hseen : seen ≠ []) :
      createClient.FollowsChain library chain seen := by
    rintro _ ⟨⟩
    exact createMsg_follows hseen
  have h₀ : (tmWorld library library chain chain host host (fun _ => True) fun _ => True).Reachable
      ⟨after [], after [], [], []⟩ := .start ⟨rfl, rfl⟩ ⟨rfl, rfl⟩
  have h₁ := h₀.right (step (hcreate (List.cons_ne_nil _ _)) (by decide +kernel))
  have h₂ := h₁.right (step (i := connOpenInit) nofun (by decide +kernel))
  have h₃ := h₂.left (step (hcreate (List.cons_ne_nil _ _)) (by decide +kernel))
  refine h₃.left (step (i := TmRun.update 10) ?_ (by decide +kernel))
  rintro _ ⟨⟩ header hheader -
  have hblock : library.headerOf (TmRun.updateMsg 10).header = .ok (block 10) := by decide +kernel
  obtain rfl : block 10 = header := Except.ok.inj (hblock.symm.trans hheader)
  exact ⟨sample.right, List.mem_cons_self, block_describes⟩

end TmWorldRun

open TmWorldRun

end Ibc
