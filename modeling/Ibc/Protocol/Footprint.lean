import Ibc.Tendermint.Frozen

/-!
# What a message may touch

Every message has a footprint (`MsgEnvelope.footprint`): the entries of the store that belong to the
client, the connection or the channel of this chain that it names or creates. It is read off the
message and off the store before it is handled, and the identifiers on the other chain have no part
in it.

**`dispatch_footprint`**: a message that is handled leaves all that is outside its footprint.
-/

namespace Ibc

open Exec

variable {CS Cons μ : Type}

/-! ### Footprints -/

/-- The entries of a store that may be touched. -/
structure Footprint where
  clients : Set ClientId := ∅
  clientCounter : Bool := false
  connections : Set ConnectionId := ∅
  clientConnections : Set ClientId := ∅
  connectionCounter : Bool := false
  channels : Set ChannelKey := ∅
  packets : Set PacketKey := ∅
  channelCounter : Bool := false

/-- The same client entries, outside the footprint. -/
structure ClientStore.AgreesBeside (f : Footprint) (c c' : ClientStore CS Cons) : Prop where
  about : Set.EqOn c'.about c.about f.clientsᶜ
  clientIdsCounter : f.clientCounter = false → c'.clientIdsCounter = c.clientIdsCounter

/-- The same connection entries, outside the footprint. -/
structure ConnectionStore.AgreesBeside (f : Footprint) (c c' : ConnectionStore) : Prop where
  connections : Set.EqOn c'.connections c.connections f.connectionsᶜ
  clientConnections : Set.EqOn c'.clientConnections c.clientConnections f.clientConnectionsᶜ
  connectionIdsCounter :
    f.connectionCounter = false → c'.connectionIdsCounter = c.connectionIdsCounter

/-- The same channel and packet entries, outside the footprint. -/
structure ChannelStore.AgreesBeside (f : Footprint) (c c' : ChannelStore) : Prop where
  channels : Set.EqOn c'.channels c.channels f.channelsᶜ
  nextSequenceSend : Set.EqOn c'.nextSequenceSend c.nextSequenceSend f.channelsᶜ
  nextSequenceRecv : Set.EqOn c'.nextSequenceRecv c.nextSequenceRecv f.channelsᶜ
  nextSequenceAck : Set.EqOn c'.nextSequenceAck c.nextSequenceAck f.channelsᶜ
  packetCommitment : Set.EqOn c'.packetCommitment c.packetCommitment f.packetsᶜ
  packetReceipt : Set.EqOn c'.packetReceipt c.packetReceipt f.packetsᶜ
  packetAcknowledgement : Set.EqOn c'.packetAcknowledgement c.packetAcknowledgement f.packetsᶜ
  channelIdsCounter : f.channelCounter = false → c'.channelIdsCounter = c.channelIdsCounter

/-- The same store, outside the footprint. -/
structure Store.AgreesBeside (f : Footprint) (st st' : Store CS Cons) : Prop where
  client : st.client.AgreesBeside f st'.client
  connection : st.connection.AgreesBeside f st'.connection
  channel : st.channel.AgreesBeside f st'.channel

/-- The connection end of this chain that a message names, or the one it creates. -/
def ConnectionMsg.localConnection (s : Ctx CS Cons μ) : ConnectionMsg → ConnectionId
  | .openInit _ => .new s.store.connection.connectionIdsCounter
  | .openTry _ => .new s.store.connection.connectionIdsCounter
  | .openAck msg => msg.connIdOnA
  | .openConfirm msg => msg.connIdOnB

/-- The key of the packet on this chain. -/
def PacketMsg.localKey (msg : PacketMsg) : PacketKey :=
  (msg.localChannel.1, msg.localChannel.2, msg.packet.seqOnA)

/-- What a message may touch. -/
def MsgEnvelope.footprint (H : Host CS Cons μ) (s : Ctx CS Cons μ) : MsgEnvelope → Footprint
  | .client msg => { clients := msg.touches H s, clientCounter := true }
  | .connection msg =>
    { connections := {msg.localConnection s}
      clientConnections := {id | msg.clientOf s.store = some id}
      connectionCounter := true }
  | .channel msg => { channels := {msg.localChannel s}, channelCounter := true }
  | .packet msg => { channels := {msg.localChannel}, packets := {msg.localKey} }

/-! ### Writes inside a footprint -/

section Writes

variable {f : Footprint} {c c' c'' : ChannelStore} {st : Store CS Cons}

/-- An entry that is written inside a set is no concern outside it. -/
theorem update_eqOn_compl {K α : Type} [DecidableEq K] {S : Set K} {k : K} (hk : k ∈ S)
    (g : K → α) (a : α) : Set.EqOn (Function.update g k a) g Sᶜ := by
  intro k' hk'
  refine Function.update_of_ne ?_ a g
  rintro rfl
  exact hk' hk

theorem ClientStore.AgreesBeside.refl (c : ClientStore CS Cons) : c.AgreesBeside f c where
  about := Set.eqOn_refl _ _
  clientIdsCounter _ := rfl

theorem ConnectionStore.AgreesBeside.refl (c : ConnectionStore) : c.AgreesBeside f c where
  connections := Set.eqOn_refl _ _
  clientConnections := Set.eqOn_refl _ _
  connectionIdsCounter _ := rfl

namespace ChannelStore

theorem AgreesBeside.refl (c : ChannelStore) : c.AgreesBeside f c where
  channels := Set.eqOn_refl _ _
  nextSequenceSend := Set.eqOn_refl _ _
  nextSequenceRecv := Set.eqOn_refl _ _
  nextSequenceAck := Set.eqOn_refl _ _
  packetCommitment := Set.eqOn_refl _ _
  packetReceipt := Set.eqOn_refl _ _
  packetAcknowledgement := Set.eqOn_refl _ _
  channelIdsCounter _ := rfl

variable {key : ChannelKey} {e : ChannelEnd} {p : Packet} {ack : AcknowledgementCommitment}
  {ordering : Order}

theorem storeChannel_agrees (hkey : key ∈ f.channels) :
    c.AgreesBeside f (c.storeChannel key e) :=
  { AgreesBeside.refl c with channels := update_eqOn_compl hkey _ _ }

theorem openAt_agrees (hkey : key ∈ f.channels) (hcounter : f.channelCounter = true) :
    c.AgreesBeside f (c.openAt key e) :=
  { AgreesBeside.refl c with
    channels := update_eqOn_compl hkey _ _
    nextSequenceSend := update_eqOn_compl hkey _ _
    nextSequenceRecv := update_eqOn_compl hkey _ _
    nextSequenceAck := update_eqOn_compl hkey _ _
    channelIdsCounter := fun hnot => absurd (hcounter.symm.trans hnot) Bool.true_eq_false.mp }

theorem received_agrees (hkey : p.chanOnB ∈ f.channels) (hp : p.keyOnB ∈ f.packets) :
    c.AgreesBeside f (c.received ordering p ack) := by
  cases ordering with
  | unordered =>
    exact { AgreesBeside.refl c with
      packetReceipt := update_eqOn_compl hp _ _
      packetAcknowledgement := update_eqOn_compl hp _ _ }
  | ordered =>
    exact { AgreesBeside.refl c with
      nextSequenceRecv := update_eqOn_compl hkey _ _
      packetAcknowledgement := update_eqOn_compl hp _ _ }
  | none =>
    exact { AgreesBeside.refl c with packetAcknowledgement := update_eqOn_compl hp _ _ }

theorem acknowledged_agrees (hkey : p.chanOnA ∈ f.channels) (hp : p.keyOnA ∈ f.packets) :
    c.AgreesBeside f (c.acknowledged ordering p) := by
  unfold acknowledged
  split_ifs
  · exact { AgreesBeside.refl c with
      nextSequenceAck := update_eqOn_compl hkey _ _
      packetCommitment := update_eqOn_compl hp _ _ }
  · exact { AgreesBeside.refl c with packetCommitment := update_eqOn_compl hp _ _ }

theorem timedOut_agrees (hkey : p.chanOnA ∈ f.channels) (hp : p.keyOnA ∈ f.packets) :
    c.AgreesBeside f (c.timedOut e p) := by
  unfold timedOut
  split_ifs
  · exact { AgreesBeside.refl c with
      channels := update_eqOn_compl hkey _ _
      packetCommitment := update_eqOn_compl hp _ _ }
  · exact { AgreesBeside.refl c with packetCommitment := update_eqOn_compl hp _ _ }

end ChannelStore

end Writes

/-! ### Messages -/

section Dispatch

variable {H : Host CS Cons μ} {s s' : Ctx CS Cons μ}

theorem ConnectionMsg.Stores.eq_localConnection {msg : ConnectionMsg} {id : ConnectionId}
    {e : ConnectionEnd} (h : msg.Stores H s id e) : id = msg.localConnection s := by
  cases h <;> rfl

theorem ConnectionMsg.Stores.clientOf_eq {msg : ConnectionMsg} {id : ConnectionId}
    {e : ConnectionEnd} (h : msg.Stores H s id e) : msg.clientOf s.store = some e.clientId := by
  cases h with
  | openInit | openTry => rfl
  | openAck he | openConfirm he => exact congrArg (Option.map (·.clientId)) he

/-- The keys of a packet that is received are those of this chain. -/
theorem PacketMsg.localKey_onB {msg : PacketMsg} {p : Packet} (hp : msg.packet = p)
    (hk : msg.localChannel = p.chanOnB) : msg.localKey = p.keyOnB := by
  rw [localKey, hk, hp, Packet.chanOnB, Packet.keyOnB]

/-- So are those of a packet that was sent. -/
theorem PacketMsg.localKey_onA {msg : PacketMsg} {p : Packet} (hp : msg.packet = p)
    (hk : msg.localChannel = p.chanOnA) : msg.localKey = p.keyOnA := by
  rw [localKey, hk, hp, Packet.chanOnA, Packet.keyOnA]

/-- The channel of an input is in the footprint of the message. -/
theorem MsgEnvelope.localChannel_mem {msg : MsgEnvelope} {key : ChannelKey}
    (hk : (Input.dispatch msg : Input Cons μ).localChannel s = some key) :
    key ∈ (msg.footprint H s).channels := by
  cases msg with
  | client msg | connection msg => cases hk
  | channel msg | packet msg => exact (Option.some.inj hk).symm

theorem Effect.agreesBeside {msg : MsgEnvelope} (h : Effect H (.dispatch msg) s s') :
    s.store.channel.AgreesBeside (msg.footprint H s) s'.store.channel := by
  -- A packet has its key in the footprint.
  have hpacket : ∀ {p : Packet}, (Input.dispatch msg : Input Cons μ).packet = some p →
      ∃ m : PacketMsg, msg = .packet m ∧ m.packet = p := by
    intro p hp
    cases msg with
    | client msg | connection msg | channel msg => cases hp
    | packet m => exact ⟨m, rfl, Option.some.inj hp⟩
  cases h with
  | quiet hc => exact hc ▸ .refl _
  | application hc hh hi => cases hi
  | sends p e cm hi => cases hi
  | opens port e hn hc hh ha hk hp =>
    rw [hc]
    refine ChannelStore.openAt_agrees (MsgEnvelope.localChannel_mem hk) ?_
    cases msg with
    | client msg | connection msg => cases hk
    | channel msg => rfl
    | packet msg => cases hp
  | moves key e e' he hm hc hh ha hk =>
    rw [hc]
    exact ChannelStore.storeChannel_agrees (MsgEnvelope.localChannel_mem hk)
  | receives p ack e m extras signer hp hv ordered unordered hc hh hm ha hk =>
    rw [hc]
    refine ChannelStore.received_agrees (MsgEnvelope.localChannel_mem hk) ?_
    obtain ⟨msg, rfl, hp'⟩ := hpacket hp
    exact (PacketMsg.localKey_onB hp' (Option.some.inj hk)).symm
  | acknowledges p ack e cm r m extras signer hp he hs hr hcm hv hc hh hm ha hk =>
    rw [hc]
    split_ifs
    · refine ChannelStore.acknowledged_agrees (MsgEnvelope.localChannel_mem hk) ?_
      obtain ⟨msg, rfl, hp'⟩ := hpacket hp
      exact (PacketMsg.localKey_onA hp' (Option.some.inj hk)).symm
    · exact .refl _
  | timesOut p e cm r m extras signer hp he hr hcm hv hc hh hm ha hk =>
    rw [hc]
    split_ifs
    · refine ChannelStore.timedOut_agrees (MsgEnvelope.localChannel_mem hk) ?_
      obtain ⟨msg, rfl, hp'⟩ := hpacket hp
      exact (PacketMsg.localKey_onA hp' (Option.some.inj hk)).symm
    · exact .refl _

/-- The clients' entries. -/
theorem Step.client_agrees {msg : MsgEnvelope} (iso : H.Isolated) (hL : H.lightClient.Local)
    (h : Step H (.dispatch msg) s s') :
    s.store.client.AgreesBeside (msg.footprint H s) s'.store.client := by
  by_cases hc : (Input.dispatch msg : Input Cons μ).isClient = true
  · obtain ⟨msg, hmsg⟩ := Input.isClient_eq_true.mp hc
    obtain rfl := Input.dispatch.inj hmsg
    refine ⟨fun id hid => ?_, nofun⟩
    obtain ⟨r, hrun, -⟩ := h
    have habout := dispatch_client_about hL hid
    rwa [Ensures, show dispatch H (.client msg) s = (r, s') from hrun] at habout
  · rw [h.client_eq iso (by simpa using hc)]
    exact .refl _

/-- The connections' entries. -/
theorem Step.connection_agrees {msg : MsgEnvelope} (iso : H.Isolated)
    (h : Step H (.dispatch msg) s s') :
    s.store.connection.AgreesBeside (msg.footprint H s) s'.store.connection := by
  obtain heq | ⟨msg, id, e, hmsg, hst, hconns, -, hclients⟩ := h.connections iso
  · exact heq ▸ .refl _
  · obtain rfl := Input.dispatch.inj hmsg
    refine ⟨?_, ?_, nofun⟩
    · rw [hconns]
      have hid : id ∈ ((MsgEnvelope.connection msg).footprint H s).connections :=
        hst.eq_localConnection
      exact update_eqOn_compl hid _ _
    · intro client hclient
      refine hclients client ?_
      rintro rfl
      exact hclient hst.clientOf_eq

/-- **Messages are isolated.** A message that is handled leaves every entry of the store outside its
footprint. -/
theorem dispatch_footprint {msg : MsgEnvelope} (iso : H.Isolated) (hL : H.lightClient.Local)
    (h : dispatch H msg s = (.ok (), s')) :
    s.store.AgreesBeside (msg.footprint H s) s'.store := by
  have hstep : Step H (.dispatch msg) s s' := ⟨.ok (), h, nofun⟩
  exact ⟨hstep.client_agrees iso hL, hstep.connection_agrees iso, (hstep.effect iso).agreesBeside⟩

end Dispatch

/-- The sample packet is received. The end of the channel with the next number, and what is kept of
the packet with the next sequence, stay. -/
theorem received_packet_footprint : ∃ s s', Reachable MockRun.host s ∧
    dispatch MockRun.host
      (.packet (.recv ⟨MockRun.packet, MockRun.proof, ⟨0, 1⟩, MockRun.signer⟩)) s = (.ok (), s') ∧
    s'.store.channel.packetAcknowledgement MockRun.packet.keyOnB ≠ none ∧
    s'.store.channel.channels (.transfer, .new 1) = s.store.channel.channels (.transfer, .new 1) ∧
    s'.store.channel.packetAcknowledgement (.transfer, MockRun.channelId, 2) =
      s.store.channel.packetAcknowledgement (.transfer, MockRun.channelId, 2) := by
  let msg : MsgEnvelope :=
    .packet (.recv ⟨MockRun.packet, MockRun.proof, ⟨0, 1⟩, MockRun.signer⟩)
  obtain ⟨s, hr, h⟩ := Reachable.exists_of_runAll (H := MockRun.host) (s := MockRun.start)
    (MockRun.opening .ordered)
    (fun s => ((dispatch MockRun.host msg s).1, ((dispatch MockRun.host msg
      s).2.store.channel.packetAcknowledgement MockRun.packet.keyOnB).isSome))
    rfl rfl (by decide +kernel : _ = some (.ok (), true))
  obtain ⟨hok, hack⟩ := Prod.mk.inj h
  have hdispatch : dispatch MockRun.host msg s = (.ok (), (dispatch MockRun.host msg s).2) :=
    Prod.ext hok rfl
  have hframe := (dispatch_footprint MockRun.host_isolated
    (mockClient_contained MockRun.codec).toLocal hdispatch).channel
  refine ⟨s, _, hr, hdispatch, Option.isSome_iff_ne_none.mp hack, hframe.channels ?_,
    hframe.packetAcknowledgement ?_⟩
  · rw [Set.mem_compl_iff]
    exact fun hkey => absurd (Set.mem_singleton_iff.mp hkey) (by decide)
  · rw [Set.mem_compl_iff]
    exact fun hkey => absurd (Set.mem_singleton_iff.mp hkey) (by decide)

end Ibc
