import Ibc.Protocol.Agreement
import Ibc.Protocol.Receiver
import Ibc.Protocol.Sender

/-!
# Packets and acknowledgements are authentic

A packet that is received was sent, and an acknowledgement that is taken was given, in every field
and in every byte. A commitment holds only the data and the timeouts of a packet, and its key only
the sending channel end and the sequence; that the receiving end is the same too follows from the
handshake: the two ends name each other (`channel_named_back`), and an end never changes the
counterparty of what happens on it (`Reachable.addressed`).

**`packet_commitment_binding`**: decoded timeouts and data have one commitment each.
**`packets_authentic`** is for timeouts that a decoder produces, on both chains. Out of this range
two timeouts can have the same commitment (`epoch_timeout_acknowledged`).
-/

namespace Ibc

variable {CS Cons μ CS' Cons' μ' : Type}

/-! ### What a commitment binds -/

section Commitments

variable {lib lib' : Library} {p q : Packet} {cm cm' : PacketCommitment}

/-- What is hashed, in this order: the timeouts as three words, and the hash of the data. -/
theorem computePacketCommitment_eq_ok {ε : Type} {d : Bytes} {h : TimeoutHeight} {t : Timestamp} :
    (computePacketCommitment lib d h t : Result ε PacketCommitment) = .ok cm ↔
    ∃ n, (t.nanoseconds : Result ε ℕ) = .ok n ∧
      cm = ⟨lib.sha256 (Words.be64 n ++ Words.be64 h.commitmentRevisionNumber ++
        Words.be64 h.commitmentRevisionHeight ++ lib.sha256 d)⟩ := by
  rw [computePacketCommitment, Result.bind_eq_ok]
  refine exists_congr fun n => and_congr_right fun _ => ?_
  rw [Result.pure_eq_ok, eq_comm]

/-- Without collisions a commitment determines the data and the encoded timeouts. -/
theorem computePacketCommitment_inj {ε : Type} {d d' : Bytes} {h h' : TimeoutHeight}
    {t t' : Timestamp} (hlib : lib'.sha256 = lib.sha256) (inj : Function.Injective lib.sha256)
    (hc : (computePacketCommitment lib d h t : Result ε PacketCommitment) = .ok cm)
    (hc' : (computePacketCommitment lib' d' h' t' : Result ε PacketCommitment) = .ok cm')
    (heq : cm.bytes = cm'.bytes) (hw : h.InWords) (hw' : h'.InWords) :
    d = d' ∧ h.commitmentRevisionNumber = h'.commitmentRevisionNumber ∧
      h.commitmentRevisionHeight = h'.commitmentRevisionHeight ∧
      ∃ n, (t.nanoseconds : Result ε ℕ) = .ok n ∧ (t'.nanoseconds : Result ε ℕ) = .ok n := by
  obtain ⟨n, hn, rfl⟩ := computePacketCommitment_eq_ok.mp hc
  obtain ⟨n', hn', rfl⟩ := computePacketCommitment_eq_ok.mp hc'
  simp only [hlib, List.append_assoc] at heq
  obtain ⟨rfl, hrest⟩ := Words.be64_append_inj (Timestamp.nanoseconds_eq_ok.mp hn).1
    (Timestamp.nanoseconds_eq_ok.mp hn').1 (inj heq)
  obtain ⟨hnumber, hrest⟩ := Words.be64_append_inj hw.1 hw'.1 hrest
  obtain ⟨hheight, hdata⟩ := Words.be64_append_inj hw.2 hw'.2 hrest
  exact ⟨inj hdata, hnumber, hheight, n, hn, hn'⟩

/-- **Packet commitments are binding.** Timeouts that are not set are hashed as zeros, and no
decoded timeout that is set is hashed so. -/
theorem packet_commitment_binding {ε : Type} (inj : Function.Injective lib.sha256)
    {d₁ d₂ : Bytes} {h₁ h₂ : TimeoutHeight} {t₁ t₂ : Timestamp} (hh₁ : h₁.Decoded)
    (hh₂ : h₂.Decoded) (ht₁ : t₁.Decoded) (ht₂ : t₂.Decoded) :
    (∃ cm, (computePacketCommitment lib d₁ h₁ t₁ : Result ε PacketCommitment) = .ok cm) ∧
    ((computePacketCommitment lib d₁ h₁ t₁ : Result ε PacketCommitment) =
        computePacketCommitment lib d₂ h₂ t₂ ↔ d₁ = d₂ ∧ h₁ = h₂ ∧ t₁ = t₂) := by
  obtain ⟨n, -, hn, -⟩ := ht₁.nanoseconds (ε := ε)
  have hok : (computePacketCommitment lib d₁ h₁ t₁ : Result ε PacketCommitment) = .ok _ :=
    computePacketCommitment_eq_ok.mpr ⟨n, hn, rfl⟩
  refine ⟨⟨_, hok⟩, fun heq => ?_, ?_⟩
  · obtain ⟨hdata, hnumber, hheight, m, hm, hm'⟩ := computePacketCommitment_inj rfl inj hok
      (heq.symm.trans hok) rfl (TimeoutHeight.decoded_iff.mp hh₁).1
      (TimeoutHeight.decoded_iff.mp hh₂).1
    exact ⟨hdata, hh₁.eq_of_numbers hh₂ hnumber hheight, ht₁.eq_of_nanoseconds ht₂ hm hm'⟩
  · rintro ⟨rfl, rfl, rfl⟩
    rfl

/-- The commitment of the sample packet. -/
theorem sample_commitment_binding :
    (∃ cm, (MockRun.packet.commitment MockRun.library : Result ContextError PacketCommitment) =
      .ok cm) ∧
    ((MockRun.packet.commitment MockRun.library : Result ContextError PacketCommitment) =
        computePacketCommitment MockRun.library [1] (.at ⟨0, 10⟩) .none ↔
      MockRun.packet.data = [1] ∧ MockRun.packet.timeoutHeightOnB = .at ⟨0, 10⟩ ∧
        MockRun.packet.timeoutTimestampOnB = .none) :=
  packet_commitment_binding MockRun.sha256_injective (by decide) (by decide) (by decide)
    (by decide)

/-- The data and the encoded timeouts of two packets. -/
structure Packet.SameContent (p q : Packet) : Prop where
  data : p.data = q.data
  revisionNumber : p.timeoutHeightOnB.commitmentRevisionNumber =
    q.timeoutHeightOnB.commitmentRevisionNumber
  revisionHeight : p.timeoutHeightOnB.commitmentRevisionHeight =
    q.timeoutHeightOnB.commitmentRevisionHeight
  nanoseconds : ∃ n, (p.timeoutTimestampOnB.nanoseconds : Result ContextError ℕ) = .ok n ∧
    (q.timeoutTimestampOnB.nanoseconds : Result ContextError ℕ) = .ok n

/-- Without collisions a commitment determines what was committed to. -/
theorem Packet.CommitsTo.sameContent (hlib : lib'.sha256 = lib.sha256)
    (inj : Function.Injective lib.sha256) (hp : p.CommitsTo lib cm) (hq : q.CommitsTo lib' cm')
    (heq : cm.bytes = cm'.bytes) (hpw : p.timeoutHeightOnB.InWords)
    (hqw : q.timeoutHeightOnB.InWords) : p.SameContent q := by
  obtain ⟨hdata, hnumber, hheight, hnano⟩ :=
    computePacketCommitment_inj hlib inj hp hq heq hpw hqw
  exact ⟨hdata, hnumber, hheight, hnano⟩

theorem Packet.SameContent.symm (h : p.SameContent q) : q.SameContent p := by
  obtain ⟨n, hn, hn'⟩ := h.nanoseconds
  exact ⟨h.data.symm, h.revisionNumber.symm, h.revisionHeight.symm, n, hn', hn⟩

/-- Decoded packets with the same content, the same key and the same destination are equal. -/
theorem Packet.SameContent.eq (h : p.SameContent q) (hp : p.TimeoutsDecoded)
    (hq : q.TimeoutsDecoded) (hkey : p.keyOnA = q.keyOnA) (hdest : p.destination = q.destination) :
    p = q := by
  have hdata := h.data
  have hheight := hp.height.eq_of_numbers hq.height h.revisionNumber h.revisionHeight
  obtain ⟨n, hn, hn'⟩ := h.nanoseconds
  have htime := hp.timestamp.eq_of_nanoseconds hq.timestamp hn hn'
  rcases p with ⟨seq, portA, chanA, portB, chanB, data, height, time⟩
  rcases q with ⟨seq', portA', chanA', portB', chanB', data', height', time'⟩
  simp only [keyOnA, destination, Prod.mk.injEq, Counterparty.mk.injEq, Option.some.injEq] at *
  obtain ⟨rfl, rfl, rfl⟩ := hkey
  obtain ⟨rfl, rfl⟩ := hdest
  subst hdata hheight htime
  rfl

theorem computeAckCommitment_inj (hlib : lib'.sha256 = lib.sha256)
    (inj : Function.Injective lib.sha256) {a b : Acknowledgement}
    (h : (computeAckCommitment lib a).bytes = (computeAckCommitment lib' b).bytes) : a = b := by
  rcases a with ⟨a, ha⟩
  rcases b with ⟨b, hb⟩
  simp only [computeAckCommitment, hlib] at h
  cases inj h
  rfl

end Commitments

/-! ### Two chains -/

/-- The packet of the input, if it has one, has timeouts that a decoder produces. -/
def Input.TimeoutsDecoded (i : Input Cons μ) : Prop := ∀ p, i.packet = some p → p.TimeoutsDecoded

instance : DecidablePred (Input.TimeoutsDecoded : Input Cons μ → Prop) := fun i =>
  decidable_of_iff (i.packet.all fun p => decide p.TimeoutsDecoded)
    (by simp only [Input.TimeoutsDecoded, Option.all_eq_true, decide_eq_true_eq])

section World

variable {HA : Host CS Cons μ} {HB : Host CS' Cons' μ'} {okA : Input Cons μ → Prop}
  {okB : Input Cons' μ' → Prop} {w : Duo (Ctx CS Cons μ) (Ctx CS' Cons' μ')} {p : Packet}
  {ack : Acknowledgement}

/-- What was sent was an input. -/
theorem World.sent_ok (isoA : HA.Isolated) (h : (world HA HB okA okB).Reachable w)
    (hp : .sendPacket p ∈ w.left.history) : okA (.sendPacket p) := by
  refine h.lefts_invariant (I := fun a => .sendPacket p ∈ a.history → okA (.sendPacket p)) ?_ ?_ _
    w.left_mem_lefts hp
  · rintro a ⟨-, hh⟩ hp
    rw [hh] at hp
    cases hp
  · rintro seen a a' ⟨-, i, hi, hs⟩ ih hp
    obtain hp | hp := hs.happens isoA hp
    · exact ih hp
    · cases hp with
      | send heq _ => exact heq ▸ hi

/-- A packet that may be received has the commitment of one that was sent under its key. -/
theorem World.receivable_committed (isoA : HA.Isolated) (h : (world HA HB okA okB).Reachable w)
    (hsound : Sound HB w.lefts w.right) {e : ChannelEnd} (hv : RecvValid HB w.right p e) :
    ∃ q cm cm', .sendPacket q ∈ w.left.history ∧ q.keyOnA = p.keyOnA ∧
      q.CommitsTo HA.library cm ∧ p.CommitsTo HB.library cm' ∧ cm.bytes = cm'.bytes := by
  obtain ⟨_, _, cm', hcommits, hshown⟩ := hv.sent
  obtain ⟨a, ha, hheld⟩ := hsound.shown hshown
  obtain ⟨cm, hcm, hbytes⟩ := Option.map_eq_some_iff.mp hheld
  obtain ⟨q, hq, hkey, hqc⟩ := (World.lefts_reachable h a ha).committed isoA hcm
  exact ⟨q, cm, cm', World.left_grows isoA h ha hq, hkey, hqc, hcommits, hbytes⟩

/-- Two ends that were open and name each other: what was received on one was sent on the other to
it. -/
theorem World.received_destination (isoA : HA.Isolated) (isoB : HB.Isolated)
    (h : (world HA HB okA okB).Reachable w) {q : Packet} {e : ChannelEnd}
    (hq : .sendPacket q ∈ w.left.history) (hkey : q.keyOnA = p.keyOnA)
    (he : w.right.store.channel.channels p.chanOnB = some e) (hr : e.remote = p.source)
    (hwas : WasOpen w.rights p.chanOnB) : q.destination = p.destination := by
  obtain ⟨chan, e', hchan, he', hback⟩ := channel_named_back isoB isoA (World.swap h) he hwas
  obtain ⟨eA, heA, hrA⟩ := (World.left_reachable h).addressed isoA hq
  rw [hr] at hchan he'
  obtain rfl : p.chanIdOnA = chan := Option.some.inj hchan
  have hch : q.chanOnA = p.chanOnA := Packet.chanOnA_eq hkey
  obtain rfl : e' = eA := Option.some.inj (he'.symm.trans ((congrArg _ hch).symm.trans heA))
  exact hrA.symm.trans hback

variable (isoA : HA.Isolated) (isoB : HB.Isolated)
  (hlib : HB.library.sha256 = HA.library.sha256) (inj : Function.Injective HA.library.sha256)

include isoA isoB hlib inj

/-- A packet that may be received was sent. -/
theorem World.receivable_sent
    (h : (world HA HB Input.TimeoutsDecoded Input.TimeoutsDecoded).Reachable w)
    (hsound : Sound HB w.lefts w.right) {e : ChannelEnd} (hv : RecvValid HB w.right p e)
    (hp : p.TimeoutsDecoded) : .sendPacket p ∈ w.left.history := by
  obtain ⟨q, cm, cm', hq, hkey, hqc, hpc, heq⟩ := World.receivable_committed isoA h hsound hv
  have hqd : q.TimeoutsDecoded := World.sent_ok isoA h hq q rfl
  have hcontent := hqc.sameContent hlib inj hpc heq (TimeoutHeight.decoded_iff.mp hqd.height).1
    (TimeoutHeight.decoded_iff.mp hp.height).1
  have hdest := World.received_destination isoA isoB h hq hkey hv.channel hv.remote
    ⟨_, w.right_mem_rights, e, hv.channel, hv.state⟩
  exact hcontent.eq hqd hp hkey hdest ▸ hq

theorem World.received_sent
    (h : (world HA HB Input.TimeoutsDecoded Input.TimeoutsDecoded).Reachable w)
    (hp : .recvPacket p ack ∈ w.right.history) : .sendPacket p ∈ w.left.history := by
  refine (World.swap h).attested
    (C := fun b (p : Packet) => ∃ ack, Action.recvPacket p ack ∈ b.history)
    (F := fun a p => .sendPacket p ∈ a.history) ?_ ?_ ?_ w.swap.left_mem_lefts ⟨ack, hp⟩
  · rintro b p ⟨-, hh⟩ ⟨ack, hp⟩
    rw [hh] at hp
    cases hp
  · rintro w b p hw ⟨hsound, i, hi, hs⟩ ⟨ack, hp⟩
    obtain hp | hp := hs.happens isoB hp
    · exact .inl ⟨ack, hp⟩
    · cases hp with
      | recv hpk hv =>
        exact .inr ⟨_, w.right_mem_rights, World.receivable_sent isoA isoB hlib inj (World.swap hw)
          hsound hv (hi p hpk)⟩
  · rintro w a p - ⟨-, i, -, hs⟩ hp
    exact ((Run.refl.step i hs).history_grows isoA).subset hp

/-- A packet whose acknowledgement may be taken was sent, and was answered so. -/
theorem World.acknowledgeable
    (h : (world HA HB Input.TimeoutsDecoded Input.TimeoutsDecoded).Reachable w)
    (hsound : Sound HA w.rights w.left) {e : ChannelEnd} {cm : PacketCommitment}
    (he : w.left.store.channel.channels p.chanOnA = some e) (hopen : e.state = .open)
    (hr : e.remote = p.destination)
    (hcm : w.left.store.channel.packetCommitment p.keyOnA = some cm)
    (hv : AckValid HA w.left.store p ack e cm) (hp : p.TimeoutsDecoded) :
    .sendPacket p ∈ w.left.history ∧ .recvPacket p ack ∈ w.right.history := by
  have hleft := World.left_reachable h
  -- The stored commitment is of a packet that was sent from this end, so to the same destination.
  obtain ⟨q, hq, hkey, hqc⟩ := hleft.committed isoA hcm
  have hqd : q.TimeoutsDecoded := World.sent_ok isoA h hq q rfl
  have hcontent := hqc.sameContent rfl inj hv.commits rfl
    (TimeoutHeight.decoded_iff.mp hqd.height).1 (TimeoutHeight.decoded_iff.mp hp.height).1
  obtain ⟨eA, heA, hrA⟩ := hleft.addressed isoA hq
  have hchan : q.chanOnA = p.chanOnA := Packet.chanOnA_eq hkey
  obtain rfl : eA = e := Option.some.inj (heA.symm.trans ((congrArg _ hchan).trans he))
  obtain rfl : q = p := hcontent.eq hqd hp hkey (hrA.symm.trans hr)
  refine ⟨hq, ?_⟩
  -- What was answered under its key was sent, and under one key only one packet is sent.
  obtain ⟨_, _, hshown⟩ := hv.acked
  obtain ⟨b, hb, hheld⟩ := hsound.shown hshown
  obtain ⟨c, hc, hbytes⟩ := Option.map_eq_some_iff.mp hheld
  obtain ⟨p', ack', hp', hch', hseq', rfl⟩ :=
    (World.lefts_reachable (World.swap h) b hb).answered isoB q.chanOnB hc
  obtain rfl : ack = ack' := computeAckCommitment_inj hlib inj hbytes.symm
  have hrecv : .recvPacket p' ack ∈ w.right.history := World.left_grows isoB (World.swap h) hb hp'
  have hsent := World.received_sent isoA isoB hlib inj h hrecv
  have hkey' : p'.keyOnA = q.keyOnA := by
    obtain ⟨chan, e', hchan, he', hback⟩ := channel_named_back isoA isoB h he
      ⟨_, w.left_mem_lefts, eA, he, hopen⟩
    rw [hr] at hchan he'
    obtain rfl : q.chanIdOnB = chan := Option.some.inj hchan
    obtain ⟨eB, heB, hrB⟩ := (World.right_reachable h).addressed isoB hrecv
    obtain rfl : e' = eB := Option.some.inj (he'.symm.trans ((congrArg _ hch').symm.trans heB))
    have hsource : p'.source = q.source := hrB.symm.trans hback
    simp only [Packet.source, Counterparty.mk.injEq, Option.some.injEq] at hsource
    simp only [Packet.keyOnA, hsource, hseq']
  exact hleft.sent_unique isoA hsent hq hkey' ▸ hrecv

/-- What was acknowledged was sent, and answered so. -/
theorem World.acknowledged
    (h : (world HA HB Input.TimeoutsDecoded Input.TimeoutsDecoded).Reachable w) :
    ∀ p ack ok, .acknowledgePacket p ack ok ∈ w.left.history →
      .sendPacket p ∈ w.left.history ∧ .recvPacket p ack ∈ w.right.history := by
  induction h with
  | start ha _ =>
    intro p ack ok hp
    rw [ha.2] at hp
    cases hp
  | @left w a hw hs ih =>
    intro p ack ok hp
    obtain ⟨hsound, i, hi, hs⟩ := hs
    have hgrows := (Run.refl.step i hs).history_grows isoA
    obtain hp | hp := hs.happens isoA hp
    · exact (ih p ack ok hp).imp_left fun hsent => hgrows.subset hsent
    · cases hp with
      | acknowledge hpk he hopen hr hcm hv =>
        exact (World.acknowledgeable isoA isoB hlib inj hw hsound he hopen hr hcm hv
          (hi p hpk)).imp_left fun hsent => hgrows.subset hsent
  | @right w b hw hs ih =>
    intro p ack ok hp
    obtain ⟨-, i, -, hs⟩ := hs
    exact (ih p ack ok hp).imp_right
      fun hrecv => ((Run.refl.step i hs).history_grows isoB).subset hrecv

/-- What a step acknowledges, or was acknowledged before it, was sent and answered so before it. -/
theorem World.acknowledged_before
    (h : (world HA HB Input.TimeoutsDecoded Input.TimeoutsDecoded).Reachable w) :
    ∀ a, SoundStep HA Input.TimeoutsDecoded w.rights w.left a → ∀ p ack ok,
      .acknowledgePacket p ack ok ∈ a.history →
        .sendPacket p ∈ w.left.history ∧ .recvPacket p ack ∈ w.right.history := by
  rintro a ⟨hsound, i, hi, hs⟩ p ack ok hp
  obtain hp | hp := hs.happens isoA hp
  · exact World.acknowledged isoA isoB hlib inj h p ack ok hp
  · cases hp with
    | acknowledge hpk he hopen hr hcm hv =>
      exact World.acknowledgeable isoA isoB hlib inj h hsound he hopen hr hcm hv (hi p hpk)

/-- **Packets and acknowledgements are authentic.** A packet that the second chain receives was sent
by the first before, and an acknowledgement that the first chain takes was given by the second
before, to a packet that the first had sent. -/
theorem packets_authentic
    (h : (world HA HB Input.TimeoutsDecoded Input.TimeoutsDecoded).Reachable w) :
    (∀ b, SoundStep HB Input.TimeoutsDecoded w.lefts w.right b → ∀ p ack,
      .recvPacket p ack ∈ b.history → .sendPacket p ∈ w.left.history) ∧
    ∀ a, SoundStep HA Input.TimeoutsDecoded w.rights w.left a → ∀ p ack ok,
      .acknowledgePacket p ack ok ∈ a.history →
        .sendPacket p ∈ w.left.history ∧ .recvPacket p ack ∈ w.right.history := by
  refine ⟨fun b hs p ack hp => ?_, World.acknowledged_before isoA isoB hlib inj h⟩
  have hmoved : (world HA HB Input.TimeoutsDecoded Input.TimeoutsDecoded).Reachable
    (w.moveRight b) := .right h hs
  have hsent : .sendPacket p ∈ (w.moveRight b).left.history :=
    World.received_sent isoA isoB hlib inj hmoved hp
  exact hsent

end World

/-! ### A packet and its acknowledgement -/

/-- A packet that is to be sent has timeouts that a decoder produces. -/
def Input.SendsDecoded (i : Input Cons μ) : Prop :=
  ∀ p, i = .sendPacket p → p.TimeoutsDecoded

/-- The packet that the application is to send. -/
def Input.sends : Input Cons μ → Option Packet
  | .sendPacket p => some p
  | _ => none

theorem Input.sendsDecoded_iff {i : Input Cons μ} :
    i.sends.all (fun p => decide p.TimeoutsDecoded) = true ↔ i.SendsDecoded := by
  cases i <;> simp [SendsDecoded, sends]

instance : DecidablePred (Input.SendsDecoded : Input Cons μ → Prop) := fun i =>
  decidable_of_iff (i.sends.all fun p => decide p.TimeoutsDecoded) Input.sendsDecoded_iff

namespace WorldRun

open MockRun (channelId packet commitment signer)

/-- The right chain, at a height at which the sample packet can still be received. -/
def receiver : MockCtx Unit :=
  { ProofRun.start with
    env := mockEnv ProofRun.codec 0 ⟨0, 9⟩ (.fromNanoseconds 100) [ProofRun.header 1] }

def provedCommitment : Path × Bytes := (.commitment .transfer channelId 1, commitment.bytes)

def provedAck : Path × Bytes :=
  (.ack .transfer channelId 1, (computeAckCommitment MockRun.library dummyAcknowledgement).bytes)

/-- The sample packet is sent, received and answered, and the left chain learns of it. -/
def relaying : List (Move Unit Unit) :=
  acknowledging .ordered ++
    [.left (.sendPacket packet), .tellRight (Msg.updateClient 20),
      .tellRight (Msg.chanOpenConfirm .ordered),
      .tellRight (.packet (.recv ⟨packet, proofOf provedCommitment, ⟨0, 20⟩, signer⟩)),
      .tellLeft (Msg.updateClient 20)]

/-- The acknowledgement of a packet, with the proof of the answer to the sample packet. -/
def acknowledge (p : Packet) : Input MockConsensusState Unit :=
  .dispatch (.packet (.ack ⟨p, dummyAcknowledgement, proofOf provedAck, ⟨0, 20⟩, signer⟩))

/-- The sample packet with a timeout at the Unix epoch, in place of none. -/
def epochPacket : Packet := { packet with timeoutTimestampOnB := ⟨some ⟨0, by decide⟩⟩ }

/-- The left chain, with proofs of the answer. -/
def senderHost : Host MockClientState MockConsensusState Unit :=
  ProofRun.host (factsB 0 .ordered [provedAck])

/-- The right chain, with proofs of the packet. -/
def receiverHost : Host MockClientState MockConsensusState Unit :=
  ProofRun.host (factsA 0 .ordered [provedCommitment])

theorem senderHost_mockLike : MockLike senderHost (factsB 0 .ordered [provedAck]) :=
  mockLike_host _

theorem receiverHost_mockLike : MockLike receiverHost (factsA 0 .ordered [provedCommitment]) :=
  mockLike_host _

def packetWorld (ok : Input MockConsensusState Unit → Prop) :
    Duo.System (MockCtx Unit) (MockCtx Unit) := world senderHost receiverHost ok ok

def packetChecks (ok : Input MockConsensusState Unit → Prop) [DecidablePred ok] :
    Checks (packetWorld ok) senderHost receiverHost :=
  worldChecks senderHost_mockLike receiverHost_mockLike ok ok

variable (ok : Input MockConsensusState Unit → Prop) [DecidablePred ok]

/-- The sample packet is relayed, and acknowledged as `p`. -/
theorem exists_acknowledged (p : Packet) {history : List Action}
    (h : ((runMoves (packetChecks ok) (.start ProofRun.start receiver) relaying).bind
      (·.move (packetChecks ok) (.left (acknowledge p)))).map (·.duo.left.history) =
      some history) :
    ∃ w a, (packetWorld ok).Reachable w ∧ (packetWorld ok).stepLeft w.rights w.left a ∧
      a.history = history := by
  have start : ProofRun.start.Fresh := ⟨rfl, rfl⟩
  have receiver : receiver.Fresh := ⟨rfl, rfl⟩
  exact exists_step_of_runMoves senderHost_mockLike receiverHost_mockLike
    (Sample.valid_start start receiver start receiver) relaying (acknowledge p)
    (fun w => w.left.history) h

end WorldRun

open WorldRun

/-- The sample packet is acknowledged: it was sent, and the answer is the one that was given. -/
theorem relayed_packet_authentic : ∃ w a, (packetWorld Input.TimeoutsDecoded).Reachable w ∧
    (packetWorld Input.TimeoutsDecoded).stepLeft w.rights w.left a ∧
    .acknowledgePacket MockRun.packet dummyAcknowledgement true ∈ a.history ∧
    .sendPacket MockRun.packet ∈ w.left.history ∧
    .recvPacket MockRun.packet dummyAcknowledgement ∈ w.right.history := by
  obtain ⟨w, a, hw, hs, hacked⟩ := exists_acknowledged Input.TimeoutsDecoded MockRun.packet
    (by decide +kernel : _ = some [.sendPacket MockRun.packet,
      .acknowledgePacket MockRun.packet dummyAcknowledgement true])
  have hmem : .acknowledgePacket MockRun.packet dummyAcknowledgement true ∈ a.history := by
    rw [hacked]
    exact List.mem_cons_of_mem _ List.mem_cons_self
  exact ⟨w, a, hw, hs, hmem, (packets_authentic senderHost_mockLike.isolated
    receiverHost_mockLike.isolated rfl
    MockRun.sha256_injective hw).2 a hs _ _ _ hmem⟩

/-- The sample packet is acknowledged as one with a timeout at the epoch, which was never sent. -/
theorem epoch_timeout_acknowledged : ∃ w, (packetWorld Input.SendsDecoded).Reachable w ∧
    .acknowledgePacket epochPacket dummyAcknowledgement true ∈ w.left.history ∧
    .sendPacket epochPacket ∉ w.left.history := by
  obtain ⟨w, a, hw, hs, hacked⟩ := exists_acknowledged Input.SendsDecoded epochPacket
    (by decide +kernel : _ = some [.sendPacket MockRun.packet,
      .acknowledgePacket epochPacket dummyAcknowledgement true])
  refine ⟨w.moveLeft a, .left hw hs, ?_, ?_⟩ <;> rw [Duo.moveLeft, hacked]
  · exact List.mem_cons_of_mem _ List.mem_cons_self
  · decide

end Ibc
