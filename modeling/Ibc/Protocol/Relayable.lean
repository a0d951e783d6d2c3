import Ibc.Protocol.RoundTrip
import Ibc.Protocol.Sender

/-!
# Sent packets on the wire

What the sender checks and what the decoder of packets checks are different things. A packet that
was sent on a channel of the chain has a sequence number from 1 on, below the last word, and a
timestamp with nanoseconds; whether it has data, and a timeout that survives its encoding, nobody
asked. `sent_relayable` says which packets the four packet messages can carry.
-/

namespace Ibc

variable {CS Cons μ : Type} {H : Host CS Cons μ} {s s' : Ctx CS Cons μ} {p : Packet}

/-- A packet that was sent passed the checks, and its number is below the last word. -/
theorem sendPacket_shows (h : sendPacket H p s = (.ok (), s')) :
    (∃ e, SendValid s p e) ∧ p.seqOnA + 1 < UInt64.size := by
  unfold sendPacket at h
  rw [Exec.read_bind] at h
  obtain ⟨u, s₁, hv, hx⟩ := Exec.bind_eq_ok.mp h
  obtain rfl : s = s₁ := congrArg Prod.snd hv
  have hvalid : sendPacketValidate H s p = .ok () := congrArg Prod.fst hv
  obtain ⟨e, he⟩ := sendPacketValidate_shows hvalid
  unfold sendPacketExecute at hx
  rw [Exec.read_bind] at hx
  obtain ⟨n, s₁, hn, hx⟩ := Exec.bind_eq_ok.mp hx
  obtain rfl : s = s₁ := congrArg Prod.snd hn
  have hnext := lift_packet_eq_ok.mp (congrArg Prod.fst hn)
  obtain rfl : n = p.seqOnA := Option.some.inj ((Result.okOr_eq_ok.mp hnext).symm.trans he.next)
  obtain ⟨m, s₁, hm, -⟩ := Exec.bind_eq_ok.mp hx
  have hword := (Result.addU64_eq_ok.mp (congrArg Prod.fst hm)).2
  exact ⟨⟨e, he⟩, hword⟩

/-- The first sequence number is 1. -/
theorem Reachable.sequence_pos (iso : H.Isolated) (h : Reachable H s) {e : ChannelEnd}
    (hv : SendValid s p e) : 1 ≤ p.seqOnA :=
  (h.life iso p.chanOnA).senderInv.positive p.seqOnA hv.next

/-- What the sender does not check. -/
structure Packet.Relayable (p : Packet) : Prop where
  data_ne : p.data ≠ []
  timeouts : p.TimeoutsDecoded
  timeout_set : p.timeoutHeightOnB.isSet = true ∨ p.timeoutTimestampOnB.isSet = true

/-- A sent packet is readable when what the sender does not check holds of it. -/
theorem readable_iff_of_sent (iso : H.Isolated) (h : Reachable H s)
    (hsend : sendPacket H p s = (.ok (), s')) {alnum : Char → Bool} (hids : p.IdsValid alnum) :
    p.Readable alnum ↔ p.Relayable := by
  obtain ⟨⟨e, he⟩, hword⟩ := sendPacket_shows hsend
  have hpos := h.sequence_pos iso he
  constructor
  · intro hr
    exact ⟨hr.data_ne, hr.timeouts, hr.timeout_set⟩
  · intro hr
    exact ⟨hids, Nat.ne_of_gt hpos, Nat.lt_of_succ_lt hword, hr.data_ne, hr.timeouts,
      hr.timeout_set⟩

/-- A packet is written and read back exactly when it is readable. -/
theorem Packet.round_trips_iff {alnum : Char → Bool} :
    (∃ raw, (p.toRaw : Result Empty RawPacket) = .ok raw ∧ Packet.tryFrom alnum raw = .ok p) ↔
      p.Readable alnum := by
  constructor
  · rintro ⟨raw, -, hread⟩
    exact readable_of_tryFrom hread
  · exact fun h => h.toRaw

/-- So is a message around it. -/
theorem PacketMsg.round_trips_iff (prost : Prost) {alnum : Char → Bool} {m : PacketMsg} :
    (∃ b, ((.packet m : MsgEnvelope).toAny prost : Result Empty Any) = .ok b ∧
      MsgEnvelope.tryFrom prost alnum b = .ok (.packet m)) ↔ m.Readable alnum := by
  constructor
  · rintro ⟨b, -, hread⟩
    exact MsgEnvelope.accepted_of_tryFrom hread
  · intro h
    have haccepted : (MsgEnvelope.packet m).Accepted alnum := h
    exact haccepted.toAny prost

/-- **Which sent packets can be relayed.** A packet that was sent on a channel of the chain is read
back from its wire form exactly when it has data, a timeout, and timeouts that a decoder produces.
The same goes for each of the four messages that carry it. -/
theorem sent_relayable (iso : H.Isolated) (h : Reachable H s)
    (hsend : sendPacket H p s = (.ok (), s')) {alnum : Char → Bool} (hids : p.IdsValid alnum)
    (prost : Prost) :
    ((∃ raw, (p.toRaw : Result Empty RawPacket) = .ok raw ∧ Packet.tryFrom alnum raw = .ok p) ↔
      p.Relayable) ∧
    ∀ m : PacketMsg, m.packet = p → m.NumbersDecoded →
      ((∃ b, ((.packet m : MsgEnvelope).toAny prost : Result Empty Any) = .ok b ∧
        MsgEnvelope.tryFrom prost alnum b = .ok (.packet m)) ↔ p.Relayable) := by
  have hiff := readable_iff_of_sent iso h hsend hids
  refine ⟨Packet.round_trips_iff.trans hiff, ?_⟩
  rintro m rfl hnumbers
  rw [PacketMsg.round_trips_iff, ← hiff]
  exact and_iff_left hnumbers

/-! ### Packets of the mock host -/

namespace MockRun

/-- The sample packet with other data. -/
def packetWith (data : Bytes) : Packet := { packet with data := data }

theorem packetWith_idsValid (data : Bytes) : (packetWith data).IdsValid Char.isAlphanum := by
  have hport : PortId.fromStr Char.isAlphanum PortId.transfer.str = .ok .transfer :=
    PortId.fromStr_eq_ok.mpr ⟨rfl, by decide⟩
  have hchan : ChannelId.fromStr Char.isAlphanum channelId.str = .ok channelId :=
    ChannelId.fromStr_eq_ok.mpr ⟨rfl, by decide⟩
  exact ⟨hport, hchan, hport, hchan⟩

/-- The sample packet can be sent with any of these data. -/
theorem sendPacket_packetWith (data : Bytes) (hdata : data ∈ [[], [1]]) :
    ∃ s s', Reachable host s ∧ sendPacket host (packetWith data) s = (.ok (), s') := by
  obtain ⟨s, hs, hok⟩ := Reachable.exists_of_runAll (H := host) (s := start) (opening .unordered)
    (fun s => [[], [1]].all fun data => (sendPacket host (packetWith data) s).1.isOk) (a := true)
    rfl rfl (by decide +kernel)
  have hdata := List.all_eq_true.mp hok data hdata
  rcases hsend : sendPacket host (packetWith data) s with ⟨_ | u, s'⟩
  · rw [hsend] at hdata
    cases hdata
  · exact ⟨s, s', hs, hsend⟩

end MockRun

/-- The sample packet is sent, and can be relayed. -/
theorem mock_packet_relayable :
    ∃ s s', Reachable MockRun.host s ∧
      sendPacket MockRun.host (MockRun.packetWith [1]) s = (.ok (), s') ∧
      ∃ raw, ((MockRun.packetWith [1]).toRaw : Result Empty RawPacket) = .ok raw ∧
        Packet.tryFrom Char.isAlphanum raw = .ok (MockRun.packetWith [1]) := by
  obtain ⟨s, s', hs, hsend⟩ := MockRun.sendPacket_packetWith [1] (by decide)
  refine ⟨s, s', hs, hsend, (sent_relayable MockRun.host_isolated hs hsend
    (MockRun.packetWith_idsValid [1]) .wire).1.mpr ?_⟩
  exact ⟨by decide, by decide, by decide⟩

/-- Without data it is sent all the same, and no message can carry it. -/
theorem mock_packet_stuck :
    ∃ s s' p, Reachable MockRun.host s ∧ sendPacket MockRun.host p s = (.ok (), s') ∧
      p.IdsValid Char.isAlphanum ∧
      (¬ ∃ raw, (p.toRaw : Result Empty RawPacket) = .ok raw ∧
        Packet.tryFrom Char.isAlphanum raw = .ok p) ∧
      ∀ m : PacketMsg, m.packet = p → ¬ ∃ b,
        ((.packet m : MsgEnvelope).toAny .wire : Result Empty Any) = .ok b ∧
          MsgEnvelope.tryFrom .wire Char.isAlphanum b = .ok (.packet m) := by
  obtain ⟨s, s', hs, hsend⟩ := MockRun.sendPacket_packetWith [] (by decide)
  have hempty : ¬ (MockRun.packetWith []).Readable Char.isAlphanum := fun h => h.data_ne rfl
  refine ⟨s, s', _, hs, hsend, MockRun.packetWith_idsValid [],
    fun h => hempty (Packet.round_trips_iff.mp h), ?_⟩
  intro m hm h
  have hread := ((PacketMsg.round_trips_iff .wire).mp h).1
  rw [hm] at hread
  exact hempty hread

end Ibc
