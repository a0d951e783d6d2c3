import Ibc.Transfer.Application

/-!
# Acknowledgements of the transfer application

A status is written by putting its text between quotation marks, so it is read back exactly when
nothing in the text has to be escaped (`acknowledgement_survives`). The kind of a status is never
confused: a text that breaks out of its quotation marks makes the reader fail, or changes the text.
An error that is not read back is not refunded.
-/

namespace Ibc

namespace AcknowledgementStatus

variable {a b : AcknowledgementStatus}

/-- The text of the status needs no escapes. -/
def Plain (a : AcknowledgementStatus) : Prop := Json.Plain a.value.str.toList

instance (a : AcknowledgementStatus) : Decidable a.Plain :=
  inferInstanceAs (Decidable (Json.Plain _))

theorem toJson_toList : a.toJson.toList = Json.object a.key.toList a.value.str.toList := by
  simp [toJson, Json.object]

theorem plain_key : Json.Plain a.key.toList := by
  have hkeys : Json.Plain "result".toList ∧ Json.Plain "error".toList := by decide
  cases a with
  | success v => exact hkeys.1
  | error v => exact hkeys.2

/-- Reading a written status is reading its object. -/
theorem fromSlice_toVec :
    fromSlice a.toVec =
      (Json.readObject (Json.object a.key.toList a.value.str.toList)).bind ofMember := by
  have htext : Proto.Codec.string.decode a.toVec = some a.toJson :=
    Proto.Codec.string.decode_encode a.toJson
  rw [fromSlice, htext, Option.bind_eq_bind, Option.bind_some, toJson_toList]
  rfl

theorem ofMember_eq_some {member : String × String} :
    ofMember member = some a ↔ member = (a.key, a.value.str) := by
  obtain ⟨name, text⟩ := member
  rcases a with ⟨⟨v⟩⟩ | ⟨⟨v⟩⟩
  all_goals
    simp only [ofMember, key, value, Prod.mk.injEq]
    split_ifs with hresult herror
  · simp [hresult]
  · simp [hresult]
  · simp [hresult]
  · simp [hresult]
  · simp [herror]
  · simp [herror]

/-- A written status is read back exactly when its text is plain. -/
theorem fromSlice_toVec_eq_self : fromSlice a.toVec = some a ↔ a.Plain := by
  rw [fromSlice_toVec, Option.bind_eq_some_iff, Plain, ← Json.readObject_eq_self plain_key]
  simp only [ofMember_eq_some, String.ofList_toList]
  constructor
  · rintro ⟨member, hread, rfl⟩
    exact hread
  · exact fun hread => ⟨_, hread, rfl⟩

/-- Whatever is read of a written status has its kind. -/
theorem isSuccessful_of_fromSlice (h : fromSlice a.toVec = some b) :
    b.isSuccessful = a.isSuccessful := by
  rw [fromSlice_toVec, Option.bind_eq_some_iff] at h
  obtain ⟨member, hread, hb⟩ := h
  have hname := Json.readObject_name plain_key hread
  rw [ofMember_eq_some.mp hb, String.ofList_toList] at hname
  have hkeys : ("error" : String) ≠ "result" := by decide
  cases a with
  | success v =>
    cases b with
    | success w => rfl
    | error w => exact absurd hname hkeys
  | error v =>
    cases b with
    | success w => exact absurd hname.symm hkeys
    | error w => rfl

/-- What the sender of a packet does with a written status when it reads what was written: nothing
but events for a success, and the refund for an error. -/
structure Survives (a : AcknowledgementStatus) : Prop where
  read : fromSlice a.toVec = some a
  validate : ∀ {Account μ : Type} (T : TransferHost Account μ) (packet : Packet)
    (data : PacketData) (s : μ), T.packetData packet.data = .ok data →
    T.onAcknowledgementPacketValidate packet a.toAcknowledgement s =
      if a.isSuccessful then .ok () else T.refundPacketTokenValidate packet data s
  execute : ∀ {Account μ : Type} (T : TransferHost Account μ) (packet : Packet)
    (data : PacketData) (s : μ), T.packetData packet.data = .ok data →
    T.onAcknowledgementPacketExecute packet a.toAcknowledgement s =
      if a.isSuccessful then ((TransferHost.ackExtras data a, .ok ()), s)
      else TransferHost.afterRefund (TransferHost.ackExtras data a)
        (T.refundPacketTokenExecute packet data s)

theorem Plain.survives (h : a.Plain) : a.Survives := by
  have hread : fromSlice a.toAcknowledgement.bytes = some a := fromSlice_toVec_eq_self.mpr h
  refine ⟨hread, ?_, ?_⟩
  · intro Account μ T packet data s hdata
    rw [TransferHost.onAcknowledgementPacketValidate, hdata, hread]
    rfl
  · intro Account μ T packet data s hdata
    rw [TransferHost.onAcknowledgementPacketExecute, hdata]
    simp only [hread]

end AcknowledgementStatus

variable {Account μ : Type}

/-- The answer to a packet is a written status, a success exactly when the tokens were moved. -/
theorem TransferHost.onRecvPacketExecute_answers (T : TransferHost Account μ) (packet : Packet)
    (s : μ) : ∃ a : AcknowledgementStatus,
      (T.onRecvPacketExecute packet s).1.2 = a.toAcknowledgement ∧
      (a.isSuccessful = true ↔ ∃ data extras, T.packetData packet.data = .ok data ∧
        (T.processRecvPacketExecute packet data s).1 = .ok extras) := by
  unfold onRecvPacketExecute
  cases hdata : T.packetData packet.data with
  | error e => exact ⟨_, rfl, by simp [AcknowledgementStatus.isSuccessful]⟩
  | ok data =>
    refine ⟨(T.recvStatus packet data s).1.2, rfl, ?_⟩
    unfold recvStatus
    rcases hrecv : T.processRecvPacketExecute packet data s with ⟨⟨extras, e⟩ | extras, s'⟩ <;>
      simp [hrecv, AcknowledgementStatus.isSuccessful]

/-- **Acknowledgements survive the trip exactly when they are plain.** The receiver answers with a
written status. The sender reads it back, and refunds the tokens exactly for an error, if nothing in
its text has to be escaped; otherwise it does not read back what was written. It never takes an
error for a success or the other way round. -/
theorem acknowledgement_survives (T : TransferHost Account μ) (packet : Packet) (s : μ) :
    (∃ a : AcknowledgementStatus,
      (T.onRecvPacketExecute packet s).1.2 = a.toAcknowledgement ∧
      (a.isSuccessful = true ↔ ∃ data extras, T.packetData packet.data = .ok data ∧
        (T.processRecvPacketExecute packet data s).1 = .ok extras)) ∧
    (∀ a : AcknowledgementStatus, a.Survives ↔ a.Plain) ∧
    ∀ a b : AcknowledgementStatus, AcknowledgementStatus.fromSlice a.toVec = some b →
      b.isSuccessful = a.isSuccessful := by
  refine ⟨T.onRecvPacketExecute_answers packet s, fun a => ⟨fun h => ?_, fun h => h.survives⟩,
    fun a b => AcknowledgementStatus.isSuccessful_of_fromSlice⟩
  exact AcknowledgementStatus.fromSlice_toVec_eq_self.mp h.read

/-- The status of a host that found a quotation mark in the name of a coin. -/
def quotedCoin : AcknowledgementStatus := .error ⟨"invalid coin string: `\"`"⟩

/-- It is not read back, and the sender rejects it: there is no refund. -/
theorem quoted_error_not_refunded :
    StatusValue.new "invalid coin string: `\"`" = some quotedCoin.value ∧
    (∀ texts, (TokenTransferError.invalidCoin "\"").toStatusValue texts = quotedCoin.value) ∧
    AcknowledgementStatus.fromSlice quotedCoin.toVec = none ∧
    ∀ (T : TransferHost Unit Unit) (packet : Packet) (data : PacketData) (s : Unit),
      T.packetData packet.data = .ok data →
      T.onAcknowledgementPacketValidate packet quotedCoin.toAcknowledgement s =
        .error .ackDeserialization := by
  have hread : AcknowledgementStatus.fromSlice quotedCoin.toAcknowledgement.bytes = none := by
    change AcknowledgementStatus.fromSlice quotedCoin.toVec = none
    rw [AcknowledgementStatus.fromSlice_toVec]
    decide
  refine ⟨by decide, fun texts => rfl, hread, ?_⟩
  intro T packet data s hdata
  rw [TransferHost.onAcknowledgementPacketValidate, hdata, hread]
  rfl

end Ibc
