import Ibc.Model.Codec
import Mathlib.Data.UInt

/-!
# Round trips of messages

A message that a decoder accepted is written and read again. `MsgEnvelope.written` is what comes
back: the message itself, except that a channel OpenTry loses the version of its channel end, which
is decoded and never encoded. Two accepted messages have the same bytes to sign exactly when they
agree up to that version (`envelope_round_trip`).
-/

namespace Ibc

section Parts

variable {alnum : Char → Bool} {ε : Type}

/-! ### Identifiers, heights and proofs -/

/-- A checked client id passes its check. -/
theorem ClientId.fromStr_str {s : String} {id : ClientId} (h : fromStr alnum s = .ok id) :
    fromStr alnum id.str = .ok id := by
  obtain ⟨rfl, -⟩ := fromStr_eq_ok.mp h
  exact h

/-- A checked connection id passes its check. -/
theorem ConnectionId.fromStr_str {s : String} {id : ConnectionId} (h : fromStr alnum s = .ok id) :
    fromStr alnum id.str = .ok id := by
  obtain ⟨rfl, -⟩ := fromStr_eq_ok.mp h
  exact h

/-- A checked port id passes its check. -/
theorem PortId.fromStr_str {s : String} {id : PortId} (h : fromStr alnum s = .ok id) :
    fromStr alnum id.str = .ok id := by
  obtain ⟨rfl, -⟩ := fromStr_eq_ok.mp h
  exact h

/-- A checked channel id passes its check. -/
theorem ChannelId.fromStr_str {s : String} {id : ChannelId} (h : fromStr alnum s = .ok id) :
    fromStr alnum id.str = .ok id := by
  obtain ⟨rfl, -⟩ := fromStr_eq_ok.mp h
  exact h

theorem toNat_ofNat_word {n : ℕ} (h : n < UInt64.size) : (UInt64.ofNat n).toNat = n := by
  rw [UInt64.toNat_ofNat', Nat.mod_eq_of_lt h]

/-- A nonzero word stays one. -/
theorem ofNat_word_ne_zero {n : ℕ} (hne : n ≠ 0) (hlt : n < UInt64.size) : UInt64.ofNat n ≠ 0 := by
  intro h0
  apply hne
  rw [← toNat_ofNat_word hlt, h0]
  rfl

/-- Both numbers are words, and the height is not zero. -/
def Height.Decoded (h : Height) : Prop :=
  h.revisionNumber < UInt64.size ∧ h.revisionHeight < UInt64.size ∧ h.revisionHeight ≠ 0

/-- The heights that are read, and what from. -/
theorem Height.tryFrom_eq_ok {raw : RawHeight} {h : Height} :
    tryFrom raw = .ok h ↔ h.toRaw = raw ∧ h.Decoded := by
  obtain ⟨number, height⟩ := raw
  simp only [tryFrom, Result.okOr_eq_ok, Height.new]
  constructor
  · intro hnew
    split_ifs at hnew with hzero
    cases hnew
    exact ⟨by simp [toRaw], number.toNat_lt, height.toNat_lt, hzero⟩
  · rintro ⟨hraw, hn, hh, hzero⟩
    obtain ⟨n, k⟩ := h
    simp only [toRaw, RawHeight.mk.injEq] at hraw
    obtain ⟨rfl, rfl⟩ := hraw
    rw [toNat_ofNat_word hn, toNat_ofNat_word hh, if_neg hzero]

/-- The same of a height that has to be there. -/
theorem Height.required_eq_ok {raw : Option RawHeight} {missing : ε} {h : Height} :
    required raw missing = .ok h ↔ raw = some h.toRaw ∧ h.Decoded := by
  cases raw with
  | none => simp [required]
  | some raw =>
    have hopt : (tryFrom raw).toOption = some h ↔ tryFrom raw = .ok h := by
      cases tryFrom raw <;> simp [Except.toOption]
    rw [required, Result.okOr_eq_ok, Option.bind_some, hopt, tryFrom_eq_ok, Option.some.injEq,
      eq_comm]

/-- A height that was read is read again. -/
theorem Height.required_toRaw {raw : Option RawHeight} {missing : ε} {h : Height}
    (hr : required raw missing = .ok h) : required (some h.toRaw) missing = .ok h :=
  required_eq_ok.mpr ⟨rfl, (required_eq_ok.mp hr).2⟩

/-- A proof is never empty. -/
@[simp] theorem CommitmentProofBytes.required_bytes (p : CommitmentProofBytes) (invalid : ε) :
    required p.bytes invalid = .ok p := by
  simp [required, tryFrom, p.nonempty]

/-- An acknowledgement is never empty. -/
@[simp] theorem Acknowledgement.tryFrom_bytes (a : Acknowledgement) : tryFrom a.bytes = .ok a := by
  simp [tryFrom, a.nonempty]

/-! ### Connection parts -/

/-- A version is only checked. -/
theorem ConnectionVersion.tryFrom_self {raw v : ConnectionVersion} (h : raw.tryFrom = .ok v) :
    raw = v := by
  simp only [tryFrom, Result.bind_eq_ok, Result.pure_eq_ok] at h
  obtain ⟨-, -, -, -, rfl⟩ := h
  rfl

/-- So is an optional one. -/
theorem ConnectionVersion.optional_self {raw v : Option ConnectionVersion}
    (h : optional raw = .ok v) : raw = v := by
  cases raw with
  | none =>
    cases h
    rfl
  | some raw =>
    cases hv : raw.tryFrom with
    | error e =>
      rw [optional, hv] at h
      cases h
    | ok v' =>
      rw [optional, hv] at h
      cases h
      rw [tryFrom_self hv]

/-- So is a list of versions. -/
theorem parseVersions_self {raws vs : List ConnectionVersion} (h : parseVersions raws = .ok vs) :
    raws = vs := by
  induction raws generalizing vs with
  | nil =>
    cases h
    rfl
  | cons raw raws ih =>
    simp only [parseVersions, Result.bind_eq_ok, Result.pure_eq_ok] at h
    obtain ⟨v, hv, vs, hvs, rfl⟩ := h
    rw [ConnectionVersion.tryFrom_self hv, ih hvs]

/-- An identifier is never the empty string, so an absent one is told apart. -/
theorem parseOptional_str {α : Type} {parse : String → Except ε α} {str : α → String}
    (hne : ∀ a, str a ≠ "") (hstr : ∀ s a, parse s = .ok a → parse (str a) = .ok a) {s : String}
    {o : Option α} (h : parseOptional parse s = .ok o) :
    parseOptional parse ((o.map str).getD "") = .ok o := by
  simp only [parseOptional] at h ⊢
  split_ifs at h with hs
  · cases h
    rfl
  · cases hp : parse s with
    | error e =>
      rw [hp] at h
      cases h
    | ok a =>
      rw [hp] at h
      cases h
      rw [Option.map_some, Option.getD_some, if_neg (hne a), hstr s a hp]
      rfl

/-- The counterparty of a connection is read again. -/
theorem ConnectionCounterparty.tryFrom_toRaw {raw : RawConnectionCounterparty}
    {c : ConnectionCounterparty} (h : tryFrom alnum raw = .ok c) :
    tryFrom alnum c.toRaw = .ok c := by
  simp only [tryFrom, Result.bind_eq_ok, Result.pure_eq_ok, Result.mapError_eq_ok] at h
  obtain ⟨conn, hconn, client, hclient, _, -, pfx, hpfx, rfl⟩ := h
  have hprefix : CommitmentPrefix.tryFrom pfx.bytes = .ok pfx := by
    simp only [CommitmentPrefix.tryFrom] at hpfx ⊢
    split_ifs at hpfx with hempty
    cases hpfx
    rw [if_neg hempty]
  have hconn' := parseOptional_str (fun id : ConnectionId => id.wf.nonempty)
    (fun s id => ConnectionId.fromStr_str) hconn
  simp only [tryFrom, toRaw, Result.bind_eq_ok, Result.pure_eq_ok, Result.mapError_eq_ok]
  exact ⟨conn, hconn', client, ClientId.fromStr_str hclient, pfx.bytes, rfl, pfx, hprefix, rfl⟩

/-! ### Channel parts -/

/-- The counterparty of a channel is read again. -/
theorem Counterparty.tryFrom_toRaw {raw : String × String} {c : Counterparty}
    (h : tryFrom alnum raw = .ok c) :
    tryFrom alnum (c.portId.str, (c.channelId.map ChannelId.str).getD "") = .ok c := by
  simp only [tryFrom, Result.bind_eq_ok, Result.pure_eq_ok, Result.mapError_eq_ok] at h ⊢
  obtain ⟨chan, hchan, port, hport, rfl⟩ := h
  have hchan' := parseOptional_str (fun id : ChannelId => id.wf.nonempty)
    (fun s id => ChannelId.fromStr_str) hchan
  exact ⟨chan, hchan', port, PortId.fromStr_str hport, rfl⟩

/-- The hops are read again. -/
theorem parseHops_str {ss : List String} {ids : List ConnectionId}
    (h : parseHops alnum ss = .ok ids) : parseHops alnum (ids.map ConnectionId.str) = .ok ids := by
  induction ss generalizing ids with
  | nil =>
    cases h
    rfl
  | cons s ss ih =>
    simp only [parseHops, Result.bind_eq_ok, Result.pure_eq_ok] at h
    obtain ⟨id, hid, ids, hids, rfl⟩ := h
    simp only [List.map_cons, parseHops, ConnectionId.fromStr_str hid, ih hids, Result.ok_bind]
    rfl

/-- A state is read again. -/
@[simp] theorem ChannelState.fromI32_toNat (st : ChannelState) : fromI32 st.toNat = .ok st := by
  cases st <;> rfl

/-- An ordering is read again. -/
@[simp] theorem Order.fromI32_toNat (o : Order) : fromI32 o.toNat = .ok o := by
  cases o <;> rfl

theorem Counterparty.verifyEmptyChannelId_eq_ok {c : Counterparty} {u : Unit} :
    c.verifyEmptyChannelId = .ok u ↔ c.channelId = none := by
  rcases c with ⟨port, _ | id⟩ <;> simp [verifyEmptyChannelId]

theorem ChannelEnd.verifyStateMatches_eq_ok {e : ChannelEnd} {st : ChannelState} {u : Unit} :
    e.verifyStateMatches st = .ok u ↔ e.state = st := Result.ensure_eq_ok

/-- What a decoded channel end consists of. -/
structure ChannelEnd.Decoded (alnum : Char → Bool) (e : ChannelEnd) : Prop where
  remote : Counterparty.tryFrom alnum
    (e.remote.portId.str, (e.remote.channelId.map ChannelId.str).getD "") = .ok e.remote
  hops : parseHops alnum (e.connectionHops.map ConnectionId.str) = .ok e.connectionHops
  state : e.state ≠ .uninitialized
  ordering : e.ordering ≠ .none

/-- Every channel end that was read is a decoded one. -/
theorem ChannelEnd.decoded_of_tryFrom {raw : RawChannel} {e : ChannelEnd}
    (h : tryFrom alnum raw = .ok e) : e.Decoded alnum := by
  simp only [tryFrom, Result.bind_eq_ok, Result.mapError_eq_ok, ChannelEnd.new_eq_ok] at h
  obtain ⟨st, -, o, -, _, -, remote, hremote, hops, hhops, rfl, hst, ho⟩ := h
  exact ⟨Counterparty.tryFrom_toRaw hremote, parseHops_str hhops, hst, ho⟩

/-- It is read again. -/
theorem ChannelEnd.Decoded.tryFrom_toRaw {e : ChannelEnd} (h : e.Decoded alnum) :
    tryFrom alnum e.toRaw = .ok e := by
  simp only [tryFrom, toRaw, ChannelState.fromI32_toNat, Order.fromI32_toNat, Result.okOr_some,
    Result.ok_bind, h.remote, Result.bind_eq_ok, Result.mapError_eq_ok, ChannelEnd.new_eq_ok]
  exact ⟨e.connectionHops, h.hops, rfl, h.state, h.ordering⟩

/-- Neither the state nor the version matters to the other parts of a channel end. -/
theorem ChannelEnd.Decoded.congr {e e' : ChannelEnd} (h : e.Decoded alnum)
    (hst : e'.state ≠ .uninitialized) (hr : e'.remote = e.remote)
    (hh : e'.connectionHops = e.connectionHops) (ho : e'.ordering = e.ordering) :
    e'.Decoded alnum :=
  ⟨hr ▸ h.remote, hh ▸ h.hops, hst, ho ▸ h.ordering⟩

/-! ### Packets -/

/-- A timeout that was read is a decoded one. -/
theorem TimeoutHeight.decoded_of_tryFromRaw {raw : Option RawHeight} {t : TimeoutHeight}
    (h : tryFromRaw raw = .ok t) : t.Decoded := by
  cases raw with
  | none =>
    cases h
    exact ⟨0, by decide, 0, by decide, rfl⟩
  | some raw => exact ⟨_, raw.revisionNumber.toNat_lt, _, raw.revisionHeight.toNat_lt, h⟩

/-- These are the timeouts that are read again. -/
theorem TimeoutHeight.tryFromRaw_toRaw {t : TimeoutHeight} :
    tryFromRaw t.toRaw = .ok t ↔ t.Decoded := by
  refine ⟨decoded_of_tryFromRaw, fun h => ?_⟩
  obtain ⟨⟨hn, hh⟩, hpos⟩ := decoded_iff.mp h
  cases t with
  | never => rfl
  | «at» k =>
    have hne := hpos k rfl
    simp only [commitmentRevisionNumber, commitmentRevisionHeight] at hn hh
    simp [tryFromRaw, toRaw, Height.toRaw, toNat_ofNat_word hn, toNat_ofNat_word hh, tryFrom,
      Height.new, hne]

/-- The identifiers of a packet are ones that their constructors validate. -/
structure Packet.IdsValid (alnum : Char → Bool) (p : Packet) : Prop where
  portIdOnA : PortId.fromStr alnum p.portIdOnA.str = .ok p.portIdOnA
  chanIdOnA : ChannelId.fromStr alnum p.chanIdOnA.str = .ok p.chanIdOnA
  portIdOnB : PortId.fromStr alnum p.portIdOnB.str = .ok p.portIdOnB
  chanIdOnB : ChannelId.fromStr alnum p.chanIdOnB.str = .ok p.chanIdOnB

/-- The packets a decoder produces: they have a sequence number, data and a timeout, and valid
identifiers. -/
structure Packet.Readable (alnum : Char → Bool) (p : Packet) : Prop
    extends Packet.IdsValid alnum p where
  sequence_ne : p.seqOnA ≠ 0
  sequence_lt : p.seqOnA < UInt64.size
  data_ne : p.data ≠ []
  timeouts : p.TimeoutsDecoded
  timeout_set : p.timeoutHeightOnB.isSet = true ∨ p.timeoutTimestampOnB.isSet = true

/-- Every packet that was read is readable. -/
theorem Packet.readable_of_tryFrom {raw : RawPacket} {p : Packet} (h : tryFrom alnum raw = .ok p) :
    p.Readable alnum := by
  simp only [tryFrom, Result.bind_eq_ok, Result.ensure_eq_ok, Result.mapError_eq_ok,
    Result.pure_eq_ok] at h
  obtain ⟨-, hseq, -, hdata, t, ht, -, hset, pa, hpa, ca, hca, pb, hpb, cb, hcb, rfl⟩ := h
  have hseq' : raw.sequence.toNat ≠ 0 := fun h0 => hseq (UInt64.toNat_inj.mp h0)
  exact ⟨⟨PortId.fromStr_str hpa, ChannelId.fromStr_str hca, PortId.fromStr_str hpb,
    ChannelId.fromStr_str hcb⟩, hseq', raw.sequence.toNat_lt, hdata,
    ⟨TimeoutHeight.decoded_of_tryFromRaw ht, _, raw.timeoutTimestamp.toNat_lt, rfl⟩, hset⟩

/-- A readable packet is written, and read again. -/
theorem Packet.Readable.toRaw {p : Packet} (h : p.Readable alnum) :
    ∃ raw, (p.toRaw : Result ε RawPacket) = .ok raw ∧ tryFrom alnum raw = .ok p := by
  obtain ⟨n, hn, hnano, hts⟩ := h.timeouts.timestamp.nanoseconds (ε := ε)
  refine ⟨_, by rw [Packet.toRaw, hnano]; rfl, ?_⟩
  have hseq : UInt64.ofNat p.seqOnA ≠ 0 := ofNat_word_ne_zero h.sequence_ne h.sequence_lt
  simp only [tryFrom, Result.bind_eq_ok, Result.ensure_eq_ok, Result.mapError_eq_ok,
    Result.pure_eq_ok, toNat_ofNat_word h.sequence_lt, toNat_ofNat_word hn, hts]
  exact ⟨(), hseq, (), h.data_ne, _, TimeoutHeight.tryFromRaw_toRaw.mpr h.timeouts.height, (),
    h.timeout_set, _, h.portIdOnA, _, h.chanIdOnA, _, h.portIdOnB, _, h.chanIdOnB, rfl⟩

/-! ### Client messages -/

/-- Any message is read again. -/
theorem MsgCreateClient.tryFrom_toRaw (msg : MsgCreateClient) : tryFrom msg.toRaw = .ok msg := rfl

/-- A message that was read is read again. -/
theorem MsgUpdateClient.tryFrom_toRaw {raw : RawMsgUpdateClient} {msg : MsgUpdateClient}
    (h : tryFrom alnum raw = .ok msg) : tryFrom alnum msg.toRaw = .ok msg := by
  simp only [tryFrom, Result.bind_eq_ok, Result.mapError_eq_ok, Result.okOr_eq_ok,
    Result.pure_eq_ok] at h ⊢
  obtain ⟨id, hid, header, -, rfl⟩ := h
  exact ⟨id, ClientId.fromStr_str hid, header, rfl, rfl⟩

theorem MsgUpgradeClient.tryFrom_toRaw {raw : RawMsgUpgradeClient} {msg : MsgUpgradeClient}
    (h : tryFrom alnum raw = .ok msg) : tryFrom alnum msg.toRaw = .ok msg := by
  simp only [tryFrom, Result.bind_eq_ok, Result.mapError_eq_ok, Result.okOr_eq_ok,
    Result.pure_eq_ok] at h ⊢
  obtain ⟨cs, -, cons, -, pc, -, pcs, -, id, hid, rfl⟩ := h
  exact ⟨cs, rfl, cons, rfl, pc, pc.required_bytes _, pcs, pcs.required_bytes _, id,
    ClientId.fromStr_str hid, rfl⟩

theorem MsgSubmitMisbehaviour.tryFrom_toRaw {raw : RawMsgSubmitMisbehaviour}
    {msg : MsgSubmitMisbehaviour} (h : tryFrom alnum raw = .ok msg) :
    tryFrom alnum msg.toRaw = .ok msg := by
  simp only [tryFrom, Result.bind_eq_ok, Result.mapError_eq_ok, Result.okOr_eq_ok,
    Result.pure_eq_ok] at h ⊢
  obtain ⟨m, -, id, hid, rfl⟩ := h
  exact ⟨m, rfl, id, ClientId.fromStr_str hid, rfl⟩

/-! ### Connection messages -/

theorem MsgConnectionOpenInit.tryFrom_toRaw {raw : RawMsgConnectionOpenInit}
    {msg : MsgConnectionOpenInit} (h : tryFrom alnum raw = .ok msg) :
    tryFrom alnum msg.toRaw = .ok msg := by
  simp only [tryFrom, Result.bind_eq_ok, Result.mapError_eq_ok, Result.okOr_eq_ok,
    Result.pure_eq_ok] at h ⊢
  obtain ⟨_, -, c, hc, _, hempty, id, hid, version, hversion, rfl⟩ := h
  have hversion' : ConnectionVersion.optional version = .ok version := by
    obtain rfl := ConnectionVersion.optional_self hversion
    exact hversion
  refine ⟨_, rfl, c, ConnectionCounterparty.tryFrom_toRaw hc, (), hempty, id,
    ClientId.fromStr_str hid, version, hversion', ?_⟩
  simp [toRaw]

theorem MsgConnectionOpenTry.tryFrom_toRaw {raw : RawMsgConnectionOpenTry}
    {msg : MsgConnectionOpenTry} (h : tryFrom alnum raw = .ok msg) :
    tryFrom alnum msg.toRaw = .ok msg := by
  simp only [tryFrom, Result.bind_eq_ok, Result.mapError_eq_ok, Result.okOr_eq_ok,
    Result.ensure_eq_ok, Result.pure_eq_ok] at h ⊢
  obtain ⟨vs, hvs, -, hne, id, hid, cs, -, _, -, c, hc, p₁, -, p₂, -, p₃, -, hp, hhp, hcons, hhcons,
    rfl⟩ := h
  have hvs' : parseVersions vs = .ok vs := by
    obtain rfl := parseVersions_self hvs
    exact hvs
  refine ⟨vs, hvs', (), hne, id, ClientId.fromStr_str hid, cs, rfl, _, rfl, c,
    ConnectionCounterparty.tryFrom_toRaw hc, p₁, p₁.required_bytes _, p₂, p₂.required_bytes _, p₃,
    p₃.required_bytes _, hp, Height.required_toRaw hhp, hcons, Height.required_toRaw hhcons, ?_⟩
  simp [toRaw]

theorem MsgConnectionOpenAck.tryFrom_toRaw {raw : RawMsgConnectionOpenAck}
    {msg : MsgConnectionOpenAck} (h : tryFrom alnum raw = .ok msg) :
    tryFrom alnum msg.toRaw = .ok msg := by
  simp only [tryFrom, Result.bind_eq_ok, Result.mapError_eq_ok, Result.okOr_eq_ok,
    Result.pure_eq_ok] at h ⊢
  obtain ⟨a, ha, b, hb, cs, -, v₀, -, v, hv, p₁, -, p₂, -, p₃, -, hp, hhp, hcons, hhcons, rfl⟩ := h
  obtain rfl := ConnectionVersion.tryFrom_self hv
  exact ⟨a, ConnectionId.fromStr_str ha, b, ConnectionId.fromStr_str hb, cs, rfl, v₀, rfl, v₀, hv,
    p₁, p₁.required_bytes _, p₂, p₂.required_bytes _, p₃, p₃.required_bytes _, hp,
    Height.required_toRaw hhp, hcons, Height.required_toRaw hhcons, rfl⟩

theorem MsgConnectionOpenConfirm.tryFrom_toRaw {raw : RawMsgConnectionOpenConfirm}
    {msg : MsgConnectionOpenConfirm} (h : tryFrom alnum raw = .ok msg) :
    tryFrom alnum msg.toRaw = .ok msg := by
  simp only [tryFrom, Result.bind_eq_ok, Result.mapError_eq_ok, Result.pure_eq_ok] at h ⊢
  obtain ⟨id, hid, p, -, hp, hhp, rfl⟩ := h
  exact ⟨id, ConnectionId.fromStr_str hid, p, p.required_bytes _, hp, Height.required_toRaw hhp,
    rfl⟩

/-! ### Channel messages -/

/-- The end is the one in `init` without a counterparty channel. -/
theorem MsgChannelOpenInit.tryFrom_toRaw {raw : RawMsgChannelOpenInit} {msg : MsgChannelOpenInit}
    (h : tryFrom alnum raw = .ok msg) : tryFrom alnum msg.toRaw = .ok msg := by
  simp only [tryFrom, Result.bind_eq_ok, Result.mapError_eq_ok, Result.okOr_eq_ok,
    Result.pure_eq_ok] at h ⊢
  obtain ⟨_, -, e, he, _, hst, _, hempty, port, hport, rfl⟩ := h
  have hend : (⟨.init, e.ordering, ⟨e.remote.portId, none⟩, e.connectionHops, e.version⟩ :
      ChannelEnd) = e := by
    rw [← Counterparty.verifyEmptyChannelId_eq_ok.mp hempty,
      ← ChannelEnd.verifyStateMatches_eq_ok.mp hst]
  refine ⟨_, rfl, e, ?_, (), hst, (), hempty, port, PortId.fromStr_str hport, rfl⟩
  rw [hend]
  exact (ChannelEnd.decoded_of_tryFrom he).tryFrom_toRaw

/-- The version of the channel end is what gets lost. -/
theorem MsgChannelOpenTry.tryFrom_toRaw {raw : RawMsgChannelOpenTry} {msg : MsgChannelOpenTry}
    (h : tryFrom alnum raw = .ok msg) :
    tryFrom alnum msg.toRaw = .ok { msg with versionProposal := .empty } := by
  simp only [tryFrom, Result.bind_eq_ok, Result.mapError_eq_ok, Result.okOr_eq_ok,
    Result.ensure_eq_ok, Result.pure_eq_ok] at h ⊢
  obtain ⟨_, -, e, he, -, -, -, -, port, hport, chan, hchan, p, -, hp, hhp, rfl⟩ := h
  have hremote : (⟨e.remote.portId, some chan⟩ : Counterparty) = e.remote := by rw [← hchan]
  have hend : ChannelEnd.Decoded alnum
      ⟨.tryOpen, e.ordering, ⟨e.remote.portId, some chan⟩, e.connectionHops, .empty⟩ :=
    (ChannelEnd.decoded_of_tryFrom he).congr ChannelState.noConfusion hremote rfl rfl
  exact ⟨_, rfl, _, hend.tryFrom_toRaw, (), rfl, (), rfl, port, PortId.fromStr_str hport, chan,
    rfl, p, p.required_bytes _, hp, Height.required_toRaw hhp, rfl⟩

theorem MsgChannelOpenAck.tryFrom_toRaw {raw : RawMsgChannelOpenAck} {msg : MsgChannelOpenAck}
    (h : tryFrom alnum raw = .ok msg) : tryFrom alnum msg.toRaw = .ok msg := by
  simp only [tryFrom, Result.bind_eq_ok, Result.mapError_eq_ok, Result.pure_eq_ok] at h ⊢
  obtain ⟨port, hport, a, ha, b, hb, p, -, hp, hhp, rfl⟩ := h
  exact ⟨port, PortId.fromStr_str hport, a, ChannelId.fromStr_str ha, b, ChannelId.fromStr_str hb,
    p, p.required_bytes _, hp, Height.required_toRaw hhp, rfl⟩

theorem MsgChannelOpenConfirm.tryFrom_toRaw {raw : RawMsgChannelOpenConfirm}
    {msg : MsgChannelOpenConfirm} (h : tryFrom alnum raw = .ok msg) :
    tryFrom alnum msg.toRaw = .ok msg := by
  simp only [tryFrom, Result.bind_eq_ok, Result.mapError_eq_ok, Result.pure_eq_ok] at h ⊢
  obtain ⟨port, hport, chan, hchan, p, -, hp, hhp, rfl⟩ := h
  exact ⟨port, PortId.fromStr_str hport, chan, ChannelId.fromStr_str hchan, p, p.required_bytes _,
    hp, Height.required_toRaw hhp, rfl⟩

theorem MsgChannelCloseInit.tryFrom_toRaw {raw : RawMsgChannelCloseInit} {msg : MsgChannelCloseInit}
    (h : tryFrom alnum raw = .ok msg) : tryFrom alnum msg.toRaw = .ok msg := by
  simp only [tryFrom, Result.bind_eq_ok, Result.mapError_eq_ok, Result.pure_eq_ok] at h ⊢
  obtain ⟨port, hport, chan, hchan, rfl⟩ := h
  exact ⟨port, PortId.fromStr_str hport, chan, ChannelId.fromStr_str hchan, rfl⟩

theorem MsgChannelCloseConfirm.tryFrom_toRaw {raw : RawMsgChannelCloseConfirm}
    {msg : MsgChannelCloseConfirm} (h : tryFrom alnum raw = .ok msg) :
    tryFrom alnum msg.toRaw = .ok msg := by
  simp only [tryFrom, Result.bind_eq_ok, Result.mapError_eq_ok, Result.pure_eq_ok] at h ⊢
  obtain ⟨port, hport, chan, hchan, p, -, hp, hhp, rfl⟩ := h
  exact ⟨port, PortId.fromStr_str hport, chan, ChannelId.fromStr_str hchan, p, p.required_bytes _,
    hp, Height.required_toRaw hhp, rfl⟩

/-! ### Packet messages -/

theorem Packet.required_eq_ok {raw : Option RawPacket} {p : Packet} :
    required alnum raw = .ok p ↔ ∃ r, raw = some r ∧ tryFrom alnum r = .ok p := by
  simp only [required, Result.bind_eq_ok, Result.okOr_eq_ok]

/-- The packet of a message that was read is readable. -/
theorem Packet.Readable.of_required {raw : Option RawPacket} {p : Packet}
    (h : required alnum raw = .ok p) : p.Readable alnum := by
  obtain ⟨_, -, hp⟩ := Packet.required_eq_ok.mp h
  exact readable_of_tryFrom hp

/-- The numbers next to the packet of a message are ones a decoder produces. -/
def PacketMsg.NumbersDecoded : PacketMsg → Prop
  | .recv msg => msg.proofHeightOnA.Decoded
  | .ack msg => msg.proofHeightOnB.Decoded
  | .timeout msg => msg.proofHeightOnB.Decoded ∧
      msg.nextSeqRecvOnB ≠ 0 ∧ msg.nextSeqRecvOnB < UInt64.size
  | .timeoutOnClose msg => msg.proofHeightOnB.Decoded ∧
      msg.nextSeqRecvOnB ≠ 0 ∧ msg.nextSeqRecvOnB < UInt64.size

/-- The messages a decoder produces around a packet. -/
def PacketMsg.Readable (alnum : Char → Bool) (m : PacketMsg) : Prop :=
  m.packet.Readable alnum ∧ m.NumbersDecoded

/-- So is the message around it. -/
theorem MsgRecvPacket.readable_of_tryFrom {raw : RawMsgRecvPacket} {msg : MsgRecvPacket}
    (h : tryFrom alnum raw = .ok msg) : (PacketMsg.recv msg).Readable alnum := by
  simp only [tryFrom, Result.bind_eq_ok, Result.pure_eq_ok, Height.required_eq_ok] at h
  obtain ⟨p, hp, proof, -, height, ⟨-, hheight⟩, rfl⟩ := h
  exact ⟨.of_required hp, hheight⟩

/-- A readable message is written, and read again. -/
theorem MsgRecvPacket.tryFrom_toRaw {msg : MsgRecvPacket}
    (h : (PacketMsg.recv msg).Readable alnum) :
    ∃ raw, (msg.toRaw : Result ε RawMsgRecvPacket) = .ok raw ∧ tryFrom alnum raw = .ok msg := by
  obtain ⟨hp, hheight⟩ : msg.packet.Readable alnum ∧ _ := h
  obtain ⟨raw, hraw, hread⟩ := hp.toRaw (ε := ε)
  refine ⟨_, by rw [toRaw, hraw]; rfl, ?_⟩
  simp only [tryFrom, Result.bind_eq_ok, Result.pure_eq_ok, Height.required_eq_ok,
    Packet.required_eq_ok]
  exact ⟨msg.packet, ⟨raw, rfl, hread⟩, _, msg.proofCommitmentOnA.required_bytes _,
    msg.proofHeightOnA, ⟨rfl, hheight⟩, rfl⟩

theorem MsgAcknowledgement.readable_of_tryFrom {raw : RawMsgAcknowledgement}
    {msg : MsgAcknowledgement} (h : tryFrom alnum raw = .ok msg) :
    (PacketMsg.ack msg).Readable alnum := by
  simp only [tryFrom, Result.bind_eq_ok, Result.pure_eq_ok, Height.required_eq_ok] at h
  obtain ⟨p, hp, ack, -, proof, -, height, ⟨-, hheight⟩, rfl⟩ := h
  exact ⟨.of_required hp, hheight⟩

theorem MsgAcknowledgement.tryFrom_toRaw {msg : MsgAcknowledgement}
    (h : (PacketMsg.ack msg).Readable alnum) :
    ∃ raw, (msg.toRaw : Result ε RawMsgAcknowledgement) = .ok raw ∧
      tryFrom alnum raw = .ok msg := by
  obtain ⟨hp, hheight⟩ : msg.packet.Readable alnum ∧ _ := h
  obtain ⟨raw, hraw, hread⟩ := hp.toRaw (ε := ε)
  refine ⟨_, by rw [toRaw, hraw]; rfl, ?_⟩
  simp only [tryFrom, Result.bind_eq_ok, Result.pure_eq_ok, Height.required_eq_ok,
    Packet.required_eq_ok]
  exact ⟨msg.packet, ⟨raw, rfl, hread⟩, _, msg.acknowledgement.tryFrom_bytes, _,
    msg.proofAckedOnB.required_bytes _, msg.proofHeightOnB, ⟨rfl, hheight⟩, rfl⟩

theorem MsgTimeout.readable_of_tryFrom {raw : RawMsgTimeout} {msg : MsgTimeout}
    (h : tryFrom alnum raw = .ok msg) : (PacketMsg.timeout msg).Readable alnum := by
  simp only [tryFrom, Result.bind_eq_ok, Result.pure_eq_ok, Result.ensure_eq_ok,
    Height.required_eq_ok] at h
  obtain ⟨-, hseq, p, hp, proof, -, height, ⟨-, hheight⟩, rfl⟩ := h
  exact ⟨.of_required hp, hheight, fun h0 => hseq (UInt64.toNat_inj.mp h0),
    raw.nextSequenceRecv.toNat_lt⟩

theorem MsgTimeout.tryFrom_toRaw {msg : MsgTimeout} (h : (PacketMsg.timeout msg).Readable alnum) :
    ∃ raw, (msg.toRaw : Result ε RawMsgTimeout) = .ok raw ∧ tryFrom alnum raw = .ok msg := by
  obtain ⟨hp, hheight, hne, hlt⟩ : msg.packet.Readable alnum ∧ _ := h
  obtain ⟨raw, hraw, hread⟩ := hp.toRaw (ε := ε)
  refine ⟨_, by rw [toRaw, hraw]; rfl, ?_⟩
  simp only [tryFrom, Result.bind_eq_ok, Result.pure_eq_ok, Result.ensure_eq_ok,
    Height.required_eq_ok, Packet.required_eq_ok, toNat_ofNat_word hlt]
  exact ⟨(), ofNat_word_ne_zero hne hlt, msg.packet, ⟨raw, rfl, hread⟩, _,
    msg.proofUnreceivedOnB.required_bytes _, msg.proofHeightOnB, ⟨rfl, hheight⟩, rfl⟩

theorem MsgTimeoutOnClose.readable_of_tryFrom {raw : RawMsgTimeoutOnClose} {msg : MsgTimeoutOnClose}
    (h : tryFrom alnum raw = .ok msg) : (PacketMsg.timeoutOnClose msg).Readable alnum := by
  simp only [tryFrom, Result.bind_eq_ok, Result.pure_eq_ok, Result.ensure_eq_ok,
    Height.required_eq_ok] at h
  obtain ⟨-, hseq, p, hp, proof, -, close, -, height, ⟨-, hheight⟩, rfl⟩ := h
  exact ⟨.of_required hp, hheight, fun h0 => hseq (UInt64.toNat_inj.mp h0),
    raw.nextSequenceRecv.toNat_lt⟩

theorem MsgTimeoutOnClose.tryFrom_toRaw {msg : MsgTimeoutOnClose}
    (h : (PacketMsg.timeoutOnClose msg).Readable alnum) :
    ∃ raw, (msg.toRaw : Result ε RawMsgTimeoutOnClose) = .ok raw ∧
      tryFrom alnum raw = .ok msg := by
  obtain ⟨hp, hheight, hne, hlt⟩ : msg.packet.Readable alnum ∧ _ := h
  obtain ⟨raw, hraw, hread⟩ := hp.toRaw (ε := ε)
  refine ⟨_, by rw [toRaw, hraw]; rfl, ?_⟩
  simp only [tryFrom, Result.bind_eq_ok, Result.pure_eq_ok, Result.ensure_eq_ok,
    Height.required_eq_ok, Packet.required_eq_ok, toNat_ofNat_word hlt]
  exact ⟨(), ofNat_word_ne_zero hne hlt, msg.packet, ⟨raw, rfl, hread⟩, _,
    msg.proofUnreceivedOnB.required_bytes _, _, msg.proofCloseOnB.required_bytes _,
    msg.proofHeightOnB, ⟨rfl, hheight⟩, rfl⟩

/-! ### Envelopes -/

/-- The bytes that a reader takes. -/
theorem decodeVec_eq_ok {Raw α : Type} {c : Proto.Codec Raw} {f : Raw → Except ε α}
    {malformed : ε → MalformedMessage} {bytes : Bytes} {a : α} :
    decodeVec c f malformed bytes = .ok a ↔ ∃ raw, c.decode bytes = some raw ∧ f raw = .ok a := by
  simp only [decodeVec, Result.bind_eq_ok, Result.okOr_eq_ok, Result.mapError_eq_ok]

/-- Reading what was written is decoding the message alone. -/
theorem decodeVec_encode {Raw α : Type} {c : Proto.Codec Raw} {f : Raw → Except ε α}
    {malformed : ε → MalformedMessage} {raw : Raw} {a : α} (h : f raw = .ok a) :
    decodeVec c f malformed (c.encode raw) = .ok a :=
  decodeVec_eq_ok.mpr ⟨raw, c.decode_encode raw, h⟩

end Parts

/-- The messages that some decoder produced. -/
def MsgEnvelope.Accepted (alnum : Char → Bool) : MsgEnvelope → Prop
  | .client (.createClient msg) => ∃ raw, MsgCreateClient.tryFrom raw = .ok msg
  | .client (.updateClient msg) => ∃ raw, MsgUpdateClient.tryFrom alnum raw = .ok msg
  | .client (.upgradeClient msg) => ∃ raw, MsgUpgradeClient.tryFrom alnum raw = .ok msg
  | .client (.misbehaviour msg) => ∃ raw, MsgSubmitMisbehaviour.tryFrom alnum raw = .ok msg
  | .connection (.openInit msg) => ∃ raw, MsgConnectionOpenInit.tryFrom alnum raw = .ok msg
  | .connection (.openTry msg) => ∃ raw, MsgConnectionOpenTry.tryFrom alnum raw = .ok msg
  | .connection (.openAck msg) => ∃ raw, MsgConnectionOpenAck.tryFrom alnum raw = .ok msg
  | .connection (.openConfirm msg) => ∃ raw, MsgConnectionOpenConfirm.tryFrom alnum raw = .ok msg
  | .channel (.openInit msg) => ∃ raw, MsgChannelOpenInit.tryFrom alnum raw = .ok msg
  | .channel (.openTry msg) => ∃ raw, MsgChannelOpenTry.tryFrom alnum raw = .ok msg
  | .channel (.openAck msg) => ∃ raw, MsgChannelOpenAck.tryFrom alnum raw = .ok msg
  | .channel (.openConfirm msg) => ∃ raw, MsgChannelOpenConfirm.tryFrom alnum raw = .ok msg
  | .channel (.closeInit msg) => ∃ raw, MsgChannelCloseInit.tryFrom alnum raw = .ok msg
  | .channel (.closeConfirm msg) => ∃ raw, MsgChannelCloseConfirm.tryFrom alnum raw = .ok msg
  | .packet msg => msg.Readable alnum

/-- What the encoding of a message keeps of it. -/
def MsgEnvelope.written : MsgEnvelope → MsgEnvelope
  | .channel (.openTry msg) => .channel (.openTry { msg with versionProposal := .empty })
  | e => e

section Envelope

variable {prost : Prost} {alnum : Char → Bool} {ε : Type} {a a' : Any} {e e' : MsgEnvelope}

namespace MsgEnvelope

/-- What one reader produces is accepted when what its decoder produces is. -/
theorem read_accepted {ε Raw α : Type} {c : Proto.Codec Raw} {f : Raw → Except ε α}
    {malformed : ε → MalformedMessage} {envelope : α → MsgEnvelope}
    (hf : ∀ raw msg, f raw = .ok msg → (envelope msg).Accepted alnum) (bytes : Bytes)
    (h : read c f malformed envelope bytes = .ok e) : e.Accepted alnum := by
  unfold read at h
  cases hmsg : decodeVec c f malformed bytes with
  | error err =>
    rw [hmsg] at h
    cases h
  | ok msg =>
    rw [hmsg] at h
    cases h
    obtain ⟨raw, -, hraw⟩ := decodeVec_eq_ok.mp hmsg
    exact hf raw msg hraw

/-- Each reader produces accepted messages. -/
theorem readers_accepted : ∀ r ∈ readers prost alnum, ∀ bytes e, r.2 bytes = .ok e →
    e.Accepted alnum := by
  simp only [readers, List.forall_mem_cons, List.not_mem_nil, IsEmpty.forall_iff, implies_true,
    and_true]
  and_intros
  all_goals
    intro bytes e h
    refine read_accepted (fun raw msg hraw => ?_) bytes h
  iterate 14 exact ⟨raw, hraw⟩
  · exact MsgRecvPacket.readable_of_tryFrom hraw
  · exact MsgAcknowledgement.readable_of_tryFrom hraw
  · exact MsgTimeout.readable_of_tryFrom hraw
  · exact MsgTimeoutOnClose.readable_of_tryFrom hraw

/-- So what is read from an `Any` is accepted. -/
theorem accepted_of_tryFrom (h : tryFrom prost alnum a = .ok e) : e.Accepted alnum := by
  unfold tryFrom at h
  split at h
  · next reader hlookup =>
    obtain ⟨before, after, hsplit, -⟩ := List.lookup_eq_some_iff.mp hlookup
    exact readers_accepted (a.typeUrl, reader) (hsplit ▸ List.mem_append_cons_self) a.value e h
  · cases h

/-- A message whose wire form decodes to `msg'` is read back as `msg'`. -/
theorem tryFrom_of_lookup {ε Raw α : Type} {c : Proto.Codec Raw} {f : Raw → Except ε α}
    {malformed : ε → MalformedMessage} {envelope : α → MsgEnvelope} {url : String} {raw : Raw}
    {msg : α} (hlookup : (readers prost alnum).lookup url = some (read c f malformed envelope))
    (hraw : f raw = .ok msg) (he : envelope msg = e) :
    tryFrom prost alnum ⟨url, c.encode raw⟩ = .ok e := by
  subst he
  simp only [tryFrom, hlookup, read, decodeVec_encode hraw]
  rfl

/-- **A message that was accepted is written, and read back as its encoding has it.** -/
theorem Accepted.toAny (prost : Prost) (h : e.Accepted alnum) :
    ∃ b, (e.toAny prost : Result ε Any) = .ok b ∧ tryFrom prost alnum b = .ok e.written := by
  cases e with
  | client m =>
    cases m with
    | createClient msg => exact ⟨_, rfl, tryFrom_of_lookup rfl msg.tryFrom_toRaw rfl⟩
    | updateClient msg =>
      obtain ⟨raw, hraw⟩ := h
      exact ⟨_, rfl, tryFrom_of_lookup rfl (MsgUpdateClient.tryFrom_toRaw hraw) rfl⟩
    | upgradeClient msg =>
      obtain ⟨raw, hraw⟩ := h
      exact ⟨_, rfl, tryFrom_of_lookup rfl (MsgUpgradeClient.tryFrom_toRaw hraw) rfl⟩
    | misbehaviour msg =>
      obtain ⟨raw, hraw⟩ := h
      exact ⟨_, rfl, tryFrom_of_lookup rfl (MsgSubmitMisbehaviour.tryFrom_toRaw hraw) rfl⟩
  | connection m =>
    cases m with
    | openInit msg =>
      obtain ⟨raw, hraw⟩ := h
      exact ⟨_, rfl, tryFrom_of_lookup rfl (MsgConnectionOpenInit.tryFrom_toRaw hraw) rfl⟩
    | openTry msg =>
      obtain ⟨raw, hraw⟩ := h
      exact ⟨_, rfl, tryFrom_of_lookup rfl (MsgConnectionOpenTry.tryFrom_toRaw hraw) rfl⟩
    | openAck msg =>
      obtain ⟨raw, hraw⟩ := h
      exact ⟨_, rfl, tryFrom_of_lookup rfl (MsgConnectionOpenAck.tryFrom_toRaw hraw) rfl⟩
    | openConfirm msg =>
      obtain ⟨raw, hraw⟩ := h
      exact ⟨_, rfl, tryFrom_of_lookup rfl (MsgConnectionOpenConfirm.tryFrom_toRaw hraw) rfl⟩
  | channel m =>
    cases m with
    | openInit msg =>
      obtain ⟨raw, hraw⟩ := h
      exact ⟨_, rfl, tryFrom_of_lookup rfl (MsgChannelOpenInit.tryFrom_toRaw hraw) rfl⟩
    | openTry msg =>
      obtain ⟨raw, hraw⟩ := h
      exact ⟨_, rfl, tryFrom_of_lookup rfl (MsgChannelOpenTry.tryFrom_toRaw hraw) rfl⟩
    | openAck msg =>
      obtain ⟨raw, hraw⟩ := h
      exact ⟨_, rfl, tryFrom_of_lookup rfl (MsgChannelOpenAck.tryFrom_toRaw hraw) rfl⟩
    | openConfirm msg =>
      obtain ⟨raw, hraw⟩ := h
      exact ⟨_, rfl, tryFrom_of_lookup rfl (MsgChannelOpenConfirm.tryFrom_toRaw hraw) rfl⟩
    | closeInit msg =>
      obtain ⟨raw, hraw⟩ := h
      exact ⟨_, rfl, tryFrom_of_lookup rfl (MsgChannelCloseInit.tryFrom_toRaw hraw) rfl⟩
    | closeConfirm msg =>
      obtain ⟨raw, hraw⟩ := h
      exact ⟨_, rfl, tryFrom_of_lookup rfl (MsgChannelCloseConfirm.tryFrom_toRaw hraw) rfl⟩
  | packet m =>
    cases m with
    | recv msg =>
      obtain ⟨raw, hraw, hread⟩ := MsgRecvPacket.tryFrom_toRaw h
      exact ⟨_, by rw [MsgEnvelope.toAny, hraw]; rfl, tryFrom_of_lookup rfl hread rfl⟩
    | ack msg =>
      obtain ⟨raw, hraw, hread⟩ := MsgAcknowledgement.tryFrom_toRaw h
      exact ⟨_, by rw [MsgEnvelope.toAny, hraw]; rfl, tryFrom_of_lookup rfl hread rfl⟩
    | timeout msg =>
      obtain ⟨raw, hraw, hread⟩ := MsgTimeout.tryFrom_toRaw h
      exact ⟨_, by rw [MsgEnvelope.toAny, hraw]; rfl, tryFrom_of_lookup rfl hread rfl⟩
    | timeoutOnClose msg =>
      obtain ⟨raw, hraw, hread⟩ := MsgTimeoutOnClose.tryFrom_toRaw h
      exact ⟨_, by rw [MsgEnvelope.toAny, hraw]; rfl, tryFrom_of_lookup rfl hread rfl⟩

end MsgEnvelope

/-- What is lost is not written in the first place. -/
theorem MsgEnvelope.toAny_written : (e.written.toAny prost : Result ε Any) = e.toAny prost := by
  rcases e with _ | _ | (_ | _) | _ <;> rfl

/-- What is lost is the version of an OpenTry. -/
theorem MsgEnvelope.written_eq_self :
    e.written = e ↔ ∀ msg, e = .channel (.openTry msg) → msg.versionProposal = .empty := by
  constructor
  · rintro h msg rfl
    rw [written, channel.injEq, ChannelMsg.openTry.injEq] at h
    rw [← h]
  · intro h
    rcases e with m | m | (m | msg | m | m | m | m) | m
    case channel.openTry => rw [written, ← h msg rfl]
    all_goals rfl

/-- **Round trips.** An accepted message that is written and read again comes back unless it is a
channel OpenTry with a version for its own end. Two accepted messages have the same type and bytes
to sign exactly when they differ at most in that version. -/
theorem envelope_round_trip (prost : Prost) (alnum : Char → Bool) {a a' : Any} {e e' : MsgEnvelope}
    (h : MsgEnvelope.tryFrom prost alnum a = .ok e)
    (h' : MsgEnvelope.tryFrom prost alnum a' = .ok e') :
    ((∃ b, (e.toAny prost : Result Empty Any) = .ok b ∧
        MsgEnvelope.tryFrom prost alnum b = .ok e) ↔
      ∀ msg, e = .channel (.openTry msg) → msg.versionProposal = .empty) ∧
    ((e.toAny prost : Result Empty Any) = e'.toAny prost ↔ e.written = e'.written) := by
  obtain ⟨b, hb, hread⟩ := (MsgEnvelope.accepted_of_tryFrom h).toAny prost (ε := Empty)
  obtain ⟨b', hb', hread'⟩ := (MsgEnvelope.accepted_of_tryFrom h').toAny prost (ε := Empty)
  refine ⟨?_, ?_⟩
  · rw [← MsgEnvelope.written_eq_self]
    constructor
    · rintro ⟨c, hc, hreadc⟩
      obtain rfl : b = c := Except.ok.inj (hb.symm.trans hc)
      exact Except.ok.inj (hread.symm.trans hreadc)
    · intro hself
      rw [hself] at hread
      exact ⟨b, hb, hread⟩
  · constructor
    · intro heq
      rw [hb, hb', Except.ok.injEq] at heq
      subst heq
      exact Except.ok.inj (hread.symm.trans hread')
    · intro hw
      rw [← MsgEnvelope.toAny_written, hw, MsgEnvelope.toAny_written]

end Envelope

/-! ### An OpenTry with a version -/

namespace CodecRun

/-- A channel OpenTry on the wire, with `version` for the end on this chain. -/
def rawOpenTry (version : String) : RawMsgChannelOpenTry :=
  ⟨"transfer", "", some ⟨2, 1, some ("transfer", "channel-0"), ["connection-0"], version⟩,
    "ics20-1", [0], some ⟨0, 1⟩, "relayer"⟩

def openTry (version : String) : MsgChannelOpenTry :=
  ⟨.transfer, [.new 0], .transfer, .new 0, ⟨"ics20-1"⟩, ⟨[0], List.cons_ne_nil _ _⟩, ⟨0, 1⟩,
    .unordered, ⟨"relayer"⟩, ⟨version⟩⟩

def openTryAny (version : String) : Any :=
  ⟨MsgChannelOpenTry.typeUrl, Prost.wire.chanOpenTry.encode (rawOpenTry version)⟩

theorem tryFrom_rawOpenTry (version : String) :
    MsgChannelOpenTry.tryFrom Char.isAlphanum (rawOpenTry version) = .ok (openTry version) := by
  have hport : PortId.fromStr Char.isAlphanum "transfer" = .ok .transfer :=
    PortId.fromStr_eq_ok.mpr ⟨rfl, by decide⟩
  have hchan : ChannelId.fromStr Char.isAlphanum "channel-0" = .ok (.new 0) :=
    ChannelId.fromStr_eq_ok.mpr ⟨by decide, by decide⟩
  have hconn : ConnectionId.fromStr Char.isAlphanum "connection-0" = .ok (.new 0) :=
    ConnectionId.fromStr_eq_ok.mpr ⟨by decide, by decide⟩
  have hremote : Counterparty.tryFrom Char.isAlphanum ("transfer", "channel-0") =
      .ok ⟨.transfer, some (.new 0)⟩ := by
    simp only [Counterparty.tryFrom, parseOptional, hport, hchan]
    rfl
  have hend : ChannelEnd.tryFrom Char.isAlphanum
      ⟨2, 1, some ("transfer", "channel-0"), ["connection-0"], version⟩ =
      .ok ⟨.tryOpen, .unordered, ⟨.transfer, some (.new 0)⟩, [.new 0], ⟨version⟩⟩ := by
    simp only [ChannelEnd.tryFrom, Result.okOr_some, hremote, parseHops, hconn, Result.ok_bind]
    rfl
  simp only [MsgChannelOpenTry.tryFrom, rawOpenTry, Result.okOr_some, hend, hport, Result.ok_bind]
  rfl

theorem tryFrom_openTryAny (version : String) :
    MsgEnvelope.tryFrom .wire Char.isAlphanum (openTryAny version) =
      .ok (.channel (.openTry (openTry version))) :=
  MsgEnvelope.tryFrom_of_lookup rfl (tryFrom_rawOpenTry version) rfl

end CodecRun

/-- An OpenTry without a version for its own end is read back, and one with a version has the same
bytes to sign. -/
theorem openTry_round_trip :
    (∃ b, ((.channel (.openTry (CodecRun.openTry "")) : MsgEnvelope).toAny .wire :
        Result Empty Any) = .ok b ∧ MsgEnvelope.tryFrom .wire Char.isAlphanum b =
          .ok (.channel (.openTry (CodecRun.openTry "")))) ∧
      ((.channel (.openTry (CodecRun.openTry "")) : MsgEnvelope).toAny .wire : Result Empty Any) =
        (.channel (.openTry (CodecRun.openTry "ics20-1")) : MsgEnvelope).toAny .wire := by
  have h := envelope_round_trip .wire Char.isAlphanum (CodecRun.tryFrom_openTryAny "")
    (CodecRun.tryFrom_openTryAny "ics20-1")
  refine ⟨h.1.mpr ?_, h.2.mpr rfl⟩
  rintro msg ⟨⟩
  rfl

/-- An accepted OpenTry that is not read back: its version is gone. -/
theorem openTry_version_lost :
    ∃ a e b e', MsgEnvelope.tryFrom .wire Char.isAlphanum a = .ok e ∧
      (e.toAny .wire : Result Empty Any) = .ok b ∧
      MsgEnvelope.tryFrom .wire Char.isAlphanum b = .ok e' ∧ e' ≠ e := by
  have hraw := MsgChannelOpenTry.tryFrom_toRaw (CodecRun.tryFrom_rawOpenTry "ics20-1")
  refine ⟨_, _, _, _, CodecRun.tryFrom_openTryAny "ics20-1", rfl,
    MsgEnvelope.tryFrom_of_lookup rfl hraw rfl, ?_⟩
  intro h
  have hversion : ("" : String) = "ics20-1" :=
    congrArg ChannelVersion.str (congrArg MsgChannelOpenTry.versionProposal
      (ChannelMsg.openTry.inj (MsgEnvelope.channel.inj h)))
  exact absurd hversion (by decide)

end Ibc
