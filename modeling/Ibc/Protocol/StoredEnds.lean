import Ibc.Protocol.Bounds
import Ibc.Protocol.RoundTrip
import Ibc.Protocol.Versions

/-!
# Stored ends and their encodings

The encoders of ends lose what they have no room for: the high word of a delay, and everything about
an uninitialized connection. No such end is ever stored by a chain that is given decoded messages:
`ConnectionEnd.Readable` and `ChannelEnd.Decoded` say what a handler stores, each message keeps
them, and an end that has them is read back from its wire form (`stored_ends_read_back`). A host
needs some version of its own for that. Without one a connection is stored that no reader accepts.
-/

namespace Ibc

/-! ### Reading ends back -/

section Parts

variable {alnum : Char → Bool}

/-- Neither the identifier nor a feature is blank. -/
def ConnectionVersion.Nonblank (v : ConnectionVersion) : Prop :=
  trim v.identifier ≠ "" ∧ ∀ feature ∈ v.features, trim feature ≠ ""

theorem ConnectionVersion.tryFrom_eq_ok {raw v : ConnectionVersion} :
    raw.tryFrom = .ok v ↔ raw = v ∧ v.Nonblank := by
  simp only [tryFrom, Result.bind_eq_ok, Result.ensure_eq_ok, Result.pure_eq_ok, Nonblank]
  constructor
  · rintro ⟨-, hid, -, hfeatures, rfl⟩
    exact ⟨rfl, hid, hfeatures⟩
  · rintro ⟨rfl, hid, hfeatures⟩
    exact ⟨(), hid, (), hfeatures, rfl⟩

theorem parseVersions_eq_ok {raws vs : List ConnectionVersion} :
    parseVersions raws = .ok vs ↔ raws = vs ∧ ∀ v ∈ vs, v.Nonblank := by
  induction raws generalizing vs with
  | nil =>
    simp only [parseVersions, Except.ok.injEq]
    constructor
    · rintro rfl
      exact ⟨rfl, by simp⟩
    · exact fun h => h.1
  | cons raw raws ih =>
    simp only [parseVersions, Result.bind_eq_ok, Result.pure_eq_ok, ih,
      ConnectionVersion.tryFrom_eq_ok]
    constructor
    · rintro ⟨v, ⟨rfl, hv⟩, vs, ⟨rfl, hvs⟩, rfl⟩
      exact ⟨rfl, List.forall_mem_cons.mpr ⟨hv, hvs⟩⟩
    · rintro ⟨rfl, hvs⟩
      obtain ⟨hv, hvs⟩ := List.forall_mem_cons.mp hvs
      exact ⟨raw, ⟨rfl, hv⟩, raws, ⟨rfl, hvs⟩, rfl⟩

/-- An optional identifier is read back when it is one its reader validates. -/
theorem parseOptional_str_iff {ε α : Type} (parse : String → Except ε α) {str : α → String}
    (hne : ∀ a, str a ≠ "") {o : Option α} :
    parseOptional parse ((o.map str).getD "") = .ok o ↔ ∀ a ∈ o, parse (str a) = .ok a := by
  cases o with
  | none => simp [parseOptional, pure, Except.pure]
  | some a =>
    rw [Option.map_some, Option.getD_some, parseOptional, if_neg (hne a)]
    cases hparse : parse (str a) <;> simp [hparse]

theorem ConnectionCounterparty.tryFrom_toRaw_iff {c : ConnectionCounterparty} :
    tryFrom alnum c.toRaw = .ok c ↔ ClientId.fromStr alnum c.clientId.str = .ok c.clientId ∧
      (∀ id ∈ c.connectionId, ConnectionId.fromStr alnum id.str = .ok id) ∧ c.pfx.bytes ≠ [] := by
  have hconn := parseOptional_str_iff (ConnectionId.fromStr alnum)
    (fun id : ConnectionId => id.wf.nonempty) (o := c.connectionId)
  have hpfx : CommitmentPrefix.tryFrom c.pfx.bytes = .ok c.pfx ↔ c.pfx.bytes ≠ [] := by
    unfold CommitmentPrefix.tryFrom
    split_ifs with h <;> simp [h]
  rw [← hconn, ← hpfx]
  simp only [tryFrom, toRaw, Result.bind_eq_ok, Result.pure_eq_ok, Result.mapError_eq_ok,
    Result.okOr_some, Except.ok.injEq]
  constructor
  · rintro ⟨conn, hconn, client, hclient, _, rfl, pfx, hpfx, rfl⟩
    exact ⟨hclient, hconn, hpfx⟩
  · rintro ⟨hclient, hconn, hpfx⟩
    exact ⟨_, hconn, _, hclient, _, rfl, _, hpfx, rfl⟩

theorem Counterparty.tryFrom_toRaw_iff {c : Counterparty} :
    tryFrom alnum (c.portId.str, (c.channelId.map ChannelId.str).getD "") = .ok c ↔
      PortId.fromStr alnum c.portId.str = .ok c.portId ∧
        ∀ id ∈ c.channelId, ChannelId.fromStr alnum id.str = .ok id := by
  have hchan := parseOptional_str_iff (ChannelId.fromStr alnum)
    (fun id : ChannelId => id.wf.nonempty) (o := c.channelId)
  rw [← hchan]
  simp only [tryFrom, Result.bind_eq_ok, Result.pure_eq_ok, Result.mapError_eq_ok]
  constructor
  · rintro ⟨chan, hchan, port, hport, rfl⟩
    exact ⟨hport, hchan⟩
  · rintro ⟨hport, hchan⟩
    exact ⟨_, hchan, _, hport, rfl⟩

@[simp] theorem ConnectionState.fromI32_toNat (st : ConnectionState) :
    fromI32 st.toNat = .ok st := by
  cases st <;> rfl

/-- What a connection end has to be to be read back from its wire form. -/
structure ConnectionEnd.Readable (alnum : Char → Bool) (c : ConnectionEnd) : Prop where
  clientId : ClientId.fromStr alnum c.clientId.str = .ok c.clientId
  counterparty : ConnectionCounterparty.tryFrom alnum c.counterparty.toRaw = .ok c.counterparty
  versions_ne : c.versions ≠ []
  versions : ∀ v ∈ c.versions, v.Nonblank
  delay : c.delayPeriod < UInt64.size
  state : c.state ≠ .uninitialized
  single : c.state ≠ .init → c.versions.length = 1

theorem ConnectionEnd.tryFrom_toRaw_iff {c : ConnectionEnd} :
    tryFrom alnum c.toRaw = .ok c ↔ c = .default ∨ c.Readable alnum := by
  by_cases hst : c.state = .uninitialized
  · have hdefault : tryFrom alnum c.toRaw = .ok .default := by
      simp [tryFrom, toRaw, hst]
    rw [hdefault, Except.ok.injEq, eq_comm, or_iff_left fun h => h.state hst]
  · have hne : c ≠ .default := fun h => hst (by rw [h]; rfl)
    have hstate : ConnectionState.fromI32 c.toRaw.state = .ok c.state := c.state.fromI32_toNat
    simp only [tryFrom, hstate, Result.ok_bind, if_neg hst, Result.bind_eq_ok,
      Result.ensure_eq_ok, Result.mapError_eq_ok, Result.okOr_eq_ok, ConnectionEnd.new_eq_ok,
      parseVersions_eq_ok, or_iff_right hne]
    constructor
    · rintro ⟨-, -, -, hversions, id, hid, raw, hraw, cp, hcp, vs, ⟨rfl, hblank⟩, heq, hsingle⟩
      obtain rfl := Option.some.inj hraw
      obtain rfl : c.clientId = id := congrArg clientId heq
      obtain rfl : c.counterparty = cp := congrArg counterparty heq
      have hdelay : c.delayPeriod = c.delayPeriod % UInt64.size := congrArg delayPeriod heq
      have hlt : c.delayPeriod % UInt64.size < UInt64.size := Nat.mod_lt _ (by decide)
      exact ⟨hid, hcp, hversions, hblank, hdelay ▸ hlt, hst, hsingle⟩
    · intro h
      have hdelay : c.toRaw.delayPeriod = c.delayPeriod := Nat.mod_eq_of_lt h.delay
      rw [hdelay]
      exact ⟨(), c.clientId.wf.nonempty, (), h.versions_ne, _, h.clientId, _, rfl, _,
        h.counterparty, _, ⟨rfl, h.versions⟩, rfl, h.single⟩

/-- An end that is read back has a delay of one word. -/
theorem ConnectionEnd.delay_lt_of_tryFrom_toRaw {c : ConnectionEnd}
    (h : tryFrom alnum c.toRaw = .ok c) : c.delayPeriod < UInt64.size := by
  obtain rfl | h := tryFrom_toRaw_iff.mp h
  · decide
  · exact h.delay

/-- Ends whose delays are words have different encodings when they differ. -/
theorem ConnectionEnd.eq_of_encode_eq {c c' : ConnectionEnd} (hd : c.delayPeriod < UInt64.size)
    (hd' : c'.delayPeriod < UInt64.size) (h : c.toRaw.encode = c'.toRaw.encode) : c = c' := by
  obtain ⟨hst, hid, hcp, hvs, hdelay⟩ := toRaw_inj (RawConnectionEnd.encode_inj h)
  rw [Nat.mod_eq_of_lt hd, Nat.mod_eq_of_lt hd'] at hdelay
  obtain ⟨st, id, cp, vs, d⟩ := c
  obtain ⟨st', id', cp', vs', d'⟩ := c'
  simp only at hst hid hcp hvs hdelay
  rw [hst, hid, hcp, hvs, hdelay]

end Parts

/-! ### What the handlers store -/

section Handlers

variable {CS Cons μ : Type} {H : Host CS Cons μ} {s s' : Ctx CS Cons μ} {i : Input Cons μ}
  {alnum : Char → Bool}

/-- The versions of the host are ones that can be read. -/
def Host.VersionsNonblank (H : Host CS Cons μ) : Prop := ∀ v ∈ H.getCompatibleVersions, v.Nonblank

theorem ConnectionVersion.nonblank_of_optional {raw version : Option ConnectionVersion}
    (h : optional raw = .ok version) : ∀ v ∈ version, v.Nonblank := by
  cases raw with
  | none =>
    cases h
    simp
  | some raw =>
    cases hv : raw.tryFrom with
    | error e =>
      rw [optional, hv] at h
      cases h
    | ok v =>
      rw [optional, hv] at h
      cases h
      simpa using (tryFrom_eq_ok.mp hv).2

theorem connOpenInitVersions_nonblank (hver : H.VersionsNonblank) {msg : MsgConnectionOpenInit}
    {versions : List ConnectionVersion} (hmsg : ∀ v ∈ msg.version, v.Nonblank)
    (h : connOpenInitVersions H msg = .ok versions) : ∀ v ∈ versions, v.Nonblank := by
  unfold connOpenInitVersions at h
  split at h
  · next v hv =>
    obtain ⟨_, _, h⟩ := Result.bind_eq_ok.mp h
    cases h
    simpa using hmsg v hv
  · cases h
    exact hver

/-- A picked version keeps the identifier and some features of one the host supports. -/
theorem ConnectionVersion.nonblank_of_pick (hver : H.VersionsNonblank)
    {counterparty : List ConnectionVersion} {v : ConnectionVersion}
    (h : pick H.getCompatibleVersions counterparty = .ok v) : v.Nonblank := by
  obtain ⟨-, before, sv, after, cv, hsplit, -, rfl, -⟩ := pick_eq_ok h
  obtain ⟨hid, hfeatures⟩ := hver sv (hsplit ▸ List.mem_append_cons_self)
  exact ⟨hid, fun f hf => hfeatures f (List.mem_of_mem_filter hf)⟩

theorem MsgConnectionOpenTry.readable_of_tryFrom {raw : RawMsgConnectionOpenTry}
    {msg : MsgConnectionOpenTry} (h : tryFrom alnum raw = .ok msg) :
    ClientId.fromStr alnum msg.clientIdOnB.str = .ok msg.clientIdOnB ∧
      ConnectionCounterparty.tryFrom alnum msg.counterparty.toRaw = .ok msg.counterparty ∧
      msg.delayPeriod < UInt64.size := by
  simp only [tryFrom, Result.bind_eq_ok, Result.mapError_eq_ok, Result.pure_eq_ok] at h
  obtain ⟨_, -, _, -, _, hid, _, -, _, -, _, hcp, _, -, _, -, _, -, _, -, _, -, rfl⟩ := h
  exact ⟨ClientId.fromStr_str hid, ConnectionCounterparty.tryFrom_toRaw hcp,
    raw.delayPeriod.toNat_lt⟩

/-- **What an accepted connection message stores can be read back.** -/
theorem ConnectionMsg.Stores.readable (hver : H.VersionsNonblank)
    (hne : H.getCompatibleVersions ≠ []) {msg : ConnectionMsg} {id : ConnectionId}
    {e : ConnectionEnd} (hmsg : (MsgEnvelope.connection msg).Accepted alnum)
    (hr : ∀ id c, s.store.connection.connections id = some c → c.Readable alnum)
    (h : msg.Stores H s id e) : e.Readable alnum := by
  cases h with
  | openInit hcs hversions =>
    obtain ⟨raw, hraw⟩ := hmsg
    simp only [MsgConnectionOpenInit.tryFrom, Result.bind_eq_ok, Result.mapError_eq_ok,
      Result.pure_eq_ok] at hraw
    obtain ⟨_, -, cp, hcp, _, hempty, id, hid, version, hversion, rfl⟩ := hraw
    -- The counterparty has no connection yet, so the end stores it as it was read.
    have hcp' : (⟨cp.clientId, none, cp.pfx⟩ : ConnectionCounterparty) = cp := by
      rw [← Result.ensure_eq_ok.mp hempty]
    refine ⟨ClientId.fromStr_str hid, ?_, connOpenInitVersions_ne_nil hne hversions,
      connOpenInitVersions_nonblank hver (ConnectionVersion.nonblank_of_optional hversion)
        hversions, raw.delayPeriod.toNat_lt, ConnectionState.noConfusion, fun h => absurd rfl h⟩
    rw [hcp']
    exact ConnectionCounterparty.tryFrom_toRaw hcp
  | openTry _ _ hpick =>
    obtain ⟨raw, hraw⟩ := hmsg
    obtain ⟨hid, hcp, hdelay⟩ := MsgConnectionOpenTry.readable_of_tryFrom hraw
    exact ⟨hid, hcp, List.cons_ne_nil _ _,
      by simpa using ConnectionVersion.nonblank_of_pick hver hpick, hdelay,
      ConnectionState.noConfusion, fun _ => rfl⟩
  | openAck he _ _ _ =>
    obtain ⟨raw, hraw⟩ := hmsg
    simp only [MsgConnectionOpenAck.tryFrom, Result.bind_eq_ok, Result.mapError_eq_ok,
      Result.pure_eq_ok] at hraw
    obtain ⟨a, -, b, hb, cs, -, v₀, -, v, hv, _, -, _, -, _, -, _, -, _, -, rfl⟩ := hraw
    have hstored := hr _ _ he
    obtain ⟨hclient, -, hpfx⟩ := ConnectionCounterparty.tryFrom_toRaw_iff.mp hstored.counterparty
    refine ⟨hstored.clientId, ConnectionCounterparty.tryFrom_toRaw_iff.mpr ⟨hclient, ?_, hpfx⟩,
      List.cons_ne_nil _ _, ?_, hstored.delay, ConnectionState.noConfusion, fun _ => rfl⟩
    · rintro id hid
      cases hid
      exact ConnectionId.fromStr_str hb
    · simpa [ConnectionEnd.opened] using (ConnectionVersion.tryFrom_eq_ok.mp hv).2
  | @openConfirm _ e _ he hs _ _ =>
    have hstored := hr _ _ he
    have hinit : e.state ≠ .init := by
      rw [hs]
      exact ConnectionState.noConfusion
    exact ⟨hstored.clientId, hstored.counterparty, hstored.versions_ne, hstored.versions,
      hstored.delay, ConnectionState.noConfusion, fun _ => hstored.single hinit⟩

/-- **What an accepted channel message stores can be read back.** -/
theorem ChannelMsg.Stores.decoded {msg : ChannelMsg} {key : ChannelKey} {e : ChannelEnd}
    (hmsg : (MsgEnvelope.channel msg).Accepted alnum)
    (hr : ∀ key e, s.store.channel.channels key = some e → e.Decoded alnum)
    (h : msg.Stores H s key e) : e.Decoded alnum := by
  cases h with
  | openInit =>
    obtain ⟨raw, hraw⟩ := hmsg
    simp only [MsgChannelOpenInit.tryFrom, Result.bind_eq_ok, Result.mapError_eq_ok,
      Result.pure_eq_ok] at hraw
    obtain ⟨_, -, e, he, _, -, _, hempty, port, -, rfl⟩ := hraw
    have hremote : (⟨e.remote.portId, none⟩ : Counterparty) = e.remote := by
      rw [← Counterparty.verifyEmptyChannelId_eq_ok.mp hempty]
    exact (ChannelEnd.decoded_of_tryFrom he).congr ChannelState.noConfusion hremote rfl rfl
  | openTry =>
    obtain ⟨raw, hraw⟩ := hmsg
    simp only [MsgChannelOpenTry.tryFrom, Result.bind_eq_ok, Result.mapError_eq_ok,
      Result.okOr_eq_ok, Result.pure_eq_ok] at hraw
    obtain ⟨_, -, e, he, _, -, _, -, port, -, chan, hchan, _, -, _, -, rfl⟩ := hraw
    have hremote : (⟨e.remote.portId, some chan⟩ : Counterparty) = e.remote := by rw [← hchan]
    exact (ChannelEnd.decoded_of_tryFrom he).congr ChannelState.noConfusion hremote rfl rfl
  | openAck he =>
    obtain ⟨raw, hraw⟩ := hmsg
    simp only [MsgChannelOpenAck.tryFrom, Result.bind_eq_ok, Result.mapError_eq_ok,
      Result.pure_eq_ok] at hraw
    obtain ⟨_, -, _, -, b, hb, _, -, _, -, rfl⟩ := hraw
    have hstored := hr _ _ he
    obtain ⟨hport, -⟩ := Counterparty.tryFrom_toRaw_iff.mp hstored.remote
    refine ⟨Counterparty.tryFrom_toRaw_iff.mpr ⟨hport, ?_⟩, hstored.hops, ChannelState.noConfusion,
      hstored.ordering⟩
    rintro id hid
    cases hid
    exact ChannelId.fromStr_str hb
  | openConfirm he => exact (hr _ _ he).congr ChannelState.noConfusion rfl rfl rfl
  | closeInit he => exact (hr _ _ he).congr ChannelState.noConfusion rfl rfl rfl
  | closeConfirm he => exact (hr _ _ he).congr ChannelState.noConfusion rfl rfl rfl

/-! ### Runs on decoded messages -/

/-- The messages that are dispatched were decoded from their wire form. -/
def Input.DecodedBy (prost : Prost) (alnum : Char → Bool) : Input Cons μ → Prop
  | .dispatch msg => ∃ any, MsgEnvelope.tryFrom prost alnum any = .ok msg
  | _ => True

/-- Every stored end can be read back from its wire form. -/
structure Store.EndsReadable (alnum : Char → Bool) (st : Store CS Cons) : Prop where
  connections : ∀ id c, st.connection.connections id = some c → c.Readable alnum
  channels : ∀ key e, st.channel.channels key = some e → e.Decoded alnum

theorem Step.endsReadable {prost : Prost} (iso : H.Isolated) (hver : H.VersionsNonblank)
    (hne : H.getCompatibleVersions ≠ []) (hi : i.DecodedBy prost alnum) (h : Step H i s s')
    (hr : s.store.EndsReadable alnum) : s'.store.EndsReadable alnum where
  connections := by
    refine h.connection_ends (P := fun _ c => c.Readable alnum) iso hr.connections ?_
    rintro msg id c rfl hst
    obtain ⟨any, hany⟩ := hi
    exact hst.readable hver hne (MsgEnvelope.accepted_of_tryFrom hany) hr.connections
  channels := by
    refine h.channel_ends (P := fun _ e => e.Decoded alnum) iso hr.channels ?_ ?_
    · rintro msg key e rfl hst
      obtain ⟨any, hany⟩ := hi
      exact hst.decoded (MsgEnvelope.accepted_of_tryFrom hany) hr.channels
    · intro key e he
      exact he.congr ChannelState.noConfusion rfl rfl rfl

theorem ReachableBy.endsReadable {prost : Prost} (iso : H.Isolated) (hver : H.VersionsNonblank)
    (hne : H.getCompatibleVersions ≠ []) (h : ReachableBy H (Input.DecodedBy prost alnum) s) :
    s.store.EndsReadable alnum := by
  induction h with
  | init s hst _ =>
    rw [hst]
    exact ⟨by simp [Store.empty], by simp [Store.empty]⟩
  | step i _ hi hs ih => exact hs.endsReadable iso hver hne hi ih

/-! ### The ends that proofs are checked against -/

/-- The connection end that a message expects on the other chain. -/
inductive ConnectionMsg.Expects (H : Host CS Cons μ) (s : Ctx CS Cons μ) :
    ConnectionMsg → ConnectionEnd → Prop where
  | openTry (msg : MsgConnectionOpenTry) :
      Expects H s (.openTry msg) ⟨.init, msg.counterparty.clientId,
        ⟨msg.clientIdOnB, none, H.commitmentPrefix⟩, msg.versionsOnA, msg.delayPeriod⟩
  | openAck {msg : MsgConnectionOpenAck} {e : ConnectionEnd}
      (he : s.store.connection.connections msg.connIdOnA = some e) :
      Expects H s (.openAck msg) ⟨.tryOpen, e.counterparty.clientId,
        ⟨e.clientId, some msg.connIdOnA, H.commitmentPrefix⟩, [msg.version], e.delayPeriod⟩
  | openConfirm {msg : MsgConnectionOpenConfirm} {e : ConnectionEnd}
      (he : s.store.connection.connections msg.connIdOnB = some e) :
      Expects H s (.openConfirm msg) ⟨.open, e.counterparty.clientId,
        ⟨e.clientId, some msg.connIdOnB, H.commitmentPrefix⟩, e.versions, e.delayPeriod⟩

/-- The proof of a message is checked against the encoding of the end it expects. -/
theorem ConnectionMsg.Stores.attested {msg : ConnectionMsg} {id : ConnectionId}
    {c x : ConnectionEnd} (h : msg.Stores H s id c) (hx : msg.Expects H s x) :
    ∃ client pfx path, Attested H s.store client pfx path x.toRaw.encode := by
  cases hx with
  | openTry msg =>
    cases h with
    | openTry _ hv => exact ⟨_, _, _, hv⟩
  | openAck he =>
    cases h with
    | openAck he' _ hv =>
      cases he.symm.trans he'
      exact ⟨_, _, _, hv⟩
  | openConfirm he =>
    cases h with
    | openConfirm he' _ _ hv =>
      cases he.symm.trans he'
      exact ⟨_, _, _, hv⟩

/-- The delay of an expected end is that of a decoded message or of a stored end. -/
theorem ConnectionMsg.Expects.delay_lt {msg : ConnectionMsg} {x : ConnectionEnd}
    (hmsg : (MsgEnvelope.connection msg).Accepted alnum)
    (hr : ∀ id c, s.store.connection.connections id = some c → c.Readable alnum)
    (h : msg.Expects H s x) : x.delayPeriod < UInt64.size := by
  cases h with
  | openTry msg =>
    obtain ⟨raw, hraw⟩ := hmsg
    exact (MsgConnectionOpenTry.readable_of_tryFrom hraw).2.2
  | openAck he => exact (hr _ _ he).delay
  | openConfirm he => exact (hr _ _ he).delay

/-- **Stored ends are read back from their wire form.** On a host with at least one version, none of
them blank, this holds in every state that decoded messages lead to. Two channel ends with one
encoding are equal, and a connection end of such a chain that has the encoding of the end a message
expects is that end. -/
theorem stored_ends_read_back {prost : Prost} (iso : H.Isolated) (hver : H.VersionsNonblank)
    (hne : H.getCompatibleVersions ≠ []) (h : ReachableBy H (Input.DecodedBy prost alnum) s) :
    (∀ id c, s.store.connection.connections id = some c →
      ConnectionEnd.tryFrom alnum c.toRaw = .ok c) ∧
    (∀ key e, s.store.channel.channels key = some e → ChannelEnd.tryFrom alnum e.toRaw = .ok e) ∧
    (∀ e e' : ChannelEnd, e.toRaw.encode = e'.toRaw.encode → e = e') ∧
    ∀ msg any, MsgEnvelope.tryFrom prost alnum any = .ok (.connection msg) →
      ∀ id c, msg.Stores H s id c → ∀ x, msg.Expects H s x →
        (∃ client pfx path, Attested H s.store client pfx path x.toRaw.encode) ∧
        ∀ c', ConnectionEnd.tryFrom alnum c'.toRaw = .ok c' → c'.toRaw.encode = x.toRaw.encode →
          c' = x := by
  have hr := h.endsReadable iso hver hne
  refine ⟨fun id c hc => ?_, fun key e he => (hr.channels key e he).tryFrom_toRaw,
    fun e e' henc => ChannelEnd.toRaw_inj.mp (RawChannel.encode_inj henc), ?_⟩
  · exact ConnectionEnd.tryFrom_toRaw_iff.mpr (.inr (hr.connections id c hc))
  · intro msg any hany id c hst x hx
    have hdelay := hx.delay_lt (MsgEnvelope.accepted_of_tryFrom hany) hr.connections
    exact ⟨hst.attested hx, fun c' hc' henc =>
      ConnectionEnd.eq_of_encode_eq (ConnectionEnd.delay_lt_of_tryFrom_toRaw hc') hdelay henc⟩

end Handlers

/-! ### Runs of the mock host -/

/-- An accepted message that its encoding keeps is decoded from it. -/
theorem Input.decodedBy_of_accepted {Cons μ : Type} {alnum : Char → Bool} (prost : Prost)
    {e : MsgEnvelope} (h : e.Accepted alnum) (hw : e.written = e) :
    (Input.dispatch e : Input Cons μ).DecodedBy prost alnum := by
  obtain ⟨any, -, hany⟩ := h.toAny prost (ε := Empty)
  exact ⟨any, hw ▸ hany⟩

namespace MockRun

theorem fromStr_clientId : ClientId.fromStr Char.isAlphanum clientId.str = .ok clientId :=
  ClientId.fromStr_eq_ok.mpr ⟨rfl, by decide⟩

theorem fromStr_connectionId :
    ConnectionId.fromStr Char.isAlphanum connectionId.str = .ok connectionId :=
  ConnectionId.fromStr_eq_ok.mpr ⟨rfl, by decide⟩

theorem fromStr_transfer :
    PortId.fromStr Char.isAlphanum PortId.transfer.str = .ok PortId.transfer :=
  PortId.fromStr_eq_ok.mpr ⟨rfl, by decide⟩

theorem createClient_decoded : createClient.DecodedBy Prost.wire Char.isAlphanum :=
  Input.decodedBy_of_accepted _
    ⟨(⟨some clientState, some consensusState, signer.str⟩ : RawMsgCreateClient), rfl⟩ rfl

theorem connOpenInit_decoded : connOpenInit.DecodedBy Prost.wire Char.isAlphanum := by
  refine Input.decodedBy_of_accepted _
    ⟨⟨clientId.str, some ⟨clientId.str, "", some (Proto.utf8 "ibc")⟩, none, 0, signer.str⟩, ?_⟩ rfl
  have hcp : ConnectionCounterparty.tryFrom Char.isAlphanum
      (ConnectionCounterparty.toRaw ⟨clientId, none, ⟨Proto.utf8 "ibc"⟩⟩) = .ok _ :=
    ConnectionCounterparty.tryFrom_toRaw_iff.mpr ⟨fromStr_clientId, by simp, by decide⟩
  simp only [MsgConnectionOpenInit.tryFrom, Result.bind_eq_ok, Result.mapError_eq_ok,
    Result.pure_eq_ok]
  exact ⟨_, rfl, _, hcp, (), rfl, _, fromStr_clientId, none, rfl, rfl⟩

theorem chanOpenInit_decoded :
    (chanOpenInit .unordered).DecodedBy Prost.wire Char.isAlphanum := by
  refine Input.decodedBy_of_accepted _ ⟨⟨PortId.transfer.str, some ⟨1, 1,
    some (PortId.transfer.str, ""), [connectionId.str], version.str⟩, signer.str⟩, ?_⟩ rfl
  have hend : ChannelEnd.Decoded Char.isAlphanum
      ⟨.init, .unordered, ⟨.transfer, none⟩, [connectionId], version⟩ := by
    refine ⟨Counterparty.tryFrom_toRaw_iff.mpr ⟨fromStr_transfer, by simp⟩, ?_,
      ChannelState.noConfusion, Order.noConfusion⟩
    simp only [List.map_cons, List.map_nil, parseHops, fromStr_connectionId, Result.ok_bind]
    rfl
  simp only [MsgChannelOpenInit.tryFrom, Result.bind_eq_ok, Result.mapError_eq_ok,
    Result.pure_eq_ok]
  exact ⟨_, rfl, _, hend.tryFrom_toRaw, (), rfl, (), rfl, _, fromStr_transfer, rfl⟩

/-- A connection and a channel, each after its first message. -/
def bothInit : List (Input MockConsensusState Unit) :=
  [createClient, connOpenInit, chanOpenInit .unordered]

theorem bothInit_decoded : ∀ i ∈ bothInit, i.DecodedBy Prost.wire Char.isAlphanum := by
  simpa [bothInit] using ⟨createClient_decoded, connOpenInit_decoded, chanOpenInit_decoded⟩

theorem host_versionsNonblank : host.VersionsNonblank := by
  intro v hv
  obtain rfl := List.mem_singleton.mp hv
  exact ⟨by decide, by decide⟩

/-- The mock host without a version of its own. -/
def versionlessHost : Host MockClientState MockConsensusState Unit :=
  { host with getCompatibleVersions := [] }

end MockRun

section Samples

open MockRun

/-- Both ends of the sample chain are read back. -/
theorem init_ends_read_back :
    ∃ s, ReachableBy host (Input.DecodedBy Prost.wire Char.isAlphanum) s ∧
      (∃ c, s.store.connection.connections connectionId = some c ∧ c.versions = [.default] ∧
        ConnectionEnd.tryFrom Char.isAlphanum c.toRaw = .ok c) ∧
      ∃ e, s.store.channel.channels (.transfer, channelId) = some e ∧ e.ordering = .unordered ∧
        ChannelEnd.tryFrom Char.isAlphanum e.toRaw = .ok e := by
  have hrun : (runAll host bothInit start).map (fun s =>
      ((s.store.connection.connections connectionId).map (·.versions),
        (s.store.channel.channels (.transfer, channelId)).map (·.ordering))) =
      some (some [.default], some .unordered) := by decide +kernel
  obtain ⟨s, hs, hends⟩ := Option.map_eq_some_iff.mp hrun
  have hr := ReachableBy.runAll (.init start rfl rfl) bothInit_decoded hs
  obtain ⟨hconn, hchan⟩ := Prod.mk.inj hends
  obtain ⟨c, hc, hversions⟩ := Option.map_eq_some_iff.mp hconn
  obtain ⟨e, he, hordering⟩ := Option.map_eq_some_iff.mp hchan
  obtain ⟨hconnections, hchannels, -⟩ :=
    stored_ends_read_back host_isolated host_versionsNonblank (List.cons_ne_nil _ _) hr
  exact ⟨s, hr, ⟨c, hc, hversions, hconnections _ c hc⟩, e, he, hordering, hchannels _ e he⟩

/-- A host without versions stores, for a message that names none, a connection end without
versions, and nothing reads it back. -/
theorem versionless_end_unreadable :
    versionlessHost.VersionsNonblank ∧
    ∃ s c, ReachableBy versionlessHost (Input.DecodedBy Prost.wire Char.isAlphanum) s ∧
      s.store.connection.connections connectionId = some c ∧
      ConnectionEnd.tryFrom Char.isAlphanum c.toRaw = .error .emptyVersions := by
  have hrun : ((runAll versionlessHost [createClient, connOpenInit] start).bind
      fun s => s.store.connection.connections connectionId) =
      some ⟨.init, clientId, ⟨clientId, none, ⟨Proto.utf8 "ibc"⟩⟩, [], 0⟩ := by decide +kernel
  obtain ⟨s, hs, hc⟩ := Option.bind_eq_some_iff.mp hrun
  have hdecoded : ∀ i ∈ [createClient, connOpenInit],
      i.DecodedBy Prost.wire Char.isAlphanum := by
    simpa using ⟨createClient_decoded, connOpenInit_decoded⟩
  exact ⟨fun v hv => absurd hv List.not_mem_nil, s, _,
    ReachableBy.runAll (.init start rfl rfl) hdecoded hs, hc, rfl⟩

end Samples

end Ibc
