import Ibc.Protocol.Clients
import Ibc.Protocol.Forward
import Ibc.Support.Numbering
import Ibc.Support.Numerals

/-!
# New identifiers are fresh

The handlers that create a connection or a channel do not ask whether its identifier is in use. That
it is not follows over a whole run: the identifiers in use carry numbers below the counter, and each
number is used once (`Store.Numbered`), across all ports and all client types. A client type may
itself end in a dash and digits, so the number of a client is the one behind the last dash.

* `Reachable.storeNumbered`: the store of a reachable state is numbered.
* **`identifiers_fresh`**: so a message that creates a client, a connection or a channel overwrites
  nothing, and a new channel inherits nothing.
-/

namespace Ibc

open Exec

variable {CS Cons μ : Type} {H : Host CS Cons μ} {i : Input Cons μ} {s s' : Ctx CS Cons μ}

/-! ### Numbers in identifiers -/

def ConnectionId.Carries (id : ConnectionId) (n : ℕ) : Prop := id = .new n

/-- The identifier of a channel carries its number, whatever the port. -/
def ChannelKey.Carries (key : ChannelKey) (n : ℕ) : Prop := key.2 = .new n

/-- The identifier of a client carries its number, whatever the client type. -/
def ClientId.Carries (alnum : Char → Bool) (id : ClientId) (n : ℕ) : Prop :=
  ∃ t, ClientId.new alnum t n = .ok id

theorem ConnectionId.Carries.unique (id : ConnectionId) (m n : ℕ) (hm : id.Carries m)
    (hn : id.Carries n) : m = n := ConnectionId.new_inj.mp (hm.symm.trans hn)

theorem ChannelKey.Carries.unique (key : ChannelKey) (m n : ℕ) (hm : ChannelKey.Carries key m)
    (hn : ChannelKey.Carries key n) : m = n := ChannelId.new_inj.mp (hm.symm.trans hn)

theorem ClientId.Carries.unique {alnum : Char → Bool} (id : ClientId) (m n : ℕ)
    (hm : id.Carries alnum m) (hn : id.Carries alnum n) : m = n := by
  obtain ⟨t, ht⟩ := hm
  obtain ⟨t', ht'⟩ := hn
  have hid := (ClientId.new_eq_ok.mp ht).2.1
  have hid' := (ClientId.new_eq_ok.mp ht').2.1
  have hstr := congrArg String.toList (hid.symm.trans hid')
  simp only [String.toList_append, List.append_assoc] at hstr
  have hsplit := (List.append_cons_inj_last (Numeral.notMem_toString (by decide) m)
    (Numeral.notMem_toString (by decide) n)).mp hstr
  exact Numeral.toString_injective (String.toList_inj.mp hsplit.2)

/-! ### Numbered stores -/

/-- Something is stored about the client. -/
def ClientStore.Keeps (c : ClientStore CS Cons) (id : ClientId) : Prop :=
  c.about id ≠ (none, fun _ => none, fun _ => none)

/-- All identifiers in use carry numbers that were given out, each number once. -/
structure Store.Numbered (alnum : Char → Bool) (st : Store CS Cons) : Prop where
  clients : CountedNames (ClientId.Carries alnum) st.client.Keeps st.client.clientIdsCounter
  connections : CountedNames ConnectionId.Carries (fun id => st.connection.connections id ≠ none)
    st.connection.connectionIdsCounter
  channels : CountedNames ChannelKey.Carries (fun key => st.channel.channels key ≠ none)
    st.channel.channelIdsCounter

/-- The light client keeps to the record it is called for, and leaves no part of a client that it
fails to create. -/
structure LightClient.Contained (L : LightClient CS Cons) : Prop extends L.Local where
  initialise_fails : ∀ cs id cons c, Ensures (L.initialise cs id cons) c fun r c' =>
    r ≠ .ok () → c' = c

/-- What a step does to the names of clients: none is added, or the next one. -/
inductive ClientStore.Grows (alnum : Char → Bool) (c c' : ClientStore CS Cons) : Prop where
  | keeps (hn : c'.clientIdsCounter = c.clientIdsCounter) (hk : ∀ id, c'.Keeps id → c.Keeps id)
  | creates (id : ClientId) (hid : id.Carries alnum c.clientIdsCounter)
      (hn : c'.clientIdsCounter = c.clientIdsCounter + 1)
      (ho : ∀ other, other ≠ id → c'.about other = c.about other)

theorem ClientStore.Grows.refl {alnum : Char → Bool} {c : ClientStore CS Cons} : c.Grows alnum c :=
  .keeps rfl fun _ h => h

theorem ClientStore.Keeps.congr {c c' : ClientStore CS Cons} {id : ClientId}
    (h : c'.about id = c.about id) : c'.Keeps id ↔ c.Keeps id := by
  rw [Keeps, Keeps, h]

theorem ClientStore.keeps_of_clientState {c : ClientStore CS Cons} {id : ClientId} {cs : CS}
    (h : c.clients.clientState id = some cs) : c.Keeps id := by
  intro habout
  have hnone : c.clients id = none := congrArg Prod.fst habout
  rw [Clients.clientState, hnone] at h
  cases h

/-- Only the named client is written, and it was there. -/
theorem ClientStore.Grows.of_named {alnum : Char → Bool} {c c' : ClientStore CS Cons}
    {id : ClientId} (hid : c.Keeps id) (hn : c'.clientIdsCounter = c.clientIdsCounter)
    (ho : ∀ other, other ≠ id → c'.about other = c.about other) : c.Grows alnum c' := by
  refine .keeps hn fun other hother => ?_
  by_cases h : other = id
  · rwa [h]
  · rwa [← Keeps.congr (ho other h)]

theorem ClientStore.Grows.numbering {alnum : Char → Bool} {c c' : ClientStore CS Cons}
    (h : c.Grows alnum c') (hc : CountedNames (ClientId.Carries alnum) c.Keeps c.clientIdsCounter) :
    CountedNames (ClientId.Carries alnum) c'.Keeps c'.clientIdsCounter := by
  cases h with
  | keeps hn hk => exact hc.mono hk hn.ge
  | creates id hid hn ho =>
    rw [hn]
    refine hc.insert ClientId.Carries.unique hid fun other hother => ?_
    by_cases h : other = id
    · exact .inr h
    · exact .inl ((Keeps.congr (ho other h)).mp hother)

/-! ### Client messages -/

theorem storeUpdateTimes_counter (id : ClientId) (heights : List Height) (t : Timestamp)
    (h : Height) (c : ClientStore CS Cons) :
    (storeUpdateTimes id heights t h c).clientIdsCounter = c.clientIdsCounter := by
  induction heights generalizing c with
  | nil => rfl
  | cons height heights ih => exact ih _

theorem newClientId_carries {cs : CS} {id : ClientId} (h : newClientId H s cs = .ok id) :
    id.Carries H.library.isAlphanumeric s.store.client.clientIdsCounter :=
  ⟨_, Result.mapError_eq_ok.mp h⟩

/-- Creating a client moves the counter on, or fails and leaves the client store as it was. -/
theorem createClient_counter (hL : H.lightClient.Contained) (msg : MsgCreateClient) :
    Ensures (createClientExecute H msg) s fun r s' => r.Returns →
      s'.store.client = s.store.client ∨
        s'.store.client.clientIdsCounter = s.store.client.clientIdsCounter + 1 := by
  unfold createClientExecute
  refine ensures_read_bind (Ensures.ofResult_bind (fun _ _ _ => .inl rfl) fun cs _ => ?_)
  refine Ensures.ofExcept_bind (fun _ _ _ => .inl rfl) fun id _ => ?_
  refine ensures_runClient ?_ (fun _ _ h => absurd h Result.not_returns_panic) fun _ c _ => ?_
  · intro e c hfail _
    have hc := hL.initialise_fails cs id msg.consensusState s.store.client.clients
    rw [Ensures, hfail] at hc
    have hsame : c = s.store.client.clients := hc (by intro h; cases h)
    left
    rw [hsame]
    rfl
  · refine ensures_write_bind (ensures_write_bind ?_)
    refine increaseClientCounter_ensures (fun _ h => absurd h Result.not_returns_panic) ?_
    exact fun _ => .inr rfl

theorem updateClient_counter (msg : MsgUpdateOrMisbehaviour) :
    Preserves (fun s => s.store.client.clientIdsCounter) (updateClientExecute H msg) := by
  refine Preserves.read_bind fun s => Preserves.ofResult_bind fun cs =>
    Preserves.ofResult_bind fun found => ?_
  refine Preserves.ite ?_ (Preserves.ofResult_bind fun _ => ?_)
  · refine Preserves.bind (fun _ => rfl) fun _ => ?_
    exact Preserves.write_bind (fun _ => rfl) <| preserves_write fun _ => rfl
  · refine Preserves.bind (fun _ => rfl) fun heights => ?_
    refine Preserves.write_bind (fun _ => storeUpdateTimes_counter _ _ _ _ _) <|
      Preserves.ofResult_bind fun height => ?_
    exact Preserves.write_bind (fun _ => rfl) <| preserves_write fun _ => rfl

theorem upgradeClient_counter (msg : MsgUpgradeClient) :
    Preserves (fun s => s.store.client.clientIdsCounter) (upgradeClientExecute H msg) := by
  refine Preserves.read_bind fun s => Preserves.ofResult_bind fun cs => ?_
  refine Preserves.bind (fun _ => rfl) fun _ => ?_
  exact Preserves.write_bind (fun _ => rfl) <| preserves_write fun _ => rfl

theorem dispatch_client_grows (hL : H.lightClient.Contained) (msg : ClientMsg) :
    Ensures (dispatch H (.client msg)) s fun r s' => r.Returns →
      s.store.client.Grows H.library.isAlphanumeric s'.store.client := by
  unfold dispatch
  refine ensures_read_bind (Ensures.ofResult_bind (fun _ _ _ => .refl) fun _ hv => ?_)
  -- A message that names a client was validated against its client state.
  have hnamed {id : ClientId} (hid : msg.clientOf = some id) : s.store.client.Keeps id := by
    obtain ⟨cs, hactive⟩ := ClientMsg.validate_active hid hv
    exact ClientStore.keeps_of_clientState hactive.client
  cases msg with
  | createClient msg =>
    obtain ⟨cs, new, hcs, hnew, -⟩ := createClientValidate_eq_ok hv
    intro hr
    rcases createClient_counter hL msg hr with heq | hn
    · exact .keeps (congrArg _ heq) fun id h => heq ▸ h
    · exact .creates new (newClientId_carries hnew) hn fun other hne =>
        createClient_about hL.toLocal hcs hnew hne
  | updateClient msg | misbehaviour msg =>
    intro _
    exact .of_named (hnamed rfl) (updateClient_counter msg.toUpdate s) fun other hne =>
      updateClient_about hL.toLocal msg.toUpdate hne s
  | upgradeClient msg =>
    intro _
    exact .of_named (hnamed rfl) (upgradeClient_counter msg s) fun other hne =>
      upgradeClient_about hL.toLocal msg hne s

theorem Step.client_grows (iso : H.Isolated) (hL : H.lightClient.Contained) (h : Step H i s s') :
    s.store.client.Grows H.library.isAlphanumeric s'.store.client := by
  by_cases hi : i.isClient = true
  · obtain ⟨msg, rfl⟩ := Input.isClient_eq_true.mp hi
    obtain ⟨r, hrun, hr⟩ := h
    have hgrows := dispatch_client_grows hL (s := s) msg
    rw [Ensures, show dispatch H (.client msg) s = (r, s') from hrun] at hgrows
    exact hgrows hr
  · rw [h.client_eq iso (by simpa using hi)]
    exact .refl

/-! ### Every reachable store is numbered -/

theorem Step.connection_numbering (iso : H.Isolated) (h : Step H i s s')
    (hc : CountedNames ConnectionId.Carries (fun id => s.store.connection.connections id ≠ none)
      s.store.connection.connectionIdsCounter) :
    CountedNames ConnectionId.Carries (fun id => s'.store.connection.connections id ≠ none)
      s'.store.connection.connectionIdsCounter := by
  obtain heq | ⟨msg, id, e, -, hst, hconns, hn, -⟩ := h.connections iso
  · rwa [heq]
  have hused : ∀ id', s'.store.connection.connections id' ≠ none →
      s.store.connection.connections id' ≠ none ∨ id' = id := by
    intro id' hid'
    by_cases hid : id' = id
    · exact .inr hid
    · rw [hconns, Function.update_of_ne hid] at hid'
      exact .inl hid'
  obtain ⟨rfl, hopened, -⟩ | ⟨e₀, he₀, -⟩ := hst.replaces
  · rw [hn, hopened]
    exact hc.insert ConnectionId.Carries.unique rfl hused
  · refine hc.mono (fun id' hid' => ?_) (hn ▸ Nat.le_add_right _ _)
    rcases hused id' hid' with h | rfl
    · exact h
    · rw [he₀]
      exact Option.some_ne_none e₀

theorem Effect.channel_numbering (heff : Effect H i s s')
    (hc : CountedNames ChannelKey.Carries (fun key => s.store.channel.channels key ≠ none)
      s.store.channel.channelIdsCounter) :
    CountedNames ChannelKey.Carries (fun key => s'.store.channel.channels key ≠ none)
      s'.store.channel.channelIdsCounter := by
  rcases heff.channels_grow with ⟨hn, hk⟩ | ⟨port, hn, hk⟩
  · exact hc.mono hk hn.ge
  · rw [hn]
    exact hc.insert ChannelKey.Carries.unique (k := (port, .new _)) rfl hk

theorem Step.storeNumbered (iso : H.Isolated) (hL : H.lightClient.Contained) (h : Step H i s s')
    (hst : s.store.Numbered H.library.isAlphanumeric) :
    s'.store.Numbered H.library.isAlphanumeric where
  clients := (h.client_grows iso hL).numbering hst.clients
  connections := h.connection_numbering iso hst.connections
  channels := (h.effect iso).channel_numbering hst.channels

/-- **The store of a reachable state is numbered.** -/
theorem Reachable.storeNumbered (iso : H.Isolated) (hL : H.lightClient.Contained)
    (h : Reachable H s) : s.store.Numbered H.library.isAlphanumeric := by
  induction h with
  | init s hst =>
    rw [hst]
    exact ⟨.of_unused fun _ hk => hk rfl, .of_unused fun _ hk => hk rfl,
      .of_unused fun _ hk => hk rfl⟩
  | step i _ hs ih => exact hs.storeNumbered iso hL ih

/-! ### Creating overwrites nothing -/

/-- Whether the message creates a client, a connection or a channel. -/
def MsgEnvelope.creates : MsgEnvelope → Bool
  | .client (.createClient _) => true
  | .connection (.openInit _) => true
  | .connection (.openTry _) => true
  | .channel (.openInit _) => true
  | .channel (.openTry _) => true
  | _ => false

/-- All that is stored stays as it is, and a channel that is new has no packets. -/
structure Store.Extends (st st' : Store CS Cons) : Prop where
  client : ∀ id, st.client.Keeps id → st'.client.about id = st.client.about id
  connection : ∀ id e, st.connection.connections id = some e →
    st'.connection.connections id = some e
  channel : ∀ key e, st.channel.channels key = some e → st'.channel.channels key = some e
  nextSend : ∀ key n, st.channel.nextSequenceSend key = some n →
    st'.channel.nextSequenceSend key = some n
  nextRecv : ∀ key n, st.channel.nextSequenceRecv key = some n →
    st'.channel.nextSequenceRecv key = some n
  nextAck : ∀ key n, st.channel.nextSequenceAck key = some n →
    st'.channel.nextSequenceAck key = some n
  inherits : ∀ key e, st.channel.channels key = none → st'.channel.channels key = some e →
    ∀ seq, st'.channel.packetCommitment (key.1, key.2, seq) = none ∧
      st'.channel.packetReceipt (key.1, key.2, seq) = none ∧
      st'.channel.packetAcknowledgement (key.1, key.2, seq) = none

section Creates

variable {msg : MsgEnvelope}

theorem dispatch_createClient_about (hL : H.lightClient.Contained)
    (hnum : s.store.Numbered H.library.isAlphanumeric) (msg : MsgCreateClient) {id : ClientId}
    (hid : s.store.client.Keeps id) :
    Ensures (dispatch H (.client (.createClient msg))) s fun _ s' =>
      s'.store.client.about id = s.store.client.about id := by
  refine dispatch_client_about hL.toLocal ?_
  rintro ⟨cs, -, hnew⟩
  exact hnum.clients.next_unused ClientId.Carries.unique (newClientId_carries hnew) hid

theorem Step.client_extends (iso : H.Isolated) (hL : H.lightClient.Contained)
    (hnum : s.store.Numbered H.library.isAlphanumeric) (hmsg : msg.creates = true)
    (h : Step H (.dispatch msg) s s') {id : ClientId} (hid : s.store.client.Keeps id) :
    s'.store.client.about id = s.store.client.about id := by
  rcases msg with (m | m | m | m) | _ | _ | _ <;> try cases hmsg
  · obtain ⟨r, hrun, -⟩ := h
    have habout := dispatch_createClient_about hL hnum m hid
    rwa [Ensures, show dispatch H (.client (.createClient m)) s = (r, s') from hrun] at habout
  all_goals rw [h.client_eq iso rfl]

/-- An entry that is added where there was none keeps the others. -/
theorem update_keeps {K α : Type} [DecidableEq K] {f : K → Option α} {k k' : K} {a : α}
    (hk : f k = none) (x : Option α) (h : f k' = some a) : Function.update f k x k' = some a := by
  rw [Function.update_of_ne, h]
  rintro rfl
  rw [hk] at h
  cases h

theorem Step.connection_extends (iso : H.Isolated)
    (hnum : s.store.Numbered H.library.isAlphanumeric) (hmsg : msg.creates = true)
    (h : Step H (.dispatch msg) s s') {id : ConnectionId} {e : ConnectionEnd}
    (he : s.store.connection.connections id = some e) :
    s'.store.connection.connections id = some e := by
  obtain heq | ⟨msg', id', e', hi, hst, hconns, -⟩ := h.connections iso
  · rwa [heq]
  cases hi
  have hnew : id' = .new s.store.connection.connectionIdsCounter := by
    cases hst with
    | openInit | openTry => rfl
    | openAck | openConfirm => cases hmsg
  rw [hconns]
  have hunused := hnum.connections.next_unused ConnectionId.Carries.unique hnew
  exact update_keeps (not_not.mp hunused) _ he

theorem Step.channel_extends (iso : H.Isolated)
    (hnum : s.store.Numbered H.library.isAlphanumeric) (hmsg : msg.creates = true)
    (h : Step H (.dispatch msg) s s') {key : ChannelKey} {e : ChannelEnd}
    (he : s.store.channel.channels key = some e) : s'.store.channel.channels key = some e := by
  obtain heq | ⟨msg', key', e', hi, hst, hchans⟩ | ⟨msg', hi, -⟩ := h.channels iso
  · rwa [heq]
  · cases hi
    have hnew : ChannelKey.Carries key' s.store.channel.channelIdsCounter := by
      cases hst with
      | openInit | openTry => rfl
      | openAck | openConfirm | closeInit | closeConfirm => cases hmsg
    rw [hchans]
    have hunused := hnum.channels.next_unused ChannelKey.Carries.unique hnew
    exact update_keeps (not_not.mp hunused) _ he
  · cases hi
    cases hmsg

/-- What a message that creates something does to channels and packets: nothing, a new channel, or
an end stored over another. -/
theorem Step.channelStore_cases (iso : H.Isolated) (hmsg : msg.creates = true)
    (h : Step H (.dispatch msg) s s') : s'.store.channel = s.store.channel ∨
      (∃ port e, s'.store.channel =
        s.store.channel.openAt (port, .new s.store.channel.channelIdsCounter) e) ∨
      ∃ key e e', s.store.channel.channels key = some e ∧
        s'.store.channel = s.store.channel.storeChannel key e' := by
  have hpacket : (Input.dispatch msg : Input Cons μ).packet = none := by
    cases msg with
    | packet => cases hmsg
    | client | connection | channel => rfl
  cases h.effect iso with
  | quiet hc => exact .inl hc
  | application _ _ hi => cases hi
  | opens port e _ hc => exact .inr (.inl ⟨port, e, hc⟩)
  | moves key e e' he _ hc => exact .inr (.inr ⟨key, e, e', he, hc⟩)
  | sends _ _ _ hi => cases hi
  | receives _ _ _ _ _ _ hp | acknowledges _ _ _ _ _ _ _ _ hp | timesOut _ _ _ _ _ _ _ hp =>
    rw [hpacket] at hp
    cases hp

/-- A new channel keeps the sequences of the others, and has no packets. -/
theorem ChannelStore.openAt_extends {c : ChannelStore} {history : List Action} {new : ChannelKey}
    (hempty : c.view history new = .empty) (e : ChannelEnd) :
    (∀ key n, c.nextSequenceSend key = some n → (c.openAt new e).nextSequenceSend key = some n) ∧
    (∀ key n, c.nextSequenceRecv key = some n → (c.openAt new e).nextSequenceRecv key = some n) ∧
    (∀ key n, c.nextSequenceAck key = some n → (c.openAt new e).nextSequenceAck key = some n) ∧
    ∀ key, c.channels key = none → (c.openAt new e).channels key ≠ none →
      ∀ seq, c.packetCommitment (key.1, key.2, seq) = none ∧
        c.packetReceipt (key.1, key.2, seq) = none ∧
        c.packetAcknowledgement (key.1, key.2, seq) = none := by
  have hsend : c.nextSequenceSend new = none := congrArg ChannelView.nextSend hempty
  have hrecv : c.nextSequenceRecv new = none := congrArg ChannelView.nextRecv hempty
  have hack : c.nextSequenceAck new = none := congrArg ChannelView.nextAck hempty
  refine ⟨fun _ _ => update_keeps hsend _, fun _ _ => update_keeps hrecv _,
    fun _ _ => update_keeps hack _, fun key hkey hnew seq => ?_⟩
  obtain rfl : key = new := by
    by_contra hne
    exact hnew (by simpa [ChannelStore.openAt, hne] using hkey)
  exact ⟨congrFun (congrArg ChannelView.commitment hempty) seq,
    congrFun (congrArg ChannelView.receipt hempty) seq,
    congrFun (congrArg ChannelView.ack hempty) seq⟩

theorem Step.extends (iso : H.Isolated) (hL : H.lightClient.Contained) (hr : Reachable H s)
    (hmsg : msg.creates = true) (h : Step H (.dispatch msg) s s') : s.store.Extends s'.store := by
  have hnum := hr.storeNumbered iso hL
  have hclient : ∀ id, s.store.client.Keeps id →
      s'.store.client.about id = s.store.client.about id :=
    fun _ => h.client_extends iso hL hnum hmsg
  have hconnection : ∀ id e, s.store.connection.connections id = some e →
      s'.store.connection.connections id = some e :=
    fun _ _ => h.connection_extends iso hnum hmsg
  have hchannel : ∀ key e, s.store.channel.channels key = some e →
      s'.store.channel.channels key = some e :=
    fun _ _ => h.channel_extends iso hnum hmsg
  rcases h.channelStore_cases iso hmsg with hc | ⟨port, e', hc⟩ | ⟨key', e₀, e', he₀, hc⟩
  · refine ⟨hclient, hconnection, hchannel, ?_, ?_, ?_, fun key e hkey he => ?_⟩
    iterate 3 exact hc ▸ fun _ _ h => h
    rw [hc, hkey] at he
    cases he
  · have hempty := ChannelView.Life.eq_empty (hr.life iso _) ((hr.numbered iso).next_absent port)
    obtain ⟨hsend, hrecv, hack, hblank⟩ := ChannelStore.openAt_extends hempty e'
    rw [← hc] at hsend hrecv hack hblank
    refine ⟨hclient, hconnection, hchannel, hsend, hrecv, hack, fun key e hkey he => ?_⟩
    have hpackets := hblank key hkey (by rw [he]; exact Option.some_ne_none e)
    rw [hc]
    exact hpackets
  · refine ⟨hclient, hconnection, hchannel, ?_, ?_, ?_, fun key e hkey he => ?_⟩
    iterate 3 exact hc ▸ fun _ _ h => h
    -- An end that is stored over another is not new.
    have hk : key ≠ key' := by
      rintro rfl
      rw [hkey] at he₀
      cases he₀
    rw [hc] at he
    simp [ChannelStore.storeChannel, hk, hkey] at he

end Creates

/-- **Identifiers are fresh.** The identifiers in use carry numbers that were given out, each number
once; and creating a client, a connection or a channel overwrites and inherits nothing. -/
theorem identifiers_fresh (iso : H.Isolated) (hL : H.lightClient.Contained) (hr : Reachable H s) :
    s.store.Numbered H.library.isAlphanumeric ∧
      ∀ msg s', msg.creates = true → Step H (.dispatch msg) s s' → s.store.Extends s'.store :=
  ⟨hr.storeNumbered iso hL, fun _ _ hmsg h => h.extends iso hL hr hmsg⟩

/-! ### The light clients of the repository -/

theorem mockClient_contained (codec : MockCodec) : (mockClient codec).Contained where
  initialise cs id cons other hne := by
    refine Preserves.ofExcept_bind fun cons _ => ?_
    exact Preserves.write_bind (fun _ => Function.update_of_ne hne _ _) <|
      preserves_write fun _ => Function.update_of_ne hne _ _
  updateState cs id msg other hne := by
    refine Preserves.ofExcept_bind fun header _ => ?_
    exact Preserves.write_bind (fun _ => Function.update_of_ne hne _ _) <|
      Preserves.write_bind (fun _ => Function.update_of_ne hne _ _) <| preserves_pure _
  updateStateOnMisbehaviour cs id msg kind other hne :=
    preserves_write fun _ => Function.update_of_ne hne _ _
  updateStateOnUpgrade cs id upgraded cons other hne := by
    refine Preserves.ofResult_bind fun cs => Preserves.ofExcept_bind fun cons _ => ?_
    exact Preserves.write_bind (fun _ => Function.update_of_ne hne _ _) <|
      Preserves.write_bind (fun _ => Function.update_of_ne hne _ _) <| preserves_pure _
  initialise_fails cs id cons c := by
    refine Ensures.ofExcept_bind (fun _ _ _ => rfl) fun cons _ => ?_
    exact fun h => absurd rfl h

/-- A further channel of the mock host leaves the one that is open. -/
theorem second_channel_fresh : ∃ s s' msg, Reachable MockRun.host s ∧ msg.creates = true ∧
    Step MockRun.host (.dispatch msg) s s' ∧
    s.store.channel.channels (.transfer, .new 0) ≠ none ∧
    s.store.channel.channelIdsCounter = 1 ∧ s'.store.channel.channelIdsCounter = 2 ∧
    s.store.Numbered MockRun.host.library.isAlphanumeric ∧ s.store.Extends s'.store := by
  let msg : MsgEnvelope := .channel (.openInit ⟨.transfer, [MockRun.connectionId], .transfer,
    .unordered, MockRun.signer, MockRun.version⟩)
  obtain ⟨s, hr, h⟩ := Reachable.exists_of_runAll (H := MockRun.host) (s := MockRun.start)
    (MockRun.opening .unordered)
    (fun s => ((s.store.channel.channels (.transfer, .new 0)).isSome,
      s.store.channel.channelIdsCounter, (dispatch MockRun.host msg s).1,
      (dispatch MockRun.host msg s).2.store.channel.channelIdsCounter))
    rfl rfl (by decide +kernel : _ = some (true, 1, .ok (), 2))
  simp only [Prod.mk.injEq] at h
  obtain ⟨hsome, hcount, hok, hcount'⟩ := h
  have hstep : Step MockRun.host (.dispatch msg) s (dispatch MockRun.host msg s).2 :=
    ⟨.ok (), Prod.ext hok rfl, Result.returns_ok⟩
  have hfresh := identifiers_fresh MockRun.host_isolated (mockClient_contained MockRun.codec) hr
  exact ⟨s, _, msg, hr, rfl, hstep, Option.isSome_iff_ne_none.mp hsome, hcount, hcount', hfresh.1,
    hfresh.2 msg _ rfl hstep⟩

end Ibc
