import Ibc.Transfer.World

/-!
# Vouchers are covered

Tokens that went over a channel are in its escrow account, as long as vouchers for them exist or
packets with them are under way: **`escrow_covers_vouchers`**. Two things make it so. On each chain
the bank agrees with what happened there (`TransferWorld.balanced`), and between the two each packet
is settled once (`Tracked.settles`).

It is for messages whose packets have timeouts that a decoder produces. Without this a relayer can
time out a packet that was received (`epoch_timeout_uncovered`).
-/

namespace Ibc

open Settlement

variable {CS Cons μ CS' Cons' μ' Account Account' : Type} [DecidableEq Account]
  [DecidableEq Account'] {A : TransferChain CS Cons Account μ}
  {B : TransferChain CS' Cons' Account' μ'}

omit [DecidableEq Account] [DecidableEq Account'] in
/-- Chains that read packet data alike find the same amounts in packets. -/
theorem TransferHost.amount_congr {T : TransferHost Account μ} {T' : TransferHost Account' μ'}
    (hjson : T'.json = T.json) (halnum : T'.isAlphanumeric = T.isAlphanumeric) :
    T'.amount = T.amount := by
  have hdata : T'.packetData = T.packetData := by
    funext bytes
    rw [packetData, packetData, hjson, halnum]
  funext d p
  rw [amount, amount, hdata]

section Solvency

variable {okA : Input Cons μ → Prop} {okB : Input Cons' μ' → Prop}
  {w : Duo (Ctx CS Cons μ) (Ctx CS' Cons' μ')}

/-- The bank of a chain agrees with what happened since it had no vouchers. -/
theorem TransferWorld.balanced (h : (transferWorld A B okA okB).Reachable w) :
    ∃ a, (∀ d : PrefixedDenom, d.tracePath.prefixes ≠ [] → (A.ledger a).supply d = 0) ∧
      A.Balanced a w.left.app w.left.history := by
  refine h.lefts_invariant (I := fun s =>
    ∃ a, (∀ d : PrefixedDenom, d.tracePath.prefixes ≠ [] → (A.ledger a).supply d = 0) ∧
      A.Balanced a s.app s.history) ?_ ?_ _ w.left_mem_lefts
  · intro s hs
    refine ⟨s.app, hs.vouchers, ?_⟩
    rw [hs.fresh.2]
    exact (TransferChain.Harmless.of_eq rfl).balanced_nil
  · rintro seen s s' ⟨-, hs⟩ ⟨a, hnone, hbalanced⟩
    obtain ⟨l, hhistory, hstep⟩ := hs.balanced
    refine ⟨a, hnone, ?_⟩
    rw [hhistory]
    exact hbalanced.append hstep

theorem TransferWorld.swap (h : (transferWorld A B okA okB).Reachable w) :
    (transferWorld B A okB okA).Reachable w.swap := Duo.System.Reachable.swap h

/-- Between two ends that name each other each packet is settled once. -/
theorem TransferWorld.settles (hlib : B.host.library.sha256 = A.host.library.sha256)
    (inj : Function.Injective A.host.library.sha256)
    (h : (transferWorld A B Input.TimeoutsDecoded Input.TimeoutsDecoded).Reachable w)
    {k k' : ChannelKey} {e' : ChannelEnd}
    (he' : w.right.store.channel.channels k' = some e') (hr' : e'.remote = ⟨k.1, some k.2⟩) :
    Settles (sentOn k w.left.history) (acceptedOn k' w.right.history)
      (refundedOn k w.left.history) := by
  obtain ⟨v, hv, href⟩ := exists_core h
  obtain ⟨-, -, -, hhistory⟩ := Ctx.silent_eq_silent.mp href.left
  obtain ⟨hstore', -, -, hhistory'⟩ := Ctx.silent_eq_silent.mp href.right
  rw [← hstore'] at he'
  rw [← hhistory, ← hhistory']
  exact Tracked.settles A.isolated B.isolated hlib inj hv he' hr'

/-- **The escrow account covers the vouchers.** The two channel ends name each other, and the
denomination is not one of vouchers for what came over the channel. Then what the escrow account
holds is at least the vouchers on the other chain and what is under way in packets, to the other
chain and back. -/
theorem escrow_covers_vouchers (hlib : B.host.library.sha256 = A.host.library.sha256)
    (inj : Function.Injective A.host.library.sha256) (hjson : B.app.json = A.app.json)
    (halnum : B.app.isAlphanumeric = A.app.isAlphanumeric)
    (h : (transferWorld A B Input.TimeoutsDecoded Input.TimeoutsDecoded).Reachable w)
    {k k' : ChannelKey} {e e' : ChannelEnd} (he : w.left.store.channel.channels k = some e)
    (he' : w.right.store.channel.channels k' = some e') (hr : e.remote = ⟨k'.1, some k'.2⟩)
    (hr' : e'.remote = ⟨k.1, some k.2⟩) {d : PrefixedDenom}
    (hd : d.tracePath.startsWith k.tracePrefix = false) :
    (B.ledger w.right.app).supply (d.addTracePrefix k'.tracePrefix) +
        weight (A.app.amount d) (inTransit k k' w.left.history w.right.history) +
        weight (B.app.amount (d.addTracePrefix k'.tracePrefix))
          (inTransit k' k w.right.history w.left.history) ≤
      (A.ledger w.left.app).balance (A.escrow k) d := by
  have hamount : B.app.amount = A.app.amount := TransferHost.amount_congr hjson halnum
  have hsettles := TransferWorld.settles hlib inj h he' hr'
  have hsettles' : Settles (sentOn k' w.right.history) (acceptedOn k w.left.history)
      (refundedOn k' w.right.history) :=
    TransferWorld.settles hlib.symm (hlib ▸ inj) (TransferWorld.swap h) he hr
  -- What came back over the channel was sent from the other end.
  have hback : weight (fun p => A.app.amount (d.addTracePrefix p.chanOnA.tracePrefix) p)
      (acceptedOn k w.left.history) =
        weight (A.app.amount (d.addTracePrefix k'.tracePrefix)) (acceptedOn k w.left.history) := by
    refine weight_congr fun p hp => ?_
    rw [(mem_sentOn.mp (hsettles'.one_subset hp)).2]
  obtain ⟨a, -, hleft⟩ := TransferWorld.balanced h
  obtain ⟨b, hnone, hright⟩ := TransferWorld.balanced (TransferWorld.swap h)
  have hescrow := hleft.escrow k d hd
  have hvouchers : (B.ledger w.right.app).supply (d.addTracePrefix k'.tracePrefix) +
      weight (B.app.amount (d.addTracePrefix k'.tracePrefix)) (sentOn k' w.right.history) ≤
      (B.ledger b).supply (d.addTracePrefix k'.tracePrefix) +
        weight (B.app.amount d) (acceptedOn k' w.right.history) +
        weight (B.app.amount (d.addTracePrefix k'.tracePrefix)) (refundedOn k' w.right.history) :=
    hright.vouchers k' d
  have hzero := hnone (d.addTracePrefix k'.tracePrefix)
    (by simp [PrefixedDenom.addTracePrefix, TracePath.addPrefix])
  have hto := hsettles.weight_pending_add_le (w := A.app.amount d)
  have hfro := hsettles'.weight_pending_add_le (w := A.app.amount (d.addTracePrefix k'.tracePrefix))
  rw [hback] at hescrow
  rw [hamount] at hvouchers ⊢
  unfold inTransit
  omega

end Solvency

/-! ### Checked runs of two chains that transfer tokens -/

namespace WorldRun

section Checks

variable {factsA factsB : ℕ → List (Path × Bytes)} {absentA absentB : CommitmentRoot → List Path}

/-- Whether the input is a message or a block. -/
def external : Input MockConsensusState μ → Bool
  | .dispatch _ => true
  | .newBlock _ => true
  | _ => false

/-- Checks for one of the chains. -/
def transferCheck (ok : Input MockConsensusState μ → Prop) [DecidablePred ok]
    (facts : ℕ → List (Path × Bytes)) (absent : CommitmentRoot → List Path) (known : Known)
    (seen : List (Ctx CS' Cons' μ')) (s : MockCtx μ) (i : Input MockConsensusState μ) : Bool :=
  decide (ok i) && external i && ticksCheck s i && tracksCheck facts absent known seen

variable {A : TransferChain MockClientState MockConsensusState Account μ}
  {B : TransferChain MockClientState MockConsensusState Account' μ'}

theorem Showing.step {ok : Input MockConsensusState μ → Prop} [DecidablePred ok]
    (hA : Showing A.host factsB absentB) {known : Known} {seen : List (Ctx CS' Cons' μ')}
    {s s' : MockCtx μ} {i : Input MockConsensusState μ}
    (h : transferCheck ok factsB absentB known seen s i = true)
    (hk : Knows known s.store.client.clients) (hs : Step A.host i s s') :
    Tracks A.host seen s ∧ A.Step ok s s' := by
  simp only [transferCheck, Bool.and_eq_true, decide_eq_true_eq] at h
  obtain ⟨⟨⟨hok, hext⟩, hticks⟩, htracks⟩ := h
  refine ⟨hA.tracks hk htracks, .core i hok ?_ ?_ (ticks_of_check hticks) hs⟩
  · rintro p rfl
    cases hext
  · rintro a rfl
    cases hext

def transferChecks (hA : Showing A.host factsB absentB) (hB : Showing B.host factsA absentA)
    (okA : Input MockConsensusState μ → Prop) (okB : Input MockConsensusState μ' → Prop)
    [DecidablePred okA] [DecidablePred okB] :
    Checks (transferWorld A B okA okB) A.host B.host where
  left := transferCheck okA factsB absentB
  right := transferCheck okB factsA absentA
  left_step _ _ _ _ _ h hk hs := hA.step h hk hs
  right_step _ _ _ _ _ h hk hs := hB.step h hk hs

/-- A user of the left chain sends tokens. -/
def Sample.transfer (A : TransferChain MockClientState MockConsensusState Account μ)
    (facts : ℕ → List (Path × Bytes)) (absent : CommitmentRoot → List Path) (msg : MsgTransfer)
    (x : Sample μ μ') : Option (Sample μ μ') :=
  if tracksCheck facts absent x.leftKnown x.duo.rights then
    match A.app.sendTransfer A.host msg x.duo.left with
    | (.error (.panic _), _) => none
    | (_, a) => some ⟨x.duo.moveLeft a, x.leftKnown, x.rightKnown⟩
  else none

/-- A transfer does not touch the clients. -/
theorem Showing.knows_of_sends (hA : Showing A.host factsB absentB) {known : Known}
    {s s' : MockCtx μ} {msg : MsgTransfer} (hk : Knows known s.store.client.clients)
    (h : A.Sends msg s s') : Knows known s'.store.client.clients := by
  cases h with
  | keeps app hs _ =>
    rw [hs]
    exact hk
  | takes sender app p r t _ _ _ hsend hr hs =>
    rw [(Ctx.silent_eq_silent.mp hs).1]
    exact hA.toMockLike.knows_of_step (i := .sendPacket p) ⟨r, hsend, hr⟩ hk

theorem Sample.Valid.transfer {okA : Input MockConsensusState μ → Prop}
    {okB : Input MockConsensusState μ' → Prop} (hA : Showing A.host factsB absentB)
    {raw : RawMsgTransfer} {msg : MsgTransfer}
    (hmsg : MsgTransfer.tryFrom A.app.isAlphanumeric raw = .ok msg)
    (hsigner : ∀ key, A.app.accountOf msg.packetData.sender ≠ .ok (A.escrow key))
    {x x' : Sample μ μ'} (h : x.Valid (transferWorld A B okA okB))
    (hx : x.transfer A factsB absentB msg = some x') : x'.Valid (transferWorld A B okA okB) := by
  unfold Sample.transfer at hx
  split_ifs at hx with hcheck
  split at hx
  · cases hx
  · next r a hne hrun =>
    cases hx
    have hstep : A.Step okA x.duo.left a := .transfer raw msg r hmsg hsigner hrun hne
    exact ⟨.left h.reachable ⟨hA.tracks h.left hcheck, hstep⟩,
      hA.knows_of_sends h.left (.of_run hrun hne), h.right⟩

end Checks

/-! ### A transfer of ten tokens between two chains -/

open MockRun (channelId signer)
open TransferRun (address bank books rawDataJson sha256Json uatom)

/-- The channel end on either chain. -/
def transferKey : ChannelKey := (.transfer, channelId)

/-- The packet of the sample transfer. -/
def tenTokens : Packet :=
  ⟨1, .transfer, channelId, .transfer, channelId, Proto.utf8 rawDataJson, .at ⟨0, 10⟩, .none⟩

/-- The packet with a timeout at the Unix epoch, in place of none. -/
def tenTokensEpoch : Packet :=
  { tenTokens with timeoutTimestampOnB := epochPacket.timeoutTimestampOnB }

def provedTokens : Path × Bytes :=
  (.commitment .transfer channelId 1,
    TransferRun.sha256 (Words.be64 0 ++ Words.be64 0 ++ Words.be64 10 ++ sha256Json))

/-- What the left chain holds when a block begins. -/
def transferFactsA : ℕ → List (Path × Bytes) := factsA 0 .unordered [provedTokens]

/-- What the right chain holds when a block begins. -/
def transferFactsB : ℕ → List (Path × Bytes) := factsB 0 .unordered []

/-- When block 8 of the right chain began, the packet was not received. -/
def unreceived (root : CommitmentRoot) : List Path :=
  if root = ProofRun.rootAt 8 then [receiptPath] else []

/-- A mock chain with the transfer application. -/
def transferHost (facts : ℕ → List (Path × Bytes)) (absent : CommitmentRoot → List Path) :
    Host MockClientState MockConsensusState (Ledger String PrefixedDenom) :=
  { TransferRun.host with
    lightClient := showingClient facts absent
    decodeClientState := ProofRun.codec.decodeClientState }

def escrowOf (key : ChannelKey) : String := key.1.str ++ "/" ++ key.2.str

theorem transferHost_runs (facts : ℕ → List (Path × Bytes)) (absent : CommitmentRoot → List Path)
    (port : PortId) (m : Module (Store MockClientState MockConsensusState) _)
    (h : (transferHost facts absent).moduleOf port = some m) :
    m = TransferRun.transfer.toModule := by
  obtain ⟨id, -, hroute⟩ := Option.bind_eq_some_iff.mp h
  simp only [transferHost, TransferRun.host] at hroute
  split_ifs at hroute
  exact (Option.some.inj hroute).symm

/-- No identifier has the separator in it, so the two can be told apart. -/
theorem escrowOf_injective : Function.Injective escrowOf := by
  have hsplit (key : ChannelKey) : Text.split '/' (escrowOf key) = [key.1.str, key.2.str] := by
    have hjoin : escrowOf key = Text.join '/' [key.1.str, key.2.str] := by
      rw [Text.join_cons '/' _ (List.cons_ne_nil _ _), Text.join_singleton]
      rfl
    rw [hjoin]
    refine Text.split_join ?_ (List.cons_ne_nil _ _)
    simp [key.1.wf.noSeparator, key.2.wf.noSeparator]
  intro key key' h
  have hparts := (hsplit key).symm.trans ((congrArg _ h).trans (hsplit key'))
  simp only [List.cons.injEq, PortId.str_inj, ChannelId.str_inj, and_true] at hparts
  exact Prod.ext hparts.1 hparts.2

theorem bank_send_makes (x y : String) (coin : PrefixedCoin) :
    (bank.sendCoinsExecute x y coin).Makes id (Ledger.moved x y coin.denom coin.amount.val) := by
  refine ⟨fun h => TransferRun.bank_keeps.send x y coin _ _ h, fun {a e b} h => ?_⟩
  simp only [bank] at h
  split_ifs at h
  · cases h
  · exact (Prod.mk.inj h).2.symm

theorem bank_mint_makes (x : String) (coin : PrefixedCoin) :
    (bank.mintCoinsExecute x coin).Makes id (Ledger.minted x coin.denom coin.amount.val) := by
  refine ⟨fun {a b} h => ?_, fun h => by cases h⟩
  obtain ⟨_, hmint, hchange⟩ := TransferRun.bank_keeps.mint x coin a
  cases hmint.symm.trans h
  exact hchange

theorem bank_burn_makes (x : String) (coin : PrefixedCoin) :
    (bank.burnCoinsExecute x coin).Makes id (-Ledger.minted x coin.denom coin.amount.val) := by
  refine ⟨fun h => TransferRun.bank_keeps.burn x coin _ _ h, fun {a e b} h => ?_⟩
  simp only [bank] at h
  split_ifs at h
  · cases h
  · exact (Prod.mk.inj h).2.symm

theorem bank_escrow_eq {a : Ledger String PrefixedDenom} {port : PortId} {channel : ChannelId}
    {x : String} (h : bank.getEscrowAccount a port channel = .ok x) :
    x = escrowOf (port, channel) := (Except.ok.inj h).symm

/-- A mock chain with the transfer application, as one that transfers tokens. -/
def transferChain (facts : ℕ → List (Path × Bytes)) (absent : CommitmentRoot → List Path) :
    TransferChain MockClientState MockConsensusState String (Ledger String PrefixedDenom) where
  host := transferHost facts absent
  app := TransferRun.transfer
  ledger := id
  escrow := escrowOf
  runs := transferHost_runs facts absent
  escrow_injective := escrowOf_injective
  escrow_eq := bank_escrow_eq
  send := bank_send_makes
  mint := bank_mint_makes
  burn := bank_burn_makes

theorem transferChain_showing (facts : ℕ → List (Path × Bytes))
    (absent : CommitmentRoot → List Path) :
    Showing (transferChain facts absent).host facts absent where
  isolated := (transferChain facts absent).isolated
  decode _ _ h := Result.mapErr_eq_ok.mp h
  initialise := rfl
  updateState := rfl
  updateStateOnMisbehaviour := rfl
  updateStateOnUpgrade := rfl
  shown := (mockLike_host facts).shown
  timestamp _ := rfl
  absent _ _ _ _ := mem_of_accepts_absent

def senderChain :
    TransferChain MockClientState MockConsensusState String (Ledger String PrefixedDenom) :=
  transferChain transferFactsB unreceived

def receiverChain :
    TransferChain MockClientState MockConsensusState String (Ledger String PrefixedDenom) :=
  transferChain transferFactsA fun _ => []

def senderStart : MockCtx (Ledger String PrefixedDenom) := ⟨.empty, books, block 1, [], [], []⟩

/-- The right chain has no tokens at first. -/
def receiverStart : MockCtx (Ledger String PrefixedDenom) :=
  ⟨.empty, ⟨fun _ _ => 0, fun _ => 0⟩, block 1, [], [], []⟩

abbrev TransferMove := Move (Ledger String PrefixedDenom) (Ledger String PrefixedDenom)

/-- A channel is opened on the left chain, and on the right one up to its last message. -/
def beforeTransfer : List TransferMove :=
  [.tellLeft Msg.createClient, .tellRight Msg.createClient, .tellLeft (Msg.connOpenInit 0),
    .left (.newBlock (block 5)), .tellRight (Msg.updateClient 5), .tellRight (Msg.connOpenTry 0),
    .right (.newBlock (block 5)), .tellLeft (Msg.updateClient 5), .tellLeft (Msg.connOpenAck 0),
    .tellLeft (Msg.chanOpenInit .unordered), .left (.newBlock (block 8)),
    .tellRight (Msg.updateClient 8), .tellRight (Msg.connOpenConfirm 0),
    .tellRight (Msg.chanOpenTry .unordered), .right (.newBlock (block 8)),
    .tellLeft (Msg.updateClient 8), .tellLeft (Msg.chanOpenAck .unordered)]

/-- The packet is received, in the next block of the right chain. -/
def afterTransfer : List TransferMove :=
  [.left (.newBlock (block 20)), .right (.newBlock (block 9)), .tellRight (Msg.updateClient 20),
    .tellRight (Msg.chanOpenConfirm .unordered),
    .tellRight (.packet (.recv ⟨tenTokens, proofOf provedTokens, ⟨0, 20⟩, signer⟩))]

/-- The timeout of the packet, as one with a timeout at the epoch, with the proof that it was not
received when block 8 began. -/
def timeOutTokens : TransferMove :=
  .tellLeft (.packet (.timeout ⟨tenTokensEpoch, 1, factCode receiptPath none, ⟨0, 8⟩, signer⟩))

def sampleWorld (ok : Input MockConsensusState (Ledger String PrefixedDenom) → Prop) :
    Duo.System (MockCtx (Ledger String PrefixedDenom)) (MockCtx (Ledger String PrefixedDenom)) :=
  transferWorld senderChain receiverChain ok ok

section Samples

variable (ok : Input MockConsensusState (Ledger String PrefixedDenom) → Prop) [DecidablePred ok]

def sampleChecks : Checks (sampleWorld ok) senderChain.host receiverChain.host :=
  transferChecks (transferChain_showing transferFactsB unreceived)
    (transferChain_showing transferFactsA fun _ => []) ok ok

/-- The run with the transfer, and `last` after it. -/
def sampleRun (last : List TransferMove) :
    Option (Sample (Ledger String PrefixedDenom) (Ledger String PrefixedDenom)) :=
  ((runMoves (sampleChecks ok) (.start senderStart receiverStart) beforeTransfer).bind
    (Sample.transfer senderChain transferFactsB unreceived TransferRun.msg)).bind
      (runMoves (sampleChecks ok) · (afterTransfer ++ last))

/-- The sender is not an escrow account: there is no separator in the address. -/
theorem address_not_escrow (key : ChannelKey) : address ≠ escrowOf key := by
  intro h
  have hsep : '/' ∈ (escrowOf key).toList := by simp [escrowOf]
  rw [← h] at hsep
  exact absurd hsep (by decide)

theorem senderChain_starts : senderChain.Starts senderStart where
  fresh := ⟨rfl, rfl⟩
  time := by decide
  vouchers d hd := by
    refine if_neg ?_
    rintro rfl
    exact hd rfl

theorem receiverChain_starts : receiverChain.Starts receiverStart where
  fresh := ⟨rfl, rfl⟩
  time := by decide
  vouchers _ _ := rfl

theorem exists_sampleRun {α : Type} (last : List TransferMove)
    (f : Duo (MockCtx (Ledger String PrefixedDenom)) (MockCtx (Ledger String PrefixedDenom)) → α)
    {y : α} (h : (sampleRun ok last).map (f ·.duo) = some y) :
    ∃ w, (sampleWorld ok).Reachable w ∧ f w = y := by
  obtain ⟨x, hx, rfl⟩ := Option.map_eq_some_iff.mp h
  obtain ⟨x₂, hx₂, hlast⟩ := Option.bind_eq_some_iff.mp hx
  obtain ⟨x₁, hx₁, htransfer⟩ := Option.bind_eq_some_iff.mp hx₂
  have hA := transferChain_showing transferFactsB unreceived
  have hB := transferChain_showing transferFactsA fun _ => []
  have hstart : (Sample.start senderStart receiverStart).Valid (sampleWorld ok) :=
    Sample.valid_start senderChain_starts receiverChain_starts senderChain_starts.fresh
      receiverChain_starts.fresh
  have hbefore := hstart.runMoves hA.toMockLike hB.toMockLike hx₁
  have hsigner (key : ChannelKey) : senderChain.app.accountOf TransferRun.msg.packetData.sender ≠
      .ok (senderChain.escrow key) := fun h => address_not_escrow key (Except.ok.inj h)
  have hsent : x₂.Valid (sampleWorld ok) :=
    Sample.Valid.transfer hA TransferRun.tryFrom_rawMsg hsigner hbefore htransfer
  exact ⟨x.duo, (hsent.runMoves hA.toMockLike hB.toMockLike hlast).reachable, rfl⟩

end Samples

theorem transfer_sha256_injective : Function.Injective TransferRun.sha256 := by
  intro a b h
  unfold TransferRun.sha256 at h
  split_ifs at h with ha hb hb' ha' hb hb' hb hb' <;> simp_all [sha256Json]

/-- The two ends, the vouchers on the right chain and what the escrow account holds. -/
def sampleOutcome
    (w : Duo (MockCtx (Ledger String PrefixedDenom)) (MockCtx (Ledger String PrefixedDenom))) :
    Option ChannelEnd × Option ChannelEnd × ℕ × ℕ :=
  (w.left.store.channel.channels transferKey, w.right.store.channel.channels transferKey,
    (receiverChain.ledger w.right.app).supply (uatom.addTracePrefix transferKey.tracePrefix),
    (senderChain.ledger w.left.app).balance (senderChain.escrow transferKey) uatom)

end WorldRun

open WorldRun

open TransferRun (uatom)

/-- Ten tokens went to the other chain: they are in escrow, and vouchers for them exist. -/
theorem ten_tokens_covered : ∃ w, (sampleWorld Input.TimeoutsDecoded).Reachable w ∧
    (receiverChain.ledger w.right.app).supply (uatom.addTracePrefix transferKey.tracePrefix) = 10 ∧
    (receiverChain.ledger w.right.app).supply (uatom.addTracePrefix transferKey.tracePrefix) +
        weight (senderChain.app.amount uatom)
          (inTransit transferKey transferKey w.left.history w.right.history) +
        weight (receiverChain.app.amount (uatom.addTracePrefix transferKey.tracePrefix))
          (inTransit transferKey transferKey w.right.history w.left.history) ≤
      (senderChain.ledger w.left.app).balance (senderChain.escrow transferKey) uatom := by
  obtain ⟨w, hw, h⟩ := exists_sampleRun Input.TimeoutsDecoded [] sampleOutcome
    (by decide +kernel : _ = some (some (chanEnd .open (some MockRun.channelId) .unordered),
      some (chanEnd .open (some MockRun.channelId) .unordered), 10, 10))
  simp only [sampleOutcome, Prod.mk.injEq] at h
  obtain ⟨he, he', hsupply, -⟩ := h
  exact ⟨w, hw, hsupply, escrow_covers_vouchers (A := senderChain) (B := receiverChain) rfl
    transfer_sha256_injective rfl rfl hw he he' rfl rfl (by decide)⟩

/-- The ten tokens were received, and then their packet timed out as one with a timeout at the
epoch: the vouchers exist, and the escrow account is empty. -/
theorem epoch_timeout_uncovered : ∃ w e e', (sampleWorld Input.InWords).Reachable w ∧
    w.left.store.channel.channels transferKey = some e ∧
    w.right.store.channel.channels transferKey = some e' ∧
    e.remote = ⟨transferKey.1, some transferKey.2⟩ ∧
    e'.remote = ⟨transferKey.1, some transferKey.2⟩ ∧
    uatom.tracePath.startsWith transferKey.tracePrefix = false ∧
    (receiverChain.ledger w.right.app).supply (uatom.addTracePrefix transferKey.tracePrefix) = 10 ∧
    (senderChain.ledger w.left.app).balance (senderChain.escrow transferKey) uatom = 0 := by
  obtain ⟨w, hw, h⟩ := exists_sampleRun Input.InWords [timeOutTokens] sampleOutcome
    (by decide +kernel : _ = some (some (chanEnd .open (some MockRun.channelId) .unordered),
      some (chanEnd .open (some MockRun.channelId) .unordered), 10, 0))
  simp only [sampleOutcome, Prod.mk.injEq] at h
  obtain ⟨he, he', hsupply, hescrow⟩ := h
  exact ⟨w, _, _, hw, he, he', rfl, rfl, by decide, hsupply, hescrow⟩

end Ibc
