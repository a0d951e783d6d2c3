import Ibc.Protocol.Exclusive
import Ibc.Protocol.Silent
import Ibc.Support.Settlement
import Ibc.Transfer.Acknowledged
import Ibc.Transfer.Refund

/-!
# The books of a chain

A chain that runs the transfer application keeps tokens in escrow accounts and makes vouchers. What
it did with them is read off its history: packets sent, packets received with success, packets
refunded.

**`TransferChain.Balanced`** is the rule of the books, for any part of a run. What was sent over a
channel is in its escrow account, or was given back; the vouchers that a channel brought in are no
more than what was received over it and not sent back. Each step keeps the rule, whatever it does
(`TransferChain.Step.balanced`).
-/

namespace Ibc

open Settlement

/-! ### Denominations -/

/-- A channel end, as a part of a trace. -/
def ChannelKey.tracePrefix (key : ChannelKey) : TracePrefix := ⟨key.1, key.2⟩

theorem ChannelKey.tracePrefix_inj {k k' : ChannelKey} :
    k.tracePrefix = k'.tracePrefix ↔ k = k' := by
  simp [tracePrefix, Prod.ext_iff]

namespace PrefixedDenom

variable {d e : PrefixedDenom} {pfx pfx' : TracePrefix}

theorem addTracePrefix_inj (h : d.addTracePrefix pfx = e.addTracePrefix pfx') :
    d = e ∧ pfx = pfx' := by
  obtain rfl : pfx = pfx' :=
    (startsWith_addTracePrefix e pfx' pfx).mp (h ▸ (startsWith_addTracePrefix d pfx pfx).mpr rfl)
  rw [← removeTracePrefix_addTracePrefix d pfx, h, removeTracePrefix_addTracePrefix]
  exact ⟨rfl, rfl⟩

/-- A prefix that was taken off is put back. -/
theorem addTracePrefix_removeTracePrefix (h : d.tracePath.startsWith pfx = true) :
    (d.removeTracePrefix pfx).addTracePrefix pfx = d := by
  have hlast : d.tracePath.prefixes.getLast? = some pfx := of_decide_eq_true h
  rw [removeTracePrefix, TracePath.removePrefix, if_pos h, addTracePrefix, TracePath.addPrefix,
    List.dropLast_append_getLast? pfx hlast]

end PrefixedDenom

/-! ### What a history says of tokens -/

/-- Whether the answer to a packet says that the tokens were received. -/
def Acknowledgement.isSuccess (ack : Acknowledgement) : Bool :=
  (AcknowledgementStatus.fromSlice ack.bytes).any (·.isSuccessful)

/-- Whether the answer to a packet says that the tokens were not received. -/
def Acknowledgement.isFailure (ack : Acknowledgement) : Bool :=
  (AcknowledgementStatus.fromSlice ack.bytes).any (!·.isSuccessful)

theorem Acknowledgement.isFailure_eq_false {ack : Acknowledgement} (h : ack.isSuccess = true) :
    ack.isFailure = false := by
  unfold isSuccess at h
  unfold isFailure
  cases hread : AcknowledgementStatus.fromSlice ack.bytes with
  | none => rfl
  | some status =>
    rw [hread] at h
    simpa using h

/-- The packet that was sent over the channel. -/
def Action.sentOn (key : ChannelKey) : Action → Option Packet
  | .sendPacket p => if p.chanOnA = key then some p else none
  | _ => none

/-- The packet that was received over the channel, with success. -/
def Action.acceptedOn (key : ChannelKey) : Action → Option Packet
  | .recvPacket p ack => if p.chanOnB = key ∧ ack.isSuccess = true then some p else none
  | _ => none

/-- The packet that was sent over the channel and is refunded. -/
def Action.refundedOn (key : ChannelKey) : Action → Option Packet
  | .timeoutPacket p true => if p.chanOnA = key then some p else none
  | .acknowledgePacket p ack true =>
      if p.chanOnA = key ∧ ack.isFailure = true then some p else none
  | _ => none

/-- The packets sent over the channel. -/
def sentOn (key : ChannelKey) (history : List Action) : List Packet :=
  history.filterMap (Action.sentOn key)

/-- The packets received over the channel, with success. -/
def acceptedOn (key : ChannelKey) (history : List Action) : List Packet :=
  history.filterMap (Action.acceptedOn key)

/-- The packets sent over the channel that were refunded. -/
def refundedOn (key : ChannelKey) (history : List Action) : List Packet :=
  history.filterMap (Action.refundedOn key)

/-- The packets that were sent from one channel end to the other, and were neither received there
with success nor refunded. -/
def inTransit (source dest : ChannelKey) (sender receiver : List Action) : List Packet :=
  pending (sentOn source sender) (acceptedOn dest receiver) (refundedOn source sender)

/-- The action moves no tokens. -/
def Action.Idle (a : Action) : Prop :=
  ∀ key, a.sentOn key = none ∧ a.acceptedOn key = none ∧ a.refundedOn key = none

/-- How many tokens of a denomination a packet carries. -/
def TransferHost.amount {Account μ : Type} (T : TransferHost Account μ) (d : PrefixedDenom)
    (p : Packet) : ℕ :=
  match T.packetData p.data with
  | .ok data => if data.token.denom = d then data.token.amount.val else 0
  | .error _ => 0

theorem TransferHost.amount_of_eq {Account μ : Type} {T : TransferHost Account μ} {p : Packet}
    {data : PacketData} (h : T.packetData p.data = .ok data) {d : PrefixedDenom}
    (hd : data.token.denom = d) : T.amount d p = data.token.amount.val := by
  rw [amount, h]
  exact if_pos hd

theorem TransferHost.amount_eq {Account μ : Type} {T : TransferHost Account μ} {p : Packet}
    {data : PacketData} (h : T.packetData p.data = .ok data) (d : PrefixedDenom) :
    T.amount d p = if data.token.denom = d then data.token.amount.val else 0 := by
  rw [amount, h]

/-! ### Chains that run the application -/

/-- A successful operation makes the change, and a failed one makes none. -/
structure BankOp.Makes {Account μ : Type} (op : BankOp μ)
    (ledger : μ → Ledger Account PrefixedDenom) (change : Ledger.Change Account PrefixedDenom) :
    Prop where
  ok : ∀ {a b}, op a = (.ok (), b) → (ledger a).change (ledger b) = change
  error : ∀ {a e b}, op a = (.error e, b) → ledger b = ledger a

/-- A chain whose ports are all bound to the transfer application. Its bank moves, mints and burns
exactly what it is told, or nothing, and each channel end has an escrow account of its own. -/
structure TransferChain (CS Cons Account μ : Type) [DecidableEq Account] where
  host : Host CS Cons μ
  app : TransferHost Account μ
  /-- What the bank holds. -/
  ledger : μ → Ledger Account PrefixedDenom
  escrow : ChannelKey → Account
  runs : ∀ port m, host.moduleOf port = some m → m = app.toModule
  escrow_injective : Function.Injective escrow
  escrow_eq : ∀ {a port channel x},
    app.bank.getEscrowAccount a port channel = .ok x → x = escrow (port, channel)
  send : ∀ x y coin, (app.bank.sendCoinsExecute x y coin).Makes ledger
    (Ledger.moved x y coin.denom coin.amount.val)
  mint : ∀ x coin, (app.bank.mintCoinsExecute x coin).Makes ledger
    (Ledger.minted x coin.denom coin.amount.val)
  burn : ∀ x coin, (app.bank.burnCoinsExecute x coin).Makes ledger
    (-Ledger.minted x coin.denom coin.amount.val)

namespace TransferChain

variable {CS Cons Account μ : Type} [DecidableEq Account] (C : TransferChain CS Cons Account μ)

/-- Nothing is taken out of an escrow account, and no vouchers are made. -/
structure Harmless (a b : μ) : Prop where
  escrow : ∀ key d, (C.ledger a).balance (C.escrow key) d ≤ (C.ledger b).balance (C.escrow key) d
  vouchers : ∀ d : PrefixedDenom, d.tracePath.prefixes ≠ [] →
    (C.ledger b).supply d ≤ (C.ledger a).supply d

/-- A step of the chain. It takes a message, a block begins, or users and other applications do
something harmless; or a user sends tokens, with a message that was decoded and that no escrow
account signed. -/
inductive Step (ok : Input Cons μ → Prop) (s s' : Ctx CS Cons μ) : Prop where
  | core (i : Input Cons μ) (hok : ok i) (hsend : ∀ p, i ≠ .sendPacket p)
      (happ : ∀ a, i = .application a → C.Harmless s.app a) (hticks : i.Ticks s)
      (hs : Ibc.Step C.host i s s')
  | transfer (raw : RawMsgTransfer) (msg : MsgTransfer) (r : Result TokenTransferError Unit)
      (hmsg : MsgTransfer.tryFrom C.app.isAlphanumeric raw = .ok msg)
      (hsigner : ∀ key, C.app.accountOf msg.packetData.sender ≠ .ok (C.escrow key))
      (hrun : C.app.sendTransfer C.host msg s = (r, s')) (hr : r.Returns)

/-- **The rule of the books**, for what happened between two states of the bank. -/
structure Balanced (a b : μ) (history : List Action) : Prop where
  escrow : ∀ key (d : PrefixedDenom), d.tracePath.startsWith key.tracePrefix = false →
    (C.ledger a).balance (C.escrow key) d + weight (C.app.amount d) (sentOn key history) ≤
      (C.ledger b).balance (C.escrow key) d + weight (C.app.amount d) (refundedOn key history) +
        weight (fun p => C.app.amount (d.addTracePrefix p.chanOnA.tracePrefix) p)
          (acceptedOn key history)
  vouchers : ∀ key d,
    (C.ledger b).supply (d.addTracePrefix key.tracePrefix) +
        weight (C.app.amount (d.addTracePrefix key.tracePrefix)) (sentOn key history) ≤
      (C.ledger a).supply (d.addTracePrefix key.tracePrefix) +
        weight (C.app.amount d) (acceptedOn key history) +
        weight (C.app.amount (d.addTracePrefix key.tracePrefix)) (refundedOn key history)

variable {C} {a b c : μ} {h h' : List Action}

theorem Balanced.append (hab : C.Balanced a b h) (hbc : C.Balanced b c h') :
    C.Balanced a c (h ++ h') := by
  constructor
  · intro key d hd
    have h₁ := hab.escrow key d hd
    have h₂ := hbc.escrow key d hd
    simp only [sentOn, refundedOn, acceptedOn, List.filterMap_append, weight_append] at *
    omega
  · intro key d
    have h₁ := hab.vouchers key d
    have h₂ := hbc.vouchers key d
    simp only [sentOn, refundedOn, acceptedOn, List.filterMap_append, weight_append] at *
    omega

theorem Harmless.of_eq (h : C.ledger b = C.ledger a) : C.Harmless a b :=
  ⟨fun _ _ => h ▸ le_rfl, fun _ _ => h ▸ le_rfl⟩

theorem Harmless.balanced_nil (hab : C.Harmless a b) : C.Balanced a b [] where
  escrow key d _ := hab.escrow key d
  vouchers key d := hab.vouchers _ (by simp [PrefixedDenom.addTracePrefix, TracePath.addPrefix])

theorem Harmless.balanced (hab : C.Harmless a b) {x : Action} (hx : x.Idle) :
    C.Balanced a b [x] := by
  have hnone : ∀ key, sentOn key [x] = [] ∧ acceptedOn key [x] = [] ∧ refundedOn key [x] = [] := by
    intro key
    obtain ⟨hs, ha, hr⟩ := hx key
    simp [sentOn, acceptedOn, refundedOn, hs, ha, hr]
  constructor
  · intro key d hd
    obtain ⟨hs, ha, hr⟩ := hnone key
    rw [hs, ha, hr]
    exact hab.balanced_nil.escrow key d hd
  · intro key d
    obtain ⟨hs, ha, hr⟩ := hnone key
    rw [hs, ha, hr]
    exact hab.balanced_nil.vouchers key d

/-! ### Changes that balance -/

section Changes

variable {k : ChannelKey} {x : Account} {e : PrefixedDenom} {n : ℕ}

/-- Tokens leave an escrow account: the packet that let them out is refunded or received. -/
theorem balanced_of_release
    (hchange : (C.ledger a).change (C.ledger b) = Ledger.moved (C.escrow k) x e n)
    (hsent : ∀ key, sentOn key h = [])
    (hcover : n ≤ weight (C.app.amount e) (refundedOn k h) +
      weight (fun p => C.app.amount (e.addTracePrefix p.chanOnA.tracePrefix) p)
        (acceptedOn k h)) : C.Balanced a b h := by
  constructor
  · intro key d _
    rw [hsent key, weight_nil]
    have hbalance := Ledger.balance_of_change hchange (C.escrow key) d
    simp only [Ledger.moved, Ledger.credit, Pi.sub_apply] at hbalance
    by_cases hout : key = k ∧ d = e
    · obtain ⟨rfl, rfl⟩ := hout
      split_ifs at hbalance <;> omega
    · have hother : ¬ (C.escrow key = C.escrow k ∧ d = e) := fun hsame =>
        hout ⟨C.escrow_injective hsame.1, hsame.2⟩
      rw [if_neg hother] at hbalance
      split_ifs at hbalance <;> omega
  · intro key d
    rw [hsent key, weight_nil]
    have hsupply := Ledger.supply_of_change hchange (d.addTracePrefix key.tracePrefix)
    simp only [Ledger.moved] at hsupply
    omega

/-- Vouchers are made: the packet that asked for them is received or refunded. -/
theorem balanced_of_mint
    (hchange : (C.ledger a).change (C.ledger b) = Ledger.minted x e n)
    (hsent : ∀ key, sentOn key h = [])
    (hcover : ∀ key d, d.addTracePrefix key.tracePrefix = e →
      n ≤ weight (C.app.amount d) (acceptedOn key h) +
        weight (C.app.amount e) (refundedOn key h)) : C.Balanced a b h := by
  constructor
  · intro key d _
    rw [hsent key, weight_nil]
    have hbalance := Ledger.balance_of_change hchange (C.escrow key) d
    simp only [Ledger.minted, Ledger.credit] at hbalance
    split_ifs at hbalance <;> omega
  · intro key d
    rw [hsent key, weight_nil]
    have hsupply := Ledger.supply_of_change hchange (d.addTracePrefix key.tracePrefix)
    simp only [Ledger.minted, Ledger.total] at hsupply
    split_ifs at hsupply with hsame
    · have hle := hcover key d hsame
      rw [← hsame] at hle
      omega
    · omega

/-- Tokens are put into an escrow account, for a packet that may have been sent. -/
theorem balanced_of_escrow
    (hchange : (C.ledger a).change (C.ledger b) = Ledger.moved x (C.escrow k) e n)
    (hx : ∀ key, x ≠ C.escrow key)
    (hsent : ∀ key d, weight (C.app.amount d) (sentOn key h) ≤
      if key = k ∧ d = e then n else 0)
    (hsource : e.tracePath.startsWith k.tracePrefix = false) : C.Balanced a b h := by
  constructor
  · intro key d _
    have hle := hsent key d
    have hbalance := Ledger.balance_of_change hchange (C.escrow key) d
    simp only [Ledger.moved, Ledger.credit, Pi.sub_apply, (hx key).symm, false_and, if_false]
      at hbalance
    by_cases hin : key = k ∧ d = e
    · obtain ⟨rfl, rfl⟩ := hin
      simp only [and_self, if_true] at hle hbalance
      omega
    · rw [if_neg hin] at hle
      split_ifs at hbalance <;> omega
  · intro key d
    have hle := hsent key (d.addTracePrefix key.tracePrefix)
    have hsupply := Ledger.supply_of_change hchange (d.addTracePrefix key.tracePrefix)
    simp only [Ledger.moved] at hsupply
    have hother : ¬ (key = k ∧ d.addTracePrefix key.tracePrefix = e) := by
      rintro ⟨rfl, rfl⟩
      rw [(d.startsWith_addTracePrefix _ _).mpr rfl] at hsource
      cases hsource
    rw [if_neg hother] at hle
    omega

/-- Vouchers are burned, for a packet that may have been sent. -/
theorem balanced_of_burn
    (hchange : (C.ledger a).change (C.ledger b) = -Ledger.minted x e n)
    (hx : ∀ key, x ≠ C.escrow key)
    (hsent : ∀ key d, weight (C.app.amount d) (sentOn key h) ≤
      if key = k ∧ d = e then n else 0)
    (hsource : e.tracePath.startsWith k.tracePrefix = true) : C.Balanced a b h := by
  constructor
  · intro key d hd
    have hle := hsent key d
    have hbalance := Ledger.balance_of_change hchange (C.escrow key) d
    simp only [Ledger.minted, Ledger.credit, Prod.fst_neg, Pi.neg_apply, (hx key).symm, false_and,
      if_false, neg_zero] at hbalance
    have hother : ¬ (key = k ∧ d = e) := by
      rintro ⟨rfl, rfl⟩
      rw [hsource] at hd
      cases hd
    rw [if_neg hother] at hle
    omega
  · intro key d
    have hle := hsent key (d.addTracePrefix key.tracePrefix)
    have hsupply := Ledger.supply_of_change hchange (d.addTracePrefix key.tracePrefix)
    simp only [Ledger.minted, Ledger.total, Prod.snd_neg, Pi.neg_apply] at hsupply
    split_ifs at hle hsupply <;> first | omega | tauto

end Changes

end TransferChain

/-! ### What the core calls -/

namespace TransferHost

variable {Account μ St : Type} {T : TransferHost Account μ} {st st' : St} {a b : μ} {p : Packet}
  {signer : Signer} {extras : ModuleExtras} {ack : Acknowledgement} {r : Except PacketError Unit}

theorem isOk_mapError {ε ε' α : Type} {f : ε → ε'} {x : Except ε α} :
    (x.mapError f).isOk = x.isOk := by
  cases x <;> rfl

variable (T) in
/-- The application leaves the store of the core alone. -/
theorem toModule_isolated : (T.toModule : Module St μ).Isolated := by
  constructor <;> intros <;> exact fun _ _ => rfl

theorem toModule_recv (h : (T.toModule : Module St μ).onRecvPacketExecute p signer st a =
    ((extras, ack), st', b)) : T.onRecvPacketExecute p a = ((extras, ack), b) := by
  simp only [toModule, Prod.mk.injEq] at h
  exact Prod.ext h.1 h.2.2

theorem toModule_acknowledge
    (h : (T.toModule : Module St μ).onAcknowledgementPacketExecute p ack signer st a =
      ((extras, r), st', b)) :
    ∃ r' : Except TokenTransferError Unit, r'.isOk = r.isOk ∧
      T.onAcknowledgementPacketExecute p ack a = ((extras, r'), b) := by
  simp only [toModule, Prod.mk.injEq] at h
  obtain ⟨⟨rfl, rfl⟩, -, rfl⟩ := h
  exact ⟨_, isOk_mapError.symm, rfl⟩

theorem toModule_timeout (h : (T.toModule : Module St μ).onTimeoutPacketExecute p signer st a =
    ((extras, r), st', b)) :
    ∃ r' : Except TokenTransferError Unit, r'.isOk = r.isOk ∧
      T.onTimeoutPacketExecute p a = ((extras, r'), b) := by
  simp only [toModule, Prod.mk.injEq] at h
  obtain ⟨⟨rfl, rfl⟩, -, rfl⟩ := h
  exact ⟨_, isOk_mapError.symm, rfl⟩

end TransferHost

/-! ### Receiving -/

section Receiving

variable {Account μ : Type}

/-- How the tokens of a packet are given to the receiver. -/
inductive TransferHost.Gives (T : TransferHost Account μ) (p : Packet) (data : PacketData)
    (a b : μ) : Prop where
  | release {escrow receiver : Account}
      (hsource : isReceiverChainSource p.portIdOnA p.chanIdOnA data.token.denom = true)
      (hescrow : T.bank.getEscrowAccount a p.portIdOnB p.chanIdOnB = .ok escrow)
      (hsend : T.bank.sendCoinsExecute escrow receiver
        ⟨data.token.denom.removeTracePrefix ⟨p.portIdOnA, p.chanIdOnA⟩, data.token.amount⟩ a =
          (.ok (), b))
  | mint {receiver : Account}
      (hsource : isReceiverChainSource p.portIdOnA p.chanIdOnA data.token.denom = false)
      (hmint : T.bank.mintCoinsExecute receiver
        ⟨data.token.denom.addTracePrefix ⟨p.portIdOnB, p.chanIdOnB⟩, data.token.amount⟩ a =
          (.ok (), b))

end Receiving

namespace TransferChain

variable {CS Cons Account μ : Type} [DecidableEq Account] {C : TransferChain CS Cons Account μ}
  {a b : μ} {p : Packet} {data : PacketData} {ack : Acknowledgement}

theorem runChecked_cases {extras : ModuleExtras} {check : Except TokenTransferError Unit}
    {op : BankOp μ} {change : Ledger.Change Account PrefixedDenom} (hop : op.Makes C.ledger change)
    {r : Except (ModuleExtras × TokenTransferError) ModuleExtras}
    (h : TransferHost.runChecked extras check op a = (r, b)) :
    (∃ e, r = .error e) ∧ C.ledger b = C.ledger a ∨ (∃ x, r = .ok x) ∧ op a = (.ok (), b) := by
  unfold TransferHost.runChecked at h
  split at h
  · obtain ⟨rfl, rfl⟩ := Prod.mk.inj h
    exact .inl ⟨⟨_, rfl⟩, rfl⟩
  · split at h
    · next hrun =>
      obtain ⟨rfl, rfl⟩ := Prod.mk.inj h
      exact .inl ⟨⟨_, rfl⟩, hop.error hrun⟩
    · next hrun =>
      obtain ⟨rfl, rfl⟩ := Prod.mk.inj h
      exact .inr ⟨⟨_, rfl⟩, hrun⟩

/-- A packet is taken and its tokens are given, or it is refused and nothing changes. -/
theorem processRecvPacket_cases {r : Except (ModuleExtras × TokenTransferError) ModuleExtras}
    (h : C.app.processRecvPacketExecute p data a = (r, b)) :
    (∃ e, r = .error e) ∧ C.ledger b = C.ledger a ∨
      (∃ x, r = .ok x) ∧ C.app.Gives p data a b := by
  unfold TransferHost.processRecvPacketExecute at h
  have refused {e : ModuleExtras × TokenTransferError}
      (h : ((.error e : Except _ ModuleExtras), a) = (r, b)) :
      (∃ e, r = .error e) ∧ C.ledger b = C.ledger a := by
    obtain ⟨rfl, rfl⟩ := Prod.mk.inj h
    exact ⟨⟨_, rfl⟩, rfl⟩
  split at h
  · exact .inl (refused h)
  split at h
  · exact .inl (refused h)
  split_ifs at h with hsource
  · split at h
    · exact .inl (refused h)
    · next hescrow =>
      refine (runChecked_cases (C.send _ _ _) h).imp_right fun hok => ⟨hok.1, ?_⟩
      exact .release hsource hescrow hok.2
  · refine (runChecked_cases (C.mint _ _) h).imp_right fun hok => ⟨hok.1, ?_⟩
    exact .mint (Bool.not_eq_true _ ▸ hsource) hok.2

/-- The success that the application answers is read as one. -/
theorem success_isSuccess :
    (AcknowledgementStatus.success ackSuccessB64).toAcknowledgement.isSuccess = true := by
  have hplain : (AcknowledgementStatus.success ackSuccessB64).Plain := by decide
  have hread := AcknowledgementStatus.fromSlice_toVec_eq_self.mpr hplain
  simp only [Acknowledgement.isSuccess, AcknowledgementStatus.toAcknowledgement, hread]
  rfl

/-- An error is never read as a success. -/
theorem error_not_isSuccess (v : StatusValue) :
    (AcknowledgementStatus.error v).toAcknowledgement.isSuccess = false := by
  rw [Acknowledgement.isSuccess, ← Bool.not_eq_true, Option.any_eq_true]
  rintro ⟨status, hread, hok⟩
  have hkind := AcknowledgementStatus.isSuccessful_of_fromSlice hread
  rw [hok] at hkind
  cases hkind

/-- The tokens of a received packet are given exactly when the answer is a success. -/
theorem onRecvPacket_cases {extras : ModuleExtras}
    (h : C.app.onRecvPacketExecute p a = ((extras, ack), b)) :
    ack.isSuccess = false ∧ C.ledger b = C.ledger a ∨
      ack.isSuccess = true ∧ ∃ data, C.app.packetData p.data = .ok data ∧
        C.app.Gives p data a b := by
  unfold TransferHost.onRecvPacketExecute at h
  split at h
  · simp only [Prod.mk.injEq] at h
    obtain ⟨⟨-, rfl⟩, rfl⟩ := h
    exact .inl ⟨error_not_isSuccess _, rfl⟩
  · next data hdata =>
    unfold TransferHost.recvStatus at h
    rcases hrun : C.app.processRecvPacketExecute p data a with ⟨r, b'⟩
    rcases processRecvPacket_cases hrun with ⟨⟨e, rfl⟩, hledger⟩ | ⟨⟨x, rfl⟩, hgives⟩
    all_goals
      rw [hrun] at h
      simp only [Prod.mk.injEq] at h
      obtain ⟨⟨-, rfl⟩, rfl⟩ := h
    · exact .inl ⟨error_not_isSuccess _, hledger⟩
    · exact .inr ⟨success_isSuccess, data, hdata, hgives⟩

/-- Given tokens are accounted for by the packet that brought them. -/
theorem gives_balanced (hack : ack.isSuccess = true) (hdata : C.app.packetData p.data = .ok data)
    (h : C.app.Gives p data a b) : C.Balanced a b [.recvPacket p ack] := by
  have haccepted : acceptedOn p.chanOnB [.recvPacket p ack] = [p] := by
    simp [acceptedOn, Action.acceptedOn, hack]
  cases h with
  | release hsource hescrow hsend =>
    have hchange := (C.send _ _ _).ok hsend
    rw [C.escrow_eq hescrow] at hchange
    refine balanced_of_release (k := p.chanOnB) hchange (fun _ => rfl) ?_
    have hback := PrefixedDenom.addTracePrefix_removeTracePrefix hsource
    rw [haccepted, weight_singleton]
    exact (TransferHost.amount_of_eq hdata hback.symm).ge.trans (Nat.le_add_left _ _)
  | mint hsource hmint =>
    refine balanced_of_mint ((C.mint _ _).ok hmint) (fun _ => rfl) ?_
    intro key d hsame
    obtain ⟨rfl, hkey⟩ := PrefixedDenom.addTracePrefix_inj hsame
    obtain rfl : key = p.chanOnB := ChannelKey.tracePrefix_inj.mp hkey
    rw [haccepted, weight_singleton]
    exact (TransferHost.amount_of_eq hdata rfl).ge.trans (Nat.le_add_right _ _)

end TransferChain

/-! ### Refunds -/

/-- How the tokens of a packet are given back to the sender. -/
inductive TransferHost.Refunds {Account μ : Type} (T : TransferHost Account μ) (p : Packet)
    (data : PacketData) (a b : μ) : Prop where
  | release {escrow sender : Account}
      (hsource : isSenderChainSource p.portIdOnA p.chanIdOnA data.token.denom = true)
      (hescrow : T.bank.getEscrowAccount a p.portIdOnA p.chanIdOnA = .ok escrow)
      (hsend : T.bank.sendCoinsExecute escrow sender data.token a = (.ok (), b))
  | mint {sender : Account}
      (hsource : isSenderChainSource p.portIdOnA p.chanIdOnA data.token.denom = false)
      (hmint : T.bank.mintCoinsExecute sender data.token a = (.ok (), b))

namespace TransferChain

variable {CS Cons Account μ : Type} [DecidableEq Account] {C : TransferChain CS Cons Account μ}
  {a b : μ} {p : Packet} {data : PacketData} {ack : Acknowledgement}

/-- A refund works, or it changes nothing. -/
theorem refundPacketToken_cases {r : Except TokenTransferError Unit}
    (h : C.app.refundPacketTokenExecute p data a = (r, b)) :
    (∃ e, r = .error e) ∧ C.ledger b = C.ledger a ∨ r = .ok () ∧ C.app.Refunds p data a b := by
  unfold TransferHost.refundPacketTokenExecute at h
  split at h
  · obtain ⟨rfl, rfl⟩ := Prod.mk.inj h
    exact .inl ⟨⟨_, rfl⟩, rfl⟩
  split_ifs at h with hsource
  · split at h
    · obtain ⟨rfl, rfl⟩ := Prod.mk.inj h
      exact .inl ⟨⟨_, rfl⟩, rfl⟩
    · next hescrow =>
      cases r with
      | error e => exact .inl ⟨⟨e, rfl⟩, (C.send _ _ _).error h⟩
      | ok => exact .inr ⟨rfl, .release hsource hescrow h⟩
  · cases r with
    | error e => exact .inl ⟨⟨e, rfl⟩, (C.mint _ _).error h⟩
    | ok => exact .inr ⟨rfl, .mint (Bool.not_eq_true _ ▸ hsource) h⟩

/-- Refunded tokens are accounted for by the packet that took them. -/
theorem refunds_balanced {x : Action} (hsent : ∀ key, x.sentOn key = none)
    (hx : x.refundedOn p.chanOnA = some p) (hdata : C.app.packetData p.data = .ok data)
    (h : C.app.Refunds p data a b) : C.Balanced a b [x] := by
  have hnone : ∀ key, sentOn key [x] = [] := fun key => by simp [sentOn, hsent key]
  have hrefunded : refundedOn p.chanOnA [x] = [p] := by simp [refundedOn, hx]
  cases h with
  | release hsource hescrow hsend =>
    have hchange := (C.send _ _ _).ok hsend
    rw [C.escrow_eq hescrow] at hchange
    refine balanced_of_release (k := p.chanOnA) hchange hnone ?_
    rw [hrefunded, weight_singleton]
    exact (TransferHost.amount_of_eq hdata rfl).ge.trans (Nat.le_add_right _ _)
  | mint hsource hmint =>
    refine balanced_of_mint ((C.mint _ _).ok hmint) hnone ?_
    intro key d hsame
    -- Only vouchers of the channel are burned, so the trace starts with it.
    have hstarts : data.token.denom.tracePath.startsWith p.chanOnA.tracePrefix = true :=
      (Bool.not_eq_false' _).mp hsource
    rw [← hsame, PrefixedDenom.startsWith_addTracePrefix] at hstarts
    obtain rfl : p.chanOnA = key := ChannelKey.tracePrefix_inj.mp hstarts
    rw [hrefunded, weight_singleton]
    exact (TransferHost.amount_of_eq hdata rfl).ge.trans (Nat.le_add_left _ _)

/-- A callback that ends with a refund: it works, or nothing changes. -/
theorem afterRefund_cases {extras extras' : ModuleExtras} {r : Except TokenTransferError Unit}
    (h : TransferHost.afterRefund extras (C.app.refundPacketTokenExecute p data a) =
      ((extras', r), b)) :
    r.isOk = false ∧ C.ledger b = C.ledger a ∨ r.isOk = true ∧ C.app.Refunds p data a b := by
  rcases hrun : C.app.refundPacketTokenExecute p data a with ⟨r', b'⟩
  rw [hrun] at h
  rcases refundPacketToken_cases hrun with ⟨⟨e, rfl⟩, hledger⟩ | ⟨rfl, hrefunds⟩
  all_goals
    simp only [TransferHost.afterRefund, Prod.mk.injEq] at h
    obtain ⟨⟨-, rfl⟩, rfl⟩ := h
  · exact .inl ⟨rfl, hledger⟩
  · exact .inr ⟨rfl, hrefunds⟩

theorem idle_timeoutPacket : (Action.timeoutPacket p false).Idle := fun _ => ⟨rfl, rfl, rfl⟩

/-- A timeout refunds the tokens, or it fails. -/
theorem onTimeoutPacket_balanced {extras : ModuleExtras} {r : Except TokenTransferError Unit}
    (h : C.app.onTimeoutPacketExecute p a = ((extras, r), b)) :
    C.Balanced a b [.timeoutPacket p r.isOk] := by
  unfold TransferHost.onTimeoutPacketExecute at h
  split at h
  · simp only [Prod.mk.injEq] at h
    obtain ⟨⟨-, rfl⟩, rfl⟩ := h
    exact (Harmless.of_eq rfl).balanced idle_timeoutPacket
  · next data hdata =>
    rcases afterRefund_cases h with ⟨hr, hledger⟩ | ⟨hr, hrefunds⟩
    · rw [hr]
      exact (Harmless.of_eq hledger).balanced idle_timeoutPacket
    · rw [hr]
      exact refunds_balanced (fun _ => rfl) (if_pos rfl) hdata hrefunds

/-- An acknowledgement that is no failure, or whose callback fails, moves nothing. -/
theorem idle_acknowledgePacket {ok : Bool} (h : ok = true → ack.isFailure = false) :
    (Action.acknowledgePacket p ack ok).Idle := by
  intro key
  refine ⟨rfl, rfl, ?_⟩
  cases ok with
  | false => rfl
  | true => simp [Action.refundedOn, h rfl]

/-- An acknowledgement refunds the tokens exactly when it is a failure. -/
theorem onAcknowledgementPacket_balanced {extras : ModuleExtras}
    {r : Except TokenTransferError Unit}
    (h : C.app.onAcknowledgementPacketExecute p ack a = ((extras, r), b)) :
    C.Balanced a b [.acknowledgePacket p ack r.isOk] := by
  unfold TransferHost.onAcknowledgementPacketExecute at h
  split at h
  · simp only [Prod.mk.injEq] at h
    obtain ⟨⟨-, rfl⟩, rfl⟩ := h
    exact (Harmless.of_eq rfl).balanced (idle_acknowledgePacket nofun)
  next data hdata =>
  split at h
  · simp only [Prod.mk.injEq] at h
    obtain ⟨⟨-, rfl⟩, rfl⟩ := h
    exact (Harmless.of_eq rfl).balanced (idle_acknowledgePacket nofun)
  next status hread =>
  have hfailure : ack.isFailure = !status.isSuccessful := by
    rw [Acknowledgement.isFailure, hread, Option.any_some]
  split_ifs at h with hok
  · simp only [Prod.mk.injEq] at h
    obtain ⟨⟨-, rfl⟩, rfl⟩ := h
    refine (Harmless.of_eq rfl).balanced (idle_acknowledgePacket fun _ => ?_)
    rw [hfailure, hok]
    rfl
  · rcases afterRefund_cases h with ⟨hr, hledger⟩ | ⟨hr, hrefunds⟩
    · rw [hr]
      exact (Harmless.of_eq hledger).balanced (idle_acknowledgePacket nofun)
    · rw [hr]
      refine refunds_balanced (fun _ => rfl) (if_pos ⟨rfl, ?_⟩) hdata hrefunds
      rw [hfailure, Bool.eq_false_iff.mpr hok]
      rfl

/-- A received packet gives its tokens, or it is refused. -/
theorem onRecvPacket_balanced {extras : ModuleExtras}
    (h : C.app.onRecvPacketExecute p a = ((extras, ack), b)) :
    C.Balanced a b [.recvPacket p ack] := by
  rcases onRecvPacket_cases h with ⟨hack, hledger⟩ | ⟨hack, data, hdata, hgives⟩
  · refine (Harmless.of_eq hledger).balanced fun key => ⟨rfl, ?_, rfl⟩
    simp [Action.acceptedOn, hack]
  · exact gives_balanced hack hdata hgives

end TransferChain

/-! ### Sending -/

namespace TransferChain

open Exec

variable {CS Cons Account μ : Type} [DecidableEq Account] {C : TransferChain CS Cons Account μ}
  {msg : MsgTransfer} {s s' : Ctx CS Cons μ}

variable (C) in
/-- What a request to send tokens does: nothing, or it takes the tokens and hands a packet to the
core. The events and logs that follow are no concern of the core. -/
inductive Sends (msg : MsgTransfer) (s s' : Ctx CS Cons μ) : Prop where
  | keeps (app : μ) (hs : s' = { s with app := app }) (hledger : C.ledger app = C.ledger s.app)
  | takes (sender : Account) (app : μ) (p : Packet) (r : Result ContextError Unit)
      (t : Ctx CS Cons μ) (hsender : C.app.accountOf msg.packetData.sender = .ok sender)
      (htakes : C.app.Takes msg sender s.app app) (hp : C.app.transferPacket s msg = .ok p)
      (hsend : sendPacket C.host p { s with app := app } = (r, t)) (hr : r.Returns)
      (hs : s'.silent = t.silent)

variable (C) in
/-- Tokens are taken, or nothing changes. -/
def TakesOrKeeps (msg : MsgTransfer) (sender : Account) (s : Ctx CS Cons μ)
    (r : Result TokenTransferError Unit) (s' : Ctx CS Cons μ) : Prop :=
  s' = { s with app := s'.app } ∧
    ((∃ e, r = .error e) ∧ C.ledger s'.app = C.ledger s.app ∨
      r = .ok () ∧ C.app.Takes msg sender s.app s'.app)

theorem runBank_ensures {op : BankOp μ} {change : Ledger.Change Account PrefixedDenom}
    {sender : Account} (hop : op.Makes C.ledger change)
    (htakes : ∀ b, op s.app = (.ok (), b) → C.app.Takes msg sender s.app b) :
    Ensures (TransferHost.runBank op) s (C.TakesOrKeeps msg sender s) := by
  rcases hrun : op s.app with ⟨_ | _, b⟩
  all_goals
    rw [Ensures, TransferHost.runBank, hrun]
    refine ⟨rfl, ?_⟩
  · exact .inl ⟨⟨_, rfl⟩, hop.error hrun⟩
  · exact .inr ⟨rfl, htakes b hrun⟩

theorem takeCoins_ensures {sender : Account} :
    Ensures (C.app.takeCoinsExecute msg sender) s (C.TakesOrKeeps msg sender s) := by
  refine ensures_read_bind (Ensures.ite (fun hsource => ?_) fun hsource => ?_)
  · refine Ensures.ofExcept_bind (fun e _ => ⟨rfl, .inl ⟨⟨_, rfl⟩, rfl⟩⟩) fun escrow hescrow => ?_
    exact runBank_ensures (C.send _ _ _) fun b hrun => .escrow hsource hescrow hrun
  · exact runBank_ensures (C.burn _ _) fun b hrun => .burn (Bool.eq_false_iff.mpr hsource) hrun

theorem sendPacketValidate_of_sendTransferValidate {p : Packet}
    (h : C.app.sendTransferValidate C.host s msg = .ok ())
    (hp : C.app.transferPacket s msg = .ok p) : sendPacketValidate C.host s p = .ok () := by
  obtain ⟨packet, hcall, hvalid⟩ := Result.bind_eq_ok.mp h
  have hchecks := Result.ofExcept_eq_ok.mp hcall
  obtain ⟨_, -, hchecks⟩ := Result.bind_eq_ok.mp hchecks
  obtain ⟨q, hq, hchecks⟩ := Result.bind_eq_ok.mp hchecks
  obtain ⟨_, -, hchecks⟩ := Result.bind_eq_ok.mp hchecks
  obtain rfl : p = q := Except.ok.inj (hp.symm.trans hq)
  have hpacket : p = packet := by
    split_ifs at hchecks
    · obtain ⟨_, -, hchecks⟩ := Result.bind_eq_ok.mp hchecks
      obtain ⟨_, -, hchecks⟩ := Result.bind_eq_ok.mp hchecks
      exact Result.pure_eq_ok.mp hchecks
    · obtain ⟨_, -, hchecks⟩ := Result.bind_eq_ok.mp hchecks
      exact Result.pure_eq_ok.mp hchecks
  rw [hpacket]
  exact Result.mapErr_eq_ok.mp hvalid

/-- The core does not look at the bank: a packet that was valid before the tokens were taken is
sent. -/
theorem sendPacket_of_validated {p : Packet} {app : μ}
    (h : sendPacketValidate C.host s p = .ok ()) :
    sendPacket C.host p { s with app := app } =
      sendPacketExecute C.host p { s with app := app } := by
  have hvalid : sendPacketValidate C.host { s with app := app } p = .ok () := h
  rw [sendPacket, read_bind]
  change (ofResult (sendPacketValidate C.host { s with app := app } p) >>=
    fun _ => sendPacketExecute C.host p) _ = _
  rw [hvalid, ofResult_ok_bind]

/-- **What a request to send tokens does.** -/
theorem sendTransfer_ensures : Ensures (C.app.sendTransfer C.host msg) s
    fun r s' => r.Returns → C.Sends msg s s' := by
  have keeps : C.Sends msg s s := .keeps s.app rfl rfl
  refine ensures_read_bind (Ensures.ofResult_bind (fun _ _ _ => keeps) fun _ hvalid => ?_)
  refine ensures_read_bind (Ensures.ofExcept_bind (fun _ _ _ => keeps) fun p hp => ?_)
  refine Ensures.ofExcept_bind (fun _ _ _ => keeps) fun sender hsender => ?_
  refine takeCoins_ensures.bind ?_ ?_
  · rintro e t ⟨hs, ⟨-, hledger⟩ | ⟨hok, -⟩⟩ -
    · exact .keeps t.app hs hledger
    · cases hok
  · rintro _ t ⟨hs, ⟨⟨e, herror⟩, -⟩ | ⟨-, htakes⟩⟩
    · cases herror
    have hsend : sendPacket C.host p { s with app := t.app } = sendPacketExecute C.host p t := by
      rw [hs]
      exact sendPacket_of_validated (sendPacketValidate_of_sendTransferValidate hvalid hp)
    rcases hrun : sendPacketExecute C.host p t with ⟨(e | c) | _, t'⟩
    · have hcall : (sendPacketExecute C.host p).mapErr TokenTransferError.contextError t =
          (.error (.err (.contextError e)), t') := by
        rw [Exec.mapErr, hrun]
        rfl
      rw [Ensures, bind_of_error hcall]
      exact fun _ => .takes sender t.app p _ t' hsender htakes hp (hsend.trans hrun)
        Result.returns_err rfl
    · have hcall : (sendPacketExecute C.host p).mapErr TokenTransferError.contextError t =
          (.error (.panic c), t') := by
        rw [Exec.mapErr, hrun]
        rfl
      rw [Ensures, bind_of_error hcall]
      exact fun hr => absurd hr Result.not_returns_panic
    · have hcall : (sendPacketExecute C.host p).mapErr TokenTransferError.contextError t =
          (.ok (), t') := mapErr_eq_ok.mpr hrun
      rw [Ensures, bind_of_ok hcall]
      exact fun _ => .takes sender t.app p _ t' hsender htakes hp (hsend.trans hrun)
        Result.returns_ok rfl

theorem Sends.of_run {r : Result TokenTransferError Unit}
    (hrun : C.app.sendTransfer C.host msg s = (r, s')) (hr : r.Returns) : C.Sends msg s s' := by
  have hensures : Ensures (C.app.sendTransfer C.host msg) s
    fun r s' => r.Returns → C.Sends msg s s' := sendTransfer_ensures
  rw [Ensures, hrun] at hensures
  exact hensures hr

/-! ### Every step keeps the rule -/

theorem sendPacket_keeps_app (H : Host CS Cons μ) (p : Packet) :
    Preserves Ctx.app (sendPacket H p) := by
  refine Preserves.read_bind fun _ => Preserves.ofResult_bind fun _ => ?_
  refine Preserves.read_bind fun _ => Preserves.ofResult_bind fun _ => ?_
  refine Preserves.ofResult_bind fun _ => Preserves.write_bind (fun _ => rfl) ?_
  refine Preserves.ofResult_bind fun _ => Preserves.write_bind (fun _ => rfl) ?_
  refine Preserves.write_bind (fun _ => rfl) <| Preserves.read_bind fun _ => ?_
  exact Preserves.ofResult_bind fun _ => Preserves.ofResult_bind fun _ _ => rfl

/-- What a packet to be sent is accounted with. -/
theorem weight_sentOn_le {p : Packet} {data : PacketData} {history : List Action}
    (hdata : C.app.packetData p.data = .ok data)
    (hh : history = [] ∨ history = [.sendPacket p]) (key : ChannelKey) (d : PrefixedDenom) :
    weight (C.app.amount d) (sentOn key history) ≤
      if key = p.chanOnA ∧ d = data.token.denom then data.token.amount.val else 0 := by
  rcases hh with rfl | rfl
  · exact Nat.zero_le _
  · by_cases hkey : p.chanOnA = key
    · subst hkey
      by_cases hd : d = data.token.denom
      · simp [sentOn, Action.sentOn, TransferHost.amount_eq hdata, hd]
      · simp [sentOn, Action.sentOn, TransferHost.amount_eq hdata, Ne.symm hd]
    · simp [sentOn, Action.sentOn, hkey]

/-- Tokens that are taken are accounted for, whether or not the packet is sent. -/
theorem takes_balanced {raw : RawMsgTransfer} {sender : Account} {a b : μ} {p : Packet}
    {history : List Action} (hmsg : MsgTransfer.tryFrom C.app.isAlphanumeric raw = .ok msg)
    (hp : C.app.transferPacket s msg = .ok p) (hsender : ∀ key, sender ≠ C.escrow key)
    (hh : history = [] ∨ history = [.sendPacket p]) (h : C.app.Takes msg sender a b) :
    C.Balanced a b history := by
  obtain ⟨hdata, hport, hchan⟩ := C.app.packetData_of_transferPacket hmsg hp
  have hkey : (msg.portIdOnA, msg.chanIdOnA) = p.chanOnA := by rw [← hport, ← hchan]; rfl
  have hsent := weight_sentOn_le hdata hh
  cases h with
  | escrow hsource hescrow hsend =>
    have hchange := (C.send _ _ _).ok hsend
    rw [C.escrow_eq hescrow, hkey] at hchange
    refine balanced_of_escrow hchange hsender hsent ?_
    rw [← hkey]
    exact (Bool.not_eq_true' _).mp hsource
  | burn hsource hburn =>
    refine balanced_of_burn ((C.burn _ _).ok hburn) hsender hsent ?_
    rw [← hkey]
    exact (Bool.not_eq_false' _).mp hsource

theorem Sends.balanced {raw : RawMsgTransfer}
    (hmsg : MsgTransfer.tryFrom C.app.isAlphanumeric raw = .ok msg)
    (hsigner : ∀ key, C.app.accountOf msg.packetData.sender ≠ .ok (C.escrow key))
    (h : C.Sends msg s s') :
    ∃ l, s'.history = s.history ++ l ∧ C.Balanced s.app s'.app l := by
  cases h with
  | keeps app hs hledger =>
    subst hs
    exact ⟨[], (List.append_nil _).symm, (Harmless.of_eq hledger).balanced_nil⟩
  | takes sender app p r t hsender htakes hp hsend hr hs =>
    have hne : ∀ key, sender ≠ C.escrow key := by
      rintro key rfl
      exact hsigner key hsender
    obtain ⟨-, happ, -, hhistory⟩ := Ctx.silent_eq_silent.mp hs
    have hkeeps := sendPacket_keeps_app C.host p { s with app := app }
    rw [hsend] at hkeeps
    have hrecords : RecordsSend { s with app := app } p r t := by
      have hensures := sendPacket_records (H := C.host) (s := { s with app := app }) (p := p)
      rwa [Ensures, hsend] at hensures
    rw [happ, hhistory, show t.app = app from hkeeps]
    rcases hrecords with hh | hh
    · exact ⟨[], hh.trans (List.append_nil _).symm,
        takes_balanced hmsg hp hne (.inl rfl) htakes⟩
    · exact ⟨[.sendPacket p], hh, takes_balanced hmsg hp hne (.inr rfl) htakes⟩

variable (C) in
theorem isolated : C.host.Isolated := by
  intro port m hm
  rw [C.runs port m hm]
  exact C.app.toModule_isolated

/-- The application does nothing in a handshake. -/
theorem app_eq_of_frame (h : AppFrame C.host s s') : s'.app = s.app := by
  rcases h with h | ⟨port, m, hm, hcall⟩
  · exact h
  · rw [C.runs port m hm] at hcall
    cases hcall with
    | openInit _ _ _ _ _ _ h | openTry _ _ _ _ _ _ h | openAck _ _ _ h | openConfirm _ _ h
    | closeInit _ _ h | closeConfirm _ _ h => exact h.symm

/-- **Every step keeps the rule of the books.** -/
theorem Step.balanced {ok : Input Cons μ → Prop} (h : C.Step ok s s') :
    ∃ l, s'.history = s.history ++ l ∧ C.Balanced s.app s'.app l := by
  have frame (hh : s'.history = s.history) (happ : s'.app = s.app) :
      ∃ l, s'.history = s.history ++ l ∧ C.Balanced s.app s'.app l :=
    ⟨[], hh.trans (List.append_nil _).symm, (Harmless.of_eq (by rw [happ])).balanced_nil⟩
  cases h with
  | transfer raw msg r hmsg hsigner hrun hr =>
    exact (Sends.of_run hrun hr).balanced hmsg hsigner
  | core i _ hsend happ _ hs =>
    cases hs.effect C.isolated with
    | quiet _ hh ha => exact frame hh (app_eq_of_frame ha)
    | application _ hh hi =>
      exact ⟨[], hh.trans (List.append_nil _).symm, (happ _ hi).balanced_nil⟩
    | opens _ _ _ _ hh ha => exact frame hh (app_eq_of_frame ha)
    | moves _ _ _ _ _ _ hh ha => exact frame hh (app_eq_of_frame ha)
    | sends p _ _ hi => exact absurd hi (hsend p)
    | receives p ack e m extras signer _ _ _ _ _ hh hm ha =>
      rw [C.runs _ _ hm] at ha
      exact ⟨_, hh, onRecvPacket_balanced (TransferHost.toModule_recv ha)⟩
    | acknowledges p ack e cm r m extras signer _ _ _ _ _ _ _ hh hm ha =>
      rw [C.runs _ _ hm] at ha
      obtain ⟨r', hr, hcall⟩ := TransferHost.toModule_acknowledge ha
      exact ⟨_, hh, hr ▸ onAcknowledgementPacket_balanced hcall⟩
    | timesOut p e cm r m extras signer _ _ _ _ _ _ hh hm ha =>
      rw [C.runs _ _ hm] at ha
      obtain ⟨r', hr, hcall⟩ := TransferHost.toModule_timeout ha
      exact ⟨_, hh, hr ▸ onTimeoutPacket_balanced hcall⟩

end TransferChain

end Ibc
