import Ibc.Protocol.MockRun
import Ibc.Support.Ledger
import Ibc.Transfer.DenomText
import Ibc.Transfer.Send

/-!
# Refunds

A transfer decides from the denomination of its message whether the tokens are escrowed or burned.
The refund decides again, from the denomination printed in the packet. Both texts of a packet are
read back as they were (`PacketData.tryFrom_toRaw`), so the refund takes the same side, and on a
bank that moves exactly what it is told it undoes the transfer (`refund_undoes_transfer`).
-/

namespace Ibc

/-! ### Packet data -/

namespace Amount

/-- Reading digits never makes a number smaller. -/
theorem le_ofDigitChars (cs : List Char) (n : ℕ) : n ≤ Nat.ofDigitChars 10 cs n := by
  induction cs generalizing n with
  | nil => simp
  | cons c cs ih =>
    rw [Nat.ofDigitChars_cons]
    have hle := ih (10 * n + (c.toNat - '0'.toNat))
    omega

theorem readDigits_eq_ok {cs : List Char} (hcs : ∀ c ∈ cs, c.isDigit = true) {acc a : Amount}
    (h : Nat.ofDigitChars 10 cs acc.val = a.val) : readDigits acc cs = .ok a := by
  induction cs generalizing acc with
  | nil =>
    have heq : acc.val = a.val := by simpa using h
    rw [readDigits, Except.ok.injEq]
    cases acc
    cases a
    simpa using heq
  | cons c cs ih =>
    obtain ⟨hc, hcs⟩ := List.forall_mem_cons.mp hcs
    rw [Nat.ofDigitChars_cons] at h
    have hle := le_ofDigitChars cs (10 * acc.val + (c.toNat - '0'.toNat))
    have hlt : 10 * acc.val + (c.toNat - '0'.toNat) < 2 ^ 256 := by
      rw [h] at hle
      exact hle.trans_lt a.lt
    have hten : acc.val * 10 < 2 ^ 256 := by omega
    have hadd : acc.val * 10 + (c.toNat - '0'.toNat) < 2 ^ 256 := by omega
    rw [readDigits, Result.ensure, if_pos hc, ofNat, dif_pos hten, Result.ok_bind, Result.ok_bind,
      ofNat, dif_pos hadd, Result.ok_bind]
    refine ih hcs ?_
    rw [← h, Nat.mul_comm 10]

/-- An amount is read back from its decimal text. -/
theorem fromStr_toText (a : Amount) : fromStr a.toText = .ok a := by
  have hlist : (toString a.val).toList = Nat.toDigits 10 a.val := by simp
  have hdigits : ∀ c ∈ Nat.toDigits 10 a.val, c.isDigit = true := fun _ =>
    Numeral.isDigit_of_mem_toDigits
  rw [fromStr, toText, hlist, readDigits_eq_ok hdigits Nat.ofDigitChars_ten_toDigits]
  rfl

end Amount

variable {alnum : Char → Bool}

theorem PrefixedDenom.fromStr_toText_of_fromStr {s : String} {d : PrefixedDenom}
    (h : fromStr alnum s = .ok d) : fromStr alnum d.toText = .ok d := by
  rw [toText_of_fromStr h]
  exact h

/-- Packet data is read back when its denomination was read from a text. -/
theorem PacketData.tryFrom_toRaw {data : PacketData} {s : String}
    (h : PrefixedDenom.fromStr alnum s = .ok data.token.denom) :
    tryFrom alnum data.toRaw = .ok data := by
  simp only [tryFrom, toRaw, PrefixedDenom.fromStr_toText_of_fromStr h, Amount.fromStr_toText,
    Result.ok_bind]
  rfl

theorem MsgTransfer.denom_of_tryFrom {raw : RawMsgTransfer} {msg : MsgTransfer}
    (h : tryFrom alnum raw = .ok msg) :
    ∃ s, PrefixedDenom.fromStr alnum s = .ok msg.packetData.token.denom := by
  simp only [tryFrom, PrefixedCoin.tryFrom, Result.bind_eq_ok, Result.mapError_eq_ok,
    Result.pure_eq_ok] at h
  obtain ⟨_, -, _, -, _, -, _, -, coin, -, _, ⟨d, hd, _, -, rfl⟩, rfl⟩ := h
  exact ⟨coin.denom, hd⟩

/-! ### Banks -/

section Bank

variable {Account μ : Type} [DecidableEq Account]

/-- The bank keeps the books of `ledger`: each operation that succeeds makes the change of its name,
and only a send or a burn without the funds may fail. The escrow account of a channel is fixed. -/
structure Bank.Keeps (B : Bank Account μ) (ledger : μ → Ledger Account PrefixedDenom) : Prop where
  escrow : ∀ a b port channel,
    B.getEscrowAccount a port channel = B.getEscrowAccount b port channel
  send : ∀ x y coin a b, B.sendCoinsExecute x y coin a = (.ok (), b) →
    (ledger a).change (ledger b) = Ledger.moved x y coin.denom coin.amount.val
  send_funded : ∀ x y coin a, coin.amount.val ≤ (ledger a).balance x coin.denom →
    ∃ b, B.sendCoinsExecute x y coin a = (.ok (), b)
  mint : ∀ x coin a, ∃ b, B.mintCoinsExecute x coin a = (.ok (), b) ∧
    (ledger a).change (ledger b) = Ledger.minted x coin.denom coin.amount.val
  burn : ∀ x coin a b, B.burnCoinsExecute x coin a = (.ok (), b) →
    (ledger a).change (ledger b) = -Ledger.minted x coin.denom coin.amount.val

end Bank

/-! ### What a transfer does -/

section Send

open Exec

variable {CS Cons Account μ : Type} {H : Host CS Cons μ} {T : TransferHost Account μ}
  {s s' : Ctx CS Cons μ} {msg : MsgTransfer} {p : Packet}

/-- Sending a packet leaves the application alone and announces the packet. -/
def Announces (p : Packet) (s : Ctx CS Cons μ) (r : Result ContextError Unit)
    (s' : Ctx CS Cons μ) : Prop :=
  s'.app = s.app ∧ (r = .ok () → ∃ ordering connId,
    s'.events = s.events ++ [.message .channel, .sendPacket p ordering connId])

theorem sendPacketExecute_announces : Ensures (sendPacketExecute H p) s (Announces p s) := by
  unfold sendPacketExecute
  refine ensures_read_bind (Ensures.ofExcept_bind (fun _ _ => ⟨rfl, nofun⟩) fun _ _ => ?_)
  refine Ensures.ofResult_bind (fun _ _ => ⟨rfl, nofun⟩) fun _ _ => ensures_write_bind ?_
  refine Ensures.ofResult_bind (fun _ _ => ⟨rfl, nofun⟩) fun _ _ => ensures_write_bind ?_
  refine ensures_write_bind (ensures_read_bind ?_)
  refine Ensures.ofExcept_bind (fun _ _ => ⟨rfl, nofun⟩) fun chanEnd _ => ?_
  refine Ensures.ofResult_bind (fun _ _ => ⟨rfl, nofun⟩) fun connId _ => ?_
  exact ⟨rfl, fun _ => ⟨chanEnd.ordering, connId, List.append_assoc _ _ _⟩⟩

theorem sendPacketExecute_eq_ok (h : sendPacketExecute H p s = (.ok (), s')) :
    s'.app = s.app ∧ ∃ ordering connId,
      s'.events = s.events ++ [.message .channel, .sendPacket p ordering connId] := by
  have hannounces := sendPacketExecute_announces (H := H) (s := s) (p := p)
  rw [Ensures, h] at hannounces
  exact ⟨hannounces.1, hannounces.2 rfl⟩

/-- How the tokens of a transfer leave the account of the sender. -/
inductive TransferHost.Takes (T : TransferHost Account μ) (msg : MsgTransfer) (sender : Account)
    (a b : μ) : Prop where
  | escrow (hsource : msg.escrows = true) {escrow : Account}
      (hescrow : T.bank.getEscrowAccount a msg.portIdOnA msg.chanIdOnA = .ok escrow)
      (hsend : T.bank.sendCoinsExecute sender escrow msg.packetData.token a = (.ok (), b))
  | burn (hsource : msg.escrows = false)
      (hburn : T.bank.burnCoinsExecute sender msg.packetData.token a = (.ok (), b))

theorem TransferHost.runBank_eq_ok {op : BankOp μ}
    (h : (runBank op : Exec (Ctx CS Cons μ) TokenTransferError Unit) s = (.ok (), s')) :
    op s.app = (.ok (), s'.app) ∧ s'.events = s.events := by
  obtain ⟨hr, rfl⟩ := Prod.mk.inj h
  exact ⟨Prod.ext (Result.ofExcept_eq_ok.mp hr) rfl, rfl⟩

theorem TransferHost.takeCoinsExecute_eq_ok {sender : Account}
    (h : T.takeCoinsExecute msg sender s = (.ok (), s')) :
    T.Takes msg sender s.app s'.app ∧ s'.events = s.events := by
  rw [takeCoinsExecute, read_bind] at h
  split_ifs at h with hsource
  · obtain ⟨escrow, s₁, hcall, h⟩ := bind_eq_ok.mp h
    obtain ⟨hescrow, rfl⟩ := ofExcept_eq_ok.mp hcall
    obtain ⟨hsend, hevents⟩ := runBank_eq_ok h
    exact ⟨.escrow hsource hescrow hsend, hevents⟩
  · obtain ⟨hburn, hevents⟩ := runBank_eq_ok h
    exact ⟨.burn (Bool.not_eq_true _ ▸ hsource) hburn, hevents⟩

/-- **What a successful transfer does**: it takes the tokens and announces one packet. -/
theorem TransferHost.sendTransfer_eq_ok (h : T.sendTransfer H msg s = (.ok (), s')) :
    ∃ packet sender ordering connId, T.transferPacket s msg = .ok packet ∧
      T.accountOf msg.packetData.sender = .ok sender ∧ T.Takes msg sender s.app s'.app ∧
      s'.events = s.events ++ [.message .channel, .sendPacket packet ordering connId,
        .module (TransferEvents.transfer msg.packetData),
        .message (.module transferModuleIdStr)] := by
  rw [sendTransfer, read_bind] at h
  obtain ⟨_, s₀, hvalidate, h⟩ := bind_eq_ok.mp h
  obtain ⟨-, rfl⟩ := ofResult_eq_ok.mp hvalidate
  rw [sendTransferExecute, read_bind] at h
  obtain ⟨packet, s₁, hcall, h⟩ := bind_eq_ok.mp h
  obtain ⟨hpacket, rfl⟩ := ofExcept_eq_ok.mp hcall
  obtain ⟨sender, s₂, hcall, h⟩ := bind_eq_ok.mp h
  obtain ⟨hsender, rfl⟩ := ofExcept_eq_ok.mp hcall
  obtain ⟨_, s₃, htake, h⟩ := bind_eq_ok.mp h
  obtain ⟨htakes, hevents⟩ := takeCoinsExecute_eq_ok htake
  obtain ⟨_, s₄, hsend, h⟩ := bind_eq_ok.mp h
  obtain ⟨happ, ordering, connId, hsent⟩ := sendPacketExecute_eq_ok (mapErr_eq_ok.mp hsend)
  -- What is left only logs and emits events.
  obtain ⟨-, rfl⟩ := Prod.mk.inj h
  refine ⟨packet, sender, ordering, connId, hpacket, hsender, ?_, ?_⟩
  · rw [← happ] at htakes
    exact htakes
  · simp [Ctx.emitIbcEvent, Ctx.logMessage, hsent, hevents]

end Send

/-! ### What a refund does -/

section Refund

variable {CS Cons Account μ : Type} {H : Host CS Cons μ} {T : TransferHost Account μ}
  {s s' : Ctx CS Cons μ} {msg : MsgTransfer} {p : Packet}

/-- The packet of a decoded message carries the data of the message. -/
theorem TransferHost.packetData_of_transferPacket {raw : RawMsgTransfer}
    (hmsg : MsgTransfer.tryFrom T.isAlphanumeric raw = .ok msg)
    (hp : T.transferPacket s msg = .ok p) :
    T.packetData p.data = .ok msg.packetData ∧ p.portIdOnA = msg.portIdOnA ∧
      p.chanIdOnA = msg.chanIdOnA := by
  simp only [transferPacket, Result.bind_eq_ok, Result.pure_eq_ok] at hp
  obtain ⟨_, -, _, -, _, -, rfl⟩ := hp
  obtain ⟨text, hdenom⟩ := msg.denom_of_tryFrom hmsg
  refine ⟨?_, rfl, rfl⟩
  rw [packetData, T.json.decode_encode, Result.okOr_some, Result.ok_bind,
    PacketData.tryFrom_toRaw hdenom]
  rfl

variable [DecidableEq Account] {ledger : μ → Ledger Account PrefixedDenom}

/-- The refund takes the side that the transfer took, and makes the opposite change. -/
theorem TransferHost.Takes.refund (keeps : T.bank.Keeps ledger) {sender : Account} {a b c : μ}
    (h : T.Takes msg sender a b) (hsender : T.accountOf msg.packetData.sender = .ok sender)
    (hport : p.portIdOnA = msg.portIdOnA) (hchan : p.chanIdOnA = msg.chanIdOnA)
    (hfunds : msg.escrows = true → ∀ escrow,
      T.bank.getEscrowAccount c msg.portIdOnA msg.chanIdOnA = .ok escrow →
      msg.packetData.token.amount.val ≤ (ledger c).balance escrow msg.packetData.token.denom) :
    ∃ d, T.refundPacketTokenExecute p msg.packetData c = (.ok (), d) ∧
      (ledger c).change (ledger d) = -(ledger a).change (ledger b) := by
  have hsource : isSenderChainSource msg.portIdOnA msg.chanIdOnA msg.packetData.token.denom =
      msg.escrows := rfl
  cases h with
  | @escrow htrue escrow hescrow hsend =>
    rw [keeps.escrow a c] at hescrow
    obtain ⟨d, hd⟩ := keeps.send_funded escrow sender _ c (hfunds htrue escrow hescrow)
    refine ⟨d, ?_, ?_⟩
    · simp only [refundPacketTokenExecute, hsender, hport, hchan, hsource, htrue, hescrow, hd,
        if_true]
    · rw [keeps.send _ _ _ _ _ hd, keeps.send _ _ _ _ _ hsend, Ledger.neg_moved]
  | burn hfalse hburn =>
    obtain ⟨d, hd, hchange⟩ := keeps.mint sender msg.packetData.token c
    refine ⟨d, ?_, ?_⟩
    · simp only [refundPacketTokenExecute, hsender, hport, hchan, hsource, hfalse, hd,
        Bool.false_eq_true, if_false]
    · rw [hchange, keeps.burn _ _ _ _ hburn, neg_neg]

/-- The packet that the step from `s` to `s'` announces. -/
def Ctx.Announced (s s' : Ctx CS Cons μ) (p : Packet) : Prop :=
  ∃ events ordering connId, s'.events = s.events ++ events ∧
    IbcEvent.sendPacket p ordering connId ∈ events

/-- **A refund undoes the transfer.** After a successful transfer of a decoded message, with the
escrow account of the channel still holding the amount if it was put there, a timeout of the packet
succeeds and so does every error acknowledgement that can be read. Each changes all balances and all
totals by the opposite of what the transfer changed. -/
theorem refund_undoes_transfer (keeps : T.bank.Keeps ledger) {raw : RawMsgTransfer}
    (hmsg : MsgTransfer.tryFrom T.isAlphanumeric raw = .ok msg)
    (hsend : T.sendTransfer H msg s = (.ok (), s')) (hp : s.Announced s' p) {a : μ}
    (hfunds : msg.escrows = true → ∀ escrow,
      T.bank.getEscrowAccount a msg.portIdOnA msg.chanIdOnA = .ok escrow →
      msg.packetData.token.amount.val ≤ (ledger a).balance escrow msg.packetData.token.denom) :
    (∃ extras b, T.onTimeoutPacketExecute p a = ((extras, .ok ()), b) ∧
      (ledger a).change (ledger b) = -(ledger s.app).change (ledger s'.app)) ∧
    ∀ ack status, AcknowledgementStatus.fromSlice ack.bytes = some status →
      status.isSuccessful = false →
      ∃ extras b, T.onAcknowledgementPacketExecute p ack a = ((extras, .ok ()), b) ∧
        (ledger a).change (ledger b) = -(ledger s.app).change (ledger s'.app) := by
  obtain ⟨packet, sender, ordering, connId, hpacket, hsender, htakes, hevents⟩ :=
    T.sendTransfer_eq_ok hsend
  obtain rfl : p = packet := by
    obtain ⟨events, ordering', connId', happend, hmem⟩ := hp
    rw [hevents, List.append_cancel_left_eq] at happend
    rw [← happend] at hmem
    obtain ⟨rfl, -, -⟩ : p = packet ∧ ordering' = ordering ∧ connId' = connId := by
      simpa using hmem
    rfl
  obtain ⟨hdata, hport, hchan⟩ := T.packetData_of_transferPacket hmsg hpacket
  obtain ⟨b, hrefund, hchange⟩ := htakes.refund keeps hsender hport hchan hfunds
  refine ⟨⟨⟨[TransferEvents.timeout msg.packetData], []⟩, b, ?_, hchange⟩, ?_⟩
  · simp only [TransferHost.onTimeoutPacketExecute, hdata, hrefund, TransferHost.afterRefund]
  · intro ack status hread herror
    refine ⟨TransferHost.ackExtras msg.packetData status, b, ?_, hchange⟩
    simp only [TransferHost.onAcknowledgementPacketExecute, hdata, hread, herror, hrefund,
      Bool.false_eq_true, if_false, TransferHost.afterRefund]

end Refund

/-! ### A transfer of ten tokens -/

namespace TransferRun

/-- A ledger that keeps its own books. Accounts are named by the texts of their signers. -/
def bank : Bank String (Ledger String PrefixedDenom) where
  account signer := some signer.str
  getPort _ := .ok .transfer
  getEscrowAccount _ port channel := .ok (port.str ++ "/" ++ channel.str)
  canSendCoins _ := .ok ()
  canReceiveCoins _ := .ok ()
  sendCoinsValidate l x _ coin :=
    Result.ensure (coin.amount.val ≤ l.balance x coin.denom) .invalidToken
  mintCoinsValidate _ _ _ := .ok ()
  burnCoinsValidate l x coin :=
    Result.ensure (coin.amount.val ≤ l.balance x coin.denom ∧ coin.amount.val ≤ l.supply coin.denom)
      .invalidToken
  denomHashString _ _ := none
  sendCoinsExecute x y coin l :=
    if coin.amount.val ≤ l.balance x coin.denom then
      (.ok (), l.move x y coin.denom coin.amount.val)
    else (.error .invalidToken, l)
  mintCoinsExecute x coin l := (.ok (), l.mint x coin.denom coin.amount.val)
  burnCoinsExecute x coin l :=
    if coin.amount.val ≤ l.balance x coin.denom ∧ coin.amount.val ≤ l.supply coin.denom then
      (.ok (), l.burn x coin.denom coin.amount.val)
    else (.error .invalidToken, l)

theorem bank_keeps : bank.Keeps id where
  escrow _ _ _ _ := rfl
  send x y coin a b h := by
    simp only [bank] at h
    split_ifs at h with hfunds
    · obtain ⟨-, rfl⟩ := Prod.mk.inj h
      exact Ledger.change_move hfunds
    · cases h
  send_funded x y coin a h := ⟨_, if_pos h⟩
  mint x coin a := ⟨_, rfl, Ledger.change_mint⟩
  burn x coin a b h := by
    simp only [bank] at h
    split_ifs at h with hfunds
    · obtain ⟨-, rfl⟩ := Prod.mk.inj h
      exact Ledger.change_burn hfunds.1 hfunds.2
    · cases h

def address : String := "cosmos1wxeyh7zgn4tctjzs0vtqpc6p5cxq5t2muzl7ng"

def rawData : RawPacketData := ⟨"uatom", "10", address, address, ""⟩

/-- The JSON text of the sample data. -/
def rawDataJson : String :=
  "\x7b\"denom\":\"uatom\",\"amount\":\"10\",\"sender\":\"" ++ address ++
    "\",\"receiver\":\"" ++ address ++ "\",\"memo\":\"\"\x7d"

theorem texts_tags : ∀ t ∈ (Proto.Rows.repeated 1 .string).tags, 0 < t := by decide

theorem texts_id (l : List String) : id (id l) = l := rfl

/-- The texts of packet data, one after the other. -/
def texts : Proto.Codec (List String) := .ofRows (.repeated 1 .string) id id texts_id texts_tags

def ofTexts : List String → Option RawPacketData
  | [denom, amount, sender, receiver, memo] => some ⟨denom, amount, sender, receiver, memo⟩
  | _ => none

/-- The sample data is written as its JSON text. Other data is kept apart. -/
def encodeJson (raw : RawPacketData) : Bytes :=
  if raw = rawData then Proto.utf8 rawDataJson
  else 0 :: texts.encode [raw.denom, raw.amount, raw.sender, raw.receiver, raw.memo]

def decodeJson (bytes : Bytes) : Option RawPacketData :=
  if bytes = Proto.utf8 rawDataJson then some rawData
  else (texts.decode bytes.tail).bind ofTexts

theorem decodeJson_encodeJson (raw : RawPacketData) : decodeJson (encodeJson raw) = some raw := by
  unfold encodeJson decodeJson
  split_ifs with hraw htext htext
  · rw [hraw]
  · exact absurd rfl htext
  · have hhead : (Proto.utf8 rawDataJson).head? = some 0x7b := by decide +kernel
    rw [← htext] at hhead
    cases hhead
  · rw [List.tail_cons, texts.decode_encode]
    rfl

def transfer : TransferHost String (Ledger String PrefixedDenom) where
  bank := bank
  json := ⟨encodeJson, decodeJson, decodeJson_encodeJson⟩
  texts := ⟨fun _ => "", fun _ => "", fun _ => ""⟩
  isAlphanumeric := Char.isAlphanum

/-- The digest of the JSON text. -/
def sha256Json : Bytes :=
  [65, 61, 189, 243, 148, 143, 222, 36, 251, 251, 79, 149, 236, 219, 97, 238, 220, 118, 178, 14,
    188, 163, 29, 50, 131, 125, 62, 202, 243, 77, 189, 73]

/-- The digests of the strings that the sample packet hashes. -/
def sha256 (b : Bytes) : Bytes :=
  if b = Proto.utf8 rawDataJson then sha256Json
  else if b = Words.be64 0 ++ Words.be64 0 ++ Words.be64 10 ++ sha256Json then
    [234, 118, 25, 255, 165, 98, 142, 40, 104, 83, 48, 107, 140, 0, 21, 45, 231, 69, 131, 214, 223,
      206, 220, 120, 35, 168, 147, 68, 251, 15, 30, 111]
  else 0 :: b

/-- The mock host with the transfer application. -/
def host : Host MockClientState MockConsensusState (Ledger String PrefixedDenom) where
  library := ⟨sha256, Char.isAlphanum⟩
  lightClient := mockClient MockRun.codec
  getRoute id := if id = ⟨"transfer"⟩ then some transfer.toModule else none
  lookupModuleByPort port := if port = .transfer then some ⟨"transfer"⟩ else none
  decodeClientState := MockRun.codec.decodeClientState
  validateMessageSigner _ := .ok ()
  commitmentPrefix := ⟨Proto.utf8 "mock"⟩
  blockDelay _ := 0

/-- The messages of a run. -/
def messages {Cons μ : Type} : List (Input Cons μ) → List MsgEnvelope
  | [] => []
  | .dispatch msg :: is => msg :: messages is
  | _ :: is => messages is

def opening : List (Input MockConsensusState (Ledger String PrefixedDenom)) :=
  (messages (MockRun.opening .unordered)).map .dispatch

theorem uatom_nonblank : trim "uatom" ≠ "" := by decide

def uatom : PrefixedDenom := ⟨⟨[]⟩, ⟨"uatom", uatom_nonblank⟩⟩

/-- The sender has all tokens, a hundred. -/
def books : Ledger String PrefixedDenom where
  balance x d := if x = address ∧ d = uatom then 100 else 0
  supply d := if d = uatom then 100 else 0

def start : MockCtx (Ledger String PrefixedDenom) :=
  ⟨.empty, books, MockRun.env, [], [], []⟩

def rawMsg : RawMsgTransfer :=
  ⟨"transfer", "channel-0", some ⟨"uatom", "10"⟩, address, address, some ⟨0, 10⟩, 0, ""⟩

theorem ten_lt : 10 < 2 ^ 256 := by decide

def msg : MsgTransfer :=
  ⟨.transfer, MockRun.channelId, ⟨⟨uatom, ⟨10, ten_lt⟩⟩, ⟨address⟩, ⟨address⟩, ""⟩, .at ⟨0, 10⟩,
    .none⟩

theorem tryFrom_rawMsg : MsgTransfer.tryFrom Char.isAlphanum rawMsg = .ok msg := by
  decide +kernel

/-- Whether the sample message is sent, and what the escrow account holds then. -/
def outcome (s : MockCtx (Ledger String PrefixedDenom)) :
    Result TokenTransferError Unit × ℕ :=
  ((transfer.sendTransfer host msg s).1,
    (transfer.sendTransfer host msg s).2.app.balance "transfer/channel-0" uatom)

end TransferRun

/-- On an open channel of the sample chain ten tokens are put into escrow, and a timeout of their
packet gives them back. -/
theorem ten_tokens_refunded : ∃ s s' p extras b,
    runAll TransferRun.host TransferRun.opening TransferRun.start = some s ∧
    TransferRun.transfer.sendTransfer TransferRun.host TransferRun.msg s = (.ok (), s') ∧
    s.Announced s' p ∧ s'.app.balance "transfer/channel-0" TransferRun.uatom = 10 ∧
    TransferRun.transfer.onTimeoutPacketExecute p s'.app = ((extras, .ok ()), b) ∧
    s'.app.change b = -s.app.change s'.app := by
  have hrun : (runAll TransferRun.host TransferRun.opening TransferRun.start).map
      TransferRun.outcome = some (.ok (), 10) := by decide +kernel
  obtain ⟨s, hs, houtcome⟩ := Option.map_eq_some_iff.mp hrun
  obtain ⟨hok, hescrow⟩ := Prod.mk.inj houtcome
  have hsend : TransferRun.transfer.sendTransfer TransferRun.host TransferRun.msg s =
      (.ok (), _) := Prod.ext hok rfl
  obtain ⟨p, _, ordering, connId, -, -, -, hevents⟩ := TransferHost.sendTransfer_eq_ok hsend
  have hp : s.Announced _ p := ⟨_, ordering, connId, hevents, by simp⟩
  have hname : TransferRun.msg.portIdOnA.str ++ "/" ++ TransferRun.msg.chanIdOnA.str =
      "transfer/channel-0" := by decide
  obtain ⟨⟨extras, b, htimeout, hchange⟩, -⟩ :=
    refund_undoes_transfer TransferRun.bank_keeps TransferRun.tryFrom_rawMsg hsend hp
      fun _ escrow h => hname.symm.trans (Except.ok.inj h) ▸ hescrow.ge
  exact ⟨s, _, p, extras, b, hs, hsend, hp, hescrow, htimeout, hchange⟩

end Ibc
