import Ibc.Model.Context
import Ibc.Support.Json
import Ibc.Support.ProtoRead
import Ibc.Transfer.Denom

/-!
# The transfer application

The callbacks of the token transfer module, over a bank that the host supplies. A callback that
fails on a received packet answers with an error in the acknowledgement, and the sender refunds the
tokens when it reads one. The acknowledgement is written by putting the text of the status between
quotation marks, and read by a JSON parser.

The JSON text of packet data is read and written by a codec that is a parameter: all that is
assumed of it is that it reads back what it wrote.
-/

namespace Ibc

/-- The version of the application. -/
def transferVersion : ChannelVersion := ⟨"ics20-1"⟩

/-- The name of the application. -/
def transferModuleIdStr : String := "transfer"

/-! ### Acknowledgements -/

/-- The text of an acknowledgement. `StatusValue.new` refuses the empty one; the JSON reader does
not. -/
structure StatusValue where
  str : String
deriving DecidableEq

/-- The text, unless it is empty. -/
def StatusValue.new (value : String) : Option StatusValue :=
  if value = "" then none else some ⟨value⟩

/-- What a transfer is answered with. -/
inductive AcknowledgementStatus where
  | success (value : StatusValue)
  | error (value : StatusValue)
deriving DecidableEq

namespace AcknowledgementStatus

/-- Whether the tokens arrived. -/
def isSuccessful : AcknowledgementStatus → Bool
  | .success _ => true
  | .error _ => false

/-- The text, of either kind. -/
def value : AcknowledgementStatus → StatusValue
  | .success v => v
  | .error v => v

/-- The name of the member that holds the text. -/
def key : AcknowledgementStatus → String
  | .success _ => "result"
  | .error _ => "error"

/-- The text alone. -/
def toText (a : AcknowledgementStatus) : String := a.value.str

/-- The JSON text of a status. The text of the status is not escaped. -/
def toJson (a : AcknowledgementStatus) : String :=
  "\x7b\"" ++ a.key ++ "\":\"" ++ a.value.str ++ "\"\x7d"

/-- The JSON text as bytes. -/
def toVec (a : AcknowledgementStatus) : Bytes := Proto.utf8 a.toJson

/-- The status with this member. -/
def ofMember (member : String × String) : Option AcknowledgementStatus :=
  if member.1 = "result" then some (.success ⟨member.2⟩)
  else if member.1 = "error" then some (.error ⟨member.2⟩)
  else none

/-- Reads the JSON text of a status. -/
def fromSlice (bytes : Bytes) : Option AcknowledgementStatus := do
  let text ← Proto.Codec.string.decode bytes
  let member ← Json.readObject text.toList
  ofMember member

theorem toVec_ne_nil (a : AcknowledgementStatus) : a.toVec ≠ [] := by
  intro h
  have hread := Proto.Codec.string.decode_encode a.toJson
  have hempty := Proto.Codec.string.decode_encode ""
  rw [show Proto.Codec.string.encode a.toJson = Proto.Codec.string.encode "" from h, hempty]
    at hread
  have htext := congrArg String.toList (Option.some.inj hread)
  simp [toJson] at htext

/-- The status as the core takes it. -/
def toAcknowledgement (a : AcknowledgementStatus) : Acknowledgement := ⟨a.toVec, a.toVec_ne_nil⟩

end AcknowledgementStatus

/-- The text of a successful transfer, `0x01` in base 64. -/
def ackSuccessB64 : StatusValue := ⟨"AQ=="⟩

/-- The status value of an error. -/
def TokenTransferError.toStatusValue (texts : ErrorTexts) (e : TokenTransferError) : StatusValue :=
  ⟨e.toText texts⟩

/-- The text of an error is never empty, so the source's `expect` does not panic. -/
theorem TokenTransferError.new_toText (texts : ErrorTexts) (e : TokenTransferError) :
    StatusValue.new (e.toText texts) = some (e.toStatusValue texts) := by
  rw [StatusValue.new, if_neg (e.toText_ne_empty texts)]
  rfl

/-! ### Events -/

namespace TransferEvents

/-- The attributes that the events of a packet share. -/
def packetAttributes (data : PacketData) : List (String × String) :=
  [("module", transferModuleIdStr), ("sender", data.sender.str), ("receiver", data.receiver.str),
    ("denom", data.token.denom.toText), ("amount", data.token.amount.toText), ("memo", data.memo)]

/-- A packet was received. -/
def recv (data : PacketData) (success : Bool) : ModuleEvent :=
  ⟨"fungible_token_packet", packetAttributes data ++ [("success", toString success)]⟩

/-- A packet was acknowledged. -/
def ack (data : PacketData) (acknowledgement : AcknowledgementStatus) : ModuleEvent :=
  ⟨"fungible_token_packet",
    packetAttributes data ++ [("acknowledgement", acknowledgement.toText)]⟩

/-- The status of the acknowledgement. -/
def ackStatus (acknowledgement : AcknowledgementStatus) : ModuleEvent :=
  ⟨"fungible_token_packet",
    [(if acknowledgement.isSuccessful then "success" else "error", acknowledgement.toText)]⟩

/-- A packet timed out. -/
def timeout (data : PacketData) : ModuleEvent :=
  ⟨"timeout", [("module", transferModuleIdStr), ("refund_receiver", data.sender.str),
    ("refund_denom", data.token.denom.toText), ("refund_amount", data.token.amount.toText),
    ("memo", data.memo)]⟩

/-- A denomination was made here. -/
def denomTrace (traceHash : Option String) (denom : PrefixedDenom) : ModuleEvent :=
  ⟨"denomination_trace",
    ("denom", denom.toText) :: (traceHash.map fun hash => ("trace_hash", hash)).toList⟩

end TransferEvents

/-! ### The bank -/

/-- An operation of the bank: it may fail, and leaves some state either way. -/
abbrev BankOp (μ : Type) := μ → Except TokenTransferError Unit × μ

/-- What the host of the application supplies. -/
structure Bank (Account μ : Type) where
  /-- The account of a signer, if the text is one. -/
  account : Signer → Option Account
  getPort : μ → Except TokenTransferError PortId
  getEscrowAccount : μ → PortId → ChannelId → Except TokenTransferError Account
  canSendCoins : μ → Except TokenTransferError Unit
  canReceiveCoins : μ → Except TokenTransferError Unit
  sendCoinsValidate : μ → Account → Account → PrefixedCoin → Except TokenTransferError Unit
  mintCoinsValidate : μ → Account → PrefixedCoin → Except TokenTransferError Unit
  burnCoinsValidate : μ → Account → PrefixedCoin → Except TokenTransferError Unit
  denomHashString : μ → PrefixedDenom → Option String
  sendCoinsExecute : Account → Account → PrefixedCoin → BankOp μ
  mintCoinsExecute : Account → PrefixedCoin → BankOp μ
  burnCoinsExecute : Account → PrefixedCoin → BankOp μ

/-- The application as a host runs it. -/
structure TransferHost (Account μ : Type) where
  bank : Bank Account μ
  /-- The JSON text of packet data. -/
  json : Proto.Codec RawPacketData
  texts : ErrorTexts
  isAlphanumeric : Char → Bool

namespace TransferHost

variable {Account μ St : Type} (T : TransferHost Account μ)

/-- Reads packet data out of its JSON text. -/
def packetData (bytes : Bytes) : Except TokenTransferError PacketData := do
  let raw ← Result.okOr (T.json.decode bytes) .packetDataDeserialization
  (PacketData.tryFrom T.isAlphanumeric raw).mapError fun _ => .packetDataDeserialization

/-- The account of a signer. -/
def accountOf (signer : Signer) : Except TokenTransferError Account :=
  Result.okOr (T.bank.account signer) .parseAccountFailure

/-! ### Receiving -/

/-- Checks and runs an operation of the bank; the events are kept when it fails. -/
def runChecked (extras : ModuleExtras) (check : Except TokenTransferError Unit) (op : BankOp μ)
    (a : μ) : Except (ModuleExtras × TokenTransferError) ModuleExtras × μ :=
  match check with
  | .error e => (.error (extras, e), a)
  | .ok () =>
      match op a with
      | (.error e, a) => (.error (extras, e), a)
      | (.ok (), a) => (.ok extras, a)

/-- The tokens of a received packet: back from the escrow account if they came from this chain, and
new vouchers otherwise. -/
def processRecvPacketExecute (packet : Packet) (data : PacketData) (a : μ) :
    Except (ModuleExtras × TokenTransferError) ModuleExtras × μ :=
  match T.bank.canReceiveCoins a with
  | .error e => (.error (.empty, e), a)
  | .ok () =>
  match T.accountOf data.receiver with
  | .error e => (.error (.empty, e), a)
  | .ok receiverAccount =>
  if isReceiverChainSource packet.portIdOnA packet.chanIdOnA data.token.denom then
    let coin : PrefixedCoin :=
      ⟨data.token.denom.removeTracePrefix ⟨packet.portIdOnA, packet.chanIdOnA⟩, data.token.amount⟩
    match T.bank.getEscrowAccount a packet.portIdOnB packet.chanIdOnB with
    | .error e => (.error (.empty, e), a)
    | .ok escrowAddress =>
        runChecked .empty (T.bank.sendCoinsValidate a escrowAddress receiverAccount coin)
          (T.bank.sendCoinsExecute escrowAddress receiverAccount coin) a
  else
    let coin : PrefixedCoin :=
      ⟨data.token.denom.addTracePrefix ⟨packet.portIdOnB, packet.chanIdOnB⟩, data.token.amount⟩
    let extras : ModuleExtras :=
      ⟨[TransferEvents.denomTrace (T.bank.denomHashString a coin.denom) coin.denom], []⟩
    runChecked extras (T.bank.mintCoinsValidate a receiverAccount coin)
      (T.bank.mintCoinsExecute receiverAccount coin) a

/-- The events and the status of a received packet. -/
def recvStatus (packet : Packet) (data : PacketData) (a : μ) :
    (ModuleExtras × AcknowledgementStatus) × μ :=
  match T.processRecvPacketExecute packet data a with
  | (.ok extras, a) => ((extras, .success ackSuccessB64), a)
  | (.error (extras, e), a) => ((extras, .error (e.toStatusValue T.texts)), a)

/-- Every failure is an answer. -/
def onRecvPacketExecute (packet : Packet) (a : μ) : (ModuleExtras × Acknowledgement) × μ :=
  match T.packetData packet.data with
  | .error _ =>
      let ack := AcknowledgementStatus.error
        (TokenTransferError.packetDataDeserialization.toStatusValue T.texts)
      ((.empty, ack.toAcknowledgement), a)
  | .ok data =>
      let ((extras, ack), a) := T.recvStatus packet data a
      ((⟨extras.events ++ [TransferEvents.recv data ack.isSuccessful], extras.log⟩,
        ack.toAcknowledgement), a)

/-! ### Refunds -/

/-- What was taken from the sender can be given back. -/
def refundPacketTokenValidate (packet : Packet) (data : PacketData) (a : μ) :
    Except TokenTransferError Unit := do
  let sender ← T.accountOf data.sender
  if isSenderChainSource packet.portIdOnA packet.chanIdOnA data.token.denom then
    let escrowAddress ← T.bank.getEscrowAccount a packet.portIdOnA packet.chanIdOnA
    T.bank.sendCoinsValidate a escrowAddress sender data.token
  else T.bank.mintCoinsValidate a sender data.token

/-- It is given back: out of escrow, or as new vouchers. -/
def refundPacketTokenExecute (packet : Packet) (data : PacketData) : BankOp μ := fun a =>
  match T.accountOf data.sender with
  | .error e => (.error e, a)
  | .ok sender =>
  if isSenderChainSource packet.portIdOnA packet.chanIdOnA data.token.denom then
    match T.bank.getEscrowAccount a packet.portIdOnA packet.chanIdOnA with
    | .error e => (.error e, a)
    | .ok escrowAddress => T.bank.sendCoinsExecute escrowAddress sender data.token a
  else T.bank.mintCoinsExecute sender data.token a

/-- An error has to be refundable. -/
def onAcknowledgementPacketValidate (packet : Packet) (acknowledgement : Acknowledgement) (a : μ) :
    Except TokenTransferError Unit := do
  let data ← T.packetData packet.data
  let acknowledgement ← Result.okOr (AcknowledgementStatus.fromSlice acknowledgement.bytes)
    .ackDeserialization
  if acknowledgement.isSuccessful then pure ()
  else T.refundPacketTokenValidate packet data a

/-- The outcome of a callback after a refund: its events are kept only if the refund worked. -/
def afterRefund (extras : ModuleExtras) (r : Except TokenTransferError Unit × μ) :
    (ModuleExtras × Except TokenTransferError Unit) × μ :=
  match r with
  | (.error e, a) => ((.empty, .error e), a)
  | (.ok (), a) => ((extras, .ok ()), a)

/-- The events of an acknowledged packet. -/
def ackExtras (data : PacketData) (acknowledgement : AcknowledgementStatus) : ModuleExtras :=
  ⟨[TransferEvents.ack data acknowledgement, TransferEvents.ackStatus acknowledgement], []⟩

/-- An error is refunded. -/
def onAcknowledgementPacketExecute (packet : Packet) (acknowledgement : Acknowledgement) (a : μ) :
    (ModuleExtras × Except TokenTransferError Unit) × μ :=
  match T.packetData packet.data with
  | .error e => ((.empty, .error e), a)
  | .ok data =>
  match AcknowledgementStatus.fromSlice acknowledgement.bytes with
  | none => ((.empty, .error .ackDeserialization), a)
  | some acknowledgement =>
  if acknowledgement.isSuccessful then ((ackExtras data acknowledgement, .ok ()), a)
  else afterRefund (ackExtras data acknowledgement) (T.refundPacketTokenExecute packet data a)

/-- A timeout has to be refundable. -/
def onTimeoutPacketValidate (packet : Packet) (a : μ) : Except TokenTransferError Unit := do
  let data ← T.packetData packet.data
  T.refundPacketTokenValidate packet data a

/-- A timeout is refunded. -/
def onTimeoutPacketExecute (packet : Packet) (a : μ) :
    (ModuleExtras × Except TokenTransferError Unit) × μ :=
  match T.packetData packet.data with
  | .error e => ((.empty, .error e), a)
  | .ok data =>
      afterRefund ⟨[TransferEvents.timeout data], []⟩ (T.refundPacketTokenExecute packet data a)

/-! ### Channels -/

/-- The version is that of the application. -/
def verifyVersion (version : ChannelVersion) : Except TokenTransferError Unit :=
  Result.ensure (version = transferVersion)
    (.contextError (.channelError (.versionNotSupported transferVersion version)))

/-- An unordered channel on the bound port; the version may be empty. -/
def onChanOpenInitValidate (order : Order) (portId : PortId) (version : ChannelVersion) (a : μ) :
    Except TokenTransferError Unit := do
  Result.ensure (order = .unordered) (.channelNotUnordered .unordered order)
  let boundPort ← T.bank.getPort a
  Result.ensure (portId = boundPort) (.invalidPort portId boundPort)
  if version = .empty then pure () else verifyVersion version

/-- An unordered channel; the port is not checked. -/
def onChanOpenTryValidate (order : Order) (counterpartyVersion : ChannelVersion) :
    Except TokenTransferError Unit := do
  Result.ensure (order = .unordered) (.channelNotUnordered .unordered order)
  verifyVersion counterpartyVersion

/-- The error of a callback on a channel, as the core sees it. -/
def channelError (e : TokenTransferError) : ChannelError := .appModule (e.toText T.texts)

/-- The error of a callback on a packet, as the core sees it. -/
def packetError (e : TokenTransferError) : PacketError := .appModule (e.toText T.texts)

/-- The module that the core routes to. A handshake always answers with the version of the
application, and a channel is never closed by its own side. -/
def toModule : Module St μ where
  onChanOpenInitValidate _ a order _ portId _ _ version := do
    (T.onChanOpenInitValidate order portId version a).mapError T.channelError
    pure version
  onChanOpenInitExecute _ _ _ _ _ _ := fun st a => (.ok (.empty, transferVersion), st, a)
  onChanOpenTryValidate _ _ order _ _ _ _ counterpartyVersion := do
    (onChanOpenTryValidate order counterpartyVersion).mapError T.channelError
    pure counterpartyVersion
  onChanOpenTryExecute _ _ _ _ _ _ := fun st a => (.ok (.empty, transferVersion), st, a)
  onChanOpenAckValidate _ _ _ _ counterpartyVersion :=
    (verifyVersion counterpartyVersion).mapError T.channelError
  onChanCloseInitValidate _ _ _ _ := .error (T.channelError .cantCloseChannel)
  onChanCloseInitExecute _ _ := fun st a => (.error (T.channelError .cantCloseChannel), st, a)
  onRecvPacketExecute packet _ := fun st a =>
    let (answer, a) := T.onRecvPacketExecute packet a
    (answer, st, a)
  onAcknowledgementPacketValidate _ a packet acknowledgement _ :=
    (T.onAcknowledgementPacketValidate packet acknowledgement a).mapError T.packetError
  onAcknowledgementPacketExecute packet acknowledgement _ := fun st a =>
    let ((extras, r), a) := T.onAcknowledgementPacketExecute packet acknowledgement a
    ((extras, r.mapError T.packetError), st, a)
  onTimeoutPacketValidate _ a packet _ :=
    (T.onTimeoutPacketValidate packet a).mapError T.packetError
  onTimeoutPacketExecute packet _ := fun st a =>
    let ((extras, r), a) := T.onTimeoutPacketExecute packet a
    ((extras, r.mapError T.packetError), st, a)

end TransferHost

end Ibc
