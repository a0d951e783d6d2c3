import Ibc.Model.PacketHandler
import Ibc.Model.Codec
import Ibc.Transfer.Application

/-!
# Sending tokens

`sendTransfer` puts tokens into the escrow account of a channel, or burns them if they came through
it, and sends a packet that says so. The packet carries its data as JSON text, with the denomination
and the amount printed.
-/

namespace Ibc

/-! ### Messages -/

/-- A coin on the wire. -/
structure RawCoin where
  denom : String
  amount : String
deriving DecidableEq

/-- Both texts are read. -/
def PrefixedCoin.tryFrom (alnum : Char → Bool) (raw : RawCoin) :
    Except TokenTransferError PrefixedCoin := do
  let denom ← PrefixedDenom.fromStr alnum raw.denom
  let amount ← Amount.fromStr raw.amount
  pure ⟨denom, amount⟩

/-- The amount, then the denomination. -/
def PrefixedCoin.toText (coin : PrefixedCoin) : String :=
  coin.amount.toText ++ coin.denom.toText

/-- The wire form of a transfer. -/
structure RawMsgTransfer where
  sourcePort : String
  sourceChannel : String
  token : Option RawCoin
  sender : String
  receiver : String
  timeoutHeight : Option RawHeight
  timeoutTimestamp : UInt64
  memo : String

/-- A request to send tokens. -/
structure MsgTransfer where
  portIdOnA : PortId
  chanIdOnA : ChannelId
  packetData : PacketData
  timeoutHeightOnB : TimeoutHeight
  timeoutTimestampOnB : Timestamp
deriving DecidableEq

namespace MsgTransfer

/-- A timeout is needed; whatever is wrong with the token, it is invalid. -/
def tryFrom (alnum : Char → Bool) (raw : RawMsgTransfer) :
    Except TokenTransferError MsgTransfer := do
  let timeoutTimestampOnB := Timestamp.fromNanoseconds raw.timeoutTimestamp.toNat
  let timeoutHeightOnB ← (TimeoutHeight.tryFromRaw raw.timeoutHeight).mapError fun e =>
    .contextError (.clientError e)
  Result.ensure (timeoutHeightOnB.isSet = true ∨ timeoutTimestampOnB.isSet = true)
    (.contextError (.packetError .missingTimeout))
  let portIdOnA ← (PortId.fromStr alnum raw.sourcePort).mapError .invalidIdentifier
  let chanIdOnA ← (ChannelId.fromStr alnum raw.sourceChannel).mapError .invalidIdentifier
  let token ← Result.okOr raw.token .invalidToken
  let token ← (PrefixedCoin.tryFrom alnum token).mapError fun _ => .invalidToken
  pure ⟨portIdOnA, chanIdOnA, ⟨token, ⟨raw.sender⟩, ⟨raw.receiver⟩, raw.memo⟩, timeoutHeightOnB,
    timeoutTimestampOnB⟩

/-- Whether the tokens are put into the escrow account, and not burned. -/
def escrows (msg : MsgTransfer) : Bool :=
  isSenderChainSource msg.portIdOnA msg.chanIdOnA msg.packetData.token.denom

end MsgTransfer

/-- Tokens were sent. -/
def TransferEvents.transfer (data : PacketData) : ModuleEvent :=
  ⟨"ibc_transfer", [("sender", data.sender.str), ("receiver", data.receiver.str),
    ("amount", data.token.amount.toText), ("denom", data.token.denom.toText),
    ("memo", data.memo)]⟩

namespace TransferHost

variable {CS Cons Account μ : Type} (H : Host CS Cons μ) (T : TransferHost Account μ)

/-! ### Sending -/

/-- The packet of a transfer, with the next sequence number of its channel. -/
def transferPacket (s : Ctx CS Cons μ) (msg : MsgTransfer) : Except TokenTransferError Packet := do
  let chanEndOnA ← (s.channelEnd (msg.portIdOnA, msg.chanIdOnA)).mapError fun e =>
    .contextError (.channelError e)
  let chanIdOnB ← Result.okOr chanEndOnA.remote.channelId
    (.destinationChannelNotFound msg.portIdOnA msg.chanIdOnA)
  let sequence ← (s.getNextSequenceSend (msg.portIdOnA, msg.chanIdOnA)).mapError fun e =>
    .contextError (.packetError e)
  pure ⟨sequence, msg.portIdOnA, msg.chanIdOnA, chanEndOnA.remote.portId, chanIdOnB,
    T.json.encode msg.packetData.toRaw, msg.timeoutHeightOnB, msg.timeoutTimestampOnB⟩

/-- The sender has the tokens, and the packet can be sent. -/
def sendTransferValidate (s : Ctx CS Cons μ) (msg : MsgTransfer) :
    Result TokenTransferError Unit := do
  let token := msg.packetData.token
  let packet ← Result.ofExcept id (do
    T.bank.canSendCoins s.app
    let packet ← T.transferPacket s msg
    let sender ← T.accountOf msg.packetData.sender
    if msg.escrows then
      let escrowAddress ← T.bank.getEscrowAccount s.app msg.portIdOnA msg.chanIdOnA
      T.bank.sendCoinsValidate s.app sender escrowAddress token
    else T.bank.burnCoinsValidate s.app sender token
    pure packet)
  (sendPacketValidate H s packet).mapErr .contextError

/-- Runs an operation of the bank on the state of the application. -/
def runBank (op : BankOp μ) : Exec (Ctx CS Cons μ) TokenTransferError Unit := fun s =>
  (Result.ofExcept id (op s.app).1, { s with app := (op s.app).2 })

/-- The tokens of a transfer leave the account of the sender. -/
def takeCoinsExecute (msg : MsgTransfer) (sender : Account) :
    Exec (Ctx CS Cons μ) TokenTransferError Unit := do
  let s ← Exec.read
  if msg.escrows then
    let escrowAddress ← Exec.ofExcept (T.bank.getEscrowAccount s.app msg.portIdOnA msg.chanIdOnA)
    runBank (T.bank.sendCoinsExecute sender escrowAddress msg.packetData.token)
  else runBank (T.bank.burnCoinsExecute sender msg.packetData.token)

/-- The tokens are taken before the packet is sent. -/
def sendTransferExecute (msg : MsgTransfer) : Exec (Ctx CS Cons μ) TokenTransferError Unit := do
  let s ← Exec.read
  let packet ← Exec.ofExcept (T.transferPacket s msg)
  let sender ← Exec.ofExcept (T.accountOf msg.packetData.sender)
  T.takeCoinsExecute msg sender
  (sendPacketExecute H packet).mapErr .contextError
  Exec.write (·.logMessage ("IBC fungible token transfer: " ++ msg.packetData.sender.str ++
    " --(" ++ msg.packetData.token.toText ++ ")--> " ++ msg.packetData.receiver.str))
  Exec.write (·.emitIbcEvent (.module (TransferEvents.transfer msg.packetData)))
  Exec.write (·.emitIbcEvent (.message (.module transferModuleIdStr)))

/-- A request of a user to send tokens. -/
def sendTransfer (msg : MsgTransfer) : Exec (Ctx CS Cons μ) TokenTransferError Unit := do
  let s ← Exec.read
  Exec.ofResult (T.sendTransferValidate H s msg)
  T.sendTransferExecute H msg

end TransferHost

end Ibc
