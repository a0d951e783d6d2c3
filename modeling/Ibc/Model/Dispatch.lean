import Ibc.Model.ClientHandler
import Ibc.Model.ConnectionHandler
import Ibc.Model.PacketHandler

/-!
# Dispatch

The entry point of the core. `dispatch` validates a message and then executes it. Validation does
not write; an error of execution leaves whatever was written before it.
-/

namespace Ibc

variable {CS Cons μ : Type} (H : Host CS Cons μ) (s : Ctx CS Cons μ)

/-- The local port of a channel message. -/
def ChannelMsg.localPort : ChannelMsg → PortId
  | .openInit msg => msg.portIdOnA
  | .openTry msg => msg.portIdOnB
  | .openAck msg => msg.portIdOnA
  | .openConfirm msg => msg.portIdOnB
  | .closeInit msg => msg.portIdOnA
  | .closeConfirm msg => msg.portIdOnB

/-- The local port of a packet message. -/
def PacketMsg.localPort : PacketMsg → PortId
  | .recv msg => msg.packet.portIdOnB
  | .ack msg => msg.packet.portIdOnA
  | .timeout msg => msg.packet.portIdOnA
  | .timeoutOnClose msg => msg.packet.portIdOnA

/-- The module bound to a port. -/
def lookupModule (portId : PortId) : Except ChannelError ModuleId :=
  Result.okOr (H.lookupModuleByPort portId) (.port (.unknownPort portId))

/-- The module of a channel message. -/
def lookupModuleChannel (msg : ChannelMsg) : Except ChannelError ModuleId :=
  lookupModule H msg.localPort

/-- The module of a packet message. -/
def lookupModulePacket (msg : PacketMsg) : Except ChannelError ModuleId :=
  lookupModule H msg.localPort

/-! ### Validation -/

/-- Validation of the client messages. -/
def ClientMsg.validate : ClientMsg → Result ContextError Unit
  | .createClient msg => createClientValidate H s msg
  | .updateClient msg => updateClientValidate H s msg.toUpdate
  | .misbehaviour msg => updateClientValidate H s msg.toUpdate
  | .upgradeClient msg => upgradeClientValidate H s msg

/-- Validation of the connection handshake. -/
def ConnectionMsg.validate : ConnectionMsg → Result ContextError Unit
  | .openInit msg => connOpenInitValidate H s msg
  | .openTry msg => connOpenTryValidate H s msg
  | .openAck msg => connOpenAckValidate H s msg
  | .openConfirm msg => connOpenConfirmValidate H s msg

/-- Validation of the channel messages, with the module of the port. -/
def ChannelMsg.validate (moduleId : ModuleId) : ChannelMsg → Result ContextError Unit
  | .openInit msg => chanOpenInitValidate H s moduleId msg
  | .openTry msg => chanOpenTryValidate H s moduleId msg
  | .openAck msg => chanOpenAckValidate H s moduleId msg
  | .openConfirm msg => chanOpenConfirmValidate H s moduleId msg
  | .closeInit msg => chanCloseInitValidate H s moduleId msg
  | .closeConfirm msg => chanCloseConfirmValidate H s moduleId msg

/-- Validation of the packet messages. A received packet asks no module. -/
def PacketMsg.validate (moduleId : ModuleId) : PacketMsg → Result ContextError Unit
  | .recv msg => recvPacketValidate H s msg
  | .ack msg => acknowledgementPacketValidate H s moduleId msg
  | .timeout msg => timeoutPacketValidate H s moduleId (.timeout msg)
  | .timeoutOnClose msg => timeoutPacketValidate H s moduleId (.timeoutOnClose msg)

/-- Validation of any message. The module is looked up first. -/
def validate : MsgEnvelope → Result ContextError Unit
  | .client msg => msg.validate H s
  | .connection msg => msg.validate H s
  | .channel msg => do
      let moduleId ← lookupModuleChannel H msg
      msg.validate H s moduleId
  | .packet msg => do
      let moduleId ← lookupModulePacket H msg
      msg.validate H s moduleId

/-! ### Execution -/

/-- Execution of the client messages. -/
def ClientMsg.execute : ClientMsg → Handler CS Cons μ Unit
  | .createClient msg => createClientExecute H msg
  | .updateClient msg => updateClientExecute H msg.toUpdate
  | .misbehaviour msg => updateClientExecute H msg.toUpdate
  | .upgradeClient msg => upgradeClientExecute H msg

/-- Execution of the connection handshake. -/
def ConnectionMsg.execute : ConnectionMsg → Handler CS Cons μ Unit
  | .openInit msg => connOpenInitExecute H msg
  | .openTry msg => connOpenTryExecute H msg
  | .openAck msg => connOpenAckExecute msg
  | .openConfirm msg => connOpenConfirmExecute msg

/-- Execution of the channel messages. -/
def ChannelMsg.execute (moduleId : ModuleId) : ChannelMsg → Handler CS Cons μ Unit
  | .openInit msg => chanOpenInitExecute H moduleId msg
  | .openTry msg => chanOpenTryExecute H moduleId msg
  | .openAck msg => chanOpenAckExecute H moduleId msg
  | .openConfirm msg => chanOpenConfirmExecute H moduleId msg
  | .closeInit msg => chanCloseInitExecute H moduleId msg
  | .closeConfirm msg => chanCloseConfirmExecute H moduleId msg

/-- Execution of the packet messages. -/
def PacketMsg.execute (moduleId : ModuleId) : PacketMsg → Handler CS Cons μ Unit
  | .recv msg => recvPacketExecute H moduleId msg
  | .ack msg => acknowledgementPacketExecute H moduleId msg
  | .timeout msg => timeoutPacketExecute H moduleId (.timeout msg)
  | .timeoutOnClose msg => timeoutPacketExecute H moduleId (.timeoutOnClose msg)

/-- Execution of any message, which looks the module up again. -/
def execute : MsgEnvelope → Handler CS Cons μ Unit
  | .client msg => msg.execute H
  | .connection msg => msg.execute H
  | .channel msg => do
      let moduleId ← lookupModuleChannel H msg
      msg.execute H moduleId
  | .packet msg => do
      let moduleId ← lookupModulePacket H msg
      msg.execute H moduleId

/-- Validate, then execute. -/
def dispatch (msg : MsgEnvelope) : Handler CS Cons μ Unit := do
  let s ← Exec.read
  validate H s msg
  execute H msg

end Ibc
