import Ibc.Model.Error
import Ibc.Support.Text

/-!
# Denominations, coins and packet data

The tokens that the transfer application moves. A denomination is a base and a trace of the
channels it came through. The trace is kept in reverse: the last channel passed is the first in the
text of the denomination and the last in the list.
-/

namespace Ibc

variable (alnum : Char → Bool)

/-! ### Errors -/

/-- Why a decimal numeral is not an amount. -/
inductive DecStrError where
  | invalidCharacter
  | invalidLength
deriving DecidableEq

/-- Errors of the transfer application. Those of other libraries are given by their texts. -/
inductive TokenTransferError where
  | contextError (e : ContextError)
  | invalidIdentifier (e : IdentifierError)
  | destinationChannelNotFound (portId : PortId) (channelId : ChannelId)
  | emptyBaseDenom
  | invalidTracePortId (pos : ℕ) (validationError : IdentifierError)
  | invalidTraceChannelId (pos : ℕ) (validationError : IdentifierError)
  | invalidTraceLength (len : ℕ)
  | invalidAmount (e : DecStrError)
  | invalidToken
  | channelNotUnordered (expectOrder gotOrder : Order)
  | cantCloseChannel
  | packetDataDeserialization
  | ackDeserialization
  | receiveDisabled (reason : String)
  | sendDisabled (reason : String)
  | parseAccountFailure
  | invalidPort (portId expPortId : PortId)
  | decodeRawMsg (text : String)
  | unknownMsgType (msgType : String)
  | invalidCoin (coin : String)
  | utf8Decode (text : String)
deriving DecidableEq

/-- The texts of the errors inside a transfer error. -/
structure ErrorTexts where
  context : ContextError → String
  identifier : IdentifierError → String
  amount : DecStrError → String

/-- The text of an error, as it is put into an acknowledgement. -/
def TokenTransferError.toText (texts : ErrorTexts) : TokenTransferError → String
  | .contextError e => "context error: `" ++ texts.context e ++ "`"
  | .invalidIdentifier e => "invalid identifier: `" ++ texts.identifier e ++ "`"
  | .destinationChannelNotFound portId channelId =>
      "destination channel not found in the counterparty of port_id `" ++ portId.str ++
        "` and channel_id `" ++ channelId.str ++ "`"
  | .emptyBaseDenom => "base denomination is empty"
  | .invalidTracePortId pos e => "invalid prot id n trace at position: `" ++ toString pos ++
      "`, validation error: `" ++ texts.identifier e ++ "`"
  | .invalidTraceChannelId pos e => "invalid channel id in trace at position: `" ++ toString pos ++
      "`, validation error: `" ++ texts.identifier e ++ "`"
  | .invalidTraceLength len => "trace length must be even but got: `" ++ toString len ++ "`"
  | .invalidAmount e => "invalid amount error: `" ++ texts.amount e ++ "`"
  | .invalidToken => "invalid token"
  | .channelNotUnordered expectOrder gotOrder =>
      "expected `" ++ expectOrder.asStr ++ "` channel, got `" ++ gotOrder.asStr ++ "`"
  | .cantCloseChannel => "channel cannot be closed"
  | .packetDataDeserialization => "failed to deserialize packet data"
  | .ackDeserialization => "failed to deserialize acknowledgement"
  | .receiveDisabled _ => "receive is not enabled"
  | .sendDisabled _ => "send is not enabled"
  | .parseAccountFailure => "failed to parse as AccountId"
  | .invalidPort portId expPortId =>
      "invalid port: `" ++ portId.str ++ "`, expected `" ++ expPortId.str ++ "`"
  | .decodeRawMsg text => "decoding raw msg error: `" ++ text ++ "`"
  | .unknownMsgType msgType => "unknown msg type: `" ++ msgType ++ "`"
  | .invalidCoin coin => "invalid coin string: `" ++ coin ++ "`"
  | .utf8Decode text => "decoding raw bytes as UTF8 string error: `" ++ text ++ "`"

/-- Every text starts with words of its own. -/
theorem TokenTransferError.toText_ne_empty (texts : ErrorTexts) (e : TokenTransferError) :
    e.toText texts ≠ "" := by
  have happend {s t : String} (h : s ≠ "") : s ++ t ≠ "" := by
    simp [String.append_eq_empty_iff, h]
  cases e
  all_goals dsimp only [toText]
  all_goals first
    | decide
    | exact happend (happend (by decide))
    | exact happend (happend (happend (happend (by decide))))

/-! ### Amounts -/

/-- An amount of tokens, an unsigned 256-bit word. -/
structure Amount where
  val : ℕ
  lt : val < 2 ^ 256
deriving DecidableEq

namespace Amount

/-- An amount, unless it is too large. -/
def ofNat (n : ℕ) : Except DecStrError Amount :=
  if h : n < 2 ^ 256 then .ok ⟨n, h⟩ else .error .invalidLength

/-- Appends the digits to the number read so far. -/
def readDigits : Amount → List Char → Except DecStrError Amount
  | acc, [] => .ok acc
  | acc, c :: cs => do
      Result.ensure (c.isDigit = true) .invalidCharacter
      let acc ← ofNat (acc.val * 10)
      let acc ← ofNat (acc.val + (c.toNat - '0'.toNat))
      readDigits acc cs

/-- An amount in decimal. -/
def fromStr (s : String) : Except TokenTransferError Amount :=
  (readDigits ⟨0, Nat.two_pow_pos 256⟩ s.toList).mapError .invalidAmount

/-- The decimal numeral. -/
def toText (a : Amount) : String := toString a.val

end Amount

/-! ### Denominations -/

/-- The base of a denomination; never blank. -/
structure BaseDenom where
  str : String
  nonblank : trim str ≠ ""
deriving DecidableEq

/-- A blank text is refused; no other is trimmed. -/
def BaseDenom.fromStr (s : String) : Except TokenTransferError BaseDenom :=
  if h : trim s = "" then .error .emptyBaseDenom else .ok ⟨s, h⟩

/-- A channel that a token came through. -/
structure TracePrefix where
  portId : PortId
  channelId : ChannelId
deriving DecidableEq

/-- The port, a slash and the channel. -/
def TracePrefix.toText (p : TracePrefix) : String := p.portId.str ++ "/" ++ p.channelId.str

/-- The channels that a token came through, the last one last. -/
structure TracePath where
  prefixes : List TracePrefix
deriving DecidableEq

namespace TracePath

/-- The last channel passed is this one. -/
def startsWith (path : TracePath) (pfx : TracePrefix) : Bool := path.prefixes.getLast? = some pfx

/-- The last channel is taken off, if it is this one. -/
def removePrefix (path : TracePath) (pfx : TracePrefix) : TracePath :=
  if path.startsWith pfx then ⟨path.prefixes.dropLast⟩ else path

/-- One more channel was passed. -/
def addPrefix (path : TracePath) (pfx : TracePrefix) : TracePath := ⟨path.prefixes ++ [pfx]⟩

/-- Two parts each; a last one alone is dropped. -/
def chunks : List String → List (String × String)
  | a :: b :: l => (a, b) :: chunks l
  | _ => []

/-- The channels of a trace, from position `pos` on. -/
def parsePairs (alnum : Char → Bool) :
    ℕ → List (String × String) → Except TokenTransferError (List TracePrefix)
  | _, [] => .ok []
  | pos, (portId, channelId) :: l => do
      let portId ← (PortId.fromStr alnum portId).mapError (.invalidTracePortId pos)
      let channelId ← (ChannelId.fromStr alnum channelId).mapError (.invalidTraceChannelId pos)
      let prefixes ← parsePairs alnum (pos + 1) l
      pure (⟨portId, channelId⟩ :: prefixes)

/-- The trace with these parts; the last two are the first channel passed. -/
def tryFrom (parts : List String) : Except TokenTransferError TracePath := do
  Result.ensure (parts.length % 2 = 0) (.invalidTraceLength parts.length)
  let prefixes ← parsePairs alnum 0 (chunks parts).reverse
  pure ⟨prefixes⟩

/-- A blank text is the empty trace. -/
def fromStr (s : String) : Except TokenTransferError TracePath :=
  let parts := Text.split '/' s
  tryFrom alnum (if parts.length = 1 ∧ trim (parts.headD "") = "" then [] else parts)

/-- The channels, the last one passed first. -/
def toText (path : TracePath) : String :=
  Text.join '/' (path.prefixes.reverse.map TracePrefix.toText)

end TracePath

/-- A denomination on the wire, with the trace and the base apart. -/
structure RawDenomTrace where
  path : String
  baseDenom : String
deriving DecidableEq

/-- A base denomination and the trace of the token. -/
structure PrefixedDenom where
  tracePath : TracePath
  baseDenom : BaseDenom
deriving DecidableEq

namespace PrefixedDenom

/-- The token goes back through the channel. -/
def removeTracePrefix (d : PrefixedDenom) (pfx : TracePrefix) : PrefixedDenom :=
  { d with tracePath := d.tracePath.removePrefix pfx }

/-- The token came through the channel. -/
def addTracePrefix (d : PrefixedDenom) (pfx : TracePrefix) : PrefixedDenom :=
  { d with tracePath := d.tracePath.addPrefix pfx }

/-- A text without a separator is a base; otherwise the last part is the base. -/
def fromStr (s : String) : Except TokenTransferError PrefixedDenom := do
  let parts := Text.split '/' s
  let lastPart := parts.getLastD ""
  if lastPart = s then
    let baseDenom ← BaseDenom.fromStr s
    pure ⟨⟨[]⟩, baseDenom⟩
  else
    let baseDenom ← BaseDenom.fromStr lastPart
    let tracePath ← TracePath.tryFrom alnum parts.dropLast
    pure ⟨tracePath, baseDenom⟩

/-- The trace and the base are read apart. -/
def tryFrom (raw : RawDenomTrace) : Except TokenTransferError PrefixedDenom := do
  let baseDenom ← BaseDenom.fromStr raw.baseDenom
  let tracePath ← TracePath.fromStr alnum raw.path
  pure ⟨tracePath, baseDenom⟩

/-- The wire form. -/
def toRaw (d : PrefixedDenom) : RawDenomTrace := ⟨d.tracePath.toText, d.baseDenom.str⟩

/-- The trace, if there is one, and the base. -/
def toText (d : PrefixedDenom) : String :=
  if d.tracePath.prefixes = [] then d.baseDenom.str
  else d.tracePath.toText ++ "/" ++ d.baseDenom.str

end PrefixedDenom

/-- Whether the token came from the receiving chain. -/
def isReceiverChainSource (sourcePort : PortId) (sourceChannel : ChannelId)
    (denom : PrefixedDenom) : Bool :=
  denom.tracePath.startsWith ⟨sourcePort, sourceChannel⟩

/-- Whether the token came from the sending chain. -/
def isSenderChainSource (sourcePort : PortId) (sourceChannel : ChannelId)
    (denom : PrefixedDenom) : Bool :=
  !isReceiverChainSource sourcePort sourceChannel denom

/-! ### Packet data -/

/-- An amount of a denomination. -/
structure PrefixedCoin where
  denom : PrefixedDenom
  amount : Amount
deriving DecidableEq

/-- The data of a transfer packet as it stands in the JSON text. -/
structure RawPacketData where
  denom : String
  amount : String
  sender : String
  receiver : String
  memo : String
deriving DecidableEq

/-- What the packet of a transfer says. -/
structure PacketData where
  token : PrefixedCoin
  sender : Signer
  receiver : Signer
  memo : String
deriving DecidableEq

namespace PacketData

/-- The coin is read out of its texts. -/
def tryFrom (raw : RawPacketData) : Except TokenTransferError PacketData := do
  let denom ← PrefixedDenom.fromStr alnum raw.denom
  let amount ← Amount.fromStr raw.amount
  pure ⟨⟨denom, amount⟩, ⟨raw.sender⟩, ⟨raw.receiver⟩, raw.memo⟩

/-- The coin is printed. -/
def toRaw (data : PacketData) : RawPacketData :=
  ⟨data.token.denom.toText, data.token.amount.toText, data.sender.str, data.receiver.str,
    data.memo⟩

end PacketData

end Ibc
