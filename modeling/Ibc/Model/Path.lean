import Ibc.Model.Types
import Ibc.Support.Text

/-!
# Store paths

The text of a path, and the parsers that read it back. A text is cut at its slashes, and nine
parsers are tried on the components one after the other. The parser of the client paths is tried
first and reads the second component without asking whether there is one.
-/

namespace Ibc

/-- The text is no path. -/
inductive PathError where
  | parseFailure (path : String)
deriving DecidableEq

namespace Path

/-! ### The text of a path -/

/-- Where the state of an upgrade is kept. -/
def upgradedIbcState : String := "upgradedIBCState"

/-- The last component of an upgraded client state. -/
def upgradedClient : String := "upgradedClient"

/-- The last component of an upgraded consensus state. -/
def upgradedConsState : String := "upgradedConsState"

/-- The text of a path below a channel: what is kept there, then the port and the channel. -/
def channelText (kind : String) (portId : PortId) (channelId : ChannelId) : String :=
  kind ++ "/ports/" ++ portId.str ++ "/channels/" ++ channelId.str

/-- The text of a path of a packet. -/
def packetText (kind : String) (portId : PortId) (channelId : ChannelId) (sequence : Sequence) :
    String :=
  kind ++ "/ports/" ++ portId.str ++ "/channels/" ++ channelId.str ++ "/sequences/" ++
    toString sequence

/-- The text of a path. -/
def toText : Path → String
  | .clientState clientId => "clients/" ++ clientId.str ++ "/clientState"
  | .clientConsensusState clientId height =>
      "clients/" ++ clientId.str ++ "/consensusStates/" ++ toString height.revisionNumber ++ "-" ++
        toString height.revisionHeight
  | .clientConnection clientId => "clients/" ++ clientId.str ++ "/connections"
  | .connection connectionId => "connections/" ++ connectionId.str
  | .ports portId => "ports/" ++ portId.str
  | .channelEnd portId channelId => channelText "channelEnds" portId channelId
  | .seqSend portId channelId => channelText "nextSequenceSend" portId channelId
  | .seqRecv portId channelId => channelText "nextSequenceRecv" portId channelId
  | .seqAck portId channelId => channelText "nextSequenceAck" portId channelId
  | .commitment portId channelId sequence => packetText "commitments" portId channelId sequence
  | .ack portId channelId sequence => packetText "acks" portId channelId sequence
  | .receipt portId channelId sequence => packetText "receipts" portId channelId sequence
  | .upgradedClientState height =>
      upgradedIbcState ++ "/" ++ toString height ++ "/" ++ upgradedClient
  | .upgradedClientConsensusState height =>
      upgradedIbcState ++ "/" ++ toString height ++ "/" ++ upgradedConsState

/-- The text as bytes, which are the key in the store. -/
def intoBytes (path : Path) : Bytes := path.toText.toByteArray.data.toList

/-! ### The parsers -/

variable (alnum : Char → Bool)

/-- Two components, of which the first is `name`; the second is parsed. -/
def parsePair {α : Type} (name : String) (parse : String → Option α) : List String → Option α
  | [first, last] => if first = name then parse last else none
  | _ => none

/-- The epoch and the height of a consensus state. -/
def parseEpochHeight (s : String) : Option Height :=
  match Text.split '-' s with
  | [epoch, height] => do
      let epoch ← parseU64 epoch
      let height ← parseU64 height
      some ⟨epoch, height⟩
  | _ => none

/-- The path of a client, from the components behind its identifier. -/
def parseClientPath (clientId : ClientId) : List String → Option Path
  | [kind] =>
      if kind = "clientState" then some (.clientState clientId)
      else if kind = "connections" then some (.clientConnection clientId)
      else none
  | [kind, last] =>
      if kind = "consensusStates" then
        (parseEpochHeight last).map (.clientConsensusState clientId)
      else none
  | _ => none

/-- The second component is read by index: `clients` alone panics. -/
def parseClientPaths {ε : Type} (components : List String) : Result ε (Option Path) :=
  if components.head? = some "clients" then do
    let second ← Result.index components 1
    match ClientId.fromStr alnum second with
    | .ok clientId => pure (parseClientPath clientId (components.drop 2))
    | .error _ => pure none
  else pure none

/-- The path of a connection. -/
def parseConnections (components : List String) : Option Path :=
  (parsePair "connections" (fun s => (ConnectionId.fromStr alnum s).toOption) components).map
    .connection

/-- The port of a path, as it also stands inside longer paths. -/
def parsePort : List String → Option PortId :=
  parsePair "ports" fun s => (PortId.fromStr alnum s).toOption

/-- The path of a port. -/
def parsePorts (components : List String) : Option Path := (parsePort alnum components).map .ports

/-- The channel inside longer paths. -/
def parseChannels : List String → Option ChannelId :=
  parsePair "channels" fun s => (ChannelId.fromStr alnum s).toOption

/-- The sequence inside the paths of a packet. -/
def parseSequences : List String → Option Sequence := parsePair "sequences" parseU64

/-- The path of a channel end. -/
def parseChannelEnds : List String → Option Path
  | [first, p, port, c, channel] =>
      if first = "channelEnds" then do
        let portId ← parsePort alnum [p, port]
        let channelId ← parseChannels alnum [c, channel]
        some (.channelEnd portId channelId)
      else none
  | _ => none

/-- The paths of the three sequences of a channel. -/
def parseSeqs : List String → Option Path
  | [first, p, port, c, channel] => do
      let portId ← parsePort alnum [p, port]
      let channelId ← parseChannels alnum [c, channel]
      if first = "nextSequenceSend" then some (.seqSend portId channelId)
      else if first = "nextSequenceRecv" then some (.seqRecv portId channelId)
      else if first = "nextSequenceAck" then some (.seqAck portId channelId)
      else none
  | _ => none

/-- A path of a packet of the given kind. -/
def parsePacketPath (kind : String) (path : PortId → ChannelId → Sequence → Path) :
    List String → Option Path
  | [first, p, port, c, channel, q, sequence] =>
      if first = kind then do
        let portId ← parsePort alnum [p, port]
        let channelId ← parseChannels alnum [c, channel]
        let sequence ← parseSequences [q, sequence]
        some (path portId channelId sequence)
      else none
  | _ => none

/-- The path of a commitment. -/
def parseCommitments : List String → Option Path := parsePacketPath alnum "commitments" .commitment

/-- The path of an acknowledgement. -/
def parseAcks : List String → Option Path := parsePacketPath alnum "acks" .ack

/-- The path of a receipt. -/
def parseReceipts : List String → Option Path := parsePacketPath alnum "receipts" .receipt

/-- The two paths of an upgrade. -/
def parseUpgrades : List String → Option Path
  | [first, height, last] =>
      if first = upgradedIbcState then do
        let height ← parseU64 height
        if last = upgradedClient then some (.upgradedClientState height)
        else if last = upgradedConsState then some (.upgradedClientConsensusState height)
        else none
      else none
  | _ => none

/-- The parsers after the first one, in their order. -/
def parseOthers (components : List String) : Option Path :=
  (parseConnections alnum components).or <| (parsePorts alnum components).or <|
  (parseChannelEnds alnum components).or <| (parseSeqs alnum components).or <|
  (parseCommitments alnum components).or <| (parseAcks alnum components).or <|
  (parseReceipts alnum components).or <| parseUpgrades components

/-- The path of a text. -/
def fromStr (s : String) : Result PathError Path := do
  let components := Text.split '/' s
  let client ← parseClientPaths alnum components
  Result.ofExcept (·) (Result.okOr (client.or (parseOthers alnum components)) (.parseFailure s))

end Path

end Ibc
