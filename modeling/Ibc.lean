import Ibc.Model.Binary
import Ibc.Model.Borsh
import Ibc.Model.SelfClient
import Ibc.Protocol.AbciLog
import Ibc.Protocol.Agreement
import Ibc.Protocol.Announced
import Ibc.Protocol.Binding
import Ibc.Protocol.Bounds
import Ibc.Protocol.CanonicalPaths
import Ibc.Protocol.ChainIds
import Ibc.Protocol.ClientTypes
import Ibc.Protocol.Closed
import Ibc.Protocol.ConnectionBytes
import Ibc.Protocol.Decoders
import Ibc.Protocol.Delay
import Ibc.Protocol.Delivery
import Ibc.Protocol.Effective
import Ibc.Protocol.EventIndex
import Ibc.Protocol.Exclusive
import Ibc.Protocol.FailSafe
import Ibc.Protocol.Fifo
import Ibc.Protocol.Footprint
import Ibc.Protocol.Fresh
import Ibc.Protocol.Grammar
import Ibc.Protocol.Paths
import Ibc.Protocol.Progress
import Ibc.Protocol.Receiver
import Ibc.Protocol.Redundant
import Ibc.Protocol.Relayable
import Ibc.Protocol.Sender
import Ibc.Protocol.Silent
import Ibc.Protocol.StoredEnds
import Ibc.Protocol.Timestamps
import Ibc.Protocol.Valid
import Ibc.Protocol.Versions
import Ibc.Support.Borsh
import Ibc.Tendermint.Expired
import Ibc.Tendermint.Freeze
import Ibc.Tendermint.Mutual
import Ibc.Tendermint.Panics
import Ibc.Tendermint.Prefixes
import Ibc.Tendermint.Resubmit
import Ibc.Tendermint.Seasoned
import Ibc.Tendermint.Storage
import Ibc.Tendermint.Stored
import Ibc.Tendermint.Upgrade
import Ibc.Tendermint.UpgradePlan
import Ibc.Tendermint.World
import Ibc.Transfer.Acknowledged
import Ibc.Transfer.Books
import Ibc.Transfer.Channels
import Ibc.Transfer.DenomText
import Ibc.Transfer.Refund
import Ibc.Transfer.Solvency
import Ibc.Transfer.World
