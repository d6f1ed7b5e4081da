import OverlayStack.Address
import OverlayStack.Bytes
import OverlayStack.Impairment
import OverlayStack.Main
import OverlayStack.Node
import OverlayStack.NodeMap
import OverlayStack.Overlay.Neighbors
import OverlayStack.Overlay.Relay
import OverlayStack.Overlay.Settings
import OverlayStack.Proofs.Routing.Convergence
import OverlayStack.Proofs.Routing.Descent
import OverlayStack.Proofs.Routing.Distances
import OverlayStack.Proofs.Routing.FailureNotices
import OverlayStack.Proofs.Routing.FloodReach
import OverlayStack.Proofs.Routing.Gossip
import OverlayStack.Proofs.Routing.InPlace
import OverlayStack.Proofs.Routing.Journeys
import OverlayStack.Proofs.Routing.LostNeighbors
import OverlayStack.Proofs.Routing.Pointers
import OverlayStack.Proofs.Routing.Propagation
import OverlayStack.Proofs.Routing.RouteListing
import OverlayStack.Proofs.Routing.RouteLookup
import OverlayStack.Proofs.Routing.ShortestPaths
import OverlayStack.Proofs.Routing.Strangers
import OverlayStack.Proofs.Routing.VectorStep
import OverlayStack.Proofs.Routing.Walks
import OverlayStack.Proofs.Transport.Agreement
import OverlayStack.Proofs.Transport.Attempts
import OverlayStack.Proofs.Transport.Disconnection
import OverlayStack.Proofs.Transport.Drain
import OverlayStack.Proofs.Transport.Endpoints
import OverlayStack.Proofs.Transport.Flow
import OverlayStack.Proofs.Transport.GoBackN
import OverlayStack.Proofs.Transport.Hosts
import OverlayStack.Proofs.Transport.LateReads
import OverlayStack.Proofs.Transport.Occurrences
import OverlayStack.Proofs.Transport.Pieces
import OverlayStack.Proofs.Transport.ReceiveRoom
import OverlayStack.Proofs.Transport.Recovery
import OverlayStack.Proofs.Transport.Scene
import OverlayStack.Proofs.Transport.SoleSocket
import OverlayStack.Proofs.Transport.StreamSafety
import OverlayStack.Proofs.Transport.Turns
import OverlayStack.Proofs.Transport.Window
import OverlayStack.Proofs.Transport.WrapAround
import OverlayStack.Proofs.Wire.Checksum
import OverlayStack.Proofs.Wire.Framing
import OverlayStack.Proofs.Wire.Packet
import OverlayStack.Proofs.Wire.Segment
import OverlayStack.Routing.DistanceTable
import OverlayStack.Routing.DistanceVector
import OverlayStack.Routing.LinkGraph
import OverlayStack.Routing.LinkState
import OverlayStack.Routing.Network
import OverlayStack.Routing.NetworkNode
import OverlayStack.Routing.Router
import OverlayStack.Routing.Table
import OverlayStack.Routing.Update
import OverlayStack.Text.Blank
import OverlayStack.Text.Decimal
import OverlayStack.Text.Hex
import OverlayStack.Text.Number
import OverlayStack.Text.Quoted
import OverlayStack.Text.Unshown
import OverlayStack.Topology.Basic
import OverlayStack.Topology.File
import OverlayStack.Transport.Client
import OverlayStack.Transport.ClientHost
import OverlayStack.Transport.Delivery
import OverlayStack.Transport.Loopback
import OverlayStack.Transport.SendBuffer
import OverlayStack.Transport.Server
import OverlayStack.Transport.ServerHost
import OverlayStack.Transport.Session
import OverlayStack.Transport.Settings
import OverlayStack.Transport.SocketTable
import OverlayStack.Transport.Status
import OverlayStack.Transport.Transfer
import OverlayStack.Transport.Uplink
import OverlayStack.Wire.Checksum
import OverlayStack.Wire.Frame
import OverlayStack.Wire.Packet
import OverlayStack.Wire.Segment
import OverlayStack.Proofs.Wire.Scanning
import OverlayStack.Proofs.Routing.Adverts
import OverlayStack.Proofs.Routing.Floods
import OverlayStack.Proofs.Wire.Arrivals
import OverlayStack.Proofs.Transport.BusyClients
import OverlayStack.Proofs.Transport.Stranding
import OverlayStack.Proofs.Transport.Senders
import OverlayStack.Proofs.Transport.BadPackets
import OverlayStack.Proofs.Transport.Outgoing
import OverlayStack.Proofs.Routing.Encapsulation
import OverlayStack.Proofs.Transport.Repeats
import OverlayStack.Proofs.Transport.Received
import OverlayStack.Proofs.Transport.Queues
import OverlayStack.Proofs.Wire.Accepted
import OverlayStack.Proofs.Overlay.Relaying
import OverlayStack.Proofs.Wire.Decoding
import OverlayStack.Proofs.Transport.BusyServers
import OverlayStack.Proofs.Transport.ServerLifecycle
import OverlayStack.Proofs.Transport.Retries
import OverlayStack.Proofs.Transport.ClientLifecycle
import OverlayStack.Proofs.Wire.Codecs
import OverlayStack.Proofs.Routing.HostileUpdates
import OverlayStack.Proofs.Transport.SendLedger
import OverlayStack.Proofs.Routing.TableRequests
import OverlayStack.Proofs.Topology.HostLookup
import OverlayStack.Proofs.Transport.Ports
import OverlayStack.Proofs.Overlay.NeighborLinks
import OverlayStack.Proofs.Wire.WordSums
import OverlayStack.Proofs.Transport.Timers
import OverlayStack.Proofs.NodeMaps
import OverlayStack.Proofs.Transport.CursorQueue
import OverlayStack.Proofs.Topology.TwoSidedLinks
