import RobotRaconteurLite.Message.Session
import RobotRaconteurLite.TcpTransport
import RobotRaconteurLite.Proofs.Windows
import RobotRaconteurLite.Proofs.Entries
import RobotRaconteurLite.Proofs.Position
import RobotRaconteurLite.Proofs.Segments
import RobotRaconteurLite.Proofs.Latched
import RobotRaconteurLite.Proofs.PlainReceive
import RobotRaconteurLite.Proofs.Delivery
import RobotRaconteurLite.Proofs.Sending
import RobotRaconteurLite.Proofs.Recycled
import RobotRaconteurLite.Proofs.ServiceObjects
import RobotRaconteurLite.Proofs.ConnectionLists
import RobotRaconteurLite.Proofs.FailedConnect
import RobotRaconteurLite.Proofs.Descriptors
import RobotRaconteurLite.Proofs.WriteRanges
import RobotRaconteurLite.Proofs.MessageHeaders
import RobotRaconteurLite.Proofs.TreeHeaders
import RobotRaconteurLite.Proofs.Narrowing
import RobotRaconteurLite.Proofs.Unparseable
import RobotRaconteurLite.Proofs.PendingRequests
import RobotRaconteurLite.Proofs.HandshakeOrder
import RobotRaconteurLite.Proofs.StaleFields
import RobotRaconteurLite.Proofs.IdleSlots
import RobotRaconteurLite.Proofs.EventCycles
import RobotRaconteurLite.Proofs.HeaderSizes
import RobotRaconteurLite.Proofs.ByteProgress
import RobotRaconteurLite.Proofs.Payloads
import RobotRaconteurLite.Proofs.ExactCopies
import RobotRaconteurLite.Proofs.OversizedMessages
import RobotRaconteurLite.Proofs.FirstMatch
import RobotRaconteurLite.Proofs.Retries
import RobotRaconteurLite.Proofs.RoundTrip
import RobotRaconteurLite.Scanners
import RobotRaconteurLite.Url
import RobotRaconteurLite.Proofs.StringLists
import RobotRaconteurLite.Proofs.Registry
import RobotRaconteurLite.Proofs.NodeIds
import RobotRaconteurLite.Proofs.RequestTimeouts
import RobotRaconteurLite.Proofs.ResponseDispatch
import RobotRaconteurLite.Proofs.UrlReads
import RobotRaconteurLite.Proofs.UrlParts
import RobotRaconteurLite.Proofs.ObjectTypes
import RobotRaconteurLite.Proofs.ServiceDefinitions
import RobotRaconteurLite.Proofs.Wakes
import RobotRaconteurLite.Proofs.DeclaredSizes
import RobotRaconteurLite.Proofs.WrappedSizes
import RobotRaconteurLite.Proofs.SearchesAlike
import RobotRaconteurLite.Proofs.Capabilities
import RobotRaconteurLite.Proofs.WebsocketSends
import RobotRaconteurLite.Proofs.WebsocketReceives
import RobotRaconteurLite.Proofs.HandshakeText
import RobotRaconteurLite.Proofs.HandshakePieces
import RobotRaconteurLite.Proofs.EndToEnd
import RobotRaconteurLite.Proofs.NodeMoves
import RobotRaconteurLite.Node.EventLoops
import RobotRaconteurLite.Proofs.NodeCycles
import RobotRaconteurLite.Proofs.NodeReceives
import RobotRaconteurLite.Node.Requests
import RobotRaconteurLite.Proofs.RequestsEnd
import RobotRaconteurLite.Proofs.TypedData
import RobotRaconteurLite.Proofs.MainLoop
import RobotRaconteurLite.Proofs.NodeSends
import RobotRaconteurLite.Proofs.NodePairs
