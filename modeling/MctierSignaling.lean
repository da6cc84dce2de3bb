import MctierSignaling.Lib.Transition
import MctierSignaling.Lib.HashMap
import MctierSignaling.Lib.Counts
import MctierSignaling.Lib.Archive
import MctierSignaling.Lib.SlidingWindow
import MctierSignaling.Lib.FixedWindow
import MctierSignaling.Lib.Delimited
import MctierSignaling.Lib.Record
import MctierSignaling.Lib.LossyQueue
import MctierSignaling.Config
import MctierSignaling.Text
import MctierSignaling.Protocol
import MctierSignaling.Json
import MctierSignaling.Security
import MctierSignaling.State
import MctierSignaling.Registration
import MctierSignaling.Moderation
import MctierSignaling.Cleanup
import MctierSignaling.Critical
import MctierSignaling.LobbyInvariant
import MctierSignaling.AllOrNothing
import MctierSignaling.RegistrationProof
import MctierSignaling.Transport
import MctierSignaling.Connection
import MctierSignaling.Server
import MctierSignaling.Sessions
import MctierSignaling.Rooms
import MctierSignaling.Refinement
import MctierSignaling.PublicSquare
import MctierSignaling.Progress
import MctierSignaling.Footprint
import MctierSignaling.Drain
import MctierSignaling.Sends
import MctierSignaling.Signals
import MctierSignaling.Secrecy
import MctierSignaling.Attribution
import MctierSignaling.Authority
import MctierSignaling.Admissions
import MctierSignaling.TokenDelivery
import MctierSignaling.TokenOrder
import MctierSignaling.Budgets
import MctierSignaling.PeerBudget
import MctierSignaling.Traffic
import MctierSignaling.Views
import MctierSignaling.Convergence
import MctierSignaling.Routing
import MctierSignaling.Decode
import MctierSignaling.Relay
import MctierSignaling.InOrder
import MctierSignaling.FieldLimits
import MctierSignaling.FieldFlow
import MctierSignaling.ConnectionGuard
import MctierSignaling.ForwardedSource
import MctierSignaling.Handshake
import MctierSignaling.CommunityNode
import MctierSignaling.ProbeTarget
import MctierSignaling.AddressSpelling
import MctierSignaling.CommunityRegistry
import MctierSignaling.RegistryTransitions
import MctierSignaling.SubmitThrottle
import MctierSignaling.LastSuccess
import MctierSignaling.RegistryArchive
import MctierSignaling.PasswordLimiter
import MctierSignaling.Restart
import MctierSignaling.NodeList
