import Epdg.Properties.Activation
import Epdg.Properties.Answers
import Epdg.Properties.Authentication
import Epdg.Properties.BearerCounters
import Epdg.Properties.BearerFailure
import Epdg.Properties.BearerInstall
import Epdg.Properties.BearerOrder
import Epdg.Properties.Cookies
import Epdg.Properties.Decapsulation
import Epdg.Properties.DiameterCodec
import Epdg.Properties.Discovery
import Epdg.Properties.EapSuccess
import Epdg.Properties.EspStats
import Epdg.Properties.Framing
import Epdg.Properties.GtpuParser
import Epdg.Properties.Gtpv2Codec
import Epdg.Properties.HeaderChecksum
import Epdg.Properties.Identities
import Epdg.Properties.InstallUndo
import Epdg.Properties.KeyStream
import Epdg.Properties.Keys
import Epdg.Properties.LoadLimit
import Epdg.Properties.MobikeFailure
import Epdg.Properties.NatDetection
import Epdg.Properties.Negotiation
import Epdg.Properties.Opening
import Epdg.Properties.OuterLengths
import Epdg.Properties.OuterTunnel
import Epdg.Properties.PathStates
import Epdg.Properties.PcoDelivery
import Epdg.Properties.PeerTable
import Epdg.Properties.Probes
import Epdg.Properties.RawElements
import Epdg.Properties.Reattach
import Epdg.Properties.Removal
import Epdg.Properties.Replacement
import Epdg.Properties.Replay
import Epdg.Properties.ResponseCache
import Epdg.Properties.Retransmission
import Epdg.Properties.Rollback
import Epdg.Properties.Sealing
import Epdg.Properties.Sequences
import Epdg.Properties.SessionRequest
import Epdg.Properties.TableGrowth
import Epdg.Properties.Termination
import Epdg.Properties.TftAcceptance
import Epdg.Properties.TftOperations
import Epdg.Properties.Transactions
import Epdg.Properties.Unauthenticated
import Epdg.Properties.Walkers
