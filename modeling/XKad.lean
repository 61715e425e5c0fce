import XKad.LinearizedUpdates
import XKad.FindNodesReplies
import XKad.ReplyCounts
import XKad.ComparisonReads
import XKad.HashIndex
import XKad.HashRanges
import XKad.NextHops
import XKad.DroppedNodes
import XKad.ClientIsolation
import XKad.CallbackManagers
import XKad.CallbackTimeouts
import XKad.PublishedSnapshots
import XKad.DynamicXips
import XKad.RefusedJoins
import XKad.GrantedXips
import XKad.BootstrapCaches
import XKad.NodeDetections
import XKad.NatManagers
import XKad.TargetOrders
import XKad.AlphaNodes
import XKad.DispatchedXips
import XKad.MultiRelays
import XKad.NodeIdTypes
import XKad.PublicEndpoints
import XKad.CoveredTables
import XKad.RoutedMessages
import XKad.MessageCascades
import XKad.NatVerdicts
import XKad.GenuineRecords
import XKad.HashRings
import XKad.Discoveries
import XKad.CutOffNodes
import XKad.TableStores
