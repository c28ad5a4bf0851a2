import RmwOpendds.TopicCache
import RmwOpendds.Library.Fallible
import RmwOpendds.Qos
import RmwOpendds.QosRoundTrip
import RmwOpendds.TopicCacheInvariant
import RmwOpendds.Names
import RmwOpendds.Discovery
import RmwOpendds.Demangling
import RmwOpendds.ServiceQueries
import RmwOpendds.Identifier
import RmwOpendds.Take
import RmwOpendds.TakeQueue
import RmwOpendds.Wait
import RmwOpendds.WaitWoken
import RmwOpendds.GuardTriggers
import RmwOpendds.NoLostTrigger
import RmwOpendds.Library.Exits
import RmwOpendds.Participant
import RmwOpendds.Topic
import RmwOpendds.Endpoints
import RmwOpendds.ServiceEndpoints
import RmwOpendds.Node
import RmwOpendds.EntityBalance
import RmwOpendds.TopicTypes
import RmwOpendds.LocalGraph
import RmwOpendds.ExactGraph
import RmwOpendds.ListenerQueries
import RmwOpendds.NamesAndTypes
import RmwOpendds.Listing
import RmwOpendds.BlockPool
import RmwOpendds.ServiceListing
import RmwOpendds.ListingCounts
import RmwOpendds.TopicEndpointInfo
import RmwOpendds.EndpointInfoCounts
import RmwOpendds.CollectedInfos
import RmwOpendds.Contexts
import RmwOpendds.Gids
import RmwOpendds.ContextLifetime
import RmwOpendds.ContextIsolation
import RmwOpendds.ParticipantIdentity
import RmwOpendds.Durations
import RmwOpendds.HistoryDepth
import RmwOpendds.RefusedCalls
import RmwOpendds.TakeSerialized
import RmwOpendds.Library.EarlyExit
import RmwOpendds.WaitFailures
import RmwOpendds.WaitSets
import RmwOpendds.AlignedNames
import RmwOpendds.Library.KeyValue
import RmwOpendds.NamesSafety
import RmwOpendds.PeerNames
import RmwOpendds.ServiceFailures
import RmwOpendds.TopicMangling
import RmwOpendds.TypeMangling
import RmwOpendds.Library.CheckedString
import RmwOpendds.NameBounds
import RmwOpendds.Library.Search
import RmwOpendds.NodeLookup
import RmwOpendds.Library.Separator
import RmwOpendds.IdentityEncoding
import RmwOpendds.Library.Mailbox
import RmwOpendds.Publish
import RmwOpendds.Messaging
import RmwOpendds.MessageOrder
import RmwOpendds.SerializedPath
import RmwOpendds.Library.Meter
import RmwOpendds.Events
import RmwOpendds.Library.BitFlags
import RmwOpendds.EventRuns
import RmwOpendds.Library.Feed
import RmwOpendds.GraphNetwork
import RmwOpendds.GraphAgreement
import RmwOpendds.Library.RawMemory
import RmwOpendds.RmwAllocateFree
import RmwOpendds.HandleMemory
import RmwOpendds.HandleMemorySafety
import RmwOpendds.Lifecycle
import RmwOpendds.LifecycleRefinement
import RmwOpendds.NodeListing
import RmwOpendds.NodeQueries
import RmwOpendds.ServiceMemory
import RmwOpendds.ServiceMemorySafety
