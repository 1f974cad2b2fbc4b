import OpcuaStack.SubscriptionConservation
import OpcuaStack.SequenceNumbers
import OpcuaStack.SingleSessionUsers
import OpcuaStack.ActivationSoundness
import OpcuaStack.SessionLiveness
import OpcuaStack.SessionAttachment
import OpcuaStack.SubscriptionOwnership
import OpcuaStack.SessionIsolation
import OpcuaStack.SuspendedRequests
import OpcuaStack.TransportSessionRule
import OpcuaStack.PublishFairness
import OpcuaStack.BindingRuns
import OpcuaStack.TokenRenewal
import OpcuaStack.AckAgreement
import OpcuaStack.FrameReplay
import OpcuaStack.OpenExchange
import OpcuaStack.ChannelLink
import OpcuaStack.ChannelAgreement
import OpcuaStack.SymmetricRoundTrip
import OpcuaStack.CallBook
import OpcuaStack.ResponseCorrelation
import OpcuaStack.ReceiveRuns
import OpcuaStack.TransportMessages
import OpcuaStack.TcpConnection
import OpcuaStack.ChunkReassembly
import OpcuaStack.StreamFraming
import OpcuaStack.ClientTransport
import OpcuaStack.FrameStreams
import OpcuaStack.NegotiatedBuffers
import OpcuaStack.ClientSubscription
import OpcuaStack.ClientItems
import OpcuaStack.ItemAccounts
import OpcuaStack.ItemDelivery
import OpcuaStack.NotificationQueues
import OpcuaStack.NotificationRouting
import OpcuaStack.QueuePositions
import OpcuaStack.ItemQueues
import OpcuaStack.DeadbandReference
import OpcuaStack.SubscriptionParameters
import OpcuaStack.SubscriptionTiming
import OpcuaStack.RankedChoice
import OpcuaStack.EndpointSelection
import OpcuaStack.CallTable
import OpcuaStack.ServiceDispatcher
import OpcuaStack.PayloadAnswers
import OpcuaStack.Dialogue
import OpcuaStack.ClientOperations
import OpcuaStack.ClientReplies
import OpcuaStack.BoundedReading
import OpcuaStack.KeyedSteps
import OpcuaStack.GroupedAcknowledgement
import OpcuaStack.SubscriptionStore
import OpcuaStack.StoreRepresentation
import OpcuaStack.BrowsePaging
import OpcuaStack.BrowseLedger
import OpcuaStack.BufferAccess
import OpcuaStack.PasswordRecovery
import OpcuaStack.PublishCalls
import OpcuaStack.MessageRoundTrips
import OpcuaStack.FrameAccess
import OpcuaStack.AsymmetricRoundTrip
import OpcuaStack.TextScan
import OpcuaStack.EndpointUrls
import OpcuaStack.AdvertisedUrls
import OpcuaStack.VariantCodec
import OpcuaStack.BoundedDecoding
import OpcuaStack.VariantRoundTrip
import OpcuaStack.JsonVariants
import OpcuaStack.JsonRoundTrip
import OpcuaStack.ReadingCosts
import OpcuaStack.DecodedElements
import OpcuaStack.DataValueRoundTrip
import OpcuaStack.IdentifierRoundTrip
import OpcuaStack.ExtensionObjectRoundTrip
import OpcuaStack.QualifiedNameText
import OpcuaStack.HexText
import OpcuaStack.Base64
import OpcuaStack.NodeIdText
import OpcuaStack.ExpandedNodeIdText
import OpcuaStack.GuidText
import OpcuaStack.TraceContext
import OpcuaStack.ServerTasks
import OpcuaStack.NodeAttributesConversion
import OpcuaStack.WebSocketAnswers
import OpcuaStack.ClientStack
import OpcuaStack.ClientSession
import OpcuaStack.ClientCoroutines
import OpcuaStack.ClientTeardown
import OpcuaStack.ListUpsert
import OpcuaStack.WireTypes
import OpcuaStack.RequestEnvelope
import OpcuaStack.EventFields
import OpcuaStack.HistoryUpdates
import OpcuaStack.EventFilters
import OpcuaStack.SelectedFields
import OpcuaStack.EventFilterDecoders
import OpcuaStack.EventFilterRoundTrip
import OpcuaStack.MonitoringFilters
import OpcuaStack.NotificationConversion
import OpcuaStack.NotificationBodies
import OpcuaStack.RepublishedMessages
import OpcuaStack.SpecifiedAttributes
import OpcuaStack.DialedUrls
import OpcuaStack.DisassembledEvents
import OpcuaStack.MachineIntegers
import OpcuaStack.VariantConversions
import OpcuaStack.VariantEquality
import OpcuaStack.NodeIdNamespaces
import OpcuaStack.ChunkLimits
import OpcuaStack.TurnQueue
import OpcuaStack.SendTurns
import OpcuaStack.Base64Buffers
import OpcuaStack.ReadingScripts
import OpcuaStack.DecoderScripts
import OpcuaStack.DecoderPositions
import OpcuaStack.DependencyOrder
import OpcuaStack.TypeSchema
import OpcuaStack.TypeLayouts
import OpcuaStack.GeneratedCodec
import OpcuaStack.GeneratedElements
import OpcuaStack.GeneratedJson
import OpcuaStack.JsonTranscoding
import OpcuaStack.HistoryReads
import OpcuaStack.ServiceRequests
import OpcuaStack.ServiceHandler
import OpcuaStack.HandedOperations
import OpcuaStack.ServiceTravel
import OpcuaStack.ServerLifecycle
import OpcuaStack.KeyedFirsts
import OpcuaStack.DiscoveryServices
import OpcuaStack.ServerRegistrations
import OpcuaStack.IdentityTokens
import OpcuaStack.JsonMessages
import OpcuaStack.WrittenResponses
