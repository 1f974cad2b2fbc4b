import OpcuaStack.BuiltInTypes

/-!
# Messages of the subscription services

The request and response structures which subscriptions and monitored items
exchange with their clients, and the notifications they carry.  Field defaults
are those of the source.  Of the generated `ua::` structures only the fields
which the subscription code reads or writes are kept.
-/

namespace OpcuaStack

abbrev SubscriptionId := UInt32
abbrev MonitoredItemId := UInt32

/-- `enum class MonitoringMode`; `unlisted` is a wire value outside it. -/
inductive MonitoringMode where
  | disabled
  | sampling
  | reporting
  | unlisted (raw : UInt32)
deriving DecidableEq, Repr

inductive TimestampsToReturn where
  | source
  | server
  | both
  | neither
  | unlisted (raw : UInt32)
deriving DecidableEq, Repr

inductive DeadbandType where
  | none
  | absolute
  | percent
  | unlisted (raw : UInt32)
deriving DecidableEq, Repr

inductive DataChangeTrigger where
  | status
  | statusValue
  | statusValueTimestamp
  | unlisted (raw : UInt32)
deriving DecidableEq, Repr

structure DataChangeFilter where
  trigger : DataChangeTrigger := .statusValue
  deadbandType : DeadbandType := .none
  deadbandValue : Double := 0

/-- `std::variant<DataChangeFilter, boost::json::value>`. -/
inductive MonitoringFilter where
  | dataChange (filter : DataChangeFilter)
  | json (value : JsonValue)

structure MonitoringParameters where
  clientHandle : UInt32 := 0
  samplingIntervalMs : Double := 0
  filter : Option MonitoringFilter := none
  queueSize : UInt32 := 1
  discardOldest : Bool := true

structure MonitoredItemCreateRequest where
  itemToMonitor : ReadValueId := {}
  indexRange : Option ByteText := none
  monitoringMode : MonitoringMode := .reporting
  requestedParameters : MonitoringParameters := {}

structure MonitoredItemCreateResult where
  status : Status := .good
  monitoredItemId : MonitoredItemId := 0
  revisedSamplingIntervalMs : Double := 0
  revisedQueueSize : UInt32 := 0
  filterResult : Option JsonValue := none

structure MonitoredItemModifyRequest where
  monitoredItemId : MonitoredItemId := 0
  requestedParameters : MonitoringParameters := {}

structure MonitoredItemModifyResult where
  status : Status := .good
  revisedSamplingIntervalMs : Double := 0
  revisedQueueSize : UInt32 := 0
  filterResult : Option JsonValue := none

/-! ## Subscription services -/

structure SubscriptionParameters where
  publishingIntervalMs : Double := 0
  lifetimeCount : UInt32 := 0
  maxKeepAliveCount : UInt32 := 0
  maxNotificationsPerPublish : UInt32 := 0
  publishingEnabled : Bool := true
  priority : UInt8 := 0

structure CreateSubscriptionRequest where
  parameters : SubscriptionParameters := {}

structure CreateSubscriptionResponse where
  status : Status := .good
  subscriptionId : SubscriptionId := 0
  revisedPublishingIntervalMs : Double := 0
  revisedLifetimeCount : UInt32 := 0
  revisedMaxKeepAliveCount : UInt32 := 0

structure ModifySubscriptionRequest where
  subscriptionId : SubscriptionId := 0
  parameters : SubscriptionParameters := {}

structure ModifySubscriptionResponse where
  status : Status := .good
  revisedPublishingIntervalMs : Double := 0
  revisedLifetimeCount : UInt32 := 0
  revisedMaxKeepAliveCount : UInt32 := 0

structure SetPublishingModeRequest where
  publishingEnabled : Bool := false
  subscriptionIds : List SubscriptionId := []

/-- A generated response which answers one status for each element of the
request, with the service result in its header. -/
structure StatusListResponse where
  serviceResult : Status := .good
  results : List Status := []

structure DeleteSubscriptionsRequest where
  subscriptionIds : List SubscriptionId := []

structure TransferSubscriptionsRequest where
  subscriptionIds : List SubscriptionId := []
  sendInitialValues : Bool := false

structure TransferResult where
  statusCode : Status := .good
  availableSequenceNumbers : List UInt32 := []

structure TransferSubscriptionsResponse where
  serviceResult : Status := .good
  results : List TransferResult := []

/-! ## Monitored item services -/

structure CreateMonitoredItemsRequest where
  subscriptionId : SubscriptionId := 0
  timestampsToReturn : TimestampsToReturn := .both
  itemsToCreate : List MonitoredItemCreateRequest := []

structure CreateMonitoredItemsResponse where
  status : Status := .good
  results : List MonitoredItemCreateResult := []

structure ModifyMonitoredItemsRequest where
  subscriptionId : SubscriptionId := 0
  timestampsToReturn : TimestampsToReturn := .both
  itemsToModify : List MonitoredItemModifyRequest := []

structure ModifyMonitoredItemsResponse where
  status : Status := .good
  results : List MonitoredItemModifyResult := []

structure DeleteMonitoredItemsRequest where
  subscriptionId : SubscriptionId := 0
  monitoredItemIds : List MonitoredItemId := []

structure SetMonitoringModeRequest where
  subscriptionId : SubscriptionId := 0
  monitoringMode : MonitoringMode := .disabled
  monitoredItemIds : List MonitoredItemId := []

/-! ## Notifications -/

structure MonitoredItemNotification where
  clientHandle : UInt32
  value : DataValue

structure EventFieldList where
  clientHandle : UInt32
  eventFields : List Variant

/-- `std::variant` of the three notification kinds. -/
inductive NotificationData where
  | dataChange (monitoredItems : List MonitoredItemNotification)
  | events (events : List EventFieldList)
  | statusChange (status : StatusCode)

structure NotificationMessage where
  sequenceNumber : UInt32 := 0
  publishTime : DateTime := {}
  notificationData : List NotificationData := []

/-- What the backing subscription reports for one item. -/
inductive ItemNotification where
  | dataChange (notification : MonitoredItemNotification)
  | event (fields : EventFieldList)

def ItemNotification.clientHandle : ItemNotification → UInt32
  | .dataChange notification => notification.clientHandle
  | .event fields => fields.clientHandle

/-! ## Publish and republish -/

structure SubscriptionAcknowledgement where
  subscriptionId : SubscriptionId := 0
  sequenceNumber : UInt32 := 0

structure PublishRequest where
  subscriptionAcknowledgements : List SubscriptionAcknowledgement := []

structure PublishResponse where
  status : Status := .good
  subscriptionId : SubscriptionId := 0
  results : List StatusCode := []
  moreNotifications : Bool := false
  notificationMessage : NotificationMessage := {}
  availableSequenceNumbers : List UInt32 := []

structure RepublishRequest where
  subscriptionId : SubscriptionId := 0
  retransmitSequenceNumber : UInt32 := 0

structure RepublishResponse where
  status : Status := .good
  notificationMessage : NotificationMessage := {}

end OpcuaStack
