import OpcuaStack.SubscriptionMessages

/-!
# The publish pipeline of a client subscription

`Publish` of `client/client_protocol_subscription.cpp` keeps a window of publish
requests filled, waits for the response to the oldest of them, and queues the
acknowledgement of what it receives for the next request.  A request is named by
its place among those sent, which stands for its request id.
-/

namespace OpcuaStack

/-- `kMaxOutstandingPublishRequests`. -/
def maxOutstandingPublishRequests : ℕ := 2

/-- Where `Publish` is suspended: not at all, in `Send` or in `Receive`. -/
inductive PublishStage where
  | idle
  | sending (place : ℕ)
  | receiving (place : ℕ)
deriving DecidableEq, Repr

structure ClientProtocolSubscription where
  isCreated : Bool := true
  pendingAcks : List SubscriptionAcknowledgement := []
  outstandingPublishes : List ℕ := []
  stage : PublishStage := .idle

namespace ClientProtocolSubscription

/-- The window has room for another request. -/
def hasRoom (c : ClientProtocolSubscription) : Bool :=
  decide (c.outstandingPublishes.length < maxOutstandingPublishRequests)

/-- `SendPublishRequest` up to its suspension: the acknowledgements are moved
into the request. -/
def beginSend (c : ClientProtocolSubscription) (place : ℕ) :
    ClientProtocolSubscription × PublishRequest :=
  ({ c with pendingAcks := [], stage := .sending place },
    { subscriptionAcknowledgements := c.pendingAcks })

/-- `SendPublishRequest` when `Send` fails.  The acknowledgements it puts back
have been moved from, so none are left. -/
def failSend (c : ClientProtocolSubscription) : ClientProtocolSubscription :=
  { c with pendingAcks := [], stage := .idle }

/-- The end of `SendPublishRequest`. -/
def finishSend (c : ClientProtocolSubscription) (place : ℕ) :
    ClientProtocolSubscription :=
  { c with
    outstandingPublishes := c.outstandingPublishes ++ [place]
    stage := .idle }

/-- `Publish` once the window is full: the oldest request is received. -/
def beginReceive (c : ClientProtocolSubscription) : ClientProtocolSubscription :=
  match c.outstandingPublishes with
  | [] => c
  | place :: rest =>
      { c with outstandingPublishes := rest, stage := .receiving place }

/-- `HandlePublishResponse`, with the message whose notifications it dispatches
to the handlers. -/
def handlePublishResponse (c : ClientProtocolSubscription)
    (response : PublishResponse) :
    ClientProtocolSubscription × Option NotificationMessage :=
  if response.status.isBad then (c, none)
  else
    ({ c with
        pendingAcks :=
          if response.notificationMessage.sequenceNumber ≠ 0 then
            c.pendingAcks ++
              [{ subscriptionId := response.subscriptionId
                 sequenceNumber := response.notificationMessage.sequenceNumber }]
          else c.pendingAcks },
      some response.notificationMessage)

/-- The requests whose responses have not been handled, oldest first. -/
def unhandled (c : ClientProtocolSubscription) : List ℕ :=
  match c.stage with
  | .idle => c.outstandingPublishes
  | .sending place => c.outstandingPublishes ++ [place]
  | .receiving place => place :: c.outstandingPublishes

end ClientProtocolSubscription
end OpcuaStack
