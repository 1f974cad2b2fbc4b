import OpcuaStack.ClientProtocolSubscription
import OpcuaStack.PublishFairness

/-!
# A client subscription on its session

One client subscription publishes on one server session, over links which lose
nothing and keep the order of the requests.  The server acknowledges what a
request names as soon as it arrives, and answers any of the requests it holds
when a poll finds something to publish.  The record keeps the data messages
which were published, received and dropped on acknowledgement.
-/

namespace OpcuaStack

namespace ServerSession

/-- One round of `AcknowledgePublishRequest`. -/
def acknowledgeFor (session : ServerSession)
    (acknowledgement : SubscriptionAcknowledgement) :
    ServerSession × StatusCode :=
  session.onSubscription acknowledgement.subscriptionId
    StatusCode.badSubscriptionIdInvalid
    (·.acknowledgeOne acknowledgement.sequenceNumber)

/-- The message which an acknowledgement takes out of its queue. -/
def acknowledgedMessage (session : ServerSession)
    (acknowledgement : SubscriptionAcknowledgement) :
    Option (SubscriptionId × NotificationMessage) :=
  (session.subscriptions.lookup acknowledgement.subscriptionId).bind fun s =>
    (s.retransmitQueue.find?
        (·.sequenceNumber == acknowledgement.sequenceNumber)).map
      fun message => (acknowledgement.subscriptionId, message)

/-- The messages which the acknowledgements of a request take out of the
queues. -/
def acknowledgedMessages : ServerSession → List SubscriptionAcknowledgement →
    List (SubscriptionId × NotificationMessage)
  | _, [] => []
  | session, acknowledgement :: rest =>
      (session.acknowledgedMessage acknowledgement).toList ++
        acknowledgedMessages (session.acknowledgeFor acknowledgement).1 rest

end ServerSession

structure SentPublish where
  place : ℕ
  request : PublishRequest

/-- A request which the server holds, with the results of its
acknowledgements. -/
structure HeldPublish where
  place : ℕ
  ackResults : List StatusCode

/-- A response on its way, or buffered at the client.  The record of how many
data messages had been published with it is no part of the message. -/
structure PublishAnswer where
  place : ℕ
  response : PublishResponse
  published : ℕ

namespace PublishAnswer

def carriesData (answer : PublishAnswer) : Bool :=
  !answer.response.notificationMessage.notificationData.isEmpty

/-- The message under the subscription it belongs to. -/
def entry (answer : PublishAnswer) : SubscriptionId × NotificationMessage :=
  (answer.response.subscriptionId, answer.response.notificationMessage)

end PublishAnswer

structure PublishRecord where
  published : List (SubscriptionId × NotificationMessage) := []
  received : List (SubscriptionId × NotificationMessage) := []
  dropped : List (SubscriptionId × NotificationMessage) := []
  acknowledged : List SubscriptionAcknowledgement := []
  handled : ℕ := 0

structure PublishLink where
  client : ClientProtocolSubscription := {}
  session : ServerSession
  sent : ℕ := 0
  requests : List SentPublish := []
  held : List HeldPublish := []
  answers : List PublishAnswer := []
  record : PublishRecord := {}

/-- A step of the client, of the server or of its session.  `sends` says whether
the next `Send` puts its request on the link or fails without it. -/
inductive PublishEvent where
  | publish (sends : Bool)
  | sendFinished (sends : Bool)
  | handle
  | serverReceives
  | serverPolls (index : ℕ) (now : DateTime)
  | session (event : SessionEvent)

namespace PublishLink

/-- The head of the loop of `FillPublishWindow`, and what follows the loop. -/
def fillWindow (l : PublishLink) (sends : Bool) : PublishLink :=
  if l.client.hasRoom then
    if sends then
      let (client, request) := l.client.beginSend l.sent
      { l with
        client := client
        sent := l.sent + 1
        requests := l.requests ++ [{ place := l.sent, request := request }]
        record :=
          { l.record with
            acknowledged := l.record.acknowledged ++
              request.subscriptionAcknowledgements } }
    else { l with client := l.client.failSend }
  else { l with client := l.client.beginReceive }

def publish (l : PublishLink) (sends : Bool) : PublishLink :=
  if l.client.stage = .idle ∧ l.client.isCreated = true then
    l.fillWindow sends
  else l

def sendFinished (l : PublishLink) (sends : Bool) : PublishLink :=
  match l.client.stage with
  | .sending place =>
      { l with client := l.client.finishSend place }.fillWindow sends
  | _ => l

/-- The response which `Receive` waits for, once it is there. -/
def awaited (l : PublishLink) : Option PublishAnswer :=
  match l.client.stage with
  | .receiving place => l.answers.find? (·.place == place)
  | _ => none

/-- The rest of `Publish` with the response it waited for. -/
def handle (l : PublishLink) : PublishLink :=
  match l.awaited with
  | none => l
  | some answer =>
      let (client, dispatched) :=
        { l.client with stage := .idle }.handlePublishResponse answer.response
      { l with
        client := client
        answers := l.answers.eraseP (·.place == answer.place)
        record :=
          { l.record with
            received := l.record.received ++
              (dispatched.toList.filter
                  fun message => !message.notificationData.isEmpty).map
                fun message => (answer.response.subscriptionId, message)
            handled := l.record.handled + 1 } }

/-- The first half of the server's `Publish`. -/
def serverReceives (l : PublishLink) : PublishLink :=
  match l.requests with
  | [] => l
  | sent :: rest =>
      let acknowledgements := sent.request.subscriptionAcknowledgements
      let (session, ackResults) := l.session.acknowledgePublishRequest sent.request
      { l with
        session := session
        requests := rest
        held := l.held ++ [{ place := sent.place, ackResults := ackResults }]
        record :=
          { l.record with
            dropped := l.record.dropped ++
              l.session.acknowledgedMessages acknowledgements } }

/-- A round of the loop in the server's `Publish`, for the request at the
index. -/
def serverPolls (l : PublishLink) (index : ℕ) (now : DateTime) : PublishLink :=
  match l.held[index]? with
  | none => l
  | some held =>
      let (session, result) := l.session.pollPublish now
      match result with
      | .waitFor _ => { l with session := session }
      | .response response =>
          let published := l.record.published ++
            if response.notificationMessage.notificationData.isEmpty then []
            else [(response.subscriptionId, response.notificationMessage)]
          { l with
            session := session
            held := l.held.eraseIdx index
            answers := l.answers ++
              [{ place := held.place
                 response := { response with results := held.ackResults }
                 published := published.length }]
            record := { l.record with published := published } }

def step (l : PublishLink) : PublishEvent → PublishLink
  | .publish sends => l.publish sends
  | .sendFinished sends => l.sendFinished sends
  | .handle => l.handle
  | .serverReceives => l.serverReceives
  | .serverPolls index now => l.serverPolls index now
  | .session event => { l with session := l.session.apply event }

end PublishLink
end OpcuaStack
