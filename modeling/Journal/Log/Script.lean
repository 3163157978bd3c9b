import Journal.Log.Consumer
/-!
Scripts: prepared answers that stand in front of the log. The answers are used up in turn; after them the log
itself answers. A prepared consumer gives its deliveries one by one and is idle for ever after the last.
-/
namespace Journal

inductive Delivery where
  | entry (entry : Entry)
  | idle
  | failure (error : TransportError)
  deriving DecidableEq, Repr

inductive Newest where
  | answer (result : Except TransportError (Option Entry))
  | ask
  deriving Repr

structure DelayedNewest where
  delay : Nat := 0
  newest : Newest
  deriving Repr

structure Script where
  newest : List DelayedNewest := []
  consumers : List (List Delivery) := []
  deriving Repr

inductive Subscription where
  | topic (consumer : Consumer)
  | prepared (deliveries : List Delivery)
  deriving DecidableEq, Repr

namespace Subscription

def topicName : Subscription → String
  | .topic c => c.topic
  | .prepared _ => "scripted"

def takeDelivery (now deadline : Nat) : List Delivery → Received × List Delivery
  | .entry e :: later => (.entry e, later)
  | .failure error :: later => (.failed error, later)
  | .idle :: later => (if deadline ≤ now then .nothing else .waiting, later)
  | [] => (if deadline ≤ now then .nothing else .waiting, [])

def receive (log : Log) (now deadline : Nat) (parked : Bool) : Subscription → Received × Subscription
  | .topic c =>
    let (received, c) := c.receive now deadline parked (log.entries c.topic)
    (received, .topic c)
  | .prepared deliveries =>
    if parked then (if deadline ≤ now then .nothing else .waiting, .prepared deliveries)
    else
      let (received, deliveries) := takeDelivery now deadline deliveries
      (received, .prepared deliveries)

def backlog (log : Log) : Subscription → Nat
  | .topic c => (log.entries c.topic).length - c.cursor
  | .prepared deliveries => deliveries.length

end Subscription
end Journal
