import Journal.System
/-!
Reading: the newest entry of a topic, consumers, and receives.
-/
namespace Journal.System

def inquire (topic : String) (inquiry : Inquiry) (sys : System) : Option (Inquiry × System) :=
  let settle (sys : System) : Newest → Inquiry
    | .answer result => .answered result
    | .ask => .answered (.ok (sys.log.last? topic))
  match inquiry with
  | .asking =>
    match sys.script.newest with
    | [] => some (settle sys .ask, sys)
    | first :: later =>
      let sys := { sys with script := { sys.script with newest := later } }
      if first.delay = 0 then some (settle sys first.newest, sys)
      else some (.delayed (sys.now + first.delay) first.newest, sys)
  | .delayed deadline newest => if deadline ≤ sys.now then some (settle sys newest, sys) else none
  | .answered _ => none

def subscribe (origin : Origin) (topic : String) (start : Option Start) (sys : System) :
    Except TransportError Subscription × System :=
  match sys.script.consumers with
  | deliveries :: later =>
    (.ok (.prepared deliveries), { sys with script := { sys.script with consumers := later } })
  | [] =>
    match sys.log.openConsumer topic with
    | .error error => (.error error, sys)
    | .ok log =>
      let events := if sys.log.hasTopic topic then [] else [.topicCreated topic]
      (.ok (.topic { topic, start }), { sys with log }.report origin events)

def subscribeFrom (origin : Origin) (source : String) (start : Option Start) (sys : System) :
    Except TransportError Subscription × System :=
  let topic := sys.pool.topicOf source
  (sys.report origin [.openingConsumer source topic]).subscribe origin topic start

/-- The next step of a receive; nothing while it waits or once it has ended. A receive that is woken looks again; if
it looks in vain, it has still gone on to the end of the topic, and waits once more. -/
def receiveStep (reception : Reception) (sys : System) : Option Reception :=
  match reception with
  | .received .. => none
  | .pending subscription deadline parked =>
    match subscription.receive sys.log sys.now deadline parked with
    | (.entry entry, subscription) => some (.received subscription (.ok (some entry)) sys.now)
    | (.nothing, subscription) => some (.received subscription (.ok none) sys.now)
    | (.failed error, subscription) => some (.received subscription (.error error) sys.now)
    | (.waiting, after) => if parked ∧ after = subscription then none else some (.pending after deadline true)

end Journal.System
