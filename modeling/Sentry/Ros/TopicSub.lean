import Mathlib.Data.Fintype.Basic

/-!
# Topic subscriptions

`RosTopicSubNode`: the nodes of a program that name the same topic share one subscription
(`SubscriberInstance`), found in a registry. Its queue holds one message; the node that is
ticked first takes it, and all the nodes that are connected get it.

Once a node has subscribed, what it is told should not depend on the ticks of the others: it
should be the latest message since its own last tick, as if it had a mailbox of its own
(`Mailboxes`). What it finds when it subscribes does depend on them: the latest message since
the topic has had subscribers, if it has any, even one that was published before the node was
constructed, and that all the others have taken.
-/

namespace Sentry.Ros

open Function (update)

variable {ι M : Type*}

/-! ## The nodes and their subscriptions -/

/-- `SubscriberInstance`, with the queue of its subscription, of depth 1. -/
structure SubscriberInstance (ι M : Type*) where
  topicName : String
  queue : Option M := none
  lastMsg : Option M := none
  /-- The nodes whose callbacks are connected. -/
  broadcaster : List ι := []

/-- A message comes to the queue of a subscription, if it is one of its topic. -/
def SubscriberInstance.receive (topicName : String) (msg : M) (inst : SubscriberInstance ι M) :
    SubscriberInstance ι M :=
  if inst.topicName = topicName then { inst with queue := some msg } else inst

/-- `RosTopicSubNode`, with its pointer to an instance, and the instance it is connected to. -/
structure RosTopicSubNode (M : Type*) where
  subInstance : Option ℕ := none
  lastMsg : Option M := none
  topicName : String := ""
  signalConnection : Option ℕ := none

/-- The nodes of a program, the instances at their addresses and the registry of topics, with
    pointers that do not own. -/
structure Subscribers (ι M : Type*) where
  instances : List (SubscriberInstance ι M)
  registry : String → Option ℕ
  nodes : ι → Option (RosTopicSubNode M)

/-- What happens to the nodes. The topic of a node is in its port, or in the parameters. -/
inductive SubscriberEvent (ι M : Type*)
  | construct (i : ι) (port : Option String) (defaultPortValue : String)
  | destroy (i : ι)
  | publish (topicName : String) (msg : M)
  /-- `topicName` is what the port holds, or empty. The callback may latch the message, and may
      return a status that is not completed, which throws. -/
  | tick (i : ι) (topicName : String) (latchLastMessage isStatusCompleted : Bool)

/-- The placeholder in a port without a topic. -/
def defaultPlaceholder : String := "__default__placeholder__"

/-- The topic of a node when it is constructed: none if the port refers to the blackboard. -/
def constructorTopic (isBlackboardPointer : String → Bool) (port : Option String)
    (defaultPortValue : String) : Except String (Option String) :=
  let default := if defaultPortValue = "" then
      .error "Both [topic_name] in the InputPort and the RosNodeParams are empty."
    else .ok (some defaultPortValue)
  match port with
  | some bbTopicName =>
    if bbTopicName = "" ∨ bbTopicName = defaultPlaceholder then default
    else if isBlackboardPointer bbTopicName then .ok none
    else .ok (some bbTopicName)
  | none => default

namespace Subscribers

variable [DecidableEq ι] [Fintype ι]

def init : Subscribers ι M where
  instances := []
  registry _ := none
  nodes _ := none

/-- No node holds the instance. -/
def Expired (s : Subscribers ι M) (k : ℕ) : Prop :=
  ∀ i, (s.nodes i).bind RosTopicSubNode.subInstance ≠ some k

instance (s : Subscribers ι M) (k : ℕ) : Decidable (s.Expired k) :=
  inferInstanceAs (Decidable (∀ _, _))

/-- The instance of a topic in the registry, or a new one. -/
def instanceOf (s : Subscribers ι M) (topicName : String) : ℕ × Subscribers ι M :=
  let created := (s.instances.length, { s with
    instances := s.instances ++ [{ topicName := topicName }]
    registry := update s.registry topicName (some s.instances.length) })
  match s.registry topicName with
  | some k => if s.Expired k then created else (k, s)
  | none => created

/-- A node gets its instance, the last message of it, and a connection. -/
def connect (s : Subscribers ι M) (i : ι) (n : RosTopicSubNode M) (topicName : String) (k : ℕ) :
    Subscribers ι M where
  instances := s.instances.modify k fun inst =>
    { inst with broadcaster := inst.broadcaster ++ [i] }
  registry := s.registry
  nodes := update s.nodes i (some {
    subInstance := some k
    lastMsg := (s.instances[k]?.bind SubscriberInstance.lastMsg).or n.lastMsg
    topicName := topicName
    signalConnection := some k })

def createSubscriber (s : Subscribers ι M) (i : ι) (n : RosTopicSubNode M) (topicName : String) :
    Except String (Subscribers ι M) :=
  if topicName = "" then .error "topic_name is empty"
  else if n.subInstance.isSome then .error "Can't call createSubscriber more than once"
  else
    let (k, s) := s.instanceOf topicName
    .ok (s.connect i n topicName k)

/-- `spin_some` on an instance: the message in the queue is kept, and told to the nodes that are
    connected. -/
def spinSome (s : Subscribers ι M) (k : ℕ) : Subscribers ι M :=
  match s.instances[k]? with
  | some { queue := some msg, broadcaster, .. } =>
    { s with
      instances := s.instances.modify k fun inst =>
        { inst with queue := none, lastMsg := some msg }
      nodes := fun i => if i ∈ broadcaster then
          (s.nodes i).map fun n => { n with lastMsg := some msg }
        else s.nodes i }
  | _ => s

def construct (isBlackboardPointer : String → Bool) (s : Subscribers ι M) (i : ι)
    (port : Option String) (defaultPortValue : String) : Except String (Subscribers ι M) :=
  match constructorTopic isBlackboardPointer port defaultPortValue with
  | .ok (some topicName) => s.createSubscriber i {} topicName
  | .ok none => .ok { s with nodes := update s.nodes i (some {}) }
  | .error what => .error what

/-- The destructor disconnects the node from the instance it was connected to last. -/
def destroy (s : Subscribers ι M) (i : ι) (n : RosTopicSubNode M) : Subscribers ι M where
  instances := match n.signalConnection with
    | some k => s.instances.modify k fun inst =>
      { inst with broadcaster := inst.broadcaster.erase i }
    | none => s.instances
  registry := s.registry
  nodes := update s.nodes i none

/-- A message comes to the queues of the subscriptions. (Those that have expired are not looked
    at again.) -/
def publish (s : Subscribers ι M) (topicName : String) (msg : M) : Subscribers ι M :=
  { s with instances := s.instances.map fun inst => inst.receive topicName msg }

/-- `tick` before the executor of the instance is spun: the instance is reset if the topic in
    the port has changed, and created if there is none. -/
def subscribe (s : Subscribers ι M) (i : ι) (n : RosTopicSubNode M) (topicName : String) :
    Except String (Subscribers ι M) :=
  let n := if topicName ≠ "" ∧ topicName ≠ defaultPlaceholder ∧ topicName ≠ n.topicName then
      { n with subInstance := none }
    else n
  let s := { s with nodes := update s.nodes i (some n) }
  if n.subInstance.isNone then s.createSubscriber i n topicName else .ok s

/-- `tick` after that: what the callback is told. -/
def tell (s : Subscribers ι M) (i : ι) (k : ℕ) (latchLastMessage isStatusCompleted : Bool) :
    Subscribers ι M × List (ι × Except String (Option M)) :=
  let s := s.spinSome k
  match s.nodes i with
  | some n =>
    let n' := if latchLastMessage || !isStatusCompleted then n else { n with lastMsg := none }
    ({ s with nodes := update s.nodes i (some n') }, [(i, .ok n.lastMsg)])
  | none => (s, [])

def tick (s : Subscribers ι M) (i : ι) (n : RosTopicSubNode M) (topicName : String)
    (latchLastMessage isStatusCompleted : Bool) :
    Subscribers ι M × List (ι × Except String (Option M)) :=
  match s.subscribe i n topicName with
  | .error what => (s, [(i, .error what)])
  | .ok s =>
    match (s.nodes i).bind RosTopicSubNode.subInstance with
    | some k => s.tell i k latchLastMessage isStatusCompleted
    | none => (s, [])

/-- An event, with what the callbacks are told and the exceptions. -/
def step (isBlackboardPointer : String → Bool) (s : Subscribers ι M) :
    SubscriberEvent ι M → Subscribers ι M × List (ι × Except String (Option M))
  | .construct i port defaultPortValue =>
    match s.nodes i with
    | none =>
      match s.construct isBlackboardPointer i port defaultPortValue with
      | .ok s => (s, [])
      | .error what => (s, [(i, .error what)])
    | some _ => (s, [])
  | .destroy i =>
    match s.nodes i with
    | none => (s, [])
    | some n => (s.destroy i n, [])
  | .publish topicName msg => (s.publish topicName msg, [])
  | .tick i topicName latchLastMessage isStatusCompleted =>
    match s.nodes i with
    | none => (s, [])
    | some n => s.tick i n topicName latchLastMessage isStatusCompleted

end Subscribers

/-! ## Mailboxes -/

/-- The mailbox of a node: the topic it has subscribed to, and the latest message since it was
    read. -/
structure Mailbox (M : Type*) where
  topic : Option String := none
  latest : Option M := none

/-- Mailboxes of nodes, and what they share: the latest message of each topic since it has had
    subscribers. -/
structure Mailboxes (ι M : Type*) where
  newest : String → Option M
  boxes : ι → Option (Mailbox M)

namespace Mailboxes

variable [DecidableEq ι] [Fintype ι]

def init : Mailboxes ι M where
  newest _ := none
  boxes _ := none

/-- Some node has subscribed to the topic. -/
def Live (b : Mailboxes ι M) (topic : String) : Prop :=
  ∃ i, (b.boxes i).bind Mailbox.topic = some topic

instance (b : Mailboxes ι M) (topic : String) : Decidable (b.Live topic) :=
  inferInstanceAs (Decidable (∃ _, _))

/-- A node that subscribes to a topic finds the latest message since it has had subscribers, and
    nothing if it is the first one. -/
def subscribe (b : Mailboxes ι M) (i : ι) (topic : String) : Mailboxes ι M :=
  let latest := if b.Live topic then b.newest topic else none
  { newest := update b.newest topic latest
    boxes := update b.boxes i (some { topic := some topic, latest := latest }) }

/-- A message comes to the mailboxes of its topic. -/
def publish (b : Mailboxes ι M) (topic : String) (msg : M) : Mailboxes ι M where
  newest := update b.newest topic (some msg)
  boxes i := (b.boxes i).map fun box =>
    if box.topic = some topic then { box with latest := some msg } else box

/-- A node reads its mailbox. -/
def read (b : Mailboxes ι M) (i : ι) (keep : Bool) :
    Mailboxes ι M × List (ι × Except String (Option M)) :=
  match b.boxes i with
  | none => (b, [])
  | some box =>
    let box' := if keep then box else { box with latest := none }
    ({ b with boxes := update b.boxes i (some box') }, [(i, .ok box.latest)])

/-- The topic of a node that is ticked: that of its port, if it has not got it. -/
def subscribeTo (b : Mailboxes ι M) (i : ι) (box : Mailbox M) (topicName : String) :
    Mailboxes ι M :=
  if topicName ≠ "" ∧ topicName ≠ defaultPlaceholder ∧ box.topic ≠ some topicName ∨
      box.topic = none then b.subscribe i topicName
  else b

/-- The same events, when every node that has subscribed has a mailbox of its own. -/
def step (isBlackboardPointer : String → Bool) (b : Mailboxes ι M) :
    SubscriberEvent ι M → Mailboxes ι M × List (ι × Except String (Option M))
  | .construct i port defaultPortValue =>
    match b.boxes i, constructorTopic isBlackboardPointer port defaultPortValue with
    | none, .ok (some topicName) => (b.subscribe i topicName, [])
    | none, .ok none => ({ b with boxes := update b.boxes i (some {}) }, [])
    | none, .error what => (b, [(i, .error what)])
    | some _, _ => (b, [])
  | .destroy i => ({ b with boxes := update b.boxes i none }, [])
  | .publish topicName msg => (b.publish topicName msg, [])
  | .tick i topicName latchLastMessage isStatusCompleted =>
    match b.boxes i with
    | none => (b, [])
    | some box =>
      if topicName = "" ∧ box.topic = none then (b, [(i, .error "topic_name is empty")])
      else (b.subscribeTo i box topicName).read i (latchLastMessage || !isStatusCompleted)

end Mailboxes

end Sentry.Ros
