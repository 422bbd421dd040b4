import Mathlib.Data.Fintype.Basic
import Sentry.BehaviorTree

/-!
# Service nodes

`RosServiceNode`: a node sends a request to a service and waits for the response, for so long
as `server_timeout` allows. The nodes of a program that name the same service share one
client (`ServiceClientInstance`), found in a registry: whichever of them is ticked takes the
responses from its queue, and fulfils the promises of the requests that they are for.

The client is not part of the repository. What is assumed of it: requests are numbered in the
order in which they are sent, a response names its request and comes to the queue of the client
that sent it, responses are taken from the queue in their order, and the first one to a request
fulfils the promise; a promise that is not fulfilled is broken when the last node lets go of the
client. How many responses an executor takes when it is spun is not assumed.

What a node only prints is left out, and so is `on_feedback_state_change_`, which is never read.
-/

namespace Sentry.Ros

open BehaviorTree (Status)
open Function (update)

variable {ι Q A : Type*}

/-! ## Nodes -/

/-- `ServiceNodeErrorCode` -/
inductive ServiceNodeErrorCode
  | serviceUnreachable
  | serviceTimeout
  | invalidRequest
  | serviceAborted
  deriving DecidableEq

/-- What the classes derived from `RosServiceNode` override, and `server_timeout`, in
    nanoseconds. -/
structure ServiceClass (A : Type*) where
  onResponseReceived : Option A → Status
  onFailure : ServiceNodeErrorCode → Status
  serviceTimeout : ℤ

/-- `RosServiceNode`: the pointer to its instance is an address, the future is that of a
    request. -/
structure RosServiceNode (A : Type*) where
  srvInstance : Option ℕ := none
  serviceName : String := ""
  serviceNameShouldBeChecked : Bool := false
  status : Status := .idle
  futureResponse : Option ℕ := none
  timeRequestSent : ℤ := 0
  responseReceived : Bool := false
  response : Option A := none

/-- What a tick finds. -/
structure ServiceInput (Q : Type*) where
  /-- `rclcpp::ok()` -/
  ok : Bool := true
  /-- The port `service_name`, or empty. -/
  portServiceName : String := ""
  /-- The node of ROS is there. -/
  nodeAlive : Bool := true
  /-- The request that `setRequest` sets, unless it returns false or throws. -/
  setRequest : Except String (Option Q)
  serviceIsReady : Bool := true
  /-- The most responses that the executor takes, in `spin_some` and in
      `spin_until_future_complete`. -/
  spun : ℕ := 0
  now : ℤ := 0

/-- What a tick does: the request it sends, with its time, the callbacks it calls, and what it
    returns or throws. -/
inductive ServiceAct (Q A : Type*)
  | sent (id : ℕ) (request : Q) (time : ℤ)
  | failed (error : ServiceNodeErrorCode)
  | received (response : Option A)
  | returned (status : Status)
  | thrown (what : String)
  deriving DecidableEq

/-- The instance that a request is sent with, if one is. -/
def ServiceAct.sentWith (k : ℕ) : ServiceAct Q A → Option ℕ
  | .sent .. => some k
  | _ => none

namespace RosServiceNode

/-- `CheckStatus`, of what a callback returns. -/
def checkStatus (n : RosServiceNode A) (called : ServiceAct Q A) (status : Status) :
    RosServiceNode A × List (ServiceAct Q A) :=
  if status = .success ∨ status = .failure then
    ({ n with status := status }, [called, .returned status])
  else
    (n, [called,
      .thrown "RosServiceNode: the callback must return either SUCCESS nor FAILURE"])

/-- The first step: the request is sent, as number `id`. What `onFailure` returns for a service
    that is not ready is not checked. -/
def tickIdle (C : ServiceClass A) (n : RosServiceNode A) (input : ServiceInput Q) (id : ℕ) :
    RosServiceNode A × List (ServiceAct Q A) :=
  let n := { n with
    status := .running
    responseReceived := false
    futureResponse := none
    response := none }
  match input.setRequest with
  | .error what => (n, [.thrown what])
  | .ok none => n.checkStatus (.failed .invalidRequest) (C.onFailure .invalidRequest)
  | .ok (some request) =>
    if !input.serviceIsReady then
      ({ n with status := C.onFailure .serviceUnreachable },
        [.failed .serviceUnreachable, .returned (C.onFailure .serviceUnreachable)])
    else
      ({ n with futureResponse := some id, timeRequestSent := input.now },
        [.sent id request input.now, .returned .running])

/-- The end of the tick of a node that has its response. -/
def respond (C : ServiceClass A) (n : RosServiceNode A) :
    RosServiceNode A × List (ServiceAct Q A) :=
  n.checkStatus (.received n.response) (C.onResponseReceived n.response)

/-- The tick of a running node, after the executor was spun: `answer` is what the futures that
    are ready have. -/
def tickRunning (C : ServiceClass A) (n : RosServiceNode A) (input : ServiceInput Q)
    (answer : ℕ → Option (Except String (Option A))) :
    RosServiceNode A × List (ServiceAct Q A) :=
  if n.responseReceived then n.respond C
  else
    match n.futureResponse with
    | none => (n, [.thrown "std::future_error: No associated state"])
    | some id =>
      match answer id with
      | none =>
        if C.serviceTimeout < input.now - n.timeRequestSent then
          n.checkStatus (.failed .serviceTimeout) (C.onFailure .serviceTimeout)
        else (n, [.returned .running])
      | some (.error what) => ({ n with responseReceived := true }, [.thrown what])
      | some (.ok response) =>
        let n := { n with
          responseReceived := true
          response := response
          futureResponse := none }
        if response.isNone then (n, [.thrown "Request was rejected by the service"])
        else n.respond C

/-- `tick`, once the node has its client. A node that has completed and was not reset is running
    again. -/
def act (C : ServiceClass A) (n : RosServiceNode A) (input : ServiceInput Q) (id : ℕ)
    (answer : ℕ → Option (Except String (Option A))) :
    RosServiceNode A × List (ServiceAct Q A) :=
  match n.status with
  | .idle => n.tickIdle C input id
  | .running => n.tickRunning C input answer
  | _ => ({ n with status := .running }, [.returned .running])

end RosServiceNode

/-! ## The nodes and their clients -/

/-- `ServiceClientInstance`: the responses that wait in the queue of the client, and those that
    were taken, the oldest first, with their requests. -/
structure ServiceClientInstance (A : Type*) where
  serviceName : String
  queue : List (ℕ × Option A) := []
  taken : List (ℕ × Option A) := []

/-- The nodes of a program, the instances at their addresses, the registry of services, with
    pointers that do not own, and the instances that the requests were sent with. -/
structure Services (ι A : Type*) where
  instances : List (ServiceClientInstance A)
  registry : String → Option ℕ
  nodes : ι → Option (RosServiceNode A)
  requests : List ℕ

/-- What happens to the nodes. -/
inductive ServiceEvent (ι Q A : Type*)
  | construct (i : ι) (port : Option String) (defaultPortValue : String) (nodeAlive : Bool)
  | destroy (i : ι)
  | tick (i : ι) (input : ServiceInput Q)
  /-- `haltNode`, and the status is reset. -/
  | halt (i : ι)
  /-- The status of a node that has completed is reset. -/
  | reset (i : ι)
  /-- A derived class calls it in its tick. -/
  | setServiceName (i : ι) (serviceName : String) (nodeAlive : Bool)
  /-- A response to a request comes to the queue of its client. -/
  | respond (id : ℕ) (response : Option A)

/-- The service that a node is given a client for when it is constructed. -/
def constructorService (isBlackboardPointer : String → Bool) (port : Option String)
    (defaultPortValue : String) : Option String :=
  let default := if defaultPortValue = "" then none else some defaultPortValue
  match port with
  | some bbServiceName =>
    if isBlackboardPointer bbServiceName ∨ bbServiceName = "" then default
    else some bbServiceName
  | none => default

namespace Services

variable [DecidableEq ι] [Fintype ι]

def init : Services ι A where
  instances := []
  registry _ := none
  nodes _ := none
  requests := []

/-- No node holds the instance. -/
def Expired (s : Services ι A) (k : ℕ) : Prop :=
  ∀ i, (s.nodes i).bind RosServiceNode.srvInstance ≠ some k

instance (s : Services ι A) (k : ℕ) : Decidable (s.Expired k) :=
  inferInstanceAs (Decidable (∀ _, _))

/-- The instance of a service in the registry, or a new one. -/
def instanceOf (s : Services ι A) (serviceName : String) : ℕ × Services ι A :=
  let created := (s.instances.length, { s with
    instances := s.instances ++ [{ serviceName := serviceName }]
    registry := update s.registry serviceName (some s.instances.length) })
  match s.registry serviceName with
  | some k => if s.Expired k then created else (k, s)
  | none => created

/-- `createClient` -/
def createClient (s : Services ι A) (i : ι) (n : RosServiceNode A) (serviceName : String)
    (nodeAlive : Bool) : Except String (Services ι A) :=
  if serviceName = "" ∨ serviceName = "__default__placeholder__" then
    .error "service_name is empty or invalid"
  else if !nodeAlive then
    .error ("The ROS node went out of scope. RosNodeParams doesn't take the " ++
      "ownership of the node.")
  else
    let (k, s) := s.instanceOf serviceName
    let n := { n with srvInstance := some k, serviceName := serviceName }
    .ok { s with nodes := update s.nodes i (some n) }

def construct (isBlackboardPointer : String → Bool) (s : Services ι A) (i : ι)
    (port : Option String) (defaultPortValue : String) (nodeAlive : Bool) :
    Except String (Services ι A) :=
  let n : RosServiceNode A := { serviceNameShouldBeChecked := port.any isBlackboardPointer }
  match constructorService isBlackboardPointer port defaultPortValue with
  | some serviceName => s.createClient i n serviceName nodeAlive
  | none => .ok { s with nodes := update s.nodes i (some n) }

/-- `setServiceName`: the name is set, also if no client is created. -/
def setServiceName (s : Services ι A) (i : ι) (n : RosServiceNode A) (serviceName : String)
    (nodeAlive : Bool) : Services ι A × List (ι × ServiceAct Q A) :=
  let n := { n with serviceName := serviceName }
  match s.createClient i n serviceName nodeAlive with
  | .ok s => (s, [])
  | .error what => ({ s with nodes := update s.nodes i (some n) }, [(i, .thrown what)])

/-- The executor of an instance is spun: responses in the queue are taken. -/
def spin (s : Services ι A) (k spun : ℕ) : Services ι A :=
  { s with instances := s.instances.modify k fun inst =>
      { inst with
        queue := inst.queue.drop spun
        taken := inst.taken ++ inst.queue.take spun } }

/-- What the future of a request has when it is ready: the response that was taken for it, or
    an exception, when the client was destroyed before. -/
def answer (s : Services ι A) (id : ℕ) : Option (Except String (Option A)) :=
  s.requests[id]?.bind fun k => s.instances[k]?.bind fun inst =>
    match inst.taken.lookup id with
    | some response => some (.ok response)
    | none => if s.Expired k then some (.error "std::future_error: Broken promise") else none

/-- `tick` before the executor is spun: a client is created if there is none, or if the port of
    an idle node may have changed, for another name than the last one. -/
def updateClient (s : Services ι A) (i : ι) (n : RosServiceNode A) (input : ServiceInput Q) :
    Except String (Services ι A) :=
  if (n.srvInstance.isNone ∨ n.status = .idle ∧ n.serviceNameShouldBeChecked = true) ∧
      n.serviceName ≠ input.portServiceName then
    s.createClient i n input.portServiceName input.nodeAlive
  else .ok s

/-- `tick` after that. -/
def actWith (C : ι → ServiceClass A) (s : Services ι A) (i : ι) (n : RosServiceNode A) (k : ℕ)
    (input : ServiceInput Q) : Services ι A × List (ι × ServiceAct Q A) :=
  let s := if n.status = .running then s.spin k input.spun else s
  let r := n.act (C i) input s.requests.length s.answer
  ({ s with
    nodes := update s.nodes i (some r.1)
    requests := s.requests ++ r.2.filterMap (ServiceAct.sentWith k) }, r.2.map (i, ·))

def tick (C : ι → ServiceClass A) (s : Services ι A) (i : ι) (n : RosServiceNode A)
    (input : ServiceInput Q) : Services ι A × List (ι × ServiceAct Q A) :=
  if !input.ok then
    ({ s with nodes := update s.nodes i (some { n with status := .failure }) },
      [(i, .returned .failure)])
  else
    match s.updateClient i n input with
    | .error what => (s, [(i, .thrown what)])
    | .ok s =>
      match s.nodes i with
      | none => (s, [])
      | some n =>
        match n.srvInstance with
        | none => (s, [(i, .thrown ("RosServiceNode: no service client was specified " ++
            "neither as default or in the ports"))])
        | some k => s.actWith C i n k input

/-- A response comes to the queue of the client of its request. -/
def respond (s : Services ι A) (id : ℕ) (response : Option A) : Services ι A :=
  match s.requests[id]? with
  | none => s
  | some k => { s with instances := s.instances.modify k fun inst =>
      { inst with queue := inst.queue ++ [(id, response)] } }

/-- `halt` resets the status of a running node; the node is idle either way once it was halted,
    or was reset. -/
def resetStatus (s : Services ι A) (i : ι) : Services ι A :=
  { s with nodes := update s.nodes i ((s.nodes i).map fun n => { n with status := .idle }) }

/-- An event, with what the nodes do in it. -/
def step (isBlackboardPointer : String → Bool) (C : ι → ServiceClass A) (s : Services ι A) :
    ServiceEvent ι Q A → Services ι A × List (ι × ServiceAct Q A)
  | .construct i port defaultPortValue nodeAlive =>
    match s.nodes i with
    | none =>
      match s.construct isBlackboardPointer i port defaultPortValue nodeAlive with
      | .ok s => (s, [])
      | .error what => (s, [(i, .thrown what)])
    | some _ => (s, [])
  | .destroy i => ({ s with nodes := update s.nodes i none }, [])
  | .tick i input =>
    match s.nodes i with
    | none => (s, [])
    | some n => s.tick C i n input
  | .halt i => (s.resetStatus i, [])
  | .reset i => (s.resetStatus i, [])
  | .setServiceName i serviceName nodeAlive =>
    match s.nodes i with
    | none => (s, [])
    | some n => s.setServiceName i n serviceName nodeAlive
  | .respond id response => (s.respond id response, [])

end Services

end Sentry.Ros
