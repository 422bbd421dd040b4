import Sentry.Ros.ServiceNode
import Sentry.Run

/-!
# Calls of services

What a service node is told depends on nothing but its own request: the response that it
receives is the first one to the request that it sent last, and it fails for a timeout, or
goes on waiting, only while there is none, unless the executor leaves responses in the queue
(`call_answered`). The other nodes that share its client, in whose ticks the response may have
been taken, make no difference, and neither do its earlier requests that were halted or timed
out. But a class that changes the name of the service while it waits leaves the response in
the queue of the old client (`not_call_answered`).
-/

namespace Sentry.Ros

open BehaviorTree (Status)
open Function (update)
open Transition (Along final outputs)

variable {ι Q A : Type*}

/-! ## Histories -/

/-- The responses that have come, with their requests. -/
def responses (es : List (ServiceEvent ι Q A)) : List (ℕ × Option A) :=
  es.filterMap fun
    | .respond id response => some (id, response)
    | _ => none

theorem responses_concat_respond (es : List (ServiceEvent ι Q A)) (id : ℕ)
    (response : Option A) :
    responses (es ++ [.respond id response]) = responses es ++ [(id, response)] := by
  simp [responses]

/-- Another event than a response. -/
theorem responses_concat (es : List (ServiceEvent ι Q A)) {e : ServiceEvent ι Q A}
    (he : ∀ id response, e ≠ .respond id response) : responses (es ++ [e]) = responses es := by
  rw [responses, List.filterMap_append]
  cases e with
  | respond id response => exact absurd rfl (he id response)
  | _ => exact List.append_nil _

/-- A request in what the nodes have done. -/
def requestOf [DecidableEq ι] (i : ι) : ι × ServiceAct Q A → Option (ℕ × Q × ℤ)
  | (j, .sent id request time) => if j = i then some (id, request, time) else none
  | _ => none

/-- The last request of a node, with its time. -/
def lastRequest [DecidableEq ι] (i : ι) (acts : List (ι × ServiceAct Q A)) :
    Option (ℕ × Q × ℤ) := (acts.filterMap (requestOf i)).getLast?

/-- The name of the service that a node has a client for. -/
def Services.serviceOf (s : Services ι A) (n : RosServiceNode A) : Option String :=
  n.srvInstance.bind fun k => s.instances[k]?.map ServiceClientInstance.serviceName

/-- A node that has completed is reset before it is ticked, a node that is waiting does not
    change its service, and responses come to requests that were sent. -/
def Services.Proper (s : Services ι A) : ServiceEvent ι Q A → Prop
  | .tick i _ => ∀ n, s.nodes i = some n → n.status = .idle ∨ n.status = .running
  | .setServiceName i serviceName _ =>
    ∀ n, s.nodes i = some n → n.status = .running → s.serviceOf n = some serviceName
  | .respond id _ => id < s.requests.length
  | _ => True

/-- The client of a node has no more responses in its queue than the executor takes. -/
def Services.Drained (s : Services ι A) (i : ι) (spun : ℕ) : Prop :=
  ∀ n k inst, s.nodes i = some n → n.srvInstance = some k → s.instances[k]? = some inst →
    inst.queue.length ≤ spun

/-! ## The invariant -/

/-- What a running node waits for, or has received, is the response to the last request of it. -/
structure Pending (rs : List (ℕ × Option A)) (last : Option (ℕ × Q × ℤ)) (requests : List ℕ)
    (n : RosServiceNode A) : Prop where
  held : n.srvInstance.isSome
  waiting : n.responseReceived = false → ∀ id, n.futureResponse = some id →
    ∃ k request, n.srvInstance = some k ∧ requests[id]? = some k ∧
      last = some (id, request, n.timeRequestSent)
  received : n.responseReceived = true → ∃ id request time, last = some (id, request, time) ∧
    rs.lookup id = some n.response

/-- The responses are in the clients of their requests, and the nodes have told what they should. -/
structure Tracked [DecidableEq ι] (rs : List (ℕ × Option A))
    (acts : List (ι × ServiceAct Q A)) (s : Services ι A) : Prop where
  held : ∀ i n k, s.nodes i = some n → n.srvInstance = some k →
    ∃ inst, s.instances[k]? = some inst ∧ s.registry inst.serviceName = some k
  registered : ∀ serviceName k, s.registry serviceName = some k →
    ∃ inst, s.instances[k]? = some inst ∧ inst.serviceName = serviceName
  requests : ∀ k ∈ s.requests, k < s.instances.length
  answers : ∀ (k : ℕ) inst, s.instances[k]? = some inst →
    ∀ id : ℕ, (s.requests[id]? = some k ∨ s.requests.length ≤ id) →
      (inst.taken ++ inst.queue).lookup id = rs.lookup id
  fresh : ∀ id, s.requests.length ≤ id → rs.lookup id = none
  pending : ∀ i n, s.nodes i = some n → n.status = .running →
    Pending rs (lastRequest i acts) s.requests n

variable [DecidableEq ι] {rs : List (ℕ × Option A)} {acts : List (ι × ServiceAct Q A)}
  {s s' : Services ι A} {i : ι} {n : RosServiceNode A} {k : ℕ} {serviceName : String}

theorem tracked_init [Fintype ι] : Tracked [] ([] : List (ι × ServiceAct Q A))
    (Services.init : Services ι A) where
  held := nofun
  registered := nofun
  requests := nofun
  answers := nofun
  fresh _ _ := rfl
  pending := nofun

/-- A node is replaced by one that is not running, or waits as it should. -/
theorem Tracked.replace (h : Tracked rs acts s) {o : Option (RosServiceNode A)}
    (hheld : ∀ n k, o = some n → n.srvInstance = some k →
      ∃ inst, s.instances[k]? = some inst ∧ s.registry inst.serviceName = some k)
    (hpending : ∀ n, o = some n → n.status = .running →
      Pending rs (lastRequest i acts) s.requests n) :
    Tracked rs acts { s with nodes := update s.nodes i o } := by
  refine ⟨fun j n k hn hk => ?_, h.registered, h.requests, h.answers, h.fresh,
    fun j n hn hrunning => ?_⟩
  · rcases eq_or_ne j i with rfl | hne
    · exact hheld n k (by simpa using hn) hk
    · exact h.held j n k (by simpa [hne] using hn) hk
  · rcases eq_or_ne j i with rfl | hne
    · exact hpending n (by simpa using hn) hrunning
    · exact h.pending j n (by simpa [hne] using hn) hrunning

/-! ## Clients -/

/-- The instance of a service is the one that its nodes hold, or a new one. -/
theorem Tracked.instanceOf [Fintype ι] (h : Tracked rs acts s) (serviceName : String) :
    Tracked rs acts (s.instanceOf serviceName).2 ∧
      (s.instanceOf serviceName).2.nodes = s.nodes ∧
      (s.instanceOf serviceName).2.requests = s.requests ∧
      ∃ inst, (s.instanceOf serviceName).2.instances[(s.instanceOf serviceName).1]? = some inst ∧
        (s.instanceOf serviceName).2.registry inst.serviceName =
          some (s.instanceOf serviceName).1 := by
  by_cases hlive : ∃ k, s.registry serviceName = some k ∧ ¬s.Expired k
  · obtain ⟨k, hregistry, hexpired⟩ := hlive
    have hinstance : s.instanceOf serviceName = (k, s) := by
      rw [Services.instanceOf, hregistry]
      exact if_neg hexpired
    obtain ⟨inst, hinst, rfl⟩ := h.registered serviceName k hregistry
    rw [hinstance]
    exact ⟨h, rfl, rfl, inst, hinst, hregistry⟩
  · have hinstance : s.instanceOf serviceName = (s.instances.length, { s with
        instances := s.instances ++ [{ serviceName := serviceName }]
        registry := update s.registry serviceName (some s.instances.length) }) := by
      rw [Services.instanceOf]
      split
      next k hregistry => exact if_pos (by_contra fun hexpired => hlive ⟨k, hregistry, hexpired⟩)
      next => rfl
    rw [hinstance]
    have hlookup : ∀ {k : ℕ} {inst : ServiceClientInstance A}, s.instances[k]? = some inst →
        (s.instances ++ [{ serviceName := serviceName }])[k]? = some inst := fun hinst =>
      (List.getElem?_append_left (List.getElem?_eq_some_iff.1 hinst).1).trans hinst
    refine ⟨⟨fun i n k hn hk => ?_, fun serviceName' k hk => ?_, fun k hk => ?_,
      fun k inst hinst id hid => ?_, h.fresh, h.pending⟩, rfl, rfl, _,
      List.getElem?_concat_length, Function.update_self ..⟩
    · -- a service that a node holds an instance of has not expired
      obtain ⟨inst, hinst, hregistry⟩ := h.held i n k hn hk
      have hne : inst.serviceName ≠ serviceName := by
        rintro rfl
        exact hlive ⟨k, hregistry, fun hexpired =>
          hexpired i (Option.bind_eq_some_iff.2 ⟨n, hn, hk⟩)⟩
      exact ⟨inst, hlookup hinst, (Function.update_of_ne hne _ _).trans hregistry⟩
    · rcases eq_or_ne serviceName' serviceName with rfl | hne
      · simp only [Function.update_self, Option.some.injEq] at hk
        subst hk
        exact ⟨_, List.getElem?_concat_length, rfl⟩
      · obtain ⟨inst, hinst, hname⟩ := h.registered serviceName' k
          ((Function.update_of_ne hne _ _).symm.trans hk)
        exact ⟨inst, hlookup hinst, hname⟩
    · exact (h.requests k hk).trans (by simp)
    · rcases Nat.lt_trichotomy k s.instances.length with hlt | rfl | hgt
      · exact h.answers k inst (List.getElem?_append_left hlt ▸ hinst) id hid
      · obtain rfl := Option.some.inj (List.getElem?_concat_length.symm.trans hinst)
        refine (h.fresh id (hid.resolve_left fun hid => ?_)).symm
        exact (h.requests _ (List.mem_of_getElem? hid)).false
      · have hlt := (List.getElem?_eq_some_iff.1 hinst).1
        rw [List.length_append, List.length_singleton] at hlt
        omega

/-- The service that a node holds an instance of is the one that the registry has. -/
theorem Tracked.instanceOf_self [Fintype ι] (h : Tracked rs acts s) (hn : s.nodes i = some n)
    (hservice : s.serviceOf n = some serviceName) :
    s.instanceOf serviceName = (n.srvInstance.getD 0, s) ∧ n.srvInstance.isSome := by
  obtain ⟨k, hk, hname⟩ := Option.bind_eq_some_iff.1 hservice
  obtain ⟨inst, hinst, rfl⟩ := Option.map_eq_some_iff.1 hname
  obtain ⟨inst', hinst', hregistry⟩ := h.held i n k hn hk
  obtain rfl := Option.some.inj (hinst.symm.trans hinst')
  rw [hk]
  refine ⟨?_, rfl⟩
  rw [Services.instanceOf, hregistry]
  exact if_neg fun hexpired => hexpired i (Option.bind_eq_some_iff.2 ⟨n, hn, hk⟩)

/-- A node gets a client, unless it is waiting and its service would be another one. -/
theorem Tracked.createClient [Fintype ι] (h : Tracked rs acts s) {nodeAlive : Bool}
    (hn : n.status = .running → ∃ n₀, s.nodes i = some n₀ ∧ s.serviceOf n₀ = some serviceName ∧
      n = { n₀ with serviceName := n.serviceName })
    (hs : s.createClient i n serviceName nodeAlive = .ok s') :
    Tracked rs acts s' ∧ s'.requests = s.requests ∧ ∃ n', s'.nodes = update s.nodes i (some n') ∧
      n'.status = n.status := by
  rw [Services.createClient] at hs
  split at hs
  · simp at hs
  · split at hs
    · simp at hs
    · obtain ⟨htracked, hnodes, hrequests, inst, hinst, hregistry⟩ := h.instanceOf serviceName
      simp only [Except.ok.injEq] at hs
      subst hs
      refine ⟨htracked.replace (fun n' k hn' hk => ?_) (fun n' hn' hrunning => ?_), hrequests,
        { n with srvInstance := some (s.instanceOf serviceName).1, serviceName := serviceName },
        by rw [hnodes], rfl⟩
      · obtain rfl := Option.some.inj hn'
        obtain rfl := Option.some.inj hk
        exact ⟨inst, hinst, hregistry⟩
      · obtain rfl := Option.some.inj hn'
        obtain ⟨n₀, hn₀, hservice, hn₀'⟩ := hn hrunning
        obtain ⟨hself, hsome⟩ := h.instanceOf_self hn₀ hservice
        obtain ⟨k, hk⟩ := Option.isSome_iff_exists.1 hsome
        rw [hself, hk, hn₀']
        have hrunning₀ : n₀.status = .running := by
          rw [hn₀'] at hrunning
          exact hrunning
        obtain ⟨hheld, hwaiting, hreceived⟩ := h.pending i n₀ hn₀ hrunning₀
        exact ⟨rfl, fun hfalse id hid => hk ▸ hwaiting hfalse id hid, hreceived⟩

/-! ## Ticks -/

/-- What a node tells in a tick agrees with the history: a response that it receives is the
    first one to its last request, and while there is none, it waits for so long as the timeout
    allows, and fails after that. When the executor has not `drained` the queue, the response
    may still be in it. -/
structure Tells (C : ServiceClass A) (rs : List (ℕ × Option A))
    (last : Option (ℕ × Q × ℤ)) (drained running : Prop) (now : ℤ)
    (told : List (ServiceAct Q A)) : Prop where
  received : ∀ response, .received response ∈ told →
    ∃ id request time, last = some (id, request, time) ∧ rs.lookup id = some response
  timeout : .failed .serviceTimeout ∈ told →
    ∃ id request time, last = some (id, request, time) ∧ (drained → rs.lookup id = none) ∧
      C.serviceTimeout < now - time
  waiting : running → .returned .running ∈ told →
    ∃ id request time, last = some (id, request, time) ∧ (drained → rs.lookup id = none) ∧
      now - time ≤ C.serviceTimeout

section

variable {C : ServiceClass A} {last : Option (ℕ × Q × ℤ)} {requests : List ℕ}
  {input : ServiceInput Q}

/-- A tick that calls nothing and does not go on. -/
theorem tells_of_quiet {drained running : Prop} {now : ℤ} {told : List (ServiceAct Q A)}
    (hreceived : ∀ response, .received response ∉ told)
    (htimeout : .failed .serviceTimeout ∉ told) (hwaiting : running → .returned .running ∉ told) :
    Tells C rs last drained running now told :=
  ⟨fun response hmem => absurd hmem (hreceived response), fun hmem => absurd hmem htimeout,
    fun hrunning hmem => absurd hmem (hwaiting hrunning)⟩

theorem Tells.mono {drained drained' running running' : Prop} {now : ℤ}
    {told : List (ServiceAct Q A)} (h : Tells C rs last drained running now told)
    (hdrained : drained' → drained) (hrunning : running' → running) :
    Tells C rs last drained' running' now told := by
  refine ⟨h.received, fun hmem => ?_, fun hrunning' hmem => ?_⟩
  · obtain ⟨id, request, time, hlast, hnone, hlate⟩ := h.timeout hmem
    exact ⟨id, request, time, hlast, hnone ∘ hdrained, hlate⟩
  · obtain ⟨id, request, time, hlast, hnone, hearly⟩ := h.waiting (hrunning hrunning') hmem
    exact ⟨id, request, time, hlast, hnone ∘ hdrained, hearly⟩

/-- No request is sent. -/
def Unsent (told : List (ServiceAct Q A)) : Prop :=
  ∀ id request time, .sent id request time ∉ told

theorem Unsent.sentWith {told : List (ServiceAct Q A)} (h : Unsent told) (k : ℕ) :
    told.filterMap (ServiceAct.sentWith k) = [] := by
  rw [List.filterMap_eq_nil_iff]
  intro act hact
  cases act with
  | sent id request time => exact absurd hact (h id request time)
  | _ => rfl

theorem Unsent.lastRequest {told : List (ServiceAct Q A)} (h : Unsent told) :
    lastRequest i (acts ++ told.map (i, ·)) = lastRequest i acts := by
  have hnil : (told.map (i, ·)).filterMap (requestOf i) = [] := by
    rw [List.filterMap_eq_nil_iff]
    rintro ⟨j, act⟩ hact
    obtain ⟨act, hmem, heq⟩ := List.mem_map.1 hact
    obtain ⟨rfl, rfl⟩ := Prod.mk.inj heq
    cases act with
    | sent id request time => exact absurd hmem (h id request time)
    | _ => rfl
  rw [Ros.lastRequest, List.filterMap_append, hnil, List.append_nil, Ros.lastRequest]

theorem lastRequest_sent (acts : List (ι × ServiceAct Q A)) (i : ι) (id : ℕ) (request : Q)
    (time : ℤ) (status : Status) :
    lastRequest i (acts ++ [.sent id request time, .returned status].map (i, ·)) =
      some (id, request, time) := by
  have hsent : requestOf i (i, (.sent id request time : ServiceAct Q A)) =
      some (id, request, time) := if_pos rfl
  have hreturned : requestOf i (i, (.returned status : ServiceAct Q A)) = none := rfl
  simp [lastRequest, hsent, hreturned]

/-- What another node does. -/
theorem lastRequest_of_ne {j : ι} (hne : j ≠ i) (told : List (ServiceAct Q A)) :
    lastRequest j (acts ++ told.map (i, ·)) = lastRequest j acts := by
  have hnil : (told.map (i, ·)).filterMap (requestOf j) = [] := by
    rw [List.filterMap_eq_nil_iff]
    rintro ⟨j', act⟩ hact
    obtain ⟨act, -, heq⟩ := List.mem_map.1 hact
    obtain ⟨rfl, rfl⟩ := Prod.mk.inj heq
    cases act with
    | sent id request time => exact if_neg hne.symm
    | _ => rfl
  rw [lastRequest, List.filterMap_append, hnil, List.append_nil, lastRequest]

/-- How `CheckStatus` ends a tick: it throws, or the node has completed. -/
inductive Ends : ServiceAct Q A → Prop
  | thrown (what : String) : Ends (.thrown what)
  | success : Ends (.returned .success)
  | failure : Ends (.returned .failure)

/-- What else is done before is the callback that was called. -/
theorem Ends.eq_of_mem {act called ended : ServiceAct Q A} (h : Ends ended)
    (hmem : act ∈ [called, ended]) (hact : ¬Ends act) : act = called := by
  rcases List.mem_cons.1 hmem with rfl | hmem
  · rfl
  · exact absurd (List.mem_singleton.1 hmem ▸ h) hact

/-- `CheckStatus` changes the status only. -/
theorem checkStatus_cases (n : RosServiceNode A) (called : ServiceAct Q A) (status : Status) :
    ∃ status' ended, Ends ended ∧
      n.checkStatus called status = ({ n with status := status' }, [called, ended]) := by
  rw [RosServiceNode.checkStatus]
  split
  next hcompleted =>
    refine ⟨status, .returned status, ?_, rfl⟩
    rcases hcompleted with rfl | rfl
    · exact .success
    · exact .failure
  next => exact ⟨n.status, _, .thrown _, rfl⟩

/-- A tick keeps the client. -/
theorem tickRunning_srvInstance (C : ServiceClass A) (n : RosServiceNode A)
    (input : ServiceInput Q) (answer : ℕ → Option (Except String (Option A))) :
    (n.tickRunning C input answer).1.srvInstance = n.srvInstance := by
  have hcheck : ∀ (n : RosServiceNode A) (called : ServiceAct Q A) (status : Status),
      (n.checkStatus called status).1.srvInstance = n.srvInstance := fun n called status => by
    rw [RosServiceNode.checkStatus]
    split <;> rfl
  rw [RosServiceNode.tickRunning]
  split
  · exact hcheck ..
  · split
    · rfl
    · split
      · split
        · exact hcheck ..
        · rfl
      · rfl
      · dsimp only
        split
        · rfl
        · exact hcheck ..

theorem Pending.setStatus (h : Pending rs last requests n) (status : Status) :
    Pending rs last requests { n with status := status } := ⟨h.held, h.waiting, h.received⟩

/-- A node that has its response tells it. -/
theorem Pending.respond (h : Pending rs last requests n) (hreceived : n.responseReceived = true)
    (drained : Prop) (now : ℤ) :
    Tells C rs last drained True now (n.respond C : _ × List (ServiceAct Q A)).2 ∧
      Unsent (n.respond C : _ × List (ServiceAct Q A)).2 ∧
      Pending rs last requests (n.respond C : _ × List (ServiceAct Q A)).1 := by
  obtain ⟨status, ended, hended, hcheck⟩ := checkStatus_cases (Q := Q) n (.received n.response)
    (C.onResponseReceived n.response)
  rw [RosServiceNode.respond, hcheck]
  refine ⟨⟨fun response hmem => ?_, fun hmem => ?_, fun _ hmem => ?_⟩,
    fun id request time hmem => ?_, h.setStatus status⟩
  · obtain rfl : response = n.response := by simpa using hended.eq_of_mem hmem nofun
    exact h.received hreceived
  · simpa using hended.eq_of_mem hmem nofun
  · simpa using hended.eq_of_mem hmem nofun
  · simpa using hended.eq_of_mem hmem nofun

/-- What a future has is the first response to its request, and it has it when the queue is
    drained. -/
def Answers (rs : List (ℕ × Option A)) (drained : Prop) (id : ℕ) :
    Option (Except String (Option A)) → Prop
  | none => drained → rs.lookup id = none
  | some (.error _) => False
  | some (.ok response) => rs.lookup id = some response

/-- The tick of a running node, for the responses that have come. -/
theorem Pending.tickRunning (h : Pending rs last requests n)
    {answer : ℕ → Option (Except String (Option A))} {drained : Prop}
    (hanswer : n.responseReceived = false → ∀ id, n.futureResponse = some id →
      Answers rs drained id (answer id)) :
    Tells C rs last drained True input.now (n.tickRunning C input answer).2 ∧
      Unsent (n.tickRunning C input answer).2 ∧
      Pending rs last requests (n.tickRunning C input answer).1 := by
  rw [RosServiceNode.tickRunning]
  split
  next hreceived => exact h.respond hreceived drained input.now
  next hreceived =>
    have hfalse : n.responseReceived = false := by simpa using hreceived
    split
    next => exact ⟨tells_of_quiet (by simp) (by simp) (by simp), by simp [Unsent], h⟩
    next id hid =>
      obtain ⟨k, request, -, -, hlast⟩ := h.waiting hfalse id hid
      have hfuture := hanswer hfalse id hid
      split
      next hnone =>
        have hlookup : drained → rs.lookup id = none := by
          rw [hnone] at hfuture
          exact hfuture
        split
        next hlate =>
          obtain ⟨status, ended, hended, hcheck⟩ := checkStatus_cases (Q := Q) n
            (.failed .serviceTimeout) (C.onFailure .serviceTimeout)
          rw [hcheck]
          refine ⟨⟨fun response hmem => ?_, fun _ => ⟨id, request, _, hlast, hlookup, hlate⟩,
            fun _ hmem => ?_⟩, fun id request time hmem => ?_, h.setStatus status⟩
          · simpa using hended.eq_of_mem hmem nofun
          · simpa using hended.eq_of_mem hmem nofun
          · simpa using hended.eq_of_mem hmem nofun
        next hearly =>
          exact ⟨⟨by simp, by simp, fun _ _ => ⟨id, request, _, hlast, hlookup, not_lt.1 hearly⟩⟩,
            by simp [Unsent], h⟩
      next what hbroken =>
        rw [hbroken] at hfuture
        exact hfuture.elim
      next response hsome =>
        rw [hsome] at hfuture
        have hpending : Pending rs last requests { n with
            responseReceived := true, response := response, futureResponse := none } :=
          ⟨h.held, by simp, fun _ => ⟨id, request, _, hlast, hfuture⟩⟩
        dsimp only
        split
        · exact ⟨tells_of_quiet (by simp) (by simp) (by simp), by simp [Unsent], hpending⟩
        · exact hpending.respond rfl drained input.now

/-- The first tick sends a request, or nothing is pending after it. -/
theorem tickIdle_cases (C : ServiceClass A) (n : RosServiceNode A) (input : ServiceInput Q)
    (id : ℕ) :
    ∃ n' told, n.tickIdle C input id = (n', told) ∧ n'.srvInstance = n.srvInstance ∧
      n'.responseReceived = false ∧ (∀ response, .received response ∉ told) ∧
      .failed .serviceTimeout ∉ told ∧
      ((∃ request, told = [.sent id request input.now, .returned .running] ∧
          n'.futureResponse = some id ∧ n'.timeRequestSent = input.now) ∨
        Unsent told ∧ n'.futureResponse = none) := by
  rw [RosServiceNode.tickIdle]
  dsimp only
  split
  next => exact ⟨_, _, rfl, rfl, rfl, by simp, by simp, .inr ⟨by simp [Unsent], rfl⟩⟩
  next =>
    obtain ⟨status, ended, hended, hcheck⟩ := checkStatus_cases (Q := Q) { n with
      status := .running
      responseReceived := false
      futureResponse := none
      response := none } (.failed .invalidRequest) (C.onFailure .invalidRequest)
    rw [hcheck]
    refine ⟨_, _, rfl, rfl, rfl, fun response hmem => ?_, fun hmem => ?_,
      .inr ⟨fun id request time hmem => ?_, rfl⟩⟩
    · simpa using hended.eq_of_mem hmem nofun
    · simpa using hended.eq_of_mem hmem nofun
    · simpa using hended.eq_of_mem hmem nofun
  next request _ =>
    split
    · exact ⟨_, _, rfl, rfl, rfl, by simp, by simp, .inr ⟨by simp [Unsent], rfl⟩⟩
    · exact ⟨_, _, rfl, rfl, rfl, by simp, by simp, .inl ⟨request, rfl, rfl, rfl⟩⟩

end

/-! ## Steps -/

/-- The responses of one client change, and with them those that have come. -/
theorem Tracked.modify {rs' : List (ℕ × Option A)} (h : Tracked rs acts s) (k : ℕ)
    {f : ServiceClientInstance A → ServiceClientInstance A}
    (hname : ∀ inst, (f inst).serviceName = inst.serviceName)
    (hanswers : ∀ (k' : ℕ) inst, s.instances[k']? = some inst →
      ∀ id : ℕ, (s.requests[id]? = some k' ∨ s.requests.length ≤ id) →
        ((if k = k' then f inst else inst).taken ++ (if k = k' then f inst else inst).queue).lookup
          id = rs'.lookup id)
    (hfresh : ∀ id, s.requests.length ≤ id → rs'.lookup id = none)
    (hlater : ∀ id response, rs.lookup id = some response → rs'.lookup id = some response) :
    Tracked rs' acts { s with instances := s.instances.modify k f } := by
  have hlookup : ∀ k' : ℕ, (s.instances.modify k f)[k']? = s.instances[k']?.map fun inst =>
      if k = k' then f inst else inst := fun k' => by
    rw [List.getElem?_modify]
    rcases s.instances[k']? with _ | inst
    · rfl
    · by_cases hk : k = k' <;> simp [hk]
  have hnames : ∀ (k' : ℕ) inst, (if k = k' then f inst else inst).serviceName =
      inst.serviceName := fun k' inst => by
    split
    · exact hname inst
    · rfl
  refine ⟨fun i n k' hn hk' => ?_, fun serviceName k' hk' => ?_, fun k' hk' => ?_,
    fun k' inst hinst id hid => ?_, hfresh, fun i n hn hrunning => ?_⟩
  · obtain ⟨inst, hinst, hregistry⟩ := h.held i n k' hn hk'
    exact ⟨_, (hlookup k').trans (by rw [hinst, Option.map_some]),
      (congrArg s.registry (hnames k' inst)).trans hregistry⟩
  · obtain ⟨inst, hinst, hname⟩ := h.registered serviceName k' hk'
    exact ⟨_, (hlookup k').trans (by rw [hinst, Option.map_some]), (hnames k' inst).trans hname⟩
  · exact (h.requests k' hk').trans_eq (List.length_modify ..).symm
  · rw [hlookup] at hinst
    obtain ⟨inst₀, hinst₀, rfl⟩ := Option.map_eq_some_iff.1 hinst
    exact hanswers k' inst₀ hinst₀ id hid
  · obtain ⟨hheld, hwaiting, hreceived⟩ := h.pending i n hn hrunning
    refine ⟨hheld, hwaiting, fun htrue => ?_⟩
    obtain ⟨id, request, time, hlast, hlookup⟩ := hreceived htrue
    exact ⟨id, request, time, hlast, hlater id _ hlookup⟩

/-- What is taken from a queue stays with its client. -/
theorem Tracked.spin (h : Tracked rs acts s) (k spun : ℕ) : Tracked rs acts (s.spin k spun) := by
  refine h.modify k (fun _ => rfl) (fun k' inst hinst id hid => ?_) h.fresh fun _ _ => id
  rw [← h.answers k' inst hinst id hid]
  split
  · rw [List.append_assoc, List.take_append_drop]
  · rfl

/-- After a spin, the future of a request to a client that a node holds has the first response
    to it. -/
theorem Tracked.answer_spin [Fintype ι] (h : Tracked rs acts s) (hn : s.nodes i = some n)
    (hk : n.srvInstance = some k) {id : ℕ} (hid : s.requests[id]? = some k) (spun : ℕ) :
    Answers rs (s.Drained i spun) id ((s.spin k spun).answer id) := by
  have hlt := h.requests k (List.mem_of_getElem? hid)
  obtain ⟨inst, hinst⟩ : ∃ inst, s.instances[k]? = some inst := ⟨_, List.getElem?_eq_getElem hlt⟩
  have hlookup := h.answers k inst hinst id (.inl hid)
  have hexpired : ¬(s.spin k spun).Expired k := fun hexpired =>
    hexpired i (Option.bind_eq_some_iff.2 ⟨n, hn, hk⟩)
  have hspun : (s.spin k spun).instances[k]? = some { inst with
      queue := inst.queue.drop spun, taken := inst.taken ++ inst.queue.take spun } := by
    rw [Services.spin, List.getElem?_modify_eq, hinst]
    rfl
  have hrequest : (s.spin k spun).requests[id]? = some k := hid
  rw [← List.take_append_drop spun inst.queue, ← List.append_assoc, List.lookup_append] at hlookup
  rw [Services.answer, hrequest, Option.bind_some, hspun, Option.bind_some]
  split
  next response hsome =>
    rw [hsome, Option.some_or] at hlookup
    exact hlookup.symm
  next hnone =>
    rw [if_neg hexpired]
    intro hdrained
    rw [hnone, List.drop_of_length_le (hdrained n k inst hn hk hinst)] at hlookup
    exact hlookup.symm

/-- What a node does in a tick changes nothing for the others. -/
theorem Tracked.after (h : Tracked rs acts s) {n' : RosServiceNode A}
    (hn : s.nodes i = some n) (hk : n.srvInstance = some k) (hk' : n'.srvInstance = some k)
    {told : List (ServiceAct Q A)}
    (hpending : n'.status = .running → Pending rs (lastRequest i (acts ++ told.map (i, ·)))
      (s.requests ++ told.filterMap (ServiceAct.sentWith k)) n') :
    Tracked rs (acts ++ told.map (i, ·)) { s with
      nodes := update s.nodes i (some n')
      requests := s.requests ++ told.filterMap (ServiceAct.sentWith k) } := by
  obtain ⟨inst, hinst, hregistry⟩ := h.held i n k hn hk
  have hsent : ∀ k' ∈ told.filterMap (ServiceAct.sentWith k), k' = k := by
    intro k' hk'
    obtain ⟨act, -, hact⟩ := List.mem_filterMap.1 hk'
    cases act with
    | sent id request time => exact (Option.some.inj hact).symm
    | _ => simp [ServiceAct.sentWith] at hact
  refine ⟨fun j m k' hm hmk => ?_, h.registered, fun k' hmem => ?_,
    fun k' inst' hinst' id hid => ?_, fun id hid => h.fresh id ?_, fun j m hm hrunning => ?_⟩
  · rcases eq_or_ne j i with rfl | hne
    · simp only [Function.update_self, Option.some.injEq] at hm
      subst hm
      obtain rfl := Option.some.inj (hk'.symm.trans hmk)
      exact ⟨inst, hinst, hregistry⟩
    · exact h.held j m k' (by simpa [hne] using hm) hmk
  · rcases List.mem_append.1 hmem with hmem | hmem
    · exact h.requests k' hmem
    · rw [hsent k' hmem]
      exact (List.getElem?_eq_some_iff.1 hinst).1
  · -- there is no response yet to a new request
    refine h.answers k' inst' hinst' id ?_
    rcases hid with hid | hid
    · rcases Nat.lt_or_ge id s.requests.length with hlt | hge
      · exact .inl ((List.getElem?_append_left hlt).symm.trans hid)
      · exact .inr hge
    · exact .inr ((Nat.le_add_right _ _).trans (List.length_append ▸ hid))
  · exact (Nat.le_add_right _ _).trans (List.length_append ▸ hid)
  · rcases eq_or_ne j i with rfl | hne
    · simp only [Function.update_self, Option.some.injEq] at hm
      subst hm
      exact hpending hrunning
    · obtain ⟨hheld, hwaiting, hreceived⟩ := h.pending j m (by simpa [hne] using hm) hrunning
      rw [lastRequest_of_ne hne]
      refine ⟨hheld, fun hfalse id hid => ?_, hreceived⟩
      obtain ⟨k', request, hmk, hrequest, hlast⟩ := hwaiting hfalse id hid
      exact ⟨k', request, hmk,
        (List.getElem?_append_left (List.getElem?_eq_some_iff.1 hrequest).1).trans hrequest, hlast⟩

/-- A tick of a node with a client. -/
theorem Tracked.actWith [Fintype ι] (h : Tracked rs acts s) (C : ι → ServiceClass A)
    (input : ServiceInput Q) (hn : s.nodes i = some n) (hk : n.srvInstance = some k)
    (hstatus : n.status = .idle ∨ n.status = .running) {drained : Prop}
    (hdrained : n.status = .running → drained → s.Drained i input.spun) :
    ∃ told, (s.actWith C i n k input).2 = told.map (i, ·) ∧
      Tells (C i) rs (lastRequest i acts) drained (n.status = .running) input.now told ∧
      Tracked rs (acts ++ told.map (i, ·)) (s.actWith C i n k input).1 := by
  rcases hstatus with hidle | hrunning
  · obtain ⟨n', told, htick, hinstance, hfalse, hreceived, htimeout, hcases⟩ :=
      tickIdle_cases (C i) n input s.requests.length
    have hact : s.actWith C i n k input = ({ s with
        nodes := update s.nodes i (some n')
        requests := s.requests ++ told.filterMap (ServiceAct.sentWith k) },
        told.map (i, ·)) := by
      simp only [Services.actWith, RosServiceNode.act, hidle, reduceCtorEq, if_false, htick]
    have hk' := hinstance.trans hk
    rw [hact]
    refine ⟨told, rfl, tells_of_quiet hreceived htimeout (by simp [hidle]),
      h.after hn hk hk' fun _ => ⟨by rw [hk']; rfl, fun _ id hid => ?_, by simp [hfalse]⟩⟩
    rcases hcases with ⟨request, rfl, hfuture, htime⟩ | ⟨-, hnone⟩
    · obtain rfl := Option.some.inj (hfuture.symm.trans hid)
      exact ⟨k, request, hk', by simp [ServiceAct.sentWith], htime ▸ lastRequest_sent ..⟩
    · exact nomatch hnone.symm.trans hid
  · have hp := h.pending i n hn hrunning
    have hanswers : n.responseReceived = false → ∀ id, n.futureResponse = some id →
        Answers rs (s.Drained i input.spun) id ((s.spin k input.spun).answer id) := by
      intro hfalse id hid
      obtain ⟨k', request, hk', hrequest, -⟩ := hp.waiting hfalse id hid
      obtain rfl := Option.some.inj (hk.symm.trans hk')
      exact h.answer_spin hn hk hrequest input.spun
    obtain ⟨htells, hunsent, hpending⟩ := hp.tickRunning (C := C i) hanswers
    have hk' := (tickRunning_srvInstance (C i) n input (s.spin k input.spun).answer).trans hk
    have hact : s.actWith C i n k input = ({ s.spin k input.spun with
        nodes := update (s.spin k input.spun).nodes i
          (some (n.tickRunning (C i) input (s.spin k input.spun).answer).1)
        requests := (s.spin k input.spun).requests ++
          (n.tickRunning (C i) input (s.spin k input.spun).answer).2.filterMap
            (ServiceAct.sentWith k) },
        (n.tickRunning (C i) input (s.spin k input.spun).answer).2.map (i, ·)) := by
      simp only [Services.actWith, RosServiceNode.act, hrunning, if_true]
    rw [hact]
    refine ⟨_, rfl, htells.mono (hdrained hrunning) fun _ => trivial,
      (h.spin k input.spun).after hn hk hk' fun _ => ?_⟩
    rw [hunsent.lastRequest, hunsent.sentWith, List.append_nil]
    exact hpending

/-- What is done without a request. -/
theorem Tracked.extend (h : Tracked rs acts s) {told : List (ServiceAct Q A)}
    (hunsent : Unsent told) (i : ι) : Tracked rs (acts ++ told.map (i, ·)) s := by
  refine ⟨h.held, h.registered, h.requests, h.answers, h.fresh, fun j n hn hrunning => ?_⟩
  rcases eq_or_ne j i with rfl | hne
  · rw [hunsent.lastRequest]
    exact h.pending j n hn hrunning
  · rw [lastRequest_of_ne hne]
    exact h.pending j n hn hrunning

/-- A tick tells what the responses say. -/
theorem Tracked.tick [Fintype ι] (h : Tracked rs acts s) (C : ι → ServiceClass A)
    (input : ServiceInput Q) (hn : s.nodes i = some n)
    (hstatus : n.status = .idle ∨ n.status = .running) :
    ∃ told, (s.tick C i n input).2 = told.map (i, ·) ∧
      Tells (C i) rs (lastRequest i acts) (s.Drained i input.spun) (n.status = .running)
        input.now told ∧
      Tracked rs (acts ++ told.map (i, ·)) (s.tick C i n input).1 := by
  rw [Services.tick]
  split
  · refine ⟨[.returned .failure], rfl, tells_of_quiet (by simp) (by simp) (by simp), ?_⟩
    refine (h.extend (by simp [Unsent]) i).replace (fun n' k hn' hk => ?_)
      fun n' hn' hrunning => ?_
    · obtain rfl := Option.some.inj hn'
      exact h.held i n k hn hk
    · obtain rfl := Option.some.inj hn'
      simp at hrunning
  · cases hclient : s.updateClient i n input with
    | error what =>
      exact ⟨[.thrown what], rfl, tells_of_quiet (by simp) (by simp) (by simp),
        h.extend (by simp [Unsent]) i⟩
    | ok s' =>
      have hclient' : Tracked rs acts s' ∧ (∃ n', s'.nodes i = some n' ∧ n'.status = n.status) ∧
          (n.status = .running → s' = s) := by
        rw [Services.updateClient] at hclient
        split at hclient
        next hneeds =>
          -- a node that is running has a client already
          have hnot : n.status ≠ .running := fun hrunning => by
            have hheld := (h.pending i n hn hrunning).held
            rcases hneeds.1 with hnone | ⟨hidle, -⟩
            · simp [Option.isNone_iff_eq_none.1 hnone] at hheld
            · exact nomatch hidle.symm.trans hrunning
          obtain ⟨htracked, -, n', hnodes, hsame⟩ :=
            h.createClient (fun hrunning => absurd hrunning hnot) hclient
          exact ⟨htracked, ⟨n', by rw [hnodes, Function.update_self], hsame⟩,
            fun hrunning => absurd hrunning hnot⟩
        next =>
          obtain rfl := Except.ok.inj hclient
          exact ⟨h, ⟨n, hn, rfl⟩, fun _ => rfl⟩
      obtain ⟨htracked, ⟨n', hn', hsame⟩, hkept⟩ := hclient'
      rw [← hsame] at hstatus ⊢
      simp only [hn']
      cases hk : n'.srvInstance with
      | none =>
        exact ⟨[.thrown _], rfl, tells_of_quiet (by simp) (by simp) (by simp),
          htracked.extend (by simp [Unsent]) i⟩
      | some k =>
        exact htracked.actWith C input hn' hk hstatus fun hrunning =>
          hkept (hsame.symm.trans hrunning) ▸ id

/-- A response comes to the client of its request. -/
theorem Tracked.respond (h : Tracked rs acts s) {id : ℕ} (hid : id < s.requests.length)
    (response : Option A) :
    Tracked (rs ++ [(id, response)]) acts (s.respond id response) := by
  have hother : ∀ {id'}, id' ≠ id → (rs ++ [(id, response)]).lookup id' = rs.lookup id' := by
    intro id' hne
    rw [List.lookup_append, List.lookup_cons, beq_eq_false_iff_ne.2 hne]
    exact Option.or_none
  have hk : s.requests[id]? = some s.requests[id] := List.getElem?_eq_getElem hid
  rw [Services.respond, hk]
  refine h.modify _ (fun _ => rfl) (fun k' inst hinst id' hid' => ?_) (fun id' hid' => ?_)
    fun id' response' hlookup => ?_
  · split
    next =>
      dsimp only
      rw [← List.append_assoc, List.lookup_append, h.answers k' inst hinst id' hid',
        List.lookup_append]
    next hne =>
      -- another client has no requests of this number
      rw [hother, h.answers k' inst hinst id' hid']
      rintro rfl
      rcases hid' with hid' | hid'
      · exact hne (Option.some.inj (hk.symm.trans hid'))
      · omega
  · rw [hother (by omega)]
    exact h.fresh id' hid'
  · rw [List.lookup_append, hlookup, Option.some_or]

/-- A node is constructed, with or without a client. -/
theorem Tracked.construct [Fintype ι] (h : Tracked rs acts s)
    {isBlackboardPointer : String → Bool} {port : Option String} {defaultPortValue : String}
    {nodeAlive : Bool}
    (hs : s.construct isBlackboardPointer i port defaultPortValue nodeAlive = .ok s') :
    Tracked rs acts s' := by
  simp only [Services.construct] at hs
  split at hs
  · exact (h.createClient (by simp) hs).1
  · obtain rfl := Except.ok.inj hs
    refine h.replace (fun n k hn hk => ?_) fun n hn hrunning => ?_ <;>
      obtain rfl := Option.some.inj hn
    · simp at hk
    · simp at hrunning

theorem Tracked.resetStatus (h : Tracked rs acts s) (i : ι) :
    Tracked rs acts (s.resetStatus i) := by
  refine h.replace (fun n k hn hk => ?_) fun n hn hrunning => ?_ <;>
    obtain ⟨n₀, hn₀, rfl⟩ := Option.map_eq_some_iff.1 hn
  · exact h.held i n₀ k hn₀ hk
  · simp at hrunning

/-- A node that is waiting may be given the name of the service that it has. -/
theorem Tracked.setServiceName [Fintype ι] (h : Tracked rs acts s) (hn : s.nodes i = some n)
    (hservice : n.status = .running → s.serviceOf n = some serviceName) (nodeAlive : Bool) :
    Tracked rs
      (acts ++ (s.setServiceName i n serviceName nodeAlive : _ × List (ι × ServiceAct Q A)).2)
      (s.setServiceName i n serviceName nodeAlive : _ × List (ι × ServiceAct Q A)).1 := by
  simp only [Services.setServiceName]
  split
  next s' hs =>
    exact (List.append_nil acts).symm ▸
      (h.createClient (fun hrunning => ⟨n, hn, hservice hrunning, rfl⟩) hs).1
  next what hs =>
    have hthrown : Tracked rs (acts ++ [.thrown what].map (i, ·)) s := h.extend (by simp [Unsent]) i
    refine hthrown.replace (fun n' k hn' hk => ?_) fun n' hn' hrunning => ?_ <;>
      obtain rfl := Option.some.inj hn'
    · exact h.held i n k hn hk
    · obtain ⟨hheld, hwaiting, hreceived⟩ := hthrown.pending i n hn hrunning
      exact ⟨hheld, hwaiting, hreceived⟩

/-- A proper event keeps the track of the responses and requests. -/
theorem Tracked.step [Fintype ι] {isBlackboardPointer : String → Bool} {C : ι → ServiceClass A}
    {es : List (ServiceEvent ι Q A)} (h : Tracked (responses es) acts s) {e : ServiceEvent ι Q A}
    (he : s.Proper e) :
    Tracked (responses (es ++ [e])) (acts ++ (s.step isBlackboardPointer C e).2)
      (s.step isBlackboardPointer C e).1 := by
  cases e with
  | construct i port defaultPortValue nodeAlive =>
    rw [responses_concat es (by simp)]
    simp only [Services.step]
    split
    · split
      next hs => exact (List.append_nil acts).symm ▸ h.construct hs
      next what hs =>
        have hunsent : Unsent [(.thrown what : ServiceAct Q A)] := by simp [Unsent]
        exact h.extend hunsent i
    · exact (List.append_nil acts).symm ▸ h
  | destroy i =>
    rw [responses_concat es (by simp)]
    exact (List.append_nil acts).symm ▸ h.replace nofun nofun
  | tick i input =>
    rw [responses_concat es (by simp)]
    cases hn : s.nodes i with
    | none =>
      simp only [Services.step, hn]
      exact (List.append_nil acts).symm ▸ h
    | some n =>
      obtain ⟨told, htold, -, htracked⟩ := h.tick C input hn (he n hn)
      simp only [Services.step, hn, htold]
      exact htracked
  | halt i | reset i =>
    rw [responses_concat es (by simp)]
    exact (List.append_nil acts).symm ▸ h.resetStatus i
  | setServiceName i serviceName nodeAlive =>
    rw [responses_concat es (by simp)]
    cases hn : s.nodes i with
    | none =>
      simp only [Services.step, hn]
      exact (List.append_nil acts).symm ▸ h
    | some n =>
      simp only [Services.step, hn]
      exact h.setServiceName hn (he n hn) nodeAlive
  | respond id response =>
    rw [responses_concat_respond]
    exact (List.append_nil acts).symm ▸ h.respond he response

/-- After any proper events, with the clients that are assumed, what a node tells in a tick agrees
    with the history: a response that it receives is the first one to the request that it sent
    last; it fails for a timeout only when the time is over and, the queue drained, there is none,
    and while it goes on waiting the time is not over and, the queue drained, there is none. -/
theorem call_answered [Fintype ι] {isBlackboardPointer : String → Bool} {C : ι → ServiceClass A}
    {es : List (ServiceEvent ι Q A)} {i : ι} {input : ServiceInput Q}
    (h : Along (Services.step isBlackboardPointer C) Services.Proper Services.init
      (es ++ [.tick i input])) :
    let before := final (Services.step isBlackboardPointer C) Services.init es
    ∃ told, (before.step isBlackboardPointer C (.tick i input)).2 = told.map (i, ·) ∧
      Tells (C i) (responses es)
        (lastRequest i (outputs (Services.step isBlackboardPointer C) Services.init es))
        (before.Drained i input.spun) (∃ n, before.nodes i = some n ∧ n.status = .running)
        input.now told := by
  intro before
  obtain ⟨hes, hproper⟩ := Transition.along_concat.1 h
  have htracked : Tracked (responses es)
      (outputs (Services.step isBlackboardPointer C) Services.init es) before :=
    hes.history (I := fun es acts s => Tracked (responses es) acts s) tracked_init
      fun _ _ _ _ htracked he => htracked.step he
  cases hn : before.nodes i with
  | none =>
    simp only [Services.step, hn]
    exact ⟨[], rfl, tells_of_quiet (by simp) (by simp) (by simp)⟩
  | some n =>
    obtain ⟨told, htold, htells, -⟩ := htracked.tick C input hn (hproper n hn)
    simp only [Services.step, hn]
    refine ⟨told, htold, htells.mono id ?_⟩
    rintro ⟨n', hn', hrunning⟩
    obtain rfl := Option.some.inj hn'
    exact hrunning

/-- Two nodes of a class that succeeds with any response. -/
def anyResponse : Services Bool ℕ → ServiceEvent Bool ℕ ℕ →
    Services Bool ℕ × List (Bool × ServiceAct ℕ ℕ) :=
  Services.step (fun _ => false) fun _ => ⟨fun _ => .success, fun _ => .failure, 1000000000⟩

/-- The response to the first node is taken in the tick of the second one. -/
def twoCalls : List (ServiceEvent Bool ℕ ℕ) :=
  [.construct false (some "add") "" true, .construct true none "add" true,
    .tick false { setRequest := .ok (some 1) }, .tick true { setRequest := .ok (some 2) },
    .respond 1 (some 20), .respond 0 (some 10), .tick true { setRequest := .ok none, spun := 2 }]

theorem twoCalls_proper : Along anyResponse Services.Proper .init
    (twoCalls ++ [.tick false { setRequest := .ok none }]) := by
  have hstatus : ∀ {s : Services Bool ℕ} {i n n'}, s.nodes i = some n' →
      n'.status = .idle ∨ n'.status = .running → s.nodes i = some n →
      n.status = .idle ∨ n.status = .running := fun hn' hstatus hn =>
    Option.some.inj (hn'.symm.trans hn) ▸ hstatus
  exact ⟨trivial, trivial, fun _ => hstatus rfl (.inl rfl), fun _ => hstatus rfl (.inl rfl),
    (show 1 < 2 by decide), (show 0 < 2 by decide),
    fun _ => hstatus rfl (.inr rfl), fun _ => hstatus rfl (.inr rfl), trivial⟩

theorem twoCalls_told :
    (anyResponse (final anyResponse .init twoCalls) (.tick false { setRequest := .ok none })).2 =
      [(false, .received (some 10)), (false, .returned .success)] := by
  decide +kernel

theorem call_answered_two :
    ∃ id request time,
      lastRequest false (outputs anyResponse .init twoCalls) = some (id, request, time) ∧
        (responses twoCalls).lookup id = some (some 10) := by
  obtain ⟨told, htold, htells⟩ := call_answered twoCalls_proper
  have hmap : told.map (false, ·) = _ := htold.symm.trans twoCalls_told
  have hmem : (false, .received (some 10)) ∈ told.map (false, ·) := hmap ▸ List.mem_cons_self
  exact htells.received (some 10) (by simpa using hmem)

/-- A node that changes its service while it waits fails for a timeout with its response at the
    old client, which another node holds. -/
theorem not_call_answered : ¬∀ (es : List (ServiceEvent Bool ℕ ℕ)) (input : ServiceInput ℕ),
    (final anyResponse .init es).Drained false input.spun →
    (false, .failed .serviceTimeout) ∈
      (anyResponse (final anyResponse .init es) (.tick false input)).2 →
    ∃ id request time,
      lastRequest false (outputs anyResponse .init es) = some (id, request, time) ∧
        (responses es).lookup id = none := by
  intro h
  obtain ⟨id, request, time, hlast, hnone⟩ := h [.construct false (some "add") "" true,
    .construct true (some "add") "" true, .tick false { setRequest := .ok (some 1) },
    .setServiceName false "sub" true, .respond 0 (some 10)]
    { setRequest := .ok none, now := 2000000000 } (fun n k inst hn hk hinst => by
      obtain rfl := Option.some.inj hn
      obtain rfl := Option.some.inj hk
      obtain rfl := Option.some.inj hinst
      exact Nat.le_refl 0) (List.mem_cons_self)
  obtain rfl : 0 = id := (Prod.mk.inj (Option.some.inj hlast)).1
  exact nomatch hnone

end Sentry.Ros
