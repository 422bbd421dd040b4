import Sentry.Ros.TopicSub
import Sentry.Run

/-!
# Mailboxes of subscribers

The nodes that share a subscription are told what is in mailboxes of their own, which are
filled from the latest message of the topic when they subscribe, as long as no tick changes the
topic of a node (`mailboxes_refined`): the message in the queue that they share is the latest
one in every mailbox, a node keeps the message that another one took, and the subscription
keeps it for the nodes to come (`Corresponds`). A node that changes its topic stays connected
to the old one, if there are other nodes that hold it, and may be told a message of the wrong
topic (`not_mailboxes_refined`).
-/

namespace Sentry.Ros

open Function (update)
open Transition (Along outputs)

variable {ι M : Type*}

/-- A node that holds an instance, its mailbox, and what is known of the topic. -/
structure Holds (s : Subscribers ι M) (b : Mailboxes ι M) (i : ι) (n : RosTopicSubNode M)
    (k : ℕ) (inst : SubscriberInstance ι M) : Prop where
  instance_eq : s.instances[k]? = some inst
  topic : inst.topicName = n.topicName
  connection : n.signalConnection = some k
  registry : s.registry n.topicName = some k
  box : b.boxes i = some { topic := some n.topicName, latest := inst.queue.or n.lastMsg }
  newest : b.newest n.topicName = inst.queue.or inst.lastMsg

/-- The nodes have told and will tell what is in their mailboxes: the message in the queue of
    their instance, or else the one they keep. -/
structure Corresponds (s : Subscribers ι M) (b : Mailboxes ι M) : Prop where
  absent : ∀ i, s.nodes i = none → b.boxes i = none
  unsubscribed : ∀ i n, s.nodes i = some n → n.subInstance = none → n = {} ∧ b.boxes i = some {}
  subscribed : ∀ i n k, s.nodes i = some n → n.subInstance = some k →
    ∃ inst, Holds s b i n k inst
  connected : ∀ (k : ℕ) inst, s.instances[k]? = some inst → inst.broadcaster.Nodup ∧
    ∀ i, i ∈ inst.broadcaster ↔ (s.nodes i).bind RosTopicSubNode.subInstance = some k
  registered : ∀ topic k, s.registry topic = some k →
    ∃ inst, s.instances[k]? = some inst ∧ inst.topicName = topic

variable {s s' : Subscribers ι M} {b : Mailboxes ι M} {i : ι} {n : RosTopicSubNode M} {k : ℕ}
  {topic : String} {msg : M}

@[simp] theorem receive_topicName (inst : SubscriberInstance ι M) :
    (inst.receive topic msg).topicName = inst.topicName := by
  rw [SubscriberInstance.receive]
  split <;> rfl

@[simp] theorem receive_broadcaster (inst : SubscriberInstance ι M) :
    (inst.receive topic msg).broadcaster = inst.broadcaster := by
  rw [SubscriberInstance.receive]
  split <;> rfl

variable [DecidableEq ι]

/-- The callbacks of a message that is taken from a queue tell nothing new. -/
theorem Corresponds.spinSome (h : Corresponds s b) (k : ℕ) : Corresponds (s.spinSome k) b := by
  unfold Subscribers.spinSome
  split
  next topicName msg lastMsg broadcaster hinst =>
    -- The nodes that are told the message are those that hold the instance.
    have hnodes : ∀ i, (if i ∈ broadcaster then
        (s.nodes i).map fun n => { n with lastMsg := some msg } else s.nodes i) =
        (s.nodes i).map fun n =>
          if n.subInstance = some k then { n with lastMsg := some msg } else n := by
      intro i
      have hmem := (h.connected k _ hinst).2 i
      dsimp only at hmem
      simp only [hmem]
      rcases s.nodes i with _ | n
      · simp
      · by_cases hk : n.subInstance = some k <;> simp [hk]
    simp only [hnodes]
    refine ⟨fun i hi => ?_, fun i n hn hnone => ?_, fun i n k' hn hsome => ?_,
      fun k' inst' hinst' => ?_, fun topic k' hk' => ?_⟩
    · exact h.absent i (Option.map_eq_none_iff.1 hi)
    · obtain ⟨n₀, hn₀, rfl⟩ := Option.map_eq_some_iff.1 hn
      by_cases hk : n₀.subInstance = some k
      · rw [if_pos hk] at hnone
        exact nomatch hnone.symm.trans hk
      · rw [if_neg hk] at hnone ⊢
        exact h.unsubscribed i n₀ hn₀ hnone
    · obtain ⟨n₀, hn₀, rfl⟩ := Option.map_eq_some_iff.1 hn
      by_cases hk : n₀.subInstance = some k
      · rw [if_pos hk] at hsome ⊢
        obtain rfl := Option.some.inj (hk.symm.trans hsome)
        obtain ⟨inst, hholds⟩ := h.subscribed i n₀ k hn₀ hk
        obtain rfl := Option.some.inj (hinst.symm.trans hholds.instance_eq)
        refine ⟨{ topicName, queue := none, lastMsg := some msg, broadcaster }, ?_,
          hholds.topic, hholds.connection, hholds.registry, hholds.box, hholds.newest⟩
        simp [hinst]
      · rw [if_neg hk] at hsome ⊢
        obtain ⟨inst, hholds⟩ := h.subscribed i n₀ k' hn₀ hsome
        have hne : k ≠ k' := fun heq => hk (hsome.trans (congrArg some heq.symm))
        refine ⟨inst, ?_, hholds.topic, hholds.connection, hholds.registry, hholds.box,
          hholds.newest⟩
        rw [List.getElem?_modify_ne _ _ hne]
        exact hholds.instance_eq
    · dsimp only at hinst'
      rw [List.getElem?_modify] at hinst'
      obtain ⟨inst, hinst, rfl⟩ := Option.map_eq_some_iff.1 hinst'
      obtain ⟨hnodup, hmem⟩ := h.connected k' inst hinst
      have hsub : ∀ i, ((s.nodes i).map fun n =>
          if n.subInstance = some k then { n with lastMsg := some msg } else n).bind
            RosTopicSubNode.subInstance = (s.nodes i).bind RosTopicSubNode.subInstance := by
        intro i
        rcases s.nodes i with _ | n
        · rfl
        · by_cases hk : n.subInstance = some k <;> simp [hk]
      simp only [hsub]
      split <;> exact ⟨hnodup, hmem⟩
    · obtain ⟨inst, hinst, htopic⟩ := h.registered topic k' hk'
      dsimp only
      rw [List.getElem?_modify, hinst]
      refine ⟨_, rfl, ?_⟩
      dsimp only
      split <;> exact htopic
  next => exact h

theorem spinSome_queue {inst : SubscriberInstance ι M}
    (hinst : (s.spinSome k).instances[k]? = some inst) : inst.queue = none := by
  unfold Subscribers.spinSome at hinst
  split at hinst
  next heq =>
    dsimp only at hinst
    rw [List.getElem?_modify_eq, heq] at hinst
    obtain rfl := Option.some.inj hinst
    rfl
  next hother =>
    cases hqueue : inst.queue with
    | none => rfl
    | some msg =>
      obtain ⟨topicName, queue, lastMsg, broadcaster⟩ := inst
      dsimp only at hqueue
      subst hqueue
      exact absurd hinst (hother _ _ _ _)

theorem spinSome_node (hn : s.nodes i = some n) (k : ℕ) :
    ∃ n', (s.spinSome k).nodes i = some n' ∧ n'.subInstance = n.subInstance := by
  unfold Subscribers.spinSome
  split
  · dsimp only
    split
    · rw [hn]
      exact ⟨_, rfl, rfl⟩
    · exact ⟨n, hn, rfl⟩
  · exact ⟨n, hn, rfl⟩

omit [DecidableEq ι] in
/-- A message in a queue is the latest one of the mailboxes of the topic. -/
theorem Corresponds.publish (h : Corresponds s b) (topic : String) (msg : M) :
    Corresponds (s.publish topic msg) (b.publish topic msg) := by
  refine ⟨fun i hi => ?_, fun i n hn hnone => ?_, fun i n k hn hsome => ?_,
    fun k inst hinst => ?_, fun topic' k hk => ?_⟩
  · exact Option.map_eq_none_iff.2 (h.absent i hi)
  · obtain ⟨rfl, heq⟩ := h.unsubscribed i n hn hnone
    exact ⟨rfl, Option.map_eq_some_iff.2 ⟨_, heq, rfl⟩⟩
  · obtain ⟨inst, hholds⟩ := h.subscribed i n k hn hsome
    refine ⟨inst.receive topic msg, ?_, (receive_topicName _).trans hholds.topic,
      hholds.connection, hholds.registry, ?_, ?_⟩
    · rw [Subscribers.publish, List.getElem?_map, hholds.instance_eq, Option.map_some]
    · refine Option.map_eq_some_iff.2 ⟨_, hholds.box, ?_⟩
      rw [SubscriberInstance.receive, hholds.topic]
      by_cases htopic : n.topicName = topic <;> simp [htopic]
    · rw [SubscriberInstance.receive, hholds.topic, Mailboxes.publish]
      by_cases htopic : n.topicName = topic <;> simp [htopic, hholds.newest]
  · rw [Subscribers.publish, List.getElem?_map] at hinst
    obtain ⟨inst₀, hinst₀, rfl⟩ := Option.map_eq_some_iff.1 hinst
    rw [receive_broadcaster]
    exact h.connected k inst₀ hinst₀
  · obtain ⟨inst, hinst, htopic⟩ := h.registered topic' k hk
    refine ⟨inst.receive topic msg, ?_, (receive_topicName _).trans htopic⟩
    rw [Subscribers.publish, List.getElem?_map, hinst, Option.map_some]

/-- What changes one node, with its mailbox, and who is connected. -/
theorem Corresponds.replace {f : ℕ → List ι → List ι} {o : Option (RosTopicSubNode M)}
    {box : Option (Mailbox M)} (h : Corresponds s b)
    (hlookup : ∀ k : ℕ, s'.instances[k]? = s.instances[k]?.map fun inst =>
      { inst with broadcaster := f k inst.broadcaster })
    (hregistry : s'.registry = s.registry) (hnodes : s'.nodes = update s.nodes i o)
    (habsent : o = none → box = none)
    (hunsubscribed : ∀ n, o = some n → n.subInstance = none → n = {} ∧ box = some {})
    (hsubscribed : ∀ n k, o = some n → n.subInstance = some k →
      ∃ inst, Holds s' { b with boxes := update b.boxes i box } i n k inst)
    (hconnected : ∀ (k : ℕ) inst, s.instances[k]? = some inst →
      (f k inst.broadcaster).Nodup ∧ ∀ j, j ∈ f k inst.broadcaster ↔
        if j = i then o.bind RosTopicSubNode.subInstance = some k else j ∈ inst.broadcaster) :
    Corresponds s' { b with boxes := update b.boxes i box } := by
  refine ⟨fun j hj => ?_, fun j n hn hnone => ?_, fun j n k hn hsome => ?_,
    fun k inst' hinst' => ?_, fun topic k hk => ?_⟩
  · rw [hnodes] at hj
    rcases eq_or_ne j i with rfl | hne
    · rw [Function.update_self] at hj
      exact (Function.update_self ..).trans (habsent hj)
    · rw [Function.update_of_ne hne] at hj
      exact (Function.update_of_ne hne ..).trans (h.absent j hj)
  · rw [hnodes] at hn
    rcases eq_or_ne j i with rfl | hne
    · rw [Function.update_self] at hn
      obtain ⟨hfresh, hbox⟩ := hunsubscribed n hn hnone
      exact ⟨hfresh, (Function.update_self ..).trans hbox⟩
    · rw [Function.update_of_ne hne] at hn
      obtain ⟨hfresh, hbox⟩ := h.unsubscribed j n hn hnone
      exact ⟨hfresh, (Function.update_of_ne hne ..).trans hbox⟩
  · rw [hnodes] at hn
    rcases eq_or_ne j i with rfl | hne
    · rw [Function.update_self] at hn
      exact hsubscribed n k hn hsome
    · rw [Function.update_of_ne hne] at hn
      obtain ⟨inst, hholds⟩ := h.subscribed j n k hn hsome
      refine ⟨{ inst with broadcaster := f k inst.broadcaster }, ?_, hholds.topic,
        hholds.connection, ?_, ?_, hholds.newest⟩
      · rw [hlookup, hholds.instance_eq, Option.map_some]
      · rw [hregistry]
        exact hholds.registry
      · exact (Function.update_of_ne hne ..).trans hholds.box
  · rw [hlookup] at hinst'
    obtain ⟨inst, hinst, rfl⟩ := Option.map_eq_some_iff.1 hinst'
    obtain ⟨hnodup, hmem⟩ := hconnected k inst hinst
    refine ⟨hnodup, fun j => (hmem j).trans ?_⟩
    rw [hnodes]
    rcases eq_or_ne j i with rfl | hne
    · rw [if_pos rfl, Function.update_self]
    · rw [if_neg hne, Function.update_of_ne hne]
      exact (h.connected k inst hinst).2 j
  · rw [hregistry] at hk
    obtain ⟨inst, hinst, htopic⟩ := h.registered topic k hk
    exact ⟨{ inst with broadcaster := f k inst.broadcaster },
      (hlookup k).trans (by rw [hinst, Option.map_some]), htopic⟩

/-- A node that has got its messages reads its mailbox. -/
theorem Corresponds.read {inst : SubscriberInstance ι M} (h : Corresponds s b)
    (hn : s.nodes i = some n) (hholds : Holds s b i n k inst) (hk : n.subInstance = some k)
    (hqueue : inst.queue = none) :
    Corresponds { s with nodes := update s.nodes i (some { n with lastMsg := none }) }
      { b with
        boxes := update b.boxes i (some { topic := some n.topicName, latest := none }) } := by
  refine h.replace (f := fun _ l => l) (fun k => Option.map_id.symm ▸ rfl) rfl rfl nofun ?_ ?_ ?_
  · intro n' hn' hnone
    obtain rfl := Option.some.inj hn'
    exact nomatch hnone.symm.trans hk
  · intro n' k' hn' hk'
    obtain rfl := Option.some.inj hn'
    obtain rfl := Option.some.inj (hk.symm.trans hk')
    refine ⟨inst, hholds.instance_eq, hholds.topic, hholds.connection, hholds.registry, ?_,
      hholds.newest⟩
    simp [hqueue]
  · intro k' inst' hinst'
    obtain ⟨hnodup, hmem⟩ := h.connected k' inst' hinst'
    refine ⟨hnodup, fun j => ?_⟩
    split_ifs with hj
    · subst hj
      rw [hmem, hn]
      rfl
    · rfl

omit [DecidableEq ι] in
/-- A topic has subscribers just when the instance of the registry has not expired. -/
theorem Corresponds.live_iff [Fintype ι] (h : Corresponds s b) :
    b.Live topic ↔ ∃ k, s.registry topic = some k ∧ ¬s.Expired k := by
  constructor
  · rintro ⟨i, hi⟩
    obtain ⟨box, hbox, htopic⟩ := Option.bind_eq_some_iff.1 hi
    rcases hn : s.nodes i with _ | n
    · exact nomatch (h.absent i hn).symm.trans hbox
    · rcases hk : n.subInstance with _ | k
      · obtain rfl := Option.some.inj ((h.unsubscribed i n hn hk).2.symm.trans hbox)
        exact nomatch htopic
      · obtain ⟨inst, hholds⟩ := h.subscribed i n k hn hk
        obtain rfl := Option.some.inj (hholds.box.symm.trans hbox)
        obtain rfl := Option.some.inj htopic
        exact ⟨k, hholds.registry, fun hexpired => hexpired i (by simp [hn, hk])⟩
  · rintro ⟨k, hregistry, hexpired⟩
    simp only [Subscribers.Expired, ne_eq, not_forall, not_not] at hexpired
    obtain ⟨i, hi⟩ := hexpired
    obtain ⟨n, hn, hk⟩ := Option.bind_eq_some_iff.1 hi
    obtain ⟨inst, hholds⟩ := h.subscribed i n k hn hk
    obtain ⟨inst', hinst', htopic⟩ := h.registered topic k hregistry
    obtain rfl := Option.some.inj (hholds.instance_eq.symm.trans hinst')
    exact ⟨i, by rw [hholds.box, ← htopic, hholds.topic]; rfl⟩

/-- A new instance for a topic that nobody has subscribed to. -/
theorem Corresponds.created [Fintype ι] (h : Corresponds s b) (hlive : ¬b.Live topic) :
    Corresponds { s with
      instances := s.instances ++ [{ topicName := topic }]
      registry := update s.registry topic (some s.instances.length) }
      { b with newest := update b.newest topic none } := by
  refine ⟨h.absent, h.unsubscribed, fun i n k hn hsome => ?_, fun k inst hinst => ?_,
    fun topic' k hk => ?_⟩
  · obtain ⟨inst, hholds⟩ := h.subscribed i n k hn hsome
    have hne : n.topicName ≠ topic := fun heq => hlive ⟨i, by rw [hholds.box, ← heq]; rfl⟩
    refine ⟨inst, ?_, hholds.topic, hholds.connection, ?_, hholds.box, ?_⟩
    · exact List.getElem?_append_left (List.getElem?_eq_some_iff.1 hholds.instance_eq).1 ▸
        hholds.instance_eq
    · exact (Function.update_of_ne hne _ _).trans hholds.registry
    · exact (Function.update_of_ne hne _ _).trans hholds.newest
  · rcases Nat.lt_trichotomy k s.instances.length with hlt | rfl | hgt
    · exact h.connected k inst (List.getElem?_append_left hlt ▸ hinst)
    · obtain rfl := Option.some.inj (List.getElem?_concat_length.symm.trans hinst)
      refine ⟨.nil, fun i => iff_of_false nofun fun hi => ?_⟩
      obtain ⟨n, hn, hk⟩ := Option.bind_eq_some_iff.1 hi
      obtain ⟨inst, hholds⟩ := h.subscribed i n _ hn hk
      exact (List.getElem?_eq_some_iff.1 hholds.instance_eq).1.false
    · have hlt := (List.getElem?_eq_some_iff.1 hinst).1
      rw [List.length_append, List.length_singleton] at hlt
      omega
  · rcases eq_or_ne topic' topic with rfl | hne
    · simp only [Function.update_self, Option.some.injEq] at hk
      subst hk
      exact ⟨_, List.getElem?_concat_length, rfl⟩
    · obtain ⟨inst, hinst, htopic⟩ := h.registered topic' k
        ((Function.update_of_ne hne _ _).symm.trans hk)
      exact ⟨inst, List.getElem?_append_left (List.getElem?_eq_some_iff.1 hinst).1 ▸ hinst, htopic⟩

/-- The instance of a topic, old or new, holds the latest message of the topic. -/
theorem Corresponds.instanceOf [Fintype ι] (h : Corresponds s b) (topic : String) :
    Corresponds (s.instanceOf topic).2 { b with
      newest := update b.newest topic (if b.Live topic then b.newest topic else none) } ∧
    (s.instanceOf topic).2.nodes = s.nodes ∧
    (s.instanceOf topic).2.registry topic = some (s.instanceOf topic).1 ∧
    ∃ inst, (s.instanceOf topic).2.instances[(s.instanceOf topic).1]? = some inst ∧
      (if b.Live topic then b.newest topic else none) = inst.queue.or inst.lastMsg := by
  by_cases hlive : b.Live topic
  · obtain ⟨k, hregistry, hexpired⟩ := h.live_iff.1 hlive
    have hinstance : s.instanceOf topic = (k, s) := by
      rw [Subscribers.instanceOf, hregistry]
      exact if_neg hexpired
    rw [hinstance, if_pos hlive, Function.update_eq_self]
    refine ⟨h, rfl, hregistry, ?_⟩
    obtain ⟨inst, hinst, htopic⟩ := h.registered topic k hregistry
    simp only [Subscribers.Expired, ne_eq, not_forall, not_not] at hexpired
    obtain ⟨i, hi⟩ := hexpired
    obtain ⟨n, hn, hk⟩ := Option.bind_eq_some_iff.1 hi
    obtain ⟨inst', hholds⟩ := h.subscribed i n k hn hk
    obtain rfl := Option.some.inj (hinst.symm.trans hholds.instance_eq)
    exact ⟨inst, hinst, by rw [← htopic, hholds.topic, hholds.newest]⟩
  · have hinstance : s.instanceOf topic = (s.instances.length, { s with
        instances := s.instances ++ [{ topicName := topic }]
        registry := update s.registry topic (some s.instances.length) }) := by
      rw [Subscribers.instanceOf]
      split
      next k hregistry =>
        refine if_pos ?_
        by_contra hexpired
        exact hlive (h.live_iff.2 ⟨k, hregistry, hexpired⟩)
      next => rfl
    rw [hinstance, if_neg hlive]
    exact ⟨h.created hlive, rfl, Function.update_self _ _ _, _, List.getElem?_concat_length, rfl⟩

/-- A node that is connected to the instance of its topic has its latest message. -/
theorem Corresponds.connect {inst : SubscriberInstance ι M} (h : Corresponds s b)
    (hi : (s.nodes i).bind RosTopicSubNode.subInstance = none)
    (hregistry : s.registry topic = some k) (hinst : s.instances[k]? = some inst)
    (hnewest : b.newest topic = inst.queue.or inst.lastMsg) :
    Corresponds (s.connect i {} topic k) { b with
      boxes := update b.boxes i (some { topic := some topic, latest := b.newest topic }) } := by
  obtain ⟨inst₀, hinst₀, htopic⟩ := h.registered topic k hregistry
  obtain rfl := Option.some.inj (hinst.symm.trans hinst₀)
  have hlookup : ∀ k' : ℕ, (s.connect i {} topic k).instances[k']? =
      s.instances[k']?.map fun inst => { inst with
        broadcaster := if k = k' then inst.broadcaster ++ [i] else inst.broadcaster } := by
    intro k'
    rw [Subscribers.connect, List.getElem?_modify]
    rcases s.instances[k']? with _ | inst
    · rfl
    · by_cases hk : k = k' <;> simp [hk]
  refine h.replace (f := fun k' l => if k = k' then l ++ [i] else l) hlookup rfl rfl nofun
    ?_ ?_ ?_
  · intro n hn hnone
    obtain rfl := Option.some.inj hn
    cases hnone
  · intro n k' hn hk'
    obtain rfl := Option.some.inj hn
    obtain rfl := Option.some.inj hk'
    refine ⟨{ inst with broadcaster := inst.broadcaster ++ [i] }, (hlookup k).trans ?_, htopic,
      rfl, hregistry, ?_, hnewest⟩
    · rw [hinst, Option.map_some, if_pos rfl]
    · simp [hnewest, hinst]
  · intro k' inst' hinst'
    obtain ⟨hnodup, hmem⟩ := h.connected k' inst' hinst'
    have hnot : i ∉ inst'.broadcaster := fun hmemi => nomatch hi.symm.trans ((hmem i).1 hmemi)
    split_ifs with hk
    · refine ⟨List.nodup_append.2 ⟨hnodup, List.nodup_singleton i, fun a ha c hc heq =>
        hnot (List.mem_singleton.1 hc ▸ heq ▸ ha)⟩, fun j => ?_⟩
      rw [List.mem_append, List.mem_singleton]
      split_ifs with hj
      · exact iff_of_true (.inr hj) (congrArg some hk)
      · exact or_iff_left hj
    · refine ⟨hnodup, fun j => ?_⟩
      split_ifs with hj
      · subst hj
        exact iff_of_false hnot fun heq => hk (Option.some.inj heq)
      · rfl

/-- A node that is destroyed is connected to no instance any more. -/
theorem Corresponds.destroy (h : Corresponds s b) (hn : s.nodes i = some n) :
    Corresponds (s.destroy i n) { b with boxes := update b.boxes i none } := by
  have hlookup : ∀ k : ℕ, (s.destroy i n).instances[k]? = s.instances[k]?.map fun inst =>
      { inst with broadcaster :=
          if n.signalConnection = some k then inst.broadcaster.erase i else inst.broadcaster } := by
    intro k
    rw [Subscribers.destroy]
    rcases n.signalConnection with _ | k'
    · simp
    · dsimp only
      rw [List.getElem?_modify]
      rcases s.instances[k]? with _ | inst
      · rfl
      · by_cases hk : k' = k <;> simp [hk]
  refine h.replace (f := fun k l => if n.signalConnection = some k then l.erase i else l) hlookup
    rfl rfl (fun _ => rfl) nofun nofun fun k inst hinst => ?_
  obtain ⟨hnodup, hmem⟩ := h.connected k inst hinst
  split_ifs with hk
  · refine ⟨hnodup.erase i, fun j => ?_⟩
    rw [hnodup.mem_erase_iff]
    split_ifs with hj
    · exact iff_of_false (fun hmem => hmem.1 hj) nofun
    · exact and_iff_right hj
  · refine ⟨hnodup, fun j => ?_⟩
    split_ifs with hj
    · subst hj
      refine iff_of_false (fun hmemj => hk ?_) nofun
      obtain ⟨n', hn', hk'⟩ := Option.bind_eq_some_iff.1 ((hmem j).1 hmemj)
      obtain rfl := Option.some.inj (hn.symm.trans hn')
      obtain ⟨inst', hholds⟩ := h.subscribed j n k hn hk'
      exact hholds.connection
    · rfl

/-- A node that creates its subscription finds the latest message in its mailbox. -/
theorem Corresponds.createSubscriber [Fintype ι] (h : Corresponds s b)
    (hi : (s.nodes i).bind RosTopicSubNode.subInstance = none) (htopic : topic ≠ "") :
    ∃ s', s.createSubscriber i {} topic = .ok s' ∧ Corresponds s' (b.subscribe i topic) ∧
      ∃ n k, s'.nodes i = some n ∧ n.subInstance = some k := by
  obtain ⟨hcorresponds, hnodes, hregistry, inst, hinst, hlatest⟩ := h.instanceOf topic
  refine ⟨(s.instanceOf topic).2.connect i {} topic (s.instanceOf topic).1, ?_, ?_, _,
    (s.instanceOf topic).1, Function.update_self .., rfl⟩
  · rw [Subscribers.createSubscriber, if_neg htopic, if_neg nofun]
  · have hconnect := hcorresponds.connect (i := i) (by rw [hnodes]; exact hi) hregistry hinst
      ((Function.update_self ..).trans hlatest)
    simp only [Function.update_self] at hconnect
    exact hconnect

theorem constructorTopic_ne {isBlackboardPointer : String → Bool} {port : Option String}
    {defaultPortValue : String}
    (h : constructorTopic isBlackboardPointer port defaultPortValue = .ok (some topic)) :
    topic ≠ "" := by
  rintro rfl
  dsimp only [constructorTopic] at h
  cases port with
  | none =>
    dsimp only at h
    split_ifs at h with hdefault
    exact hdefault (Option.some.inj (Except.ok.inj h))
  | some bbTopicName =>
    dsimp only at h
    split_ifs at h with hbb hdefault hpointer
    · exact hdefault (Option.some.inj (Except.ok.inj h))
    · cases h
    · exact hbb (.inl (Option.some.inj (Except.ok.inj h)))

/-- A node that has its instance is told what is in its mailbox. -/
theorem Corresponds.tell (h : Corresponds s b) (hn : s.nodes i = some n)
    (hk : n.subInstance = some k) (latchLastMessage isStatusCompleted : Bool) :
    (s.tell i k latchLastMessage isStatusCompleted).2 =
      (b.read i (latchLastMessage || !isStatusCompleted)).2 ∧
    Corresponds (s.tell i k latchLastMessage isStatusCompleted).1
      (b.read i (latchLastMessage || !isStatusCompleted)).1 := by
  have hspin := h.spinSome k
  obtain ⟨n', hn', hk'⟩ := spinSome_node hn k
  obtain ⟨inst, hholds⟩ := hspin.subscribed i n' k hn' (hk'.trans hk)
  have hqueue := spinSome_queue hholds.instance_eq
  have hbox := hholds.box
  rw [hqueue, Option.none_or] at hbox
  rw [Subscribers.tell, Mailboxes.read, hn', hbox]
  refine ⟨rfl, ?_⟩
  dsimp only
  split_ifs with hkeep
  · rw [← hn', ← hbox, Function.update_eq_self, Function.update_eq_self]
    exact hspin
  · exact hspin.read hn' hholds (hk'.trans hk) hqueue

/-- No tick changes the topic of a node. -/
def Subscribers.Fixed (s : Subscribers ι M) : SubscriberEvent ι M → Prop
  | .tick i topicName _ _ => ∀ n, s.nodes i = some n → n.subInstance.isSome →
    topicName = "" ∨ topicName = defaultPlaceholder ∨ topicName = n.topicName
  | _ => True

theorem Corresponds.tick [Fintype ι] (h : Corresponds s b) (hn : s.nodes i = some n)
    {topicName : String} {latchLastMessage isStatusCompleted : Bool}
    (hfixed : s.Fixed (.tick i topicName latchLastMessage isStatusCompleted))
    (isBlackboardPointer : String → Bool) :
    (s.tick i n topicName latchLastMessage isStatusCompleted).2 = (b.step isBlackboardPointer
      (.tick i topicName latchLastMessage isStatusCompleted)).2 ∧
    Corresponds (s.tick i n topicName latchLastMessage isStatusCompleted).1 (b.step
      isBlackboardPointer (.tick i topicName latchLastMessage isStatusCompleted)).1 := by
  have hsame : { s with nodes := update s.nodes i (some n) } = s := by
    rw [← hn, Function.update_eq_self]
  rcases hk : n.subInstance with _ | k
  · -- The node has no instance, and creates one if there is a topic.
    obtain ⟨rfl, hbox⟩ := h.unsubscribed i n hn hk
    have hsubscribe : s.subscribe i {} topicName = s.createSubscriber i {} topicName := by
      rw [Subscribers.subscribe, ite_self, hsame]
      rfl
    rw [Subscribers.tick, hsubscribe, Mailboxes.step, hbox]
    rcases eq_or_ne topicName "" with rfl | htopic
    · exact ⟨rfl, h⟩
    · obtain ⟨s', hcreate, hcorresponds, n', k, hn', hk'⟩ :=
        h.createSubscriber (i := i) (by rw [hn]; rfl) htopic
      have hinstance : (s'.nodes i).bind RosTopicSubNode.subInstance = some k := by
        rw [hn', Option.bind_some, hk']
      dsimp only
      rw [hcreate, if_neg (fun hempty => htopic hempty.1), Mailboxes.subscribeTo,
        if_pos (.inr rfl)]
      dsimp only
      rw [hinstance]
      exact hcorresponds.tell hn' hk' latchLastMessage isStatusCompleted
  · -- The node has its instance, and it is that of its topic.
    obtain ⟨inst, hholds⟩ := h.subscribed i n k hn hk
    have htopic := hfixed n hn (by rw [hk]; rfl)
    have hkept : ¬(topicName ≠ "" ∧ topicName ≠ defaultPlaceholder ∧ topicName ≠ n.topicName) := by
      rintro ⟨hempty, hplaceholder, hchanged⟩
      exact htopic.elim hempty (Or.elim · hplaceholder hchanged)
    have hsubscribe : s.subscribe i n topicName = .ok s := by
      simp only [Subscribers.subscribe, if_neg hkept, hk, hsame]
      rfl
    have hinstance : (s.nodes i).bind RosTopicSubNode.subInstance = some k := by
      rw [hn, Option.bind_some, hk]
    rw [Subscribers.tick, hsubscribe, Mailboxes.step, hholds.box]
    dsimp only
    rw [hinstance, if_neg (fun hempty => nomatch hempty.2), Mailboxes.subscribeTo, if_neg]
    · exact h.tell hn hk latchLastMessage isStatusCompleted
    · rintro (⟨hempty, hplaceholder, hchanged⟩ | hnone)
      · exact hkept ⟨hempty, hplaceholder, fun heq => hchanged (congrArg some heq.symm)⟩
      · cases hnone

theorem Corresponds.construct [Fintype ι] (h : Corresponds s b)
    (isBlackboardPointer : String → Bool) (port : Option String) (defaultPortValue : String) :
    (s.step isBlackboardPointer (.construct i port defaultPortValue)).2 =
      (b.step isBlackboardPointer (.construct i port defaultPortValue)).2 ∧
    Corresponds (s.step isBlackboardPointer (.construct i port defaultPortValue)).1
      (b.step isBlackboardPointer (.construct i port defaultPortValue)).1 := by
  rw [Subscribers.step, Mailboxes.step]
  rcases hn : s.nodes i with _ | n
  · rw [h.absent i hn]
    dsimp only
    rw [Subscribers.construct]
    rcases htopic : constructorTopic isBlackboardPointer port defaultPortValue with
      what | _ | topic
    · exact ⟨rfl, h⟩
    · refine ⟨rfl, h.replace (f := fun _ l => l) (fun k => Option.map_id.symm ▸ rfl) rfl rfl
        nofun (fun n hn _ => ⟨(Option.some.inj hn).symm, rfl⟩) ?_ fun k inst hinst => ?_⟩
      · rintro n k hn hk
        obtain rfl := Option.some.inj hn
        cases hk
      · obtain ⟨hnodup, hmem⟩ := h.connected k inst hinst
        refine ⟨hnodup, fun j => ?_⟩
        split_ifs with hj
        · subst hj
          rw [hmem, hn]
          rfl
        · rfl
    · obtain ⟨s', hcreate, hcorresponds, -⟩ :=
        h.createSubscriber (i := i) (by rw [hn]; rfl) (constructorTopic_ne htopic)
      dsimp only
      rw [hcreate]
      exact ⟨rfl, hcorresponds⟩
  · obtain ⟨box, hbox⟩ : ∃ box, b.boxes i = some box := by
      rcases hk : n.subInstance with _ | k
      · exact ⟨_, (h.unsubscribed i n hn hk).2⟩
      · obtain ⟨inst, hholds⟩ := h.subscribed i n k hn hk
        exact ⟨_, hholds.box⟩
    rw [hbox]
    exact ⟨rfl, h⟩

theorem Corresponds.step [Fintype ι] (h : Corresponds s b) {e : SubscriberEvent ι M}
    (hfixed : s.Fixed e) (isBlackboardPointer : String → Bool) :
    (s.step isBlackboardPointer e).2 = (b.step isBlackboardPointer e).2 ∧
    Corresponds (s.step isBlackboardPointer e).1 (b.step isBlackboardPointer e).1 := by
  cases e with
  | construct i port defaultPortValue =>
    exact h.construct isBlackboardPointer port defaultPortValue
  | destroy i =>
    rw [Subscribers.step, Mailboxes.step]
    rcases hn : s.nodes i with _ | n
    · rw [← h.absent i hn, Function.update_eq_self]
      exact ⟨rfl, h⟩
    · exact ⟨rfl, h.destroy hn⟩
  | publish topicName msg => exact ⟨rfl, h.publish topicName msg⟩
  | tick i topicName latchLastMessage isStatusCompleted =>
    rcases hn : s.nodes i with _ | n
    · rw [Subscribers.step, Mailboxes.step, hn, h.absent i hn]
      exact ⟨rfl, h⟩
    · rw [Subscribers.step, hn]
      exact h.tick hn hfixed isBlackboardPointer

/-- A node that changes its topic is still told the messages of the old one that another node
    takes from the queue. -/
theorem not_mailboxes_refined : ¬∀ es : List (SubscriberEvent Bool ℕ),
    outputs (Subscribers.step fun _ => false) .init es =
      outputs (Mailboxes.step fun _ => false) .init es := by
  intro h
  have hes := h [.construct false (some "old") "", .construct true (some "old") "",
    .tick true "new" false true, .publish "old" 7, .tick false "old" false true,
    .tick true "new" false true]
  have hlast : some (true, (.ok (some 7) : Except String (Option ℕ))) = some (true, .ok none) :=
    congrArg List.getLast? hes
  cases hlast

end Sentry.Ros
