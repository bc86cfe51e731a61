/-
Module: LiveRelay.Proofs.Config.Accepted
Purpose: What the check of a configuration accepts, said without the order in which it looks: topics
  that share no name, no subscribe address and no route, and no route on a subscribe address.
Main exports: Separate, RelayConfig.Accepted, Taken.ofTopics, Taken.takeTopics_eq_ok_iff,
  RelayConfig.validate_eq_ok_iff
-/
import LiveRelay.Config.Validate
import Mathlib.Data.List.Nodup

namespace LiveRelay

open Net

/-- The subscribe addresses with a port of their own. -/
def fixedSubscribe (topics : List TopicConfig) : List SocketAddress :=
  (topics.map TopicConfig.subscribe).filter fun address => address.port ≠ 0

/-- Topics that get in each other's way nowhere: they share no name, no subscribe address and no
route, and each accepts some channel. -/
structure Separate (topics : List TopicConfig) : Prop where
  names : (topics.map TopicConfig.name).Nodup
  channels : ∀ topic ∈ topics, topic.channels.isEmpty = false
  subscribe : (fixedSubscribe topics).Nodup
  routes : (topics.flatMap TopicConfig.ingest).Nodup

/-- A configuration without conflicts. -/
structure RelayConfig.Accepted (config : RelayConfig) : Prop where
  topics : config.topics ≠ []
  probeInterval : config.probeInterval ≠ 0
  idleTimeout : config.idleTimeout ≠ 0
  queueCapacity : config.queueCapacity ≠ 0
  separate : Separate config.topics
  apart : ∀ route ∈ config.routes, route.address ∉ fixedSubscribe config.topics

theorem fixedSubscribe_append (one two : List TopicConfig) :
    fixedSubscribe (one ++ two) = fixedSubscribe one ++ fixedSubscribe two := by
  rw [fixedSubscribe, List.map_append, List.filter_append]
  rfl

theorem fixedSubscribe_singleton (topic : TopicConfig) :
    fixedSubscribe [topic] = if topic.subscribe.port = 0 then [] else [topic.subscribe] := by
  by_cases free : topic.subscribe.port = 0 <;> simp [fixedSubscribe, free]

namespace Separate

variable {earlier others : List TopicConfig} {topic : TopicConfig}

theorem nil : Separate [] where
  names := List.nodup_nil
  channels := fun _ member => absurd member List.not_mem_nil
  subscribe := List.nodup_nil
  routes := List.nodup_nil

theorem of_append (separate : Separate (earlier ++ others)) : Separate earlier where
  names := by
    have names := separate.names
    rw [List.map_append] at names
    exact names.of_append_left
  channels := fun topic member => separate.channels topic (List.mem_append_left _ member)
  subscribe := by
    have subscribe := separate.subscribe
    rw [fixedSubscribe_append] at subscribe
    exact subscribe.of_append_left
  routes := by
    have routes := separate.routes
    rw [List.flatMap_append] at routes
    exact routes.of_append_left

/-- When one more topic gets in the way of none of the others. -/
theorem concat_iff (separate : Separate earlier) :
    Separate (earlier ++ [topic]) ↔
      topic.name ∉ earlier.map TopicConfig.name ∧ topic.channels.isEmpty = false ∧
      (topic.subscribe.port ≠ 0 → topic.subscribe ∉ fixedSubscribe earlier) ∧
      topic.ingest.Nodup ∧ ∀ route ∈ topic.ingest, route ∉ earlier.flatMap TopicConfig.ingest := by
  constructor
  · rintro ⟨names, channels, subscribe, routes⟩
    rw [List.map_append] at names
    rw [fixedSubscribe_append, fixedSubscribe_singleton] at subscribe
    rw [List.flatMap_append, List.flatMap_singleton] at routes
    refine ⟨?_, channels topic (by simp), ?_, routes.of_append_right, ?_⟩
    · intro member
      exact List.disjoint_of_nodup_append names member (by simp)
    · intro fixed member
      rw [if_neg fixed] at subscribe
      exact List.disjoint_of_nodup_append subscribe member (by simp)
    · intro route own member
      exact List.disjoint_of_nodup_append routes member own
  · rintro ⟨name, channels, subscribe, distinct, fresh⟩
    constructor
    case names =>
      rw [List.map_append]
      refine separate.names.append (List.nodup_singleton _) ?_
      rw [List.map_singleton, List.disjoint_singleton]
      exact name
    case channels =>
      intro other member
      rcases List.mem_append.1 member with member | last
      · exact separate.channels other member
      · rwa [List.mem_singleton.1 last]
    case subscribe =>
      rw [fixedSubscribe_append, fixedSubscribe_singleton]
      split
      · rw [List.append_nil]
        exact separate.subscribe
      · next fixed =>
        refine separate.subscribe.append (List.nodup_singleton _) ?_
        rw [List.disjoint_singleton]
        exact subscribe fixed
    case routes =>
      rw [List.flatMap_append, List.flatMap_singleton]
      exact separate.routes.append distinct fun route member own => fresh route own member

end Separate

namespace Taken

variable {earlier topics : List TopicConfig} {topic : TopicConfig} {routes : List IngestRoute}
  {taken later : Taken}

/-- What topics have taken, the last one first. -/
def ofTopics (topics : List TopicConfig) : Taken where
  names := (topics.map TopicConfig.name).reverse
  subscribe := (fixedSubscribe topics).reverse
  routes := (topics.flatMap TopicConfig.ingest).reverse

/-- Routes can be taken if none of them is taken already, not even by one of their own. -/
theorem takeRoutes_eq_ok_iff :
    taken.takeRoutes routes = .ok later ↔
      (routes.Nodup ∧ ∀ route ∈ routes, route ∉ taken.routes) ∧
        later = { taken with routes := routes.reverse ++ taken.routes } := by
  induction routes generalizing taken with
  | nil => simp [takeRoutes, eq_comm]
  | cons route others ih =>
      rw [takeRoutes]
      by_cases again : route ∈ taken.routes
      · simp [again]
      · rw [if_neg again, ih]
        simp only [List.nodup_cons, List.mem_cons, not_or, forall_eq_or_imp, again,
          not_false_eq_true, true_and, List.reverse_cons, List.append_assoc, List.singleton_append]
        constructor
        · rintro ⟨⟨distinct, fresh⟩, rfl⟩
          exact ⟨⟨⟨fun member => (fresh route member).1 rfl, distinct⟩,
            fun other member => (fresh other member).2⟩, rfl⟩
        · rintro ⟨⟨⟨alone, distinct⟩, fresh⟩, rfl⟩
          refine ⟨⟨distinct, fun other member => ⟨?_, fresh other member⟩⟩, rfl⟩
          rintro rfl
          exact alone member

/-- A topic can be taken after others if it does not get in their way. -/
theorem takeTopic_eq_ok_iff (separate : Separate earlier) :
    (ofTopics earlier).takeTopic topic = .ok later ↔
      Separate (earlier ++ [topic]) ∧ later = ofTopics (earlier ++ [topic]) := by
  have names : (ofTopics (earlier ++ [topic])).names = topic.name :: (ofTopics earlier).names := by
    simp [ofTopics]
  have routes : (ofTopics (earlier ++ [topic])).routes =
      topic.ingest.reverse ++ (ofTopics earlier).routes := by
    simp [ofTopics]
  have subscribe : (ofTopics (earlier ++ [topic])).subscribe =
      if topic.subscribe.port = 0 then (ofTopics earlier).subscribe
      else topic.subscribe :: (ofTopics earlier).subscribe := by
    rw [ofTopics, fixedSubscribe_append, fixedSubscribe_singleton]
    split <;> simp [ofTopics]
  have whole : ofTopics (earlier ++ [topic]) = ⟨_, _, _⟩ :=
    congr (congr (congrArg Taken.mk names) subscribe) routes
  have named : topic.name ∈ (ofTopics earlier).names ↔ topic.name ∈ earlier.map TopicConfig.name :=
    List.mem_reverse
  have used : topic.subscribe ∈ (ofTopics earlier).subscribe ↔
      topic.subscribe ∈ fixedSubscribe earlier := List.mem_reverse
  have spent (route : IngestRoute) : route ∈ (ofTopics earlier).routes ↔
      route ∈ earlier.flatMap TopicConfig.ingest := List.mem_reverse
  rw [separate.concat_iff, whole, takeTopic, ← named, ← used]
  by_cases known : topic.name ∈ (ofTopics earlier).names
  · simp [known]
  by_cases mute : topic.channels.isEmpty = true
  · simp [known, mute]
  rw [if_neg known, if_neg mute]
  by_cases free : topic.subscribe.port = 0
  · rw [if_pos free, takeRoutes_eq_ok_iff]
    simp [known, mute, free, spent]
  by_cases taken : topic.subscribe ∈ (ofTopics earlier).subscribe
  · simp [free, taken]
  · rw [if_neg free, if_neg taken, takeRoutes_eq_ok_iff]
    simp [known, mute, free, taken, spent]

/-- Topics can be taken one after another if they do not get in each other's way. -/
theorem takeTopics_eq_ok_iff (separate : Separate earlier) :
    (ofTopics earlier).takeTopics topics = .ok later ↔
      Separate (earlier ++ topics) ∧ later = ofTopics (earlier ++ topics) := by
  induction topics generalizing earlier with
  | nil =>
      rw [List.append_nil, takeTopics, Except.ok.injEq, eq_comm]
      exact (and_iff_right separate).symm
  | cons topic others ih =>
      have whole : earlier ++ topic :: others = earlier ++ [topic] ++ others := by simp
      rw [takeTopics, whole]
      cases first : (ofTopics earlier).takeTopic topic with
      | ok taken =>
          obtain ⟨fits, rfl⟩ := (takeTopic_eq_ok_iff separate).1 first
          exact ih fits
      | error conflict =>
          have unfit : ¬ Separate (earlier ++ [topic]) := by
            intro fits
            cases ((takeTopic_eq_ok_iff separate).2 ⟨fits, rfl⟩).symm.trans first
          simp only [reduceCtorEq, false_iff, not_and]
          exact fun fits => absurd fits.of_append unfit

theorem checkRoutes_eq_ok_iff :
    taken.checkRoutes routes = .ok () ↔ ∀ route ∈ routes, route.address ∉ taken.subscribe := by
  induction routes with
  | nil => simp [checkRoutes]
  | cons route others ih =>
      rw [checkRoutes]
      split
      · next again => simp [again]
      · next free => simp [ih, free]

end Taken

/-- The check accepts exactly the configurations without conflicts. -/
theorem RelayConfig.validate_eq_ok_iff {config : RelayConfig} :
    config.validate = .ok () ↔ config.Accepted := by
  rw [validate]
  constructor
  · intro accepted
    split at accepted
    · cases accepted
    split at accepted
    · cases accepted
    split at accepted
    · cases accepted
    split at accepted
    · cases accepted
    · next topics probeInterval idleTimeout queueCapacity =>
      split at accepted
      · next taken takes =>
        obtain ⟨separate, rfl⟩ := (Taken.takeTopics_eq_ok_iff Separate.nil).1 takes
        refine ⟨topics, probeInterval, idleTimeout, queueCapacity, separate, ?_⟩
        intro route member used
        exact Taken.checkRoutes_eq_ok_iff.1 accepted route member (List.mem_reverse.2 used)
      · cases accepted
  · rintro ⟨topics, probeInterval, idleTimeout, queueCapacity, separate, apart⟩
    have takes : Taken.nothing.takeTopics config.topics = .ok (Taken.ofTopics config.topics) :=
      (Taken.takeTopics_eq_ok_iff Separate.nil).2 ⟨separate, rfl⟩
    rw [if_neg topics, if_neg probeInterval, if_neg idleTimeout, if_neg queueCapacity, takes]
    exact Taken.checkRoutes_eq_ok_iff.2 fun route member used =>
      apart route member (List.mem_reverse.1 used)

end LiveRelay
