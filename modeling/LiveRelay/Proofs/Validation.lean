/-
Module: LiveRelay.Proofs.Validation
Purpose: The check of a configuration as one list of single checks: it fails with the conflict of
  the first one that is violated, and passes exactly when there is no conflict.
Main exports: Check, Check.first?, IngestRoute.checks, TopicConfig.checks, RelayConfig.checks,
  ConfigError.subject, RelayConfig.validate_decides
-/
import LiveRelay.Proofs.Config.Accepted
import Mathlib.Data.List.Infix

namespace LiveRelay

open Net

/-- One thing to check: whether it is violated, and the conflict to report if it is. -/
structure Check where
  violated : Bool
  conflict : ConfigError
deriving Repr, DecidableEq

/-- The conflict of the first check that is violated. -/
def Check.first? (checks : List Check) : Option ConfigError :=
  (checks.find? Check.violated).map Check.conflict

/-! ### What is checked, in order -/

/-- Each route is checked against all routes before it, those of earlier topics included. -/
def IngestRoute.checks (earlier routes : List IngestRoute) : List Check :=
  List.zipWith (fun before route => ⟨route ∈ earlier ++ before, .routeTaken route⟩) routes.inits
    routes

/-- A topic is checked against the topics before it: its name, its channels, its subscribe address
and then its routes. -/
def TopicConfig.checks (earlier : List TopicConfig) (topic : TopicConfig) : List Check :=
  [⟨topic.name ∈ earlier.map TopicConfig.name, .duplicateTopic topic.name⟩,
    ⟨topic.channels.isEmpty, .noChannels topic.name⟩,
    ⟨topic.subscribe ∈ fixedSubscribe earlier, .subscribeAddressTaken topic.subscribe⟩] ++
  IngestRoute.checks (earlier.flatMap TopicConfig.ingest) topic.ingest

namespace RelayConfig

/-- The options that all topics share are checked first. -/
def optionChecks (config : RelayConfig) : List Check :=
  [⟨config.topics = [], .noTopics⟩, ⟨config.probeInterval = 0, .zeroProbeInterval⟩,
    ⟨config.idleTimeout = 0, .zeroIdleTimeout⟩, ⟨config.queueCapacity = 0, .zeroQueueCapacity⟩]

/-- Every check of a configuration: the shared options, topic by topic, and only after all topics
each route against all subscribe addresses. -/
def checks (config : RelayConfig) : List Check :=
  config.optionChecks ++
    (List.zipWith TopicConfig.checks config.topics.inits config.topics).flatten ++
    config.routes.map fun route =>
      ⟨route.address ∈ fixedSubscribe config.topics, .ingestOnSubscribeAddress route.address⟩

end RelayConfig

/-- What a conflict is about: a topic, an address, or an address with a path. -/
def ConfigError.subject : ConfigError → String
  | .noTopics | .zeroProbeInterval | .zeroIdleTimeout | .zeroQueueCapacity => ""
  | .duplicateTopic name | .noChannels name => name
  | .subscribeAddressTaken address | .ingestOnSubscribeAddress address => address.toText
  | .routeTaken route => route.address.toText ++ route.path

/-- The text of a conflict names what it is about. -/
theorem ConfigError.message_names_subject (conflict : ConfigError) :
    ∃ before after, conflict.message = before ++ conflict.subject ++ after := by
  unfold message subject
  cases conflict with
  | duplicateTopic name => exact ⟨"duplicate topic: ", "", String.append_empty.symm⟩
  | noChannels topic => exact ⟨_, _, rfl⟩
  | subscribeAddressTaken address => exact ⟨_, _, rfl⟩
  | routeTaken route =>
      refine ⟨"configuration error: ingest route ", " used more than once", ?_⟩
      simp only [String.append_assoc]
  | ingestOnSubscribeAddress address => exact ⟨_, _, rfl⟩
  | _ => exact ⟨_, "", by rw [String.append_empty, String.append_empty]⟩

/-! ### The first violated check -/

namespace Check

variable {checks others : List Check} {check : Check} {conflict : ConfigError}

theorem first?_nil : first? [] = none := rfl

theorem first?_cons_violated (violated : check.violated = true) :
    first? (check :: others) = some check.conflict := by
  rw [first?, List.find?_cons_of_pos violated]
  rfl

theorem first?_cons_kept (kept : check.violated = false) :
    first? (check :: others) = first? others := by
  rw [first?, List.find?_cons_of_neg (by simp [kept])]
  rfl

theorem first?_append : first? (checks ++ others) = (first? checks).or (first? others) := by
  rw [first?, first?, first?, List.find?_append]
  cases checks.find? Check.violated <;> rfl

end Check

/-- The first item has nothing before it, and stands before all others. -/
theorem zipWith_inits_cons {α β : Type} (f : List α → α → β) (first : α) (others : List α) :
    List.zipWith f (first :: others).inits (first :: others) =
      f [] first :: List.zipWith (fun before item => f (first :: before) item) others.inits others := by
  rw [List.inits_cons, List.zipWith_cons_cons, List.zipWith_map_left]

namespace Taken

open Check

variable {earlier topics : List TopicConfig} {topic : TopicConfig} {routes : List IngestRoute}
  {taken : Taken} {conflict : ConfigError}

theorem takeRoutes_eq_error_iff {before : List IngestRoute}
    (spent : ∀ route, route ∈ taken.routes ↔ route ∈ before) :
    taken.takeRoutes routes = .error conflict ↔
      first? (IngestRoute.checks before routes) = some conflict := by
  induction routes generalizing taken before with
  | nil => simp [takeRoutes, IngestRoute.checks, first?_nil]
  | cons route others ih =>
      rw [takeRoutes, IngestRoute.checks, zipWith_inits_cons]
      by_cases again : route ∈ taken.routes
      · have violated : decide (route ∈ before ++ []) = true := by
          simpa using (spent route).1 again
        rw [if_pos again, first?_cons_violated violated, Except.error.injEq, Option.some.injEq]
      · have kept : decide (route ∈ before ++ []) = false := by
          simpa using fun member => again ((spent route).2 member)
        have grown : ∀ other, other ∈ route :: taken.routes ↔ other ∈ before ++ [route] := by
          intro other
          rw [List.mem_cons, spent, List.mem_append, List.mem_singleton, or_comm]
        rw [if_neg again, first?_cons_kept kept, ih grown, IngestRoute.checks]
        simp only [List.append_assoc, List.singleton_append]

theorem takeTopic_eq_error_iff :
    (ofTopics earlier).takeTopic topic = .error conflict ↔
      first? (topic.checks earlier) = some conflict := by
  have named : topic.name ∈ (ofTopics earlier).names ↔ topic.name ∈ earlier.map TopicConfig.name :=
    List.mem_reverse
  have used : topic.subscribe ∈ (ofTopics earlier).subscribe ↔
      topic.subscribe ∈ fixedSubscribe earlier := List.mem_reverse
  have spent (route : IngestRoute) : route ∈ (ofTopics earlier).routes ↔
      route ∈ earlier.flatMap TopicConfig.ingest := List.mem_reverse
  rw [takeTopic, TopicConfig.checks, List.cons_append, List.cons_append, List.cons_append,
    List.nil_append]
  by_cases known : topic.name ∈ (ofTopics earlier).names
  · rw [if_pos known, first?_cons_violated (decide_eq_true (named.1 known)), Except.error.injEq,
      Option.some.injEq]
  rw [if_neg known, first?_cons_kept (decide_eq_false (named.not.1 known))]
  by_cases mute : topic.channels.isEmpty = true
  · rw [if_pos mute, first?_cons_violated mute, Except.error.injEq, Option.some.injEq]
  rw [if_neg mute, first?_cons_kept (Bool.not_eq_true _ ▸ mute)]
  by_cases free : topic.subscribe.port = 0
  · -- An address without a port of its own is taken by nobody.
    have unused : topic.subscribe ∉ fixedSubscribe earlier := by
      intro member
      exact of_decide_eq_true (List.mem_filter.1 member).2 free
    rw [if_pos free, first?_cons_kept (decide_eq_false unused)]
    exact takeRoutes_eq_error_iff spent
  rw [if_neg free]
  by_cases again : topic.subscribe ∈ (ofTopics earlier).subscribe
  · rw [if_pos again, first?_cons_violated (decide_eq_true (used.1 again)), Except.error.injEq,
      Option.some.injEq]
  · rw [if_neg again, first?_cons_kept (decide_eq_false (used.not.1 again))]
    exact takeRoutes_eq_error_iff spent

theorem takeTopics_eq_error_iff (separate : Separate earlier) :
    (ofTopics earlier).takeTopics topics = .error conflict ↔
      first? (List.zipWith (fun before topic => topic.checks (earlier ++ before)) topics.inits
        topics).flatten = some conflict := by
  induction topics generalizing earlier with
  | nil => simp [takeTopics, first?_nil]
  | cons topic others ih =>
      rw [takeTopics, zipWith_inits_cons, List.flatten_cons, first?_append, List.append_nil]
      cases taking : (ofTopics earlier).takeTopic topic with
      | error found =>
          rw [takeTopic_eq_error_iff.1 taking, Option.some_or, Except.error.injEq,
            Option.some.injEq]
      | ok taken =>
          obtain ⟨fits, rfl⟩ := (takeTopic_eq_ok_iff separate).1 taking
          have passed : first? (topic.checks earlier) = none := by
            rw [Option.eq_none_iff_forall_ne_some]
            intro found violated
            cases taking.symm.trans (takeTopic_eq_error_iff.2 violated)
          rw [passed, Option.none_or]
          apply (ih fits).trans
          simp only [List.append_assoc, List.singleton_append]

theorem checkRoutes_eq_error_iff {used : List SocketAddress}
    (taking : ∀ address, address ∈ taken.subscribe ↔ address ∈ used) :
    taken.checkRoutes routes = .error conflict ↔
      first? (routes.map fun route =>
        ⟨route.address ∈ used, .ingestOnSubscribeAddress route.address⟩) = some conflict := by
  induction routes with
  | nil => simp [checkRoutes, first?_nil]
  | cons route others ih =>
      rw [checkRoutes, List.map_cons]
      by_cases again : route.address ∈ taken.subscribe
      · have violated := decide_eq_true ((taking route.address).1 again)
        rw [if_pos again, first?_cons_violated violated, Except.error.injEq, Option.some.injEq]
      · have kept := decide_eq_false ((taking route.address).not.1 again)
        rw [if_neg again, first?_cons_kept kept, ih]

end Taken

namespace RelayConfig

open Check

variable {config : RelayConfig} {conflict : ConfigError}

/-- The check fails with the conflict of the first single check that is violated. -/
theorem validate_eq_error_iff :
    config.validate = .error conflict ↔ first? config.checks = some conflict := by
  rw [validate, checks, optionChecks, List.append_assoc, first?_append]
  by_cases topics : config.topics = []
  · rw [if_pos topics, first?_cons_violated (decide_eq_true topics), Option.some_or,
      Except.error.injEq, Option.some.injEq]
  rw [if_neg topics, first?_cons_kept (decide_eq_false topics)]
  by_cases probeInterval : config.probeInterval = 0
  · rw [if_pos probeInterval, first?_cons_violated (decide_eq_true probeInterval), Option.some_or,
      Except.error.injEq, Option.some.injEq]
  rw [if_neg probeInterval, first?_cons_kept (decide_eq_false probeInterval)]
  by_cases idleTimeout : config.idleTimeout = 0
  · rw [if_pos idleTimeout, first?_cons_violated (decide_eq_true idleTimeout), Option.some_or,
      Except.error.injEq, Option.some.injEq]
  rw [if_neg idleTimeout, first?_cons_kept (decide_eq_false idleTimeout)]
  by_cases queueCapacity : config.queueCapacity = 0
  · rw [if_pos queueCapacity, first?_cons_violated (decide_eq_true queueCapacity), Option.some_or,
      Except.error.injEq, Option.some.injEq]
  rw [if_neg queueCapacity, first?_cons_kept (decide_eq_false queueCapacity), first?_nil,
    Option.none_or, first?_append]
  have violated {found : ConfigError} :
      Taken.nothing.takeTopics config.topics = .error found ↔
        first? (List.zipWith TopicConfig.checks config.topics.inits config.topics).flatten =
          some found := Taken.takeTopics_eq_error_iff Separate.nil
  cases taking : Taken.nothing.takeTopics config.topics with
  | error found =>
      rw [violated.1 taking, Option.some_or, Option.some.injEq]
      exact Except.error.injEq found conflict ▸ Iff.rfl
  | ok taken =>
      obtain ⟨_, rfl⟩ := (Taken.takeTopics_eq_ok_iff Separate.nil).1 taking
      have passed : first?
          (List.zipWith TopicConfig.checks config.topics.inits config.topics).flatten = none := by
        rw [Option.eq_none_iff_forall_ne_some]
        intro found first
        cases taking.symm.trans (violated.2 first)
      rw [passed, Option.none_or]
      exact Taken.checkRoutes_eq_error_iff fun _ => List.mem_reverse

/-- The check accepts a configuration exactly if it has a topic, no option is zero, the topics share
no name, no subscribe address with a port of its own and no route, each of them accepts a channel,
and no route uses such a subscribe address. It fails exactly with the conflict of the first violated
check: the shared options, then topic by topic against the topics before it, then every route
against every subscribe address. The text that reports it names what the conflict is about. -/
theorem validate_decides (config : RelayConfig) :
    (config.validate = .ok () ↔
      config.topics ≠ [] ∧ config.probeInterval ≠ 0 ∧ config.idleTimeout ≠ 0 ∧
        config.queueCapacity ≠ 0 ∧
        (config.topics.map TopicConfig.name).Nodup ∧
        (∀ topic ∈ config.topics, topic.channels.isEmpty = false) ∧
        (fixedSubscribe config.topics).Nodup ∧
        (config.topics.flatMap TopicConfig.ingest).Nodup ∧
        ∀ route ∈ config.routes, route.address ∉ fixedSubscribe config.topics) ∧
    (∀ conflict, config.validate = .error conflict ↔ first? config.checks = some conflict) ∧
    ∀ conflict, config.validate = .error conflict →
      ∃ before after, conflict.message = before ++ conflict.subject ++ after := by
  refine ⟨?_, fun _ => validate_eq_error_iff, fun conflict _ => conflict.message_names_subject⟩
  rw [validate_eq_ok_iff]
  constructor
  · rintro ⟨topics, probeInterval, idleTimeout, queueCapacity, separate, apart⟩
    exact ⟨topics, probeInterval, idleTimeout, queueCapacity, separate.names, separate.channels,
      separate.subscribe, separate.routes, apart⟩
  · rintro ⟨topics, probeInterval, idleTimeout, queueCapacity, names, channels, subscribe, routes,
      apart⟩
    exact ⟨topics, probeInterval, idleTimeout, queueCapacity,
      ⟨names, channels, subscribe, routes⟩, apart⟩

/-- Of two conflicts the earlier check wins: here a topic without channels and a route on the
subscribe address of the topic before it. -/
example :
    validate { standard with topics :=
      [⟨"one", .ofIp .localhost 1000, .ofList ["a"], []⟩,
        ⟨"two", .ofIp .localhost 0, .empty, [.new (.ofIp .localhost 1000) ""]⟩] } =
      .error (.noChannels "two") := by
  decide +kernel

end RelayConfig

end LiveRelay
