/-
Module: LiveRelay.Proofs.Rebinding
Purpose: Moving every listener of a configuration to another host: nothing but the hosts changes,
  and a conflict stays a conflict.
Main exports: RelayConfig.AlikeButHosts, ConfigError.onHost, Check.Persists,
  RelayConfig.checks_bindHost, RelayConfig.bindHost_keeps_conflicts
-/
import LiveRelay.CommandLine
import LiveRelay.Proofs.Validation
import Mathlib.Data.List.Forall2

namespace LiveRelay

open Net

/-! ### What may differ between hosts -/

/-- Routes that differ at most in what their addresses tell besides the port. -/
structure IngestRoute.AlikeButHosts (one other : IngestRoute) : Prop where
  port : one.address.port = other.address.port
  base : one.base = other.base

/-- Topics that differ at most in what their addresses tell besides the port. -/
structure TopicConfig.AlikeButHosts (one other : TopicConfig) : Prop where
  name : one.name = other.name
  port : one.subscribe.port = other.subscribe.port
  channels : one.channels = other.channels
  ingest : List.Forall₂ IngestRoute.AlikeButHosts one.ingest other.ingest

/-- Configurations that differ at most in what their addresses tell besides the port, which is their
host, their scope and their flow information: the same topics with the same routes in the same order,
and the same options. -/
structure RelayConfig.AlikeButHosts (one other : RelayConfig) : Prop where
  topics : List.Forall₂ TopicConfig.AlikeButHosts one.topics other.topics
  probeInterval : one.probeInterval = other.probeInterval
  idleTimeout : one.idleTimeout = other.idleTimeout
  queueCapacity : one.queueCapacity = other.queueCapacity
  overflow : one.overflow = other.overflow
  rejectUnknown : one.rejectUnknown = other.rejectUnknown

/-- The route at another host; its port stays. -/
def IngestRoute.onHost (host : IpAddress) (route : IngestRoute) : IngestRoute :=
  { route with address := route.address.withIp host }

/-- The conflict as it reads when every address has been moved. -/
def ConfigError.onHost (host : IpAddress) : ConfigError → ConfigError
  | .subscribeAddressTaken address => .subscribeAddressTaken (address.withIp host)
  | .routeTaken route => .routeTaken (route.onHost host)
  | .ingestOnSubscribeAddress address => .ingestOnSubscribeAddress (address.withIp host)
  | conflict => conflict

/-- A check before and after every address has been moved: it is about the same thing at its new
address, and violated still if it was. -/
structure Check.Persists (host : IpAddress) (before after : Check) : Prop where
  conflict : after.conflict = before.conflict.onHost host
  violated : before.violated = true → after.violated = true

/-- Moving to the same host again changes nothing: what survived the first time survives again. -/
theorem Net.SocketAddress.withIp_withIp (address : SocketAddress) (host : IpAddress) :
    (address.withIp host).withIp host = address.withIp host := by
  cases host <;> cases address <;> rfl

/-! ### Moving the parts of a configuration -/

namespace TopicConfig

theorem ingest_bindHost (topic : TopicConfig) (host : IpAddress) :
    (topic.bindHost host).ingest = topic.ingest.map (·.onHost host) := rfl

theorem alike_bindHost (topic : TopicConfig) (host : IpAddress) :
    topic.AlikeButHosts (topic.bindHost host) where
  name := rfl
  port := (SocketAddress.port_withIp topic.subscribe host).symm
  channels := rfl
  ingest := by
    rw [ingest_bindHost, List.forall₂_map_right_iff, List.forall₂_same]
    exact fun route _ => ⟨(SocketAddress.port_withIp route.address host).symm, rfl⟩

theorem bindHost_bindHost (topic : TopicConfig) (host : IpAddress) :
    (topic.bindHost host).bindHost host = topic.bindHost host := by
  simp only [bindHost, SocketAddress.withIp_withIp, List.map_map, Function.comp_def]

end TopicConfig

section Lists

variable {host : IpAddress}

theorem map_name_bindHost (topics : List TopicConfig) :
    (topics.map (·.bindHost host)).map TopicConfig.name = topics.map TopicConfig.name := by
  rw [List.map_map]
  rfl

theorem flatMap_ingest_bindHost (topics : List TopicConfig) :
    (topics.map (·.bindHost host)).flatMap TopicConfig.ingest =
      (topics.flatMap TopicConfig.ingest).map (·.onHost host) := by
  rw [List.flatMap_map, List.map_flatMap]
  rfl

/-- An address keeps its port, so it is fixed after the move exactly if it was before. -/
theorem fixedSubscribe_bindHost (topics : List TopicConfig) :
    fixedSubscribe (topics.map (·.bindHost host)) =
      (fixedSubscribe topics).map (·.withIp host) := by
  simp [fixedSubscribe, List.filter_map, TopicConfig.bindHost, Function.comp_def]

end Lists

/-! ### Moving the checks -/

section Checks

variable {host : IpAddress}

/-- What is in a list is still in it when all of it is moved in the same way. -/
theorem Check.persists_mem {α : Type} [DecidableEq α] {move : α → α} {item : α} {items : List α}
    {conflict : ConfigError} :
    Check.Persists host ⟨item ∈ items, conflict⟩
      ⟨move item ∈ items.map move, conflict.onHost host⟩ where
  conflict := rfl
  violated := fun violated => decide_eq_true (List.mem_map_of_mem (of_decide_eq_true violated))

/-- A check that no address is part of stays as it is. -/
theorem Check.persists_of_eq {violated : Bool} {conflict : ConfigError}
    (unmoved : conflict.onHost host = conflict) :
    Check.Persists host ⟨violated, conflict⟩ ⟨violated, conflict⟩ :=
  ⟨unmoved.symm, id⟩

theorem forall₂_zipWith {α β γ : Type} {related : γ → γ → Prop} {f g : α → β → γ}
    (each : ∀ a b, related (f a b) (g a b)) (as : List α) (bs : List β) :
    List.Forall₂ related (List.zipWith f as bs) (List.zipWith g as bs) := by
  induction as generalizing bs with
  | nil => simp
  | cons a as ih =>
    cases bs with
    | nil => simp
    | cons b bs => exact .cons (each a b) (ih bs)

theorem IngestRoute.checks_onHost (earlier routes : List IngestRoute) :
    List.Forall₂ (Check.Persists host) (checks earlier routes)
      (checks (earlier.map (·.onHost host)) (routes.map (·.onHost host))) := by
  rw [checks, checks, List.map_inits, List.zipWith_map]
  refine forall₂_zipWith (fun before route => ?_) _ _
  rw [← List.map_append]
  exact Check.persists_mem

theorem TopicConfig.checks_bindHost (earlier : List TopicConfig) (topic : TopicConfig) :
    List.Forall₂ (Check.Persists host) (topic.checks earlier)
      ((topic.bindHost host).checks (earlier.map (·.bindHost host))) := by
  rw [checks, checks, map_name_bindHost, fixedSubscribe_bindHost, flatMap_ingest_bindHost]
  refine List.rel_append (.cons ?_ (.cons ?_ (.cons ?_ .nil))) ?_
  · exact Check.persists_of_eq rfl
  · exact Check.persists_of_eq rfl
  · exact Check.persists_mem
  · exact IngestRoute.checks_onHost _ _

/-- The checks of topics against each other: topic by topic, and then every route against every
subscribe address. -/
def layoutChecks (topics : List TopicConfig) : List Check :=
  (List.zipWith TopicConfig.checks topics.inits topics).flatten ++
    (topics.flatMap TopicConfig.ingest).map fun route =>
      ⟨route.address ∈ fixedSubscribe topics, .ingestOnSubscribeAddress route.address⟩

theorem layoutChecks_bindHost (topics : List TopicConfig) :
    List.Forall₂ (Check.Persists host) (layoutChecks topics)
      (layoutChecks (topics.map (·.bindHost host))) := by
  refine List.rel_append (List.rel_flatten ?topics) ?clashes
  case topics =>
    rw [List.map_inits, List.zipWith_map]
    exact forall₂_zipWith (fun earlier topic => topic.checks_bindHost earlier) _ _
  case clashes =>
    rw [flatMap_ingest_bindHost, List.map_map, List.forall₂_map_left_iff,
      List.forall₂_map_right_iff, List.forall₂_same]
    intro route _
    rw [fixedSubscribe_bindHost]
    exact Check.persists_mem

namespace RelayConfig

variable {config : RelayConfig} {check : Check}

theorem checks_eq (config : RelayConfig) :
    config.checks = config.optionChecks ++ layoutChecks config.topics :=
  List.append_assoc _ _ _

/-- Every check of a configuration is among the checks of the moved one, at the same place. -/
theorem checks_bindHost (config : RelayConfig) (host : IpAddress) :
    List.Forall₂ (Check.Persists host) config.checks (config.bindHost host).checks := by
  rw [checks_eq, checks_eq]
  refine List.rel_append ?_ (layoutChecks_bindHost config.topics)
  refine .cons ⟨rfl, fun none => ?_⟩ (.cons ?_ (.cons ?_ (.cons ?_ .nil)))
  · have empty : config.topics = [] := of_decide_eq_true none
    exact decide_eq_true (List.map_eq_nil_iff.2 empty)
  all_goals exact Check.persists_of_eq rfl

/-- A configuration with a violated check is rejected. -/
theorem rejects_of_violated (member : check ∈ config.checks) (violated : check.violated = true) :
    ∃ conflict, config.validate = .error conflict := by
  have first : (Check.first? config.checks).isSome := by
    rw [Check.first?, Option.isSome_map, List.find?_isSome]
    exact ⟨check, member, violated⟩
  obtain ⟨conflict, found⟩ := Option.isSome_iff_exists.1 first
  exact ⟨conflict, validate_eq_error_iff.2 found⟩

/-- An accepted configuration has no violated check. -/
theorem exists_violated (rejected : config.validate ≠ .ok ()) :
    ∃ check ∈ config.checks, check.violated = true := by
  cases found : config.validate with
  | ok done => exact absurd found rejected
  | error conflict =>
    have first := validate_eq_error_iff.1 found
    rw [Check.first?, Option.map_eq_some_iff] at first
    obtain ⟨check, first, _⟩ := first
    exact ⟨check, List.mem_of_find?_eq_some first, List.find?_some first⟩

end RelayConfig

/-- A violated check is violated still after the move. -/
theorem Check.exists_violated_of_persists {before after : List Check}
    (persist : List.Forall₂ (Check.Persists host) before after) {check : Check}
    (member : check ∈ before) (violated : check.violated = true) :
    ∃ later ∈ after, later.violated = true := by
  induction persist with
  | nil => cases member
  | cons first _ ih =>
    rcases List.mem_cons.1 member with rfl | member
    · exact ⟨_, List.mem_cons_self, first.violated violated⟩
    · obtain ⟨later, among, still⟩ := ih member
      exact ⟨later, List.mem_cons_of_mem _ among, still⟩

end Checks

/-! ### Moving a whole configuration -/

theorem Options.topics_configure {options : Options} {host : IpAddress}
    (asks : options.host = some host) (config : RelayConfig) :
    (options.configure config).topics = (config.bindHost host).topics := by
  obtain ⟨file, _, millis, disconnectSlow, rejectUnknown⟩ := options
  cases asks
  cases millis <;> cases disconnectSlow <;> cases rejectUnknown <;> rfl

namespace RelayConfig

theorem alike_bindHost (config : RelayConfig) (host : IpAddress) :
    config.AlikeButHosts (config.bindHost host) where
  topics := by
    rw [bindHost, List.forall₂_map_right_iff, List.forall₂_same]
    exact fun topic _ => topic.alike_bindHost host
  probeInterval := rfl
  idleTimeout := rfl
  queueCapacity := rfl
  overflow := rfl
  rejectUnknown := rfl

theorem bindHost_bindHost (config : RelayConfig) (host : IpAddress) :
    (config.bindHost host).bindHost host = config.bindHost host := by
  simp only [bindHost, List.map_map, Function.comp_def, TopicConfig.bindHost_bindHost]

theorem ip_of_mem_addresses {config : RelayConfig} {host : IpAddress} {address : SocketAddress}
    (member : address ∈ (config.bindHost host).addresses) : address.ip = host := by
  rw [addresses, bindHost, List.flatMap_map, List.mem_flatMap] at member
  obtain ⟨topic, _, own⟩ := member
  rw [TopicConfig.ingest_bindHost, List.map_map, List.mem_cons, List.mem_map] at own
  rcases own with rfl | ⟨route, _, rfl⟩
  · exact SocketAddress.ip_withIp topic.subscribe host
  · exact SocketAddress.ip_withIp route.address host

/-- Moving every listener to one host hides no conflict. If the moved configuration is accepted, so
is the one it was made from. The move gives every address that host and changes nothing else, and
moving twice is moving once. Each single check stands at its old place, about the same thing at its
new address, and is violated there if it was before. Hence a topic, an address or a route that
stands twice is still refused when the command line asks for a host, whatever else it asks for. -/
theorem bindHost_keeps_conflicts (config : RelayConfig) (host : IpAddress) :
    ((config.bindHost host).validate = .ok () → config.validate = .ok ()) ∧
    config.AlikeButHosts (config.bindHost host) ∧
    (∀ address ∈ (config.bindHost host).addresses, address.ip = host) ∧
    (config.bindHost host).bindHost host = config.bindHost host ∧
    List.Forall₂ (Check.Persists host) config.checks (config.bindHost host).checks ∧
    ∀ options : Options, options.host = some host →
      ∀ check ∈ layoutChecks config.topics, check.violated = true →
        ∃ conflict, (options.configure config).validate = .error conflict := by
  refine ⟨fun accepted => ?_, config.alike_bindHost host, fun _ => ip_of_mem_addresses,
    config.bindHost_bindHost host, config.checks_bindHost host, ?_⟩
  · by_contra rejected
    obtain ⟨check, member, violated⟩ := exists_violated rejected
    obtain ⟨later, among, still⟩ :=
      Check.exists_violated_of_persists (config.checks_bindHost host) member violated
    obtain ⟨conflict, refused⟩ := rejects_of_violated among still
    cases accepted.symm.trans refused
  · intro options asks check member violated
    obtain ⟨later, among, still⟩ :=
      Check.exists_violated_of_persists (layoutChecks_bindHost config.topics) member violated
    have member : later ∈ (options.configure config).checks := by
      rw [checks_eq, options.topics_configure asks]
      exact List.mem_append_right _ among
    exact rejects_of_violated member still

/-- The standard layout on the machine itself; and two topics of one name, asked to another host
together with other options. -/
theorem bindHost_keeps_conflicts_of_twins :
    ((standard.bindHost .localhost).validate = .ok () ∧ standard.validate = .ok ()) ∧
    let twins : RelayConfig := { standard with topics :=
      [⟨"one", .ofIp .localhost 1000, .standard, []⟩,
        ⟨"one", .v6 (Vector.replicate 8 1) 5 7 1001, .standard, []⟩] }
    let options : Options := ⟨none, some .everywhere, some 5, true, true⟩
    ∃ conflict, (options.configure twins).validate = .error conflict := by
  refine ⟨⟨by decide +kernel, ?_⟩, ?_⟩
  · exact (bindHost_keeps_conflicts standard .localhost).1 (by decide +kernel)
  · refine (bindHost_keeps_conflicts _ .everywhere).2.2.2.2.2 _ rfl
      ⟨true, .duplicateTopic "one"⟩ (by decide +kernel) rfl

/-- The other way round does not hold: listeners on different hosts can come to share an address. -/
example :
    let config : RelayConfig := { standard with topics :=
      [⟨"one", .ofIp .localhost 1000, .standard, []⟩,
        ⟨"two", .ofIp .unspecified 1000, .standard, []⟩] }
    config.validate = .ok () ∧ (config.bindHost .localhost).validate =
      .error (.subscribeAddressTaken (.ofIp .localhost 1000)) := by
  decide +kernel

end RelayConfig

end LiveRelay
