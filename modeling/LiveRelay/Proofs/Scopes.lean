/-
Module: LiveRelay.Proofs.Scopes
Purpose: How much of an address is left when every listener is moved to one host: its port, and its
  scope and flow information where both the old and the new address are of the second family.
Main exports: IpAddress.keepsScopes, SocketAddress.withIp_eq_iff,
  RelayConfig.AlikeButHosts.bindHost_eq_iff, RelayConfig.SharesListener,
  RelayConfig.bindHost_up_to_scopes, RelayConfig.scopes_survive
-/
import LiveRelay.Proofs.Ingest.Groups
import LiveRelay.Proofs.Rebinding

namespace LiveRelay

open Net

/-! ### Single addresses -/

/-- Whether an address that is moved to the host keeps its scope and its flow information. Where it
has none, both are zero and stay zero. -/
def Net.IpAddress.keepsScopes : IpAddress → Bool
  | .v4 _ _ _ _ => false
  | .v6 _ => true

/-- What an address tells besides its ip and its port: its scope and its flow information. -/
def Net.SocketAddress.link (address : SocketAddress) : UInt32 × UInt32 :=
  (address.scope, address.flow)

/-- What the address tells besides ip and port after it has been moved to a host. -/
def Net.SocketAddress.linkOn (host : IpAddress) (address : SocketAddress) : UInt32 × UInt32 :=
  if host.keepsScopes then address.link else (0, 0)

namespace Net.SocketAddress

variable {host later : IpAddress} {one other : SocketAddress}

theorem scope_withIp (address : SocketAddress) (host : IpAddress) :
    (address.withIp host).scope = if host.keepsScopes then address.scope else 0 := by
  cases host <;> cases address <;> rfl

theorem flow_withIp (address : SocketAddress) (host : IpAddress) :
    (address.withIp host).flow = if host.keepsScopes then address.flow else 0 := by
  cases host <;> cases address <;> rfl

theorem link_withIp (address : SocketAddress) (host : IpAddress) :
    (address.withIp host).link = address.linkOn host := by
  rw [link, scope_withIp, flow_withIp, linkOn]
  cases host.keepsScopes <;> rfl

/-- Lists of addresses tell the same exactly if their scopes and their flow information are equal. -/
theorem map_link_eq_iff {addresses others : List SocketAddress} :
    addresses.map link = others.map link ↔
      addresses.map scope = others.map scope ∧ addresses.map flow = others.map flow := by
  have paired (addresses : List SocketAddress) :
      addresses.map link = (addresses.map scope).zip (addresses.map flow) := List.zip_map'.symm
  constructor
  · intro same
    have scopes := congrArg (List.map Prod.fst) same
    have flows := congrArg (List.map Prod.snd) same
    rw [List.map_map, List.map_map] at scopes flows
    exact ⟨scopes, flows⟩
  · rintro ⟨scopes, flows⟩
    rw [paired, paired, scopes, flows]

/-- Two addresses become one exactly if they have the same port and keep nothing different. -/
theorem withIp_eq_iff :
    one.withIp host = other.withIp host ↔
      one.port = other.port ∧ one.linkOn host = other.linkOn host := by
  constructor
  · intro same
    have ports := congrArg port same
    have links := congrArg link same
    rw [port_withIp, port_withIp] at ports
    rw [link_withIp, link_withIp] at links
    exact ⟨ports, links⟩
  · rintro ⟨ports, links⟩
    rw [← link_withIp, ← link_withIp] at links
    obtain ⟨scopes, flows⟩ := Prod.mk.inj links
    apply eq_of_parts
    · rw [ip_withIp, ip_withIp]
    · exact flows
    · exact scopes
    · rw [port_withIp, port_withIp, ports]

/-- What a stop on the way makes of a scope and flow information: nothing, unless they are lost there
and would have been kept. -/
theorem linkOn_withIp_eq_iff :
    (one.withIp host).linkOn later = one.linkOn later ↔
      (later.keepsScopes = true → host.keepsScopes = false → one.scope = 0 ∧ one.flow = 0) := by
  rw [linkOn, linkOn, link_withIp, linkOn]
  cases later.keepsScopes <;> cases host.keepsScopes <;> simp [link, eq_comm]

end Net.SocketAddress

/-! ### Whole configurations -/

/-- Lists that agree in one respect agree in another exactly if their items do. -/
theorem map_eq_map_iff_of_forall₂ {α β γ : Type} {related : α → α → Prop} {f : α → β} {g : α → γ}
    (each : ∀ a b, related a b → (f a = f b ↔ g a = g b)) {as bs : List α}
    (alike : List.Forall₂ related as bs) : as.map f = bs.map f ↔ as.map g = bs.map g := by
  induction alike with
  | nil => simp
  | cons first _ ih =>
      rw [List.map_cons, List.map_cons, List.map_cons, List.map_cons, List.cons.injEq,
        List.cons.injEq, each _ _ first, ih]

/-- Routes that differ in their addresses at most are the same if their addresses are. -/
theorem IngestRoute.AlikeButHosts.eq_of_addresses {routes others : List IngestRoute}
    (alike : List.Forall₂ IngestRoute.AlikeButHosts routes others)
    (same : routes.map IngestRoute.address = others.map IngestRoute.address) : routes = others := by
  induction alike with
  | nil => rfl
  | @cons route other _ _ alike _ ih =>
      obtain ⟨address, rest⟩ := List.cons.inj same
      have head : route = other := by
        cases route
        cases other
        cases alike.base
        cases address
        rfl
      rw [head, ih rest]

namespace TopicConfig

variable {one other : TopicConfig}

/-- The address of a topic and those of its routes. -/
def addresses (topic : TopicConfig) : List SocketAddress :=
  topic.subscribe :: topic.ingest.map IngestRoute.address

theorem AlikeButHosts.forall₂_addresses (alike : one.AlikeButHosts other) :
    List.Forall₂ (fun a b : SocketAddress => a.port = b.port) one.addresses other.addresses := by
  rw [addresses, addresses, List.forall₂_cons, List.forall₂_map_left_iff,
    List.forall₂_map_right_iff]
  exact ⟨alike.port, alike.ingest.imp fun _ _ routes => routes.port⟩

/-- Topics that differ in their addresses at most are the same if their addresses are. -/
theorem AlikeButHosts.eq_of_addresses (alike : one.AlikeButHosts other)
    (same : one.addresses = other.addresses) : one = other := by
  obtain ⟨subscribe, rest⟩ := List.cons.inj same
  have ingest := IngestRoute.AlikeButHosts.eq_of_addresses alike.ingest rest
  cases one
  cases other
  cases alike.name
  cases alike.channels
  cases subscribe
  cases ingest
  rfl

/-- The same of several topics. -/
theorem AlikeButHosts.eq_of_flatMap_addresses {topics others : List TopicConfig}
    (alike : List.Forall₂ AlikeButHosts topics others)
    (same : topics.flatMap addresses = others.flatMap addresses) : topics = others := by
  induction alike with
  | nil => rfl
  | cons alike _ ih =>
      rw [List.flatMap_cons, List.flatMap_cons] at same
      obtain ⟨own, rest⟩ := List.append_inj same alike.forall₂_addresses.length_eq
      rw [alike.eq_of_addresses own, ih rest]

end TopicConfig

namespace RelayConfig

variable {config one other : RelayConfig} {host later : IpAddress}

theorem addresses_eq (config : RelayConfig) :
    config.addresses = config.topics.flatMap TopicConfig.addresses := rfl

theorem addresses_bindHost (config : RelayConfig) (host : IpAddress) :
    (config.bindHost host).addresses = config.addresses.map (·.withIp host) := by
  rw [addresses, addresses, bindHost, List.flatMap_map, List.map_flatMap]
  apply List.flatMap_congr
  intro topic _
  rw [TopicConfig.ingest_bindHost, List.map_map, List.map_cons, List.map_map]
  rfl

namespace AlikeButHosts

theorem forall₂_addresses (alike : one.AlikeButHosts other) :
    List.Forall₂ (fun a b : SocketAddress => a.port = b.port) one.addresses other.addresses := by
  rw [addresses_eq, addresses_eq]
  exact List.rel_flatMap alike.topics fun _ _ topics => topics.forall₂_addresses

/-- Configurations that differ in their addresses at most are the same if their addresses are. -/
theorem eq_of_addresses (alike : one.AlikeButHosts other)
    (same : one.addresses = other.addresses) : one = other := by
  have topics := TopicConfig.AlikeButHosts.eq_of_flatMap_addresses alike.topics same
  cases one
  cases other
  rw [RelayConfig.mk.injEq]
  exact ⟨topics, alike.probeInterval, alike.idleTimeout, alike.queueCapacity, alike.overflow,
    alike.rejectUnknown⟩

theorem bindHost (alike : one.AlikeButHosts other) (host : IpAddress) :
    (one.bindHost host).AlikeButHosts (other.bindHost host) where
  topics := by
    rw [RelayConfig.bindHost, RelayConfig.bindHost, List.forall₂_map_left_iff,
      List.forall₂_map_right_iff]
    apply alike.topics.imp
    rintro first second ⟨name, port, channels, ingest⟩
    refine ⟨name, ?_, channels, ?_⟩
    · rwa [TopicConfig.bindHost, TopicConfig.bindHost, SocketAddress.port_withIp,
        SocketAddress.port_withIp]
    · rw [TopicConfig.ingest_bindHost, TopicConfig.ingest_bindHost, List.forall₂_map_left_iff,
        List.forall₂_map_right_iff]
      apply ingest.imp
      rintro route twin ⟨port, base⟩
      refine ⟨?_, base⟩
      rwa [IngestRoute.onHost, IngestRoute.onHost, SocketAddress.port_withIp,
        SocketAddress.port_withIp]
  probeInterval := alike.probeInterval
  idleTimeout := alike.idleTimeout
  queueCapacity := alike.queueCapacity
  overflow := alike.overflow
  rejectUnknown := alike.rejectUnknown

/-- What differs in its addresses at most, and in no port, becomes equal exactly if nothing different
is kept. -/
theorem bindHost_eq_iff (alike : one.AlikeButHosts other) :
    one.bindHost host = other.bindHost host ↔
      one.addresses.map (·.linkOn host) = other.addresses.map (·.linkOn host) := by
  have moved : one.bindHost host = other.bindHost host ↔
      one.addresses.map (·.withIp host) = other.addresses.map (·.withIp host) := by
    rw [← addresses_bindHost, ← addresses_bindHost]
    exact ⟨congrArg addresses, (alike.bindHost host).eq_of_addresses⟩
  rw [moved]
  apply map_eq_map_iff_of_forall₂ _ alike.forall₂_addresses
  intro a b ports
  rw [SocketAddress.withIp_eq_iff]
  exact and_iff_right ports

end AlikeButHosts

/-- Moving to one host after another comes down to moving to the last one, unless a scope or flow
information is lost on the way that would have been kept. -/
theorem bindHost_bindHost_eq_iff (config : RelayConfig) :
    (config.bindHost host).bindHost later = config.bindHost later ↔
      (later.keepsScopes = true → host.keepsScopes = false →
        ∀ address ∈ config.addresses, address.scope = 0 ∧ address.flow = 0) := by
  rw [eq_comm, (config.alike_bindHost host).bindHost_eq_iff, addresses_bindHost, List.map_map,
    List.map_inj_left]
  constructor
  · intro same keeps loses address member
    exact SocketAddress.linkOn_withIp_eq_iff.1 (same address member).symm keeps loses
  · intro none address member
    apply Eq.symm
    exact SocketAddress.linkOn_withIp_eq_iff.2 fun keeps loses => none keeps loses address member

end RelayConfig

/-! ### Listeners that are shared -/

/-- The route at another host, with the topic that configured it. -/
def PlacedRoute.onHost (host : IpAddress) (placed : PlacedRoute) : PlacedRoute :=
  { placed with route := placed.route.onHost host }

namespace RelayConfig

variable {config : RelayConfig} {host : IpAddress} {one other : PlacedRoute}

/-- Whether one listener serves two routes. -/
def SharesListener (config : RelayConfig) (one other : PlacedRoute) : Prop :=
  ∃ group ∈ config.ingestGroups, one ∈ group.routes ∧ other ∈ group.routes

instance : Decidable (config.SharesListener one other) :=
  inferInstanceAs (Decidable (∃ group ∈ config.ingestGroups, one ∈ group.routes ∧ other ∈ group.routes))

theorem sharesListener_iff (first : one ∈ config.placedRoutes)
    (second : other ∈ config.placedRoutes) :
    config.SharesListener one other ↔ one.address = other.address := by
  constructor
  · rintro ⟨group, member, here, there⟩
    exact ((mem_routes member).1 here).1.trans ((mem_routes member).1 there).1.symm
  · intro same
    obtain ⟨group, member, own⟩ := List.mem_map.1 (config.grouping.covered one first)
    refine ⟨group, member, ?_, ?_⟩
    · rw [mem_routes member, ← mem_placedRoutes]
      exact ⟨own.symm, first⟩
    · rw [mem_routes member, ← mem_placedRoutes]
      exact ⟨(own.trans same).symm, second⟩

theorem onHost_mem_placedRoutes (member : one ∈ config.placedRoutes) :
    one.onHost host ∈ (config.bindHost host).placedRoutes := by
  obtain ⟨topic, here, own⟩ := mem_placedRoutes.1 member
  apply mem_placedRoutes.2
  refine ⟨topic.bindHost host, ?_, ?_⟩
  · rw [bindHost, List.getElem?_map]
    exact congrArg (Option.map _) here
  · rw [TopicConfig.ingest_bindHost]
    exact List.mem_map_of_mem own

/-- After the move one listener serves two routes exactly if their ports are the same and they keep
nothing different. -/
theorem sharesListener_bindHost_iff (first : one ∈ config.placedRoutes)
    (second : other ∈ config.placedRoutes) :
    (config.bindHost host).SharesListener (one.onHost host) (other.onHost host) ↔
      one.address.port = other.address.port ∧
        one.address.linkOn host = other.address.linkOn host := by
  rw [sharesListener_iff (onHost_mem_placedRoutes first) (onHost_mem_placedRoutes second)]
  exact SocketAddress.withIp_eq_iff

/-- What moving every listener to one host makes of addresses: the host and the old port, and the old
scope and flow information where both families are the second. So of configurations whose addresses
have the same ports, and that differ in nothing else, it makes the same one exactly if no different
scopes or flow information are kept, which a host of the first family never does; one listener serves
two routes exactly if their ports are the same and nothing different is kept; and moving to one host
after another comes down to moving to the last one, unless a scope or flow information is lost on the
way that would have been kept. -/
theorem bindHost_up_to_scopes {config twin : RelayConfig} (alike : config.AlikeButHosts twin)
    (host : IpAddress) :
    (config.bindHost host = twin.bindHost host ↔
      (host.keepsScopes = true →
        config.addresses.map SocketAddress.scope = twin.addresses.map SocketAddress.scope ∧
          config.addresses.map SocketAddress.flow = twin.addresses.map SocketAddress.flow)) ∧
    List.Forall₂ (fun old new : SocketAddress => new.ip = host ∧ new.port = old.port ∧
        (new.scope = if host.keepsScopes then old.scope else 0) ∧
        new.flow = if host.keepsScopes then old.flow else 0)
      config.addresses (config.bindHost host).addresses ∧
    (∀ one ∈ config.placedRoutes, ∀ other ∈ config.placedRoutes,
      ((config.bindHost host).SharesListener (one.onHost host) (other.onHost host) ↔
        one.address.port = other.address.port ∧
          (host.keepsScopes = true → one.address.scope = other.address.scope ∧
            one.address.flow = other.address.flow))) ∧
    ∀ later, (config.bindHost host).bindHost later = config.bindHost later ↔
      (later.keepsScopes = true → host.keepsScopes = false →
        ∀ address ∈ config.addresses, address.scope = 0 ∧ address.flow = 0) := by
  refine ⟨?equal, ?addresses, fun one first other second => ?listeners,
    fun later => config.bindHost_bindHost_eq_iff⟩
  case equal =>
    rw [alike.bindHost_eq_iff]
    cases keeps : host.keepsScopes with
    | false =>
        have length := alike.forall₂_addresses.length_eq
        simp [SocketAddress.linkOn, keeps, length]
    | true => simp [SocketAddress.linkOn, keeps, SocketAddress.map_link_eq_iff]
  case addresses =>
    rw [addresses_bindHost, List.forall₂_map_right_iff, List.forall₂_same]
    intro address _
    exact ⟨SocketAddress.ip_withIp address host, SocketAddress.port_withIp address host,
      SocketAddress.scope_withIp address host, SocketAddress.flow_withIp address host⟩
  case listeners =>
    rw [sharesListener_bindHost_iff first second]
    cases keeps : host.keepsScopes <;> simp [SocketAddress.linkOn, keeps, SocketAddress.link]

/-- Two topics, of which one has a scope in its own address and in that of its first route. -/
def scopedRoutes (scope : UInt32) : RelayConfig :=
  { standard with topics :=
    [⟨"one", .v6 (Vector.replicate 8 1) 0 scope 1000, .standard,
        [⟨.v6 (Vector.replicate 8 2) 0 scope 2000, "a"⟩, ⟨.v4 10 0 0 1 2000, "b"⟩]⟩,
      ⟨"two", .ofIp .localhost 0, .standard, []⟩] }

/-- The first route of the two, and the one without a scope. -/
def scopedRoute (scope : UInt32) : PlacedRoute :=
  ⟨⟨.v6 (Vector.replicate 8 2) 0 scope 2000, "a"⟩, 0⟩

def plainRoute : PlacedRoute := ⟨⟨.v4 10 0 0 1 2000, "b"⟩, 0⟩

theorem alike_scopedRoutes (scope other : UInt32) :
    (scopedRoutes scope).AlikeButHosts (scopedRoutes other) where
  topics := by
    refine .cons ⟨rfl, rfl, rfl, ?_⟩ (.cons ⟨rfl, rfl, rfl, .nil⟩ .nil)
    exact .cons ⟨rfl, rfl⟩ (.cons ⟨rfl, rfl⟩ .nil)
  probeInterval := rfl
  idleTimeout := rfl
  queueCapacity := rfl
  overflow := rfl
  rejectUnknown := rfl

/-- At a host of the first family two configurations with different scopes become the same, and their
two routes share a listener. From there to a host of the second family is not the same way as to go
there at once. -/
theorem bindHost_up_to_scopes_of_scopedRoutes :
    (scopedRoutes 3).AlikeButHosts (scopedRoutes 7) ∧
      (scopedRoutes 3).bindHost .localhost = (scopedRoutes 7).bindHost .localhost ∧
      ((scopedRoutes 3).bindHost .localhost).SharesListener ((scopedRoute 3).onHost .localhost)
        (plainRoute.onHost .localhost) ∧
      ((scopedRoutes 3).bindHost .localhost).bindHost .everywhere ≠
        (scopedRoutes 3).bindHost .everywhere := by
  have alike := alike_scopedRoutes 3 7
  obtain ⟨equal, _, shared, later⟩ := bindHost_up_to_scopes alike .localhost
  have one : scopedRoute 3 ∈ (scopedRoutes 3).placedRoutes := by decide +kernel
  have other : plainRoute ∈ (scopedRoutes 3).placedRoutes := by decide +kernel
  have some : ¬ ∀ address ∈ (scopedRoutes 3).addresses, address.scope = 0 := by decide +kernel
  refine ⟨alike, equal.2 ?_, (shared _ one _ other).2 ⟨rfl, ?_⟩, ?_⟩
  · intro keeps
    cases keeps
  · intro keeps
    cases keeps
  · intro same
    exact some fun address member => ((later .everywhere).1 same rfl rfl address member).1

/-- At a host of the second family the scopes survive. The two configurations stay different, there
are addresses with a scope, two routes at one port have a listener each, and it makes a difference
whether another host was there before. -/
theorem scopes_survive :
    (scopedRoutes 3).AlikeButHosts (scopedRoutes 7) ∧
      (scopedRoutes 3).bindHost .everywhere ≠ (scopedRoutes 7).bindHost .everywhere ∧
      (∃ address ∈ ((scopedRoutes 3).bindHost .everywhere).addresses, address.scope ≠ 0) ∧
      (scopedRoute 3).address.port = plainRoute.address.port ∧
      ¬ ((scopedRoutes 3).bindHost .everywhere).SharesListener ((scopedRoute 3).onHost .everywhere)
        (plainRoute.onHost .everywhere) ∧
      ((scopedRoutes 3).bindHost .localhost).bindHost .everywhere ≠
        (scopedRoutes 3).bindHost .everywhere :=
  ⟨alike_scopedRoutes 3 7, by decide +kernel, by decide +kernel, rfl, by decide +kernel,
    by decide +kernel⟩

end RelayConfig

end LiveRelay
