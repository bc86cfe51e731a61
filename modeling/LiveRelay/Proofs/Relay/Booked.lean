/-
Module: LiveRelay.Proofs.Relay.Booked
Purpose: What a topic counts of its sources is at any time the sum of what their sessions add up,
  however the sessions interleave and end.
Main exports: TopicStats.books, PushRequest.share, IngestSession.Honest, Relay.Booked,
  Relay.Booked.update, Relay.Booked.step, Relay.Booked.run
-/
import LiveRelay.Proofs.Hub.Counting
import LiveRelay.Proofs.Relay.Grows
import Mathlib.Algebra.BigOperators.Group.List.Basic
import Mathlib.Algebra.Group.Prod
import Mathlib.Data.UInt
import Mathlib.Tactic.Abel

namespace LiveRelay

open Net

/-! ### Books -/

/-- What is counted of sources: chunks, bytes, deliveries and drops, then the sessions in all and
those in progress. -/
abbrev Books := (UInt64 × UInt64 × UInt64 × UInt64) × UInt64 × UInt64

/-- What a topic has counted of its sources. -/
def TopicStats.books (stats : TopicStats) : Books :=
  ((stats.chunksRelayed, stats.bytesRelayed, stats.deliveries, stats.dropped),
    stats.ingestTotal, stats.ingestActive)

theorem TopicStats.books_ingestStarted (stats : TopicStats) :
    stats.ingestStarted.books = stats.books + (0, 1, 1) :=
  Prod.ext (add_zero _).symm rfl

theorem TopicStats.books_ingestEnded (stats : TopicStats) :
    stats.ingestEnded.books = stats.books + (0, 0, -1) := by
  refine Prod.ext (add_zero _).symm (Prod.ext (add_zero _).symm ?_)
  change stats.ingestActive - 1 = stats.ingestActive + -1
  exact sub_eq_add_neg stats.ingestActive 1

/-- The chunks and bytes of a session, and what became of them. -/
def IngestTotals.traffic (totals : IngestTotals) : UInt64 × UInt64 × UInt64 × UInt64 :=
  (totals.chunks, totals.bytes, totals.deliveries, totals.dropped)

/-- What a request adds to the books of a topic. -/
def PushRequest.share (t : Nat) (request : PushRequest) : Books :=
  if request.topic = t then
    (if request.session.routed then request.session.totals.traffic else 0, 1,
      if request.isOpen then 1 else 0)
  else 0

/-- What a chunk that was fanned out adds to the books. -/
def FanOutReport.entry (report : FanOutReport) (length : Nat) : Books :=
  ((1, UInt64.ofNat length, UInt64.ofNat report.delivered, UInt64.ofNat report.dropped), 0, 0)

/-- A session discards nothing where its topic accepts its channel, and everything where it does
not. -/
structure IngestSession.Honest (session : IngestSession) : Prop where
  routed : session.routed = true → session.totals.discarded = 0
  unrouted : session.routed = false → session.totals.discarded = session.totals.chunks ∧
    session.totals.deliveries = 0 ∧ session.totals.dropped = 0

/-- Where one entry of a list counts more, the sum counts as much more. -/
theorem sum_map_set {α M : Type} [AddCommGroup M] {entries : List α} {p : Nat} {entry later : α}
    {extra : M} (count : α → M) (present : entries[p]? = some entry)
    (grows : count later = count entry + extra) :
    ((entries.set p later).map count).sum = (entries.map count).sum + extra := by
  obtain ⟨within, rfl⟩ := List.getElem?_eq_some_iff.1 present
  rw [List.map_set, List.sum_set', dif_pos (by rwa [List.length_map]), List.getElem_map, grows]
  abel

namespace PushRequest

variable {request later : PushRequest} {t : Nat}

theorem share_of_ne (elsewhere : request.topic ≠ t) : request.share t = 0 := if_neg elsewhere

/-- To end a session takes it from those that are in progress. -/
theorem share_ended (opened : request.isOpen = true) (ending : IngestEnd) :
    ({ request with ending := some ending } : PushRequest).share t =
      request.share t + if request.topic = t then (0, 0, -1) else 0 := by
  by_cases own : request.topic = t
  · have shut : ({ request with ending := some ending } : PushRequest).isOpen = false := rfl
    rw [share, share, if_pos own, if_pos own, if_pos own, opened, shut]
    refine Prod.ext (add_zero _).symm (Prod.ext (add_zero _).symm ?_)
    exact (add_neg_cancel (1 : UInt64)).symm
  · rw [share, share, if_neg own, if_neg own, if_neg own, add_zero]

/-- To fan out a chunk adds to the traffic of a session what it adds to the books. -/
theorem share_relayed (routed : request.session.routed = true) (length : Nat)
    (report : FanOutReport) (now : Span) :
    ({ request with
        lastData := now
        session := request.session.relayed length report } : PushRequest).share t =
      request.share t + if request.topic = t then report.entry length else 0 := by
  by_cases own : request.topic = t
  · rw [share, share, if_pos own, if_pos own, if_pos own, routed]
    have still : (request.session.relayed length report).routed = true := routed
    rw [still, if_pos rfl, if_pos rfl]
    exact Prod.ext rfl (Prod.ext (add_zero _).symm (add_zero _).symm)
  · rw [share, share, if_neg own, if_neg own, if_neg own, add_zero]

/-- What a session discards is not in the books. -/
theorem share_discarded (unrouted : request.session.routed = false) (length : Nat) (now : Span) :
    ({ request with
        lastData := now
        session := request.session.discarded length } : PushRequest).share t =
      request.share t + 0 := by
  have still : (request.session.discarded length).routed = false := unrouted
  rw [add_zero, share, share, unrouted, still]
  rfl

end PushRequest

theorem IngestSession.Honest.relayed {session : IngestSession} (honest : session.Honest)
    (routed : session.routed = true) (length : Nat) (report : FanOutReport) :
    (session.relayed length report).Honest where
  routed := honest.routed
  unrouted := fun unrouted => absurd (routed.symm.trans unrouted) nofun

theorem IngestSession.Honest.discarded {session : IngestSession} (honest : session.Honest)
    (unrouted : session.routed = false) (length : Nat) : (session.discarded length).Honest where
  routed := fun routed => absurd (routed.symm.trans unrouted) nofun
  unrouted := by
    obtain ⟨discarded, deliveries, dropped⟩ := honest.unrouted unrouted
    exact fun _ => ⟨congrArg (· + 1) discarded, deliveries, dropped⟩

namespace Relay

/-- The books of every topic are the sum of what its requests add, and every session is honest. -/
structure Booked (relay : Relay) : Prop where
  sums : ∀ (t : Nat) (topic : Topic), relay.hub.topics[t]? = some topic →
    topic.stats.books = (relay.requests.map (PushRequest.share t)).sum
  honest : ∀ request ∈ relay.requests, request.session.Honest

/-- From one state of a hub to the next, the books of each topic grow by some amount. -/
def Enters (extra : Nat → Books) (before after : Hub) : Prop :=
  ∀ (t : Nat) (later : Topic), after.topics[t]? = some later →
    ∃ topic, before.topics[t]? = some topic ∧ later.stats.books = topic.stats.books + extra t

variable {relay after : Relay} {p t s : Nat} {request later : PushRequest} {event : Event}
  {extra : Nat → Books}

/-! ### What enters the books -/

theorem enters_refl (hub : Hub) : Enters 0 hub hub := fun _ _ present =>
  ⟨_, present, (add_zero _).symm⟩

/-- Only data enters the books. -/
theorem enters_step {hub : Hub} {event : Hub.Event}
    (noData : ∀ t channel payload, event ≠ .broadcast t channel payload) :
    Enters 0 hub (hub.step event).2 := by
  intro t later next
  obtain ⟨topic, here, same⟩ := Hub.topic_of_step next
  have counted : later.stats.books = (hub.becomes t topic event).stats.books :=
    congrArg (fun topic => topic.stats.books) same
  refine ⟨topic, here, counted.trans (Eq.trans ?_ (add_zero _).symm)⟩
  cases event with
  | broadcast t channel payload => exact absurd rfl (noData t channel payload)
  | attach s peer channel =>
      rw [Hub.becomes]
      split
      · rw [Topic.stats_join]
        rfl
      · rfl
  | detach s ref =>
      rw [Hub.becomes]
      split
      · cases hub.connections[ref]? with
        | none => rfl
        | some conn =>
            rw [Option.elim_some, Topic.stats_release]
            split <;> rfl
      · rfl
  | _ => rfl

/-- A chunk that is fanned out enters the books of its topic. -/
theorem enters_broadcast {hub : Hub} {topic : Topic} (here : hub.topics[s]? = some topic)
    (channel : Channel) (payload : Payload) :
    Enters
      (fun t => if s = t then
        (topic.broadcast hub.connections channel payload).1.entry payload.length else 0)
      hub (hub.step (.broadcast s channel payload)).2 := by
  intro t later next
  obtain ⟨there, present, same⟩ := Hub.topic_of_step next
  have counted : later.stats.books =
      (hub.becomes t there (.broadcast s channel payload)).stats.books :=
    congrArg (fun topic => topic.stats.books) same
  refine ⟨there, present, counted.trans ?_⟩
  rw [Hub.becomes]
  by_cases own : s = t
  · subst own
    obtain rfl := Option.some.inj (here.symm.trans present)
    simp only [if_true]
    exact Prod.ext rfl (Prod.ext (add_zero _).symm (add_zero _).symm)
  · simp only [if_neg own, add_zero]

/-- What is counted on a topic is counted on it alone. -/
theorem enters_count {f : TopicStats → TopicStats} {amount : Books}
    (adds : ∀ stats, (f stats).books = stats.books + amount) (relay : Relay) (s : Nat) :
    Enters (fun t => if s = t then amount else 0) relay.hub (relay.count s f).hub := by
  intro t later next
  have whole : (relay.count s f).hub =
      (relay.hub.onTopic s fun topic conns => ((), { topic with stats := f topic.stats }, conns)).2 :=
    rfl
  rw [whole] at next
  cases there : relay.hub.topics[s]? with
  | none =>
      rw [Hub.onTopic_of_none there] at next
      exact ⟨later, next, by simp only [if_neg (Hub.ne_of_topic next there), add_zero]⟩
  | some topic =>
      have topics : (relay.count s f).hub.topics =
          relay.hub.topics.set s { topic with stats := f topic.stats } :=
        Hub.topics_onTopic there
      have within := (List.getElem?_eq_some_iff.1 next).1
      rw [← whole, topics, List.length_set] at within
      have here := List.getElem?_eq_getElem within
      have made := Hub.topic_of_set here there
        (fun topic => { topic with stats := f topic.stats }) topics
      refine ⟨_, here, ?_⟩
      rw [Option.some.inj (next.symm.trans made)]
      by_cases own : s = t
      · simp only [if_pos own]
        exact adds _
      · simp only [if_neg own, add_zero]

namespace Booked

/-! ### One event -/

/-- The requests stay as they are and nothing enters the books. -/
theorem of_same (booked : Booked relay) (enters : Enters 0 relay.hub after.hub)
    (requests : after.requests = relay.requests) : Booked after where
  sums := by
    intro t later next
    obtain ⟨topic, here, same⟩ := enters t later next
    rw [requests, same, booked.sums t topic here]
    exact add_zero _
  honest := requests ▸ booked.honest

/-- One request changes, and what it adds to the books enters them. -/
theorem update (booked : Booked relay) (present : relay.requests[p]? = some request)
    (honest : later.session.Honest) (shares : ∀ t, later.share t = request.share t + extra t)
    (enters : Enters extra relay.hub after.hub)
    (requests : after.requests = relay.requests.set p later) : Booked after where
  sums := by
    intro t topic next
    obtain ⟨earlier, here, same⟩ := enters t topic next
    rw [requests, same, booked.sums t earlier here, sum_map_set _ present (shares t)]
  honest := by
    rw [requests]
    intro one member
    rcases List.mem_or_eq_of_mem_set member with before | rfl
    · exact booked.honest one before
    · exact honest

theorem endRequest (booked : Booked relay) (present : relay.requests[p]? = some request)
    (opened : request.isOpen = true) (ending : IngestEnd) :
    Booked (relay.endRequest p request ending) := by
  have honest : ({ request with ending := some ending } : PushRequest).session.Honest :=
    booked.honest request (List.mem_of_getElem? present)
  exact booked.update present honest (fun _ => request.share_ended opened ending)
    (enters_count TopicStats.books_ingestEnded (relay.setRequest p _) request.topic) rfl

theorem expire (booked : Booked relay) (places : List Nat) : Booked (relay.expire places) := by
  induction places generalizing relay with
  | nil => exact booked
  | cons p others ih =>
      rw [Relay.expire]
      split
      · exact ih booked
      · next request present =>
        split
        · next overdue =>
          have opened : request.isOpen = true := (of_decide_eq_true overdue).1
          exact ih (booked.endRequest present opened _)
        · exact ih booked

/-- A session starts on a topic: it has added nothing yet. -/
theorem startSession (booked : Booked relay) (l : Nat) (listener : IngestListener)
    (placed : PlacedRoute) (channel : Channel) (peer : SocketAddress) (framing : Framing) :
    Booked (relay.startSession l listener placed channel peer framing).2 := by
  unfold Relay.startSession
  split
  · exact booked
  next topic here =>
  let request : PushRequest := ⟨placed.topic, framing,
    .new listener.nextSession peer topic channel, relay.hub.now, none⟩
  let next : IngestListener := { listener with nextSession := listener.nextSession + 1 }
  have enters := enters_count TopicStats.books_ingestStarted
    { relay with
      listeners := relay.listeners.set l next
      requests := relay.requests ++ [request] } placed.topic
  constructor
  case sums =>
    intro t later present
    obtain ⟨earlier, before, same⟩ := enters t later present
    have share : request.share t = if placed.topic = t then (0, 1, 1) else 0 := by
      have nothing : (if request.session.routed then request.session.totals.traffic else 0) = 0 :=
        ite_self 0
      rw [PushRequest.share, nothing]
      rfl
    change _ = ((relay.requests ++ [request]).map (PushRequest.share t)).sum
    rw [same, booked.sums t earlier before, List.map_append, List.sum_append, List.map_singleton,
      List.sum_singleton, share]
  case honest =>
    intro one member
    rcases List.mem_append.1 member with before | last
    · exact booked.honest one before
    · rw [List.mem_singleton.1 last]
      exact ⟨fun _ => rfl, fun _ => ⟨rfl, rfl, rfl⟩⟩

theorem «open» (booked : Booked relay) (l : Nat) (peer : SocketAddress) (head : RequestHead) :
    Booked (relay.open l peer head).2 := by
  unfold Relay.open
  split
  · exact booked
  split
  · exact booked
  split
  · exact booked
  · exact booked.startSession _ _ _ _ _ _

/-- One body event enters the books of the topic of its request. -/
theorem serve (booked : Booked relay) (p : Nat) (event : BodyEvent) :
    Booked (relay.serve p event).2 := by
  unfold Relay.serve
  split
  · exact booked
  next request present =>
  have honest := booked.honest request (List.mem_of_getElem? present)
  split
  · exact booked
  next unanswered =>
  have opened : request.isOpen = true := by simpa using unanswered
  cases event with
  | ended => exact booked.endRequest present opened _
  | broken => exact booked.endRequest present opened _
  | frame data =>
      dsimp only
      split
      · have still : ({ request with lastData := relay.hub.now } : PushRequest).session.Honest :=
          honest
        exact booked.update present still (fun _ => (add_zero _).symm) (enters_refl relay.hub) rfl
      split
      · next routed =>
        cases here : relay.hub.topics[request.topic]? with
        | none =>
            have nothing : relay.hub.step (.broadcast request.topic request.session.channel data) =
                (.done, relay.hub) := by simp [Hub.step, Hub.onTopic, here]
            rw [nothing]
            exact booked
        | some topic =>
            have enters := enters_broadcast here request.session.channel data
            rw [Hub.step_broadcast here] at enters ⊢
            exact booked.update present (honest.relayed routed _ _)
              (fun _ => request.share_relayed routed _ _ _) enters rfl
      · next unrouted =>
        have nowhere : request.session.routed = false := by simpa using unrouted
        exact booked.update present (honest.discarded nowhere _)
          (fun _ => request.share_discarded nowhere _ _) (enters_refl relay.hub) rfl

/-- Something other than data happens on the hub. -/
theorem withHub (booked : Booked relay) {event : Hub.Event}
    (noData : ∀ t channel payload, event ≠ .broadcast t channel payload) :
    Booked (relay.withHub (relay.hub.step event).2) :=
  booked.of_same (enters_step noData) rfl

theorem setSubscriber (booked : Booked relay) (c : Nat) (subscriber : Subscriber) :
    Booked (relay.setSubscriber c subscriber) := ⟨booked.sums, booked.honest⟩

theorem of_turned (booked : Booked relay) {c : Nat} {task : Task}
    (turned : Turned relay c task after) : Booked after := by
  cases turned with
  | attached => exact (booked.withHub (by simp)).setSubscriber _ _
  | @ended _ _ later ref =>
      have dropped : Booked (relay.withHub (relay.hub.step (.dropQueues ref)).2) :=
        booked.withHub (by simp)
      have detached : Booked ((relay.withHub (relay.hub.step (.dropQueues ref)).2).withHub
          ((relay.hub.step (.dropQueues ref)).2.step (.detach later.topic ref)).2) :=
        dropped.withHub (by simp)
      exact detached.setSubscriber _ _
  | heard => exact booked.setSubscriber _ _
  | alive => exact (booked.withHub (by simp)).setSubscriber _ _
  | pinged => exact (booked.withHub (by simp)).setSubscriber _ _
  | wrote => exact (booked.withHub (by simp)).setSubscriber _ _

/-- Every event keeps the books in order. -/
theorem step (booked : Booked relay) (event : Event) : Booked (relay.step event) := by
  cases event with
  | «open» l peer head => exact booked.open l peer head
  | body p event => exact booked.serve p event
  | advance span =>
      have moved : Booked (relay.withHub (relay.hub.step (.advance span)).2) :=
        booked.withHub (by simp)
      exact moved.expire _
  | stopListening => exact ⟨booked.sums, booked.honest⟩
  | connect t peer handshake =>
      change Booked (relay.connect t peer handshake).2
      unfold connect
      split
      · exact booked
      split
      · exact booked
      split
      · exact booked
      · exact ⟨booked.sums, booked.honest⟩
  | arrive c inbound =>
      change Booked (relay.arrive c inbound)
      unfold arrive
      split
      · exact booked
      split
      · exact booked
      · exact booked.setSubscriber _ _
  | turn c task =>
      change Booked ((relay.turn? c task).getD relay)
      cases turn : relay.turn? c task with
      | none => exact booked
      | some after => exact booked.of_turned (turned_of_turn turn)
  | terminate c =>
      change Booked (relay.terminate c)
      unfold terminate
      split
      · exact booked
      · exact booked.withHub (by simp)
  | terminateAll t =>
      rw [step_terminateAll]
      exact booked.withHub (by simp)

/-- So does every run. -/
theorem run (booked : Booked relay) (events : List Event) : Booked (relay.run events) := by
  induction events generalizing relay with
  | nil => exact booked
  | cons event others ih => exact ih (booked.step event)

end Booked

end Relay

end LiveRelay
