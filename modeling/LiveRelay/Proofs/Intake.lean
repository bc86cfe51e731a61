/-
Module: LiveRelay.Proofs.Intake
Purpose: Everything that the body of one push request does to a relay, whatever arrives of it, with
  whatever pauses, and whatever else happens meanwhile. The relay goes on as if there were no such
  request and its data, up to its end, were broadcast by itself.
Main exports: Relay.Moment.frame?, Relay.quiet, Relay.Moment.ending?, Relay.Lasts,
  Relay.Moment.direct, Relay.Underway, Relay.Intake, Relay.body_effect
-/
import LiveRelay.Proofs.Hub.Counting
import LiveRelay.Proofs.Relay.Beside
import LiveRelay.Proofs.Relaying

namespace LiveRelay

open Net

/-- What a session adds up of the data that it has taken: all of it, and as discarded all or none. -/
structure IngestSession.Took (session : IngestSession) (frames : List Payload) : Prop where
  chunks : session.totals.chunks = UInt64.ofNat frames.length
  bytes : session.totals.bytes = UInt64.ofNat (frames.map List.length).sum
  discarded : session.totals.discarded =
    if session.routed then 0 else UInt64.ofNat frames.length

namespace IngestSession.Took

variable {session later : IngestSession} {frames : List Payload}

/-- One frame more is taken. -/
theorem append (took : session.Took frames) (data : Payload)
    (chunks : later.totals.chunks = session.totals.chunks + 1)
    (bytes : later.totals.bytes = session.totals.bytes + UInt64.ofNat data.length)
    (discarded : later.totals.discarded =
      if later.routed then 0 else UInt64.ofNat (frames.length + 1)) :
    later.Took (frames ++ [data]) where
  chunks := by
    rw [chunks, took.chunks, List.length_append, UInt64.ofNat_add]
    rfl
  bytes := by
    rw [bytes, took.bytes, List.map_append, List.sum_append, UInt64.ofNat_add, List.map_singleton,
      List.sum_singleton]
  discarded := by
    rw [discarded, List.length_append]
    rfl

theorem relay (took : session.Took frames) (routed : session.routed = true) (data : Payload)
    (report : FanOutReport) : (session.relayed data.length report).Took (frames ++ [data]) := by
  have still : (session.relayed data.length report).routed = true := routed
  refine took.append data rfl rfl ?_
  rw [still, if_pos rfl]
  exact took.discarded.trans (if_pos routed)

theorem discard (took : session.Took frames) (unrouted : session.routed = false) (data : Payload) :
    (session.discarded data.length).Took (frames ++ [data]) := by
  have still : (session.discarded data.length).routed = false := unrouted
  have all := took.discarded
  rw [unrouted, if_neg Bool.false_ne_true] at all
  refine took.append data rfl rfl ?_
  rw [still, if_neg Bool.false_ne_true, UInt64.ofNat_add, ← all]
  rfl

end IngestSession.Took

/-- The number of the answer to a request that ends, whose channel is known or not. -/
def IngestEnd.answer (known : Bool) : IngestEnd → Nat
  | .completed => if known then 200 else 404
  | .reset => 400
  | .timedOut => 408

theorem IngestSession.code_status (session : IngestSession) (ending : IngestEnd) :
    (session.status ending).code = ending.answer session.routed := by
  cases ending with
  | completed =>
      cases routed : session.routed <;> simp [status, routed, IngestEnd.answer, Status.code]
  | timedOut => rfl
  | reset => rfl

namespace Relay

/-! ### What happens to a body -/

namespace Moment

/-- The frame that arrives of the body of a request, with data or without. -/
def frame? (p : Nat) : Moment → Option Payload
  | .event (.body q (.frame data)) => if q = p then some data else none
  | _ => none

/-- How a request ends at a moment, if it has been quiet for some time until then. -/
def ending? (idle : Span) (p : Nat) (quiet : Span) (moment : Moment) : Option IngestEnd :=
  if moment = .event (.body p .ended) then some .completed
  else if moment = .event (.body p .broken) then some .reset
  else if moment.looksAt p ∧ idle ≤ quiet + moment.elapsed then some .timedOut
  else none

/-- The same moment without the request: what arrives of its body is broadcast by itself, if it is data
and the topic accepts the channel, and otherwise left out. -/
def direct (p : Nat) (feed : Feed) (moment : Moment) : List Moment :=
  match moment.frame? p with
  | none => [moment]
  | some data =>
    if data ≠ [] ∧ feed.routed then [.hub (.broadcast feed.topic feed.channel data)] else []

end Moment

/-- The data that arrives of the body of a request. Frames without data are none. -/
def framesOf (p : Nat) (moments : List Moment) : List Payload :=
  (moments.filterMap (Moment.frame? p)).filter (· ≠ [])

/-- How long nothing has arrived of a body: since its last frame, with data or without, or since its
session began. -/
def quiet (p : Nat) (moments : List Moment) : Span :=
  moments.foldl (fun quiet moment =>
    if (moment.frame? p).isSome then 0 else quiet + moment.elapsed) 0

/-- No moment ends the request. -/
def Lasts (idle : Span) (p : Nat) (moments : List Moment) : Prop :=
  ∀ before moment, before ++ [moment] <+: moments → moment.ending? idle p (quiet p before) = none

variable {relay twin : Relay} {p : Nat} {moment : Moment} {moments : List Moment} {idle span : Span}
  {data : Payload} {ending : IngestEnd} {feed : Feed} {request : PushRequest}

theorem Moment.frame?_eq_some_iff :
    moment.frame? p = some data ↔ moment = .event (.body p (.frame data)) := by
  constructor
  · intro found
    unfold frame? at found
    split at found
    · split at found
      · next own =>
        cases found
        rw [own]
      · cases found
    · cases found
  · rintro rfl
    simp [frame?]

theorem Moment.direct_of_other (still : moment.frame? p = none) :
    moment.direct p feed = [moment] := by
  rw [direct, still]

theorem Moment.direct_frame (p : Nat) (feed : Feed) (data : Payload) :
    (Moment.event (.body p (.frame data))).direct p feed =
      if data ≠ [] ∧ feed.routed then [.hub (.broadcast feed.topic feed.channel data)] else [] := by
  rw [direct, frame?_eq_some_iff.2 rfl]

theorem Moment.ending?_eq_some_iff :
    moment.ending? idle p span = some ending ↔
      moment = .event (.body p .ended) ∧ ending = .completed ∨
      moment = .event (.body p .broken) ∧ ending = .reset ∨
      moment.looksAt p = true ∧ idle ≤ span + moment.elapsed ∧ ending = .timedOut := by
  unfold ending?
  split
  · next own =>
    subst own
    simp [looksAt, eq_comm]
  split
  · next own =>
    subst own
    simp [looksAt, eq_comm]
  split
  · next finished broken silent => simp [finished, broken, silent, eq_comm]
  · next finished broken heard =>
    simp only [finished, broken, reduceCtorEq, false_and, false_or, false_iff]
    exact fun silent => heard ⟨silent.1, silent.2.1⟩

theorem Moment.ending?_eq_none_iff :
    moment.ending? idle p span = none ↔
      moment ≠ .event (.body p .ended) ∧ moment ≠ .event (.body p .broken) ∧
      (moment.looksAt p = true → span + moment.elapsed < idle) := by
  unfold ending?
  split
  · next own => simp [own]
  split
  · next own => simp [own]
  split
  · next finished broken silent =>
    simp only [reduceCtorEq, false_iff]
    exact fun heard => Nat.not_lt.2 silent.2 (heard.2.2 silent.1)
  · next finished broken heard =>
    simp only [true_iff]
    exact ⟨finished, broken, fun seen => Nat.not_le.1 fun late => heard ⟨seen, late⟩⟩

/-- What arrives of a body and does not end it is a frame. -/
theorem Moment.isOf_eq_false (still : moment.frame? p = none)
    (lasts : moment.ending? idle p span = none) : moment.isOf p = false := by
  obtain ⟨finished, broken, _⟩ := ending?_eq_none_iff.1 lasts
  rw [← Bool.not_eq_true, isOf_iff]
  rintro ⟨event, rfl⟩
  cases event with
  | ended => exact finished rfl
  | broken => exact broken rfl
  | frame data => cases (frame?_eq_some_iff.2 rfl).symm.trans still

theorem framesOf_concat (p : Nat) (moments : List Moment) (moment : Moment) :
    framesOf p (moments ++ [moment]) =
      framesOf p moments ++ (moment.frame? p).toList.filter (· ≠ []) := by
  rw [framesOf, List.filterMap_append, List.filter_append]
  cases found : moment.frame? p <;> simp [framesOf, found]

theorem quiet_concat (p : Nat) (moments : List Moment) (moment : Moment) :
    quiet p (moments ++ [moment]) =
      if (moment.frame? p).isSome then 0 else quiet p moments + moment.elapsed :=
  List.foldl_concat _ _ _ _

theorem lasts_nil : Lasts idle p [] := by
  intro before moment early
  exact absurd (List.prefix_nil.1 early) (by simp)

theorem lasts_concat_iff :
    Lasts idle p (moments ++ [moment]) ↔
      Lasts idle p moments ∧ moment.ending? idle p (quiet p moments) = none := by
  constructor
  · intro lasts
    exact ⟨fun before one early => lasts before one (early.trans (List.prefix_append _ _)),
      lasts moments moment List.prefix_rfl⟩
  · rintro ⟨lasts, last⟩ before one early
    rcases List.prefix_concat_iff.1 early with same | earlier
    · obtain ⟨rfl, single⟩ := List.append_inj' same rfl
      cases single
      exact last
    · exact lasts before one earlier

/-- A request lasts, or there is a first moment that ends it. -/
theorem lasts_or_ends (idle : Span) (p : Nat) (moments : List Moment) :
    Lasts idle p moments ∨
      ∃ lived moment others ending, moments = lived ++ moment :: others ∧ Lasts idle p lived ∧
        moment.ending? idle p (quiet p lived) = some ending := by
  induction moments using List.reverseRecOn with
  | nil => exact .inl lasts_nil
  | append_singleton moments moment ih =>
      rcases ih with lasts | ⟨lived, last, others, ending, rfl, lasts, ends⟩
      · cases ends : moment.ending? idle p (quiet p moments) with
        | none => exact .inl (lasts_concat_iff.2 ⟨lasts, ends⟩)
        | some ending => exact .inr ⟨moments, moment, [], ending, rfl, lasts, ends⟩
      · exact .inr ⟨lived, last, others ++ [moment], ending, by simp, lasts, ends⟩

/-! ### What arrives -/

section

variable (present : relay.requests[p]? = some request) (opened : request.isOpen = true)
include present opened

theorem step_ended : relay.step (.body p .ended) = relay.endRequest p request .completed := by
  change (relay.serve p _).2 = _
  simp only [serve, present, opened, Bool.true_eq_false, if_false]

theorem step_broken : relay.step (.body p .broken) = relay.endRequest p request .reset := by
  change (relay.serve p _).2 = _
  simp only [serve, present, opened, Bool.true_eq_false, if_false]

theorem step_frame_of_empty :
    relay.step (.body p (.frame [])) =
      relay.setRequest p { request with lastData := relay.hub.now } := by
  change (relay.serve p _).2 = _
  simp only [serve, present, opened, Bool.true_eq_false, if_false, if_true]

theorem step_frame_of_routed (nonempty : data ≠ []) (routed : request.session.routed = true)
    (placed : request.topic < relay.hub.topics.length) :
    ∃ report, relay.step (.body p (.frame data)) =
      (relay.undergo
          (.hub (.broadcast request.topic request.session.channel data))).setRequest p
        { request with
          lastData := relay.hub.now
          session := request.session.relayed data.length report } := by
  have fanned := Hub.step_broadcast (List.getElem?_eq_getElem placed) request.session.channel data
  refine ⟨(relay.hub.topics[request.topic].broadcast relay.hub.connections
    request.session.channel data).1, ?_⟩
  change (relay.serve p _).2 = _
  rw [undergo]
  simp only [serve, present, opened, Bool.true_eq_false, if_false, nonempty, routed, if_true, fanned]
  rfl

theorem step_frame_of_unrouted (nonempty : data ≠ []) (unrouted : request.session.routed = false) :
    relay.step (.body p (.frame data)) =
      relay.setRequest p
        { request with
          lastData := relay.hub.now
          session := request.session.discarded data.length } := by
  change (relay.serve p _).2 = _
  simp only [serve, present, opened, Bool.true_eq_false, if_false, nonempty, unrouted,
    Bool.false_eq_true]

end

/-! ### A request in progress -/

/-- A request that stands beside a relay after moments at which it lasted. -/
structure Underway (feed : Feed) (p : Nat) (moments : List Moment) (twin : Relay)
    (request : PushRequest) : Prop where
  vacant : twin.Vacant p
  placed : feed.topic < twin.hub.topics.length
  feed : request.feed = feed
  unended : request.ending = none
  silent : request.lastData + quiet p moments = twin.hub.now
  took : request.session.Took (framesOf p moments)

theorem length_topics_undergoAll (relay : Relay) (moments : List Moment) :
    (relay.undergoAll moments).hub.topics.length = relay.hub.topics.length := by
  have topics := congrArg List.length (Grows.undergoAll relay moments).topics
  rwa [List.length_map, List.length_map] at topics

namespace Underway

variable (underway : Underway feed p moments twin request)
include underway

theorem topic : request.topic = feed.topic := congrArg Feed.topic underway.feed

theorem opened : request.isOpen = true := by
  rw [PushRequest.isOpen, underway.unended]
  rfl

/-- Nothing arrives for the request. -/
theorem undergo_of_other (still : moment.frame? p = none)
    (lasts : moment.ending? twin.config.idleTimeout p (quiet p moments) = none) :
    Underway feed p (moments ++ [moment]) (twin.undergo moment) request ∧
      (twin.beside p feed.topic 1 request).undergo moment =
        (twin.undergo moment).beside p feed.topic 1 request := by
  have punctual := (Moment.ending?_eq_none_iff.1 lasts).2.2
  refine ⟨⟨underway.vacant.undergo moment, ?_, underway.feed, underway.unended, ?_, ?_⟩, ?_⟩
  · exact (length_topics_undergoAll twin [moment]).symm ▸ underway.placed
  · rw [quiet_concat, still, now_undergo, ← underway.silent]
    exact (Nat.add_assoc _ _ _).symm
  · rw [framesOf_concat, still]
    simpa using underway.took
  · refine undergo_beside underway.vacant (Moment.isOf_eq_false still lasts) fun seen _ => ?_
    rw [← underway.silent, Nat.add_assoc]
    exact Nat.add_lt_add_left (punctual seen) _

/-- A frame has arrived and is in the account of the request. -/
theorem hear {later : PushRequest} {data : Payload} (same : later.feed = request.feed)
    (unended : later.ending = request.ending) (heard : later.lastData = twin.hub.now)
    (took : later.session.Took (framesOf p moments ++ [data].filter (· ≠ []))) :
    Underway feed p (moments ++ [.event (.body p (.frame data))])
      (twin.undergoAll ((Moment.event (.body p (.frame data))).direct p feed)) later := by
  have frame : (Moment.event (.body p (.frame data))).frame? p = some data :=
    Moment.frame?_eq_some_iff.2 rfl
  refine ⟨underway.vacant.undergoAll _, ?_, same.trans underway.feed, unended.trans underway.unended,
    ?_, ?_⟩
  · rw [length_topics_undergoAll]
    exact underway.placed
  · rw [quiet_concat, frame, Option.isSome_some, if_pos rfl, heard, Moment.direct_frame]
    split
    · exact (now_undergo (.hub (.broadcast feed.topic feed.channel data))).symm
    · rfl
  · rw [framesOf_concat, frame]
    exact took

/-- A frame arrives. -/
theorem undergo_frame (data : Payload) :
    ∃ later, Underway feed p (moments ++ [.event (.body p (.frame data))])
        (twin.undergoAll ((Moment.event (.body p (.frame data))).direct p feed)) later ∧
      (twin.beside p feed.topic 1 request).undergo (.event (.body p (.frame data))) =
        (twin.undergoAll ((Moment.event (.body p (.frame data))).direct p feed)).beside p
          feed.topic 1 later := by
  have routed : request.session.routed = feed.routed := congrArg Feed.routed underway.feed
  have present : (twin.beside p feed.topic 1 request).requests[p]? = some request :=
    requests_beside_self underway.vacant
  by_cases empty : data = []
  · subst empty
    let later := { request with lastData := twin.hub.now }
    have took : later.session.Took (framesOf p moments ++ [[]].filter (· ≠ [])) := by
      simpa using underway.took
    refine ⟨later, underway.hear rfl rfl rfl took, ?_⟩
    rw [undergo, step_frame_of_empty present underway.opened, setRequest_beside_self,
      Moment.direct_frame, if_neg (by simp)]
    rfl
  have kept : [data].filter (· ≠ []) = [data] := by simp [empty]
  cases known : feed.routed with
  | false =>
      rw [known] at routed
      let later := { request with
        lastData := twin.hub.now
        session := request.session.discarded data.length }
      have took : later.session.Took (framesOf p moments ++ [data].filter (· ≠ [])) :=
        kept.symm ▸ underway.took.discard routed data
      refine ⟨later, underway.hear rfl rfl rfl took, ?_⟩
      rw [undergo, step_frame_of_unrouted present underway.opened empty routed,
        setRequest_beside_self, Moment.direct_frame, if_neg (by simp [known])]
      rfl
  | true =>
      rw [known] at routed
      have placed : request.topic < (twin.beside p feed.topic 1 request).hub.topics.length := by
        rw [underway.topic, hub_beside, Hub.fed, List.length_modify]
        exact underway.placed
      obtain ⟨report, stepped⟩ := step_frame_of_routed present underway.opened empty routed placed
      let later := { request with
        lastData := twin.hub.now
        session := request.session.relayed data.length report }
      have took : later.session.Took (framesOf p moments ++ [data].filter (· ≠ [])) :=
        kept.symm ▸ underway.took.relay routed data report
      have channel : request.session.channel = feed.channel := congrArg Feed.channel underway.feed
      have same : Hub.Event.broadcast request.topic request.session.channel data =
          .broadcast feed.topic feed.channel data := by rw [underway.topic, channel]
      refine ⟨later, underway.hear rfl rfl rfl took, ?_⟩
      rw [undergo, stepped, same, undergo, withHub_beside, setRequest_beside_self,
        Moment.direct_frame, if_pos ⟨empty, known⟩]
      rfl

/-- The request lasts. -/
theorem undergo
    (lasts : moment.ending? twin.config.idleTimeout p (quiet p moments) = none) :
    ∃ later, Underway feed p (moments ++ [moment]) (twin.undergoAll (moment.direct p feed)) later ∧
      (twin.beside p feed.topic 1 request).undergo moment =
        (twin.undergoAll (moment.direct p feed)).beside p feed.topic 1 later := by
  cases arrives : moment.frame? p with
  | some data =>
      obtain rfl := Moment.frame?_eq_some_iff.1 arrives
      exact underway.undergo_frame data
  | none =>
      rw [Moment.direct_of_other arrives]
      exact ⟨request, underway.undergo_of_other arrives lasts⟩

/-- The request ends. -/
theorem undergo_of_ending
    (ends : moment.ending? twin.config.idleTimeout p (quiet p moments) = some ending) :
    (twin.beside p feed.topic 1 request).undergo moment =
      (twin.undergo moment).beside p feed.topic 0 { request with ending := some ending } := by
  have present : (twin.beside p feed.topic 1 request).requests[p]? = some request :=
    requests_beside_self underway.vacant
  obtain ⟨ended, there, shut⟩ := id underway.vacant
  rw [← underway.topic] at present ⊢
  rcases Moment.ending?_eq_some_iff.1 ends with ⟨rfl, rfl⟩ | ⟨rfl, rfl⟩ | ⟨seen, late, rfl⟩
  · rw [Relay.undergo, Relay.undergo, step_body_of_ended there shut,
      step_ended present underway.opened, endRequest_beside_self]
  · rw [Relay.undergo, Relay.undergo, step_body_of_ended there shut,
      step_broken present underway.opened, endRequest_beside_self]
  · refine undergo_beside_of_due underway.vacant underway.opened seen ?_
    rw [← underway.silent, Nat.add_assoc]
    exact Nat.add_le_add_left late _

end Underway

/-! ### The whole body -/

/-- What becomes of a relay and of request `p` in the moments since it was opened; `twin` is the relay
without the request. Either the request lasts, or a first moment ends it and it is answered. -/
inductive Intake (idle : Span) (feed : Feed) (p : Nat) (twin : Relay) (moments : List Moment)
    (after : Relay) : Prop
  | lasting (request : PushRequest) (lasts : Lasts idle p moments)
      (same : request.feed = feed) (unended : request.ending = none)
      (took : request.session.Took (framesOf p moments))
      (beside : after =
        (twin.undergoAll (moments.flatMap (Moment.direct p feed))).beside p feed.topic 1 request)
  | ended (lived : List Moment) (last : Moment) (others : List Moment) (ending : IngestEnd)
      (request : PushRequest) (parts : moments = lived ++ last :: others)
      (lasts : Lasts idle p lived) (ends : last.ending? idle p (quiet p lived) = some ending)
      (same : request.feed = feed) (closed : request.ending = some ending)
      (answered : (request.session.status ending).code = ending.answer feed.routed)
      (took : request.session.Took (framesOf p lived))
      (beside : after =
        (twin.undergoAll (lived.flatMap (Moment.direct p feed) ++
          (last :: others).filter (!·.isOf p))).beside p feed.topic 0 request)

/-- While a request lasts, it stands beside a relay on which its data is broadcast by itself. -/
theorem underway_of_lasts (underway : Underway feed p [] twin request)
    (lasts : Lasts twin.config.idleTimeout p moments) :
    ∃ later, Underway feed p moments
        (twin.undergoAll (moments.flatMap (Moment.direct p feed))) later ∧
      (twin.beside p feed.topic 1 request).undergoAll moments =
        (twin.undergoAll (moments.flatMap (Moment.direct p feed))).beside p feed.topic 1 later := by
  -- From the end: whether the last moment ends the request depends on how quiet it was before.
  induction moments using List.reverseRecOn with
  | nil => exact ⟨request, underway, rfl⟩
  | append_singleton moments moment ih =>
      obtain ⟨earlier, last⟩ := lasts_concat_iff.1 lasts
      obtain ⟨middle, standing, reached⟩ := ih earlier
      have config := (Grows.undergoAll twin (moments.flatMap (Moment.direct p feed))).config
      rw [← config] at last
      obtain ⟨later, next, moved⟩ := standing.undergo last
      rw [List.flatMap_append, List.flatMap_singleton, undergoAll_append]
      exact ⟨later, next, by rw [undergoAll_concat, reached, moved]⟩

theorem intake_of_underway (underway : Underway feed p [] twin request) (moments : List Moment) :
    Intake twin.config.idleTimeout feed p twin moments
      ((twin.beside p feed.topic 1 request).undergoAll moments) := by
  rcases lasts_or_ends twin.config.idleTimeout p moments with
    lasts | ⟨lived, last, others, ending, rfl, lasts, ends⟩
  · obtain ⟨later, standing, reached⟩ := underway_of_lasts underway lasts
    exact .lasting later lasts standing.feed standing.unended standing.took reached
  · obtain ⟨later, standing, reached⟩ := underway_of_lasts underway lasts
    have config := (Grows.undergoAll twin (lived.flatMap (Moment.direct p feed))).config
    have answered : (later.session.status ending).code = ending.answer feed.routed :=
      (later.session.code_status ending).trans
        (congrArg (fun feed => ending.answer (Feed.routed feed)) standing.feed)
    refine .ended lived last others ending { later with ending := some ending } rfl lasts ends
      standing.feed rfl answered standing.took ?_
    rw [undergoAll_append, reached, undergoAll_append, standing.vacant.undergoAll_filter,
      undergoAll_cons, undergoAll_cons, standing.undergo_of_ending (config.symm ▸ ends)]
    exact undergoAll_beside_of_ended (standing.vacant.undergo last) rfl others

/-! ### What is left as it is -/

/-- Neither what arrives of a body nor the end of a request attaches or detaches anything. -/
theorem uncounted_undergo (own : moment.isOf p = true ∨ moment.looksAt p = true) :
    (relay.undergo moment).hub.topics.map Topic.uncounted =
      relay.hub.topics.map Topic.uncounted := by
  rcases own with arrives | seen
  · obtain ⟨event, rfl⟩ := Moment.isOf_iff.1 arrives
    cases relay.course (.body p event) with
    | counted _ counts => exact counts.topics
    | fed _ counts => exact counts.topics.trans (Hub.Continues.broadcast _ _).topics
  · cases moment with
    | hub event => cases seen
    | look places => exact (Counts.expire relay places).topics
    | event event =>
        cases event with
        | advance span =>
            exact (Counts.expire _ _).topics.trans (Hub.Continues.advance span).topics
        | _ => cases seen

/-- Without an accepted channel nothing takes the place of what arrives. -/
theorem flatMap_direct_of_unknown (unknown : feed.routed = false) (lasts : Lasts idle p moments) :
    moments.flatMap (Moment.direct p feed) = moments.filter (!·.isOf p) := by
  induction moments using List.reverseRecOn with
  | nil => rfl
  | append_singleton moments moment ih =>
      obtain ⟨earlier, last⟩ := lasts_concat_iff.1 lasts
      rw [List.flatMap_append, List.filter_append, ih earlier, List.flatMap_singleton]
      refine congrArg _ ?_
      cases arrives : moment.frame? p with
      | none =>
          rw [Moment.direct_of_other arrives]
          simp [Moment.isOf_eq_false arrives last]
      | some data =>
          obtain rfl := Moment.frame?_eq_some_iff.1 arrives
          rw [Moment.direct_frame, if_neg (by simp [unknown])]
          simp [Moment.isOf]

/-- A request on a channel that its topic does not accept stands beside whatever else happens. -/
theorem Intake.of_unknown {after : Relay} (intake : Intake idle feed p twin moments after)
    (unknown : feed.routed = false) :
    ∃ active request,
      after = (twin.undergoAll (moments.filter (!·.isOf p))).beside p feed.topic active request := by
  cases intake with
  | lasting request lasts _ _ _ beside =>
      exact ⟨1, request, flatMap_direct_of_unknown unknown lasts ▸ beside⟩
  | ended lived last others ending request parts lasts _ _ _ _ _ beside =>
      refine ⟨0, request, ?_⟩
      rw [parts, List.filter_append, ← flatMap_direct_of_unknown unknown lasts]
      exact beside

/-! ### The opening -/

variable {router : Router PlacedRoute} {config : RelayConfig} {host : Host} {started : Relay}
  {l : Nat} {listener : IngestListener} {head : RequestHead} {placed : PlacedRoute}
  {channel : Channel} {topic : Topic}

/-- The request of a source, as it starts. -/
def opening (relay : Relay) (listener : IngestListener) (peer : SocketAddress) (head : RequestHead)
    (t : Nat) (topic : Topic) (channel : Channel) : PushRequest :=
  ⟨t, head.framing, .new listener.nextSession peer topic channel, relay.hub.now, none⟩

/-- The relay on which a request is numbered as usual and is over before it starts, so that nothing
is counted. -/
def passOver (relay : Relay) (l : Nat) (listener : IngestListener) (request : PushRequest) : Relay :=
  { relay with
    listeners := relay.listeners.set l { listener with nextSession := listener.nextSession + 1 }
    requests := relay.requests ++ [{ request with ending := some .completed }] }

theorem vacant_passOver (relay : Relay) (l : Nat) (listener : IngestListener)
    (request : PushRequest) :
    (relay.passOver l listener request).Vacant relay.requests.length :=
  ⟨{ request with ending := some .completed }, List.getElem?_concat_length, rfl⟩

theorem open_eq_beside (listening : relay.listeners[l]? = some listener)
    (reachable : relay.isReachable = true)
    (admitted : listener.group.admit relay.router head = .ok (placed, channel))
    (here : relay.hub.topics[placed.topic]? = some topic) (peer : SocketAddress) :
    relay.open l peer head =
      (.started relay.requests.length,
        (relay.passOver l listener
          (relay.opening listener peer head placed.topic topic channel)).beside
            relay.requests.length placed.topic 1
            (relay.opening listener peer head placed.topic topic channel)) := by
  rw [«open», listening]
  simp only [reachable, Bool.true_eq_false, if_false, admitted, startSession, here]
  refine Prod.ext (congrArg Opened.started (by simp)) ?_
  rw [count, onTopic, Hub.count_eq]
  simp only [beside, passOver, opening, List.set_append_right _ _ (Nat.le_refl _), Nat.sub_self,
    List.set_cons_zero]
  rfl

theorem underway_of_open (here : relay.hub.topics[placed.topic]? = some topic) (l : Nat)
    (listener : IngestListener) (peer : SocketAddress) (head : RequestHead) (channel : Channel) :
    Underway ⟨placed.topic, channel, topic.isKnown channel⟩ relay.requests.length []
      (relay.passOver l listener
        (relay.opening listener peer head placed.topic topic channel))
      (relay.opening listener peer head placed.topic topic channel) where
  vacant := vacant_passOver _ _ _ _
  placed := (List.getElem?_eq_some_iff.1 here).1
  feed := rfl
  unended := rfl
  silent := rfl
  took := ⟨rfl, rfl, by simp [opening, IngestSession.new, IngestTotals.zero, framesOf]⟩

theorem config_of_startWith (begins : startWith router config host = .ok started) :
    started.config = config := by
  unfold startWith at begins
  split at begins
  · cases begins
  · cases begins
    rfl

/-- At any time a source may come to a listener where a route serves its path. Its request starts a
session on the topic of the route. Whatever arrives of its body from then on, with whatever pauses, and
whatever else happens meanwhile: the relay goes on beside it as if there were no such request, and each
frame with data that arrives before the body first ends, breaks off or has been silent for the length
of the timeout were broadcast by itself, on the topic and the channel, if the topic accepts this, and
left out otherwise. Frames without data put off the end as well. The answer is 400 after a break, 408
after silence, and at the end of the body 200 or 404, as the channel is known or not. A session that
has ended leaves the topic with one source more in all and as many as before for now. Nothing that
happens to a request attaches or detaches a connection, and a request on an unknown channel leaves
everything but these counters to what else happens. -/
theorem body_effect (picks : router.Picks) (begins : startWith router config host = .ok started)
    (past : List Moment) (reached : started.undergoAll past = relay)
    (listening : relay.listeners[l]? = some listener) (reachable : relay.isReachable = true)
    (admitted : listener.group.admit relay.router head = .ok (placed, channel))
    (peer : SocketAddress) :
    ∃ topic request after, relay.hub.topics[placed.topic]? = some topic ∧
      request = relay.opening listener peer head placed.topic topic channel ∧
      relay.open l peer head = (.started relay.requests.length, after) ∧
      ∀ moments,
        Intake config.idleTimeout ⟨placed.topic, channel, topic.isKnown channel⟩
          relay.requests.length (relay.passOver l listener request) moments
          (after.undergoAll moments) ∧
        (∀ moment, moment.isOf relay.requests.length = true ∨
            moment.looksAt relay.requests.length = true →
          ((after.undergoAll moments).undergo moment).hub.topics.map Topic.uncounted =
            (after.undergoAll moments).hub.topics.map Topic.uncounted) ∧
        (topic.isKnown channel = false → ∃ active request', after.undergoAll moments =
          ((relay.passOver l listener request).undergoAll
            (moments.filter (!·.isOf relay.requests.length))).beside relay.requests.length
              placed.topic active request') := by
  have begun := (begun_of_startWith begins).2
  have grows : started.Grows relay := reached ▸ Grows.undergoAll started past
  have configured : relay.config = config := grows.config.trans (config_of_startWith begins)
  obtain ⟨_, _, there, _⟩ := begun.served_of_admit picks grows listening admitted
  obtain ⟨topic, here, _⟩ := begun.exists_topic_of_grows grows there
  refine ⟨topic, _, _, here, rfl, open_eq_beside listening reachable admitted here peer,
    fun moments => ?_⟩
  have intake := intake_of_underway (underway_of_open here l listener peer head channel) moments
  exact ⟨configured ▸ intake, fun moment => uncounted_undergo, intake.of_unknown⟩

/-- A request for the only channel of a topic. -/
def pushToA : RequestHead := ⟨"POST", "/a", .chunked⟩

/-- A subscriber, and a source on a channel that nobody knows. -/
def beforePush : List Event :=
  [.connect 0 default ⟨"GET", "/?channel=a", [("Connection", "Upgrade"), ("Upgrade", "websocket"),
      ("Sec-WebSocket-Version", "13"), ("Sec-WebSocket-Key", "")]⟩,
    .turn 0 .attach, .open 0 default ⟨"POST", "/b", .chunked⟩]

/-- A source puts off its end by a frame without data, once comes with a frame just when its time is
over, and then falls silent. The other source finishes meanwhile. -/
def restlessSource : List Moment :=
  [.event (.body 1 (.frame [1])), .hub (.advance (Span.ofMillis 20000)),
    .event (.body 1 (.frame [])), .event (.body 0 (.frame [9, 9])), .event (.body 0 .ended),
    .hub (.advance (Span.ofMillis 20000)), .look [0, 1], .event (.body 1 (.frame [2])),
    .hub (.advance (Span.ofMillis 30000)), .event (.body 1 (.frame [3])), .look [0, 1],
    .hub (.advance (Span.ofMillis 30000)), .look [0, 1], .event (.body 1 (.frame [4]))]

/-- Three frames are taken until silence ends the request, and the other source is not found. -/
theorem body_effect_of_restlessSource :
    ∃ started, startWith search oneChannel .linked = .ok started ∧
      ∃ relay listener, ∃ topic : Topic, ∃ request after, started.run beforePush = relay ∧
        relay.open 0 default pushToA = (.started 1, after) ∧
        Intake oneChannel.idleTimeout ⟨0, "a", topic.isKnown "a"⟩ 1
          (relay.passOver 0 listener request) restlessSource (after.undergoAll restlessSource) ∧
        framesOf 1 restlessSource = [[1], [2], [3], [4]] ∧
        (after.undergoAll restlessSource).requests.map (fun request =>
          (request.session.totals.chunks, request.ending.map fun ending =>
            (request.session.status ending).code)) = [(1, some 404), (3, some 408)] ∧
        (after.undergoAll restlessSource).hub.topics.map (fun topic =>
          (topic.stats.chunksRelayed, topic.stats.ingestTotal, topic.stats.ingestActive)) =
            [(3, 2, 0)] := by
  have outcome : (startWith search oneChannel .linked).toOption.any (fun started =>
      let relay := started.run beforePush
      let after := (relay.open 0 default pushToA).2.undergoAll restlessSource
      relay.isReachable ∧ relay.requests.length = 1 ∧
        relay.listeners[0]?.any (fun listener => listener.group.admit relay.router pushToA =
          .ok (⟨.new (.ofIp (.v4 127 0 0 1) 7000) "", 0⟩, "a")) ∧
        after.requests.map (fun request =>
          (request.session.totals.chunks, request.ending.map fun ending =>
            (request.session.status ending).code)) = [(1, some 404), (3, some 408)] ∧
        after.hub.topics.map (fun topic =>
          (topic.stats.chunksRelayed, topic.stats.ingestTotal, topic.stats.ingestActive)) =
            [(3, 2, 0)]) = true := by decide +kernel
  obtain ⟨started, begins, evaluated⟩ := exists_started outcome
  obtain ⟨reachable, one, listed, answers, counts⟩ := of_decide_eq_true evaluated
  generalize reached : started.run beforePush = relay at reachable one listed answers counts
  obtain ⟨listener, listening, admitted⟩ := (Option.any_eq_true _ _).1 listed
  obtain ⟨topic, request, after, here, _, opened, all⟩ :=
    body_effect search_picks begins (beforePush.map .event)
      ((undergoAll_event started beforePush).trans reached) listening reachable
      (of_decide_eq_true admitted) default
  rw [one] at opened all
  simp only [opened] at answers counts
  exact ⟨started, begins, relay, listener, topic, request, after, reached, opened,
    (all restlessSource).1, by decide, answers, counts⟩

end Relay

end LiveRelay
