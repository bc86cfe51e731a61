/-
Module: LiveRelay.Proofs.Relay.Beside
Purpose: A relay with one request more does what it does without the request, as long as nothing
  happens to this one: beside the request itself, only what is counted of sources is different.
Main exports: Relay.beside, Relay.Vacant, Relay.Vacant.undergoAll, Relay.undergo_beside,
  Relay.endRequest_beside_self, Relay.expire_beside_of_overdue
-/
import LiveRelay.Proofs.Hub.Fed
import LiveRelay.Proofs.Relay.Moments

namespace LiveRelay

open Net

namespace Relay

variable {relay twin after : Relay} {p q t s : Nat} {active : UInt64} {request later : PushRequest}

/-! ### A request that has ended -/

/-- At some place stands a request that has ended. -/
def Vacant (relay : Relay) (p : Nat) : Prop :=
  ∃ ended, relay.requests[p]? = some ended ∧ ended.isOpen = false

namespace Vacant

theorem lt (vacant : relay.Vacant p) : p < relay.requests.length :=
  (List.getElem?_eq_some_iff.1 vacant.choose_spec.1).1

theorem congr (vacant : relay.Vacant p) (same : after.requests[p]? = relay.requests[p]?) :
    after.Vacant p := by
  unfold Vacant
  rw [same]
  exact vacant

/-- Nothing that is done to a request that is in progress touches one that has ended. -/
theorem set (vacant : relay.Vacant p) (present : relay.requests[q]? = some request)
    (opened : request.isOpen = true) (same : after.requests = relay.requests.set q later) :
    after.Vacant p := by
  obtain ⟨ended, there, shut⟩ := vacant
  have other : q ≠ p := by
    rintro rfl
    cases present.symm.trans there
    exact absurd opened (Bool.eq_false_iff.1 shut)
  refine Vacant.congr ⟨ended, there, shut⟩ ?_
  rw [same, List.getElem?_set_ne other]

theorem expire (vacant : relay.Vacant p) (places : List Nat) : (relay.expire places).Vacant p := by
  induction places generalizing relay with
  | nil => exact vacant
  | cons q others ih =>
      rw [Relay.expire]
      split
      · exact ih vacant
      next request present =>
      split
      · next overdue => exact ih (vacant.set present (of_decide_eq_true overdue).1 rfl)
      · exact ih vacant

theorem body (vacant : relay.Vacant p) (q : Nat) (event : BodyEvent) :
    (relay.serve q event).2.Vacant p := by
  unfold serve
  split
  · exact vacant
  next request present =>
  split
  · exact vacant
  next unended =>
  have opened : request.isOpen = true := by simpa using unended
  cases event with
  | ended => exact vacant.set present opened rfl
  | broken => exact vacant.set present opened rfl
  | frame data =>
      dsimp only
      split
      · exact vacant.set present opened rfl
      split
      · split
        · exact vacant.set present opened rfl
        · exact vacant.congr rfl
      · exact vacant.set present opened rfl

/-- What has ended stays so, whatever happens. -/
theorem step (vacant : relay.Vacant p) (event : Event) : (relay.step event).Vacant p := by
  cases event with
  | «open» l peer head =>
      change (relay.open l peer head).2.Vacant p
      unfold «open»
      split
      · exact vacant
      split
      · exact vacant
      split
      · exact vacant
      unfold startSession
      split
      · exact vacant
      · exact vacant.congr (List.getElem?_append_left vacant.lt)
  | body q event => exact vacant.body q event
  | connect t peer handshake =>
      change (relay.connect t peer handshake).2.Vacant p
      unfold connect
      split
      · exact vacant
      split
      · exact vacant
      split
      · exact vacant
      · exact vacant.congr rfl
  | arrive c inbound =>
      change (relay.arrive c inbound).Vacant p
      unfold arrive
      split
      · exact vacant
      split
      · exact vacant
      · exact vacant.congr rfl
  | turn c task =>
      change ((relay.turn? c task).getD relay).Vacant p
      cases turn : relay.turn? c task with
      | none => exact vacant
      | some after => cases turned_of_turn turn <;> exact vacant.congr rfl
  | terminate c =>
      change (relay.terminate c).Vacant p
      unfold terminate
      split
      · exact vacant
      · exact vacant.congr rfl
  | terminateAll t =>
      rw [step_terminateAll]
      exact vacant.congr rfl
  | advance span =>
      have moved : (relay.withHub (relay.hub.advance span)).Vacant p := vacant.congr rfl
      exact moved.expire _
  | stopListening => exact vacant.congr rfl

theorem undergo (vacant : relay.Vacant p) (moment : Moment) : (relay.undergo moment).Vacant p := by
  cases moment with
  | event event => exact vacant.step event
  | hub event => exact vacant.congr rfl
  | look places => exact vacant.expire places

theorem undergoAll (vacant : relay.Vacant p) (moments : List Moment) :
    (relay.undergoAll moments).Vacant p := by
  induction moments generalizing relay with
  | nil => exact vacant
  | cons moment others ih => exact ih (vacant.undergo moment)

end Vacant

/-! ### One request more -/

/-- The relay with another request at a place, and one source more that its topic has counted. -/
def beside (twin : Relay) (p t : Nat) (active : UInt64) (request : PushRequest) : Relay :=
  { twin with
    hub := twin.hub.fed t 1 active
    requests := twin.requests.set p request }

@[simp] theorem hub_beside : (twin.beside p t active request).hub = twin.hub.fed t 1 active := rfl

@[simp] theorem router_beside : (twin.beside p t active request).router = twin.router := rfl

@[simp] theorem listeners_beside : (twin.beside p t active request).listeners = twin.listeners := rfl

@[simp] theorem subscribers_beside :
    (twin.beside p t active request).subscribers = twin.subscribers := rfl

@[simp] theorem isReachable_beside :
    (twin.beside p t active request).isReachable = twin.isReachable := rfl

@[simp] theorem length_requests_beside :
    (twin.beside p t active request).requests.length = twin.requests.length :=
  List.length_set

theorem requests_beside_self (vacant : twin.Vacant p) :
    (twin.beside p t active request).requests[p]? = some request :=
  List.getElem?_set_self vacant.lt

theorem requests_beside_of_ne (other : q ≠ p) :
    (twin.beside p t active request).requests[q]? = twin.requests[q]? :=
  List.getElem?_set_ne other.symm

theorem setRequest_beside (other : q ≠ p) :
    (twin.beside p t active request).setRequest q later =
      (twin.setRequest q later).beside p t active request := by
  simp only [beside, setRequest, List.set_comm _ _ other.symm]

theorem setRequest_beside_self :
    (twin.beside p t active request).setRequest p later = twin.beside p t active later := by
  simp only [beside, setRequest, List.set_set]

theorem withHub_beside (event : Hub.Event) :
    (twin.beside p t active request).withHub
        ((twin.beside p t active request).hub.step event).2 =
      (twin.withHub (twin.hub.step event).2).beside p t active request := by
  simp only [beside, withHub, Hub.step_fed]

/-! ### Counting -/

/-- What is counted does not depend on how many sources were counted before. -/
theorem count_beside {f : TopicStats → TopicStats}
    (adds : ∀ {stats : TopicStats} {total active : UInt64},
      f (stats.fed total active) = (f stats).fed total active) :
    (twin.beside p t active request).count s f = (twin.count s f).beside p t active request := by
  have blind : Hub.TakesNoNotice fun topic conns =>
      ((), { topic with stats := f topic.stats }, conns) := by
    intro total active topic conns
    simp only [Topic.fed, adds]
  simp only [beside, count, onTopic, Hub.onTopic_fed blind]

theorem endRequest_beside (other : q ≠ p) (ending : IngestEnd) :
    (twin.beside p t active request).endRequest q later ending =
      (twin.endRequest q later ending).beside p t active request := by
  rw [endRequest, setRequest_beside other, count_beside TopicStats.ingestEnded_fed]
  rfl

/-- The request itself ends, and its topic has one source less. -/
theorem endRequest_beside_self (ending : IngestEnd) :
    (twin.beside p request.topic 1 later).endRequest p request ending =
      twin.beside p request.topic 0 { request with ending := some ending } := by
  rw [endRequest, setRequest_beside_self, count, onTopic, Hub.count_eq]
  simp only [beside, Hub.fed, List.modify_modify_eq]
  refine congrArg (fun f => ({ twin with
    hub := { twin.hub with topics := twin.hub.topics.modify request.topic f }
    requests := _ } : Relay)) (funext fun topic => ?_)
  exact congrArg (fun stats => { topic with stats := stats }) TopicStats.ingestEnded_fed_one

/-! ### Sources -/

theorem serve_beside (other : q ≠ p) (event : BodyEvent) :
    (twin.beside p t active request).serve q event =
      ((twin.serve q event).1, (twin.serve q event).2.beside p t active request) := by
  unfold serve
  rw [requests_beside_of_ne other]
  cases twin.requests[q]? with
  | none => rfl
  | some found =>
      dsimp only
      split
      · rfl
      cases event with
      | ended => simp only [endRequest_beside other]
      | broken => simp only [endRequest_beside other]
      | frame data =>
          dsimp only
          split
          · rw [setRequest_beside other]
            rfl
          split
          · simp only [hub_beside, Hub.step_fed]
            cases twin.hub.step (.broadcast found.topic found.session.channel data) with
            | mk outcome hub =>
            cases outcome with
            | fannedOut report =>
                change (_, ((twin.withHub hub).beside p t active request).setRequest q _) = _
                rw [setRequest_beside other]
                rfl
            | _ => rfl
          · rw [setRequest_beside other]
            rfl

theorem startSession_beside (within : p < twin.requests.length) (l : Nat)
    (listener : IngestListener) (placed : PlacedRoute) (channel : Channel) (peer : SocketAddress)
    (framing : Framing) :
    ((twin.beside p t active request).startSession l listener placed channel peer framing).2 =
      (twin.startSession l listener placed channel peer framing).2.beside p t active request := by
  simp only [startSession, hub_beside, Hub.getElem?_topics_fed]
  cases twin.hub.topics[placed.topic]? with
  | none => rfl
  | some topic =>
      have same : IngestSession.new listener.nextSession peer
          (if t = placed.topic then topic.fed 1 active else topic) channel =
            IngestSession.new listener.nextSession peer topic channel := by
        split <;> rfl
      simp only [Option.map_some, same]
      rw [← count_beside TopicStats.ingestStarted_fed]
      simp only [beside, List.set_append_left _ _ within]
      rfl

theorem open_beside (within : p < twin.requests.length) (l : Nat) (peer : SocketAddress)
    (head : RequestHead) :
    ((twin.beside p t active request).open l peer head).2 =
      (twin.open l peer head).2.beside p t active request := by
  simp only [«open», listeners_beside, isReachable_beside, router_beside]
  cases twin.listeners[l]? with
  | none => rfl
  | some listener =>
      by_cases cut : twin.isReachable = false
      · simp only [cut, if_true]
      simp only [cut]
      cases listener.group.admit twin.router head with
      | error status => rfl
      | ok found => exact startSession_beside within l listener found.1 found.2 peer head.framing

theorem connect_beside (s : Nat) (peer : SocketAddress) (handshake : Handshake) :
    ((twin.beside p t active request).connect s peer handshake).2 =
      (twin.connect s peer handshake).2.beside p t active request := by
  simp only [connect, hub_beside, Hub.getElem?_topics_fed, isReachable_beside]
  cases twin.hub.topics[s]? with
  | none => rfl
  | some topic =>
      have same : (if t = s then topic.fed 1 active else topic).answerHandshake handshake =
          topic.answerHandshake handshake := by
        split <;> rfl
      simp only [Option.map_some, same]
      split
      · rfl
      cases topic.answerHandshake handshake <;> rfl

/-! ### Subscribers -/

theorem arrive_beside (c : Nat) (inbound : Inbound) :
    (twin.beside p t active request).arrive c inbound =
      (twin.arrive c inbound).beside p t active request := by
  simp only [arrive, subscribers_beside]
  cases twin.subscribers[c]? with
  | none => rfl
  | some subscriber =>
      dsimp only
      split <;> rfl

theorem connectionOf?_beside (c : Nat) :
    (twin.beside p t active request).connectionOf? c = twin.connectionOf? c := rfl

theorem endSubscriber_beside {c : Nat} {subscriber : Subscriber} {ref : ConnRef}
    {reason : CloseReason} :
    (twin.beside p t active request).endSubscriber c subscriber ref reason =
      (twin.endSubscriber c subscriber ref reason).beside p t active request := by
  simp only [endSubscriber, hub_beside, Hub.step_fed]
  rfl

theorem attach?_beside (c : Nat) :
    (twin.beside p t active request).attach? c =
      (twin.attach? c).map (·.beside p t active request) := by
  simp only [attach?, subscribers_beside, hub_beside, Hub.step_fed]
  cases twin.subscribers[c]? with
  | none => rfl
  | some subscriber =>
      dsimp only
      split
      · rfl
      cases twin.hub.step (.attach subscriber.topic subscriber.peer subscriber.channel) with
      | mk outcome hub => cases outcome <;> rfl

theorem reap?_beside (c : Nat) :
    (twin.beside p t active request).reap? c =
      (twin.reap? c).map (·.beside p t active request) := by
  simp only [reap?, connectionOf?_beside, endSubscriber_beside]
  cases twin.connectionOf? c with
  | none => rfl
  | some found =>
      dsimp only
      split <;> rfl

theorem read?_beside (c : Nat) :
    (twin.beside p t active request).read? c =
      (twin.read? c).map (·.beside p t active request) := by
  simp only [read?, connectionOf?_beside, endSubscriber_beside, hub_beside, Hub.step_fed]
  cases twin.connectionOf? c with
  | none => rfl
  | some found =>
      dsimp only
      split
      · rfl
      · rfl
      · split <;> rfl

theorem write?_beside (c : Nat) :
    (twin.beside p t active request).write? c =
      (twin.write? c).map (·.beside p t active request) := by
  simp only [write?, connectionOf?_beside, hub_beside, Hub.step_fed]
  cases twin.connectionOf? c with
  | none => rfl
  | some found =>
      obtain ⟨subscriber, ref, conn⟩ := found
      dsimp only
      cases twin.hub.step (.receiveControl ref) with
      | mk control later =>
      cases twin.hub.step (.receive ref) with
      | mk data after =>
      -- What is written hangs on these two outcomes alone.
      rcases control with _ | _ | _ | _ | _ | _ | (_ | _ | _) <;>
        rcases data with _ | _ | _ | _ | _ | (_ | _ | _) | _ <;> rfl

theorem turn?_beside (c : Nat) (task : Task) :
    (twin.beside p t active request).turn? c task =
      (twin.turn? c task).map (·.beside p t active request) := by
  cases task with
  | attach => exact attach?_beside c
  | reap => exact reap?_beside c
  | read => exact read?_beside c
  | write => exact write?_beside c

theorem terminate_beside (c : Nat) :
    (twin.beside p t active request).terminate c =
      (twin.terminate c).beside p t active request := by
  simp only [terminate, connectionOf?_beside]
  cases twin.connectionOf? c <;> rfl

/-! ### Silent sources -/

theorem isOverdue_endRequest (ending : IngestEnd) :
    (relay.endRequest q later ending).isOverdue request = relay.isOverdue request := by
  have now : (relay.endRequest q later ending).hub.now = relay.hub.now := now_count _
  rw [isOverdue, isOverdue, now]
  rfl

theorem Vacant.not_overdue {ended : PushRequest} (vacant : relay.Vacant p)
    (present : relay.requests[p]? = some ended) : relay.isOverdue ended = false := by
  obtain ⟨one, there, shut⟩ := vacant
  cases there.symm.trans present
  simp [isOverdue, shut]

/-- A look does not see the request, or it is not silent for too long: it goes on. -/
theorem expire_beside (vacant : twin.Vacant p) {places : List Nat}
    (kept : p ∈ places → twin.isOverdue request = false) :
    (twin.beside p t active request).expire places =
      (twin.expire places).beside p t active request := by
  induction places generalizing twin with
  | nil => rfl
  | cons q others ih =>
      have rest : p ∈ others → twin.isOverdue request = false :=
        fun member => kept (List.mem_cons_of_mem q member)
      by_cases own : q = p
      · subst own
        obtain ⟨ended, there, _⟩ := id vacant
        rw [expire, expire, requests_beside_self vacant, there]
        have punctual : (twin.beside q t active request).isOverdue request = false :=
          kept List.mem_cons_self
        simp only [punctual, vacant.not_overdue there, Bool.false_eq_true, if_false]
        exact ih vacant rest
      · rw [expire, expire, requests_beside_of_ne own]
        cases present : twin.requests[q]? with
        | none => exact ih vacant rest
        | some other =>
            have same : (twin.beside p t active request).isOverdue other = twin.isOverdue other :=
              rfl
            simp only [same]
            split
            · next overdue =>
              rw [endRequest_beside own]
              refine ih (vacant.set present (of_decide_eq_true overdue).1 rfl) fun member => ?_
              rw [isOverdue_endRequest]
              exact rest member
            · exact ih vacant rest

/-- A look sees the request when it is silent for too long: it ends. -/
theorem expire_beside_of_overdue (vacant : twin.Vacant p) {places : List Nat} (seen : p ∈ places)
    (overdue : twin.isOverdue request = true) :
    (twin.beside p request.topic 1 request).expire places =
      (twin.expire places).beside p request.topic 0
        { request with ending := some .timedOut } := by
  induction places generalizing twin with
  | nil => exact absurd seen List.not_mem_nil
  | cons q others ih =>
      by_cases own : q = p
      · subst own
        obtain ⟨ended, there, _⟩ := id vacant
        rw [expire, expire, requests_beside_self vacant, there]
        have silent : (twin.beside q request.topic 1 request).isOverdue request = true :=
          overdue
        simp only [silent, if_true, vacant.not_overdue there, Bool.false_eq_true, if_false]
        rw [endRequest_beside_self]
        -- What has ended is not seen again further on.
        exact expire_beside vacant fun _ => rfl
      · have further : p ∈ others := (List.mem_cons.1 seen).resolve_left (Ne.symm own)
        rw [expire, expire, requests_beside_of_ne own]
        cases present : twin.requests[q]? with
        | none => exact ih vacant further overdue
        | some other =>
            have same : (twin.beside p request.topic 1 request).isOverdue other =
                twin.isOverdue other := rfl
            simp only [same]
            split
            · next also =>
              rw [endRequest_beside own]
              refine ih (vacant.set present (of_decide_eq_true also).1 rfl) further ?_
              rw [isOverdue_endRequest]
              exact overdue
            · exact ih vacant further overdue

/-! ### Every moment -/

/-- Whether something arrives of the body of a request. -/
def Moment.isOf (p : Nat) : Moment → Bool
  | .event (.body q _) => q = p
  | _ => false

/-- Whether a moment looks after the source of a request. -/
def Moment.looksAt (p : Nat) : Moment → Bool
  | .event (.advance _) => true
  | .look places => p ∈ places
  | _ => false

variable {moment : Moment}

theorem Moment.isOf_iff : moment.isOf p = true ↔ ∃ event, moment = .event (.body p event) := by
  constructor
  · intro own
    unfold isOf at own
    split at own
    · next q event =>
      obtain rfl := of_decide_eq_true own
      exact ⟨event, rfl⟩
    · cases own
  · rintro ⟨event, rfl⟩
    exact decide_eq_true rfl

theorem isOverdue_eq_false (punctual : request.isOpen = true →
    relay.hub.now < request.lastData + relay.config.idleTimeout) :
    relay.isOverdue request = false := by
  rw [isOverdue, decide_eq_false_iff_not]
  exact fun overdue => absurd (punctual overdue.1) (Nat.not_lt.2 overdue.2)

/-- A moment at which nothing arrives for the request, and its silence is not too long or not seen. -/
theorem undergo_beside (vacant : twin.Vacant p)
    (elsewhere : moment.isOf p = false)
    (punctual : moment.looksAt p = true → request.isOpen = true →
      twin.hub.now + moment.elapsed < request.lastData + twin.config.idleTimeout) :
    (twin.beside p t active request).undergo moment =
      (twin.undergo moment).beside p t active request := by
  cases moment with
  | hub event => exact withHub_beside event
  | look places =>
      exact expire_beside vacant fun seen => isOverdue_eq_false (punctual (decide_eq_true seen))
  | event event =>
      cases event with
      | «open» l peer head => exact open_beside vacant.lt l peer head
      | body q event =>
          exact congrArg Prod.snd (serve_beside (of_decide_eq_false elsewhere) event)
      | connect s peer handshake => exact connect_beside s peer handshake
      | arrive c inbound => exact arrive_beside c inbound
      | turn c task =>
          change ((twin.beside p t active request).turn? c task).getD _ =
            ((twin.turn? c task).getD twin).beside p t active request
          rw [turn?_beside]
          cases twin.turn? c task <;> rfl
      | terminate c => exact terminate_beside c
      | terminateAll s =>
          rw [undergo, undergo, step_terminateAll, step_terminateAll, withHub_beside]
      | stopListening => rfl
      | advance span =>
          have moved : (twin.withHub (twin.hub.advance span)).Vacant p := vacant.congr rfl
          change (twin.beside p t active request).advance span =
            (twin.advance span).beside p t active request
          rw [advance, advance, length_requests_beside, hub_beside, Hub.advance_fed]
          refine expire_beside moved fun _ => isOverdue_eq_false fun opened => ?_
          exact (Hub.now_advance twin.hub span).symm ▸ punctual rfl opened

/-- A moment at which the request is seen to be silent for too long. -/
theorem undergo_beside_of_due (vacant : twin.Vacant p) (opened : request.isOpen = true)
    (seen : moment.looksAt p = true)
    (due : request.lastData + twin.config.idleTimeout ≤ twin.hub.now + moment.elapsed) :
    (twin.beside p request.topic 1 request).undergo moment =
      (twin.undergo moment).beside p request.topic 0
        { request with ending := some .timedOut } := by
  cases moment with
  | hub event => cases seen
  | look places =>
      exact expire_beside_of_overdue vacant (of_decide_eq_true seen) (decide_eq_true ⟨opened, due⟩)
  | event event =>
      cases event with
      | advance span =>
          have moved : (twin.withHub (twin.hub.advance span)).Vacant p := vacant.congr rfl
          change (twin.beside p request.topic 1 request).advance span =
            (twin.advance span).beside p request.topic 0 _
          rw [advance, advance, length_requests_beside, hub_beside, Hub.advance_fed]
          refine expire_beside_of_overdue moved (List.mem_range.2 vacant.lt)
            (decide_eq_true ⟨opened, ?_⟩)
          exact (Hub.now_advance twin.hub span).symm ▸ due
      | _ => cases seen

/-- What arrives for a request that has ended changes nothing. -/
theorem step_body_of_ended (present : relay.requests[p]? = some request)
    (shut : request.isOpen = false) (event : BodyEvent) : relay.step (.body p event) = relay := by
  change (relay.serve p event).2 = relay
  simp only [serve, present, shut, if_true]

theorem Vacant.undergo_isOf (vacant : relay.Vacant p) (own : moment.isOf p = true) :
    relay.undergo moment = relay := by
  obtain ⟨event, rfl⟩ := Moment.isOf_iff.1 own
  obtain ⟨ended, there, shut⟩ := vacant
  exact step_body_of_ended there shut event

/-- What arrives for a request that has ended may as well be left out. -/
theorem Vacant.undergoAll_filter (vacant : relay.Vacant p) (moments : List Moment) :
    relay.undergoAll (moments.filter (!·.isOf p)) = relay.undergoAll moments := by
  induction moments generalizing relay with
  | nil => rfl
  | cons moment others ih =>
      rw [List.filter_cons, undergoAll_cons]
      split
      · exact ih (vacant.undergo moment)
      · next own => rw [ih vacant, vacant.undergo_isOf (by simpa using own)]

/-- Beside a relay a request that has ended stays as it is, whatever happens. -/
theorem undergo_beside_of_ended (vacant : twin.Vacant p) (shut : request.isOpen = false)
    (moment : Moment) :
    (twin.beside p t active request).undergo moment =
      (twin.undergo moment).beside p t active request := by
  cases own : moment.isOf p with
  | true =>
      rw [vacant.undergo_isOf own]
      obtain ⟨event, rfl⟩ := Moment.isOf_iff.1 own
      exact step_body_of_ended (requests_beside_self vacant) shut event
  | false =>
      exact undergo_beside vacant own fun _ opened => absurd opened (Bool.eq_false_iff.1 shut)

theorem undergoAll_beside_of_ended (vacant : twin.Vacant p) (shut : request.isOpen = false)
    (moments : List Moment) :
    (twin.beside p t active request).undergoAll moments =
      (twin.undergoAll moments).beside p t active request := by
  induction moments generalizing twin with
  | nil => rfl
  | cons moment others ih =>
      rw [undergoAll_cons, undergoAll_cons, undergo_beside_of_ended vacant shut,
        ih (vacant.undergo moment)]

end Relay

end LiveRelay
