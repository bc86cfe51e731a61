/-
Module: LiveRelay.Proofs.Relaying
Purpose: Relaying from end to end. In every run of a relay, a subscriber receives chunks that sources
  delivered on its topic and its channel while it was attached, in their order and each once, and
  all of them where its queue always had room, it has not ended and its tasks have done their work.
Main exports: Relay.chunk?, Relay.chunks, Relay.neverFull, Relay.received_chunks
-/
import LiveRelay.Proofs.Relay.Account
import LiveRelay.Proofs.Relay.Requests

namespace LiveRelay

open Net

namespace Relay

/-- The chunk that an event delivers for a subscriber: data arrives for a request in progress that
feeds the topic and the channel of the subscriber, while the subscriber is attached. -/
def chunk? (relay : Relay) (c : Nat) : Event → Option Payload
  | .body p (.frame data) =>
    relay.requests[p]?.bind fun request =>
      (relay.connectionOf? c).bind fun (subscriber, _, _) =>
        if request.isOpen ∧ data ≠ [] ∧ subscriber.topic = request.topic ∧
          subscriber.channel = some request.session.channel then some data
        else none
  | _ => none

/-- The chunks that the events of a run deliver for a subscriber, one after another. -/
def chunks (relay : Relay) (c : Nat) : List Event → List Payload
  | [] => []
  | event :: others => (relay.chunk? c event).toList ++ (relay.step event).chunks c others

/-- Whether the queue of a subscriber has room for each chunk that a run delivers for it. -/
def neverFull (relay : Relay) (c : Nat) : List Event → Bool
  | [] => true
  | event :: others =>
    ((relay.chunk? c event).isNone || relay.hasRoom c) && (relay.step event).neverFull c others

/-- Of a subscriber, if it is there, it is known whether its topic accepts the channel that it asked
for. -/
def Judged (relay : Relay) (config : RelayConfig) (c : Nat) (accepted : Bool) : Prop :=
  ∀ subscriber, relay.subscribers[c]? = some subscriber →
    config.accepts subscriber.topic subscriber.channel = accepted

variable {router : Router PlacedRoute} {config : RelayConfig} {host : Host}
  {started relay after : Relay} {c : Nat} {event : Event} {events : List Event}
  {subscriber : Subscriber} {payload : Payload} {accepted : Bool}

theorem chunks_concat (relay : Relay) (c : Nat) (events : List Event) (event : Event) :
    relay.chunks c (events ++ [event]) =
      relay.chunks c events ++ ((relay.run events).chunk? c event).toList := by
  induction events generalizing relay with
  | nil => exact List.append_nil _
  | cons first others ih =>
      rw [List.cons_append, chunks, ih, chunks, List.append_assoc]
      rfl

theorem neverFull_concat (relay : Relay) (c : Nat) (events : List Event) (event : Event) :
    relay.neverFull c (events ++ [event]) = true ↔
      relay.neverFull c events = true ∧
        (((relay.run events).chunk? c event).isNone = true ∨
          (relay.run events).hasRoom c = true) := by
  induction events generalizing relay with
  | nil => simp [neverFull, run]
  | cons first others ih =>
      simp only [List.cons_append, neverFull, Bool.and_eq_true, ih, and_assoc]
      rfl

/-! ### What is delivered and what is offered -/

/-- A chunk that is delivered for a subscriber was sent by a source on its topic and its channel. -/
theorem exists_request_of_chunk? (delivers : relay.chunk? c event = some payload) :
    ∃ p request subscriber ref conn, event = .body p (.frame payload) ∧ payload ≠ [] ∧
      relay.requests[p]? = some request ∧
      relay.connectionOf? c = some (subscriber, ref, conn) ∧
      subscriber.topic = request.topic ∧ subscriber.channel = some request.session.channel := by
  unfold chunk? at delivers
  split at delivers
  · next p data =>
    obtain ⟨request, present, delivers⟩ := Option.bind_eq_some_iff.1 delivers
    obtain ⟨⟨subscriber, ref, conn⟩, attached, delivers⟩ := Option.bind_eq_some_iff.1 delivers
    obtain ⟨⟨_, nonempty, feeds⟩, same⟩ := Option.ite_none_right_eq_some.1 delivers
    cases same
    exact ⟨p, request, subscriber, ref, conn, rfl, nonempty, present, attached, feeds⟩
  · cases delivers

/-- What is offered to a subscriber is what is delivered for it, as far as its topic accepts the
channel that it asked for. -/
theorem offered?_eq
    (routed : ∀ (p : Nat) (request : PushRequest), relay.requests[p]? = some request →
      request.session.routed = config.accepts request.topic (some request.session.channel))
    (judged : relay.Judged config c accepted) :
    relay.offered? c event = if accepted then relay.chunk? c event else none := by
  cases event with
  | body p arriving =>
      cases arriving with
      | frame data =>
          cases present : relay.requests[p]? with
          | none => simp [offered?, broadcast?, chunk?, present]
          | some request =>
          cases attached : relay.connectionOf? c with
          | none => simp [offered?, chunk?, attached]
          | some found =>
          obtain ⟨subscriber, ref, conn⟩ := found
          simp only [offered?, broadcast?, chunk?, present, attached, Option.bind_some]
          by_cases feeds : subscriber.topic = request.topic ∧
              subscriber.channel = some request.session.channel
          · -- Here what the source was told of the channel meets what the subscriber was told.
            have known : request.session.routed = accepted := by
              rw [routed p request present, ← feeds.1, ← feeds.2]
              exact judged subscriber (connectionOf?_eq_some_iff.1 attached).1
            cases accepted with
            | false => simp [known]
            | true =>
              by_cases sends : request.isOpen = true ∧ data ≠ []
              · simp [known, feeds, sends]
              · simp [known, feeds, sends]
          · by_cases sends : request.isOpen = true ∧ data ≠ [] ∧ request.session.routed = true
            · simp [feeds, sends]
            · simp [feeds, sends]
      | _ => exact (ite_self _).symm
  | _ => exact (ite_self _).symm

/-! ### Runs -/

/-- What a subscriber asked for never changes, and neither does the answer to it. -/
theorem judged_of_grows (grows : relay.Grows after) (judged : after.Judged config c accepted) :
    relay.Judged config c accepted := by
  intro subscriber present
  obtain ⟨later, there, home⟩ := grows.home present
  have topic : later.topic = subscriber.topic := congrArg Attachment.topic home
  have channel : later.channel = subscriber.channel := congrArg Attachment.channel home
  rw [← topic, ← channel]
  exact judged later there

theorem Begun.account (begun : Begun router config host started) (c : Nat) :
    started.account c = [] :=
  account_of_none (by rw [begun.subscribers]; rfl)

/-- At each moment of a run, what is offered to a subscriber is what is delivered for it, as far as
its topic accepts the channel that it asked for. -/
theorem offered?_of_run (begun : Begun router config host started) (picks : router.Picks)
    (judged : (started.run events).Judged config c accepted) :
    (started.run events).offered? c event =
      if accepted then (started.run events).chunk? c event else none :=
  offered?_eq (fun _ _ present => (starts_of_request begun picks present).1) judged

/-- What a subscriber has received and what waits for it are chunks that were delivered for it, in
their order and each once, and nothing at all if its topic does not accept the channel that it asked
for. -/
theorem account_sublist (begun : Begun router config host started) (picks : router.Picks)
    (judged : (started.run events).Judged config c accepted) :
    ((started.run events).account c).Sublist
      (if accepted then started.chunks c events else []) := by
  -- From the end of the run, where it is known what is there when the last event happens.
  induction events using List.reverseRecOn with
  | nil =>
      change (started.account c).Sublist _
      rw [begun.account]
      exact List.nil_sublist _
  | append_singleton events event ih =>
      rw [run_concat] at judged ⊢
      have earlier := judged_of_grows (Grows.step (started.run events) event) judged
      obtain ⟨more, linked⟩ := begun.linked.run events
      have within : (((started.run events).step event).account c).Sublist
          ((started.run events).account c ++ ((started.run events).offered? c event).toList) := by
        rcases account_next linked (fate linked c event) with same | ⟨_, _, less⟩
        · rw [same]
          split
          · exact .refl _
          · exact List.Sublist.append_left (List.nil_sublist _) _
        · exact less.trans (List.sublist_append_left _ _)
      rw [offered?_of_run begun picks earlier] at within
      refine within.trans ?_
      cases accepted with
      | true =>
          rw [if_pos rfl, if_pos rfl, chunks_concat]
          exact (ih earlier).append (.refl _)
      | false =>
          rw [if_neg Bool.false_ne_true, Option.toList_none, List.append_nil]
          exact ih earlier

/-- A subscriber that thrives until the end of a run, and whose queue had room for each chunk, has
received or is still to receive all chunks that were delivered for it. -/
theorem account_eq_chunks (begun : Begun router config host started) (picks : router.Picks)
    (judged : (started.run events).Judged config c true)
    (few : (started.run events).hub.connections.length < UInt64.size)
    (thrives : (started.run events).Thrives c) (room : started.neverFull c events = true) :
    (started.run events).account c = started.chunks c events := by
  induction events using List.reverseRecOn with
  | nil => exact begun.account c
  | append_singleton events event ih =>
      rw [run_concat] at judged few thrives ⊢
      obtain ⟨roomBefore, roomNow⟩ := (neverFull_concat started c events event).1 room
      have earlier := judged_of_grows (Grows.step (started.run events) event) judged
      obtain ⟨homes, linked⟩ := begun.linked.run events
      obtain ⟨more, next⟩ := linked.step event
      have total := next.tidy.even
      rw [List.length_append] at total
      have fewer : ([] ++ homes).length < UInt64.size := by omega
      have becomes := fate linked c event
      have thriven := thrives_of_fate becomes thrives
      have before := ih earlier (linked.tidy.even ▸ fewer) thriven roomBefore
      have offers : (started.run events).offered? c event = (started.run events).chunk? c event :=
        offered?_of_run begun picks earlier
      rcases account_next linked becomes with same | ⟨_, ⟨_, later, _, _, there, ended, _⟩, _⟩
      · rw [same, before, chunks_concat, offers]
        cases delivers : (started.run events).chunk? c event with
        | none => rw [Option.toList_none, ite_self]
        | some payload =>
            obtain ⟨_, _, subscriber, ref, conn, _, _, _, attached, _⟩ :=
              exists_request_of_chunk? delivers
            have roomy : (started.run events).hasRoom c = true := by
              simpa [delivers] using roomNow
            have accepted : (started.run events).hub.subscribes subscriber.home = true := by
              rw [subscribes_of_grows begun (Grows.run started events)]
              exact earlier subscriber (connectionOf?_eq_some_iff.1 attached).1
            rw [if_pos (takes_of_thrives linked fewer thriven attached accepted roomy)]
      · -- A subscriber that thrives until the end has not ended on the way.
        exact absurd (thrives later there).1 ended

/-- In every run of a relay that starts, with any sources and any subscribers: what a subscriber has
received are chunks that sources delivered on its topic and its channel while it was attached, in
their order and each once, and nothing at all if its topic does not accept the channel that it asked
for, or it asked for none. They are all of these chunks if its queue had room for each of them, it
has not ended, its tasks have nothing left to do, and the numbers of connections have not run out.
Each of these chunks is the data of one event, is not empty, and was sent by a source that a listener
admitted to a route of the topic, where the path names the channel. Whatever else happens, probes and
pings among it, leaves what the subscriber has received and what waits for it as they are, unless it
ends, and then it keeps what it has received. -/
theorem received_chunks (picks : router.Picks)
    (begins : startWith router config host = .ok started) (events : List Event) (c : Nat)
    (subscriber : Subscriber)
    (present : (started.run events).subscribers[c]? = some subscriber) :
    subscriber.received.Sublist (started.chunks c events) ∧
    (config.accepts subscriber.topic subscriber.channel = false → subscriber.received = []) ∧
    (config.accepts subscriber.topic subscriber.channel = true → subscriber.ending = none →
      (∀ task, (started.run events).turn? c task = none) →
      started.neverFull c events = true →
      (started.run events).hub.connections.length < UInt64.size →
      subscriber.received = started.chunks c events) ∧
    (∀ before event after payload, events = before ++ event :: after →
      (started.run before).chunk? c event = some payload →
      payload ≠ [] ∧ ∃ p channel, event = .body p (.frame payload) ∧
        subscriber.channel = some channel ∧
        ∃ earlier opening later, before = earlier ++ opening :: later ∧
          config.Starts (started.run earlier) p subscriber.topic channel opening) ∧
    (∀ before event after, events = before ++ event :: after →
      (started.run before).chunk? c event = none →
      (started.run (before ++ [event])).account c = (started.run before).account c ∨
        (event = .turn c .read ∨ event = .turn c .reap) ∧
          (started.run before).Ends c (started.run (before ++ [event]))) := by
  have begun := (begun_of_startWith begins).2
  obtain ⟨homes, linked⟩ := begun.linked.run events
  have judged (accepted : Bool)
      (answer : config.accepts subscriber.topic subscriber.channel = accepted) :
      (started.run events).Judged config c accepted := by
    intro one here
    cases present.symm.trans here
    exact answer
  -- What is received is the first part of the account.
  have received : subscriber.received.Sublist ((started.run events).account c) := by
    rw [account, present]
    exact List.sublist_append_left _ _
  have earlier {before after : List Event} {event : Event}
      (whole : events = before ++ event :: after) :
      (started.run before).Grows (started.run events) := by
    rw [whole, run_append]
    exact Grows.run _ _
  refine ⟨?_, fun unknown => ?_, fun known unended settled room few => ?_, ?_, ?_⟩
  · refine received.trans ((account_sublist begun picks (judged _ rfl)).trans ?_)
    split
    · exact .refl _
    · exact List.nil_sublist _
  · exact List.sublist_nil.1 (received.trans (account_sublist begun picks (judged _ unknown)))
  · obtain ⟨ref, conn, attached, running⟩ :=
      linked.attended present unended fun task _ => settled task
    have nothing := linked.waiting_eq_nil attached (settled .write)
    have thrives : (started.run events).Thrives c := by
      intro one here
      cases present.symm.trans here
      refine ⟨unended, fun place other own => ?_⟩
      cases attached.symm.trans own
      exact running
    rw [← account_eq_chunks begun picks (judged _ known) few thrives room,
      account_of_attached attached, nothing, List.append_nil]
  · intro before event after payload whole delivers
    obtain ⟨p, request, one, ref, conn, same, nonempty, requested, attached, topic, channel⟩ :=
      exists_request_of_chunk? delivers
    obtain ⟨later, there, home⟩ := (earlier whole).home (connectionOf?_eq_some_iff.1 attached).1
    cases present.symm.trans there
    obtain ⟨_, first, opening, last, parts, starts⟩ := starts_of_request begun picks requested
    have own : subscriber.topic = request.topic := (congrArg Attachment.topic home).trans topic
    refine ⟨nonempty, p, request.session.channel, same,
      (congrArg Attachment.channel home).trans channel, first, opening, last, parts, ?_⟩
    rw [own]
    exact starts
  · intro before event after whole silent
    obtain ⟨more, linked⟩ := begun.linked.run before
    have unoffered : (started.run before).offered? c event = none := by
      rw [offered?_of_run begun picks (judged_of_grows (earlier whole) (judged _ rfl)), silent,
        ite_self]
    rw [run_concat]
    rcases account_next linked (fate linked c event) with same | ⟨turn, ends, _⟩
    · left
      rw [same, unoffered, Option.toList_none, ite_self, List.append_nil]
    · exact .inr ⟨turn, ends⟩

/-- One topic with one channel and one listener for sources. -/
def oneChannel : RelayConfig :=
  { RelayConfig.standard with
    topics := [⟨"one", .ofIp (.v4 127 0 0 1) 0, .ofList ["a"],
      [.new (.ofIp (.v4 127 0 0 1) 7000) ""]⟩] }

/-- A subscriber of a channel, a source on it and another one on a channel that nobody knows. A ping
falls due while data waits. -/
def pingedInBetween : List Event :=
  [.connect 0 default ⟨"GET", "/?channel=a", [("Connection", "Upgrade"), ("Upgrade", "websocket"),
      ("Sec-WebSocket-Version", "13"), ("Sec-WebSocket-Key", "")]⟩,
    .turn 0 .attach, .open 0 default ⟨"POST", "/a", .chunked⟩,
    .open 0 default ⟨"POST", "/b", .chunked⟩, .body 0 (.frame [1]), .body 1 (.frame [9]),
    .advance (Span.ofMillis 2000), .body 0 (.frame []), .body 0 (.frame [2]), .turn 0 .write,
    .turn 0 .write, .turn 0 .write]

/-- The subscriber receives what the one source pushed, and a ping before it. -/
theorem received_chunks_of_oneChannel :
    ∃ started, startWith search oneChannel .linked = .ok started ∧
      ∃ subscriber, (started.run pingedInBetween).subscribers[0]? = some subscriber ∧
        subscriber.written = [.ping, .data [1], .data [2]] ∧
        started.chunks 0 pingedInBetween = [[1], [2]] ∧
        subscriber.received = started.chunks 0 pingedInBetween := by
  have outcome : (startWith search oneChannel .linked).toOption.any (fun started =>
      (started.run pingedInBetween).subscribers[0]?.any (fun subscriber =>
        subscriber.topic = 0 ∧ subscriber.channel = some "a" ∧ subscriber.ending = none ∧
          subscriber.written = [.ping, .data [1], .data [2]]) ∧
      (∀ task ∈ [Task.attach, .reap, .read, .write],
        ((started.run pingedInBetween).turn? 0 task).isNone) ∧
      started.neverFull 0 pingedInBetween ∧
      (started.run pingedInBetween).hub.connections.length = 1 ∧
      started.chunks 0 pingedInBetween = [[1], [2]]) = true := by decide +kernel
  obtain ⟨started, made, outcome⟩ := (Option.any_eq_true _ _).1 outcome
  have begins : startWith search oneChannel .linked = .ok started := by
    cases begun : startWith search oneChannel .linked with
    | error fault =>
        rw [begun] at made
        cases made
    | ok other =>
        rw [begun] at made
        exact congrArg Except.ok (Option.some.inj made)
  obtain ⟨joined, idle, room, one, delivered⟩ := of_decide_eq_true outcome
  obtain ⟨subscriber, present, asked⟩ := (Option.any_eq_true _ _).1 joined
  obtain ⟨topic, channel, unended, written⟩ := of_decide_eq_true asked
  have settled (task : Task) : (started.run pingedInBetween).turn? 0 task = none := by
    refine Option.isNone_iff_eq_none.1 (idle task ?_)
    cases task <;> decide
  have accepted : oneChannel.accepts subscriber.topic subscriber.channel = true := by
    rw [topic, channel]
    decide
  have few : (started.run pingedInBetween).hub.connections.length < UInt64.size := by
    rw [one]
    decide
  have all := (received_chunks search_picks begins pingedInBetween 0 subscriber present).2.2.1
    accepted unended settled room few
  exact ⟨started, begins, subscriber, present, written, delivered, all⟩

end Relay

end LiveRelay
