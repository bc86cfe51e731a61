/-
Module: LiveRelay.Proofs.Delivery
Purpose: What a connection has received, followed by what still waits for it, is what was broadcast
  to it: each payload once, in the order of the broadcasts, and nothing else.
Main exports: Hub.receivedFrom, Hub.dueTo, Hub.received_append_waiting
-/
import LiveRelay.Proofs.Connection.Outbound

namespace LiveRelay

open Net

namespace Hub

/-! ### The two sides of the account of a connection -/

/-- The payload that an answer hands to the reader of a connection. -/
def handed? (ref : ConnRef) : Event × Outcome → Option Payload
  | (.receive other, .received (.item payload)) => if other = ref then some payload else none
  | _ => none

/-- All that a run hands to the reader of a connection. -/
def receivedFrom (hub : Hub) (ref : ConnRef) (events : List Event) : List Payload :=
  (events.zip (hub.run events).1).filterMap (handed? ref)

/-- What waits for a connection, if it is there. -/
def waiting (hub : Hub) (ref : ConnRef) : List Payload :=
  hub.connections[ref]?.elim [] Connection.waiting

/-- Whether a connection takes what is broadcast on a channel of a topic at this moment: it asked
for the channel on this topic, the topic accepts the channel, the connection is open, and fewer
payloads wait for it than the topic has room for. -/
def takes (hub : Hub) (home : Attachment) (ref : ConnRef) (t : Nat) (channel : Channel) : Bool :=
  decide (home.topic = t ∧ home.channel = some channel) &&
    hub.topics[t]?.any fun topic => topic.isKnown channel &&
      hub.connections[ref]?.any fun conn =>
        conn.isOpen && decide (conn.waiting.length < max topic.queueCapacity 1)

/-- The payload of an event that is a broadcast which a connection takes. -/
def due? (hub : Hub) (home : Attachment) (ref : ConnRef) : Event → Option Payload
  | .broadcast t channel payload => if hub.takes home ref t channel then some payload else none
  | _ => none

/-- The payloads of all broadcasts of a run that a connection takes. -/
def dueTo (hub : Hub) (home : Attachment) (ref : ConnRef) : List Event → List Payload
  | [] => []
  | event :: events =>
    (hub.due? home ref event).toList ++ (hub.step event).2.dueTo home ref events

/-- Nobody has dropped the queues of a connection. -/
def attended (hub : Hub) (ref : ConnRef) : Prop :=
  ∀ conn, hub.connections[ref]? = some conn → conn.queues.isSome

/-- A connection that reads too slowly, among data for others, until it is terminated. -/
def slowReader : List Event :=
  [.attach 0 default (some "a"), .attach 1 default (some "a"), .broadcast 0 "a" [1],
    .broadcast 1 "a" [9], .broadcast 0 "b" [8], .broadcast 0 "a" [2], .broadcast 0 "a" [3],
    .receive 0, .probe 0, .broadcast 0 "a" [4], .detach 1 1, .terminate 0, .broadcast 0 "a" [5]]

variable {homes : List Attachment} {hub : Hub} {ref : ConnRef} {home : Attachment}
  {conn : Connection} {events : List Event}

theorem receivedFrom_cons (hub : Hub) (ref : ConnRef) (event : Event) (events : List Event) :
    hub.receivedFrom ref (event :: events) =
      (handed? ref (event, (hub.step event).1)).toList ++
        (hub.step event).2.receivedFrom ref events := by
  rw [receivedFrom, run_cons, List.zip_cons_cons, List.filterMap_cons]
  cases handed? ref (event, (hub.step event).1) <;> rfl

theorem waiting_of_present (present : hub.connections[ref]? = some conn) :
    hub.waiting ref = conn.outbound?.getD [] := by
  rw [waiting, present, Option.elim_some, Connection.waiting_eq]

theorem attended_of_present (present : hub.connections[ref]? = some conn) :
    hub.attended ref ↔ conn.outbound? ≠ none := by
  simp [attended, Connection.outbound?, present, Option.isSome_iff_ne_none]

/-! ### One event -/

/-- A connection takes a broadcast exactly if data on the channel concerns it, its topic accepts the
channel, and it is open and has room. -/
theorem At.takes_iff {topic : Topic} (spot : At homes hub ref home topic conn)
    (sound : Sound homes hub) (t : Nat) (channel : Channel) :
    hub.takes home ref t channel = true ↔
      (t = home.topic ∧ home.channel = some channel) ∧ hub.subscribes home = true ∧
        conn.state = .open ∧ conn.waiting.length < conn.capacity := by
  have capacity : conn.capacity = max topic.queueCapacity 1 :=
    ((sound.indexed _ _ spot.here).made ref conn.bond home spot.housed spot.found).2.2.1
  rw [takes, spot.subscribes, capacity, Bool.and_eq_true, decide_eq_true_eq]
  constructor
  · rintro ⟨⟨rfl, asked⟩, rest⟩
    rw [spot.here, Option.any_some, spot.present, Option.any_some] at rest
    simp only [Connection.isOpen, Bool.and_eq_true, decide_eq_true_eq] at rest
    rw [asked, Option.any_some]
    exact ⟨⟨rfl, rfl⟩, rest⟩
  · rintro ⟨⟨rfl, asked⟩, known, opened, room⟩
    rw [asked, Option.any_some] at known
    refine ⟨⟨rfl, asked⟩, ?_⟩
    rw [spot.here, Option.any_some, spot.present, Option.any_some, known]
    simp [Connection.isOpen, opened, room]

theorem isQuiet_of_mem_concernsOf {event : Event} {concern : Concern}
    (noData : ∀ t channel payload, event ≠ .broadcast t channel payload)
    (noRead : event ≠ .receive ref) (noDrop : event ≠ .dropQueues ref)
    (member : concern ∈ hub.concernsOf home ref event) : concern.isQuiet = true := by
  cases event with
  | advance span =>
      obtain ⟨_, rfl⟩ := List.mem_replicate.1 member
      rfl
  | broadcast t channel payload => exact absurd rfl (noData t channel payload)
  | _ => grind [concernsOf, Concern.ofEvent?, Concern.isQuiet]

theorem handed?_eq_none {event : Event} (noRead : event ≠ .receive ref) (outcome : Outcome) :
    handed? ref (event, outcome) = none := by
  cases event with
  | receive other =>
      have different : other ≠ ref := fun same => noRead (same ▸ rfl)
      unfold handed?
      split
      · next same =>
        cases same
        rw [if_neg different]
      · rfl
  | _ => rfl

theorem due?_eq_none {event : Event}
    (noData : ∀ t channel payload, event ≠ .broadcast t channel payload) :
    hub.due? home ref event = none := by
  cases event with
  | broadcast t channel payload => exact absurd rfl (noData t channel payload)
  | _ => rfl

/-- A broadcast adds to what waits for a connection exactly what is due to it. -/
theorem Holds.broadcast_account (holds : Holds homes hub ref home conn) (sound : Sound homes hub)
    {waits : List Payload} (attended : conn.outbound? = some waits) (t : Nat) (channel : Channel)
    (payload : Payload) :
    ((hub.concernsOf home ref (.broadcast t channel payload)).foldl
      (Connection.undergo (hub.subscribes home)) conn).outbound? =
        some (waits ++ (hub.due? home ref (.broadcast t channel payload)).toList) := by
  obtain ⟨topic, spot⟩ := holds.spot sound
  have takes := spot.takes_iff sound t channel
  have length : conn.waiting = waits := by rw [Connection.waiting_eq, attended, Option.getD_some]
  rw [length] at takes
  by_cases asked : t = home.topic ∧ home.channel = some channel
  · have concern : hub.concernsOf home ref (.broadcast t channel payload) =
        [.broadcast payload] := by
      simp [concernsOf, Concern.ofEvent?, asked]
    rw [concern, List.foldl_cons, List.foldl_nil, Connection.undergo]
    by_cases known : hub.subscribes home = true
    · rw [if_pos known, Connection.outbound?_trySend attended, due?]
      by_cases reached : conn.state = .open ∧ waits.length < conn.capacity
      · rw [if_pos reached, if_pos (takes.2 ⟨asked, known, reached⟩)]
        rfl
      · rw [if_neg reached, if_neg fun taken => reached (takes.1 taken).2.2]
        rfl
    · rw [if_neg known, due?, if_neg fun taken => known (takes.1 taken).2.1, attended]
      simp
  · have concern : hub.concernsOf home ref (.broadcast t channel payload) = [] := by
      simp [concernsOf, Concern.ofEvent?, asked]
    rw [concern, due?, if_neg fun taken => asked (takes.1 taken).1]
    simpa using attended

/-- What becomes of the account of a connection at one event while somebody reads its queues: what
is handed to the reader and what then waits is what waited and what is due. -/
theorem Holds.account_step (holds : Holds homes hub ref home conn) (sound : Sound homes hub)
    (event : Event) (atHome : ∀ t, event = .detach t ref → home.topic = t)
    (attended : (hub.step event).2.attended ref) :
    (handed? ref (event, (hub.step event).1)).toList ++ (hub.step event).2.waiting ref =
      hub.waiting ref ++ (hub.due? home ref event).toList := by
  have next := (holds.step sound event atHome).present
  rw [attended_of_present next] at attended
  have read : conn.outbound? ≠ none := fun gone =>
    attended (Connection.outbound?_foldl_of_none _ gone _)
  obtain ⟨waits, present⟩ := Option.ne_none_iff_exists'.1 read
  rw [waiting_of_present next, waiting_of_present holds.present, present, Option.getD_some]
  by_cases noData : ∀ t channel payload, event ≠ .broadcast t channel payload
  · rw [due?_eq_none noData, Option.toList_none, List.append_nil]
    by_cases reads : event = .receive ref
    · subst reads
      have concern : hub.concernsOf home ref (.receive ref) = [.receive] := by
        simp [concernsOf, Concern.ofEvent?]
      rw [concern, List.foldl_cons, List.foldl_nil, Connection.undergo, outcome_receive,
        holds.present, Option.elim_some]
      rcases Connection.receive_of_outbound present with
        ⟨rfl, nothing, rest⟩ | ⟨payload, others, rfl, first, rest⟩
      · rw [nothing, rest]
        rfl
      · rw [first, rest]
        simp [handed?]
    · have drops : event ≠ .dropQueues ref := by
        rintro rfl
        apply attended
        simp [concernsOf, Concern.ofEvent?, Connection.undergo, Connection.dropQueues,
          Connection.outbound?]
      rw [handed?_eq_none reads, Option.toList_none, List.nil_append, Connection.outbound?_foldl,
        present, Option.getD_some]
      intro concern member
      exact isQuiet_of_mem_concernsOf noData reads drops member
  · obtain ⟨t, channel, payload, rfl⟩ : ∃ t channel payload,
        event = .broadcast t channel payload := by
      simpa using noData
    rw [holds.broadcast_account sound present, Option.getD_some]
    rfl

/-- Once its queues are dropped, a connection has nothing and is handed nothing. -/
theorem Holds.account_gone (holds : Holds homes hub ref home conn) (sound : Sound homes hub)
    (event : Event) (atHome : ∀ t, event = .detach t ref → home.topic = t)
    (gone : ¬ (hub.step event).2.attended ref) :
    (handed? ref (event, (hub.step event).1)).toList ++ (hub.step event).2.waiting ref = [] := by
  have next := (holds.step sound event atHome).present
  rw [attended_of_present next, not_not] at gone
  rw [waiting_of_present next, gone, Option.getD_none, List.append_nil]
  by_cases reads : event = .receive ref
  · subst reads
    have concern : hub.concernsOf home ref (.receive ref) = [.receive] := by
      simp [concernsOf, Concern.ofEvent?]
    rw [concern, List.foldl_cons, List.foldl_nil, Connection.undergo] at gone
    rw [outcome_receive, holds.present, Option.elim_some]
    cases present : conn.outbound? with
    | none =>
        rw [Connection.receive_of_none present]
        rfl
    | some waits =>
        rcases Connection.receive_of_outbound present with ⟨_, _, rest⟩ | ⟨_, _, _, _, rest⟩
        · cases gone.symm.trans rest
        · cases gone.symm.trans rest
  · rw [handed?_eq_none reads]
    rfl

/-- Before a connection is there, nothing is handed to it or due to it. It begins with nothing. -/
theorem account_absent (home : Attachment) (absent : hub.connections[ref]? = none)
    (sound : Sound homes hub) {event : Event}
    (next : Sound (homes ++ (hub.attachment? event).toList) (hub.step event).2) :
    handed? ref (event, (hub.step event).1) = none ∧ hub.due? home ref event = none ∧
      (hub.step event).2.waiting ref = [] := by
  refine ⟨?_, ?_, ?_⟩
  · by_cases reads : event = .receive ref
    · subst reads
      rw [outcome_receive, absent]
      rfl
    · exact handed?_eq_none reads _
  · cases event with
    | broadcast t channel payload => simp [due?, takes, absent]
    | _ => rfl
  · have beyond : hub.connections.length ≤ ref := List.getElem?_eq_none_iff.1 absent
    rw [waiting]
    cases attaches : hub.attachment? event with
    | none =>
        have even := next.even
        rw [attaches, Option.toList_none, List.append_nil, sound.even] at even
        rw [List.getElem?_eq_none (even ▸ beyond)]
        rfl
    | some home =>
        cases event with
        | attach t peer channel =>
            cases here : hub.topics[t]? with
            | none => rw [step_attach_of_none here, absent]; rfl
            | some topic =>
                rw [step_attach here, List.getElem?_append_right beyond]
                cases ref - hub.connections.length <;> rfl
        | _ => cases attaches

/-! ### Runs -/

/-- Queues that are there at the end of a run were there all along. -/
theorem attended_of_run (sound : Sound homes hub)
    (orderly : Orderly (homes ++ hub.attachments events) events)
    (attended : (hub.run events).2.attended ref) : hub.attended ref := by
  intro conn present
  obtain ⟨home, holds⟩ := sound.holds present
  have later := holds.run sound orderly
  rw [attended_of_present later] at attended
  refine (attended_of_present present).2 (fun gone => ?_) conn present
  exact attended (Connection.outbound?_foldl_of_none _ gone _)

/-- The account of a connection at the first event of a run, whether it is there already or not. -/
theorem account_next {event : Event} (sound : Sound homes hub)
    (orderly : Orderly (homes ++ hub.attachments (event :: events)) (event :: events))
    (found : (homes ++ hub.attachments (event :: events))[ref]? = some home) :
    ((hub.step event).2.attended ref →
      (handed? ref (event, (hub.step event).1)).toList ++ (hub.step event).2.waiting ref =
        hub.waiting ref ++ (hub.due? home ref event).toList) ∧
    ((handed? ref (event, (hub.step event).1)).toList ++ (hub.step event).2.waiting ref).Sublist
      (hub.waiting ref ++ (hub.due? home ref event).toList) := by
  cases present : hub.connections[ref]? with
  | none =>
      obtain ⟨unread, undue, empty⟩ := account_absent home present sound (sound.next orderly)
      have before : hub.waiting ref = [] := by rw [waiting, present, Option.elim_none]
      rw [unread, undue, empty, before]
      exact ⟨fun _ => rfl, .refl _⟩
  | some conn =>
      obtain ⟨_, holds⟩ := sound.holds present
      rw [List.getElem?_append_left (List.getElem?_eq_some_iff.1 holds.found).1, holds.found]
        at found
      obtain rfl := Option.some.inj found
      have atHome := orderly.detached holds.found
      refine ⟨holds.account_step sound event atHome, ?_⟩
      by_cases attended : (hub.step event).2.attended ref
      · rw [holds.account_step sound event atHome attended]
      · rw [holds.account_gone sound event atHome attended]
        exact List.nil_sublist _

/-- The account of a connection over a run. -/
theorem account_run (sound : Sound homes hub)
    (orderly : Orderly (homes ++ hub.attachments events) events)
    (found : (homes ++ hub.attachments events)[ref]? = some home) :
    ((hub.run events).2.attended ref →
      hub.receivedFrom ref events ++ (hub.run events).2.waiting ref =
        hub.waiting ref ++ hub.dueTo home ref events) ∧
    (hub.receivedFrom ref events ++ (hub.run events).2.waiting ref).Sublist
      (hub.waiting ref ++ hub.dueTo home ref events) := by
  induction events generalizing homes hub with
  | nil =>
      have same : hub.receivedFrom ref [] ++ (hub.run []).2.waiting ref =
          hub.waiting ref ++ hub.dueTo home ref [] := (List.append_nil _).symm
      rw [same]
      exact ⟨fun _ => rfl, .refl _⟩
  | cons event others ih =>
      obtain ⟨exact, within⟩ := account_next sound orderly found
      have foundLater := found
      rw [attachments_cons, ← List.append_assoc, ← attachments_step hub event] at foundLater
      obtain ⟨exactLater, withinLater⟩ := ih (sound.next orderly) orderly.tail foundLater
      rw [receivedFrom_cons, run_cons, dueTo, List.append_assoc,
        ← List.append_assoc (hub.waiting ref)]
      constructor
      · intro attended
        rw [exactLater attended, ← List.append_assoc,
          exact (attended_of_run (sound.next orderly) orderly.tail attended)]
      · refine (List.Sublist.append_left withinLater _).trans ?_
        rw [← List.append_assoc]
        exact within.append_right _

/-- What is due to a connection was broadcast on its topic and its channel, and its topic accepts
the channel. -/
theorem broadcast_of_mem_dueTo {payload : Payload}
    (member : payload ∈ hub.dueTo home ref events) :
    hub.subscribes home = true ∧ ∃ channel, home.channel = some channel ∧
      Event.broadcast home.topic channel payload ∈ events := by
  induction events generalizing hub with
  | nil => cases member
  | cons event others ih =>
      rcases List.mem_append.1 member with first | later
      · cases event with
        | broadcast t channel data =>
            rw [Option.mem_toList, due?] at first
            obtain ⟨taken, rfl⟩ : hub.takes home ref t channel = true ∧ data = payload := by
              simpa using first
            simp only [takes, Bool.and_eq_true, decide_eq_true_eq] at taken
            obtain ⟨⟨rfl, asked⟩, known⟩ := taken
            refine ⟨?_, channel, asked, List.mem_cons_self⟩
            obtain ⟨topic, here, known, _⟩ : ∃ topic, hub.topics[home.topic]? = some topic ∧
                topic.isKnown channel = true ∧ _ := by
              simpa [Option.any_eq_true] using known
            rw [subscribes, here, Option.any_some, asked, Option.any_some, known]
        | _ => cases first
      · obtain ⟨known, channel, asked, broadcast⟩ := ih later
        rw [subscribes_step] at known
        exact ⟨known, channel, asked, List.mem_cons_of_mem _ broadcast⟩

/-- In every run of a hub, what a connection has received followed by what waits for it is, as long
as its queues are there, exactly what was broadcast on its topic and its channel while it was open
and had room, each payload once and in the order of the broadcasts. Nothing else ever gets to it,
and nothing at all if its topic does not accept the channel that it asked for. -/
theorem received_append_waiting (fresh : hub.Fresh)
    (orderly : Orderly (hub.attachments events) events)
    (found : (hub.attachments events)[ref]? = some home) :
    ∃ conn, (hub.run events).2.connections[ref]? = some conn ∧
      (conn.queues.isSome →
        hub.receivedFrom ref events ++ conn.waiting = hub.dueTo home ref events) ∧
      (hub.subscribes home = false → hub.receivedFrom ref events ++ conn.waiting = []) ∧
      ∀ payload ∈ hub.receivedFrom ref events ++ conn.waiting,
        ∃ channel, home.channel = some channel ∧
          Event.broadcast home.topic channel payload ∈ events := by
  obtain ⟨exact, within⟩ := account_run fresh.sound (by simpa using orderly) (by simpa using found)
  have nothing : hub.waiting ref = [] := by rw [waiting, fresh.connections]; rfl
  have within_run : ref < (hub.run events).2.connections.length := by
    rw [← (fresh.sound_run orderly).even]
    exact (List.getElem?_eq_some_iff.1 found).1
  have present := List.getElem?_eq_getElem within_run
  have final : (hub.run events).2.waiting ref = (hub.run events).2.connections[ref].waiting := by
    rw [waiting, present, Option.elim_some]
  rw [nothing, List.nil_append, final] at exact within
  refine ⟨_, present, fun kept => exact ?_, fun unknown => ?_, fun payload member => ?_⟩
  · intro conn same
    obtain rfl := Option.some.inj (present.symm.trans same)
    exact kept
  · rw [List.eq_nil_iff_forall_not_mem]
    intro payload member
    have known := (broadcast_of_mem_dueTo (within.subset member)).1
    rw [unknown] at known
    cases known
  · exact (broadcast_of_mem_dueTo (within.subset member)).2

/-- A connection with room for two payloads takes the first two of three, and another one once it
has received the first. -/
theorem received_append_waiting_of_slow_reader :
    (Hub.new .twoTopics).Fresh ∧ Orderly ((Hub.new .twoTopics).attachments slowReader) slowReader ∧
      ((Hub.new .twoTopics).attachments slowReader)[0]? = some ⟨0, default, some "a"⟩ ∧
      ((Hub.new .twoTopics).dueTo ⟨0, default, some "a"⟩ 0 slowReader = [[1], [2], [4]]) ∧
      ∃ conn, ((Hub.new .twoTopics).run slowReader).2.connections[0]? = some conn ∧
        (conn.queues.isSome → (Hub.new .twoTopics).receivedFrom 0 slowReader ++ conn.waiting =
          (Hub.new .twoTopics).dueTo ⟨0, default, some "a"⟩ 0 slowReader) := by
  have orderly : Orderly ((Hub.new .twoTopics).attachments slowReader) slowReader := by
    decide
  have found : ((Hub.new .twoTopics).attachments slowReader)[0]? =
      some ⟨0, default, some "a"⟩ := by decide
  obtain ⟨conn, present, exact, _⟩ := received_append_waiting (fresh_new .twoTopics) orderly found
  exact ⟨fresh_new _, orderly, found, by decide +kernel, conn, present, exact⟩

end Hub

end LiveRelay
