/-
Module: LiveRelay.Proofs.Liveness
Purpose: Which connections a probe round terminates, told from what happened before it, and that the
  counters tell the same.
Main exports: Hub.roundTerminates, SilentSinceRound, MarkedBetweenRounds, Life.liveness
-/
import LiveRelay.Proofs.Connection.Signs
import LiveRelay.Proofs.Hub.Life
import Mathlib.Data.List.Induction

namespace LiveRelay

open Net Hub

namespace Hub

/-! ### Rounds and what they find -/

/-- Whether a connection is there and terminated. -/
def isTerminated (hub : Hub) (ref : ConnRef) : Bool := hub.connections[ref]?.any (·.terminated)

/-- Whether a probe round of a topic, run now, terminates a connection. -/
def roundTerminates (hub : Hub) (t : Nat) (ref : ConnRef) : Bool :=
  !hub.isTerminated ref && (hub.step (.probe t)).2.isTerminated ref

/-- Whether a topic tracks a connection. -/
def tracks (hub : Hub) (t : Nat) (ref : ConnRef) : Prop :=
  ∃ topic, hub.topics[t]? = some topic ∧ ref ∈ topic.tracker.values

/-- The hub before each probe round of a topic in a run. -/
def rounds (hub : Hub) (t : Nat) : List Event → List Hub
  | [] => []
  | event :: events =>
    (if event = .probe t then [hub] else []) ++ (hub.step event).2.rounds t events

/-- The report of a probe round of a topic. -/
def report? (t : Nat) : Event × Outcome → Option ProbeReport
  | (.probe other, .probed report) => if other = t then some report else none
  | _ => none

/-- The reports of all probe rounds of a topic in a run. -/
def reports (hub : Hub) (t : Nat) (events : List Event) : List ProbeReport :=
  (events.zip (hub.run events).1).filterMap (report? t)

end Hub

/-! ### The sign of life in what happened -/

/-- A round of topic `t` has run, and since the last one connection `ref` was not marked alive. -/
def SilentSinceRound (t : Nat) (ref : ConnRef) (past : List Event) : Prop :=
  ∃ earlier later, past = earlier ++ .probe t :: later ∧ .probe t ∉ later ∧ .markAlive ref ∉ later

/-- Between every two rounds of topic `t` in a row, connection `ref` is marked alive. -/
def MarkedBetweenRounds (t : Nat) (ref : ConnRef) (events : List Event) : Prop :=
  ∀ earlier between later, events = earlier ++ .probe t :: between ++ .probe t :: later →
    .probe t ∉ between → .markAlive ref ∈ between

section

variable {t : Nat} {ref : ConnRef} {past calm : List Event} {event : Event}

theorem not_silentSinceRound_nil : ¬ SilentSinceRound t ref [] := by
  rintro ⟨earlier, later, same, _⟩
  simp at same

/-- One more event: a round begins the silence anew, and a sign of life ends it. -/
theorem silentSinceRound_snoc :
    SilentSinceRound t ref (past ++ [event]) ↔
      event = .probe t ∨ event ≠ .markAlive ref ∧ SilentSinceRound t ref past := by
  constructor
  · rintro ⟨earlier, later, same, unprobed, unmarked⟩
    rcases List.eq_nil_or_concat later with rfl | ⟨between, last, rfl⟩
    · exact .inl (List.singleton_inj.1 (List.append_inj' same rfl).2)
    · rw [List.concat_eq_append, ← List.cons_append, ← List.append_assoc] at same
      obtain ⟨rfl, ends⟩ := List.append_inj' same rfl
      obtain rfl : event = last := List.singleton_inj.1 ends
      rw [List.concat_eq_append, List.mem_append, List.mem_singleton, not_or] at unprobed unmarked
      exact .inr ⟨Ne.symm unmarked.2, earlier, between, rfl, unprobed.1, unmarked.1⟩
  · rintro (rfl | ⟨unmarked, earlier, later, rfl, calm, quiet⟩)
    · exact ⟨past, [], rfl, List.not_mem_nil, List.not_mem_nil⟩
    · by_cases round : event = .probe t
      · subst round
        exact ⟨_, [], rfl, List.not_mem_nil, List.not_mem_nil⟩
      · refine ⟨earlier, later ++ [event], by simp, ?_, ?_⟩
        · simp [calm, Ne.symm round]
        · simp [quiet, Ne.symm unmarked]

/-- Without rounds and signs of life, silence goes on as it is. -/
theorem silentSinceRound_append (unprobed : .probe t ∉ calm) (unmarked : .markAlive ref ∉ calm) :
    SilentSinceRound t ref (past ++ calm) ↔ SilentSinceRound t ref past := by
  induction calm using List.reverseRecOn with
  | nil => rw [List.append_nil]
  | append_singleton others event ih =>
      simp only [List.mem_append, List.mem_singleton, not_or] at unprobed unmarked
      rw [← List.append_assoc, silentSinceRound_snoc, ih unprobed.1 unmarked.1]
      simp [Ne.symm unprobed.2, Ne.symm unmarked.2]

end

/-! ### One round -/

namespace Hub

variable {homes : List Attachment} {hub : Hub} {t : Nat} {ref : ConnRef} {home : Attachment}
  {topic : Topic} {conn : Connection} {event : Event} {events : List Event}

theorem isTerminated_of_present (present : hub.connections[ref]? = some conn) :
    hub.isTerminated ref = conn.terminated := by
  rw [isTerminated, present, Option.any_some]

theorem At.tracks_iff (spot : At homes hub ref home topic conn) (sound : Sound homes hub) :
    hub.tracks home.topic ref ↔ conn.state ≠ .closed := by
  rw [← spot.mem_tracked sound, tracks]
  constructor
  · rintro ⟨other, here, member⟩
    obtain rfl := Option.some.inj (spot.here.symm.trans here)
    exact member
  · intro member
    exact ⟨topic, spot.here, member⟩

/-- A round terminates a connection exactly if it is a round of its topic, and it finds the
connection attached, not terminated, and without a sign of life. -/
theorem Holds.roundTerminates_iff (holds : Holds homes hub ref home conn)
    (sound : Sound homes hub) :
    hub.roundTerminates t ref = true ↔
      t = home.topic ∧ conn.state ≠ .closed ∧ conn.terminated = false ∧ conn.alive = false := by
  have later := connections_step sound holds (.probe t) (by simp) (by simp)
  rw [roundTerminates, isTerminated_of_present holds.present, isTerminated_of_present later,
    Bool.and_eq_true, Bool.not_eq_true']
  by_cases own : t = home.topic
  · rw [Concern.ofEvent?, if_pos own, Option.elim_some]
    by_cases attached : conn.state = .closed
    · rw [Connection.undergo, if_pos attached]
      constructor
      · rintro ⟨running, terminated⟩
        cases running.symm.trans terminated
      · rintro ⟨_, still, _⟩
        exact absurd attached still
    · constructor
      · rintro ⟨running, terminated⟩
        exact ⟨own, attached, running, (Connection.undergo_probe attached running).1.1 terminated⟩
      · rintro ⟨_, _, running, silent⟩
        exact ⟨running, (Connection.undergo_probe attached running).1.2 silent⟩
  · rw [Concern.ofEvent?, if_neg own, Option.elim_none]
    constructor
    · rintro ⟨running, terminated⟩
      cases running.symm.trans terminated
    · rintro ⟨same, _⟩
      exact absurd same own

/-! ### Every connection is terminated once -/

theorem isTerminated_step (sound : Sound homes hub)
    (orderly : Orderly (homes ++ hub.attachments (event :: events)) (event :: events))
    (terminated : hub.isTerminated ref = true) : (hub.step event).2.isTerminated ref = true := by
  obtain ⟨conn, present, ended⟩ := (Option.any_eq_true _ _).1 terminated
  obtain ⟨home, holds⟩ := sound.holds present
  have next := holds.step sound event (orderly.detached holds.found)
  rw [isTerminated_of_present next.present]
  exact Connection.terminated_foldl ended _

/-- No round terminates a connection that is terminated already. -/
theorem countP_rounds_of_terminated (sound : Sound homes hub)
    (orderly : Orderly (homes ++ hub.attachments events) events)
    (terminated : hub.isTerminated ref = true) :
    (hub.rounds t events).countP (·.roundTerminates t ref) = 0 := by
  induction events generalizing homes hub with
  | nil => rfl
  | cons event others ih =>
      have still := isTerminated_step sound orderly terminated
      have later := ih (sound.next orderly) orderly.tail still
      have first : hub.roundTerminates t ref = false := by rw [roundTerminates, terminated]; rfl
      rw [rounds, List.countP_append, later]
      split
      · simp [first]
      · rfl

theorem countP_rounds_le_one (sound : Sound homes hub)
    (orderly : Orderly (homes ++ hub.attachments events) events) :
    (hub.rounds t events).countP (·.roundTerminates t ref) ≤ 1 := by
  induction events generalizing homes hub with
  | nil => exact Nat.zero_le 1
  | cons event others ih =>
      rw [rounds, List.countP_append]
      by_cases round : event = .probe t ∧ hub.roundTerminates t ref = true
      · obtain ⟨rfl, terminates⟩ := round
        have terminated : (hub.step (.probe t)).2.isTerminated ref = true := by
          rw [roundTerminates, Bool.and_eq_true] at terminates
          exact terminates.2
        rw [countP_rounds_of_terminated (sound.next orderly) orderly.tail terminated]
        simp [terminates]
      · have none :
            (if event = .probe t then [hub] else []).countP (·.roundTerminates t ref) = 0 := by
          split
          · next same => simpa using fun terminates => round ⟨same, terminates⟩
          · rfl
        rw [none, Nat.zero_add]
        exact ih (sound.next orderly) orderly.tail

/-! ### What the reports and the counter say -/

/-- The report of a round counts the connections that the round terminates. -/
theorem report_probe (sound : Sound homes hub) (here : hub.topics[t]? = some topic) :
    ∃ report, (hub.step (.probe t)).1 = .probed report ∧
      report.terminated =
        (List.range hub.connections.length).countP (hub.roundTerminates t) := by
  have indexes := sound.indexed t topic here
  refine ⟨(probeEach topic.tracker.values hub.connections).1, ?_, ?_⟩
  · change ((hub.onTopic t Topic.probe).1.map Outcome.probed).getD .done = _
    rw [onTopic, here]
    rfl
  · rw [terminated_probeEach indexes.nodup_tracked, List.countP_eq_length_filter,
      List.countP_eq_length_filter]
    apply List.Perm.length_eq
    rw [List.perm_ext_iff_of_nodup (indexes.nodup_tracked.filter _) (List.nodup_range.filter _)]
    intro ref
    rw [List.mem_filter, List.mem_filter, List.mem_range]
    cases present : hub.connections[ref]? with
    | none =>
        have beyond : ¬ ref < hub.connections.length :=
          Nat.not_lt.2 (List.getElem?_eq_none_iff.1 present)
        simp [Connections.isSilent, beyond]
    | some conn =>
        have within := (List.getElem?_eq_some_iff.1 present).1
        obtain ⟨home, holds⟩ := sound.holds present
        obtain ⟨own, spot⟩ := holds.spot sound
        have silent : hub.connections.isSilent ref = true ↔
            conn.terminated = false ∧ conn.alive = false := by
          rw [Connections.isSilent, present, Option.any_some, decide_eq_true_eq,
            Connection.fst_probe_eq_silent]
        rw [holds.roundTerminates_iff sound, silent]
        by_cases same : t = home.topic
        · subst same
          obtain rfl := Option.some.inj (spot.here.symm.trans here)
          rw [spot.mem_tracked sound]
          simp [within]
        · simp [same, spot.not_mem_tracked sound here same]

theorem reports_cons (hub : Hub) (t : Nat) (event : Event) (events : List Event) :
    hub.reports t (event :: events) =
      (report? t (event, (hub.step event).1)).toList ++ (hub.step event).2.reports t events := by
  rw [reports, run_cons, List.zip_cons_cons, List.filterMap_cons]
  cases report? t (event, (hub.step event).1) <;> rfl

theorem report?_of_ne (other : event ≠ .probe t) (outcome : Outcome) :
    report? t (event, outcome) = none := by
  cases event with
  | probe s =>
      have different : s ≠ t := fun same => other (same ▸ rfl)
      cases outcome with
      | probed report => rw [report?, if_neg different]
      | _ => rfl
  | _ => rfl

/-- Over a run, the reports of the rounds of a topic count what the rounds terminate. -/
theorem terminated_reports (sound : Sound homes hub)
    (orderly : Orderly (homes ++ hub.attachments events) events) (there : t < hub.topics.length) :
    (hub.reports t events).map (·.terminated) =
      (hub.rounds t events).map fun hub =>
        (List.range hub.connections.length).countP (hub.roundTerminates t) := by
  induction events generalizing homes hub with
  | nil => rfl
  | cons event others ih =>
      have later := ih (sound.next orderly) orderly.tail (by rwa [length_topics_step])
      rw [reports_cons, rounds, List.map_append, List.map_append, later]
      by_cases round : event = .probe t
      · subst round
        obtain ⟨report, outcome, counted⟩ := report_probe sound (List.getElem?_eq_getElem there)
        rw [outcome, report?, if_pos rfl, if_pos rfl]
        simp [counted]
      · rw [report?_of_ne round, if_neg round]
        rfl

/-! ### The counter of a topic -/

/-- What a topic has counted as terminated by its rounds. -/
def terminations (hub : Hub) (t : Nat) : Option UInt64 :=
  hub.topics[t]?.map (·.stats.livenessTerminations)

theorem terminations_onTopic {α : Type} {s : Nat}
    {f : Topic → Connections → α × Topic × Connections} (added : Topic → UInt64)
    (adds : ∀ topic, hub.topics[s]? = some topic →
      (f topic hub.connections).2.1.stats.livenessTerminations =
        topic.stats.livenessTerminations + added topic) :
    (hub.onTopic s f).2.terminations t =
      hub.topics[t]?.map fun topic =>
        topic.stats.livenessTerminations + if s = t then added topic else 0 := by
  cases here : hub.topics[s]? with
  | none =>
      rw [onTopic_of_none here, terminations]
      by_cases same : s = t
      · subst same
        rw [here]
        rfl
      · simp [same]
  | some topic =>
      have within := (List.getElem?_eq_some_iff.1 here).1
      have topics :
          (hub.onTopic s f).2.topics = hub.topics.set s (f topic hub.connections).2.1 := by
        rw [onTopic, here]
      rw [terminations, topics]
      by_cases same : s = t
      · subst same
        rw [List.getElem?_set_self within, here, Option.map_some, Option.map_some, adds topic here,
          if_pos rfl]
      · rw [List.getElem?_set_ne same]
        simp [same]

theorem terminations_join (channel : Option Channel) (ref : ConnRef) :
    (topic.join channel ref).stats.livenessTerminations = topic.stats.livenessTerminations := by
  rw [Topic.join, Topic.stats_enroll]
  rfl

theorem terminations_release (id : ConnId) (channel : Option Channel) :
    (topic.release id channel).stats.livenessTerminations = topic.stats.livenessTerminations := by
  have withdrawn : (topic.withdraw id channel).stats = topic.stats := Topic.stats_withdraw id
  rw [Topic.release, Topic.untrack]
  split
  · rw [← withdrawn]
    rfl
  · rw [withdrawn]

/-- Where the topics stay as they are, so does the counter. -/
theorem terminations_of_topics {after : Hub} (kept : after.topics = hub.topics) :
    after.terminations t = (hub.terminations t).map fun count => count + UInt64.ofNat 0 := by
  rw [terminations, terminations, kept, Option.map_map]
  congr 1
  funext topic
  exact (UInt64.add_zero _).symm

/-- What a topic does without counting terminations leaves the counter alone. -/
theorem terminations_onTopic_of_kept {α : Type} {s : Nat}
    {f : Topic → Connections → α × Topic × Connections}
    (keeps : ∀ topic, (f topic hub.connections).2.1.stats.livenessTerminations =
      topic.stats.livenessTerminations) :
    (hub.onTopic s f).2.terminations t =
      (hub.terminations t).map fun count => count + UInt64.ofNat 0 := by
  rw [terminations_onTopic fun _ => 0, terminations, Option.map_map]
  · simp [Function.comp_def]
  · intro topic _
    rw [keeps, UInt64.add_zero]

/-- A round adds to the counter of its topic what its report says. -/
theorem terminations_probe (hub : Hub) (t s : Nat) :
    (hub.step (.probe s)).2.terminations t =
      (hub.terminations t).map fun count => count + UInt64.ofNat
        ((report? t (.probe s, (hub.step (.probe s)).1)).toList.map (·.terminated)).sum := by
  have counts : (hub.step (.probe s)).2.terminations t = _ :=
    terminations_onTopic (f := Topic.probe)
      (fun topic => UInt64.ofNat (topic.probe hub.connections).1.terminated) fun _ _ => rfl
  rw [counts, terminations, Option.map_map]
  by_cases own : s = t
  · subst own
    cases here : hub.topics[s]? with
    | none => rfl
    | some topic =>
        have outcome : (hub.step (.probe s)).1 = .probed (topic.probe hub.connections).1 := by
          change ((hub.onTopic s Topic.probe).1.map Outcome.probed).getD .done = _
          rw [onTopic, here]
          rfl
        rw [outcome]
        simp [report?]
  · have unreported : report? t (.probe s, (hub.step (.probe s)).1) = none :=
      report?_of_ne (fun same => own (Event.probe.inj same)) _
    rw [unreported]
    simp [own, Function.comp_def]

/-- An event adds to the counter what its report says, if it is a round of the topic. -/
theorem terminations_step (idle : hub.monitors = []) (event : Event) :
    (hub.step event).2.terminations t =
      (hub.terminations t).map fun count => count + UInt64.ofNat
        ((report? t (event, (hub.step event).1)).toList.map (·.terminated)).sum := by
  cases event with
  | attach s peer channel =>
      refine terminations_onTopic_of_kept
        (f := fun topic conns => topic.attach conns peer channel) fun topic => ?_
      rw [Topic.attach_eq]
      exact terminations_join _ _
  | detach s ref =>
      refine terminations_onTopic_of_kept (f := fun topic conns => ((), topic.detach conns ref))
        fun topic => ?_
      cases present : hub.connections[ref]? with
      | none => rw [Topic.detach, present]
      | some conn =>
          rw [Topic.detach_eq present]
          exact terminations_release _ _
  | broadcast s channel payload =>
      exact terminations_onTopic_of_kept
        (f := fun topic conns => topic.broadcast conns channel payload) fun topic => rfl
  | terminateAll s =>
      exact terminations_onTopic_of_kept (f := fun topic conns =>
        ((topic.terminateAll conns).1, topic, (topic.terminateAll conns).2)) fun topic => rfl
  | probe s => exact terminations_probe hub t s
  | spawnMonitor s =>
      apply terminations_of_topics
      change (hub.spawnMonitor s).topics = hub.topics
      unfold spawnMonitor
      split <;> rfl
  | advance span =>
      apply terminations_of_topics
      change (hub.advance span).topics = hub.topics
      simp [advance, idle, runMonitors]
  | _ => exact terminations_of_topics rfl

/-- Over a run, the counter of a topic adds up what the reports of its rounds say. -/
theorem terminations_run (idle : hub.monitors = [])
    (manual : ∀ t, Event.spawnMonitor t ∉ events) :
    (hub.run events).2.terminations t =
      (hub.terminations t).map fun count => count + UInt64.ofNat
        ((hub.reports t events).map (·.terminated)).sum := by
  induction events generalizing hub with
  | nil =>
      have nothing : ((hub.reports t []).map (·.terminated)).sum = 0 := rfl
      rw [nothing]
      simp [run]
  | cons event others ih =>
      have later : (hub.step event).2.monitors = [] := by
        apply monitors_step idle
        rintro s rfl
        exact manual s List.mem_cons_self
      rw [run_cons, ih later fun s member => manual s (List.mem_cons_of_mem _ member),
        terminations_step idle, Option.map_map, reports_cons, List.map_append, List.sum_append]
      congr 1
      funext count
      rw [Function.comp_apply, UInt64.ofNat_add, UInt64.add_assoc]

end Hub

/-! ### The sign of life of a connection -/

namespace Connection

variable {newborn : Connection} {home : Attachment} {ref : ConnRef} {subscribed : Bool}

/-- What the events of a run make of a connection, without monitors. -/
def afterEvents (newborn : Connection) (subscribed : Bool) (home : Attachment) (ref : ConnRef)
    (past : List Event) : Connection :=
  (past.filterMap (Concern.ofEvent? home ref)).foldl (undergo subscribed) newborn

theorem afterEvents_snoc (past : List Event) (event : Event) :
    newborn.afterEvents subscribed home ref (past ++ [event]) =
      (Concern.ofEvent? home ref event).elim (newborn.afterEvents subscribed home ref past)
        ((newborn.afterEvents subscribed home ref past).undergo subscribed) := by
  rw [afterEvents, List.filterMap_append, List.foldl_append, List.filterMap_cons]
  cases Concern.ofEvent? home ref event <;> rfl

theorem ofEvent?_eq_detach (home : Attachment) {event : Event} :
    Concern.ofEvent? home ref event = some .detach ↔ ∃ t, event = .detach t ref := by
  cases event <;> simp [Concern.ofEvent?]

theorem ofEvent?_eq_probe {event : Event} :
    Concern.ofEvent? home ref event = some .probe ↔ event = .probe home.topic := by
  cases event <;> simp [Concern.ofEvent?]

theorem ofEvent?_eq_markAlive (home : Attachment) {event : Event} :
    Concern.ofEvent? home ref event = some .markAlive ↔ event = .markAlive ref := by
  cases event <;> simp [Concern.ofEvent?]

/-- A connection is closed for good once it is detached. -/
theorem closed_afterEvents (opened : newborn.state ≠ .closed) (past : List Event) :
    (newborn.afterEvents subscribed home ref past).state = .closed ↔
      ∃ t, Event.detach t ref ∈ past := by
  induction past using List.reverseRecOn with
  | nil =>
      have still : (newborn.afterEvents subscribed home ref []).state ≠ .closed := opened
      simp [still]
  | append_singleton past event ih =>
      have last : (∃ t, Event.detach t ref ∈ past ++ [event]) ↔
          (∃ t, event = .detach t ref) ∨ ∃ t, Event.detach t ref ∈ past := by
        simp only [List.mem_append, List.mem_singleton, exists_or, eq_comm, or_comm]
      rw [afterEvents_snoc, last, ← ih, ← ofEvent?_eq_detach home]
      cases Concern.ofEvent? home ref event with
      | none => simp
      | some concern => rw [Option.elim_some, closed_undergo, Option.some_inj]

/-- As long as a connection is neither terminated nor closed, it lacks a sign of life exactly if it
was silent since the last round. -/
theorem alive_afterEvents (alive : newborn.alive = true) (past : List Event)
    (running : (newborn.afterEvents subscribed home ref past).terminated = false)
    (attached : (newborn.afterEvents subscribed home ref past).state ≠ .closed) :
    (newborn.afterEvents subscribed home ref past).alive = false ↔
      SilentSinceRound home.topic ref past := by
  induction past using List.reverseRecOn with
  | nil =>
      have sign : (newborn.afterEvents subscribed home ref []).alive = true := alive
      simp [sign, not_silentSinceRound_nil]
  | append_singleton past event ih =>
      rw [afterEvents_snoc] at running attached ⊢
      rw [silentSinceRound_snoc, ← ofEvent?_eq_probe, Ne, ← ofEvent?_eq_markAlive home]
      cases concerns : Concern.ofEvent? home ref event with
      | none =>
          rw [concerns] at running attached
          simpa using ih running attached
      | some concern =>
          rw [concerns, Option.elim_some] at running attached
          rw [Option.elim_some, Option.some_inj, Option.some_inj]
          -- Termination and closing last, so neither had come before.
          have before : (newborn.afterEvents subscribed home ref past).terminated = false := by
            rw [← Bool.not_eq_true]
            intro terminated
            rw [terminated_undergo terminated] at running
            cases running
          have open_before : (newborn.afterEvents subscribed home ref past).state ≠ .closed :=
            fun closed => attached (closed_undergo.2 (.inr closed))
          by_cases probed : concern = .probe
          · subst probed
            simp [(undergo_probe open_before before).2]
          by_cases marked : concern = .markAlive
          · subst marked
            simp [undergo, markAlive]
          rw [alive_undergo probed marked, ih before open_before]
          simp [probed, marked]

end Connection

/-! ### The verdict over a life -/

namespace Life

variable {hub : Hub} {life : Life} {past : List Event}

/-- The same life up to a point after its beginning. -/
def upTo (life : Life) (past : List Event) : Life := { life with after := past }

/-- A stretch of events without rounds of the topic and without signs of life of the connection. -/
def IsCalm (hub : Hub) (life : Life) (events : List Event) : Prop :=
  .probe life.home.topic ∉ events ∧ .markAlive (life.ref hub) ∉ events

instance (hub : Hub) (life : Life) (events : List Event) : Decidable (life.IsCalm hub events) :=
  inferInstanceAs (Decidable (_ ∧ _))

theorem events_upTo {rest : List Event} (split : life.after = past ++ rest) :
    life.events = (life.upTo past).events ++ rest := by
  simp [events, upTo, attach, split]

theorem orderly_upTo {rest : List Event} (split : life.after = past ++ rest)
    (orderly : Orderly (hub.attachments life.events) life.events) :
    Orderly (hub.attachments (life.upTo past).events) (life.upTo past).events := by
  rw [events_upTo split] at orderly
  exact orderly.of_append

theorem manual_upTo {rest : List Event} (split : life.after = past ++ rest)
    (manual : ∀ t, .spawnMonitor t ∉ life.events) (t : Nat) :
    .spawnMonitor t ∉ (life.upTo past).events := by
  intro member
  apply manual t
  rw [events_upTo split]
  exact List.mem_append_left _ member

/-- Where a connection stands after its life so far: whether it is closed, and whether it lacks a
sign of life. -/
theorem present (fresh : hub.Fresh) (placed : life.home.topic < hub.topics.length)
    (orderly : Orderly (hub.attachments life.events) life.events)
    (manual : ∀ t, .spawnMonitor t ∉ life.events) :
    ∃ conn, Holds (hub.attachments life.events) (life.ended hub) (life.ref hub) life.home conn ∧
      (conn.state = .closed ↔ ∃ t, .detach t (life.ref hub) ∈ life.after) ∧
      (conn.terminated = false → conn.state ≠ .closed →
        (conn.alive = false ↔ SilentSinceRound life.home.topic (life.ref hub) life.after)) := by
  obtain ⟨topic, id, _, sound, holds⟩ := begins fresh orderly placed
  rw [events_eq] at manual
  have idle : (life.begun hub).monitors = [] :=
    monitors_run fresh.monitors fun t member => manual t (List.mem_append_left _ member)
  have concerns : life.concerns hub =
      life.after.filterMap (Concern.ofEvent? life.home (life.ref hub)) :=
    concerns_of_idle idle fun t member => manual t (List.mem_append_right _ member)
  have present := ends sound holds orderly
  rw [concerns] at present
  have found : (hub.attachments life.events)[life.ref hub]? = some life.home := by
    rw [events_eq, attachments_append, List.getElem?_append_left
      (List.getElem?_eq_some_iff.1 holds.found).1]
    exact holds.found
  have opened : (life.newborn topic id).state ≠ .closed := fun closed => nomatch closed
  exact ⟨_, ⟨found, present⟩, Connection.closed_afterEvents opened _,
    Connection.alive_afterEvents rfl _⟩

/-- The next round of its topic terminates a connection exactly if the connection is tracked and not
terminated, and was silent since the last round. -/
theorem roundTerminates_iff (life : Life) (fresh : hub.Fresh)
    (placed : life.home.topic < hub.topics.length)
    (orderly : Orderly (hub.attachments life.events) life.events)
    (manual : ∀ t, .spawnMonitor t ∉ life.events) :
    (life.ended hub).roundTerminates life.home.topic (life.ref hub) = true ↔
      (life.ended hub).tracks life.home.topic (life.ref hub) ∧
      (life.ended hub).isTerminated (life.ref hub) = false ∧
      SilentSinceRound life.home.topic (life.ref hub) life.after := by
  obtain ⟨conn, holds, _, alive⟩ := present fresh placed orderly manual
  have sound : Sound (hub.attachments life.events) (life.ended hub) := fresh.sound_run orderly
  obtain ⟨topic, spot⟩ := holds.spot sound
  rw [holds.roundTerminates_iff sound, spot.tracks_iff sound,
    isTerminated_of_present holds.present]
  constructor
  · rintro ⟨_, attached, running, silent⟩
    exact ⟨attached, running, (alive running attached).1 silent⟩
  · rintro ⟨attached, running, silent⟩
    exact ⟨rfl, attached, running, (alive running attached).2 silent⟩

/-- A connection is tracked by its topic until it is detached. -/
theorem tracks_iff (life : Life) (fresh : hub.Fresh)
    (placed : life.home.topic < hub.topics.length)
    (orderly : Orderly (hub.attachments life.events) life.events)
    (manual : ∀ t, .spawnMonitor t ∉ life.events) :
    (life.ended hub).tracks life.home.topic (life.ref hub) ↔
      .detach life.home.topic (life.ref hub) ∉ life.after := by
  obtain ⟨conn, holds, closed, _⟩ := present fresh placed orderly manual
  have sound : Sound (hub.attachments life.events) (life.ended hub) := fresh.sound_run orderly
  obtain ⟨topic, spot⟩ := holds.spot sound
  rw [spot.tracks_iff sound, Ne, closed, not_exists]
  constructor
  · intro attached
    exact attached _
  · intro attached t detached
    have member : .detach t (life.ref hub) ∈ life.events := by
      rw [events_eq]
      exact List.mem_append_right _ detached
    rw [orderly.atHome t _ member _ holds.found] at attached
    exact attached detached

/-- The verdict of every round in a life. -/
theorem round_iff (fresh : hub.Fresh) (placed : life.home.topic < hub.topics.length)
    (orderly : Orderly (hub.attachments life.events) life.events)
    (manual : ∀ t, .spawnMonitor t ∉ life.events) {rest : List Event}
    (split : life.after = past ++ rest) :
    ((life.upTo past).ended hub).roundTerminates life.home.topic (life.ref hub) = true ↔
      ((life.upTo past).ended hub).tracks life.home.topic (life.ref hub) ∧
      ((life.upTo past).ended hub).isTerminated (life.ref hub) = false ∧
      SilentSinceRound life.home.topic (life.ref hub) past :=
  (life.upTo past).roundTerminates_iff fresh placed (orderly_upTo split orderly)
    (manual_upTo split manual)

/-- A stretch that begins with a life or with a sign of life is not silent since a round before
there is one. -/
theorem not_silent_of_fresh_sign {one : List Event}
    (sign : past = [] ∨ past.getLast? = some (.markAlive (life.ref hub)))
    (calm : life.IsCalm hub one) :
    ¬ SilentSinceRound life.home.topic (life.ref hub) (past ++ one) := by
  rw [silentSinceRound_append calm.1 calm.2]
  rcases sign with rfl | marked
  · exact not_silentSinceRound_nil
  · obtain ⟨earlier, rfl⟩ := List.getLast?_eq_some_iff.1 marked
    rw [silentSinceRound_snoc]
    simp

/-- A connection that gives no sign of life after a round is silent since that round. -/
theorem silent_after_round {two : List Event} (calm : life.IsCalm hub two) :
    SilentSinceRound life.home.topic (life.ref hub) (past ++ .probe life.home.topic :: two) :=
  ⟨past, two, rfl, calm.1, calm.2⟩

/-- The counter of a topic is the sum of what the reports of its rounds say. -/
theorem livenessTerminations_eq (fresh : hub.Fresh) (placed : life.home.topic < hub.topics.length)
    (manual : ∀ t, .spawnMonitor t ∉ life.events) :
    ∃ topic, (life.ended hub).topics[life.home.topic]? = some topic ∧
      topic.stats.livenessTerminations =
        UInt64.ofNat ((hub.reports life.home.topic life.events).map (·.terminated)).sum := by
  have here := List.getElem?_eq_getElem placed
  obtain ⟨config, relay, new⟩ := fresh.topics _ (List.mem_of_getElem? here)
  have start : hub.terminations life.home.topic = some 0 := by
    rw [terminations, here, Option.map_some, new]
    rfl
  have count := terminations_run (t := life.home.topic) fresh.monitors manual
  rw [start, Option.map_some, UInt64.zero_add] at count
  obtain ⟨topic, there, counted⟩ := Option.map_eq_some_iff.1 count
  exact ⟨topic, there, counted⟩

/-- Probe rounds judge connections by what happened. A round terminates a connection exactly if its
topic tracks it, it is not terminated yet, a round has run since it was attached, and it was not
marked alive since the last one. So a connection that is marked alive between every two rounds is
never terminated by one; one that falls silent is terminated by the second round from then on,
unless it was detached or terminated otherwise; no connection is terminated by two rounds; and the
reports and the counter of the topic count the connections that its rounds terminate. -/
theorem liveness (fresh : hub.Fresh) (placed : life.home.topic < hub.topics.length)
    (orderly : Orderly (hub.attachments life.events) life.events)
    (manual : ∀ t, .spawnMonitor t ∉ life.events) :
    (∀ past rest, life.after = past ++ .probe life.home.topic :: rest →
      (((life.upTo past).ended hub).roundTerminates life.home.topic (life.ref hub) = true ↔
        ((life.upTo past).ended hub).tracks life.home.topic (life.ref hub) ∧
        ((life.upTo past).ended hub).isTerminated (life.ref hub) = false ∧
        SilentSinceRound life.home.topic (life.ref hub) past)) ∧
    (MarkedBetweenRounds life.home.topic (life.ref hub) life.after →
      ∀ past rest, life.after = past ++ .probe life.home.topic :: rest →
        ((life.upTo past).ended hub).roundTerminates life.home.topic (life.ref hub) = false) ∧
    (∀ past one two rest, life.after =
        past ++ one ++ .probe life.home.topic :: two ++ .probe life.home.topic :: rest →
      (past = [] ∨ past.getLast? = some (.markAlive (life.ref hub))) →
      life.IsCalm hub one → life.IsCalm hub two →
      .detach life.home.topic (life.ref hub) ∉ past ++ one ++ two →
      ((life.upTo (past ++ one)).ended hub).roundTerminates life.home.topic (life.ref hub) = false ∧
      (((life.upTo (past ++ one ++ .probe life.home.topic :: two)).ended hub).isTerminated
          (life.ref hub) = false →
        ((life.upTo (past ++ one ++ .probe life.home.topic :: two)).ended hub).roundTerminates
          life.home.topic (life.ref hub) = true)) ∧
    (∀ ref, (hub.rounds life.home.topic life.events).countP
      (·.roundTerminates life.home.topic ref) ≤ 1) ∧
    (hub.reports life.home.topic life.events).map (·.terminated) =
      (hub.rounds life.home.topic life.events).map (fun hub =>
        (List.range hub.connections.length).countP (hub.roundTerminates life.home.topic)) ∧
    ∃ topic, (life.ended hub).topics[life.home.topic]? = some topic ∧
      topic.stats.livenessTerminations =
        UInt64.ofNat ((hub.reports life.home.topic life.events).map (·.terminated)).sum := by
  have sound : Sound [] hub := fresh.sound
  have inOrder : Orderly ([] ++ hub.attachments life.events) life.events := orderly
  refine ⟨?_, ?_, ?_, ?_, ?_, ?_⟩
  · intro past rest split
    exact round_iff fresh placed orderly manual split
  · intro marked past rest split
    rw [← Bool.not_eq_true, round_iff fresh placed orderly manual split]
    rintro ⟨_, _, earlier, between, rfl, unprobed, unmarked⟩
    exact unmarked (marked earlier between rest split unprobed)
  · intro past one two rest split sign calmOne calmTwo undetached
    have first : life.after = (past ++ one) ++ (.probe life.home.topic :: two ++
        .probe life.home.topic :: rest) := by
      rw [split, List.append_assoc (past ++ one)]
    constructor
    · rw [← Bool.not_eq_true, round_iff fresh placed orderly manual first]
      rintro ⟨_, _, silent⟩
      exact not_silent_of_fresh_sign sign calmOne silent
    · intro running
      have kept : .detach life.home.topic (life.ref hub) ∉
          past ++ one ++ .probe life.home.topic :: two := by
        simpa using undetached
      have tracked := ((life.upTo (past ++ one ++ .probe life.home.topic :: two)).tracks_iff fresh
        placed (orderly_upTo split orderly) (manual_upTo split manual)).2 kept
      exact (round_iff fresh placed orderly manual split).2
        ⟨tracked, running, silent_after_round calmTwo⟩
  · intro ref
    exact countP_rounds_le_one sound inOrder
  · exact terminated_reports sound inOrder placed
  · exact livenessTerminations_eq fresh placed manual

/-- A connection that is marked alive once, after its first round, next to one that never is. -/
def fallingSilent : Life where
  before := [.attach 0 default none]
  home := ⟨0, default, some "a"⟩
  after := [.probe 0, .markAlive 1, .probe 0, .broadcast 0 "a" [1], .receive 1, .probe 0, .probe 0]

/-- The silent neighbour is terminated by the second round and the connection itself by the third,
which is the second one after its sign of life. -/
theorem liveness_of_fallingSilent :
    (Hub.new .twoTopics).Fresh ∧
      fallingSilent.home.topic < (Hub.new .twoTopics).topics.length ∧
      Orderly ((Hub.new .twoTopics).attachments fallingSilent.events) fallingSilent.events ∧
      (∀ t, Event.spawnMonitor t ∉ fallingSilent.events) ∧
      ((fallingSilent.upTo [.probe 0, .markAlive 1, .probe 0, .broadcast 0 "a" [1],
        .receive 1]).ended (Hub.new .twoTopics)).roundTerminates 0 1 = true ∧
      ((Hub.new .twoTopics).reports 0 fallingSilent.events).map (·.terminated) = [0, 1, 1, 0] ∧
      ∃ topic, (fallingSilent.ended (Hub.new .twoTopics)).topics[0]? = some topic ∧
        topic.stats.livenessTerminations = 2 := by
  have fresh := fresh_new .twoTopics
  have placed : fallingSilent.home.topic < (Hub.new .twoTopics).topics.length := by decide
  have orderly :
      Orderly ((Hub.new .twoTopics).attachments fallingSilent.events) fallingSilent.events := by
    decide
  have manual : ∀ t, Event.spawnMonitor t ∉ fallingSilent.events := by
    simp [fallingSilent, events, attach]
  have reports : ((Hub.new .twoTopics).reports 0 fallingSilent.events).map (·.terminated) =
      [0, 1, 1, 0] := by decide +kernel
  obtain ⟨_, _, second, _, _, topic, here, counted⟩ := liveness fresh placed orderly manual
  obtain ⟨_, terminates⟩ := second [.probe 0, .markAlive 1] [] [.broadcast 0 "a" [1], .receive 1]
    [.probe 0] rfl (.inr rfl) (by decide) (by decide) (by decide)
  refine ⟨fresh, placed, orderly, manual, terminates (by decide +kernel), reports, topic, here, ?_⟩
  rw [counted]
  exact congrArg (fun counts => UInt64.ofNat counts.sum) reports

end Life

end LiveRelay
