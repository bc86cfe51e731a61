/-
Module: LiveRelay.Proofs.Shutdown
Purpose: What a shutdown leaves. Whoever had been tracked when the topic was looked through is gone
  in the end; whoever came later stays.
Main exports: ClosingRelay.Sound, ClosingRelay.Sound.step, ClosingRelay.Sound.run,
  ClosingRelay.left_after_shutdown, ClosingRelay.lateUpgrade_left_behind
-/
import LiveRelay.Proofs.Relay.Shutdown
import LiveRelay.Proofs.Topic.Standing

namespace LiveRelay

open Net

namespace ClosingRelay

variable {relay next : ClosingRelay} {t : Nat} {busy : BusyTopic}

/-! ### The shutdown, move by move -/

/-- No topic has had more connections than can be numbered. -/
def Few (relay : ClosingRelay) : Prop := ∀ busy ∈ relay.topics, busy.seats.length < UInt64.size

/-- Each topic is as its calls say, and of the connections that had been tracked when it was looked
through, each is terminated, or being detached, or still to be terminated. -/
structure Sound (relay : ClosingRelay) : Prop where
  coherent : ∀ busy ∈ relay.topics, busy.Coherent
  standing : ∀ busy ∈ relay.topics, busy.Standing
  found : ∀ (t : Nat) (early : List ConnRef) (busy : BusyTopic), relay.early[t]? = some early →
    relay.topics[t]? = some busy → ∀ ref ∈ early, ∃ seat, busy.seats[ref]? = some seat ∧
      (seat.conn.terminated = true ∨ seat.detaching ≠ [] ∨
        t + 1 = relay.early.length ∧ ref ∈ relay.due)

/-- A topic after something happened at one of the topics. -/
theorem onTopic_cases {later : BusyTopic} {other : Nat} {move : BusyTopic.Move}
    (there : (relay.onTopic t move).topics[other]? = some later) :
    relay.topics[other]? = some later ∨
      t = other ∧ ∃ busy, relay.topics[other]? = some busy ∧ later = busy.step move := by
  by_cases same : t = other
  · subst same
    rw [getElem?_onTopic_self, Option.map_eq_some_iff] at there
    obtain ⟨busy, here, rfl⟩ := there
    exact .inr ⟨rfl, busy, here, rfl⟩
  · exact .inl ((getElem?_onTopic_of_ne same move).symm.trans there)

theorem Sound.onTopic (sound : relay.Sound) (few : relay.Few) (t : Nat) (move : BusyTopic.Move) :
    (relay.onTopic t move).Sound where
  coherent later member := by
    obtain ⟨other, there⟩ := List.getElem?_of_mem member
    rcases onTopic_cases there with before | ⟨_, busy, here, rfl⟩
    · exact sound.coherent later (List.mem_of_getElem? before)
    · have present := List.mem_of_getElem? here
      exact (sound.coherent busy present).step (few busy present) move
  standing later member := by
    obtain ⟨other, there⟩ := List.getElem?_of_mem member
    rcases onTopic_cases there with before | ⟨_, busy, here, rfl⟩
    · exact sound.standing later (List.mem_of_getElem? before)
    · exact (sound.standing busy (List.mem_of_getElem? here)).step move
  found other early later looked there ref member := by
    rcases onTopic_cases there with before | ⟨_, busy, here, rfl⟩
    · exact sound.found other early later looked before ref member
    · obtain ⟨seat, seated, fate⟩ := sound.found other early busy looked here ref member
      obtain ⟨after, moved, onward⟩ := BusyTopic.onward_step seated move
      refine ⟨after, moved, ?_⟩
      rcases fate with terminated | detaching | due
      · exact .inl (onward.terminated terminated)
      · exact .inr (.inl (onward.detaching detaching))
      · exact .inr (.inr due)

/-- Whoever has been tracked and is not being detached is found when the topic is looked through. -/
theorem Sound.lookThrough (sound : relay.Sound) (done : relay.due = [])
    (here : relay.topics[relay.early.length]? = some busy) :
    Sound { relay with
      early := relay.early ++ [busy.arrived], due := busy.topic.tracker.values } where
  coherent := sound.coherent
  standing := sound.standing
  found t early later looked there ref member := by
    rcases getElem?_concat_cases looked with before | ⟨rfl, rfl⟩
    · obtain ⟨seat, seated, fate⟩ := sound.found t early later before there ref member
      refine ⟨seat, seated, ?_⟩
      rcases fate with terminated | detaching | ⟨_, due⟩
      · exact .inl terminated
      · exact .inr (.inl detaching)
      · rw [done] at due
        cases due
    · obtain rfl := Option.some.inj (here.symm.trans there)
      obtain ⟨seat, seated, tracked⟩ := BusyTopic.mem_arrived member
      refine ⟨seat, seated, .inr ?_⟩
      by_cases undetached : seat.detaching = []
      · have coherent := sound.coherent busy (List.mem_of_getElem? here)
        refine .inr ⟨by simp, (coherent.mem_tracked seated).2 ?_⟩
        rw [Seat.isTracked, tracked, undetached]
        rfl
      · exact .inl undetached

theorem Sound.terminateNext (sound : relay.Sound) (few : relay.Few) {ref : ConnRef}
    {others : List ConnRef} (found : relay.due = ref :: others) :
    Sound { relay.onTopic (relay.early.length - 1) (.touch ref .terminate) with
      due := others } where
  coherent := (sound.onTopic few _ _).coherent
  standing := (sound.onTopic few _ _).standing
  found t early later looked there place member := by
    have moved := (sound.onTopic few (relay.early.length - 1) (.touch ref .terminate)).found t early
      later looked there place member
    obtain ⟨seat, seated, fate⟩ := moved
    refine ⟨seat, seated, ?_⟩
    rcases fate with terminated | detaching | ⟨last, due⟩
    · exact .inl terminated
    · exact .inr (.inl detaching)
    · rcases List.mem_cons.1 (found ▸ due : place ∈ ref :: others) with rfl | waiting
      · -- This is the one that the move terminates.
        have topic : relay.early.length - 1 = t := by
          have length : t + 1 = relay.early.length := last
          omega
        rw [topic] at there
        obtain ⟨busy, here, rfl⟩ := Option.map_eq_some_iff.1
          ((getElem?_onTopic_self _).symm.trans there)
        rw [BusyTopic.step, BusyTopic.seats_onSeat_self, Option.map_eq_some_iff] at seated
        obtain ⟨before, _, rfl⟩ := seated
        exact .inl (Connection.terminated_terminate before.conn)
      · exact .inr (.inr ⟨last, waiting⟩)

theorem Sound.step (sound : relay.Sound) (few : relay.Few) (move : Move) :
    (relay.step move).Sound := by
  have steps := steps_step relay move
  generalize relay.step move = next at steps
  cases steps with
  | stay => exact sound
  | accept upgrade listening => exact ⟨sound.coherent, sound.standing, sound.found⟩
  | @enter k upgrade accepted =>
      obtain ⟨coherent, standing, found⟩ :=
        sound.onTopic few upgrade.topic (.attach upgrade.peer upgrade.channel)
      exact ⟨coherent, standing, found⟩
  | @within t move allowed => exact sound.onTopic few t move
  | stopListening => exact ⟨sound.coherent, sound.standing, sound.found⟩
  | stopMonitors deaf => exact ⟨sound.coherent, sound.standing, sound.found⟩
  | lookThrough blind done here => exact sound.lookThrough done here
  | terminateNext found => exact sound.terminateNext few found

/-! ### The whole run -/

/-- A topic keeps its place, and its connections become no fewer. -/
theorem grows_step (here : relay.topics[t]? = some busy) (move : Move) :
    ∃ later, (relay.step move).topics[t]? = some later ∧
      busy.seats.length ≤ later.seats.length := by
  have grows (other : Nat) (move : BusyTopic.Move) :
      ∃ later, (relay.onTopic other move).topics[t]? = some later ∧
        busy.seats.length ≤ later.seats.length := by
    by_cases same : other = t
    · subst same
      rw [getElem?_onTopic_self, here]
      exact ⟨_, rfl, BusyTopic.Coherent.length_le_step busy move⟩
    · exact ⟨busy, (getElem?_onTopic_of_ne same move).trans here, Nat.le_refl _⟩
  have steps := steps_step relay move
  generalize relay.step move = next at steps
  cases steps with
  | enter accepted => exact grows _ _
  | within other allowed => exact grows other _
  | terminateNext found => exact grows _ _
  | _ => exact ⟨busy, here, Nat.le_refl _⟩

theorem Few.of_step {move : Move} (few : (relay.step move).Few) : relay.Few := by
  intro busy member
  obtain ⟨t, here⟩ := List.getElem?_of_mem member
  obtain ⟨later, there, grown⟩ := grows_step here move
  exact Nat.lt_of_le_of_lt grown (few later (List.mem_of_getElem? there))

theorem Few.of_run {moves : List Move} (few : (relay.run moves).Few) : relay.Few := by
  induction moves generalizing relay with
  | nil => exact few
  | cons move others ih => exact (ih few).of_step

theorem Sound.run (sound : relay.Sound) {moves : List Move} (few : (relay.run moves).Few) :
    (relay.run moves).Sound := by
  induction moves generalizing relay with
  | nil => exact sound
  | cons move others ih =>
      have later : (relay.step move).Few := Few.of_run few
      exact ih (sound.step later.of_step move) few

theorem Sound.serving (config : RelayConfig) : (ClosingRelay.serving config).Sound where
  coherent busy member := by
    obtain ⟨topic, _, rfl⟩ := List.mem_map.1 member
    exact .idle topic config
  standing busy member := by
    obtain ⟨topic, _, rfl⟩ := List.mem_map.1 member
    exact fun seat absent => nomatch absent
  found t early busy looked := nomatch looked

/-! ### What is left -/

/-- In the end whoever had been tracked in time is being detached. -/
theorem Sound.detached_of_early (sound : relay.Sound) (finished : relay.IsFinished)
    (settled : relay.IsSettled) {early : List ConnRef} (looked : relay.early[t]? = some early)
    (here : relay.topics[t]? = some busy) {ref : ConnRef} (member : ref ∈ early) {seat : Seat}
    (seated : busy.seats[ref]? = some seat) : seat.detaching ≠ [] := by
  obtain ⟨same, there, fate⟩ := sound.found t early busy looked here ref member
  obtain rfl := Option.some.inj (seated.symm.trans there)
  rcases fate with terminated | detaching | ⟨_, due⟩
  · exact (settled.2 busy (List.mem_of_getElem? here)).2 seat (List.mem_of_getElem? seated)
      terminated
  · exact detaching
  · rw [finished.2.2.2] at due
    cases due

/-- At rest, a connection that nobody detached is open, and every other one is closed. -/
theorem Sound.state_of_settled (sound : relay.Sound) (settled : relay.IsSettled)
    (member : busy ∈ relay.topics) {seat : Seat} (present : seat ∈ busy.seats) :
    seat.conn.state = if seat.detaching = [] then .open else .closed := by
  obtain ⟨quiet, detached⟩ := settled.2 busy member
  obtain ⟨attached, returned⟩ := quiet seat present
  split
  · next undetached =>
    have unterminated : seat.conn.terminated = false := by
      rw [← Bool.not_eq_true]
      exact fun terminated => detached seat present terminated undetached
    rw [sound.standing busy member seat present unterminated undetached, if_pos attached]
  · next detaching =>
    obtain ⟨ref, here⟩ := List.getElem?_of_mem present
    obtain ⟨stage, call⟩ := List.exists_mem_of_ne_nil _ detaching
    obtain ⟨counted, rfl⟩ := returned stage call
    exact ((sound.coherent busy member).ordered ref seat here).closed.2 ⟨counted, call⟩

/-- When a shutdown is finished and all tasks of connections have come to rest, however its actions
mixed with the steps of attaching, of detaching and of everything else: a connection is left exactly
if it was tracked only after its topic had been looked through, and nobody detached it. What is left
is open, tracked, registered if its channel is accepted, and counted as active; everything else is
closed, and neither tracked nor registered. So a topic whose connections had all been tracked when
it was looked through has nothing left. -/
theorem left_after_shutdown (config : RelayConfig) {moves : List Move} {relay : ClosingRelay}
    (reached : relay = (serving config).run moves) (few : relay.Few)
    (finished : relay.IsFinished) (settled : relay.IsSettled) :
    ∀ (t : Nat) (busy : BusyTopic), relay.topics[t]? = some busy →
      ∃ early, relay.early[t]? = some early ∧
        (∀ (ref : ConnRef) (seat : Seat), busy.seats[ref]? = some seat →
          let left := ref ∉ early ∧ seat.detaching = []
          seat.conn.state = (if seat.detaching = [] then .open else .closed) ∧
          (seat.conn.state = .open ↔ left) ∧
          (ref ∈ busy.topic.tracker.values ↔ left) ∧
          ∀ channel, ref ∈ busy.topic.registry.membersOf channel ↔
            left ∧ seat.conn.channel = some channel ∧ busy.topic.isKnown channel = true) ∧
        busy.topic.stats.connectionsActive.toNat = busy.topic.tracker.size ∧
        ((∀ ref < busy.seats.length, ref ∈ early) →
          (∀ seat ∈ busy.seats, seat.conn.state = .closed) ∧
          busy.topic.tracker.values = [] ∧
          (∀ channel, busy.topic.registry.membersOf channel = []) ∧
          busy.topic.stats.connectionsActive = 0) := by
  intro t busy here
  have sound : relay.Sound := reached ▸ (Sound.serving config).run (reached ▸ few)
  have member := List.mem_of_getElem? here
  have coherent := sound.coherent busy member
  obtain ⟨quiet, -⟩ := settled.2 busy member
  have within : t < relay.early.length := by
    rw [finished.2.2.1]
    exact (List.getElem?_eq_some_iff.1 here).1
  refine ⟨relay.early[t], List.getElem?_eq_getElem within, ?_⟩
  have stays {ref : ConnRef} {seat : Seat} (seated : busy.seats[ref]? = some seat) :
      seat.detaching = [] ↔ ref ∉ relay.early[t] ∧ seat.detaching = [] := by
    refine ⟨fun undetached => ⟨fun early => ?_, undetached⟩, And.right⟩
    exact sound.detached_of_early finished settled (List.getElem?_eq_getElem within) here early
      seated undetached
  have active := coherent.active_of_quiet (few busy member) quiet
  have each (ref : ConnRef) (seat : Seat) (seated : busy.seats[ref]? = some seat) :
      seat.conn.state = (if seat.detaching = [] then .open else .closed) ∧
        (seat.conn.state = .open ↔ ref ∉ relay.early[t] ∧ seat.detaching = []) ∧
        (ref ∈ busy.topic.tracker.values ↔ ref ∉ relay.early[t] ∧ seat.detaching = []) ∧
        ∀ channel, ref ∈ busy.topic.registry.membersOf channel ↔
          (ref ∉ relay.early[t] ∧ seat.detaching = []) ∧
            seat.conn.channel = some channel ∧ busy.topic.isKnown channel = true := by
    have state := sound.state_of_settled settled member (List.mem_of_getElem? seated)
    obtain ⟨tracked, registered⟩ := coherent.found_of_quiet quiet seated
    refine ⟨state, ?_, tracked.trans (stays seated), fun channel => ?_⟩
    · rw [state, ← stays seated]
      split
      · next undetached => simp [undetached]
      · next detaching => simp [detaching]
    · rw [registered channel, ← stays seated]
  refine ⟨each, active, fun all => ?_⟩
  have nobody {ref : ConnRef} {seat : Seat} (seated : busy.seats[ref]? = some seat) :
      ¬ (ref ∉ relay.early[t] ∧ seat.detaching = []) := fun left =>
    left.1 (all ref (List.getElem?_eq_some_iff.1 seated).1)
  have untracked : busy.topic.tracker.values = [] := by
    refine List.eq_nil_iff_forall_not_mem.2 fun ref tracked => ?_
    obtain ⟨id, entry⟩ := Table.mem_values.1 tracked
    obtain ⟨seat, seated, _⟩ := (coherent.tracked id ref).1 entry
    exact nobody seated ((each ref seat seated).2.2.1.1 tracked)
  refine ⟨?_, untracked, ?_, ?_⟩
  · intro seat present
    obtain ⟨ref, seated⟩ := List.getElem?_of_mem present
    have detaching : seat.detaching ≠ [] := fun undetached =>
      nobody seated ((stays seated).1 undetached)
    rw [(each ref seat seated).1, if_neg detaching]
  · intro channel
    refine List.eq_nil_iff_forall_not_mem.2 fun ref registered => ?_
    obtain ⟨seat, seated⟩ := coherent.seat_of_registered registered
    exact nobody seated (((each ref seat seated).2.2.2 channel).1 registered).1
  · have none : busy.topic.tracker.size = 0 := by
      rw [Table.size, ← List.length_map Prod.snd]
      exact congrArg List.length untracked
    exact UInt64.toNat_inj.1 (active.trans none)

/-- Of the first topic, one connection was open and another one only tracked when it was looked
through; both are terminated, and what they did meanwhile does not help them. A third one comes too
late. The connection of the second topic was there in time. -/
def crowdedClosing : List Move :=
  let steps (t ref : Nat) (n : Nat) : List Move :=
    List.replicate n (.within t (.attachStep ref))
  let ends (t ref : Nat) : List Move :=
    .within t (.detach ref) :: List.replicate 5 (.within t (.detachStep ref 0))
  [.accept ⟨0, default, some "a"⟩, .accept ⟨0, default, some "b"⟩, .accept ⟨0, default, some "a"⟩,
    .accept ⟨1, default, some "a"⟩, .enter 0] ++ steps 0 0 4 ++ [.enter 0] ++ steps 0 1 1 ++
  [.enter 1] ++ steps 1 0 4 ++ [.stopListening, .stopMonitors, .lookThrough, .terminateNext] ++
  steps 0 1 1 ++ [.terminateNext, .enter 0] ++ steps 0 2 4 ++ steps 0 1 2 ++ ends 0 0 ++ ends 0 1 ++
  [.lookThrough, .terminateNext] ++ ends 1 0

theorem left_after_shutdown_of_crowdedClosing :
    let relay := (serving .twoTopics).run crowdedClosing
    relay.Few ∧ relay.IsFinished ∧ relay.IsSettled ∧ relay.early = [[0, 1], [0]] ∧
      (∃ busy, relay.topics[0]? = some busy ∧ busy.topic.tracker.values = [2] ∧
        busy.topic.stats.connectionsActive.toNat = busy.topic.tracker.size ∧
        (busy.connections.map Connection.state) = [.closed, .closed, .open]) ∧
      ∃ busy, relay.topics[1]? = some busy ∧ busy.topic.tracker.values = [] ∧
        busy.topic.stats.connectionsActive = 0 ∧ ∀ seat ∈ busy.seats, seat.conn.state = .closed := by
  intro relay
  have few : relay.Few := by
    unfold Few
    decide +kernel
  have finished : relay.IsFinished := by decide +kernel
  have settled : relay.IsSettled := by decide +kernel
  have early : relay.early = [[0, 1], [0]] := by decide +kernel
  have left := left_after_shutdown .twoTopics rfl few finished settled
  have first : (relay.topics[0]?.map fun busy =>
      (busy.topic.tracker.values, busy.connections.map Connection.state)) =
        some ([2], [.closed, .closed, .open]) := by decide +kernel
  have second : (relay.topics[1]?.map fun busy => busy.seats.length) = some 1 := by decide +kernel
  obtain ⟨one, here, facts⟩ := Option.map_eq_some_iff.1 first
  obtain ⟨two, there, length⟩ := Option.map_eq_some_iff.1 second
  obtain ⟨tracked, states⟩ := Prod.mk.inj facts
  refine ⟨few, finished, settled, early, ⟨one, here, tracked, ?_, states⟩, two, there, ?_⟩
  · obtain ⟨_, _, _, active, _⟩ := left 0 one here
    exact active
  · obtain ⟨known, looked, _, _, all⟩ := left 1 two there
    have all_early : ∀ ref < two.seats.length, ref ∈ known := by
      intro ref within
      rw [early] at looked
      obtain rfl := Option.some.inj looked
      simpa [length] using within
    obtain ⟨closed, untracked, _, inactive⟩ := all all_early
    exact ⟨untracked, inactive, closed⟩

/-- A request is accepted, the whole shutdown runs, and only then the task of the request begins. -/
def lateUpgrade : List Move :=
  [.accept ⟨0, default, some "a"⟩, .stopListening, .stopMonitors, .lookThrough, .lookThrough,
    .enter 0] ++ List.replicate 4 (.within 0 (.attachStep 0))

/-- So a shutdown can leave an open subscriber behind. -/
theorem lateUpgrade_left_behind :
    let relay := (serving .twoTopics).run lateUpgrade
    relay.IsFinished ∧ relay.IsSettled ∧
      ∃ busy, relay.topics[0]? = some busy ∧
        busy.connections.map Connection.state = [.open] ∧ busy.topic.tracker.values = [0] ∧
        busy.topic.registry.membersOf "a" = [0] ∧ busy.topic.stats.connectionsActive = 1 := by
  intro relay
  have left : (relay.topics[0]?.map fun busy =>
      (busy.connections.map Connection.state, busy.topic.tracker.values,
        busy.topic.registry.membersOf "a", busy.topic.stats.connectionsActive)) =
        some ([.open], [0], [0], 1) := by decide +kernel
  obtain ⟨busy, here, facts⟩ := Option.map_eq_some_iff.1 left
  obtain ⟨states, rest⟩ := Prod.mk.inj facts
  obtain ⟨tracked, rest⟩ := Prod.mk.inj rest
  obtain ⟨registered, active⟩ := Prod.mk.inj rest
  exact ⟨by decide +kernel, by decide +kernel, busy, here, states, tracked, registered, active⟩

end ClosingRelay

end LiveRelay
