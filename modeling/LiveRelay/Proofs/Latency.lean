/-
Module: LiveRelay.Proofs.Latency
Purpose: How long the background monitor of a topic takes to terminate a connection that has fallen
  silent: more than one period after its last sign of life, and at most two.
Main exports: Hub.advanceTerminates, Hub.Punctual, Hub.Early, Hub.Timely, Life.detection_latency
-/
import LiveRelay.Proofs.Hub.Watch
import LiveRelay.Proofs.Liveness

namespace LiveRelay

open Net Hub

/-! ### What events do to the signs of a connection -/

namespace Connection

variable {conn : Connection}

theorem probe_of_terminated (terminated : conn.terminated = true) : conn.probe.2 = conn := by
  rw [snd_probe, if_pos terminated]

/-- Nothing survives two probes in a row. -/
theorem probe_probe (running : conn.terminated = false) :
    conn.probe.2.probe.2.terminated = true ∧ conn.probe.2.probe.2.alive = false := by
  obtain ⟨_, silent⟩ := probe_of_running running
  cases still : conn.probe.2.terminated with
  | true =>
      rw [probe_of_terminated still]
      exact ⟨still, silent⟩
  | false =>
      obtain ⟨ends, later⟩ := probe_of_running still
      exact ⟨ends.2 silent, later⟩

/-- Several probes, as far as the signs of the connection go. -/
theorem iterate_probe (running : conn.terminated = false) (rounds : Nat) :
    (((fun conn => conn.probe.2)^[rounds] conn).terminated = true ↔
      2 ≤ rounds ∨ rounds = 1 ∧ conn.alive = false) ∧
    ((fun conn => conn.probe.2)^[rounds] conn).alive = (conn.alive && rounds = 0) := by
  match rounds with
  | 0 => simp [running]
  | 1 => simp [probe_of_running running]
  | rounds + 2 =>
      obtain ⟨terminated, silent⟩ := probe_probe running
      have settled : (fun conn => conn.probe.2)^[rounds] conn.probe.2.probe.2 =
          conn.probe.2.probe.2 :=
        Function.iterate_fixed (probe_of_terminated terminated) rounds
      rw [Function.iterate_succ_apply, Function.iterate_succ_apply, settled]
      simp [terminated, silent]

end Connection

namespace Hub

variable {homes : List Attachment} {hub : Hub} {ref : ConnRef} {home : Attachment}
  {conn : Connection} {event : Event} {events rest : List Event} {span : Span}
  {period sign due : Nat}

/-- No event brings a terminated connection back. -/
theorem Event.terminated_effect (event : Event) (terminated : conn.terminated = true) :
    (event.effect conn).terminated = true := by
  cases event with
  | attach | spawnMonitor | detach | markAlive | dropQueues => exact terminated
  | broadcast t channel payload => exact Connection.terminated_trySend terminated payload
  | probe | advance =>
      change conn.probe.2.terminated = true
      rw [Connection.probe_of_terminated terminated]
      exact terminated
  | terminateAll | terminate => exact Connection.terminated_terminate conn
  | receive ref =>
      obtain ⟨queues, read⟩ := conn.snd_receive
      change conn.receive.2.terminated = true
      rw [read]
      exact terminated
  | receiveControl ref =>
      obtain ⟨queues, read⟩ := conn.snd_receiveControl
      change conn.receiveControl.2.terminated = true
      rw [read]
      exact terminated

/-- Only rounds take signs of life, and only marking a connection alive gives one. -/
theorem Event.alive_effect (untimed : ∀ span, event ≠ .advance span)
    (unprobed : ∀ t, event ≠ .probe t) (unmarked : ∀ other, event ≠ .markAlive other) :
    (event.effect conn).alive = conn.alive := by
  cases event with
  | attach | spawnMonitor | detach | dropQueues => rfl
  | broadcast t channel payload => exact Connection.alive_trySend conn payload
  | probe t => exact absurd rfl (unprobed t)
  | advance span => exact absurd rfl (untimed span)
  | markAlive other => exact absurd rfl (unmarked other)
  | terminateAll | terminate => exact Connection.alive_terminate conn
  | receive ref =>
      obtain ⟨queues, read⟩ := conn.snd_receive
      change conn.receive.2.alive = conn.alive
      rw [read]
  | receiveControl ref =>
      obtain ⟨queues, read⟩ := conn.snd_receiveControl
      change conn.receiveControl.2.alive = conn.alive
      rw [read]

/-! ### One connection on its hub -/

/-- Whether a connection is there and has given a sign of life that no round has taken. -/
def isAlive (hub : Hub) (ref : ConnRef) : Bool := hub.connections[ref]?.any (·.alive)

/-- Whether a move of the clock terminates a connection. -/
def advanceTerminates (hub : Hub) (span : Span) (ref : ConnRef) : Bool :=
  !hub.isTerminated ref && (hub.advance span).isTerminated ref

theorem isAlive_of_present (present : hub.connections[ref]? = some conn) :
    hub.isAlive ref = conn.alive := by
  rw [isAlive, present, Option.any_some]

theorem isTerminated_of_terminated (terminated : hub.isTerminated ref = true) (event : Event) :
    (hub.step event).2.isTerminated ref = true := by
  obtain ⟨conn, present, ended⟩ := (Option.any_eq_true _ _).1 terminated
  rw [isTerminated_of_present (getElem?_step present event)]
  exact Function.Iterate.rec (fun conn : Connection => conn.terminated = true) ended
    (fun _ => event.terminated_effect) _

/-- A connection keeps its sign of life while no round of its topic takes it and none is given. -/
theorem Resident.isAlive_step (resident : Resident homes hub ref home)
    (untimed : ∀ span, event ≠ .advance span) (unprobed : event ≠ .probe home.topic)
    (unmarked : event ≠ .markAlive ref) : (hub.step event).2.isAlive ref = hub.isAlive ref := by
  obtain ⟨conn, present⟩ := resident.present
  rw [isAlive_of_present (getElem?_step present event), isAlive_of_present present]
  by_cases reached : ref ∈ hub.reached event
  · have alive (conn : Connection) : (event.effect conn).alive = conn.alive := by
      refine Event.alive_effect untimed ?_ ?_
      · rintro t rfl
        exact unprobed (resident.tidy.topic_of_mem_trackedBy resident.found reached ▸ rfl)
      · rintro other rfl
        exact unmarked (List.mem_singleton.1 reached ▸ rfl)
    exact Connection.iterate_same Connection.alive alive _ conn
  · rw [List.count_eq_zero.2 reached, Function.iterate_zero, id]

theorem Resident.isAlive_markAlive (resident : Resident homes hub ref home) :
    (hub.step (.markAlive ref)).2.isAlive ref = true := by
  obtain ⟨conn, present⟩ := resident.present
  have marked := getElem?_step present (.markAlive ref)
  have once : (hub.reached (.markAlive ref)).count ref = 1 := List.count_singleton_self
  rw [once, Function.iterate_one] at marked
  rw [isAlive_of_present marked]
  rfl

/-- The rounds that probe a connection when the clock moves. -/
def probesDue (hub : Hub) (home : Attachment) (ref : ConnRef) (span : Span) : Nat :=
  if ref ∈ hub.trackedBy home.topic then hub.roundsDue span home.topic else 0

theorem Resident.getElem?_advance (resident : Resident homes hub ref home)
    (present : hub.connections[ref]? = some conn) (span : Span) :
    (hub.advance span).connections[ref]? =
      some ((fun conn => conn.probe.2)^[hub.probesDue home ref span] conn) := by
  rw [probesDue, ← resident.tidy.count_advance resident.found]
  exact getElem?_step present (.advance span)

/-- The clock moves, and rounds probe a connection that is not terminated. -/
theorem Resident.advance (resident : Resident homes hub ref home)
    (running : hub.isTerminated ref = false) (span : Span) :
    ((hub.advance span).isTerminated ref = true ↔ 2 ≤ hub.probesDue home ref span ∨
      hub.probesDue home ref span = 1 ∧ hub.isAlive ref = false) ∧
    (hub.advance span).isAlive ref = (hub.isAlive ref && hub.probesDue home ref span = 0) := by
  obtain ⟨conn, present⟩ := resident.present
  have later := resident.getElem?_advance present span
  rw [isTerminated_of_present present] at running
  rw [isTerminated_of_present later, isAlive_of_present later, isAlive_of_present present]
  exact Connection.iterate_probe running _

/-- Without rounds, a connection is as it was. -/
theorem Resident.advance_of_idle (resident : Resident homes hub ref home)
    (idle : hub.roundsDue span home.topic = 0) :
    (hub.advance span).isTerminated ref = hub.isTerminated ref ∧
      (hub.advance span).isAlive ref = hub.isAlive ref := by
  obtain ⟨conn, present⟩ := resident.present
  have later := resident.getElem?_advance present span
  rw [probesDue, idle, ite_self, Function.iterate_zero, id] at later
  simp only [isTerminated, isAlive, later, present, and_self]

theorem roundsDue_of_alone {t : Nat} (alone : hub.watch t = []) (span : Span) :
    hub.roundsDue span t = 0 := by
  rw [roundsDue_eq, alone]
  rfl

theorem Watched.roundsDue_of_early {t : Nat} (watched : Watched period t hub due)
    (early : hub.now + span < due) : hub.roundsDue span t = 0 := by
  rw [watched.roundsDue, dueRounds_of_early early]

theorem advanceTerminates_iff :
    hub.advanceTerminates span ref = true ↔
      hub.isTerminated ref = false ∧ (hub.advance span).isTerminated ref = true := by
  simp [advanceTerminates]

/-- A move of the clock that terminates a connection makes a round of a topic that tracks it run, and
two of them if the connection has given a sign of life. -/
theorem Resident.rounds_of_terminates (resident : Resident homes hub ref home)
    (terminates : hub.advanceTerminates span ref = true) :
    ref ∈ hub.trackedBy home.topic ∧ 1 ≤ hub.roundsDue span home.topic ∧
      (hub.isAlive ref = true → 2 ≤ hub.roundsDue span home.topic) := by
  obtain ⟨running, terminated⟩ := advanceTerminates_iff.1 terminates
  have rounds := (resident.advance running span).1.1 terminated
  rw [probesDue] at rounds
  split at rounds
  · next tracked =>
    rcases rounds with two | ⟨one, silent⟩
    · exact ⟨tracked, Nat.le_of_succ_le two, fun _ => two⟩
    · exact ⟨tracked, Nat.le_of_eq one.symm, fun alive => nomatch alive.symm.trans silent⟩
  · omega

/-! ### Not too early -/

/-- A connection gave a sign of life at time `sign`. The next round of its topic is due later, and
it is due more than a period later once a round has taken the sign. -/
inductive Early (period sign t : Nat) (ref : ConnRef) : Hub → List Event → Prop
  | waiting {hub : Hub} {rest : List Event} (alone : hub.watch t = [])
      (once : rest.count (.spawnMonitor t) = 1) (since : sign ≤ hub.now)
      (held : hub.isTerminated ref = true ∨ hub.isAlive ref = true) : Early period sign t ref hub rest
  | begun {hub : Hub} {rest : List Event} {due : Nat} (watched : Watched period t hub due)
      (once : rest.count (.spawnMonitor t) = 0) (ahead : sign < due)
      (held : hub.isTerminated ref = true ∨ hub.isAlive ref = true ∨ sign + period < due) :
      Early period sign t ref hub rest

namespace Early

theorem step (resident : Resident homes hub ref home) (paced : Paced period home.topic hub)
    (unprobed : event ≠ .probe home.topic) (unmarked : event ≠ .markAlive ref)
    (early : Early period sign home.topic ref hub (event :: rest)) :
    Early period sign home.topic ref (hub.step event).2 rest := by
  rcases event.clockwork home.topic with ⟨span, rfl⟩ | rfl | ⟨untimed, unwatched⟩
  · -- The clock moves: either no round runs, or one does and the next is a period later.
    cases early with
    | waiting alone once since held =>
        obtain ⟨terminated, alive⟩ := resident.advance_of_idle (roundsDue_of_alone alone span)
        rw [List.count_cons_of_ne (by simp)] at once
        rw [← terminated, ← alive] at held
        refine .waiting (watch_advance_of_alone alone span) once ?_ held
        rw [now_step]
        exact Nat.le_trans since (Nat.le_add_right _ _)
    | @begun due watched once ahead held =>
        rw [List.count_cons_of_ne (by simp)] at once
        have next := watched.advance paced.positive span
        by_cases soon : hub.now + span < due
        · obtain ⟨terminated, alive⟩ := resident.advance_of_idle (watched.roundsDue_of_early soon)
          rw [← terminated, ← alive] at held
          rw [dueRounds_of_early soon] at next
          exact .begun next once ahead held
        · have caught := caught_dueRounds paced.positive (Nat.le_of_not_lt soon)
          have apart := caught.apart
          exact .begun next once (by omega) (.inr (.inr (by omega)))
  · have still := resident.isAlive_step (by simp) unprobed unmarked
    cases early with
    | waiting alone once since held =>
        rw [List.count_cons_self] at once
        refine .begun (.of_spawnMonitor paced alone) (Nat.succ.inj once)
          (Nat.lt_of_le_of_lt since (Nat.lt_add_of_pos_right paced.positive)) ?_
        rcases held with terminated | alive
        · exact .inl (isTerminated_of_terminated terminated _)
        · exact .inr (.inl (still.trans alive))
    | begun watched once =>
        rw [List.count_cons_self] at once
        cases once
  · have still := resident.isAlive_step untimed unprobed unmarked
    cases early with
    | waiting alone once since held =>
        rw [List.count_cons_of_ne unwatched] at once
        refine .waiting ((watch_step_of_ne untimed unwatched).trans alone) once ?_ ?_
        · rw [now_step]
          exact Nat.le_trans since (Nat.le_add_right _ _)
        · rcases held with terminated | alive
          · exact .inl (isTerminated_of_terminated terminated _)
          · exact .inr (still.trans alive)
    | begun watched once ahead held =>
        rw [List.count_cons_of_ne unwatched] at once
        refine .begun (watched.step_of_ne untimed unwatched) once ahead ?_
        rcases held with terminated | alive | later
        · exact .inl (isTerminated_of_terminated terminated _)
        · exact .inr (.inl (still.trans alive))
        · exact .inr (.inr later)

theorem run (resident : Resident homes hub ref home) (paced : Paced period home.topic hub)
    (unprobed : .probe home.topic ∉ events) (unmarked : .markAlive ref ∉ events)
    (early : Early period sign home.topic ref hub (events ++ rest)) :
    Early period sign home.topic ref (hub.run events).2 rest := by
  induction events generalizing homes hub with
  | nil => exact early
  | cons event others ih =>
      rw [List.mem_cons, not_or] at unprobed unmarked
      exact ih (resident.step event) (paced.step event) unprobed.2 unmarked.2
        (early.step resident paced (Ne.symm unprobed.1) (Ne.symm unmarked.1))

/-- What terminates a connection comes more than a period after its sign of life. -/
theorem terminates (resident : Resident homes hub ref home) (paced : Paced period home.topic hub)
    (early : Early period sign home.topic ref hub rest)
    (terminates : hub.advanceTerminates span ref = true) : sign + period < hub.now + span := by
  obtain ⟨_, one, two⟩ := resident.rounds_of_terminates terminates
  cases early with
  | waiting alone =>
      rw [roundsDue_of_alone alone] at one
      cases one
  | @begun due watched once ahead held =>
      have isDue : due ≤ hub.now + span := by
        refine Nat.le_of_not_lt fun soon => ?_
        rw [watched.roundsDue_of_early soon] at one
        cases one
      have caught := caught_dueRounds paced.positive isDue
      rcases held with terminated | alive | later
      · cases terminated.symm.trans (advanceTerminates_iff.1 terminates).1
      · have several := two alive
        rw [watched.roundsDue] at several
        have apart := caught.several several
        omega
      · exact Nat.lt_of_lt_of_le later isDue

end Early

/-! ### Not too late -/

/-- No event carries the clock past the time at which the next round of a topic is due. -/
def Punctual (hub : Hub) (t : Nat) : List Event → Prop
  | [] => True
  | event :: events =>
    (∀ monitor ∈ hub.watch t, hub.now + event.elapsed ≤ monitor.due) ∧
      (hub.step event).2.Punctual t events

instance decidablePunctual (t : Nat) : (events : List Event) → (hub : Hub) →
    Decidable (hub.Punctual t events)
  | [], _ => inferInstanceAs (Decidable True)
  | _ :: events, _ =>
    have := decidablePunctual t events
    inferInstanceAs (Decidable (_ ∧ _))

theorem punctual_append {t : Nat} {one two : List Event} :
    hub.Punctual t (one ++ two) ↔ hub.Punctual t one ∧ (hub.run one).2.Punctual t two := by
  induction one generalizing hub with
  | nil =>
      rw [List.nil_append, Punctual, true_and]
      rfl
  | cons event others ih =>
      rw [List.cons_append, Punctual, Punctual, ih, and_assoc]
      rfl

/-- A connection gave a sign of life at time `sign`, and the monitor of its topic has been started
by then. The next round takes the sign within a period, and the one after it terminates the
connection within another. -/
inductive Timely (period sign t : Nat) (ref : ConnRef) : Hub → List Event → Prop
  | past {hub : Hub} {rest : List Event} (terminated : hub.isTerminated ref = true) :
      Timely period sign t ref hub rest
  | waiting {hub : Hub} {rest : List Event} (alone : hub.watch t = [])
      (once : rest.count (.spawnMonitor t) = 1) (alive : hub.isAlive ref = true)
      (started : ∀ one two, rest = one ++ .spawnMonitor t :: two → (hub.run one).2.now ≤ sign) :
      Timely period sign t ref hub rest
  | first {hub : Hub} {rest : List Event} {due : Nat} (watched : Watched period t hub due)
      (once : rest.count (.spawnMonitor t) = 0) (alive : hub.isAlive ref = true)
      (soon : due ≤ sign + period) : Timely period sign t ref hub rest
  | second {hub : Hub} {rest : List Event} {due : Nat} (watched : Watched period t hub due)
      (once : rest.count (.spawnMonitor t) = 0) (silent : hub.isAlive ref = false)
      (soon : due ≤ sign + 2 * period) : Timely period sign t ref hub rest

/-- A round that runs when it is due probes a connection that its topic tracks, once. -/
theorem Resident.advance_of_due (resident : Resident homes hub ref home)
    (running : hub.isTerminated ref = false) (tracked : ref ∈ hub.trackedBy home.topic)
    (one : hub.roundsDue span home.topic = 1) :
    ((hub.advance span).isTerminated ref = true ↔ hub.isAlive ref = false) ∧
      (hub.advance span).isAlive ref = false := by
  obtain ⟨ends, alive⟩ := resident.advance running span
  rw [probesDue, if_pos tracked, one] at ends alive
  rw [ends, alive]
  simp

namespace Timely

theorem advance (resident : Resident homes hub ref home) (paced : Paced period home.topic hub)
    (tracked : ref ∈ hub.trackedBy home.topic)
    (punctual : ∀ monitor ∈ hub.watch home.topic, hub.now + span ≤ monitor.due)
    (timely : Timely period sign home.topic ref hub (.advance span :: rest)) :
    Timely period sign home.topic ref (hub.advance span) rest := by
  cases running : hub.isTerminated ref with
  | true => exact .past (isTerminated_of_terminated running (.advance span))
  | false =>
  -- A round that is not due yet does not run; one that is due runs alone.
  have runs {due : Nat} (watched : Watched period home.topic hub due) :
      hub.now + span < due ∨ due = hub.now + span ∧ hub.roundsDue span home.topic = 1 := by
    have reached : hub.now + span ≤ due :=
      punctual ⟨home.topic, period, due⟩ (watched.watch ▸ List.mem_singleton_self _)
    rcases Nat.lt_or_eq_of_le reached with early | same
    · exact .inl early
    · refine .inr ⟨same.symm, ?_⟩
      rw [watched.roundsDue]
      exact (caught_dueRounds paced.positive (Nat.le_of_eq same.symm)).punctual same
  have soonAfter {due : Nat} (isDue : due = hub.now + span) :
      (dueRounds period due (hub.now + span)).2 ≤ due + period := by
    have soon := (caught_dueRounds paced.positive (Nat.le_of_eq isDue)).soon
    rw [← isDue] at soon ⊢
    exact soon
  cases timely with
  | past terminated => cases terminated.symm.trans running
  | waiting alone once alive started =>
      obtain ⟨_, still⟩ := resident.advance_of_idle (roundsDue_of_alone alone span)
      rw [List.count_cons_of_ne (by simp)] at once
      refine .waiting (watch_advance_of_alone alone span) once (still.trans alive) ?_
      rintro one two rfl
      exact started (.advance span :: one) two rfl
  | @first due watched once alive soon =>
      rw [List.count_cons_of_ne (by simp)] at once
      have next := watched.advance paced.positive span
      rcases runs watched with early | ⟨isDue, single⟩
      · obtain ⟨_, still⟩ := resident.advance_of_idle (watched.roundsDue_of_early early)
        rw [dueRounds_of_early early] at next
        exact .first next once (still.trans alive) soon
      · have silent := (resident.advance_of_due running tracked single).2
        exact .second next once silent (Nat.le_trans (soonAfter isDue) (by omega))
  | @second due watched once silent soon =>
      rw [List.count_cons_of_ne (by simp)] at once
      have next := watched.advance paced.positive span
      rcases runs watched with early | ⟨_, single⟩
      · obtain ⟨_, still⟩ := resident.advance_of_idle (watched.roundsDue_of_early early)
        rw [dueRounds_of_early early] at next
        exact .second next once (still.trans silent) soon
      · exact .past ((resident.advance_of_due running tracked single).1.2 silent)

theorem step (resident : Resident homes hub ref home) (paced : Paced period home.topic hub)
    (unprobed : event ≠ .probe home.topic) (unmarked : event ≠ .markAlive ref)
    (tracked : ref ∈ hub.trackedBy home.topic)
    (punctual : ∀ monitor ∈ hub.watch home.topic, hub.now + event.elapsed ≤ monitor.due)
    (timely : Timely period sign home.topic ref hub (event :: rest)) :
    Timely period sign home.topic ref (hub.step event).2 rest := by
  rcases event.clockwork home.topic with ⟨span, rfl⟩ | rfl | ⟨untimed, unwatched⟩
  · exact timely.advance resident paced tracked punctual
  · have still := resident.isAlive_step (by simp) unprobed unmarked
    cases timely with
    | past terminated => exact .past (isTerminated_of_terminated terminated _)
    | waiting alone once alive started =>
        rw [List.count_cons_self] at once
        refine .first (.of_spawnMonitor paced alone) (Nat.succ.inj once) (still.trans alive) ?_
        exact Nat.add_le_add_right (started [] rest rfl) period
    | first watched once | second watched once =>
        rw [List.count_cons_self] at once
        cases once
  · have still := resident.isAlive_step untimed unprobed unmarked
    cases timely with
    | past terminated => exact .past (isTerminated_of_terminated terminated _)
    | waiting alone once alive started =>
        rw [List.count_cons_of_ne unwatched] at once
        refine .waiting ((watch_step_of_ne untimed unwatched).trans alone) once (still.trans alive)
          ?_
        rintro one two rfl
        exact started (event :: one) two rfl
    | first watched once alive soon =>
        rw [List.count_cons_of_ne unwatched] at once
        exact .first (watched.step_of_ne untimed unwatched) once (still.trans alive) soon
    | second watched once silent soon =>
        rw [List.count_cons_of_ne unwatched] at once
        exact .second (watched.step_of_ne untimed unwatched) once (still.trans silent) soon

theorem run (resident : Resident homes hub ref home) (paced : Paced period home.topic hub)
    (unprobed : .probe home.topic ∉ events) (unmarked : .markAlive ref ∉ events)
    (tracked : ref ∈ (hub.run events).2.trackedBy home.topic)
    (punctual : hub.Punctual home.topic events)
    (timely : Timely period sign home.topic ref hub (events ++ rest)) :
    Timely period sign home.topic ref (hub.run events).2 rest := by
  induction events generalizing homes hub with
  | nil => exact timely
  | cons event others ih =>
      rw [List.mem_cons, not_or] at unprobed unmarked
      exact ih (resident.step event) (paced.step event) unprobed.2 unmarked.2 tracked punctual.2
        (timely.step resident paced (Ne.symm unprobed.1) (Ne.symm unmarked.1)
          (resident.mem_trackedBy_of_run tracked) punctual.1)

/-- What terminates a connection comes at most two periods after its sign of life. -/
theorem terminates (resident : Resident homes hub ref home)
    (punctual : ∀ monitor ∈ hub.watch home.topic, hub.now + span ≤ monitor.due)
    (timely : Timely period sign home.topic ref hub rest)
    (terminates : hub.advanceTerminates span ref = true) :
    hub.now + span ≤ sign + 2 * period := by
  have due_le {due : Nat} (watched : Watched period home.topic hub due) : hub.now + span ≤ due :=
    punctual ⟨home.topic, period, due⟩ (watched.watch ▸ List.mem_singleton_self _)
  cases timely with
  | past terminated => cases terminated.symm.trans (advanceTerminates_iff.1 terminates).1
  | waiting alone =>
      obtain ⟨_, one, _⟩ := resident.rounds_of_terminates terminates
      rw [roundsDue_of_alone alone] at one
      cases one
  | first watched once alive soon =>
      exact Nat.le_trans (due_le watched) (Nat.le_trans soon (by omega))
  | second watched once silent soon => exact Nat.le_trans (due_le watched) soon

/-- Two periods after its sign of life a connection is terminated. -/
theorem isTerminated (positive : 0 < period) (timely : Timely period sign home.topic ref hub rest)
    (passed : sign + 2 * period ≤ hub.now) : hub.isTerminated ref = true := by
  cases timely with
  | past terminated => exact terminated
  | waiting alone once alive started =>
      have member : Event.spawnMonitor home.topic ∈ rest :=
        List.count_pos_iff.1 (once ▸ Nat.zero_lt_one)
      obtain ⟨one, two, split⟩ := List.append_of_mem member
      have soon := Nat.le_trans (hub.now_le_run one) (started one two split)
      exact absurd (Nat.le_trans passed soon) (by omega)
  | first watched once alive soon =>
      have within : sign + period ≤ sign + 2 * period := by omega
      have soon := Nat.lt_of_lt_of_le watched.later (Nat.le_trans soon within)
      exact absurd passed (Nat.not_le.2 soon)
  | second watched once silent soon =>
      have soon := Nat.lt_of_lt_of_le watched.later soon
      exact absurd passed (Nat.not_le.2 soon)

end Timely

/-! ### How long a topic tracks a connection -/

theorem tracks_iff_mem_trackedBy {t : Nat} : hub.tracks t ref ↔ ref ∈ hub.trackedBy t := by
  rw [tracks, trackedBy]
  constructor
  · rintro ⟨topic, here, member⟩
    rw [named_of_here here]
    exact member
  · intro member
    cases here : hub.topics[t]? with
    | none => rw [named_of_none here] at member; cases member
    | some topic =>
        rw [named_of_here here] at member
        exact ⟨topic, rfl, member⟩

/-- A connection is closed for good once one of its concerns is to be detached. -/
theorem closed_foldl {subscribed : Bool} (concerns : List Concern) :
    (concerns.foldl (Connection.undergo subscribed) conn).state = .closed ↔
      .detach ∈ concerns ∨ conn.state = .closed := by
  induction concerns generalizing conn with
  | nil => simp
  | cons concern others ih =>
      rw [List.foldl_cons, ih, Connection.closed_undergo, List.mem_cons, eq_comm (a := concern)]
      exact or_left_comm.trans or_assoc.symm

theorem detach_mem_concerns (hub : Hub) :
    .detach ∈ hub.concerns home ref events ↔ ∃ t, .detach t ref ∈ events := by
  induction events generalizing hub with
  | nil => simp [concerns]
  | cons event others ih =>
      have first : .detach ∈ hub.concernsOf home ref event ↔ ∃ t, event = .detach t ref := by
        cases event with
        | advance span => simp [concernsOf]
        | _ => rw [concernsOf, Option.mem_toList, Connection.ofEvent?_eq_detach]; simp
      rw [concerns, List.mem_append, first, ih]
      simp [exists_or, eq_comm]

end Hub

namespace Life

variable {hub : Hub} {life : Life} {topic : Topic} {past quiet rest : List Event}

theorem resident (life : Life) (fresh : hub.Fresh)
    (placed : life.home.topic < hub.topics.length) :
    Resident (hub.attachments life.events) (life.ended hub) (life.ref hub) life.home where
  tidy := fresh.tidy_run life.events
  found := by
    rw [events, attachments_append, attachments_cons, attach, attachment?, if_pos placed, ref]
    simp

/-- A topic tracks a connection until the connection is detached, with or without monitors. -/
theorem tracked_iff (life : Life) (fresh : hub.Fresh) (placed : life.home.topic < hub.topics.length)
    (orderly : Orderly (hub.attachments life.events) life.events) :
    (life.ended hub).tracks life.home.topic (life.ref hub) ↔
      .detach life.home.topic (life.ref hub) ∉ life.after := by
  obtain ⟨topic, id, _, sound, holds⟩ := begins fresh orderly placed
  have here := ends sound holds orderly
  have found := (life.resident fresh placed).found
  obtain ⟨own, spot⟩ := (Holds.mk found here).spot (fresh.sound_run orderly)
  have opened : (life.newborn topic id).state ≠ .closed := nofun
  rw [spot.tracks_iff (fresh.sound_run orderly), Ne, closed_foldl, concerns, detach_mem_concerns,
    or_iff_left opened, not_exists]
  constructor
  · intro attached
    exact attached _
  · intro attached t detached
    have member : .detach t (life.ref hub) ∈ life.events := by
      rw [events_eq]
      exact List.mem_append_right _ detached
    rw [orderly.atHome t _ member _ found] at attached
    exact attached detached

/-- The last thing that happened so far in a life is a sign of life, be it the attachment. -/
def EndsAlive (hub : Hub) (life : Life) (past : List Event) : Prop :=
  past = [] ∨ past.getLast? = some (.markAlive (life.ref hub))

theorem isAlive_of_endsAlive (fresh : hub.Fresh) (placed : life.home.topic < hub.topics.length)
    (sign : life.EndsAlive hub past) :
    ((life.upTo past).ended hub).isAlive (life.ref hub) = true := by
  rcases sign with rfl | marked
  · have even := (fresh.tidy_run life.before).even
    have within : life.home.topic < (hub.run life.before).2.topics.length := by
      have same := congrArg List.length (cleared_run hub life.before)
      rw [List.length_map, List.length_map] at same
      rwa [same]
    have here := List.getElem?_eq_getElem within
    have begun : (life.upTo []).ended hub = ((hub.run life.before).2.step life.attach).2 := by
      rw [ended, events, run_append]
      rfl
    rw [isAlive, begun, attach, step_attach here, ref, even, List.getElem?_concat_length]
    rfl
  · obtain ⟨earlier, rfl⟩ := List.getLast?_eq_some_iff.1 marked
    have split : (life.upTo (earlier ++ [.markAlive (life.ref hub)])).after =
        earlier ++ [.markAlive (life.ref hub)] := rfl
    have last : (life.upTo (earlier ++ [.markAlive (life.ref hub)])).ended hub =
        (((life.upTo earlier).ended hub).step (.markAlive (life.ref hub))).2 := by
      rw [ended, events_upTo split, run_append]
      rfl
    rw [last]
    exact ((life.upTo earlier).resident fresh placed).isAlive_markAlive

theorem ended_upTo_append (past quiet : List Event) :
    (life.upTo (past ++ quiet)).ended hub = (((life.upTo past).ended hub).run quiet).2 := by
  have split : (life.upTo (past ++ quiet)).after = past ++ quiet := rfl
  rw [ended, events_upTo split, run_append]
  rfl

/-- Where the one monitor of the topic stands at some point of a life. -/
theorem vigil (fresh : hub.Fresh)
    (here : hub.topics[life.home.topic]? = some topic) (positive : 0 < topic.probeInterval)
    (once : life.events.count (.spawnMonitor life.home.topic) = 1)
    (split : life.after = past ++ rest) :
    Paced topic.probeInterval life.home.topic ((life.upTo past).ended hub) ∧
      Vigil topic.probeInterval life.home.topic ((life.upTo past).ended hub) rest := by
  have paced : Paced topic.probeInterval life.home.topic hub := ⟨positive, topic, here, rfl⟩
  have alone : hub.watch life.home.topic = [] := by rw [watch, fresh.monitors]; rfl
  rw [events_upTo split] at once
  exact ⟨paced.run _, (Vigil.waiting alone once).run paced⟩

theorem early (fresh : hub.Fresh) (here : hub.topics[life.home.topic]? = some topic)
    (positive : 0 < topic.probeInterval)
    (once : life.events.count (.spawnMonitor life.home.topic) = 1)
    (split : life.after = past ++ rest) (sign : life.EndsAlive hub past) :
    Early topic.probeInterval ((life.upTo past).ended hub).now life.home.topic (life.ref hub)
      ((life.upTo past).ended hub) rest := by
  have placed := (List.getElem?_eq_some_iff.1 here).1
  have alive := isAlive_of_endsAlive fresh placed sign
  cases (vigil fresh here positive once split).2 with
  | waiting alone once => exact .waiting alone once (Nat.le_refl _) (.inr alive)
  | begun watched once => exact .begun watched once watched.later (.inr (.inl alive))

theorem timely (fresh : hub.Fresh) (here : hub.topics[life.home.topic]? = some topic)
    (positive : 0 < topic.probeInterval)
    (once : life.events.count (.spawnMonitor life.home.topic) = 1)
    (split : life.after = past ++ rest) (sign : life.EndsAlive hub past)
    (started : ∀ one two, life.events = one ++ .spawnMonitor life.home.topic :: two →
      (hub.run one).2.now ≤ ((life.upTo past).ended hub).now) :
    Timely topic.probeInterval ((life.upTo past).ended hub).now life.home.topic (life.ref hub)
      ((life.upTo past).ended hub) rest := by
  have placed := (List.getElem?_eq_some_iff.1 here).1
  have alive := isAlive_of_endsAlive fresh placed sign
  cases (vigil fresh here positive once split).2 with
  | waiting alone once =>
      refine .waiting alone once alive ?_
      rintro one two rfl
      have soon := started ((life.upTo past).events ++ one) two
        (by rw [events_upTo split, List.append_assoc])
      rwa [run_append] at soon
  | begun watched once => exact .first watched once alive watched.soon

/-- One monitor watches a topic and no round is run by hand. Whatever moves the clock, and however
late rounds are or how many of them run at one instant: what the monitor terminates gave its last
sign of life more than a period earlier. Where the clock is never carried past a round that is due,
a connection whose last sign of life does not come before the start of the monitor is terminated by
it at most two periods after the sign, and two periods after it a connection that is still tracked
is terminated. A topic tracks a connection until the connection is detached. -/
theorem detection_latency (fresh : hub.Fresh) (here : hub.topics[life.home.topic]? = some topic)
    (positive : 0 < topic.probeInterval)
    (once : life.events.count (.spawnMonitor life.home.topic) = 1)
    (manual : .probe life.home.topic ∉ life.events) :
    (∀ past quiet span rest, life.after = past ++ quiet ++ .advance span :: rest →
      life.EndsAlive hub past → .markAlive (life.ref hub) ∉ quiet →
      ((life.upTo (past ++ quiet)).ended hub).advanceTerminates span (life.ref hub) = true →
      ((life.upTo past).ended hub).now + topic.probeInterval <
        ((life.upTo (past ++ quiet)).ended hub).now + span) ∧
    (∀ past quiet rest, life.after = past ++ quiet ++ rest →
      life.EndsAlive hub past → .markAlive (life.ref hub) ∉ quiet →
      (∀ one two, life.events = one ++ .spawnMonitor life.home.topic :: two →
        (hub.run one).2.now ≤ ((life.upTo past).ended hub).now) →
      ((life.upTo past).ended hub).Punctual life.home.topic quiet →
      (∀ one span two, quiet = one ++ .advance span :: two →
        ((life.upTo (past ++ one)).ended hub).advanceTerminates span (life.ref hub) = true →
        ((life.upTo (past ++ one)).ended hub).now + span ≤
          ((life.upTo past).ended hub).now + 2 * topic.probeInterval) ∧
      (((life.upTo (past ++ quiet)).ended hub).tracks life.home.topic (life.ref hub) →
        ((life.upTo past).ended hub).now + 2 * topic.probeInterval ≤
          ((life.upTo (past ++ quiet)).ended hub).now →
        ((life.upTo (past ++ quiet)).ended hub).isTerminated (life.ref hub) = true)) ∧
    (Orderly (hub.attachments life.events) life.events →
      ∀ past rest, life.after = past ++ rest →
        (((life.upTo past).ended hub).tracks life.home.topic (life.ref hub) ↔
          .detach life.home.topic (life.ref hub) ∉ past)) := by
  have placed := (List.getElem?_eq_some_iff.1 here).1
  -- No round is run by hand in any stretch of the life.
  have unprobed {past quiet rest : List Event} (split : life.after = past ++ quiet ++ rest) :
      .probe life.home.topic ∉ quiet := by
    intro member
    apply manual
    rw [events_eq, split]
    simp [member]
  refine ⟨?_, ?_, ?_⟩
  · intro past quiet span rest split sign silent terminates
    have resident := (life.upTo past).resident fresh placed
    have whole : life.after = past ++ (quiet ++ .advance span :: rest) := by
      rw [split, List.append_assoc]
    have paced := (vigil fresh here positive once whole).1
    have later := (early fresh here positive once whole sign).run resident paced (unprobed split)
      silent
    rw [ended_upTo_append] at terminates ⊢
    exact later.terminates (resident.run quiet) (paced.run quiet) terminates
  · intro past quiet rest split sign silent started punctual
    have resident := (life.upTo past).resident fresh placed
    have whole : life.after = past ++ (quiet ++ rest) := by rw [split, List.append_assoc]
    have paced := (vigil fresh here positive once whole).1
    have begun := timely fresh here positive once whole sign started
    constructor
    · rintro one span two rfl terminates
      rw [ended_upTo_append] at terminates ⊢
      rw [punctual_append] at punctual
      rw [List.mem_append, not_or] at silent
      rw [List.append_assoc] at begun
      have tracked := ((resident.run one).rounds_of_terminates terminates).1
      have still : .probe life.home.topic ∉ one := fun member =>
        unprobed split (List.mem_append_left _ member)
      have later := begun.run resident paced still silent.1 tracked punctual.1
      exact later.terminates (resident.run one) punctual.2.1 terminates
    · intro tracked passed
      rw [tracks_iff_mem_trackedBy] at tracked
      rw [ended_upTo_append] at tracked passed ⊢
      have later := begun.run resident paced (unprobed split) silent tracked punctual
      exact later.isTerminated positive passed
  · intro orderly past rest split
    exact (life.upTo past).tracked_iff fresh placed (orderly_upTo split orderly)

/-- A monitor is started, half a second later a connection is attached, and after the first round it
gives one sign of life, at the very instant of the round. -/
def markedAtRound : Life where
  before := [.spawnMonitor 0, .advance (Span.ofMillis 500)]
  home := ⟨0, default, some "a"⟩
  after := [.advance (Span.ofMillis 1500), .markAlive 0, .advance (Span.ofMillis 2000),
    .broadcast 0 "a" [1], .receive 0, .advance (Span.ofMillis 2000)]

/-- Rounds are two seconds apart. The sign comes at two seconds and the end at six: more than one
period later, and no more than two. -/
theorem detection_latency_of_markedAtRound :
    (Hub.new .twoTopics).Fresh ∧
      (∃ topic, (Hub.new .twoTopics).topics[markedAtRound.home.topic]? = some topic ∧
        topic.probeInterval = Span.ofMillis 2000) ∧
      markedAtRound.events.count (.spawnMonitor markedAtRound.home.topic) = 1 ∧
      .probe markedAtRound.home.topic ∉ markedAtRound.events ∧
      Orderly ((Hub.new .twoTopics).attachments markedAtRound.events) markedAtRound.events ∧
      ((markedAtRound.upTo [.advance (Span.ofMillis 1500), .markAlive 0]).ended
        (Hub.new .twoTopics)).now + Span.ofMillis 2000 < Span.ofMillis 6000 ∧
      Span.ofMillis 6000 ≤ ((markedAtRound.upTo [.advance (Span.ofMillis 1500), .markAlive 0]).ended
        (Hub.new .twoTopics)).now + 2 * Span.ofMillis 2000 ∧
      (markedAtRound.ended (Hub.new .twoTopics)).now = Span.ofMillis 6000 ∧
      (markedAtRound.ended (Hub.new .twoTopics)).isTerminated 0 = true := by
  let past : List Event := [.advance (Span.ofMillis 1500), .markAlive 0]
  let between : List Event := [.advance (Span.ofMillis 2000), .broadcast 0 "a" [1], .receive 0]
  have fresh := fresh_new .twoTopics
  have here : (Hub.new .twoTopics).topics[markedAtRound.home.topic]? = some
      (Topic.new ⟨"one", default, .ofList ["a", "b"], []⟩ .twoTopics) := rfl
  have once : markedAtRound.events.count (.spawnMonitor markedAtRound.home.topic) = 1 := by decide
  have manual : .probe markedAtRound.home.topic ∉ markedAtRound.events := by decide
  have orderly :
      Orderly ((Hub.new .twoTopics).attachments markedAtRound.events) markedAtRound.events := by
    decide
  have started : ∀ one two, markedAtRound.events = one ++ .spawnMonitor 0 :: two →
      ((Hub.new .twoTopics).run one).2.now ≤
        ((markedAtRound.upTo past).ended (Hub.new .twoTopics)).now := by
    rintro (_ | ⟨first, others⟩) two split
    · exact Nat.zero_le _
    · have again : .spawnMonitor 0 ∈ markedAtRound.events.tail := by
        rw [split]
        simp
      exact absurd again (by decide)
  have punctual : ((markedAtRound.upTo past).ended (Hub.new .twoTopics)).Punctual
      markedAtRound.home.topic (between ++ [.advance (Span.ofMillis 2000)]) := by decide +kernel
  have terminates : ((markedAtRound.upTo (past ++ between)).ended
      (Hub.new .twoTopics)).advanceTerminates (Span.ofMillis 2000) 0 = true := by decide +kernel
  have tracked : ((markedAtRound.upTo (past ++ (between ++ [.advance (Span.ofMillis 2000)]))).ended
      (Hub.new .twoTopics)).tracks 0 0 := by
    rw [tracks_iff_mem_trackedBy]
    decide +kernel
  have ends : ((markedAtRound.upTo (past ++ between)).ended (Hub.new .twoTopics)).now +
      Span.ofMillis 2000 = Span.ofMillis 6000 := by decide +kernel
  obtain ⟨notEarly, notLate, _⟩ := detection_latency fresh here (by decide) once manual
  have early := notEarly past between (Span.ofMillis 2000) [] rfl (.inr rfl) (by decide) terminates
  obtain ⟨late, ended⟩ := notLate past (between ++ [.advance (Span.ofMillis 2000)]) [] rfl
    (.inr rfl) (by decide) started punctual
  have soon := late between (Span.ofMillis 2000) [] rfl terminates
  rw [ends] at early soon
  exact ⟨fresh, ⟨_, here, rfl⟩, once, manual, orderly, early, soon, by decide +kernel,
    ended tracked (by decide +kernel)⟩

end Life

end LiveRelay
