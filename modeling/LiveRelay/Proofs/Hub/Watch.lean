/-
Module: LiveRelay.Proofs.Hub.Watch
Purpose: The monitors that watch a topic: when their rounds run, how many run at one instant, and
  when the next one is due.
Main exports: Caught, caught_dueRounds, Hub.watch, Hub.roundsDue_eq, Hub.now_step,
  Hub.Watched, Hub.Watched.advance, Hub.Vigil, Hub.Vigil.run
-/
import LiveRelay.Proofs.Hub.Tidy

namespace LiveRelay

open Net

/-! ### The schedule of one monitor -/

section

variable {period due now : Nat}

theorem dueRounds_of_early (early : now < due) : dueRounds period due now = (0, due) :=
  if_pos (.inr early)

/-- What is true of the rounds that run at an instant, from the due time of the first to that of the
next one: it is too early for another one, they are at least a period apart, and the next one is due
within a period. -/
structure Caught (period due now : Nat) (caught : Nat × Nat) : Prop where
  some : 1 ≤ caught.1
  later : now < caught.2
  apart : due + period ≤ caught.2
  soon : caught.2 ≤ now + period
  several : 2 ≤ caught.1 → due + period ≤ now
  punctual : now = due → caught.1 = 1

theorem caught_dueRounds (positive : 0 < period) (isDue : due ≤ now) :
    Caught period due now (dueRounds period due now) := by
  have periodic : ¬ (period = 0 ∨ now < due) := by omega
  rw [dueRounds, if_neg periodic]
  by_cases late : due + lateness < now
  · rw [if_pos late]
    have behind : due ≤ now := isDue
    exact ⟨Nat.le_refl 1, Nat.lt_add_of_pos_right positive, Nat.add_le_add_right behind period,
      Nat.le_refl _, nofun, fun _ => rfl⟩
  · rw [if_neg late]
    have whole := Nat.div_add_mod (now - due) period
    have part := Nat.mod_lt (now - due) positive
    have rounds : ((now - due) / period + 1) * period =
        period * ((now - due) / period) + period := by rw [Nat.add_mul, Nat.one_mul, Nat.mul_comm]
    have several (first : 1 ≤ (now - due) / period) : period ≤ period * ((now - due) / period) :=
      Nat.le_mul_of_pos_right period first
    dsimp only
    rw [rounds]
    generalize period * ((now - due) / period) = full at *
    constructor
    case some => exact Nat.le_add_left 1 _
    case later => dsimp only; omega
    case apart => dsimp only; omega
    case soon => dsimp only; omega
    case several =>
      intro two
      have atLeast := several (Nat.le_of_succ_le_succ two)
      omega
    case punctual =>
      rintro rfl
      simp

end

/-- A monitor that is not ready has nothing to catch up with. -/
theorem Monitor.catchUp_of_not_ready {monitor : Monitor} {now : Span}
    (waits : monitor.isReady now = false) : monitor.catchUp now = (0, monitor) := by
  have early : monitor.period = 0 ∨ now < monitor.due := by
    simpa [isReady, or_iff_not_imp_left] using waits
  rw [catchUp, dueRounds, if_pos early]

namespace Hub

variable {hub : Hub} {t : Nat} {event : Event}

/-! ### The monitors of a topic -/

/-- The monitors that watch a topic. -/
def watch (hub : Hub) (t : Nat) : List Monitor := hub.monitors.filter (·.topic = t)

theorem monitors_probeTimes (hub : Hub) (t rounds : Nat) :
    (hub.probeTimes t rounds).monitors = hub.monitors := by
  induction rounds generalizing hub with
  | zero => rfl
  | succ rounds ih =>
      rw [probeTimes, ih, onTopic]
      split <;> rfl

theorem monitors_runMonitors (hub : Hub) (monitors : List Monitor) :
    (hub.runMonitors monitors).monitors =
      hub.monitors ++ monitors.map fun monitor => (monitor.catchUp hub.now).2 := by
  induction monitors generalizing hub with
  | nil => exact (List.append_nil _).symm
  | cons monitor others ih =>
      have now : (hub.afterRounds monitor).now = hub.now := now_probeTimes hub _ _
      rw [runMonitors_cons, ih, now, afterRounds]
      simp only [monitors_probeTimes, List.append_assoc, List.map_cons, List.singleton_append]

theorem now_runMonitors (hub : Hub) (monitors : List Monitor) :
    (hub.runMonitors monitors).now = hub.now := by
  induction monitors generalizing hub with
  | nil => rfl
  | cons monitor others ih =>
      rw [runMonitors_cons, ih]
      exact now_probeTimes hub _ _

theorem now_advance (hub : Hub) (span : Span) : (hub.advance span).now = hub.now + span := by
  rw [advance_eq, now_runMonitors]
  rfl

/-- When the clock moves, every monitor catches up, in whatever order. -/
theorem monitors_advance (hub : Hub) (span : Span) :
    (hub.advance span).monitors.Perm
      (hub.monitors.map fun monitor => (monitor.catchUp (hub.now + span)).2) := by
  let caughtUp (monitor : Monitor) : Monitor := (monitor.catchUp (hub.now + span)).2
  have waits : hub.monitors.filter (fun monitor => !monitor.isReady (hub.now + span)) =
      (hub.monitors.filter fun monitor => !monitor.isReady (hub.now + span)).map caughtUp := by
    symm
    rw [List.map_congr_left (g := id), List.map_id]
    intro monitor member
    have early : monitor.isReady (hub.now + span) = false := by
      simpa using (List.mem_filter.1 member).2
    exact congrArg Prod.snd (Monitor.catchUp_of_not_ready early)
  have runs : ((hub.readyAfter span).map caughtUp).Perm
      ((hub.monitors.filter (·.isReady (hub.now + span))).map caughtUp) :=
    (List.mergeSort_perm _ _).map caughtUp
  have split := List.filter_append_perm (fun monitor => monitor.isReady (hub.now + span))
    hub.monitors
  rw [advance_eq, monitors_runMonitors, beforeRounds, waits]
  refine (runs.append_left _).trans ?_
  rw [← List.map_append]
  exact ((List.perm_append_comm.trans split).map caughtUp)

/-- A topic that one monitor watches is watched by that one when the clock has moved. -/
theorem watch_advance_perm (hub : Hub) (span : Span) (t : Nat) :
    ((hub.advance span).watch t).Perm
      ((hub.watch t).map fun monitor => (monitor.catchUp (hub.now + span)).2) := by
  have same := (monitors_advance hub span).filter (·.topic = t)
  rw [List.filter_map] at same
  exact same

theorem roundsDue_eq (hub : Hub) (span : Span) (t : Nat) :
    hub.roundsDue span t =
      ((hub.watch t).map fun monitor => (monitor.catchUp (hub.now + span)).1).sum := by
  rw [roundsDue, roundsAt, watch, List.filter_filter]
  induction hub.monitors with
  | nil => rfl
  | cons monitor others ih =>
      by_cases own : monitor.topic = t
      · cases ready : monitor.isReady (hub.now + span) with
        | true => simp [ready, own, ih]
        | false => simp [ready, own, ih, Monitor.catchUp_of_not_ready ready]
      · simp [own, ih]

/-! ### Every event -/

/-- How far an event moves the clock. -/
def Event.elapsed : Event → Span
  | .advance span => span
  | _ => 0

theorem now_onTopic {α : Type} (f : Topic → Connections → α × Topic × Connections) :
    (hub.onTopic t f).2.now = hub.now ∧ (hub.onTopic t f).2.monitors = hub.monitors := by
  unfold onTopic
  split <;> exact ⟨rfl, rfl⟩

/-- Only a move of the clock and the start of a monitor change the clock and the monitors. -/
theorem now_step_of_ne (untimed : ∀ span, event ≠ .advance span)
    (unwatched : ∀ t, event ≠ .spawnMonitor t) :
    (hub.step event).2.now = hub.now ∧ (hub.step event).2.monitors = hub.monitors := by
  cases event with
  | advance span => exact absurd rfl (untimed span)
  | spawnMonitor t => exact absurd rfl (unwatched t)
  | attach t peer channel => exact now_onTopic fun topic conns => topic.attach conns peer channel
  | detach t ref => exact now_onTopic fun topic conns => ((), topic.detach conns ref)
  | broadcast t channel payload =>
      exact now_onTopic fun topic conns => topic.broadcast conns channel payload
  | probe t => exact now_onTopic Topic.probe
  | terminateAll t =>
      exact now_onTopic fun topic conns =>
        ((topic.terminateAll conns).1, topic, (topic.terminateAll conns).2)
  | terminate | markAlive | receive | receiveControl | dropQueues => exact ⟨rfl, rfl⟩

/-- The clock moves as far as events move it. -/
theorem now_step (hub : Hub) (event : Event) :
    (hub.step event).2.now = hub.now + event.elapsed := by
  cases event with
  | advance span => exact now_advance hub span
  | spawnMonitor t =>
      change (hub.spawnMonitor t).now = hub.now
      unfold spawnMonitor
      split <;> rfl
  | _ => exact (now_step_of_ne (by simp) (by simp)).1

theorem now_le_run (hub : Hub) (events : List Event) : hub.now ≤ (hub.run events).2.now := by
  induction events generalizing hub with
  | nil => exact Nat.le_refl _
  | cons event others ih =>
      refine Nat.le_trans ?_ (ih (hub.step event).2)
      rw [now_step]
      exact Nat.le_add_right _ _

/-- The monitors of a topic stay as they are until the clock moves or one is started on the topic. -/
theorem watch_step_of_ne (untimed : ∀ span, event ≠ .advance span)
    (unwatched : event ≠ .spawnMonitor t) : (hub.step event).2.watch t = hub.watch t := by
  cases event with
  | advance span => exact absurd rfl (untimed span)
  | spawnMonitor s =>
      have elsewhere : s ≠ t := fun same => unwatched (same ▸ rfl)
      change (hub.spawnMonitor s).watch t = hub.watch t
      rw [spawnMonitor, watch, watch]
      split
      · rfl
      · simp [elsewhere]
  | _ => rw [watch, (now_step_of_ne (by simp) (by simp)).2, watch]

/-- A monitor that starts has its first round due after one period. -/
theorem watch_spawnMonitor {topic : Topic} (here : hub.topics[t]? = some topic) :
    (hub.step (.spawnMonitor t)).2.watch t =
      hub.watch t ++ [⟨t, topic.probeInterval, hub.now + topic.probeInterval⟩] := by
  change (hub.spawnMonitor t).watch t = _
  rw [spawnMonitor, here, watch, List.filter_append]
  simp [watch]

/-! ### A topic with one monitor -/

/-- A topic is there, and its rounds are a period apart. -/
structure Paced (period t : Nat) (hub : Hub) : Prop where
  positive : 0 < period
  here : ∃ topic, hub.topics[t]? = some topic ∧ topic.probeInterval = period

theorem Paced.step {period : Nat} (paced : Paced period t hub) (event : Event) :
    Paced period t (hub.step event).2 := by
  obtain ⟨positive, topic, here, interval⟩ := paced
  have cleared : ((hub.step event).2.topics.map Topic.cleared)[t]? = some topic.cleared := by
    rw [cleared_step, List.getElem?_map, here, Option.map_some]
  rw [List.getElem?_map] at cleared
  obtain ⟨later, there, same⟩ := Option.map_eq_some_iff.1 cleared
  have kept : later.cleared.probeInterval = topic.cleared.probeInterval := by rw [same]
  exact ⟨positive, later, there, kept.trans interval⟩

theorem Paced.run {period : Nat} (paced : Paced period t hub) (events : List Event) :
    Paced period t (hub.run events).2 := by
  induction events generalizing hub with
  | nil => exact paced
  | cons event others ih => exact ih (paced.step event)

/-- One monitor watches a topic, and its next round is due later than now, within a period. -/
structure Watched (period t : Nat) (hub : Hub) (due : Nat) : Prop where
  watch : hub.watch t = [⟨t, period, due⟩]
  later : hub.now < due
  soon : due ≤ hub.now + period

namespace Watched

variable {period due : Nat}

/-- The number of rounds that run when the clock moves. -/
theorem roundsDue (watched : Watched period t hub due) (span : Span) :
    hub.roundsDue span t = (dueRounds period due (hub.now + span)).1 := by
  rw [roundsDue_eq, watched.watch]
  rfl

/-- The clock moves, and the monitor runs its rounds. -/
theorem advance (watched : Watched period t hub due) (positive : 0 < period) (span : Span) :
    Watched period t (hub.advance span) (dueRounds period due (hub.now + span)).2 := by
  have one : (hub.advance span).watch t =
      [⟨t, period, (dueRounds period due (hub.now + span)).2⟩] := by
    have same := watch_advance_perm hub span t
    rw [watched.watch] at same
    exact List.perm_singleton.1 same
  by_cases early : hub.now + span < due
  · rw [dueRounds_of_early early] at one ⊢
    refine ⟨one, ?_, ?_⟩
    · rw [now_advance]
      exact early
    · rw [now_advance]
      exact Nat.le_trans watched.soon (Nat.add_le_add_right (Nat.le_add_right _ _) _)
  · have caught := caught_dueRounds positive (Nat.le_of_not_lt early)
    refine ⟨one, ?_, ?_⟩
    · rw [now_advance]
      exact caught.later
    · rw [now_advance]
      exact caught.soon

theorem step_of_ne (watched : Watched period t hub due) (untimed : ∀ span, event ≠ .advance span)
    (unwatched : event ≠ .spawnMonitor t) : Watched period t (hub.step event).2 due := by
  have now : (hub.step event).2.now = hub.now := by
    rw [now_step]
    cases event with
    | advance span => exact absurd rfl (untimed span)
    | _ => rfl
  refine ⟨?_, ?_, ?_⟩
  · rw [watch_step_of_ne untimed unwatched, watched.watch]
  · rw [now]
    exact watched.later
  · rw [now]
    exact watched.soon

/-- A monitor starts on a topic that has none. -/
theorem of_spawnMonitor (paced : Paced period t hub) (alone : hub.watch t = []) :
    Watched period t (hub.step (.spawnMonitor t)).2 (hub.now + period) := by
  obtain ⟨positive, topic, here, rfl⟩ := paced
  have now : (hub.step (.spawnMonitor t)).2.now = hub.now := now_step hub _
  refine ⟨?_, ?_, ?_⟩
  · rw [watch_spawnMonitor here, alone, List.nil_append]
  · rw [now]
    exact Nat.lt_add_of_pos_right positive
  · exact Nat.le_of_eq (congrArg (· + topic.probeInterval) now.symm)

end Watched

/-! ### A topic on which one monitor is started once -/

/-- The one monitor of a topic is yet to be started, or it watches the topic and no other will. -/
inductive Vigil (period t : Nat) : Hub → List Event → Prop
  | waiting {hub : Hub} {rest : List Event} (alone : hub.watch t = [])
      (once : rest.count (.spawnMonitor t) = 1) : Vigil period t hub rest
  | begun {hub : Hub} {rest : List Event} {due : Nat} (watched : Watched period t hub due)
      (once : rest.count (.spawnMonitor t) = 0) : Vigil period t hub rest

/-- An event moves the clock, or starts a monitor on a topic, or does neither. -/
theorem Event.clockwork (event : Event) (t : Nat) :
    (∃ span, event = .advance span) ∨ event = .spawnMonitor t ∨
      (∀ span, event ≠ .advance span) ∧ event ≠ .spawnMonitor t := by
  cases event with
  | advance span => exact .inl ⟨span, rfl⟩
  | spawnMonitor s =>
      by_cases same : s = t
      · exact .inr (.inl (same ▸ rfl))
      · exact .inr (.inr ⟨by simp, by simpa using same⟩)
  | _ => exact .inr (.inr ⟨by simp, by simp⟩)

theorem watch_advance_of_alone (alone : hub.watch t = []) (span : Span) :
    (hub.advance span).watch t = [] := by
  have same := watch_advance_perm hub span t
  rw [alone] at same
  exact List.perm_nil.1 same

namespace Vigil

variable {period : Nat} {rest : List Event}

theorem step (paced : Paced period t hub) (vigil : Vigil period t hub (event :: rest)) :
    Vigil period t (hub.step event).2 rest := by
  rcases event.clockwork t with ⟨span, rfl⟩ | rfl | ⟨untimed, unwatched⟩
  · cases vigil with
    | waiting alone once =>
        rw [List.count_cons_of_ne (by simp)] at once
        exact .waiting (watch_advance_of_alone alone span) once
    | begun watched once =>
        rw [List.count_cons_of_ne (by simp)] at once
        exact .begun (watched.advance paced.positive span) once
  · cases vigil with
    | waiting alone once =>
        rw [List.count_cons_self] at once
        exact .begun (.of_spawnMonitor paced alone) (Nat.succ.inj once)
    | begun watched once =>
        rw [List.count_cons_self] at once
        cases once
  · cases vigil with
    | waiting alone once =>
        rw [List.count_cons_of_ne unwatched] at once
        exact .waiting ((watch_step_of_ne untimed unwatched).trans alone) once
    | begun watched once =>
        rw [List.count_cons_of_ne unwatched] at once
        exact .begun (watched.step_of_ne untimed unwatched) once

theorem run (paced : Paced period t hub) {events : List Event}
    (vigil : Vigil period t hub (events ++ rest)) : Vigil period t (hub.run events).2 rest := by
  induction events generalizing hub with
  | nil => exact vigil
  | cons event others ih => exact ih (paced.step event) (vigil.step paced)

end Vigil

end Hub

end LiveRelay
