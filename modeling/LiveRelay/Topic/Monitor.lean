/-
Module: LiveRelay.Topic.Monitor
Purpose: When the background monitor of a topic runs its probe rounds.
Main exports: Monitor, lateness, dueRounds, Monitor.catchUp
-/
import LiveRelay.Config

namespace LiveRelay

/-- The background monitor of a topic: which topic it probes, how far apart its rounds are, and
when the next one is due. A monitor without a period never runs. -/
structure Monitor where
  topic : Nat
  period : Span
  due : Span
deriving Repr, DecidableEq, Inhabited

/-- How late a round may run and still leave the schedule as it is. -/
def lateness : Span := Span.ofMillis 5

/-- How many rounds run at one instant, and when the next one is due afterwards. A round that runs
too late starts the schedule anew; rounds that are hardly late are all made up for. -/
def dueRounds (period due now : Span) : Nat × Span :=
  if period = 0 ∨ now < due then (0, due)
  else if due + lateness < now then (1, now + period)
  else
    let rounds := (now - due) / period + 1
    (rounds, due + rounds * period)

/-- Whether a round of the monitor is due. -/
def Monitor.isReady (monitor : Monitor) (now : Span) : Bool :=
  monitor.period ≠ 0 ∧ monitor.due ≤ now

/-- The monitor after its rounds at an instant, and their number. -/
def Monitor.catchUp (monitor : Monitor) (now : Span) : Nat × Monitor :=
  let (rounds, due) := dueRounds monitor.period monitor.due now
  (rounds, { monitor with due := due })

end LiveRelay
