/-
Module: LiveRelay.Proofs.Relay.Shutdown
Purpose: A relay that is shut down while its upgrades are still on their way. The actions of the
  shutdown, the beginnings of accepted upgrades, the steps of all calls that attach and detach
  connections and everything that is done to the connections mix in any order.
Main exports: Upgrade, ClosingRelay, ClosingRelay.Move, ClosingRelay.step, ClosingRelay.run,
  ClosingRelay.IsFinished, ClosingRelay.IsSettled, ClosingRelay.run_closeTopic
-/
import LiveRelay.Proofs.Consistency

namespace LiveRelay

open Net

/-- A subscriber whose request was accepted and whose task has not begun yet. -/
structure Upgrade where
  topic : Nat
  peer : SocketAddress
  channel : Option Channel
deriving Repr, DecidableEq

/-- A relay with its topics, its accepted upgrades, and how far its shutdown has come: whether it
listens, whether its monitors run, which connections had been tracked when each topic so far was
looked through, and whom of the last of them it still has to terminate. -/
structure ClosingRelay where
  topics : List BusyTopic
  upgrades : List Upgrade
  listening : Bool
  monitoring : Bool
  early : List (List ConnRef)
  due : List ConnRef

/-- The connections that have been tracked at some time. -/
def BusyTopic.arrived (busy : BusyTopic) : List ConnRef :=
  (List.range busy.seats.length).filter fun ref =>
    busy.seats[ref]?.any fun seat => seat.attaching.hasTracked

theorem BusyTopic.mem_arrived {busy : BusyTopic} {ref : ConnRef} (member : ref ∈ busy.arrived) :
    ∃ seat, busy.seats[ref]? = some seat ∧ seat.attaching.hasTracked = true := by
  obtain ⟨_, tracked⟩ := List.mem_filter.1 member
  exact (Option.any_eq_true _ _).1 tracked

namespace ClosingRelay

/-- A relay that serves, before anybody has come. -/
def serving (config : RelayConfig) : ClosingRelay where
  topics := config.topics.map fun topic => .idle (.new topic config)
  upgrades := []
  listening := true
  monitoring := true
  early := []
  due := []

/-- Everything that can happen next: a request is accepted, the task of an accepted one begins to
attach its connection, something goes on at a topic, or the shutdown takes its next action. -/
inductive Move where
  | accept (upgrade : Upgrade)
  | enter (k : Nat)
  | within (topic : Nat) (move : BusyTopic.Move)
  | stopListening
  | stopMonitors
  | lookThrough
  | terminateNext
deriving Repr, DecidableEq

/-- What goes on at a topic by itself. Connections come from upgrades only, and only the monitors
probe them. -/
def allows (relay : ClosingRelay) : BusyTopic.Move → Bool
  | .attach _ _ => false
  | .touch _ .probe | .countTerminated _ => relay.monitoring
  | _ => true

/-- Something happens at one topic. -/
def onTopic (relay : ClosingRelay) (t : Nat) (move : BusyTopic.Move) : ClosingRelay :=
  { relay with topics := relay.topics.modify t (·.step move) }

/-- One move. The actions of the shutdown come in their order, and one that is not the next one does
nothing. The topics are looked through one after another, each as soon as all found at the one
before are terminated. -/
def step (relay : ClosingRelay) : Move → ClosingRelay
  | .accept upgrade =>
    if relay.listening then { relay with upgrades := relay.upgrades ++ [upgrade] } else relay
  | .enter k =>
    match relay.upgrades[k]? with
    | none => relay
    | some upgrade =>
      { relay.onTopic upgrade.topic (.attach upgrade.peer upgrade.channel) with
        upgrades := relay.upgrades.eraseIdx k }
  | .within t move => if relay.allows move then relay.onTopic t move else relay
  | .stopListening => { relay with listening := false }
  | .stopMonitors => if relay.listening then relay else { relay with monitoring := false }
  | .lookThrough =>
    match relay.monitoring, relay.due, relay.topics[relay.early.length]? with
    | false, [], some busy =>
      { relay with early := relay.early ++ [busy.arrived], due := busy.topic.tracker.values }
    | _, _, _ => relay
  | .terminateNext =>
    match relay.due with
    | [] => relay
    | ref :: others =>
      { relay.onTopic (relay.early.length - 1) (.touch ref .terminate) with due := others }

/-- Moves one after another. -/
def run (relay : ClosingRelay) (moves : List Move) : ClosingRelay := moves.foldl step relay

/-- The shutdown is over. -/
def IsFinished (relay : ClosingRelay) : Prop :=
  relay.listening = false ∧ relay.monitoring = false ∧
    relay.early.length = relay.topics.length ∧ relay.due = []

/-- All tasks of connections have come to rest: every accepted upgrade has attached its connection,
whoever was terminated has been detached, and every call has returned. -/
def IsSettled (relay : ClosingRelay) : Prop :=
  relay.upgrades = [] ∧ ∀ busy ∈ relay.topics, busy.IsQuiet ∧
    ∀ seat ∈ busy.seats, seat.conn.terminated = true → seat.detaching ≠ []

instance (busy : BusyTopic) : Decidable busy.IsQuiet :=
  inferInstanceAs (Decidable (∀ seat ∈ busy.seats, seat.attaching = .returned ∧
    ∀ stage ∈ seat.detaching, ∃ counted, stage = .returned counted))

instance (relay : ClosingRelay) : Decidable relay.IsFinished :=
  inferInstanceAs (Decidable (_ ∧ _))

instance (relay : ClosingRelay) : Decidable relay.IsSettled :=
  inferInstanceAs (Decidable (_ ∧ ∀ busy ∈ relay.topics, _ ∧ ∀ seat ∈ busy.seats, _ → _))

variable {relay next : ClosingRelay} {t : Nat} {busy : BusyTopic}

theorem run_cons (relay : ClosingRelay) (move : Move) (moves : List Move) :
    relay.run (move :: moves) = (relay.step move).run moves := rfl

theorem getElem?_onTopic_self (move : BusyTopic.Move) :
    (relay.onTopic t move).topics[t]? = relay.topics[t]?.map (·.step move) :=
  List.getElem?_modify_eq ..

theorem getElem?_onTopic_of_ne {other : Nat} (different : t ≠ other) (move : BusyTopic.Move) :
    (relay.onTopic t move).topics[other]? = relay.topics[other]? :=
  List.getElem?_modify_ne _ _ different

/-- What a move can do. -/
inductive Steps (relay : ClosingRelay) : ClosingRelay → Prop where
  /-- Nothing. -/
  | stay : Steps relay relay
  /-- A request is accepted. -/
  | accept (upgrade : Upgrade) (listening : relay.listening = true) :
      Steps relay { relay with upgrades := relay.upgrades ++ [upgrade] }
  /-- An accepted one begins to attach its connection. -/
  | enter {k : Nat} {upgrade : Upgrade} (accepted : relay.upgrades[k]? = some upgrade) :
      Steps relay
        { relay.onTopic upgrade.topic (.attach upgrade.peer upgrade.channel) with
          upgrades := relay.upgrades.eraseIdx k }
  /-- Something goes on at a topic. -/
  | within (t : Nat) {move : BusyTopic.Move} (allowed : relay.allows move = true) :
      Steps relay (relay.onTopic t move)
  /-- The listeners stop. -/
  | stopListening : Steps relay { relay with listening := false }
  /-- The monitors stop. -/
  | stopMonitors (deaf : relay.listening = false) : Steps relay { relay with monitoring := false }
  /-- The next topic is looked through. -/
  | lookThrough {busy : BusyTopic} (blind : relay.monitoring = false) (done : relay.due = [])
      (here : relay.topics[relay.early.length]? = some busy) :
      Steps relay
        { relay with early := relay.early ++ [busy.arrived], due := busy.topic.tracker.values }
  /-- The next connection that was found is terminated. -/
  | terminateNext {ref : ConnRef} {others : List ConnRef} (found : relay.due = ref :: others) :
      Steps relay
        { relay.onTopic (relay.early.length - 1) (.touch ref .terminate) with due := others }

theorem steps_step (relay : ClosingRelay) (move : Move) : Steps relay (relay.step move) := by
  cases move with
  | accept upgrade =>
      rw [step]
      split
      · next listening => exact .accept upgrade listening
      · exact .stay
  | enter k =>
      rw [step]
      split
      · exact .stay
      · next upgrade accepted => exact .enter accepted
  | within t move =>
      rw [step]
      split
      · next allowed => exact .within t allowed
      · exact .stay
  | stopListening => exact .stopListening
  | stopMonitors =>
      rw [step]
      split
      · exact .stay
      · next deaf => exact .stopMonitors (Bool.eq_false_iff.2 deaf)
  | lookThrough =>
      rw [step]
      split
      · next busy blind done here => exact .lookThrough blind done here
      · exact .stay
  | terminateNext =>
      rw [step]
      split
      · exact .stay
      · next ref others found => exact .terminateNext found

/-! ### A topic that is closed with nothing in between -/

/-- The connections that were found are terminated one after another. -/
theorem run_terminateNext {refs : List ConnRef} (found : relay.due = refs) :
    relay.run (List.replicate refs.length .terminateNext) =
      { relay with
        topics := relay.topics.modify (relay.early.length - 1)
          (·.run (refs.map (.touch · .terminate)))
        due := [] } := by
  induction refs generalizing relay with
  | nil =>
      have unchanged : relay.topics.modify (relay.early.length - 1) (·.run []) = relay.topics :=
        List.modify_id _ _
      rw [List.map_nil, unchanged]
      cases relay
      cases found
      rfl
  | cons ref others ih =>
      have first : relay.step .terminateNext =
          { relay.onTopic (relay.early.length - 1) (.touch ref .terminate) with due := others } := by
        rw [step, found]
      rw [List.length_cons, List.replicate_succ, run_cons, first, ih rfl]
      simp only [onTopic, List.modify_modify_eq]
      rfl

/-- A topic that is closed with nothing in between has all its connections terminated at once. -/
theorem run_closeTopic (blind : relay.monitoring = false) (done : relay.due = [])
    (here : relay.topics[relay.early.length]? = some busy) :
    let after := relay.run (.lookThrough ::
      List.replicate busy.topic.tracker.values.length .terminateNext)
    after.due = [] ∧ after.early = relay.early ++ [busy.arrived] ∧
      ∃ later, after.topics = relay.topics.set relay.early.length later ∧
        later.topic = busy.topic ∧
        later.connections = (busy.topic.terminateAll busy.connections).2 := by
  intro after
  have looked : relay.step .lookThrough =
      { relay with early := relay.early ++ [busy.arrived], due := busy.topic.tracker.values } := by
    rw [step, blind, done, here]
  have closed : after = _ := (congrArg (fun relay : ClosingRelay => relay.run _) looked).trans
    (run_terminateNext rfl)
  rw [closed]
  refine ⟨rfl, rfl, busy.run (busy.topic.tracker.values.map (.touch · .terminate)), ?_,
    busy.run_terminateAll⟩
  have place : (relay.early ++ [busy.arrived]).length - 1 = relay.early.length := by simp
  simp only [place]
  apply List.ext_getElem?
  intro other
  by_cases same : relay.early.length = other
  · subst same
    have within := (List.getElem?_eq_some_iff.1 here).1
    rw [List.getElem?_modify_eq, List.getElem?_set_self within, here]
    rfl
  · rw [List.getElem?_modify_ne _ _ same, List.getElem?_set_ne same]

end ClosingRelay

end LiveRelay
