/-
Module: LiveRelay.Proofs.Topic.Pushed
Purpose: A busy topic with any number of sources that push to it at once. Every fan-out is taken one
  offer at a time, and the offers of all fan-outs mix in any order with each other and with whatever
  else happens at the topic. What was offered and what was read is written down as it happens.
Main exports: FanOut, Source, Offer, PushedTopic, PushedTopic.Move, PushedTopic.step,
  PushedTopic.run, PushedTopic.run_fanOut
-/
import LiveRelay.Proofs.Topic.Busy

namespace LiveRelay

open Net

/-- A fan-out under way: the members of the channel that it has not come to yet, the one that it
found open and offers its payload to next, and what came of its offers so far. -/
structure FanOut where
  payload : Payload
  ahead : List ConnRef
  facing : Option ConnRef
  report : FanOutReport
deriving Repr, DecidableEq

/-- A source: the channel that it pushes to, all payloads that it ever pushes, the fan-out of one of
them, and the reports of the fan-outs before that. It takes its next payload only when there is no
fan-out under way. -/
structure Source where
  channel : Channel
  chunks : List Payload
  running : Option FanOut
  reports : List FanOutReport
deriving Repr, DecidableEq

/-- A payload was offered to a connection: whose payload it was, at which place among those of its
source, and what came of it. -/
structure Offer where
  source : Nat
  place : Nat
  ref : ConnRef
  payload : Payload
  outcome : SendOutcome
deriving Repr, DecidableEq

namespace FanOutReport

/-- What came of two series of offers. -/
def merge (one two : FanOutReport) : FanOutReport :=
  ⟨one.delivered + two.delivered, one.dropped + two.dropped, one.skipped + two.skipped⟩

theorem merge_add (one two : FanOutReport) (outcome : SendOutcome) :
    one.merge (two.add outcome) = (one.add outcome).merge two := by
  cases outcome <;> simp [merge, add] <;> omega

theorem nothing_merge (report : FanOutReport) : nothing.merge report = report := by
  simp [merge, nothing]

end FanOutReport

/-- What came of some offers, counted. -/
def FanOutReport.ofOffers (offers : List Offer) : FanOutReport :=
  offers.foldl (fun report offer => report.add offer.outcome) .nothing

/-- A busy topic, the sources that push to it, everything that they have offered, and everything
that was read from the queues. -/
structure PushedTopic where
  busy : BusyTopic
  sources : List Source
  offers : List Offer
  reads : List (ConnRef × Payload)

namespace BusyTopic

/-- Moves that are not part of a fan-out. -/
def Move.isForeign : Move → Bool
  | .touch _ (.offer _) | .countRelayed _ _ _ => false
  | _ => true

/-- What a move reads from a queue, and from whose. -/
def readBy (busy : BusyTopic) : Move → List (ConnRef × Payload)
  | .touch ref .receive =>
    match (busy.connections.act ref Connection.receive).1 with
    | some (.item payload) => [(ref, payload)]
    | _ => []
  | _ => []

end BusyTopic

namespace PushedTopic

/-- A topic to which nobody pushes yet. -/
def idle (topic : Topic) : PushedTopic := ⟨.idle topic, [], [], []⟩

/-- Everything that can happen next. -/
inductive Move where
  | join (channel : Channel) (chunks : List Payload)
  | begin (source : Nat) (order : List ConnRef)
  | look (source : Nat)
  | offer (source : Nat)
  | finish (source : Nat)
  | other (move : BusyTopic.Move)
deriving Repr, DecidableEq

/-- A source with its fan-out, if one is under way. -/
def underWay? (pushed : PushedTopic) (n : Nat) : Option (Source × FanOut) :=
  pushed.sources[n]?.bind fun source => source.running.map fun fanOut => (source, fanOut)

/-- Replace a source. -/
def setSource (pushed : PushedTopic) (n : Nat) (source : Source) : PushedTopic :=
  { pushed with sources := pushed.sources.set n source }

/-- A source takes its next payload, and the fan-out of it will come to the members of the channel
in the given order. -/
def begin (pushed : PushedTopic) (n : Nat) (source : Source) (order : List ConnRef) : PushedTopic :=
  match source.running, source.chunks[source.reports.length]? with
  | none, some payload =>
    if order.Perm (pushed.busy.topic.registry.membersOf source.channel) then
      pushed.setSource n { source with running := some ⟨payload, order, none, .nothing⟩ }
    else pushed
  | _, _ => pushed

/-- The next member, if the fan-out faces none: it is faced if it is open, and passed otherwise. -/
def look (pushed : PushedTopic) (n : Nat) (source : Source) (fanOut : FanOut) : PushedTopic :=
  match fanOut.facing, fanOut.ahead with
  | none, ref :: others =>
    let open? := pushed.busy.connections[ref]?.any Connection.isOpen
    pushed.setSource n { source with
      running := some { fanOut with ahead := others, facing := if open? then some ref else none } }
  | _, _ => pushed

/-- What a connection answers to a payload. -/
def answer (pushed : PushedTopic) (ref : ConnRef) (payload : Payload) : SendOutcome :=
  (pushed.busy.connections.act ref (·.trySend payload)).1.getD .skipped

/-- The payload is offered to the member that the fan-out faces. -/
def offer (pushed : PushedTopic) (n : Nat) (source : Source) (fanOut : FanOut) : PushedTopic :=
  match fanOut.facing with
  | none => pushed
  | some ref =>
    let outcome := pushed.answer ref fanOut.payload
    let fanOut := { fanOut with facing := none, report := fanOut.report.add outcome }
    { pushed.setSource n { source with running := some fanOut } with
      busy := pushed.busy.step (.touch ref (.offer fanOut.payload))
      offers := pushed.offers ++ [⟨n, source.reports.length, ref, fanOut.payload, outcome⟩] }

/-- A fan-out that has nobody left to come to is counted and reported to its source. -/
def finish (pushed : PushedTopic) (n : Nat) (source : Source) (fanOut : FanOut) : PushedTopic :=
  match fanOut.facing, fanOut.ahead with
  | none, [] =>
    { pushed.setSource n { source with
        running := none, reports := source.reports ++ [fanOut.report] } with
      busy := pushed.busy.step
        (.countRelayed fanOut.payload.length fanOut.report.delivered fanOut.report.dropped) }
  | _, _ => pushed

/-- One move. A move that does not fit the stage of its source does nothing. -/
def step (pushed : PushedTopic) : Move → PushedTopic
  | .join channel chunks =>
    { pushed with sources := pushed.sources ++ [⟨channel, chunks, none, []⟩] }
  | .begin n order =>
    match pushed.sources[n]? with
    | none => pushed
    | some source => pushed.begin n source order
  | .look n =>
    match pushed.underWay? n with
    | none => pushed
    | some (source, fanOut) => pushed.look n source fanOut
  | .offer n =>
    match pushed.underWay? n with
    | none => pushed
    | some (source, fanOut) => pushed.offer n source fanOut
  | .finish n =>
    match pushed.underWay? n with
    | none => pushed
    | some (source, fanOut) => pushed.finish n source fanOut
  | .other move =>
    if move.isForeign then
      { pushed with
        busy := pushed.busy.step move
        reads := pushed.reads ++ pushed.busy.readBy move }
    else pushed

/-- Moves one after another. -/
def run (pushed : PushedTopic) (moves : List Move) : PushedTopic := moves.foldl step pushed

variable {pushed : PushedTopic} {n : Nat} {source : Source} {fanOut : FanOut}

theorem run_cons (pushed : PushedTopic) (move : Move) (moves : List Move) :
    pushed.run (move :: moves) = (pushed.step move).run moves := rfl

theorem run_append (pushed : PushedTopic) (one two : List Move) :
    pushed.run (one ++ two) = (pushed.run one).run two := List.foldl_append

theorem underWay?_eq_some_iff :
    pushed.underWay? n = some (source, fanOut) ↔
      pushed.sources[n]? = some source ∧ source.running = some fanOut := by
  simp only [underWay?, Option.bind_eq_some_iff, Option.map_eq_some_iff, Prod.mk.injEq]
  constructor
  · rintro ⟨other, here, found, running, rfl, rfl⟩
    exact ⟨here, running⟩
  · rintro ⟨here, running⟩
    exact ⟨source, here, fanOut, running, rfl, rfl⟩

/-- What a move can do. -/
inductive Steps (pushed : PushedTopic) : PushedTopic → Prop where
  /-- Nothing. -/
  | stay : Steps pushed pushed
  /-- A source joins. -/
  | join (channel : Channel) (chunks : List Payload) :
      Steps pushed { pushed with sources := pushed.sources ++ [⟨channel, chunks, none, []⟩] }
  /-- A source that waits takes its next payload. -/
  | begin {n : Nat} {source : Source} {payload : Payload} {order : List ConnRef}
      (here : pushed.sources[n]? = some source) (waits : source.running = none)
      (next : source.chunks[source.reports.length]? = some payload)
      (members : order.Perm (pushed.busy.topic.registry.membersOf source.channel)) :
      Steps pushed
        (pushed.setSource n { source with running := some ⟨payload, order, none, .nothing⟩ })
  /-- A fan-out comes to a member. -/
  | look {n : Nat} {source : Source} {fanOut : FanOut} {ref : ConnRef} {others : List ConnRef}
      {facing : Option ConnRef} (here : pushed.sources[n]? = some source)
      (running : source.running = some fanOut) (free : fanOut.facing = none)
      (ahead : fanOut.ahead = ref :: others) (faced : facing = some ref ∨ facing = none) :
      Steps pushed
        (pushed.setSource n { source with
          running := some { fanOut with ahead := others, facing := facing } })
  /-- A fan-out offers its payload to the member that it faces. -/
  | offer {n : Nat} {source : Source} {fanOut : FanOut} {ref : ConnRef} {outcome : SendOutcome}
      (here : pushed.sources[n]? = some source) (running : source.running = some fanOut)
      (facing : fanOut.facing = some ref) (answered : outcome = pushed.answer ref fanOut.payload) :
      Steps pushed
        { pushed.setSource n { source with
            running := some { fanOut with facing := none, report := fanOut.report.add outcome } } with
          busy := pushed.busy.step (.touch ref (.offer fanOut.payload))
          offers := pushed.offers ++ [⟨n, source.reports.length, ref, fanOut.payload, outcome⟩] }
  /-- A fan-out returns. -/
  | finish {n : Nat} {source : Source} {fanOut : FanOut}
      (here : pushed.sources[n]? = some source) (running : source.running = some fanOut)
      (free : fanOut.facing = none) (spent : fanOut.ahead = []) :
      Steps pushed
        { pushed.setSource n { source with
            running := none, reports := source.reports ++ [fanOut.report] } with
          busy := pushed.busy.step
            (.countRelayed fanOut.payload.length fanOut.report.delivered fanOut.report.dropped) }
  /-- Something else happens at the topic. -/
  | other {move : BusyTopic.Move} (foreign : move.isForeign = true) :
      Steps pushed
        { pushed with
          busy := pushed.busy.step move
          reads := pushed.reads ++ pushed.busy.readBy move }

theorem steps_step (pushed : PushedTopic) (move : Move) : Steps pushed (pushed.step move) := by
  cases move with
  | join channel chunks => exact .join channel chunks
  | begin n order =>
      rw [step]
      cases here : pushed.sources[n]? with
      | none => exact .stay
      | some source =>
          dsimp only [PushedTopic.begin]
          split
          · next payload waits next =>
            split
            · next members => exact .begin here waits next members
            · exact .stay
          · exact .stay
  | look n =>
      rw [step]
      cases under : pushed.underWay? n with
      | none => exact .stay
      | some entry =>
          obtain ⟨here, running⟩ := underWay?_eq_some_iff.1 under
          dsimp only [look]
          split
          · next ref others free ahead =>
            refine .look here running free ahead ?_
            split
            · exact .inl rfl
            · exact .inr rfl
          · exact .stay
  | offer n =>
      rw [step]
      cases under : pushed.underWay? n with
      | none => exact .stay
      | some entry =>
          obtain ⟨here, running⟩ := underWay?_eq_some_iff.1 under
          dsimp only [offer]
          split
          · exact .stay
          · next ref facing => exact .offer here running facing rfl
  | finish n =>
      rw [step]
      cases under : pushed.underWay? n with
      | none => exact .stay
      | some entry =>
          obtain ⟨here, running⟩ := underWay?_eq_some_iff.1 under
          dsimp only [finish]
          split
          · next free spent => exact .finish here running free spent
          · exact .stay
  | other move =>
      rw [step]
      split
      · next foreign => exact .other foreign
      · exact .stay

/-! ### A fan-out with nothing in between -/

theorem underWay?_setSource (within : n < pushed.sources.length)
    (running : source.running = some fanOut) :
    (pushed.setSource n source).underWay? n = some (source, fanOut) :=
  underWay?_eq_some_iff.2 ⟨List.getElem?_set_self within, running⟩

section Uninterrupted

variable {payload : Payload} {ref : ConnRef} {others ahead : List ConnRef} {report : FanOutReport}

/-- A fan-out passes a member that is not open. -/
theorem run_passes (here : pushed.sources[n]? = some source)
    (running : source.running = some ⟨payload, ref :: others, none, report⟩)
    (shut : pushed.busy.connections[ref]?.any Connection.isOpen = false) :
    let after := pushed.run [.look n, .offer n]
    after.busy = pushed.busy ∧ after.sources[n]? =
      some { source with running := some ⟨payload, others, none, report⟩ } := by
  intro after
  have within : n < pushed.sources.length := (List.getElem?_eq_some_iff.1 here).1
  have under := underWay?_eq_some_iff.2 ⟨here, running⟩
  have passed : after =
      pushed.setSource n { source with running := some ⟨payload, others, none, report⟩ } := by
    simp only [after]
    rw [run_cons, run_cons, step, under]
    simp only [look, shut, Bool.false_eq_true, if_false, step]
    rw [underWay?_setSource within rfl]
    rfl
  rw [passed]
  exact ⟨rfl, List.getElem?_set_self within⟩

/-- It offers its payload to one that is. -/
theorem run_offers (here : pushed.sources[n]? = some source)
    (running : source.running = some ⟨payload, ref :: others, none, report⟩)
    (opened : pushed.busy.connections[ref]?.any Connection.isOpen = true) :
    let after := pushed.run [.look n, .offer n]
    after.busy = pushed.busy.step (.touch ref (.offer payload)) ∧ after.sources[n]? =
      some { source with
        running := some ⟨payload, others, none, report.add (pushed.answer ref payload)⟩ } := by
  intro after
  have within : n < pushed.sources.length := (List.getElem?_eq_some_iff.1 here).1
  have under := underWay?_eq_some_iff.2 ⟨here, running⟩
  obtain ⟨offers, offered⟩ : ∃ offers, after =
      { pushed.setSource n { source with
          running := some ⟨payload, others, none, report.add (pushed.answer ref payload)⟩ } with
        busy := pushed.busy.step (.touch ref (.offer payload)), offers := offers } := by
    simp only [after]
    rw [run_cons, run_cons, step, under]
    simp only [look, opened, if_true, step]
    rw [underWay?_setSource within rfl]
    exact ⟨_, congrArg (fun sources => PushedTopic.mk _ sources _ _) (List.set_set _)⟩
  rw [offered]
  exact ⟨rfl, List.getElem?_set_self within⟩

/-- To offer a payload to one connection does not open or close another one. -/
theorem filter_open_offer (busy : BusyTopic) (absent : ref ∉ others) (payload : Payload) :
    (others.filter fun other =>
      (busy.step (.touch ref (.offer payload))).connections[other]?.any Connection.isOpen) =
      others.filter fun other => busy.connections[other]?.any Connection.isOpen := by
  have connections : (busy.step (.touch ref (.offer payload))).connections =
      busy.connections.update ref (·.touched (.offer payload)) :=
    (busy.run_touch [ref] (.offer payload)).2
  apply List.filter_congr
  intro other member
  have different : ref ≠ other := fun same => absent (same ▸ member)
  rw [connections, Connections.getElem?_update_of_ne different]

/-- A fan-out that comes to different members, and with which nothing interferes, offers its payload
to those of them that are open now. -/
theorem run_ahead (distinct : ahead.Nodup) (here : pushed.sources[n]? = some source)
    (running : source.running = some ⟨payload, ahead, none, report⟩) :
    let opens := ahead.filter fun ref => pushed.busy.connections[ref]?.any Connection.isOpen
    let sent := sendEach payload opens pushed.busy.connections
    let after := pushed.run (ahead.flatMap fun _ => [.look n, .offer n])
    after.busy.topic = pushed.busy.topic ∧ after.busy.connections = sent.2 ∧
      after.sources[n]? =
        some { source with running := some ⟨payload, [], none, report.merge sent.1⟩ } := by
  induction ahead generalizing pushed source report with
  | nil =>
      refine ⟨rfl, rfl, here.trans (congrArg some ?_)⟩
      cases source
      cases running
      rfl
  | cons ref others ih =>
      intro opens sent after
      obtain ⟨absent, rest⟩ := List.nodup_cons.1 distinct
      have split : after = (pushed.run [.look n, .offer n]).run
          (others.flatMap fun _ => [.look n, .offer n]) := run_append pushed _ _
      cases opened : pushed.busy.connections[ref]?.any Connection.isOpen with
      | false =>
          have skipped : opens = others.filter fun ref =>
              pushed.busy.connections[ref]?.any Connection.isOpen :=
            List.filter_cons_of_neg (by simp [opened])
          obtain ⟨busy, told⟩ := run_passes here running opened
          have remaining := ih rest told rfl
          rw [busy] at remaining
          rw [split]
          simp only [sent, skipped]
          exact remaining
      | true =>
          have included : opens = ref :: others.filter fun ref =>
              pushed.busy.connections[ref]?.any Connection.isOpen :=
            List.filter_cons_of_pos opened
          obtain ⟨busy, told⟩ := run_offers here running opened
          obtain ⟨topic, connections, source⟩ := ih rest told rfl
          rw [busy, filter_open_offer pushed.busy absent payload] at connections source
          obtain ⟨unchanged, touched⟩ := pushed.busy.run_touch [ref] (.offer payload)
          have acted : (pushed.busy.step (.touch ref (.offer payload))).connections =
              (pushed.busy.connections.act ref (·.trySend payload)).2 :=
            touched.trans (Connections.snd_act _).symm
          rw [acted] at connections source
          rw [split]
          simp only [sent, included]
          refine ⟨topic.trans (busy ▸ unchanged), connections, source.trans ?_⟩
          rw [← FanOutReport.merge_add]
          rfl

/-- A fan-out with nothing in between does what a broadcast does that goes through the open members
in the same order, and its source is told the same. -/
theorem run_fanOut {order : List ConnRef} (distinct : order.Nodup)
    (here : pushed.sources[n]? = some source) (waits : source.running = none)
    (next : source.chunks[source.reports.length]? = some payload)
    (members : order.Perm (pushed.busy.topic.registry.membersOf source.channel)) :
    let opens := order.filter fun ref => pushed.busy.connections[ref]?.any Connection.isOpen
    let sent := pushed.busy.topic.broadcastTo pushed.busy.connections opens payload
    let after := pushed.run
      (.begin n order :: (order.flatMap fun _ => [.look n, .offer n]) ++ [.finish n])
    after.busy.topic = sent.2.1 ∧ after.busy.connections = sent.2.2 ∧
      after.sources[n]? = some { source with reports := source.reports ++ [sent.1] } := by
  intro opens sent after
  have within : n < pushed.sources.length := (List.getElem?_eq_some_iff.1 here).1
  have begun : pushed.step (.begin n order) =
      pushed.setSource n { source with running := some ⟨payload, order, none, .nothing⟩ } := by
    rw [step, here]
    simp only [PushedTopic.begin, waits, next, if_pos members]
  have placed : (pushed.setSource n { source with
      running := some ⟨payload, order, none, .nothing⟩ }).sources[n]? =
        some { source with running := some ⟨payload, order, none, .nothing⟩ } :=
    List.getElem?_set_self within
  obtain ⟨topic, connections, told⟩ := run_ahead distinct placed rfl
  rw [FanOutReport.nothing_merge] at told
  have split : after = ((pushed.setSource n { source with
      running := some ⟨payload, order, none, .nothing⟩ }).run
        (order.flatMap fun _ => [.look n, .offer n])).step (.finish n) := by
    simp only [after, run_cons, run_append, begun]
    rfl
  have under := underWay?_eq_some_iff.2 ⟨told, rfl⟩
  have length := (List.getElem?_eq_some_iff.1 told).1
  rw [step, under] at split
  rw [split]
  refine ⟨?_, connections, ?_⟩
  · simp only [finish, BusyTopic.step, topic]
    rfl
  · refine (List.getElem?_set_self length).trans (congrArg some ?_)
    cases source
    cases waits
    rfl

end Uninterrupted

end PushedTopic

end LiveRelay
