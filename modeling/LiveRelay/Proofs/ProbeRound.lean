/-
Module: LiveRelay.Proofs.ProbeRound
Purpose: Everything that one probe round over the tracked connections of a topic does, in whatever
  order it goes through them, and what is left for the rounds directly after it: the second ends what
  the first left running, and the third does nothing.
Main exports: Connection.Probed, Connection.probed, Connections.tally, probeEach_tally,
  probeEach_perm, ProbeRound, ProbeRound.Ends, probeRound_effect
-/
import LiveRelay.Proofs.FanOut

namespace LiveRelay

open Net Connections

/-! ### One connection -/

/-- What a probe finds a connection to be, and what it makes of it. Nothing else about the connection
changes. -/
inductive Connection.Probed (conn : Connection) : ProbeFinding → Connection → Prop where
  /-- A terminated connection is left alone. -/
  | terminatedBefore (terminated : conn.terminated = true) : Probed conn .terminatedBefore conn
  /-- One that has given no sign of life is terminated, and begins to close if that has not begun. -/
  | silent (running : conn.terminated = false) (quiet : conn.alive = false) :
      Probed conn .silent
        { conn with
          terminated := true
          state := if conn.state = .closed then .closed else .closing }
  /-- One that has given a sign of life is asked for the next. -/
  | pinged {queues : Queues} (running : conn.terminated = false) (lively : conn.alive = true)
      (present : conn.queues = some queues) :
      Probed conn .pinged
        { conn with
          alive := false
          queues := some { queues with control := queues.control ++ [.ping] } }
  /-- Where nobody is left to ask, the sign of life is taken all the same. -/
  | unattended (running : conn.terminated = false) (lively : conn.alive = true)
      (gone : conn.queues = none) : Probed conn .unattended { conn with alive := false }

namespace Connection

variable {conn next : Connection} {finding : ProbeFinding}

theorem probed (conn : Connection) : conn.Probed conn.probe.1 conn.probe.2 := by
  obtain ⟨id, peer, channel, capacity, overflow, state, alive, terminated, queues, delivered,
    dropped⟩ := conn
  cases terminated with
  | true => exact .terminatedBefore rfl
  | false =>
      cases alive with
      | true =>
          cases queues with
          | none => exact .unattended rfl rfl rfl
          | some queues => exact .pinged rfl rfl rfl
      | false => cases state <;> exact .silent rfl rfl

/-- A probed connection is terminated, or has to give a sign of life until the next probe. -/
theorem Probed.doomed (probed : conn.Probed finding next) :
    next.terminated = true ∨ next.alive = false := by
  cases probed with
  | terminatedBefore terminated => exact .inl terminated
  | silent => exact .inl rfl
  | pinged => exact .inr rfl
  | unattended => exact .inr rfl

/-- Without a sign of life no connection outlives a probe, and none is sent a ping. -/
theorem Probed.terminated (probed : conn.Probed finding next)
    (doomed : conn.terminated = true ∨ conn.alive = false) :
    next.terminated = true ∧ finding ≠ .pinged := by
  cases probed with
  | terminatedBefore terminated => exact ⟨terminated, nofun⟩
  | silent => exact ⟨rfl, nofun⟩
  | pinged running lively =>
      rw [running, lively] at doomed
      simp at doomed
  | unattended running lively =>
      rw [running, lively] at doomed
      simp at doomed

/-- The requests that wait. -/
def requests (conn : Connection) : Nat :=
  match conn.queues with
  | none => 0
  | some queues => queues.control.length

theorem Probed.requests (probed : conn.Probed finding next) :
    next.requests = conn.requests + if finding = .pinged then 1 else 0 := by
  cases probed with
  | terminatedBefore => rfl
  | silent => rfl
  | pinged running lively present =>
      simp only [Connection.requests, present, List.length_append]
      rfl
  | unattended running lively gone => simp [Connection.requests, gone]

theorem Probed.ended (probed : conn.Probed finding next) :
    next.terminated.toNat = conn.terminated.toNat + if finding = .silent then 1 else 0 := by
  cases probed with
  | terminatedBefore => rfl
  | silent running => rw [running]; rfl
  | pinged => rfl
  | unattended => rfl

end Connection

/-! ### All connections -/

namespace Connections

variable {conns : Connections} {ref : ConnRef} {conn : Connection}

/-- Something counted over all connections. -/
def tally (conns : Connections) (count : Connection → Nat) : Nat := (conns.map count).sum

/-- How many connections are terminated. -/
def terminatedCount (conns : Connections) : Nat := conns.tally fun conn => conn.terminated.toNat

/-- How many requests wait to be written. -/
def requestCount (conns : Connections) : Nat := conns.tally Connection.requests

/-- What is counted changes by what changes at one connection. -/
theorem tally_update (present : conns[ref]? = some conn) (count : Connection → Nat)
    (f : Connection → Connection) :
    (conns.update ref f).tally count + count conn = conns.tally count + count (f conn) := by
  induction conns generalizing ref with
  | nil => cases present
  | cons first others ih =>
      cases ref with
      | zero =>
          obtain rfl : first = conn := Option.some.inj present
          simp only [tally, update, List.modify_zero_cons, List.map_cons, List.sum_cons]
          omega
      | succ ref =>
          have later := ih (present : others[ref]? = some conn)
          simp only [tally, update, List.modify_succ_cons, List.map_cons, List.sum_cons] at later ⊢
          omega

theorem tally_probe (ref : ConnRef) (conns : Connections) {count : Connection → Nat}
    {counted : ProbeFinding}
    (grows : ∀ conn : Connection,
      count conn.probe.2 = count conn + if conn.probe.1 = counted then 1 else 0)
    (other : counted ≠ .terminatedBefore) :
    (conns.act ref Connection.probe).2.tally count =
      conns.tally count +
        if (conns.act ref Connection.probe).1.getD .terminatedBefore = counted then 1 else 0 := by
  rw [snd_act, fst_act]
  cases present : conns[ref]? with
  | none =>
      have missing : conns.update ref (fun conn => conn.probe.2) = conns :=
        List.modify_eq_self (List.getElem?_eq_none_iff.1 present)
      rw [missing, Option.map_none, Option.getD_none, if_neg (Ne.symm other)]
      rfl
  | some conn =>
      have changed := tally_update present count fun conn => conn.probe.2
      have grown := grows conn
      rw [Option.map_some, Option.getD_some]
      omega

end Connections

theorem ProbeReport.ext {one two : ProbeReport} (probed : one.probed = two.probed)
    (terminated : one.terminated = two.terminated) : one = two := by
  obtain ⟨_, _⟩ := one
  obtain ⟨_, _⟩ := two
  cases probed
  cases terminated
  rfl

theorem ProbeReport.probed_add (report : ProbeReport) (finding : ProbeFinding) :
    (report.add finding).probed = report.probed + if finding = .pinged then 1 else 0 := by
  cases finding <;> rfl

/-- The report of a round says by how much the terminated connections and the requests that wait have
become more. -/
theorem probeEach_tally (refs : List ConnRef) (conns : Connections) :
    (probeEach refs conns).2.terminatedCount =
        conns.terminatedCount + (probeEach refs conns).1.terminated ∧
      (probeEach refs conns).2.requestCount =
        conns.requestCount + (probeEach refs conns).1.probed := by
  induction refs generalizing conns with
  | nil => exact ⟨rfl, rfl⟩
  | cons ref others ih =>
      obtain ⟨ended, asked⟩ := ih (conns.act ref Connection.probe).2
      have once : (conns.act ref Connection.probe).2.terminatedCount = _ :=
        tally_probe ref conns (fun conn => conn.probed.ended) nofun
      have also : (conns.act ref Connection.probe).2.requestCount = _ :=
        tally_probe ref conns (fun conn => conn.probed.requests) nofun
      have first : probeEach (ref :: others) conns =
          ((probeEach others (conns.act ref Connection.probe).2).1.add
              ((conns.act ref Connection.probe).1.getD .terminatedBefore),
            (probeEach others (conns.act ref Connection.probe).2).2) := rfl
      rw [first, ProbeReport.terminated_add, ProbeReport.probed_add]
      constructor
      · rw [ended, once, terminatedCount]
        omega
      · rw [asked, also, requestCount]
        omega

/-- In which order connections are probed does not show. -/
theorem probeEach_perm {order others : List ConnRef} (same : order.Perm others)
    (conns : Connections) : probeEach order conns = probeEach others conns := by
  have after : (probeEach order conns).2 = (probeEach others conns).2 := by
    rw [snd_probeEach, snd_probeEach, updateEach_perm same]
  -- What a round reports is what has changed.
  obtain ⟨ended, asked⟩ := probeEach_tally order conns
  obtain ⟨ended', asked'⟩ := probeEach_tally others conns
  rw [after] at ended asked
  have terminated := Nat.add_left_cancel (ended.symm.trans ended')
  have probed := Nat.add_left_cancel (asked.symm.trans asked')
  exact Prod.ext (ProbeReport.ext probed terminated) after

/-! ### A round -/

/-- A topic that has counted the connections terminated in a round. Its counters are 64 bits wide, and
nothing else about it changes. -/
def Topic.probedBy (topic : Topic) (report : ProbeReport) : Topic :=
  { topic with
    stats := { topic.stats with
      livenessTerminations :=
        topic.stats.livenessTerminations + UInt64.ofNat report.terminated } }

/-- What a round makes of connections: every tracked one is probed, no other one changes, and the
report says how many more are terminated and how many more requests wait. -/
structure ProbeRound (topic : Topic) (before : Connections) (report : ProbeReport)
    (after : Connections) : Prop where
  tracked : ∀ ref ∈ topic.tracker.values, ∀ conn, before[ref]? = some conn →
    ∃ finding next, after[ref]? = some next ∧ conn.Probed finding next
  untracked : ∀ ref ∉ topic.tracker.values, after[ref]? = before[ref]?
  length : after.length = before.length
  terminated : after.terminatedCount = before.terminatedCount + report.terminated
  probed : after.requestCount = before.requestCount + report.probed

/-- A round that ends what is still running: no ping is sent, and exactly those connections are
terminated that are tracked and were not terminated. -/
structure ProbeRound.Ends (topic : Topic) (before : Connections) (report : ProbeReport)
    (after : Connections) : Prop where
  round : ProbeRound topic before report after
  probed : report.probed = 0
  terminates : ∀ ref conn next, before[ref]? = some conn → after[ref]? = some next →
    (conn.terminated = false ∧ next.terminated = true ↔
      ref ∈ topic.tracker.values ∧ conn.terminated = false)
  terminated : report.terminated =
    topic.tracker.values.countP fun ref => before[ref]?.any fun conn => !conn.terminated

/-- Every way of going through the tracked connections leads to one report and one outcome. -/
def Topic.ProbesTo (topic : Topic) (before : Connections) (report : ProbeReport)
    (after : Connections) : Prop :=
  ∀ order : List ConnRef, order.Perm topic.tracker.values →
    topic.probeIn before order = (report, topic.probedBy report, after)

namespace Topic

variable {topic : Topic} {conns : Connections}

theorem probesTo (topic : Topic) (conns : Connections) :
    topic.ProbesTo conns (probeEach topic.tracker.values conns).1
      (probeEach topic.tracker.values conns).2 := by
  intro order same
  rw [probeIn, probeEach_perm same conns]
  rfl

theorem getElem?_probeEach_of_mem {refs : List ConnRef} {ref : ConnRef} (once : refs.Nodup)
    (member : ref ∈ refs) {conn : Connection} (present : conns[ref]? = some conn) :
    (probeEach refs conns).2[ref]? = some conn.probe.2 := by
  rw [snd_probeEach, getElem?_updateEach_of_mem once member, present, Option.map_some]

theorem probeRound (once : topic.tracker.values.Nodup) (conns : Connections) :
    ProbeRound topic conns (probeEach topic.tracker.values conns).1
      (probeEach topic.tracker.values conns).2 where
  tracked := fun _ member conn present =>
    ⟨_, _, getElem?_probeEach_of_mem once member present, conn.probed⟩
  untracked := fun _ absent => by rw [snd_probeEach, getElem?_updateEach_of_not_mem absent]
  length := by rw [snd_probeEach, length_updateEach]
  terminated := (probeEach_tally topic.tracker.values conns).1
  probed := (probeEach_tally topic.tracker.values conns).2

/-- What has become of a tracked connection after a round. -/
theorem exists_of_probeEach (once : topic.tracker.values.Nodup) {ref : ConnRef}
    (member : ref ∈ topic.tracker.values) {next : Connection}
    (later : (probeEach topic.tracker.values conns).2[ref]? = some next) :
    ∃ conn, conns[ref]? = some conn ∧ conn.Probed conn.probe.1 next := by
  rw [snd_probeEach, getElem?_updateEach_of_mem once member, Option.map_eq_some_iff] at later
  obtain ⟨conn, present, rfl⟩ := later
  exact ⟨conn, present, conn.probed⟩

/-- A round over connections that are terminated or have given no sign of life ends them all. -/
theorem ends (once : topic.tracker.values.Nodup)
    (doomed : ∀ ref ∈ topic.tracker.values, ∀ conn, conns[ref]? = some conn →
      conn.terminated = true ∨ conn.alive = false) :
    ProbeRound.Ends topic conns (probeEach topic.tracker.values conns).1
      (probeEach topic.tracker.values conns).2 := by
  have round := probeRound once conns
  refine ⟨round, ?_, ?_, ?_⟩
  · have unasked : (probeEach topic.tracker.values conns).2.map Connection.requests =
        conns.map Connection.requests := by
      apply List.ext_getElem?
      intro ref
      rw [List.getElem?_map, List.getElem?_map]
      by_cases member : ref ∈ topic.tracker.values
      · cases present : conns[ref]? with
        | none => rw [snd_probeEach, getElem?_updateEach_of_mem once member, present, Option.map_none]
        | some conn =>
            have silent := (conn.probed.terminated (doomed ref member conn present)).2
            rw [getElem?_probeEach_of_mem once member present, Option.map_some, Option.map_some,
              conn.probed.requests, if_neg silent]
            rfl
      · rw [round.untracked ref member]
    have asked := round.probed
    rw [requestCount, requestCount, tally, tally, unasked] at asked
    exact Nat.left_eq_add.1 asked
  · intro ref conn next present later
    by_cases member : ref ∈ topic.tracker.values
    · obtain ⟨conn, earlier, probed⟩ := exists_of_probeEach once member later
      cases present.symm.trans earlier
      simp [member, (probed.terminated (doomed ref member conn present)).1]
    · obtain rfl : conn = next :=
        Option.some.inj ((present.symm.trans (round.untracked ref member).symm).trans later)
      cases terminated : conn.terminated <;> simp [member]
  · rw [terminated_probeEach once]
    apply List.countP_congr
    intro ref member
    rw [isSilent]
    cases present : conns[ref]? with
    | none => rfl
    | some conn =>
        have quiet := doomed ref member conn present
        simp only [Option.any_some, decide_eq_true_eq, Connection.fst_probe_eq_silent,
          Bool.not_eq_true']
        refine and_iff_left_of_imp fun running => quiet.resolve_left ?_
        rw [running]
        exact Bool.false_ne_true

/-- A round over terminated connections does nothing. -/
theorem probeIn_of_terminated {order : List ConnRef} (terminated : ∀ ref ∈ order, ∀ conn,
    conns[ref]? = some conn → conn.terminated = true) :
    topic.probeIn conns order = (.nothing, topic, conns) := by
  have left : (probeEach order conns).2 = conns := by
    rw [snd_probeEach]
    induction order with
    | nil => rfl
    | cons ref others ih =>
        obtain ⟨here, rest⟩ := List.forall_mem_cons.1 terminated
        have same : conns.update ref (fun conn => conn.probe.2) = conns := by
          refine (eq_update ?_ fun _ _ => rfl).symm
          cases present : conns[ref]? with
          | none => rfl
          | some conn => rw [Option.map_some, Connection.probe_of_terminated (here conn present)]
        rw [updateEach_cons, same, ih rest]
  -- Where nothing has changed, there is nothing to report.
  have nothing : probeEach order conns = (.nothing, conns) := by
    obtain ⟨ended, asked⟩ := probeEach_tally order conns
    rw [left, Nat.left_eq_add] at ended asked
    exact Prod.ext (ProbeReport.ext asked ended) left
  rw [probeIn, nothing]
  simp [TopicStats.livenessTerminated, ProbeReport.nothing]

end Topic

/-! ### Rounds one after another -/

/-- What a probe round does to a topic that tracks no connection twice, as every topic of a hub does
at any time. The tracked connections can be gone through in any order, with the same report and the
same connections in the end; the topic counts those that were terminated, and nothing else about it
changes. A round directly after it terminates all that the first one left, and a third one finds
nothing to do. -/
theorem probeRound_effect :
    (∀ (topic : Topic) (conns : Connections), topic.tracker.values.Nodup →
      ∃ report after, ProbeRound topic conns report after ∧ topic.ProbesTo conns report after ∧
        ∃ second last, ProbeRound.Ends (topic.probedBy report) after second last ∧
          (topic.probedBy report).ProbesTo after second last ∧
          ∀ order : List ConnRef, order.Perm topic.tracker.values →
            ((topic.probedBy report).probedBy second).probeIn last order =
              (.nothing, (topic.probedBy report).probedBy second, last)) ∧
    ∀ (before hub : Hub) (t : Nat) (topic : Topic), before.Fresh → before.Onward hub →
      hub.topics[t]? = some topic →
      topic.tracker.values.Nodup ∧
        ∃ report after, topic.ProbesTo hub.connections report after ∧
          hub.step (.probe t) =
            (.probed report,
              { hub with
                topics := hub.topics.set t (topic.probedBy report), connections := after }) := by
  constructor
  · intro topic conns once
    let after := (probeEach topic.tracker.values conns).2
    have doomed : ∀ ref ∈ topic.tracker.values, ∀ next, after[ref]? = some next →
        next.terminated = true ∨ next.alive = false := by
      intro ref member next later
      obtain ⟨conn, _, probed⟩ := Topic.exists_of_probeEach once member later
      exact probed.doomed
    refine ⟨_, after, topic.probeRound once conns, topic.probesTo conns, _, _,
      Topic.ends once doomed, Topic.probesTo _ _, fun order same => ?_⟩
    refine Topic.probeIn_of_terminated fun ref member next later => ?_
    have tracked := same.mem_iff.1 member
    obtain ⟨conn, present, probed⟩ := Topic.exists_of_probeEach once tracked later
    exact (probed.terminated (doomed ref tracked conn present)).1
  · intro before hub t topic fresh onward here
    obtain ⟨homes, tidy, _⟩ := fresh.equipped_onward onward
    refine ⟨(tidy.tables t topic here).tracked_once, _, _, topic.probesTo hub.connections, ?_⟩
    rw [Hub.step, Hub.onTopic, here]
    rfl

/-- Four connections of a topic, of which a first round takes the sign of life. Two give a new one, and
the writer of one of these leaves; one is terminated, and one stays silent. -/
def mixedSigns : List Hub.Event :=
  List.replicate 4 (.attach 0 default (some "a")) ++
    [.probe 0, .markAlive 2, .markAlive 3, .dropQueues 3, .terminate 0]

/-- The next round terminates the silent connection and pings the one that is heard of and has a
writer. The one after it terminates the two that were left, and then there is nothing to do, in
whatever order the connections are gone through. -/
theorem probeRound_effect_of_mixedSigns :
    ∃ topic after last,
      ((Hub.new .strictTopics).run mixedSigns).2.topics[0]? = some topic ∧
      ProbeRound topic ((Hub.new .strictTopics).run mixedSigns).2.connections ⟨1, 1⟩ after ∧
      (((Hub.new .strictTopics).run mixedSigns).2.step (.probe 0)).1 = .probed ⟨1, 1⟩ ∧
      topic.probeIn ((Hub.new .strictTopics).run mixedSigns).2.connections [3, 0, 2, 1] =
        (⟨1, 1⟩, topic.probedBy ⟨1, 1⟩, after) ∧
      ProbeRound.Ends (topic.probedBy ⟨1, 1⟩) after ⟨0, 2⟩ last ∧
      ((topic.probedBy ⟨1, 1⟩).probedBy ⟨0, 2⟩).probeIn last [1, 2, 0, 3] =
        (.nothing, (topic.probedBy ⟨1, 1⟩).probedBy ⟨0, 2⟩, last) := by
  let hub := ((Hub.new .strictTopics).run mixedSigns).2
  have listed : hub.topics[0]?.any (fun topic => topic.tracker.values = [0, 1, 2, 3] ∧
      (topic.probe hub.connections).1 = ⟨1, 1⟩ ∧
      ((topic.probe hub.connections).2.1.probe (topic.probe hub.connections).2.2).1 = ⟨0, 2⟩) =
        true := by decide +kernel
  obtain ⟨topic, here, found⟩ := (Option.any_eq_true _ _).1 listed
  obtain ⟨four, first, next⟩ := of_decide_eq_true found
  obtain ⟨rounds, hubs⟩ := probeRound_effect
  obtain ⟨once, report, after, leads, stepped⟩ :=
    hubs _ hub 0 topic (Hub.fresh_new .strictTopics) (Hub.onward_run _ _) here
  obtain ⟨same, other, round, went, second, last, ends, again, third⟩ :=
    rounds topic hub.connections once
  have one : topic.probe hub.connections = (same, topic.probedBy same, other) :=
    went _ (List.Perm.refl _)
  have two : (topic.probedBy same).probe other =
      (second, (topic.probedBy same).probedBy second, last) := again _ (List.Perm.refl _)
  rw [one, two] at next
  rw [one] at first
  obtain rfl : same = ⟨1, 1⟩ := first
  obtain rfl : second = ⟨0, 2⟩ := next
  have reported : report = ⟨1, 1⟩ :=
    congrArg Prod.fst ((leads _ (List.Perm.refl _)).symm.trans one)
  refine ⟨topic, other, last, here, round, ?_, went _ ?_, ends, third _ ?_⟩
  · rw [stepped, reported]
  · rw [four]
    decide
  · rw [four]
    decide

end LiveRelay
