/-
Module: LiveRelay.Proofs.Consistency
Purpose: However the steps of attaching and detaching connections of a topic mix, the tables of the
  topic and its count of connections never contradict each other or the connections.
Main exports: BusyTopic.IsQuiet, BusyTopic.Coherent.size_tracker, BusyTopic.indexes_consistent
-/
import LiveRelay.Proofs.Hub.Sound
import LiveRelay.Proofs.Topic.Coherence

namespace LiveRelay

open Net

namespace Seat

variable {seat : Seat}

/-- After all calls, the connections still there are those that were never detached. -/
theorem Ordered.flags_of_returned (ordered : seat.Ordered) (attached : seat.attaching = .returned)
    (detached : ∀ stage ∈ seat.detaching, ∃ counted, stage = .returned counted) :
    (seat.isTracked = true ↔ seat.detaching = []) ∧
      (seat.isEnrolled = true ↔ seat.detaching = []) ∧ seat.isCounted = seat.isTracked := by
  cases calls : seat.detaching with
  | nil =>
      simp [Seat.isTracked, Seat.isEnrolled, Seat.isCounted, attached, calls,
        AttachStage.hasTracked, AttachStage.hasEnrolled, AttachStage.hasCounted]
  | cons first others =>
      obtain ⟨counted, rfl⟩ := detached first (by simp [calls])
      -- One of the calls found the connection tracked, and it has counted it.
      have closers := ordered.closer
      have untracked : seat.detaching.any DetachStage.hasUntracked = true := by
        simp [calls, DetachStage.hasUntracked]
      have withdrawn : seat.detaching.any DetachStage.hasWithdrawn = true := by
        simp [calls, DetachStage.hasWithdrawn]
      have uncounted : seat.detaching.any DetachStage.hasCounted = true := by
        rw [untracked, if_pos rfl] at closers
        obtain ⟨stage, member, closer⟩ := List.countP_pos_iff.1 (closers ▸ Nat.one_pos)
        obtain ⟨counted, rfl⟩ := detached stage member
        exact List.any_eq_true.2 ⟨_, member, closer⟩
      simp [Seat.isTracked, Seat.isEnrolled, Seat.isCounted, untracked, withdrawn, uncounted]

/-- An open connection has to be tracked and registered. -/
theorem Ordered.flags_of_open (ordered : seat.Ordered) (opened : seat.conn.state = .open) :
    seat.isTracked = true ∧ seat.isEnrolled = true := by
  obtain ⟨attached, begins⟩ := ordered.opened opened
  have untracked : seat.detaching.any DetachStage.hasUntracked = false := by
    rw [List.any_eq_false]
    intro stage member
    rw [begins stage member]
    exact Bool.false_ne_true
  have withdrawn : seat.detaching.any DetachStage.hasWithdrawn = false := by
    rw [List.any_eq_false]
    intro stage member
    rw [begins stage member]
    exact Bool.false_ne_true
  simp [Seat.isTracked, Seat.isEnrolled, attached, untracked, withdrawn, AttachStage.hasTracked,
    AttachStage.hasEnrolled]

/-- A closed connection has to be neither. -/
theorem Ordered.flags_of_closed (ordered : seat.Ordered) (closed : seat.conn.state = .closed) :
    seat.isTracked = false ∧ seat.isEnrolled = false := by
  obtain ⟨counted, member⟩ := ordered.closed.1 closed
  have untracked : seat.detaching.any DetachStage.hasUntracked = true :=
    List.any_eq_true.2 ⟨_, member, rfl⟩
  have withdrawn : seat.detaching.any DetachStage.hasWithdrawn = true :=
    List.any_eq_true.2 ⟨_, member, rfl⟩
  simp [Seat.isTracked, Seat.isEnrolled, untracked, withdrawn]

/-- A connection that has to be registered has to be tracked as well. -/
theorem isTracked_of_isEnrolled (enrolled : seat.isEnrolled = true) : seat.isTracked = true := by
  rw [isEnrolled, Bool.and_eq_true, Bool.not_eq_true', List.any_eq_false] at enrolled
  obtain ⟨attached, kept⟩ := enrolled
  have untracked : seat.detaching.any DetachStage.hasUntracked = false := by
    rw [List.any_eq_false]
    intro stage member untracked
    apply kept stage member
    cases stage with
    | beginClose => cases untracked
    | withdraw => cases untracked
    | _ => rfl
  have tracked : seat.attaching.hasTracked = true := by
    cases stage : seat.attaching with
    | track => rw [stage] at attached; cases attached
    | _ => rfl
  rw [isTracked, tracked, untracked]
  rfl

end Seat

namespace BusyTopic

/-- Every call that attaches or detaches a connection has returned. -/
def IsQuiet (busy : BusyTopic) : Prop :=
  ∀ seat ∈ busy.seats, seat.attaching = .returned ∧
    ∀ stage ∈ seat.detaching, ∃ counted, stage = .returned counted

variable {busy : BusyTopic} {ref : ConnRef} {seat : Seat} {channel : Channel}

namespace Coherent

/-! ### What is found of a connection -/

theorem mem_tracked (coherent : busy.Coherent) (here : busy.seats[ref]? = some seat) :
    ref ∈ busy.topic.tracker.values ↔ seat.isTracked = true := by
  rw [Table.mem_values, coherent.listed_tracker.exists_entry_iff]
  constructor
  · rintro ⟨other, there, tracked⟩
    obtain rfl := Option.some.inj (here.symm.trans there)
    exact tracked
  · intro tracked
    exact ⟨seat, here, tracked⟩

theorem mem_registered (coherent : busy.Coherent) (here : busy.seats[ref]? = some seat) :
    ref ∈ busy.topic.registry.membersOf channel ↔
      seat.isEnrolled = true ∧ seat.conn.channel = some channel ∧
        busy.topic.isKnown channel = true := by
  rw [Registry.mem_membersOf, (coherent.listed_registry channel).exists_entry_iff]
  constructor
  · rintro ⟨other, there, asked, accepted, enrolled⟩
    obtain rfl := Option.some.inj (here.symm.trans there)
    exact ⟨enrolled, asked, accepted⟩
  · rintro ⟨enrolled, asked, accepted⟩
    exact ⟨seat, here, asked, accepted, enrolled⟩

/-- Everything that is registered has a seat. -/
theorem seat_of_registered (coherent : busy.Coherent)
    (member : ref ∈ busy.topic.registry.membersOf channel) :
    ∃ seat, busy.seats[ref]? = some seat := by
  obtain ⟨id, entry⟩ := Registry.mem_membersOf.1 member
  obtain ⟨seat, here, _⟩ := (coherent.registered channel id ref).1 entry
  exact ⟨seat, here⟩

theorem toNat_active (coherent : busy.Coherent) (few : busy.seats.length < UInt64.size) :
    busy.topic.stats.connectionsActive.toNat = busy.seats.countP Seat.isCounted := by
  rw [coherent.active]
  exact UInt64.toNat_ofNat_of_lt' (Nat.lt_of_le_of_lt List.countP_le_length few)

/-- The tracker has an entry for each seat whose connection has to be tracked. -/
theorem entries_perm (coherent : busy.Coherent) :
    busy.topic.tracker.entries.Perm
      ((busy.seats.zipIdx.filter (·.1.isTracked)).map fun entry => (entry.1.conn.id, entry.2)) := by
  have places : ((busy.seats.zipIdx.filter (·.1.isTracked)).map Prod.snd).Nodup := by
    have all : (busy.seats.zipIdx.map Prod.snd).Nodup := by
      rw [List.zipIdx_map_snd]
      exact List.nodup_range'
    exact all.sublist (List.filter_sublist.map Prod.snd)
  have distinct : ((busy.seats.zipIdx.filter (·.1.isTracked)).map fun entry =>
      (entry.1.conn.id, entry.2)).Nodup := by
    apply List.Nodup.of_map Prod.snd
    rw [List.map_map]
    exact places
  rw [List.perm_ext_iff_of_nodup busy.topic.tracker.nodup_entries distinct]
  rintro ⟨id, ref⟩
  rw [coherent.tracked, List.mem_map]
  constructor
  · rintro ⟨seat, here, rfl, tracked⟩
    exact ⟨(seat, ref), List.mem_filter.2 ⟨List.mem_zipIdx_iff_getElem?.2 here, tracked⟩, rfl⟩
  · rintro ⟨⟨seat, place⟩, member, same⟩
    obtain ⟨here, tracked⟩ := List.mem_filter.1 member
    obtain ⟨rfl, rfl⟩ := Prod.mk.inj same
    exact ⟨seat, List.mem_zipIdx_iff_getElem?.1 here, rfl, tracked⟩

/-- The tracked connections are as many as the seats that say so. -/
theorem size_tracker (coherent : busy.Coherent) :
    busy.topic.tracker.size = busy.seats.countP Seat.isTracked := by
  have seats : busy.seats.countP Seat.isTracked =
      busy.seats.zipIdx.countP (Seat.isTracked ∘ Prod.fst) := by
    rw [← List.countP_map, List.zipIdx_map_fst]
  rw [Table.size, coherent.entries_perm.length_eq, List.length_map, ← List.countP_eq_length_filter,
    seats]
  rfl

/-! ### At every moment -/

/-- A call that is about to track a connection finds no entry under its number. -/
theorem not_contains_tracker (coherent : busy.Coherent) (few : busy.seats.length < UInt64.size)
    (here : busy.seats[ref]? = some seat) (starts : seat.attaching = .track) :
    busy.topic.tracker.contains seat.conn.id = false := by
  rw [coherent.contains_iff few here, Seat.isTracked, starts]
  rfl

/-- Nor does a call that is about to enroll one, under any channel. -/
theorem not_contains_members (coherent : busy.Coherent) (few : busy.seats.length < UInt64.size)
    (here : busy.seats[ref]? = some seat) (pending : seat.attaching = .enroll)
    (channel : Channel) :
    busy.topic.registry.members.contains (channel, seat.conn.id) = false := by
  rw [← Bool.not_eq_true, Table.contains_iff]
  rintro ⟨place, member⟩
  obtain ⟨_, _, _, enrolled⟩ := (coherent.registered_iff few here).1 member
  rw [Seat.isEnrolled, pending] at enrolled
  cases enrolled

theorem found_of_open (coherent : busy.Coherent) (here : busy.seats[ref]? = some seat)
    (opened : seat.conn.state = .open) :
    ref ∈ busy.topic.tracker.values ∧
      ∀ channel, seat.conn.channel = some channel → busy.topic.isKnown channel = true →
        ref ∈ busy.topic.registry.membersOf channel := by
  obtain ⟨tracked, enrolled⟩ := (coherent.ordered ref seat here).flags_of_open opened
  refine ⟨(coherent.mem_tracked here).2 tracked, fun channel asked accepted => ?_⟩
  exact (coherent.mem_registered here).2 ⟨enrolled, asked, accepted⟩

theorem gone_of_closed (coherent : busy.Coherent) (here : busy.seats[ref]? = some seat)
    (closed : seat.conn.state = .closed) :
    ref ∉ busy.topic.tracker.values ∧ ∀ channel, ref ∉ busy.topic.registry.membersOf channel := by
  obtain ⟨untracked, withdrawn⟩ := (coherent.ordered ref seat here).flags_of_closed closed
  rw [coherent.mem_tracked here, untracked]
  refine ⟨Bool.false_ne_true, fun channel member => ?_⟩
  rw [coherent.mem_registered here, withdrawn] at member
  exact Bool.false_ne_true member.1

/-- Whoever is about to count a connection as closed finds the count above zero. -/
theorem active_pos (coherent : busy.Coherent) (few : busy.seats.length < UInt64.size)
    (here : busy.seats[ref]? = some seat) (counts : .countClosed ∈ seat.detaching) :
    0 < busy.topic.stats.connectionsActive.toNat := by
  obtain ⟨earlier, later, split⟩ := List.append_of_mem counts
  rw [coherent.toNat_active few, List.countP_pos_iff]
  exact ⟨seat, List.mem_of_getElem? here, (coherent.ordered ref seat here).isCounted split⟩

/-- A registered connection is tracked, and it is registered under its own channel, which its topic
accepts. -/
theorem of_registered (coherent : busy.Coherent)
    (member : ref ∈ busy.topic.registry.membersOf channel) :
    ref ∈ busy.topic.tracker.values ∧ busy.topic.isKnown channel = true ∧
      ∃ seat, busy.seats[ref]? = some seat ∧ seat.conn.channel = some channel := by
  obtain ⟨seat, here⟩ := coherent.seat_of_registered member
  obtain ⟨enrolled, asked, accepted⟩ := (coherent.mem_registered here).1 member
  have tracked := Seat.isTracked_of_isEnrolled enrolled
  exact ⟨(coherent.mem_tracked here).2 tracked, accepted, seat, here, asked⟩

/-! ### When nothing is under way -/

theorem flags_of_quiet (coherent : busy.Coherent) (quiet : busy.IsQuiet)
    (here : busy.seats[ref]? = some seat) :
    (seat.isTracked = true ↔ seat.detaching = []) ∧
      (seat.isEnrolled = true ↔ seat.detaching = []) ∧ seat.isCounted = seat.isTracked := by
  obtain ⟨attached, detached⟩ := quiet seat (List.mem_of_getElem? here)
  exact (coherent.ordered ref seat here).flags_of_returned attached detached

theorem found_of_quiet (coherent : busy.Coherent) (quiet : busy.IsQuiet)
    (here : busy.seats[ref]? = some seat) :
    (ref ∈ busy.topic.tracker.values ↔ seat.detaching = []) ∧
      ∀ channel, ref ∈ busy.topic.registry.membersOf channel ↔
        seat.detaching = [] ∧ seat.conn.channel = some channel ∧
          busy.topic.isKnown channel = true := by
  obtain ⟨tracked, enrolled, _⟩ := coherent.flags_of_quiet quiet here
  refine ⟨(coherent.mem_tracked here).trans tracked, fun channel => ?_⟩
  rw [coherent.mem_registered here, enrolled]

theorem active_of_quiet (coherent : busy.Coherent) (few : busy.seats.length < UInt64.size)
    (quiet : busy.IsQuiet) :
    busy.topic.stats.connectionsActive.toNat = busy.topic.tracker.size := by
  rw [coherent.toNat_active few, coherent.size_tracker]
  apply List.countP_congr
  intro seat member
  obtain ⟨ref, here⟩ := List.getElem?_of_mem member
  rw [(coherent.flags_of_quiet quiet here).2.2]

end Coherent

/-- However the steps of calls that attach and detach connections of a topic mix with each other and
with everything else that is done to the connections, at every moment: no step of attaching replaces
an entry of the tracker or the registry; every registered connection is tracked, and registered
under its own channel alone, which its topic accepts; every open connection is tracked, and
registered if its channel is accepted; every closed connection is neither; and the count of active
connections is that of the connections counted as opened and not yet as closed, and is never zero
when one more is about to be counted as closed. When nothing is under way, the tracked connections
are those that were never detached, the registered ones are those of them whose channel is accepted,
and the count is that of the tracked ones. -/
theorem indexes_consistent (config : TopicConfig) (relay : RelayConfig) {moves : List Move}
    {busy : BusyTopic} (reached : busy = (idle (.new config relay)).run moves)
    (few : busy.seats.length < UInt64.size) :
    (∀ (ref : ConnRef) (seat : Seat), busy.seats[ref]? = some seat →
      (seat.attaching = .track → busy.topic.tracker.contains seat.conn.id = false) ∧
      (seat.attaching = .enroll → ∀ channel,
        busy.topic.registry.members.contains (channel, seat.conn.id) = false) ∧
      (seat.conn.state = .open → ref ∈ busy.topic.tracker.values ∧
        ∀ channel, seat.conn.channel = some channel → busy.topic.isKnown channel = true →
          ref ∈ busy.topic.registry.membersOf channel) ∧
      (seat.conn.state = .closed → ref ∉ busy.topic.tracker.values ∧
        ∀ channel, ref ∉ busy.topic.registry.membersOf channel) ∧
      (.countClosed ∈ seat.detaching → 0 < busy.topic.stats.connectionsActive.toNat)) ∧
    (∀ (ref : ConnRef) (channel : Channel), ref ∈ busy.topic.registry.membersOf channel →
      ref ∈ busy.topic.tracker.values ∧ busy.topic.isKnown channel = true ∧
        ∃ seat, busy.seats[ref]? = some seat ∧ seat.conn.channel = some channel) ∧
    busy.topic.stats.connectionsActive.toNat = busy.seats.countP Seat.isCounted ∧
    (busy.IsQuiet →
      (∀ (ref : ConnRef) (seat : Seat), busy.seats[ref]? = some seat →
        (ref ∈ busy.topic.tracker.values ↔ seat.detaching = []) ∧
        ∀ channel, ref ∈ busy.topic.registry.membersOf channel ↔
          seat.detaching = [] ∧ seat.conn.channel = some channel ∧
            busy.topic.isKnown channel = true) ∧
      busy.topic.stats.connectionsActive.toNat = busy.topic.tracker.size) := by
  have coherent : busy.Coherent := by
    subst reached
    exact (Coherent.idle config relay).run few
  refine ⟨?_, ?_, coherent.toNat_active few, ?_⟩
  · intro ref seat here
    exact ⟨coherent.not_contains_tracker few here, coherent.not_contains_members few here,
      coherent.found_of_open here, coherent.gone_of_closed here, coherent.active_pos few here⟩
  · intro ref channel member
    exact coherent.of_registered member
  · intro quiet
    constructor
    · intro ref seat here
      exact coherent.found_of_quiet quiet here
    · exact coherent.active_of_quiet few quiet

/-- Two calls attach connections, one of which is terminated meanwhile, and then two calls detach
that one. The second of them finds it tracked and has not counted it yet when the first one has
returned. -/
def overlapping : List Move :=
  [.attach default (some "a"), .attachStep 0, .attach default (some "a"), .attachStep 1,
    .attachStep 1, .attachStep 0, .attachStep 1, .attachStep 0, .touch 0 .terminate, .attachStep 1,
    .attachStep 0, .detach 0, .detachStep 0 0, .detach 0, .detachStep 0 1, .detachStep 0 0,
    .detachStep 0 1, .detachStep 0 1, .detachStep 0 0, .touch 1 (.offer [1]), .detachStep 0 0]

theorem indexes_consistent_of_overlapping :
    let topic : TopicConfig := ⟨"one", default, .ofList ["a", "b"], []⟩
    let busy := (idle (.new topic .twoTopics)).run overlapping
    busy.seats.length < UInt64.size ∧ busy.seats.map (·.conn.state) = [.closed, .open] ∧
      busy.topic.tracker.values = [1] ∧
      busy.topic.stats.connectionsActive.toNat = busy.seats.countP Seat.isCounted ∧
      busy.seats.countP Seat.isCounted = 2 ∧ 0 < busy.topic.stats.connectionsActive.toNat := by
  intro topic busy
  have few : busy.seats.length < UInt64.size := by decide +kernel
  have reached : busy = (idle (.new topic .twoTopics)).run overlapping := rfl
  obtain ⟨seats, _, active, _⟩ := indexes_consistent topic .twoTopics reached few
  refine ⟨few, by decide +kernel, by decide +kernel, active, by decide +kernel, ?_⟩
  have counting : (busy.seats[0]?.any fun seat => .countClosed ∈ seat.detaching) = true := by
    decide +kernel
  obtain ⟨seat, here, counts⟩ := (Option.any_eq_true _ _).1 counting
  obtain ⟨_, _, _, _, positive⟩ := seats 0 seat here
  exact positive (of_decide_eq_true counts)

end BusyTopic

end LiveRelay
