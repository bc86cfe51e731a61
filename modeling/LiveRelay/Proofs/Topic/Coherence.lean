/-
Module: LiveRelay.Proofs.Topic.Coherence
Purpose: After every move at a busy topic, its two tables and its count of connections are what the
  stages of all calls say.
Main exports: BusyTopic.Coherent, Seat.Advances, BusyTopic.Coherent.step, BusyTopic.Coherent.run
-/
import LiveRelay.Proofs.Topic.Stages

namespace LiveRelay

open Net

/-- The tables and the count of a busy topic hold what the stages of all calls say. -/
structure BusyTopic.Coherent (busy : BusyTopic) : Prop where
  next : busy.topic.nextId = UInt64.ofNat (busy.seats.length + 1)
  numbered : ∀ (ref : ConnRef) (seat : Seat), busy.seats[ref]? = some seat →
    seat.conn.id = UInt64.ofNat (ref + 1)
  tracked : ∀ (id : ConnId) (ref : ConnRef), (id, ref) ∈ busy.topic.tracker.entries ↔
    ∃ seat, busy.seats[ref]? = some seat ∧ seat.conn.id = id ∧ seat.isTracked = true
  registered : ∀ (channel : Channel) (id : ConnId) (ref : ConnRef),
    ((channel, id), ref) ∈ busy.topic.registry.members.entries ↔
      ∃ seat, busy.seats[ref]? = some seat ∧ seat.conn.id = id ∧
        seat.conn.channel = some channel ∧ busy.topic.isKnown channel = true ∧
        seat.isEnrolled = true
  ordered : ∀ (ref : ConnRef) (seat : Seat), busy.seats[ref]? = some seat → seat.Ordered
  active : busy.topic.stats.connectionsActive = UInt64.ofNat (busy.seats.countP Seat.isCounted)

/-- A step on one seat: it changes the entries of that seat and the count as its stages say, and
nothing else. -/
structure Seat.Advances (ref : ConnRef) (topic : Topic) (seat : Seat) (later : Topic)
    (next : Seat) : Prop where
  cleared : later.cleared = topic.cleared
  nextId : later.nextId = topic.nextId
  id : next.conn.id = seat.conn.id
  channel : next.conn.channel = seat.conn.channel
  tracked : ∀ (id : ConnId) (place : ConnRef), (id, place) ∈ later.tracker.entries ↔
    id ≠ seat.conn.id ∧ (id, place) ∈ topic.tracker.entries ∨
      id = seat.conn.id ∧ place = ref ∧ next.isTracked = true
  registered : ∀ (channel : Channel) (id : ConnId) (place : ConnRef),
    ((channel, id), place) ∈ later.registry.members.entries ↔
      id ≠ seat.conn.id ∧ ((channel, id), place) ∈ topic.registry.members.entries ∨
        id = seat.conn.id ∧ place = ref ∧ seat.conn.channel = some channel ∧
          topic.isKnown channel = true ∧ next.isEnrolled = true
  ordered : next.Ordered
  counted : later.stats.connectionsActive + UInt64.ofNat seat.isCounted.toNat =
    topic.stats.connectionsActive + UInt64.ofNat next.isCounted.toNat

namespace Seat

variable {seats : List Seat} {ref place : ConnRef} {seat next added other : Seat}

/-- Seat `ref` of a topic is `seat`. -/
def At (seats : List Seat) (ref : ConnRef) (seat : Seat) : Prop := seats[ref]? = some seat

/-- The number of a seat is that of its connection. -/
def number (seat : Seat) : ConnId := seat.conn.id

/-- One seat changes. -/
theorem at_set_iff (within : ref < seats.length) :
    At (seats.set ref next) place other ↔
      place ≠ ref ∧ At seats place other ∨ place = ref ∧ other = next := by
  unfold At
  by_cases same : ref = place
  · subst same
    rw [List.getElem?_set_self within]
    simp [eq_comm]
  · rw [List.getElem?_set_ne same]
    simp [Ne.symm same]

/-- A seat is added at the end. -/
theorem at_append_iff :
    At (seats ++ [added]) place other ↔
      At seats place other ∨ place = seats.length ∧ other = added := by
  unfold At
  rcases Nat.lt_trichotomy place seats.length with before | rfl | after
  · rw [List.getElem?_append_left before]
    simp [Nat.ne_of_lt before]
  · simp [eq_comm]
  · rw [List.getElem?_append_right (Nat.le_of_lt after),
      List.getElem?_eq_none (Nat.le_of_lt after)]
    simp [Nat.ne_of_gt after, Nat.sub_ne_zero_of_lt after]

end Seat

namespace BusyTopic.Coherent

variable {busy : BusyTopic} {ref place : ConnRef} {seat next : Seat} {later : Topic}
  {channel : Channel}

/-- The number of a connection tells its seat. -/
theorem sole (coherent : busy.Coherent) (few : busy.seats.length < UInt64.size)
    (here : busy.seats[ref]? = some seat) : Sole (Seat.At busy.seats) Seat.number ref seat where
  here := here
  same := fun _ there => Option.some.inj (there.symm.trans here)
  only := by
    intro place other there same
    have first := (List.getElem?_eq_some_iff.1 here).1
    have second := (List.getElem?_eq_some_iff.1 there).1
    rw [Seat.number, Seat.number, coherent.numbered ref seat here,
      coherent.numbered place other there] at same
    have numbers := congrArg UInt64.toNat same
    have bound {n : Nat} (within : n < busy.seats.length) :
        (UInt64.ofNat (n + 1)).toNat = n + 1 :=
      UInt64.toNat_ofNat_of_lt' (Nat.lt_of_le_of_lt within few)
    rw [bound first, bound second] at numbers
    exact Nat.succ.inj numbers

theorem listed_tracker (coherent : busy.Coherent) :
    Listed (Seat.At busy.seats) Seat.number (·.isTracked = true) fun id ref =>
      (id, ref) ∈ busy.topic.tracker.entries := coherent.tracked

theorem listed_registry (coherent : busy.Coherent) (channel : Channel) :
    Listed (Seat.At busy.seats) Seat.number
      (fun seat => seat.conn.channel = some channel ∧ busy.topic.isKnown channel = true ∧
        seat.isEnrolled = true)
      fun id ref => ((channel, id), ref) ∈ busy.topic.registry.members.entries :=
  coherent.registered channel

theorem tracked_iff (coherent : busy.Coherent) (few : busy.seats.length < UInt64.size)
    (here : busy.seats[ref]? = some seat) :
    (seat.conn.id, place) ∈ busy.topic.tracker.entries ↔ place = ref ∧ seat.isTracked = true :=
  coherent.listed_tracker.entry_iff (coherent.sole few here)

theorem registered_iff (coherent : busy.Coherent) (few : busy.seats.length < UInt64.size)
    (here : busy.seats[ref]? = some seat) :
    ((channel, seat.conn.id), place) ∈ busy.topic.registry.members.entries ↔
      place = ref ∧ seat.conn.channel = some channel ∧ busy.topic.isKnown channel = true ∧
        seat.isEnrolled = true :=
  (coherent.listed_registry channel).entry_iff (coherent.sole few here)

/-- A connection is found by its number exactly if it has to be tracked. -/
theorem contains_iff (coherent : busy.Coherent) (few : busy.seats.length < UInt64.size)
    (here : busy.seats[ref]? = some seat) :
    busy.topic.tracker.contains seat.conn.id = seat.isTracked := by
  rw [Bool.eq_iff_iff, Table.contains_iff]
  simp only [coherent.tracked_iff few here]
  constructor
  · rintro ⟨_, _, tracked⟩
    exact tracked
  · intro tracked
    exact ⟨ref, rfl, tracked⟩

/-- A step on one seat keeps the topic coherent. -/
theorem of_advances (coherent : busy.Coherent) (few : busy.seats.length < UInt64.size)
    (here : busy.seats[ref]? = some seat)
    (advances : Seat.Advances ref busy.topic seat later next) :
    Coherent ⟨later, busy.seats.set ref next⟩ := by
  have within : ref < busy.seats.length := (List.getElem?_eq_some_iff.1 here).1
  have known (name : Channel) : later.isKnown name = busy.topic.isKnown name :=
    Topic.isKnown_of_cleared advances.cleared name
  have sole := coherent.sole few here
  have moved (place : ConnRef) (other : Seat) :
      Seat.At (busy.seats.set ref next) place other ↔
        place ≠ ref ∧ Seat.At busy.seats place other ∨ place = ref ∧ other = next :=
    Seat.at_set_iff within
  have unique (place : ConnRef) (other : Seat) (there : Seat.At busy.seats place other) :
      other.number = next.number ↔ place = ref := by
    rw [Seat.number, Seat.number, advances.id]
    exact sole.number_iff there
  constructor
  case next =>
    rw [advances.nextId, List.length_set]
    exact coherent.next
  case numbered =>
    intro place seated there
    rcases (moved place seated).1 there with ⟨_, before⟩ | ⟨rfl, rfl⟩
    · exact coherent.numbered place seated before
    · rw [advances.id]
      exact coherent.numbered place seat here
  case tracked =>
    have changes := advances.tracked
    rw [← advances.id] at changes
    exact coherent.listed_tracker.change unique moved changes
  case registered =>
    intro name
    simp only [known]
    have changes := advances.registered name
    rw [← advances.id, ← advances.channel] at changes
    exact (coherent.listed_registry name).change unique moved changes
  case ordered =>
    intro place seated there
    rcases (moved place seated).1 there with ⟨_, before⟩ | ⟨rfl, rfl⟩
    · exact coherent.ordered place seated before
    · exact advances.ordered
  case active =>
    have counted := advances.counted
    have taken : busy.seats[ref] = seat :=
      Option.some.inj ((List.getElem?_eq_getElem within).symm.trans here)
    have least : seat.isCounted = true → 0 < busy.seats.countP Seat.isCounted := fun counts =>
      List.countP_pos_iff.2 ⟨seat, List.mem_of_getElem? here, counts⟩
    have balance : (busy.seats.set ref next).countP Seat.isCounted + seat.isCounted.toNat =
        busy.seats.countP Seat.isCounted + next.isCounted.toNat := by
      rw [List.countP_set within, taken]
      cases before : seat.isCounted with
      | false => cases next.isCounted <;> simp
      | true =>
          have positive := least before
          cases next.isCounted <;> simp <;> omega
    rw [coherent.active, ← UInt64.ofNat_add, ← balance, UInt64.ofNat_add, UInt64.add_left_inj]
      at counted
    exact counted

/-! ### Steps on one seat -/

theorem tracked_kept (coherent : busy.Coherent) (few : busy.seats.length < UInt64.size)
    (here : busy.seats[ref]? = some seat) (kept : next.isTracked = seat.isTracked) (id : ConnId)
    (place : ConnRef) :
    (id, place) ∈ busy.topic.tracker.entries ↔
      id ≠ seat.conn.id ∧ (id, place) ∈ busy.topic.tracker.entries ∨
        id = seat.conn.id ∧ place = ref ∧ next.isTracked = true :=
  coherent.listed_tracker.kept (coherent.sole few here) (by rw [kept]) id place

theorem registered_kept (coherent : busy.Coherent) (few : busy.seats.length < UInt64.size)
    (here : busy.seats[ref]? = some seat) (kept : next.isEnrolled = seat.isEnrolled)
    (channel : Channel) (id : ConnId) (place : ConnRef) :
    ((channel, id), place) ∈ busy.topic.registry.members.entries ↔
      id ≠ seat.conn.id ∧ ((channel, id), place) ∈ busy.topic.registry.members.entries ∨
        id = seat.conn.id ∧ place = ref ∧ seat.conn.channel = some channel ∧
          busy.topic.isKnown channel = true ∧ next.isEnrolled = true :=
  (coherent.listed_registry channel).kept (coherent.sole few here) (by rw [kept]) id place

/-- A step that leaves the topic alone, and after which the stages say the same. -/
theorem advances_same (coherent : busy.Coherent) (few : busy.seats.length < UInt64.size)
    (here : busy.seats[ref]? = some seat) (bond : next.conn.bond.id = seat.conn.bond.id ∧
      next.conn.bond.channel = seat.conn.bond.channel)
    (tracked : next.isTracked = seat.isTracked) (enrolled : next.isEnrolled = seat.isEnrolled)
    (counted : next.isCounted = seat.isCounted) (ordered : next.Ordered) :
    Seat.Advances ref busy.topic seat busy.topic next where
  cleared := rfl
  nextId := rfl
  id := bond.1
  channel := bond.2
  tracked := coherent.tracked_kept few here tracked
  registered := coherent.registered_kept few here enrolled
  ordered := ordered
  counted := by rw [counted]

theorem advances_attachStep (coherent : busy.Coherent) (few : busy.seats.length < UInt64.size)
    (here : busy.seats[ref]? = some seat) :
    Seat.Advances ref busy.topic seat (seat.attachStep ref busy.topic).1
      (seat.attachStep ref busy.topic).2 := by
  have ordered := (coherent.ordered ref seat here).attachStep busy.topic ref
  obtain ⟨conn, attaching, detaching⟩ := seat
  have alone := (coherent.ordered ref _ here).alone
  cases attaching with
  | track =>
      obtain rfl : detaching = [] := alone (by simp)
      refine ⟨rfl, rfl, rfl, rfl, ?_, ?_, ordered, rfl⟩
      · intro id place
        simp only [Seat.attachStep, AttachStage.step, Topic.track, Table.mem_insert]
        by_cases same : id = conn.id <;> simp [same, Seat.isTracked, AttachStage.hasTracked]
      · exact coherent.registered_kept few here rfl
  | countOpened =>
      obtain rfl : detaching = [] := alone (by simp)
      refine ⟨rfl, rfl, rfl, rfl, ?_, ?_, ordered, ?_⟩
      · exact coherent.tracked_kept few here rfl
      · exact coherent.registered_kept few here rfl
      · exact UInt64.add_zero _
  | enroll =>
      obtain rfl : detaching = [] := alone (by simp)
      refine ⟨Topic.cleared_enroll _ _, Topic.nextId_enroll _ _, rfl, rfl, ?_, ?_, ordered, ?_⟩
      · intro id place
        rw [Seat.attachStep, AttachStage.step, Topic.tracker_enroll]
        exact coherent.tracked_kept few here rfl id place
      · intro name id place
        rw [Seat.attachStep, AttachStage.step, Topic.mem_members_enroll]
        by_cases same : id = conn.id
        · subst same
          have absent : ((name, conn.id), place) ∉ busy.topic.registry.members.entries :=
            fun member => Bool.false_ne_true ((coherent.registered_iff few here).1 member).2.2.2
          simp only [absent, Seat.isEnrolled, AttachStage.hasEnrolled]
          simp [and_comm, and_left_comm]
        · simp [same]
      · rw [Seat.attachStep, AttachStage.step, Topic.stats_enroll]
        rfl
  | markOpen => exact coherent.advances_same few here ⟨rfl, rfl⟩ rfl rfl rfl ordered
  | returned => exact coherent.advances_same few here ⟨rfl, rfl⟩ rfl rfl rfl ordered

theorem advances_detachStep (coherent : busy.Coherent) (few : busy.seats.length < UInt64.size)
    (here : busy.seats[ref]? = some seat) (call : Nat) :
    Seat.Advances ref busy.topic seat (seat.detachStep call busy.topic).1
      (seat.detachStep call busy.topic).2 := by
  have before := coherent.ordered ref seat here
  have ordered := before.detachStep call (coherent.contains_iff few here)
  rcases seat.detachStep_cases call busy.topic with same | ⟨earlier, stage, later, split, moved⟩
  · rw [same] at ordered ⊢
    exact coherent.advances_same few here ⟨rfl, rfl⟩ rfl rfl rfl ordered
  rw [moved] at ordered ⊢
  cases stage with
  | beginClose =>
      refine coherent.advances_same few here ⟨rfl, rfl⟩ ?_ ?_ ?_ ordered
      all_goals
        simp [Seat.isTracked, Seat.isEnrolled, Seat.isCounted, split, DetachStage.step,
          DetachStage.hasUntracked, DetachStage.hasWithdrawn, DetachStage.hasCounted]
  | withdraw =>
      refine ⟨Topic.cleared_withdraw _, Topic.nextId_withdraw _, rfl, rfl, ?_, ?_, ordered, ?_⟩
      · intro id place
        rw [DetachStage.step, Topic.tracker_withdraw]
        refine coherent.tracked_kept few here ?_ id place
        simp [Seat.isTracked, split, DetachStage.hasUntracked]
      · intro name id place
        rw [DetachStage.step, Topic.mem_members_withdraw]
        have gone : Seat.isEnrolled
            ⟨seat.conn, seat.attaching, earlier ++ .untrack :: later⟩ = false := by
          simp [Seat.isEnrolled, DetachStage.hasWithdrawn]
        by_cases same : id = seat.conn.id
        · subst same
          rw [coherent.registered_iff few here, gone]
          constructor
          · rintro ⟨⟨_, asked, _⟩, other⟩
            exact absurd ⟨asked, rfl⟩ other
          · rintro (⟨different, _⟩ | ⟨_, _, _, _, enrolled⟩)
            · exact absurd rfl different
            · cases enrolled
        · simp [same]
      · rw [DetachStage.step, Topic.stats_withdraw]
        simp [Seat.isCounted, split, DetachStage.hasCounted]
  | untrack =>
      by_cases present : busy.topic.tracker.contains seat.conn.id = true
      · simp only [DetachStage.step, if_pos present] at ordered ⊢
        refine ⟨rfl, rfl, rfl, rfl, ?_, ?_, ordered, ?_⟩
        · intro id place
          rw [Topic.forget, Table.mem_erase]
          simp [Seat.isTracked, DetachStage.hasUntracked, and_comm]
        · refine coherent.registered_kept few here ?_
          simp [Seat.isEnrolled, split, DetachStage.hasWithdrawn]
        · rw [Topic.forget]
          simp [Seat.isCounted, split, DetachStage.hasCounted]
      · simp only [DetachStage.step, if_neg present] at ordered ⊢
        rw [coherent.contains_iff few here] at present
        refine coherent.advances_same few here ⟨rfl, rfl⟩ ?_ ?_ ?_ ordered
        · rw [Bool.not_eq_true] at present
          rw [present]
          simp [Seat.isTracked, DetachStage.hasUntracked]
        all_goals
          simp [Seat.isEnrolled, Seat.isCounted, split, DetachStage.hasWithdrawn,
            DetachStage.hasCounted]
  | countClosed =>
      refine ⟨rfl, rfl, rfl, rfl, ?_, ?_, ordered, ?_⟩
      · refine coherent.tracked_kept few here ?_
        simp [Seat.isTracked, split, DetachStage.step, DetachStage.hasUntracked]
      · refine coherent.registered_kept few here ?_
        simp [Seat.isEnrolled, split, DetachStage.step, DetachStage.hasWithdrawn]
      · have uncounted : Seat.isCounted
            ⟨seat.conn, seat.attaching, earlier ++ .finishClose true :: later⟩ = false := by
          simp [Seat.isCounted, DetachStage.hasCounted]
        simp only [DetachStage.step, uncounted, before.isCounted split]
        exact (UInt64.sub_add_cancel _ _).trans (UInt64.add_zero _).symm
  | finishClose counted =>
      refine coherent.advances_same few here ⟨rfl, rfl⟩ ?_ ?_ ?_ ordered
      all_goals
        simp [Seat.isTracked, Seat.isEnrolled, Seat.isCounted, split, DetachStage.step,
          DetachStage.hasUntracked, DetachStage.hasWithdrawn, DetachStage.hasCounted]
  | returned counted =>
      refine coherent.advances_same few here ⟨rfl, rfl⟩ ?_ ?_ ?_ ordered
      all_goals
        simp [Seat.isTracked, Seat.isEnrolled, Seat.isCounted, split, DetachStage.step]

/-! ### Moves -/

theorem onSeat (coherent : busy.Coherent) (few : busy.seats.length < UInt64.size)
    {f : Topic → Seat → Topic × Seat}
    (advances : ∀ seat, busy.seats[ref]? = some seat →
      Seat.Advances ref busy.topic seat (f busy.topic seat).1 (f busy.topic seat).2) :
    (busy.onSeat ref f).Coherent := by
  unfold BusyTopic.onSeat
  split
  · exact coherent
  · next seat here => exact coherent.of_advances few here (advances seat here)

/-- Counting other things touches neither the tables nor the count of connections. -/
theorem of_stats (coherent : busy.Coherent) {stats : TopicStats}
    (same : stats.connectionsActive = busy.topic.stats.connectionsActive) :
    Coherent { busy with topic := { busy.topic with stats := stats } } :=
  ⟨coherent.next, coherent.numbered, coherent.tracked, coherent.registered, coherent.ordered,
    same.trans coherent.active⟩

/-- A call that attaches a connection begins: the connection has a seat, and nothing else is
different yet. -/
theorem attach (coherent : busy.Coherent) (peer : SocketAddress) (channel : Option Channel) :
    (busy.step (.attach peer channel)).Coherent := by
  let added : Seat := ⟨busy.topic.newConnection peer channel, .track, []⟩
  constructor
  case next =>
    have length : (busy.seats ++ [added]).length = busy.seats.length + 1 := by simp
    change busy.topic.nextId + 1 = UInt64.ofNat ((busy.seats ++ [added]).length + 1)
    rw [coherent.next, length, UInt64.ofNat_add (busy.seats.length + 1) 1]
    rfl
  case numbered =>
    intro place seat there
    rcases Seat.at_append_iff.1 there with earlier | ⟨rfl, rfl⟩
    · exact coherent.numbered place seat earlier
    · exact coherent.next
  case tracked =>
    exact coherent.listed_tracker.extend (fun _ _ => Seat.at_append_iff) Bool.false_ne_true
  case registered =>
    intro name
    exact (coherent.listed_registry name).extend (fun _ _ => Seat.at_append_iff)
      fun wanted => Bool.false_ne_true wanted.2.2
  case ordered =>
    intro place seat there
    rcases Seat.at_append_iff.1 there with earlier | ⟨rfl, rfl⟩
    · exact coherent.ordered place seat earlier
    · exact .new busy.topic peer channel
  case active =>
    change busy.topic.stats.connectionsActive =
      UInt64.ofNat ((busy.seats ++ [added]).countP Seat.isCounted)
    rw [coherent.active, List.countP_append]
    rfl

/-- Every move keeps a topic coherent. -/
theorem step (coherent : busy.Coherent) (few : busy.seats.length < UInt64.size) (move : Move) :
    (busy.step move).Coherent := by
  cases move with
  | attach peer channel => exact coherent.attach peer channel
  | attachStep ref =>
      exact coherent.onSeat few fun seat here => coherent.advances_attachStep few here
  | detach ref =>
      rw [BusyTopic.step]
      refine coherent.onSeat few fun seat here => ?_
      have ordered := coherent.ordered ref seat here
      by_cases returned : seat.attaching = .returned
      · rw [if_pos returned]
        refine coherent.advances_same few here ⟨rfl, rfl⟩ ?_ ?_ ?_ (ordered.detach returned)
        all_goals
          simp [Seat.isTracked, Seat.isEnrolled, Seat.isCounted, DetachStage.hasUntracked,
            DetachStage.hasWithdrawn, DetachStage.hasCounted]
      · rw [if_neg returned]
        exact coherent.advances_same few here ⟨rfl, rfl⟩ rfl rfl rfl ordered
  | detachStep ref call =>
      exact coherent.onSeat few fun seat here => coherent.advances_detachStep few here call
  | touch ref touch =>
      rw [BusyTopic.step]
      refine coherent.onSeat few fun seat here => ?_
      have ordered := (coherent.ordered ref seat here).touched touch
      refine coherent.advances_same few here ?_ rfl rfl rfl ordered
      rw [Connection.bond_touched]
      exact ⟨rfl, rfl⟩
  | countRelayed length delivered dropped => exact coherent.of_stats rfl
  | countTerminated connections => exact coherent.of_stats rfl

theorem idle (config : TopicConfig) (relay : RelayConfig) :
    (BusyTopic.idle (Topic.new config relay)).Coherent where
  next := rfl
  numbered := fun ref seat here => nomatch here
  tracked := fun id ref => by simp [BusyTopic.idle, Topic.new, Table.empty]
  registered := fun channel id ref => by simp [BusyTopic.idle, Topic.new, Registry.new, Table.empty]
  ordered := fun ref seat here => nomatch here
  active := rfl

theorem length_onSeat (busy : BusyTopic) (ref : ConnRef) (f : Topic → Seat → Topic × Seat) :
    (busy.onSeat ref f).seats.length = busy.seats.length := by
  unfold BusyTopic.onSeat
  split
  · rfl
  · exact List.length_set

theorem length_le_step (busy : BusyTopic) (move : Move) :
    busy.seats.length ≤ (busy.step move).seats.length := by
  cases move with
  | attach peer channel => simp [BusyTopic.step]
  | attachStep ref => exact Nat.le_of_eq (length_onSeat busy ref _).symm
  | detach ref => exact Nat.le_of_eq (length_onSeat busy ref _).symm
  | detachStep ref call => exact Nat.le_of_eq (length_onSeat busy ref _).symm
  | touch ref touch => exact Nat.le_of_eq (length_onSeat busy ref _).symm
  | countRelayed length delivered dropped => exact Nat.le_refl _
  | countTerminated connections => exact Nat.le_refl _

theorem length_le_run (busy : BusyTopic) (moves : List Move) :
    busy.seats.length ≤ (busy.run moves).seats.length := by
  induction moves generalizing busy with
  | nil => exact Nat.le_refl _
  | cons move others ih => exact Nat.le_trans (length_le_step busy move) (ih _)

/-- Every run keeps a topic coherent. -/
theorem run (coherent : busy.Coherent) {moves : List Move}
    (few : (busy.run moves).seats.length < UInt64.size) : (busy.run moves).Coherent := by
  induction moves generalizing busy with
  | nil => exact coherent
  | cons move others ih =>
      have now : busy.seats.length < UInt64.size :=
        Nat.lt_of_le_of_lt (length_le_run busy (move :: others)) few
      exact ih (coherent.step now move) few

end BusyTopic.Coherent

end LiveRelay
