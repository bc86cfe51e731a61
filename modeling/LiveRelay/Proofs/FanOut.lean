/-
Module: LiveRelay.Proofs.FanOut
Purpose: Everything that fanning out one payload does, whatever has happened to a topic before: after
  any run of a hub, and at any instant between the steps of calls that attach and detach connections.
Main exports: Hub.Equipped, Hub.Fresh.equipped_onward, BusyTopic.Seated, BusyTopic.Seated.run,
  fanOut_effect
-/
import LiveRelay.Proofs.Gapless
import LiveRelay.Proofs.Hub.Numbered
import LiveRelay.Proofs.Topic.Offering

namespace LiveRelay

open Net

/-! ### Runs of a hub -/

/-- No event changes what a connection is equipped with. -/
theorem Topic.Equips.effect {topic : Topic} {conn : Connection} (equips : topic.Equips conn)
    (event : Hub.Event) : topic.Equips (event.effect conn) := by
  cases event with
  | attach | spawnMonitor => exact equips
  | detach => exact equips.beginClose.finishClose
  | broadcast t channel payload => exact equips.touched (.offer payload)
  | probe | advance => exact equips.touched .probe
  | terminateAll | terminate => exact equips.touched .terminate
  | markAlive => exact equips.touched .markAlive
  | receive => exact equips.touched .receive
  | receiveControl => exact equips.touched .receiveControl
  | dropQueues => exact equips.touched .dropQueues

namespace Hub

variable {homes : List Attachment} {before hub : Hub} {t : Nat} {topic : Topic}

/-- Every connection is equipped by the topic that it was attached to. -/
def Equipped (homes : List Attachment) (hub : Hub) : Prop :=
  ∀ (ref : ConnRef) (home : Attachment) (topic : Topic) (conn : Connection),
    homes[ref]? = some home → hub.topics[home.topic]? = some topic →
      hub.connections[ref]? = some conn → topic.Equips conn

theorem Equipped.step (equipped : Equipped homes hub) (tidy : Tidy homes hub) (event : Event) :
    Equipped (homes ++ (hub.attachment? event).toList) (hub.step event).2 := by
  intro ref home later conn found next present
  obtain ⟨topic, here, same⟩ := exists_getElem?_of_map_eq (cleared_step hub event) next
  refine Topic.Equips.congr same ?_
  rcases connection_origin present with
    ⟨earlier, there, rfl⟩ | ⟨s, peer, channel, other, rfl, own, rfl, rfl⟩
  · have within : ref < homes.length := tidy.even ▸ (List.getElem?_eq_some_iff.1 there).1
    rw [List.getElem?_append_left within] at found
    exact Function.Iterate.rec (fun conn => topic.Equips conn)
      (equipped ref home topic earlier found here there) (fun _ kept => kept.effect event) _
  · rw [attachment?, if_pos (List.getElem?_eq_some_iff.1 own).1, Option.toList_some, ← tidy.even,
      List.getElem?_concat_length] at found
    cases found
    obtain rfl := Option.some.inj (here.symm.trans own)
    exact (Topic.Equips.newborn topic peer channel).markOpen

/-- At every later time of a hub its tables are in place and its connections are equipped. -/
theorem Fresh.equipped_onward (fresh : before.Fresh) (onward : before.Onward hub) :
    ∃ homes, Tidy homes hub ∧ Equipped homes hub := by
  induction onward with
  | still => exact ⟨[], fresh.tidy, fun _ _ _ _ none => by cases none⟩
  | happens _ event ih =>
      obtain ⟨homes, tidy, equipped⟩ := ih
      exact ⟨_, tidy.step event, equipped.step tidy event⟩
  | counts _ topics connections ih =>
      obtain ⟨homes, tidy, equipped⟩ := ih
      refine ⟨homes, ⟨connections ▸ tidy.even, fun s later next => ?_⟩,
        fun ref home later conn found next present => ?_⟩
      · obtain ⟨topic, here, same⟩ := exists_getElem?_of_map_eq topics next
        have uncounted : topic.uncounted = later.uncounted :=
          (congrArg (fun topic => topic.uncounted) same :)
        exact (tidy.tables s topic here).of_uncounted uncounted.symm
      · obtain ⟨topic, here, same⟩ := exists_getElem?_of_map_eq topics next
        have cleared : topic.cleared = later.cleared :=
          (congrArg (fun topic => topic.cleared) same :)
        exact (equipped ref home topic conn found here (connections ▸ present)).congr cleared

theorem onward_run (hub : Hub) (events : List Event) : hub.Onward (hub.run events).2 := by
  induction events generalizing hub with
  | nil => exact .still
  | cons event others ih => exact (Onward.event hub event).trans (ih _)

/-- Whoever a topic of a hub has registered was attached to this topic. -/
theorem Tidy.serves (tidy : Tidy homes hub) (equipped : Equipped homes hub)
    (here : hub.topics[t]? = some topic) : topic.Serves hub.connections := by
  have tables := tidy.tables t topic here
  refine ⟨fun channel => tables.listed_once.sublist (topic.registry.membersOf_sublist channel),
    fun channel ref member => ?_, fun channel ref member conn present => ?_⟩
  · obtain ⟨id, entered⟩ := Registry.mem_membersOf.1 member
    obtain ⟨_, _, _, _, known⟩ := tables.listed_own _ entered
    exact known
  · obtain ⟨id, entered⟩ := Registry.mem_membersOf.1 member
    obtain ⟨home, found, rfl, _⟩ := tables.listed_own _ entered
    exact equipped ref home topic conn found here present

end Hub

/-! ### Between the steps of calls -/

namespace BusyTopic

variable {busy : BusyTopic} {ref : ConnRef} {seat next : Seat} {later : Topic}

/-- Whoever a busy topic has registered is a connection whose call to attach it has come so far, and
all connections are equipped. -/
structure Seated (busy : BusyTopic) : Prop where
  once : busy.topic.registry.members.values.Nodup
  own : ∀ entry ∈ busy.topic.registry.members.entries, busy.topic.isKnown entry.1.1 = true ∧
    ∃ seat, busy.seats[entry.2]? = some seat ∧ seat.attaching.hasEnrolled = true
  equips : ∀ seat ∈ busy.seats, busy.topic.Equips seat.conn

namespace Seated

/-- One seat changes, and with it at most its own entries. -/
theorem set (seated : busy.Seated) (here : busy.seats[ref]? = some seat)
    (cleared : later.cleared = busy.topic.cleared)
    (once : later.registry.members.values.Nodup)
    (own : ∀ entry ∈ later.registry.members.entries,
      entry ∈ busy.topic.registry.members.entries ∨
        busy.topic.isKnown entry.1.1 = true ∧ entry.2 = ref ∧ next.attaching.hasEnrolled = true)
    (onward : seat.attaching.hasEnrolled = true → next.attaching.hasEnrolled = true)
    (equips : busy.topic.Equips next.conn) : Seated ⟨later, busy.seats.set ref next⟩ where
  once := once
  own := by
    intro entry member
    have within := (List.getElem?_eq_some_iff.1 here).1
    rw [Topic.isKnown_of_cleared cleared]
    rcases own entry member with before | ⟨known, rfl, enrolled⟩
    · obtain ⟨known, other, there, enrolled⟩ := seated.own entry before
      refine ⟨known, ?_⟩
      by_cases same : entry.2 = ref
      · subst same
        obtain rfl := Option.some.inj (here.symm.trans there)
        exact ⟨next, List.getElem?_set_self within, onward enrolled⟩
      · exact ⟨other, (List.getElem?_set_ne (Ne.symm same)).trans there, enrolled⟩
    · exact ⟨known, next, List.getElem?_set_self within, enrolled⟩
  equips := by
    intro other member
    rcases List.mem_or_eq_of_mem_set member with before | rfl
    · exact (seated.equips other before).congr cleared.symm
    · exact equips.congr cleared.symm

/-- One seat changes, and entries at most go. -/
theorem set_of_sublist (seated : busy.Seated) (here : busy.seats[ref]? = some seat)
    (cleared : later.cleared = busy.topic.cleared)
    (fewer : later.registry.members.entries.Sublist busy.topic.registry.members.entries)
    (onward : seat.attaching.hasEnrolled = true → next.attaching.hasEnrolled = true)
    (equips : busy.topic.Equips next.conn) : Seated ⟨later, busy.seats.set ref next⟩ :=
  seated.set here cleared (seated.once.sublist (fewer.map Prod.snd))
    (fun _ member => .inl (fewer.subset member)) onward equips

theorem attachStep (seated : busy.Seated) (here : busy.seats[ref]? = some seat) :
    Seated ⟨(seat.attachStep ref busy.topic).1,
      busy.seats.set ref (seat.attachStep ref busy.topic).2⟩ := by
  have equips := seated.equips seat (List.mem_of_getElem? here)
  obtain ⟨conn, stage, detaching⟩ := seat
  cases stage with
  | track | countOpened | returned =>
      exact seated.set_of_sublist here rfl (List.Sublist.refl _) id equips
  | markOpen => exact seated.set_of_sublist here rfl (List.Sublist.refl _) id equips.markOpen
  | enroll =>
      -- Nothing is registered of a connection before this step.
      have absent : ref ∉ busy.topic.registry.members.values := by
        intro member
        obtain ⟨key, entered⟩ := Table.mem_values.1 member
        obtain ⟨_, other, there, enrolled⟩ := seated.own _ entered
        obtain rfl := Option.some.inj (here.symm.trans there)
        cases enrolled
      refine seated.set here (Topic.cleared_enroll _ _) ?_ ?_ (fun _ => rfl) equips
      · refine List.Nodup.sublist (Topic.values_members_enroll conn.id ref)
          (List.nodup_append.2 ⟨seated.once, List.nodup_singleton _, ?_⟩)
        rintro other member _ last rfl
        exact absent (List.mem_singleton.1 last ▸ member)
      · rintro ⟨⟨name, id⟩, place⟩ member
        rcases Topic.mem_members_enroll.1 member with ⟨_, known, _, rfl⟩ | ⟨before, _⟩
        · exact .inr ⟨known, rfl, rfl⟩
        · exact .inl before

theorem detachStep (seated : busy.Seated) (here : busy.seats[ref]? = some seat) (call : Nat) :
    Seated ⟨(seat.detachStep call busy.topic).1,
      busy.seats.set ref (seat.detachStep call busy.topic).2⟩ := by
  have equips := seated.equips seat (List.mem_of_getElem? here)
  have fewer (id : ConnId) (channel : Option Channel) :
      (busy.topic.withdraw id channel).registry.members.entries.Sublist
        busy.topic.registry.members.entries := by
    cases channel with
    | none => exact List.Sublist.refl _
    | some name => exact List.filter_sublist
  rcases seat.detachStep_cases call busy.topic with same | ⟨_, stage, _, _, moved⟩
  · rw [same]
    exact seated.set_of_sublist here rfl (List.Sublist.refl _) id equips
  · rw [moved]
    cases stage with
    | beginClose => exact seated.set_of_sublist here rfl (List.Sublist.refl _) id equips.beginClose
    | withdraw =>
        exact seated.set_of_sublist here (Topic.cleared_withdraw _) (fewer _ _) id equips
    | untrack =>
        rw [DetachStage.step]
        split <;> exact seated.set_of_sublist here rfl (List.Sublist.refl _) id equips
    | countClosed | returned =>
        exact seated.set_of_sublist here rfl (List.Sublist.refl _) id equips
    | finishClose =>
        exact seated.set_of_sublist here rfl (List.Sublist.refl _) id equips.finishClose

theorem onSeat (seated : busy.Seated) {f : Topic → Seat → Topic × Seat}
    (moves : ∀ seat, busy.seats[ref]? = some seat →
      Seated ⟨(f busy.topic seat).1, busy.seats.set ref (f busy.topic seat).2⟩) :
    (busy.onSeat ref f).Seated := by
  unfold BusyTopic.onSeat
  split
  · exact seated
  · next seat here => exact moves seat here

/-- Counters are not what a seat depends on. -/
theorem of_stats (seated : busy.Seated) (stats : TopicStats) :
    Seated { busy with topic := { busy.topic with stats := stats } } := by
  have cleared : busy.topic.cleared = { busy.topic with stats := stats }.cleared := rfl
  exact ⟨seated.once, seated.own, fun seat member => (seated.equips seat member).congr cleared⟩

/-- A call that attaches a connection begins. -/
theorem attach (seated : busy.Seated) (peer : SocketAddress) (channel : Option Channel) :
    (busy.step (.attach peer channel)).Seated where
  once := seated.once
  own := by
    intro entry member
    obtain ⟨known, seat, there, enrolled⟩ := seated.own entry member
    have within := (List.getElem?_eq_some_iff.1 there).1
    exact ⟨known, seat, (List.getElem?_append_left within).trans there, enrolled⟩
  equips := by
    intro seat member
    have cleared : busy.topic.cleared = (busy.step (.attach peer channel)).topic.cleared := rfl
    rcases List.mem_append.1 member with before | last
    · exact (seated.equips seat before).congr cleared
    · rw [List.mem_singleton.1 last]
      exact (Topic.Equips.newborn busy.topic peer channel).congr cleared

theorem step (seated : busy.Seated) (move : Move) : (busy.step move).Seated := by
  cases move with
  | attach peer channel => exact seated.attach peer channel
  | attachStep ref => exact seated.onSeat fun _ here => seated.attachStep here
  | detach ref =>
      rw [BusyTopic.step]
      refine seated.onSeat fun seat here => ?_
      have equips := seated.equips seat (List.mem_of_getElem? here)
      dsimp only
      split <;> exact seated.set_of_sublist here rfl (List.Sublist.refl _) id equips
  | detachStep ref call => exact seated.onSeat fun _ here => seated.detachStep here call
  | touch ref touch =>
      rw [BusyTopic.step]
      refine seated.onSeat fun seat here => ?_
      have equips := seated.equips seat (List.mem_of_getElem? here)
      exact seated.set_of_sublist here rfl (List.Sublist.refl _) id (equips.touched touch)
  | countRelayed length delivered dropped => exact seated.of_stats _
  | countTerminated connections => exact seated.of_stats _

theorem run (seated : busy.Seated) (moves : List Move) : (busy.run moves).Seated := by
  induction moves generalizing busy with
  | nil => exact seated
  | cons move others ih => exact ih (seated.step move)

theorem idle (config : TopicConfig) (relay : RelayConfig) :
    (BusyTopic.idle (Topic.new config relay)).Seated where
  once := List.nodup_nil
  own := fun _ member => absurd member List.not_mem_nil
  equips := fun _ member => absurd member List.not_mem_nil

theorem serves (seated : busy.Seated) : busy.topic.Serves busy.connections := by
  refine ⟨fun channel => seated.once.sublist (busy.topic.registry.membersOf_sublist channel),
    fun channel ref member => ?_, fun channel ref member conn present => ?_⟩
  · obtain ⟨id, entered⟩ := Registry.mem_membersOf.1 member
    exact (seated.own _ entered).1
  · rw [connections, List.getElem?_map] at present
    obtain ⟨seat, there, rfl⟩ := Option.map_eq_some_iff.1 present
    exact seated.equips seat (List.mem_of_getElem? there)

end Seated

end BusyTopic

/-! ### One fan-out -/

/-- Fanning out a payload on a channel of a topic, at any time of a hub and between any steps of calls
that attach and detach connections. The members of the channel can be gone through in any order, with
the same report and the same connections in the end; a broadcast does just this, counts it on the
topic, and changes nothing else. -/
theorem fanOut_effect (channel : Channel) (payload : Payload) :
    (∀ (before hub : Hub) (t : Nat) (topic : Topic), before.Fresh → before.Onward hub →
      hub.topics[t]? = some topic →
      ∃ report after,
        hub.step (.broadcast t channel payload) =
          (.fannedOut report,
            { hub with
              topics := hub.topics.set t (topic.relayed payload report), connections := after }) ∧
        FansOut topic channel payload hub.connections report after) ∧
    ∀ (config : TopicConfig) (relay : RelayConfig) (moves : List BusyTopic.Move) (busy : BusyTopic),
      busy = (BusyTopic.idle (Topic.new config relay)).run moves →
      ∃ report after,
        busy.topic.broadcast busy.connections channel payload =
          (report, busy.topic.relayed payload report, after) ∧
        FansOut busy.topic channel payload busy.connections report after := by
  constructor
  · intro before hub t topic fresh onward here
    obtain ⟨homes, tidy, equipped⟩ := fresh.equipped_onward onward
    obtain ⟨report, after, sent, fansOut⟩ := (tidy.serves equipped here).fansOut channel payload
    refine ⟨report, after, ?_, fansOut⟩
    rw [Hub.step_broadcast here, sent]
  · rintro config relay moves _ rfl
    exact ((BusyTopic.Seated.idle config relay).run moves).serves.fansOut channel payload

namespace Hub

/-- Four subscribers of a channel that have no room left. The first reader leaves, the second makes
room, and the last connection is terminated. -/
def mixedMembers : List Event :=
  List.replicate 4 (.attach 0 default (some "a")) ++
    [.broadcast 0 "a" [1], .broadcast 0 "a" [2], .dropQueues 0, .receive 1, .terminate 3]

end Hub

/-- Two subscribers of a channel that are registered. The second is not open yet. -/
def halfAttached : List BusyTopic.Move :=
  [.attach default (some "a"), .attach default (some "a")] ++
    List.replicate 4 (.attachStep 0) ++ List.replicate 3 (.attachStep 1)

/-- Of four members three are open: one is skipped, one takes the payload, and one is disconnected. The
same comes of it when they are gone through backwards. A member that is not open yet is passed. -/
theorem fanOut_effect_of_mixedMembers :
    (∃ topic after,
      ((Hub.new .strictTopics).run Hub.mixedMembers).2.topics[0]? = some topic ∧
      topic.registry.membersOf "a" = [0, 1, 2, 3] ∧
      (((Hub.new .strictTopics).run Hub.mixedMembers).2.step (.broadcast 0 "a" [9])).1 =
        .fannedOut ⟨1, 1, 1⟩ ∧
      visitEach [9] [3, 2, 1, 0] ((Hub.new .strictTopics).run Hub.mixedMembers).2.connections =
        ([2, 1, 0], ⟨1, 1, 1⟩, after) ∧
      FanOutEffect topic "a" [9] ((Hub.new .strictTopics).run Hub.mixedMembers).2.connections
        [2, 1, 0] ⟨1, 1, 1⟩ after) ∧
    ∃ busy after, busy = (BusyTopic.idle
        (Topic.new ⟨"one", default, .ofList ["a"], []⟩ .twoTopics)).run halfAttached ∧
      busy.topic.registry.membersOf "a" = [0, 1] ∧
      FanOutEffect busy.topic "a" [9] busy.connections [0] ⟨1, 0, 0⟩ after := by
  obtain ⟨hubs, busyTopics⟩ := fanOut_effect "a" [9]
  constructor
  · have onward := Hub.onward_run (Hub.new .strictTopics) Hub.mixedMembers
    have listed : ((Hub.new .strictTopics).run Hub.mixedMembers).2.topics[0]?.any (fun topic =>
        topic.registry.membersOf "a" = [0, 1, 2, 3]) = true := by decide +kernel
    obtain ⟨topic, here, four⟩ := (Option.any_eq_true _ _).1 listed
    have four := of_decide_eq_true four
    obtain ⟨report, after, broadcast, fansOut⟩ :=
      hubs _ _ 0 topic (Hub.fresh_new .strictTopics) onward here
    obtain ⟨visited, went, effect⟩ := fansOut [3, 2, 1, 0] (by rw [four]; decide)
    have backwards : (visitEach [9] [3, 2, 1, 0]
        ((Hub.new .strictTopics).run Hub.mixedMembers).2.connections).1 = [2, 1, 0] ∧
        (visitEach [9] [3, 2, 1, 0]
          ((Hub.new .strictTopics).run Hub.mixedMembers).2.connections).2.1 = ⟨1, 1, 1⟩ := by
      decide +kernel
    rw [went] at backwards
    obtain ⟨rfl, rfl⟩ := backwards
    exact ⟨topic, after, here, four, congrArg Prod.fst broadcast, went, effect⟩
  · let busy := (BusyTopic.idle
      (Topic.new ⟨"one", default, .ofList ["a"], []⟩ .twoTopics)).run halfAttached
    have two : busy.topic.registry.membersOf "a" = [0, 1] := by decide +kernel
    obtain ⟨report, after, _, fansOut⟩ := busyTopics _ _ halfAttached busy rfl
    obtain ⟨visited, went, effect⟩ := fansOut [0, 1] (by rw [two])
    have first : (visitEach [9] [0, 1] busy.connections).1 = [0] ∧
        (visitEach [9] [0, 1] busy.connections).2.1 = ⟨1, 0, 0⟩ := by decide +kernel
    rw [went] at first
    obtain ⟨rfl, rfl⟩ := first
    exact ⟨busy, after, rfl, two, effect⟩

end LiveRelay
