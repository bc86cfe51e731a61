/-
Module: LiveRelay.Proofs.Topic.Waiting
Purpose: What the moves of a busy topic leave of its registrations, of which no connection ever has
  two, and of the payloads that wait for its connections.
Main exports: BusyTopic.Enrolled, BusyTopic.Enrolled.step, BusyTopic.Enrolled.nodup_membersOf,
  BusyTopic.waitsAt, BusyTopic.Turnover, BusyTopic.turnover_step, BusyTopic.waitsAt_offer
-/
import LiveRelay.Proofs.Topic.Stages
import LiveRelay.Proofs.Topic.Pushed
import LiveRelay.Proofs.Topic.Members
import LiveRelay.Proofs.Connection.Outbound

namespace LiveRelay

open Net

namespace BusyTopic

variable {busy next : BusyTopic} {ref other : ConnRef} {seat : Seat}

/-! ### Registrations -/

/-- No connection is registered twice, and all that are registered have come that far. -/
structure Enrolled (busy : BusyTopic) : Prop where
  distinct : (busy.topic.registry.members.entries.map Prod.snd).Nodup
  seated : ∀ ref ∈ busy.topic.registry.members.entries.map Prod.snd,
    ∃ seat, busy.seats[ref]? = some seat ∧ seat.attaching.hasEnrolled = true

namespace Enrolled

/-- However many connections there were before, the members of a channel are different ones. -/
theorem nodup_membersOf (enrolled : busy.Enrolled) (channel : Channel) :
    (busy.topic.registry.membersOf channel).Nodup :=
  enrolled.distinct.sublist (List.filter_sublist.map Prod.snd)

/-- Registrations may be given up. -/
theorem of_sublist (enrolled : busy.Enrolled)
    (fewer : next.topic.registry.members.entries.Sublist busy.topic.registry.members.entries)
    (stays : ∀ (ref : ConnRef) (seat : Seat), busy.seats[ref]? = some seat →
      seat.attaching.hasEnrolled = true →
        ∃ later, next.seats[ref]? = some later ∧ later.attaching.hasEnrolled = true) :
    next.Enrolled where
  distinct := enrolled.distinct.sublist (fewer.map Prod.snd)
  seated ref member := by
    obtain ⟨seat, here, come⟩ := enrolled.seated ref ((fewer.map Prod.snd).subset member)
    exact stays ref seat here come

/-- So a step on one seat only has to keep the registrations and what is said of that seat. -/
theorem onSeat (enrolled : busy.Enrolled) {f : Topic → Seat → Topic × Seat}
    (fewer : ∀ seat, busy.seats[ref]? = some seat →
      (f busy.topic seat).1.registry.members.entries.Sublist busy.topic.registry.members.entries)
    (stays : ∀ seat, seat.attaching.hasEnrolled = true →
      (f busy.topic seat).2.attaching.hasEnrolled = true) : (busy.onSeat ref f).Enrolled := by
  refine enrolled.of_sublist ?_ ?_
  · cases here : busy.seats[ref]? with
    | none =>
        rw [BusyTopic.onSeat, here]
    | some seat =>
        rw [onSeat_of_present here]
        exact fewer seat here
  · intro place seat there come
    by_cases same : ref = place
    · subst same
      refine ⟨_, seats_onSeat_self f ▸ congrArg (Option.map _) there, stays seat come⟩
    · exact ⟨seat, (seats_onSeat_of_ne same f).trans there, come⟩

/-- A connection is registered when it has no registration yet. -/
theorem enroll (enrolled : busy.Enrolled) (here : busy.seats[ref]? = some seat)
    (stage : seat.attaching = .enroll) : (busy.onSeat ref (Seat.attachStep ref)).Enrolled := by
  have absent : ref ∉ busy.topic.registry.members.entries.map Prod.snd := by
    intro member
    obtain ⟨same, there, come⟩ := enrolled.seated ref member
    obtain rfl := Option.some.inj (here.symm.trans there)
    rw [stage] at come
    cases come
  have arrived : (busy.onSeat ref (Seat.attachStep ref)).seats[ref]? =
      some { seat with attaching := .markOpen } := by
    rw [seats_onSeat_self, here, Option.map_some, Seat.attachStep, stage]
    rfl
  have others (place : ConnRef)
      (member : place ∈ busy.topic.registry.members.entries.map Prod.snd) :
      ∃ later, (busy.onSeat ref (Seat.attachStep ref)).seats[place]? = some later ∧
        later.attaching.hasEnrolled = true := by
    have different : ref ≠ place := fun same => absent (same ▸ member)
    obtain ⟨later, there, come⟩ := enrolled.seated place member
    exact ⟨later, (seats_onSeat_of_ne different _).trans there, come⟩
  have topic : (busy.onSeat ref (Seat.attachStep ref)).topic =
      busy.topic.enroll seat.conn.id seat.conn.channel ref := by
    rw [onSeat_of_present here, Seat.attachStep, stage]
    rfl
  cases asked : seat.conn.channel with
  | none =>
      rw [asked, Topic.enroll] at topic
      refine ⟨topic ▸ enrolled.distinct, ?_⟩
      rw [topic]
      exact others
  | some channel =>
      rw [asked] at topic
      by_cases known : busy.topic.isKnown channel = true
      · rw [Topic.enroll_of_known known] at topic
        have entries : (busy.onSeat ref (Seat.attachStep ref)).topic.registry.members.entries =
            Table.without (channel, seat.conn.id) busy.topic.registry.members.entries ++
              [((channel, seat.conn.id), ref)] := by
          rw [topic]
          rfl
        have kept : ((Table.without (channel, seat.conn.id)
            busy.topic.registry.members.entries).map Prod.snd).Sublist
              (busy.topic.registry.members.entries.map Prod.snd) :=
          List.filter_sublist.map Prod.snd
        constructor
        · rw [entries, List.map_append, List.map_singleton, ← List.concat_eq_append,
            List.nodup_concat]
          exact ⟨fun member => absent (kept.subset member), enrolled.distinct.sublist kept⟩
        · rw [entries, List.map_append, List.map_singleton]
          intro place member
          rcases List.mem_append.1 member with earlier | last
          · exact others place (kept.subset earlier)
          · obtain rfl := List.mem_singleton.1 last
            exact ⟨_, arrived, rfl⟩
      · rw [Topic.enroll_of_unknown known] at topic
        refine ⟨topic ▸ enrolled.distinct, ?_⟩
        rw [topic]
        exact others

theorem attachStep (enrolled : busy.Enrolled) (ref : ConnRef) :
    (busy.onSeat ref (Seat.attachStep ref)).Enrolled := by
  cases here : busy.seats[ref]? with
  | none =>
      rw [BusyTopic.onSeat, here]
      exact enrolled
  | some seat =>
      by_cases stage : seat.attaching = .enroll
      · exact enrolled.enroll here stage
      · refine enrolled.onSeat ?_ ?_
        · intro same there
          obtain rfl := Option.some.inj (here.symm.trans there)
          rw [Seat.attachStep]
          cases attaching : seat.attaching with
          | enroll => exact absurd attaching stage
          | _ => exact List.Sublist.refl _
        · intro seat come
          rw [Seat.attachStep]
          cases attaching : seat.attaching with
          | returned => rfl
          | markOpen => rfl
          | _ => rw [attaching] at come; cases come

theorem detachStep (enrolled : busy.Enrolled) (ref : ConnRef) (call : Nat) :
    (busy.onSeat ref (Seat.detachStep call)).Enrolled := by
  refine enrolled.onSeat ?_ ?_
  · intro seat here
    rcases seat.detachStep_cases call busy.topic with same | ⟨earlier, stage, later, _, moved⟩
    · rw [same]
    · rw [moved]
      cases stage with
      | withdraw =>
          dsimp only [DetachStage.step]
          cases seat.conn.channel with
          | none => exact List.Sublist.refl _
          | some channel => exact List.filter_sublist
      | untrack =>
          dsimp only [DetachStage.step]
          split
          · exact List.Sublist.refl _
          · exact List.Sublist.refl _
      | _ => exact List.Sublist.refl _
  · intro seat come
    rcases seat.detachStep_cases call busy.topic with same | ⟨earlier, stage, later, _, moved⟩
    · rw [same]
      exact come
    · rw [moved]
      exact come

/-- Every move keeps it so. -/
theorem step (enrolled : busy.Enrolled) (move : Move) : (busy.step move).Enrolled := by
  cases move with
  | attach peer channel =>
      refine enrolled.of_sublist (List.Sublist.refl _) fun ref seat here come => ?_
      have within : ref < busy.seats.length := (List.getElem?_eq_some_iff.1 here).1
      exact ⟨seat, (List.getElem?_append_left within).trans here, come⟩
  | attachStep ref => exact enrolled.attachStep ref
  | detach ref =>
      rw [BusyTopic.step]
      refine enrolled.onSeat (fun _ _ => List.Sublist.refl _) fun seat come => ?_
      dsimp only
      split
      · exact come
      · exact come
  | detachStep ref call => exact enrolled.detachStep ref call
  | touch ref touch =>
      rw [BusyTopic.step]
      exact enrolled.onSeat (fun _ _ => List.Sublist.refl _) fun _ come => come
  | countRelayed length delivered dropped => exact ⟨enrolled.distinct, enrolled.seated⟩
  | countTerminated connections => exact ⟨enrolled.distinct, enrolled.seated⟩

theorem idle (config : TopicConfig) (relay : RelayConfig) :
    (BusyTopic.idle (.new config relay)).Enrolled where
  distinct := .nil
  seated _ member := nomatch member

end Enrolled

/-! ### What waits for a connection -/

/-- What waits for a connection, if it exists and as long as somebody is there to read it. -/
def waitsAt (busy : BusyTopic) (ref : ConnRef) : Option (Option (List Payload)) :=
  busy.connections[ref]?.map Connection.outbound?

theorem waitsAt_eq (busy : BusyTopic) (ref : ConnRef) :
    busy.waitsAt ref = busy.seats[ref]?.map fun seat => seat.conn.outbound? := by
  rw [waitsAt, connections, List.getElem?_map, Option.map_map]
  rfl

theorem waitsAt_onSeat_of_ne (different : ref ≠ other) (f : Topic → Seat → Topic × Seat) :
    (busy.onSeat ref f).waitsAt other = busy.waitsAt other := by
  rw [waitsAt_eq, waitsAt_eq, seats_onSeat_of_ne different]

/-- A step on a seat that leaves the payloads of its connection alone leaves all of them alone. -/
theorem waitsAt_onSeat {f : Topic → Seat → Topic × Seat}
    (kept : ∀ topic seat, (f topic seat).2.conn.outbound? = seat.conn.outbound?)
    (other : ConnRef) : (busy.onSeat ref f).waitsAt other = busy.waitsAt other := by
  by_cases same : ref = other
  · subst same
    rw [waitsAt_eq, waitsAt_eq, seats_onSeat_self, Option.map_map]
    exact congrArg (Option.map · _) (funext fun seat => kept busy.topic seat)
  · exact waitsAt_onSeat_of_ne same f

theorem waitsAt_touch (ref : ConnRef) (touch : Touch) :
    (busy.step (.touch ref touch)).waitsAt ref =
      busy.connections[ref]?.map fun conn => (conn.touched touch).outbound? := by
  rw [waitsAt_eq, step, seats_onSeat_self, connections, List.getElem?_map, Option.map_map,
    Option.map_map]
  rfl

/-- What a move that is not part of a fan-out does to the payloads that wait, and what it reads. -/
inductive Turnover (before after : ConnRef → Option (Option (List Payload))) :
    List (ConnRef × Payload) → Prop where
  /-- All stays as it is. -/
  | stay (kept : ∀ ref, after ref = before ref) : Turnover before after []
  /-- A connection is new, and nothing waits for it. -/
  | arrive (ref : ConnRef) (new : before ref = none) (empty : after ref = some (some []))
      (others : ∀ other, ref ≠ other → after other = before other) : Turnover before after []
  /-- What waited for a connection is gone, and with it the reader. -/
  | drop (ref : ConnRef) (known : before ref ≠ none) (gone : after ref = some none)
      (others : ∀ other, ref ≠ other → after other = before other) : Turnover before after []
  /-- What waited longest for a connection is read. -/
  | read (ref : ConnRef) (payload : Payload) (waits : List Payload)
      (waited : before ref = some (some (payload :: waits))) (left : after ref = some (some waits))
      (others : ∀ other, ref ≠ other → after other = before other) :
      Turnover before after [(ref, payload)]

theorem Turnover.of_self {before after : ConnRef → Option (Option (List Payload))}
    (self : after ref = before ref) (others : ∀ other, ref ≠ other → after other = before other) :
    Turnover before after [] := by
  refine .stay fun other => ?_
  by_cases same : ref = other
  · subst same
    exact self
  · exact others other same

theorem outbound?_detachStep (call : Nat) (topic : Topic) (seat : Seat) :
    (seat.detachStep call topic).2.conn.outbound? = seat.conn.outbound? := by
  rcases seat.detachStep_cases call topic with same | ⟨earlier, stage, later, _, moved⟩
  · rw [same]
  · rw [moved]
    cases stage with
    | untrack =>
        dsimp only [DetachStage.step]
        split
        · rfl
        · rfl
    | _ => rfl

theorem outbound?_attachStep (ref : ConnRef) (topic : Topic) (seat : Seat) :
    (seat.attachStep ref topic).2.conn.outbound? = seat.conn.outbound? := by
  rw [Seat.attachStep]
  cases seat.attaching <;> rfl

theorem waitsAt_attach (peer : SocketAddress) (channel : Option Channel) :
    Turnover busy.waitsAt (busy.step (.attach peer channel)).waitsAt [] := by
  refine .arrive busy.seats.length ?_ ?_ ?_
  · rw [waitsAt_eq, List.getElem?_eq_none (Nat.le_refl _)]
    rfl
  · rw [waitsAt_eq, step, List.getElem?_concat_length]
    rfl
  · intro other different
    rw [waitsAt_eq, waitsAt_eq, step]
    rcases Nat.lt_or_gt_of_ne different with after | before
    · simp [List.getElem?_append_right (Nat.le_of_lt after), Nat.sub_ne_zero_of_lt after,
        List.getElem?_eq_none (Nat.le_of_lt after)]
    · rw [List.getElem?_append_left before]

theorem turnover_receive (busy : BusyTopic) (ref : ConnRef) :
    Turnover busy.waitsAt (busy.step (.touch ref .receive)).waitsAt
      (busy.readBy (.touch ref .receive)) := by
  have others (other : ConnRef) (different : ref ≠ other) :
      (busy.step (.touch ref .receive)).waitsAt other = busy.waitsAt other :=
    waitsAt_onSeat_of_ne different _
  have self : (busy.step (.touch ref .receive)).waitsAt ref =
      busy.connections[ref]?.map fun conn => conn.receive.2.outbound? := waitsAt_touch ref .receive
  rw [readBy, Connections.fst_act]
  cases here : busy.connections[ref]? with
  | none =>
      rw [here] at self
      refine .of_self ?_ others
      rw [self, waitsAt, here]
      rfl
  | some conn =>
      rw [here, Option.map_some] at self
      have before : busy.waitsAt ref = some conn.outbound? := by
        rw [waitsAt, here]
        rfl
      cases waits : conn.outbound? with
      | none =>
          simp only [Connection.receive_of_none waits, Option.map_some, waits] at self ⊢
          refine .of_self ?_ others
          rw [self, before, waits]
      | some queue =>
          rw [waits] at before
          rcases Connection.receive_of_outbound waits with
            ⟨rfl, outcome, left⟩ | ⟨payload, rest, rfl, outcome, left⟩
          · simp only [Option.map_some, outcome]
            refine .of_self ?_ others
            rw [self, left, before]
          · simp only [Option.map_some, outcome]
            exact .read ref payload rest before (self.trans (congrArg some left)) others

theorem turnover_touch (busy : BusyTopic) (ref : ConnRef) {touch : Touch}
    (foreign : Move.isForeign (.touch ref touch) = true) :
    Turnover busy.waitsAt (busy.step (.touch ref touch)).waitsAt
      (busy.readBy (.touch ref touch)) := by
  cases touch with
  | offer payload => cases foreign
  | receive => exact turnover_receive busy ref
  | probe => exact .stay (waitsAt_onSeat fun _ seat => seat.conn.outbound?_probe)
  | terminate => exact .stay (waitsAt_onSeat fun _ seat => seat.conn.outbound?_terminate)
  | markAlive => exact .stay (waitsAt_onSeat fun _ _ => rfl)
  | receiveControl =>
      exact .stay (waitsAt_onSeat fun _ seat => seat.conn.outbound?_receiveControl)
  | dropQueues =>
      have self : (busy.step (.touch ref .dropQueues)).waitsAt ref =
          busy.connections[ref]?.map fun _ => none := waitsAt_touch ref .dropQueues
      have others (other : ConnRef) (different : ref ≠ other) :
          (busy.step (.touch ref .dropQueues)).waitsAt other = busy.waitsAt other :=
        waitsAt_onSeat_of_ne different _
      cases here : busy.connections[ref]? with
      | none =>
          rw [here] at self
          refine .of_self ?_ others
          rw [self, waitsAt, here]
          rfl
      | some conn =>
          rw [here] at self
          refine .drop ref ?_ self others
          rw [waitsAt, here]
          exact Option.some_ne_none _

/-- What a move that is not part of a fan-out can do to the payloads that wait. -/
theorem turnover_step (busy : BusyTopic) {move : Move} (foreign : move.isForeign = true) :
    Turnover busy.waitsAt (busy.step move).waitsAt (busy.readBy move) := by
  cases move with
  | attach peer channel => exact waitsAt_attach peer channel
  | attachStep ref => exact .stay (waitsAt_onSeat (outbound?_attachStep ref))
  | detach ref =>
      refine .stay (waitsAt_onSeat fun _ seat => ?_)
      dsimp only
      split
      · rfl
      · rfl
  | detachStep ref call => exact .stay (waitsAt_onSeat (outbound?_detachStep call))
  | touch ref touch => exact turnover_touch busy ref foreign
  | countRelayed length delivered dropped => cases foreign
  | countTerminated connections => exact .stay fun _ => rfl

/-- A payload that is offered joins those that wait if the answer is that it is queued, and nothing
else is different then. -/
theorem waitsAt_offer (busy : BusyTopic) (ref : ConnRef) (payload : Payload) :
    let answer := (busy.connections.act ref (·.trySend payload)).1
    let after := busy.step (.touch ref (.offer payload))
    (∀ other, ref ≠ other → after.waitsAt other = busy.waitsAt other) ∧
      if answer = some .queued then
        ∃ waits, busy.waitsAt ref = some (some waits) ∧
          after.waitsAt ref = some (some (waits ++ [payload]))
      else after.waitsAt ref = busy.waitsAt ref := by
  intro answer after
  refine ⟨fun other different => waitsAt_onSeat_of_ne different _, ?_⟩
  have self : after.waitsAt ref =
      busy.connections[ref]?.map fun conn => (conn.trySend payload).2.outbound? :=
    waitsAt_touch ref (.offer payload)
  have answered : answer = busy.connections[ref]?.map fun conn => (conn.trySend payload).1 :=
    Connections.fst_act _
  rw [self, answered, waitsAt]
  cases busy.connections[ref]? with
  | none => rfl
  | some conn =>
      simp only [Option.map_some, Option.some.injEq]
      rcases conn.trySend_cases payload with
        ⟨shut, outcome⟩ | ⟨opened, gone, outcome⟩ | ⟨queues, opened, present, room, outcome⟩ |
          ⟨queues, opened, present, full, outcome⟩
      · rw [outcome, if_neg (by simp)]
      · rw [outcome, if_neg (by simp)]
      · rw [outcome, if_pos rfl]
        refine ⟨queues.outbound, ?_, rfl⟩
        rw [Connection.outbound?, present]
        rfl
      · rw [outcome, if_neg (by simp)]
        have attended : conn.outbound? = some queues.outbound := by
          rw [Connection.outbound?, present]
          rfl
        have same := Connection.outbound?_trySend attended payload
        rw [if_neg fun reached => full reached.2, List.append_nil, outcome] at same
        exact same.trans attended.symm

end BusyTopic

end LiveRelay
