/-
Module: LiveRelay.Proofs.Topic.Stages
Purpose: What the stages of the calls on a connection say about it, and that no step brings them out
  of order.
Main exports: Seat.isTracked, Seat.isEnrolled, Seat.isCounted, Seat.Ordered,
  Seat.Ordered.attachStep, Seat.Ordered.detachStep
-/
import LiveRelay.Proofs.Topic.Busy

namespace LiveRelay

open Net

/-! ### Touching a connection -/

namespace Connection

variable {conn : Connection} {touch : Touch}

theorem bond_touched (conn : Connection) (touch : Touch) :
    (conn.touched touch).bond = conn.bond := by
  cases touch with
  | offer payload => exact bond_trySend conn payload
  | probe => exact bond_probe conn
  | terminate => exact bond_terminate conn
  | markAlive => rfl
  | receive => exact bond_receive conn
  | receiveControl => exact bond_receiveControl conn
  | dropQueues => rfl

theorem open_of_terminate (opened : conn.terminate.state = .open) : conn.state = .open := by
  unfold terminate at opened
  split at opened
  · exact opened
  · exact absurd opened (ConnState.closeBegun_ne_open _)

/-- Nothing but the call that attaches a connection opens it. -/
theorem open_of_touched (opened : (conn.touched touch).state = .open) : conn.state = .open := by
  cases touch with
  | offer payload =>
      by_cases already : conn.state = .open
      · exact already
      · rw [touched, trySend_of_not_open already] at opened
        exact opened
  | probe =>
      rw [touched, snd_probe] at opened
      split at opened
      · exact opened
      · split at opened
        · obtain ⟨queues, pinged⟩ := conn.takeAlive.2.snd_ping
          rw [pinged] at opened
          exact opened
        · have still := open_of_terminate opened
          exact still
  | terminate => exact open_of_terminate opened
  | markAlive => exact opened
  | receive =>
      obtain ⟨queues, read⟩ := conn.snd_receive
      rw [touched, read] at opened
      exact opened
  | receiveControl =>
      obtain ⟨queues, read⟩ := conn.snd_receiveControl
      rw [touched, read] at opened
      exact opened
  | dropQueues => exact opened

end Connection

/-! ### How far the calls have come -/

namespace AttachStage

def hasTracked : AttachStage → Bool
  | .track => false
  | .countOpened | .enroll | .markOpen | .returned => true

def hasCounted : AttachStage → Bool
  | .track | .countOpened => false
  | .enroll | .markOpen | .returned => true

def hasEnrolled : AttachStage → Bool
  | .track | .countOpened | .enroll => false
  | .markOpen | .returned => true

end AttachStage

namespace DetachStage

def hasWithdrawn : DetachStage → Bool
  | .beginClose | .withdraw => false
  | .untrack | .countClosed | .finishClose _ | .returned _ => true

def hasUntracked : DetachStage → Bool
  | .beginClose | .withdraw | .untrack => false
  | .countClosed | .finishClose _ | .returned _ => true

/-- Whether it was this call that found the connection tracked. -/
def isCloser : DetachStage → Bool
  | .beginClose | .withdraw | .untrack => false
  | .countClosed => true
  | .finishClose counted | .returned counted => counted

def hasCounted : DetachStage → Bool
  | .beginClose | .withdraw | .untrack | .countClosed => false
  | .finishClose counted | .returned counted => counted

theorem isCloser_of_hasCounted {stage : DetachStage} (counted : stage.hasCounted = true) :
    stage.isCloser = true := by
  cases stage with
  | finishClose _ => exact counted
  | returned _ => exact counted
  | _ => cases counted

end DetachStage

namespace Seat

variable {seat other : Seat} {topic : Topic} {ref : ConnRef}

/-- Whether the connection has to be tracked. -/
def isTracked (seat : Seat) : Bool :=
  seat.attaching.hasTracked && !seat.detaching.any DetachStage.hasUntracked

/-- Whether the connection has to be registered, if its topic accepts its channel. -/
def isEnrolled (seat : Seat) : Bool :=
  seat.attaching.hasEnrolled && !seat.detaching.any DetachStage.hasWithdrawn

/-- Whether the connection was counted as opened and not yet as closed. -/
def isCounted (seat : Seat) : Bool :=
  seat.attaching.hasCounted && !seat.detaching.any DetachStage.hasCounted

/-- The calls of a seat come in order, and the state of its connection tells how far they are. -/
structure Ordered (seat : Seat) : Prop where
  alone : seat.attaching ≠ .returned → seat.detaching = []
  opened : seat.conn.state = .open →
    seat.attaching = .returned ∧ ∀ stage ∈ seat.detaching, stage = .beginClose
  closed : seat.conn.state = .closed ↔ ∃ counted, .returned counted ∈ seat.detaching
  closer : seat.detaching.countP DetachStage.isCloser =
    if seat.detaching.any DetachStage.hasUntracked then 1 else 0

/-- A new connection, before any step of the call that attaches it. -/
theorem Ordered.new (topic : Topic) (peer : SocketAddress) (channel : Option Channel) :
    Ordered ⟨topic.newConnection peer channel, .track, []⟩ where
  alone _ := rfl
  opened opened := nomatch opened
  closed := by simp [Topic.newConnection, Connection.new]
  closer := rfl

theorem Ordered.touched (ordered : seat.Ordered) (touch : Touch) :
    Ordered { seat with conn := seat.conn.touched touch } where
  alone := ordered.alone
  opened opened := ordered.opened (Connection.open_of_touched opened)
  closed := by
    rw [← ordered.closed, ← Connection.isGone_bond, Connection.bond_touched,
      Connection.isGone_bond]
  closer := ordered.closer

theorem Ordered.detach (ordered : seat.Ordered) (returned : seat.attaching = .returned) :
    Ordered { seat with detaching := seat.detaching ++ [.beginClose] } where
  alone := fun pending => absurd returned pending
  opened := by
    intro opened
    refine ⟨returned, fun stage member => ?_⟩
    rcases List.mem_append.1 member with earlier | last
    · exact (ordered.opened opened).2 stage earlier
    · exact List.mem_singleton.1 last
  closed := by
    rw [ordered.closed]
    simp
  closer := by
    have closer := ordered.closer
    simpa [List.countP_append, DetachStage.isCloser, DetachStage.hasUntracked] using closer

theorem Ordered.attachStep (ordered : seat.Ordered) (topic : Topic) (ref : ConnRef) :
    (seat.attachStep ref topic).2.Ordered := by
  obtain ⟨conn, attaching, detaching⟩ := seat
  by_cases returned : attaching = .returned
  · subst returned
    exact ordered
  · obtain rfl : detaching = [] := ordered.alone returned
    have shut : conn.state ≠ .open := fun opened => returned (ordered.opened opened).1
    have unclosed : conn.state ≠ .closed := by
      intro closed
      obtain ⟨_, member⟩ := ordered.closed.1 closed
      cases member
    cases attaching with
    | returned => exact absurd rfl returned
    | markOpen =>
        refine ⟨fun _ => rfl, fun _ => ⟨rfl, ?_⟩, ?_, rfl⟩
        · intro stage member
          cases member
        · simp [Seat.attachStep, AttachStage.step, Connection.markOpen, ConnState.opened_eq_closed,
            unclosed]
    | _ =>
        refine ⟨fun _ => rfl, fun opened => absurd opened shut, ?_, rfl⟩
        simp [Seat.attachStep, AttachStage.step, unclosed]

/-- A call that detaches a connection comes after the one that attached it. -/
theorem Ordered.returned (ordered : seat.Ordered) {earlier later : List DetachStage}
    {stage : DetachStage} (split : seat.detaching = earlier ++ stage :: later) :
    seat.attaching = .returned := by
  by_contra pending
  rw [ordered.alone pending] at split
  simp at split

/-- Once a detaching call has begun to close the connection, it is not open. -/
theorem Ordered.shut (ordered : seat.Ordered) {stage : DetachStage}
    (member : stage ∈ seat.detaching) (begun : stage ≠ .beginClose) :
    seat.conn.state ≠ .open := fun opened =>
  begun ((ordered.opened opened).2 stage member)

/-- The call that is about to count a connection as closed is the first one to do so. -/
theorem Ordered.isCounted (ordered : seat.Ordered) {earlier later : List DetachStage}
    (split : seat.detaching = earlier ++ .countClosed :: later) : seat.isCounted = true := by
  have closers := ordered.closer
  rw [split, List.countP_append, List.countP_cons_of_pos rfl] at closers
  have most : (if (earlier ++ DetachStage.countClosed :: later).any DetachStage.hasUntracked
      then 1 else 0) ≤ 1 := by
    split <;> omega
  have unclosed (stages : List DetachStage) (none : stages.countP DetachStage.isCloser = 0) :
      stages.any DetachStage.hasCounted = false := by
    rw [List.any_eq_false]
    intro stage member counted
    exact List.countP_eq_zero.1 none stage member (DetachStage.isCloser_of_hasCounted counted)
  rw [Seat.isCounted, ordered.returned split, split, List.any_append, List.any_cons,
    unclosed earlier (by omega), unclosed later (by omega)]
  rfl

/-- One detaching call moves on, and the connection with it. -/
theorem Ordered.next (ordered : seat.Ordered) {earlier later : List DetachStage}
    {stage next : DetachStage} {conn : Connection}
    (split : seat.detaching = earlier ++ stage :: later) (shut : conn.state ≠ .open)
    (closed : conn.state = .closed ↔
      seat.conn.state = .closed ∨ ∃ counted, next = .returned counted)
    (pending : ∀ counted, stage ≠ .returned counted)
    (closer : (earlier ++ next :: later).countP DetachStage.isCloser =
      if (earlier ++ next :: later).any DetachStage.hasUntracked then 1 else 0) :
    Ordered ⟨conn, seat.attaching, earlier ++ next :: later⟩ where
  alone := fun unreturned => absurd (ordered.returned split) unreturned
  opened := fun opened => absurd opened shut
  closed := by
    have stays (counted : Bool) : DetachStage.returned counted ≠ stage := (pending counted).symm
    rw [closed, ordered.closed, split]
    constructor
    · rintro (⟨counted, member⟩ | ⟨counted, rfl⟩)
      · exact ⟨counted, by grind⟩
      · exact ⟨counted, by simp⟩
    · rintro ⟨counted, member⟩
      grind
  closer := closer

theorem Ordered.detachStep (ordered : seat.Ordered) (call : Nat)
    (tracked : topic.tracker.contains seat.conn.id = seat.isTracked) :
    (seat.detachStep call topic).2.Ordered := by
  rcases seat.detachStep_cases call topic with same | ⟨earlier, stage, later, split, moved⟩
  · rw [same]
    exact ordered
  have closer := ordered.closer
  have member : stage ∈ seat.detaching := by simp [split]
  have returned := ordered.returned split
  rw [moved]
  cases stage with
  | beginClose =>
      refine ordered.next split (ConnState.closeBegun_ne_open _) ?_ (by simp) ?_
      · simp [DetachStage.step, Connection.beginClose, ConnState.closeBegun_eq_closed]
      · simpa [split, List.countP_cons, DetachStage.step, DetachStage.isCloser,
          DetachStage.hasUntracked] using closer
  | withdraw =>
      refine ordered.next split (ordered.shut member (by simp)) ?_ (by simp) ?_
      · simp [DetachStage.step]
      · simpa [split, List.countP_cons, DetachStage.step, DetachStage.isCloser,
          DetachStage.hasUntracked] using closer
  | untrack =>
      -- The first call that comes here finds the connection tracked, and the others do not.
      by_cases present : topic.tracker.contains seat.conn.id = true
      · have first : seat.detaching.any DetachStage.hasUntracked = false := by
          rw [tracked, Seat.isTracked, Bool.and_eq_true, Bool.not_eq_true'] at present
          exact present.2
        rw [first, if_neg Bool.false_ne_true] at closer
        simp only [DetachStage.step, if_pos present]
        refine ordered.next split (ordered.shut member (by simp)) ?_ (by simp) ?_
        · simp
        · rw [split] at closer
          simp only [List.countP_append, List.countP_cons, Nat.add_eq_zero_iff] at closer
          simp [List.countP_append, List.countP_cons, closer, DetachStage.isCloser,
            DetachStage.hasUntracked]
      · have second : seat.detaching.any DetachStage.hasUntracked = true := by
          rw [tracked, Seat.isTracked, returned] at present
          simpa [AttachStage.hasTracked] using present
        rw [second, if_pos rfl] at closer
        simp only [DetachStage.step, if_neg present]
        refine ordered.next split (ordered.shut member (by simp)) ?_ (by simp) ?_
        · simp
        · rw [split] at closer
          simpa [List.countP_append, List.countP_cons, DetachStage.isCloser,
            DetachStage.hasUntracked] using closer
  | countClosed =>
      refine ordered.next split (ordered.shut member (by simp)) ?_ (by simp) ?_
      · simp [DetachStage.step]
      · simpa [split, List.countP_cons, DetachStage.step, DetachStage.isCloser,
          DetachStage.hasUntracked] using closer
  | finishClose counted =>
      refine ordered.next split ?_ ?_ (by simp) ?_
      · simp [DetachStage.step, Connection.finishClose, ConnState.closeFinished]
      · simp [DetachStage.step, Connection.finishClose, ConnState.closeFinished]
      · cases counted <;> simpa [split, List.countP_cons, DetachStage.step, DetachStage.isCloser,
          DetachStage.hasUntracked] using closer
  | returned counted =>
      rw [DetachStage.step, ← split]
      exact ordered

end Seat

end LiveRelay
