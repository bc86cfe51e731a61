/-
Module: LiveRelay.Proofs.Progression
Purpose: The state of a connection only goes forward, whatever calls are under way on it at once. Each
  step of a call leaves the state alone or moves it to one that the call has reached then, further on
  or the last; so every state but the last is reached by one call at most.
Main exports: Call.reached?, Contested.reachedBy?, ConnState.Advance, Contested.advance_step,
  Contested.Paced, Contested.answers_oneByOne, Contested.forward_by_single_calls
-/
import LiveRelay.Proofs.Termination

namespace LiveRelay

open Net

namespace ConnState

variable {state next : ConnState} {before after : Option ConnState}

/-- A closed connection has come as far as there is to go. -/
theorem rank_le_closed (state : ConnState) : state.rank ≤ closed.rank := by
  cases state <;> decide

theorem eq_closed_of_rank_le (far : closed.rank ≤ state.rank) : state = closed := by
  cases state with
  | closed => rfl
  | _ => exact absurd far (by decide)

/-- What a step can do to the state of a connection and to what its call has reached: nothing, or it
moves the state and the call has reached what it is then. It moves it forward, or stores that the
connection is closed. -/
inductive Advance (state : ConnState) : Option ConnState → ConnState → Option ConnState → Prop
  /-- Both are left alone. -/
  | stays (before : Option ConnState) : Advance state before state before
  /-- The call reaches a state. -/
  | reaches {next : ConnState} (forward : state.rank < next.rank ∨ next = .closed) :
      Advance state none next (some next)

namespace Advance

theorem rank_le (advance : Advance state before next after) : state.rank ≤ next.rank := by
  cases advance with
  | stays => exact Nat.le_refl _
  | reaches forward =>
      rcases forward with further | rfl
      · exact Nat.le_of_lt further
      · exact state.rank_le_closed

/-- What a call has reached it has reached for good. -/
theorem of_before {reached : ConnState} (advance : Advance state before next after)
    (already : before = some reached) : after = some reached := by
  cases advance with
  | stays => exact already
  | reaches forward => cases already

/-- A call that has reached a state had reached it before, or has just moved the connection there,
which had not come so far. -/
theorem of_after {reached : ConnState} (advance : Advance state before next after)
    (now : after = some reached) :
    before = some reached ∨ next = reached ∧ (state.rank < reached.rank ∨ reached = .closed) := by
  cases advance with
  | stays => exact .inl now
  | reaches forward =>
      cases now
      exact .inr ⟨rfl, forward⟩

/-- A state that the connection was not in is reached by the call that moves it. -/
theorem of_ne (advance : Advance state before next after) (different : next ≠ state) :
    after = some next := by
  cases advance with
  | stays => exact absurd rfl different
  | reaches forward => rfl

end Advance

end ConnState

open ConnState (Advance)

/-! ### What a call has reached -/

/-- Whether the call moved the state, which is what it answers. -/
def CloseOutcome.moved : CloseOutcome → Bool
  | .fromOpen | .fromConnecting => true
  | .missed _ _ => false

/-- The state to which a call that begins to close has moved the connection. -/
def CloseStage.reached? : CloseStage → Option ConnState
  | .returned outcome => if outcome.moved then some .closing else none
  | .tryOpen | .tryConnecting _ => none

/-- The state to which a call that terminates has moved the connection. -/
def TerminateStage.reached? : TerminateStage → Option ConnState
  | .closing stage => stage.reached?
  | .mark | .anticipated => none

/-- What is asked of a connection by a request to move its state. -/
def StateRequest.asked : StateRequest → ConnRequest
  | .openUp => .openUp
  | .beginClose => .beginClose
  | .finishClose => .finishClose

namespace Call

/-- What a call that opens the connection or begins to close it answers, once it has returned: whether
it moved the state. -/
def answer? : Call → Option Bool
  | .opened moved => some moved
  | .closing (.returned outcome) => some outcome.moved
  | _ => none

/-- A call that has nothing in between answers, and leaves the state, as the request asks. -/
theorem steps_asked (conn : Connection) (request : StateRequest) :
    ((request.asked.call.steps conn 6).2.answer?, (request.asked.call.steps conn 6).1.state) =
      conn.state.after request := by
  obtain ⟨id, peer, channel, capacity, overflow, state⟩ := conn
  cases request with
  | openUp => rfl
  | beginClose => cases state <;> rfl
  | finishClose => rfl

/-- The state to which a call has moved the connection: open or closing if the call answers that it
moved it, and closed if it has stored that. -/
def reached? : Call → Option ConnState
  | .opened moved => if moved then some .open else none
  | .closing stage => stage.reached?
  | .finished => some .closed
  | .terminating stage | .sending _ (.terminating stage) => stage.reached?
  | .opening | .finishing | .sending _ _ => none

end Call

/-! ### One step of a call -/

theorem CloseStage.advance_step (state : ConnState) (stage : CloseStage) :
    Advance state stage.reached? (stage.step state).1 (stage.step state).2.reached? := by
  cases stage with
  | tryOpen =>
      cases state with
      | «open» => exact .reaches (.inl (by decide))
      | _ => exact .stays none
  | tryConnecting first =>
      cases state with
      | connecting =>
          have forward : ConnState.connecting.rank < ConnState.closing.rank := by decide
          exact .reaches (.inl forward)
      | _ => exact .stays none
  | returned outcome => exact .stays _

theorem TerminateStage.advance_step (conn : Connection) (stage : TerminateStage) :
    Advance conn.state stage.reached? (stage.step conn).1.state (stage.step conn).2.reached? := by
  cases stage with
  | mark =>
      dsimp only [TerminateStage.step]
      split
      · exact .stays none
      · exact .stays none
  | closing stage => exact stage.advance_step conn.state
  | anticipated => exact .stays none

namespace Call

variable {call : Call}

/-- A call that has nothing to do with closing, and sends, has reached nothing. -/
theorem reached?_of_sending {payload : Payload} {stage : SendStage}
    (aside : (Call.sending payload stage).closing? = none) :
    (Call.sending payload stage).reached? = none := by
  cases stage with
  | terminating ending =>
      cases ending with
      | closing stage => cases aside
      | _ => rfl
  | _ => rfl

theorem advance_step (conn : Connection) (call : Call) :
    Advance conn.state call.reached? (call.step conn).1.state (call.step conn).2.reached? := by
  cases call with
  | opening =>
      have opens (state : ConnState) :
          Advance state none state.opened.2 (Call.opened state.opened.1).reached? := by
        cases state with
        | connecting => exact .reaches (.inl (by decide))
        | _ => exact .stays none
      exact opens conn.state
  | opened moved => exact .stays _
  | closing stage => exact stage.advance_step conn.state
  | finishing => exact .reaches (.inr rfl)
  | finished => exact .stays _
  | terminating stage => exact stage.advance_step conn
  | sending payload stage =>
      by_cases ends : ∃ ending, stage = .terminating ending
      · obtain ⟨ending, rfl⟩ := ends
        exact ending.advance_step conn
      · have sending (ending : TerminateStage) : stage ≠ .terminating ending :=
          fun same => ends ⟨ending, same⟩
        have state := (SendStage.step_of_sending conn payload sending).1
        have aside := (SendStage.closing?_of_sending conn payload sending).1
        have before : (Call.sending payload stage).reached? = none := by
          cases stage with
          | terminating ending => exact absurd rfl (sending ending)
          | _ => rfl
        rw [before, Call.step, reached?_of_sending aside, state]
        exact .stays none

end Call

namespace Contested

variable {contested : Contested} {move : Move} {k : Nat} {state : ConnState}

/-- The state to which the call of a number has moved the connection. -/
def reachedBy? (contested : Contested) (k : Nat) : Option ConnState :=
  contested.calls[k]?.bind Call.reached?

/-! ### Calls one after another -/

/-- Calls that are made and return one after another; the first one has a number. -/
def oneByOne (number : Nat) : List StateRequest → List Move
  | [] => []
  | request :: others =>
    .call request.asked :: (List.replicate 6 (.step number) ++ oneByOne (number + 1) others)

/-- Calls that are made one after another answer what the state says to the requests. -/
theorem answers_oneByOne (contested : Contested) (requests : List StateRequest) :
    ∃ calls, (contested.run (oneByOne contested.calls.length requests)).calls =
        contested.calls ++ calls ∧
      calls.map Call.answer? = (contested.conn.state.answers requests).map Prod.fst := by
  induction requests generalizing contested with
  | nil => exact ⟨[], (List.append_nil _).symm, rfl⟩
  | cons request others ih =>
      obtain ⟨conn, calls⟩ := contested
      let returned := request.asked.call.steps conn 6
      have alone : (returned.2.answer?, returned.1.state) = conn.state.after request :=
        Call.steps_asked conn request
      have first : (run ⟨conn, calls⟩ (.call request.asked :: List.replicate 6 (.step calls.length))) =
          ⟨returned.1, calls ++ [returned.2]⟩ := run_steps conn calls request.asked.call 6
      obtain ⟨later, same, answers⟩ := ih ⟨returned.1, calls ++ [returned.2]⟩
      have whole : run ⟨conn, calls⟩ (oneByOne calls.length (request :: others)) =
          run ⟨returned.1, calls ++ [returned.2]⟩ (oneByOne (calls ++ [returned.2]).length others) := by
        rw [← first, List.length_append, List.length_singleton, oneByOne, ← List.cons_append, run,
          run, run, List.foldl_append]
      refine ⟨returned.2 :: later, ?_, ?_⟩
      · rw [whole, same, List.append_assoc, List.singleton_append]
      · rw [List.map_cons, answers, ConnState.answers, List.map_cons, ← alone]

/-! ### One move -/

/-- A call that begins has reached nothing. -/
theorem reachedBy?_call (contested : Contested) (request : ConnRequest) (k : Nat) :
    reachedBy? { contested with calls := contested.calls ++ [request.call] } k =
      contested.reachedBy? k := by
  have none : request.call.reached? = none := by cases request <;> rfl
  rcases Nat.lt_trichotomy k contested.calls.length with within | rfl | beyond
  · rw [reachedBy?, List.getElem?_append_left within, reachedBy?]
  · rw [reachedBy?, List.getElem?_concat_length, reachedBy?, List.getElem?_eq_none (Nat.le_refl _)]
    exact none
  · rw [reachedBy?, List.getElem?_eq_none (by simpa using Nat.succ_le_of_lt beyond), reachedBy?,
      List.getElem?_eq_none (Nat.le_of_lt beyond)]

/-- A move is a step of at most one call: the state advances with what this one has reached, and the
others have reached what they had. -/
theorem advance_step (contested : Contested) (move : Move) :
    ∃ mover, Advance contested.conn.state (contested.reachedBy? mover)
        (contested.step move).conn.state ((contested.step move).reachedBy? mover) ∧
      ∀ k ≠ mover, (contested.step move).reachedBy? k = contested.reachedBy? k := by
  have steps := steps_step contested move
  generalize contested.step move = next at steps
  cases steps with
  | stay => exact ⟨0, .stays _, fun _ _ => rfl⟩
  | call request =>
      refine ⟨0, ?_, fun k _ => reachedBy?_call contested request k⟩
      rw [reachedBy?_call]
      exact .stays _
  | @step mover call here =>
      obtain ⟨within, _⟩ := List.getElem?_eq_some_iff.1 here
      refine ⟨mover, ?_, fun k other => ?_⟩
      · rw [reachedBy?, here, reachedBy?, List.getElem?_set_self within]
        exact call.advance_step contested.conn
      · rw [reachedBy?, List.getElem?_set_ne (Ne.symm other), reachedBy?]
  | @touch touch passive =>
      refine ⟨0, ?_, fun _ _ => rfl⟩
      rw [(state_touched contested.conn passive).1]
      exact .stays _

theorem rank_step (contested : Contested) (move : Move) :
    contested.conn.state.rank ≤ (contested.step move).conn.state.rank := by
  obtain ⟨_, advance, _⟩ := contested.advance_step move
  exact advance.rank_le

theorem rank_run (contested : Contested) (moves : List Move) :
    contested.conn.state.rank ≤ (contested.run moves).conn.state.rank :=
  run_keeps (fun later move far => Nat.le_trans far (later.rank_step move)) moves (Nat.le_refl _)

theorem reachedBy?_step_of_some (reached : contested.reachedBy? k = some state) (move : Move) :
    (contested.step move).reachedBy? k = some state := by
  obtain ⟨mover, advance, others⟩ := contested.advance_step move
  by_cases own : k = mover
  · subst own
    exact advance.of_before reached
  · rw [others k own, reached]

theorem reachedBy?_run_of_some (reached : contested.reachedBy? k = some state)
    (moves : List Move) : (contested.run moves).reachedBy? k = some state :=
  run_keeps (fun later move (reached : later.reachedBy? k = some state) =>
    reachedBy?_step_of_some reached move) moves reached

/-- After a move, a call that has reached a state had reached it before, or it is the one that moved,
and the connection is in that state and had not come so far. -/
theorem reached_before_or_moved (contested : Contested) (move : Move) :
    ∃ mover, ∀ k state, (contested.step move).reachedBy? k = some state →
      contested.reachedBy? k = some state ∨
        k = mover ∧ (contested.step move).conn.state = state ∧
          (contested.conn.state.rank < state.rank ∨ state = .closed) := by
  obtain ⟨mover, advance, others⟩ := contested.advance_step move
  refine ⟨mover, fun k state reached => ?_⟩
  by_cases own : k = mover
  · subst own
    exact (advance.of_after reached).imp_right fun moved => ⟨rfl, moved⟩
  · exact .inl ((others k own).symm.trans reached)

/-! ### All moves -/

/-- The connection has come as far as its calls have moved it: no call has reached a state beyond that
of the connection, a state before the last was reached by one call at most, and the connection came
from its first state by a call. -/
structure Paced (contested : Contested) : Prop where
  behind : ∀ {k state}, contested.reachedBy? k = some state →
    state.rank ≤ contested.conn.state.rank
  single : ∀ {j k state}, state ≠ .closed → contested.reachedBy? j = some state →
    contested.reachedBy? k = some state → j = k
  owed : contested.conn.state ≠ .connecting →
    ∃ k, contested.reachedBy? k = some contested.conn.state

theorem Paced.fresh {conn : Connection} (connecting : conn.state = .connecting) :
    (Contested.fresh conn).Paced where
  behind reached := nomatch reached
  single _ reached := nomatch reached
  owed moved := absurd connecting moved

theorem Paced.step (paced : contested.Paced) (move : Move) : (contested.step move).Paced := by
  obtain ⟨mover, before⟩ := contested.reached_before_or_moved move
  constructor
  case behind =>
    intro k state reached
    rcases before k state reached with already | ⟨_, now, _⟩
    · exact Nat.le_trans (paced.behind already) (contested.rank_step move)
    · exact Nat.le_of_eq (congrArg ConnState.rank now.symm)
  case single =>
    intro j k state unfinished first second
    -- A call that has reached the state by now keeps another one from doing so by this move.
    have apart {one : Nat} (already : contested.reachedBy? one = some state)
        (forward : contested.conn.state.rank < state.rank ∨ state = .closed) : False :=
      forward.elim (Nat.not_lt.2 (paced.behind already)) unfinished
    rcases before j state first with one | ⟨rfl, _, forward⟩
    · rcases before k state second with other | ⟨_, _, forward⟩
      · exact paced.single unfinished one other
      · exact (apart one forward).elim
    · rcases before k state second with other | ⟨rfl, _, _⟩
      · exact (apart other forward).elim
      · rfl
  case owed =>
    intro moved
    by_cases same : (contested.step move).conn.state = contested.conn.state
    · rw [same] at moved ⊢
      obtain ⟨k, reached⟩ := paced.owed moved
      exact ⟨k, reachedBy?_step_of_some reached move⟩
    · obtain ⟨k, advance, _⟩ := contested.advance_step move
      exact ⟨k, advance.of_ne same⟩

theorem Paced.run (paced : contested.Paced) (moves : List Move) : (contested.run moves).Paced :=
  run_keeps (fun _ move paced => paced.step move) moves paced

/-- When a call opens the connection, nobody has reached more. -/
theorem Paced.rank_le_of_opened (paced : contested.Paced) {move : Move} {opener : Nat}
    (unopened : contested.reachedBy? opener ≠ some .open)
    (opened : (contested.step move).reachedBy? opener = some .open)
    (reached : (contested.step move).reachedBy? k = some state) :
    state.rank ≤ ConnState.open.rank := by
  obtain ⟨mover, before⟩ := contested.reached_before_or_moved move
  rcases before opener .open opened with already | ⟨_, now, _⟩
  · exact absurd already unopened
  · exact now ▸ (paced.step move).behind reached

/-- Once a call has closed the connection for good it stays closed. -/
theorem Paced.closed_of_reached (paced : contested.Paced)
    (closed : contested.reachedBy? k = some .closed) (others : List Move) :
    (contested.run others).conn.state = .closed :=
  ConnState.eq_closed_of_rank_le
    (Nat.le_trans (paced.behind closed) (contested.rank_run others))

/-- However the steps of any number of calls on a new connection mix, of calls that open it, begin or
finish to close it, terminate it or send to it: its state never goes back. Of all calls one at most
opens the connection, and one at most begins to close it, be it for itself or for a call that
terminates; a connection that is open, or closing, or closed was brought there by a call; and what a
call has reached it has reached for good. When a call opens the connection, no call has begun to close
it or has finished, so that those that ever do come later. As soon as a call has finished closing the
connection, it is closed for good. -/
theorem forward_by_single_calls (id : ConnId) (peer : SocketAddress) (channel : Option Channel)
    (capacity : Nat) (overflow : OverflowPolicy) (moves : List Move) :
    let contested := (fresh (.new id peer channel capacity overflow)).run moves
    (∀ others, contested.conn.state.rank ≤ (contested.run others).conn.state.rank) ∧
    (∀ j k, contested.reachedBy? j = some .open → contested.reachedBy? k = some .open → j = k) ∧
    (∀ j k, contested.reachedBy? j = some .closing → contested.reachedBy? k = some .closing →
      j = k) ∧
    (contested.conn.state ≠ .connecting →
      ∃ k, contested.reachedBy? k = some contested.conn.state) ∧
    (∀ k state, contested.reachedBy? k = some state →
      ∀ others, (contested.run others).reachedBy? k = some state) ∧
    (∀ move opener, contested.reachedBy? opener ≠ some .open →
      (contested.step move).reachedBy? opener = some .open →
        ∀ k, (contested.step move).reachedBy? k ≠ some .closing ∧
          (contested.step move).reachedBy? k ≠ some .closed) ∧
    ∀ k, contested.reachedBy? k = some .closed →
      ∀ others, (contested.run others).conn.state = .closed := by
  intro contested
  have paced : contested.Paced := (Paced.fresh rfl).run moves
  refine ⟨contested.rank_run, ?openers, ?closers, paced.owed,
    fun k state reached => reachedBy?_run_of_some reached, ?before, ?forever⟩
  case openers => exact fun j k one other => paced.single (by decide) one other
  case closers => exact fun j k one other => paced.single (by decide) one other
  case before =>
    intro move opener unopened opened k
    constructor
    · exact fun closing => absurd (paced.rank_le_of_opened unopened opened closing) (by decide)
    · exact fun closed => absurd (paced.rank_le_of_opened unopened opened closed) (by decide)
  case forever => exact fun k closed others => paced.closed_of_reached closed others

/-- A call begins to close a connection that is connecting. Two calls open it before the second
exchange of the first one. Of two more calls that begin to close it, and one that terminates it, the
last one does. Two calls finish, and one comes too late to open it. -/
def crowdedLife : List Move :=
  [.call .beginClose, .step 0, .call .openUp, .call .openUp, .step 2, .step 1, .step 0,
    .call .beginClose, .call .beginClose, .call .terminate, .step 5, .step 5, .step 3, .step 4,
    .step 4, .step 3, .call .finishClose, .call .finishClose, .step 7, .call .openUp, .step 6,
    .step 8]

/-- The second of the calls that open the connection does so, at the fifth move and before anybody
has begun to close it; the call that terminates it is the one that begins to close it. -/
theorem forward_by_single_calls_of_crowdedLife :
    let conn := Connection.new 1 default (some "a") 2 .dropNewest
    let contested := (fresh conn).run crowdedLife
    contested.calls =
        [.closing (.returned (.missed .connecting .open)), .opened false, .opened true,
          .closing (.returned (.missed .closing .closing)),
          .closing (.returned (.missed .closing .closing)),
          .terminating (.closing (.returned .fromOpen)), .finished, .finished, .opened false] ∧
      (∀ k, contested.reachedBy? k = some .open → k = 2) ∧
      (∀ k, contested.reachedBy? k = some .closing → k = 5) ∧
      (∀ k, ((fresh conn).run (crowdedLife.take 5)).reachedBy? k ≠ some .closing) ∧
      ∀ others, (contested.run others).conn.state = .closed := by
  intro conn contested
  obtain ⟨_, openers, closers, _, _, _, forever⟩ :=
    forward_by_single_calls 1 default (some "a") 2 .dropNewest crowdedLife
  obtain ⟨_, _, _, _, _, before, _⟩ :=
    forward_by_single_calls 1 default (some "a") 2 .dropNewest (crowdedLife.take 4)
  refine ⟨by decide +kernel, ?_, ?_, ?_, forever 6 (by decide +kernel)⟩
  · exact fun k opened => openers k 2 opened (by decide +kernel)
  · exact fun k closing => closers k 5 closing (by decide +kernel)
  · exact fun k => (before (.step 2) 2 (by decide +kernel) (by decide +kernel) k).1

end Contested

end LiveRelay
