/-
Module: LiveRelay.Proofs.Connection.Contested
Purpose: A connection on which many calls are under way at once. Each call is taken one atomic step at
  a time: every exchange of the state, every look at it, every swap of the mark of termination,
  every offer to the queue and every count. The steps of all calls mix in any order.
Main exports: CloseStage, TerminateStage, SendStage, ConnRequest, Call, Call.step, Contested,
  Contested.Move, Contested.step, Contested.run, Contested.run_keeps, Contested.run_alone
-/
import LiveRelay.Proofs.Topic.Busy

namespace LiveRelay

/-- How a call that begins to close a connection moved its state, or which states its two exchanges
found instead. -/
inductive CloseOutcome where
  | fromOpen
  | fromConnecting
  | missed (first second : ConnState)
deriving Repr, DecidableEq

/-- The next step of a call that begins to close a connection, or that it has returned. The second
exchange comes only if the first one failed, and by then it is known what that one found. -/
inductive CloseStage where
  | tryOpen
  | tryConnecting (first : ConnState)
  | returned (outcome : CloseOutcome)
deriving Repr, DecidableEq

/-- The next step of a call that terminates a connection. A call that finds it marked returns; the one
that marks it begins to close it. -/
inductive TerminateStage where
  | mark
  | closing (stage : CloseStage)
  | anticipated
deriving Repr, DecidableEq

/-- The next step of a call that sends a payload, or that it has returned. -/
inductive SendStage where
  | look
  | enter
  | countQueued
  | countDropped
  | terminating (stage : TerminateStage)
  | returned (outcome : SendOutcome)
deriving Repr, DecidableEq

/-- What can be asked of a connection. -/
inductive ConnRequest where
  | openUp
  | beginClose
  | finishClose
  | terminate
  | send (payload : Payload)
deriving Repr, DecidableEq

/-- A call on a connection with its stage. -/
inductive Call where
  | opening
  | opened (moved : Bool)
  | closing (stage : CloseStage)
  | finishing
  | finished
  | terminating (stage : TerminateStage)
  | sending (payload : Payload) (stage : SendStage)
deriving Repr, DecidableEq

/-- The call that a request begins. -/
def ConnRequest.call : ConnRequest → Call
  | .openUp => .opening
  | .beginClose => .closing .tryOpen
  | .finishClose => .finishing
  | .terminate => .terminating .mark
  | .send payload => .sending payload .look

/-- What a request does to a connection that nobody else touches meanwhile. -/
def ConnRequest.perform (conn : Connection) : ConnRequest → Connection
  | .openUp => conn.markOpen
  | .beginClose => conn.beginClose
  | .finishClose => conn.finishClose
  | .terminate => conn.terminate
  | .send payload => (conn.trySend payload).2

/-- One step of a call that begins to close a connection: what it makes of the state, and where the
call is then. -/
def CloseStage.step (state : ConnState) : CloseStage → ConnState × CloseStage
  | .tryOpen =>
    match state.compareExchange .open .closing with
    | (true, next) => (next, .returned .fromOpen)
    | (false, found) => (found, .tryConnecting found)
  | .tryConnecting first =>
    match state.compareExchange .connecting .closing with
    | (true, next) => (next, .returned .fromConnecting)
    | (false, found) => (found, .returned (.missed first found))
  | .returned outcome => (state, .returned outcome)

/-- One step of a call that terminates a connection. -/
def TerminateStage.step (conn : Connection) : TerminateStage → Connection × TerminateStage
  | .mark =>
    ({ conn with terminated := true }, if conn.terminated then .anticipated else .closing .tryOpen)
  | .closing stage =>
    let (state, stage) := stage.step conn.state
    ({ conn with state := state }, .closing stage)
  | .anticipated => (conn, .anticipated)

/-- One step of a call that sends a payload. -/
def SendStage.step (conn : Connection) (payload : Payload) : SendStage → Connection × SendStage
  | .look => (conn, if conn.isOpen then .enter else .returned .skipped)
  | .enter =>
    match conn.queues with
    | none => (conn, .returned .closed)
    | some queues =>
      if queues.outbound.length < conn.capacity then
        ({ conn with queues := some { queues with outbound := queues.outbound ++ [payload] } },
          .countQueued)
      else (conn, .countDropped)
  | .countQueued => ({ conn with delivered := conn.delivered + 1 }, .returned .queued)
  | .countDropped =>
    ({ conn with dropped := conn.dropped + 1 },
      match conn.overflow with
      | .dropNewest => .returned .dropped
      | .disconnect => .terminating .mark)
  | .terminating stage =>
    let (conn, stage) := stage.step conn
    (conn, .terminating stage)
  | .returned outcome => (conn, .returned outcome)

namespace Call

/-- One step of a call. -/
def step (conn : Connection) : Call → Connection × Call
  | .opening =>
    let (moved, state) := conn.state.opened
    ({ conn with state := state }, .opened moved)
  | .opened moved => (conn, .opened moved)
  | .closing stage =>
    let (state, stage) := stage.step conn.state
    ({ conn with state := state }, .closing stage)
  | .finishing => (conn.finishClose, .finished)
  | .finished => (conn, .finished)
  | .terminating stage =>
    let (conn, stage) := stage.step conn
    (conn, .terminating stage)
  | .sending payload stage =>
    let (conn, stage) := stage.step conn payload
    (conn, .sending payload stage)

/-- Several steps of a call with nothing in between. -/
def steps (conn : Connection) (call : Call) : Nat → Connection × Call
  | 0 => (conn, call)
  | n + 1 => steps (call.step conn).1 (call.step conn).2 n

/-- How far a call has come in beginning to close the connection, if it has to do that. -/
def closing? : Call → Option CloseStage
  | .closing stage | .terminating (.closing stage) | .sending _ (.terminating (.closing stage)) =>
    some stage
  | _ => none

/-- Whether the call terminates the connection and marked it. -/
def hasMarked : Call → Bool
  | .terminating (.closing _) | .sending _ (.terminating (.closing _)) => true
  | _ => false

/-- Whether the call terminates the connection and found it marked. -/
def isAnticipated : Call → Bool
  | .terminating .anticipated | .sending _ (.terminating .anticipated) => true
  | _ => false

/-! ### Calls with nothing in between -/

/-- A call that sends a payload has returned after six steps at most. -/
theorem steps_send (conn : Connection) (payload : Payload) :
    (steps conn (ConnRequest.send payload).call 6).1 = (conn.trySend payload).2 := by
  obtain ⟨id, peer, channel, capacity, overflow, state, alive, terminated, queues, delivered,
    dropped⟩ := conn
  cases state with
  | «open» =>
      cases queues with
      | none => rfl
      | some queues =>
          by_cases room : queues.outbound.length < capacity
          · simp [steps, Call.step, ConnRequest.call, SendStage.step, Connection.trySend,
              Connection.isOpen, room]
          · cases overflow with
            | dropNewest =>
                simp [steps, Call.step, ConnRequest.call, SendStage.step, Connection.trySend,
                  Connection.isOpen, room]
            | disconnect =>
                cases terminated <;>
                  simp [steps, Call.step, ConnRequest.call, SendStage.step, Connection.trySend,
                    Connection.isOpen, room, TerminateStage.step, CloseStage.step,
                    Connection.terminate, Connection.beginClose, ConnState.closeBegun,
                    ConnState.compareExchange]
  | _ => rfl

/-- All others have returned by then as well. -/
theorem steps_request (conn : Connection) (request : ConnRequest) :
    (steps conn request.call 6).1 = request.perform conn := by
  cases request with
  | openUp => rfl
  | beginClose =>
      cases conn with
      | mk id peer channel capacity overflow state => cases state <;> rfl
  | finishClose => rfl
  | terminate =>
      cases conn with
      | mk id peer channel capacity overflow state alive terminated =>
          cases terminated with
          | true => rfl
          | false => cases state <;> rfl
  | send payload => exact steps_send conn payload

end Call

/-- A connection with all calls that were ever made on it. -/
structure Contested where
  conn : Connection
  calls : List Call
deriving Repr, DecidableEq

namespace Contested

/-- A connection on which nobody has called anything yet. -/
def fresh (conn : Connection) : Contested := ⟨conn, []⟩

/-- What may be done to a connection beside the calls: its owner reads from the queues or drops them,
and signs of life arrive. -/
def isPassive : Touch → Bool
  | .markAlive | .receive | .receiveControl | .dropQueues => true
  | .offer _ | .probe | .terminate => false

/-- Everything that can happen next. -/
inductive Move where
  | call (request : ConnRequest)
  | step (k : Nat)
  | touch (touch : Touch)
deriving Repr, DecidableEq

/-- One move. -/
def step (contested : Contested) : Move → Contested
  | .call request => { contested with calls := contested.calls ++ [request.call] }
  | .step k =>
    match contested.calls[k]? with
    | none => contested
    | some call =>
      ⟨(call.step contested.conn).1, contested.calls.set k (call.step contested.conn).2⟩
  | .touch touch =>
    if isPassive touch then { contested with conn := contested.conn.touched touch } else contested

/-- Moves one after another. -/
def run (contested : Contested) (moves : List Move) : Contested := moves.foldl step contested

variable {contested : Contested}

/-- What every move keeps, all moves keep. -/
theorem run_keeps {holds : Contested → Prop}
    (kept : ∀ contested move, holds contested → holds (contested.step move)) (moves : List Move)
    (first : holds contested) : holds (contested.run moves) := by
  induction moves generalizing contested with
  | nil => exact first
  | cons move others ih => exact ih (kept contested move first)

theorem run_steps (conn : Connection) (calls : List Call) (call : Call) (n : Nat) :
    run ⟨conn, calls ++ [call]⟩ (List.replicate n (.step calls.length)) =
      ⟨(call.steps conn n).1, calls ++ [(call.steps conn n).2]⟩ := by
  induction n generalizing conn call with
  | zero => rfl
  | succ n ih =>
      have first : step ⟨conn, calls ++ [call]⟩ (.step calls.length) =
          ⟨(call.step conn).1, calls ++ [(call.step conn).2]⟩ := by
        rw [step, List.getElem?_concat_length]
        simp
      rw [List.replicate_succ, run, List.foldl_cons, first]
      exact ih _ _

/-- A call with nothing in between does on a contested connection what the request asks for. -/
theorem run_alone (contested : Contested) (request : ConnRequest) :
    (contested.run (.call request :: List.replicate 6 (.step contested.calls.length))).conn =
      request.perform contested.conn := by
  have ran := run_steps contested.conn contested.calls request.call 6
  rw [Call.steps_request] at ran
  exact congrArg conn ran

/-- What a move can do. -/
inductive Steps (contested : Contested) : Contested → Prop where
  /-- Nothing. -/
  | stay : Steps contested contested
  /-- A call begins. -/
  | call (request : ConnRequest) :
      Steps contested { contested with calls := contested.calls ++ [request.call] }
  /-- A call takes its next step. -/
  | step {k : Nat} {call : Call} (here : contested.calls[k]? = some call) :
      Steps contested
        ⟨(call.step contested.conn).1, contested.calls.set k (call.step contested.conn).2⟩
  /-- Something is done to the connection beside the calls. -/
  | touch {touch : Touch} (passive : isPassive touch = true) :
      Steps contested { contested with conn := contested.conn.touched touch }

theorem steps_step (contested : Contested) (move : Move) :
    Steps contested (contested.step move) := by
  cases move with
  | call request => exact .call request
  | step k =>
      rw [step]
      split
      · exact .stay
      · next call here => exact .step here
  | touch touch =>
      rw [step]
      split
      · next passive => exact .touch passive
      · exact .stay

end Contested

end LiveRelay
