/-
Module: LiveRelay.Connection.State
Purpose: The life of a subscriber connection, from its upgrade to its removal.
Main exports: ConnState, ConnState.compareExchange, ConnState.opened, ConnState.closeBegun,
  ConnState.closeFinished
-/

namespace LiveRelay

/-- Where a connection stands. Only an open connection is sent data. -/
inductive ConnState where
  | connecting
  | open
  | closing
  | closed
deriving Repr, Inhabited, DecidableEq

namespace ConnState

/-- How far a connection has come: a state never goes back to one of a lower rank. -/
def rank : ConnState → Nat
  | connecting => 0
  | .open => 1
  | closing => 2
  | closed => 3

/-- Replace the state by another if it is the expected one, and say whether it was. -/
def compareExchange (state expected next : ConnState) : Bool × ConnState :=
  if state = expected then (true, next) else (false, state)

/-- Open a connection that has not moved on. -/
def opened (state : ConnState) : Bool × ConnState :=
  state.compareExchange connecting .open

/-- Start closing: first try it from open, and if that fails from connecting. The result says
whether this call moved the state. -/
def closeBegun (state : ConnState) : Bool × ConnState :=
  match state.compareExchange .open closing with
  | (true, next) => (true, next)
  | (false, state) => state.compareExchange connecting closing

/-- Finish closing, whatever the state. -/
def closeFinished (_ : ConnState) : ConnState := closed

theorem rank_opened (state : ConnState) : state.rank ≤ state.opened.2.rank := by
  cases state <;> decide

theorem rank_closeBegun (state : ConnState) : state.rank ≤ state.closeBegun.2.rank := by
  cases state <;> decide

theorem rank_closeFinished (state : ConnState) : state.rank ≤ state.closeFinished.rank := by
  cases state <;> decide

end ConnState

/-- A request to move the state of a connection. -/
inductive StateRequest where
  | openUp
  | beginClose
  | finishClose
deriving Repr, DecidableEq

/-- The state after a request, and whether the request moved it; finishing always does and says
nothing. -/
def ConnState.after (state : ConnState) : StateRequest → Option Bool × ConnState
  | .openUp => (some state.opened.1, state.opened.2)
  | .beginClose => (some state.closeBegun.1, state.closeBegun.2)
  | .finishClose => (none, state.closeFinished)

/-- The answers to requests made one after another, each with the state it left. -/
def ConnState.answers (state : ConnState) : List StateRequest → List (Option Bool × ConnState)
  | [] => []
  | request :: others => state.after request :: (state.after request).2.answers others

end LiveRelay
