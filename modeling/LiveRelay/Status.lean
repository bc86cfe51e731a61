/-
Module: LiveRelay.Status
Purpose: The statuses that requests are answered with.
Main exports: Status, Status.code
-/

namespace LiveRelay

/-- How a request is answered. -/
inductive Status where
  | switching
  | ok
  | badRequest
  | notFound
  | methodNotAllowed
  | timedOut
deriving Repr, DecidableEq

/-- The number of a status. -/
def Status.code : Status → Nat
  | switching => 101
  | ok => 200
  | badRequest => 400
  | notFound => 404
  | methodNotAllowed => 405
  | timedOut => 408

end LiveRelay
