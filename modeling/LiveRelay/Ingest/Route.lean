/-
Module: LiveRelay.Ingest.Route
Purpose: Where a source pushes the data of a topic: a listener address and a base path, and the
  path patterns that they stand for.
Main exports: IngestRoute, IngestRoute.new, IngestRoute.path, IngestRoute.paths
-/
import LiveRelay.Net.Address
import LiveRelay.Text.Split

namespace LiveRelay

open Text Net

/-- A place where sources push: routes with one address share one listener, and the base stands
in front of the channel in the request path. -/
structure IngestRoute where
  address : SocketAddress
  base : String
deriving DecidableEq, Repr, Inhabited

namespace IngestRoute

/-- The base without the slashes around it. -/
def trimmedBase (base : String) : String := String.ofList (trimWhere (· == '/') base.toList)

/-- A route whose base is written without outer slashes, however it was given. -/
def new (address : SocketAddress) (base : String) : IngestRoute := ⟨address, trimmedBase base⟩

/-- The pattern that ends with the channel. -/
def path (route : IngestRoute) : String :=
  if route.base = "" then "/\x7bchannel\x7d" else "/" ++ route.base ++ "/\x7bchannel\x7d"

/-- The three patterns that a route serves: what follows the channel is accepted and ignored. -/
def paths (route : IngestRoute) : List String :=
  [route.path ++ "/", route.path ++ "/\x7b*rest\x7d", route.path]

end IngestRoute

end LiveRelay
