/-
Module: LiveRelay.Query
Purpose: Which channel the query of an upgrade request asks for.
Main exports: Query.channel?, channelOfQuery
-/
import LiveRelay.ChannelSet
import LiveRelay.Text.Blank

namespace LiveRelay

open Text

namespace Query

/-- The parts of a query that have a name and a value, in order; a part without `=` has neither. -/
def pairs (query : List Char) : List (List Char × List Char) :=
  (pieces '&' query).filterMap (cutFirst '=')

/-- The channel that a query asks for. A query without `=` is the channel itself. Otherwise the
first pair named `channel` decides, and asks for none when its value is empty. -/
def channel? (query : List Char) : Option (List Char) :=
  let query := trimBlank query
  if query = [] then none
  else if '=' ∉ query then some query
  else
    match (pairs query).find? fun pair => pair.1 = "channel".toList with
    | some (_, []) => none
    | some (_, value) => some value
    | none => none

end Query

/-- The channel that the query of an upgrade request asks for, if the request has a query. -/
def channelOfQuery (query : Option String) : Option Channel :=
  query.bind fun text => (Query.channel? text.toList).map String.ofList

example : channelOfQuery (some "a=&channel=b=c&channel=d") = some "b=c" := by decide +kernel
example : channelOfQuery (some "channel=&channel=d") = none := by decide +kernel
example : channelOfQuery (some " 05&x ") = some "05&x" := by decide +kernel

end LiveRelay
