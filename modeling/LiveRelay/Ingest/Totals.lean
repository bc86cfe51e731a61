/-
Module: LiveRelay.Ingest.Totals
Purpose: What one ingest session adds up, and the bit rate that follows from it.
Main exports: IngestTotals, bitrateOf
-/
import LiveRelay.Number.Binary64

namespace LiveRelay

open Number

/-- The counters of one ingest session. All counters are 64 bits wide and wrap. -/
structure IngestTotals where
  chunks : UInt64
  bytes : UInt64
  discarded : UInt64
  deliveries : UInt64
  dropped : UInt64
deriving DecidableEq, Repr, Inhabited

namespace IngestTotals

def zero : IngestTotals := ⟨0, 0, 0, 0, 0⟩

/-- Account a chunk of some length that was fanned out. -/
def relayed (totals : IngestTotals) (length delivered dropped : Nat) : IngestTotals :=
  { totals with
    chunks := totals.chunks + 1
    bytes := totals.bytes + UInt64.ofNat length
    deliveries := totals.deliveries + UInt64.ofNat delivered
    dropped := totals.dropped + UInt64.ofNat dropped }

/-- Account a chunk of some length that no subscriber could have asked for. -/
def discard (totals : IngestTotals) (length : Nat) : IngestTotals :=
  { totals with
    chunks := totals.chunks + 1
    bytes := totals.bytes + UInt64.ofNat length
    discarded := totals.discarded + 1 }

end IngestTotals

/-- The length of a span of time in seconds, as a number of the 64-bit binary format. -/
def secondsOf (seconds nanoseconds : Nat) : Binary64 :=
  (Binary64.ofNat seconds).add (Binary64.ofRatio nanoseconds 1000000000)

/-- Bits per second over a span of time, rounded down and held at the largest counter. A span of
no length leaves the previous rate. -/
def bitrateOf (bytes : UInt64) (seconds nanoseconds : Nat) (previous : UInt64) : UInt64 :=
  let span := secondsOf seconds nanoseconds
  if span.mantissa = 0 then previous
  else
    let rate := ((Binary64.ofNat (bytes * 8).toNat).div span).floor
    if rate < UInt64.size then UInt64.ofNat rate else UInt64.ofNat (UInt64.size - 1)

end LiveRelay
