import MiniGateway.Source.Config

/-!
# Source — World

What a request finds and leaves behind: the states of the limiter, the cache backend, the
upstream and the service discovery, the clock, and what `metrics.rs` has asked its recorder for.

Beside the states, handling a request yields the `Event`s it caused: each check of the limiter,
each lookup in the cache, each request sent to the upstream and each pause between two attempts.

What the counters and the gauge then show is up to the recorder, which is a parameter
(`Recorder`).  The duration and size histograms of `metrics.rs` are left out.
-/

namespace MiniGateway

open Http

/-! ### What is sent upstream -/

/-- A request of the HTTP client. -/
structure OutRequest where
  method : Method
  url : Text
  headers : HeaderMap
  body : Bytes
  timeoutMs : Option Nat
  deriving DecidableEq

/-- What handling a request does outside the gateway. -/
inductive Event where
  | tick (key : Text) (admitted : Bool)
  | lookup (key : Text) (hit : Bool)
  | send (req : OutRequest)
  | sleep (ms : Nat)
  deriving DecidableEq

/-! ### `metrics.rs` -/

/-- `counter!(counter, labels).increment(1)`: a call, and the series it is made on. -/
structure Sample where
  counter : Text
  labels : List (Text × Text)
  deriving DecidableEq

structure RequestMetrics where
  method : Text
  path : Text
  routeId : Text
  deriving DecidableEq

namespace RequestMetrics

def recordSuccess (m : RequestMetrics) (status : Nat) : List Sample :=
  let labels := [("method".toList, m.method), ("path".toList, m.path),
    ("route_id".toList, m.routeId), ("status".toList, Text.ofNat status)]
  ⟨"gateway_requests_total", labels⟩ ::
    if 400 ≤ status then [⟨"gateway_requests_error_total", labels⟩] else []

def recordCacheHit (m : RequestMetrics) : Sample :=
  ⟨"gateway_cache_hits_total", [("route_id".toList, m.routeId)]⟩

def recordRateLimited (m : RequestMetrics) : Sample :=
  ⟨"gateway_rate_limited_total", [("route_id".toList, m.routeId), ("method".toList, m.method)]⟩

def recordAuthFailure (m : RequestMetrics) : Sample :=
  ⟨"gateway_auth_failures_total", [("route_id".toList, m.routeId)]⟩

end RequestMetrics

/-- The recorder of the `metrics` crate, with its exporter: what it shows of a series after these
increments, and of the gauge after these deltas. -/
structure Recorder where
  counter : List Sample → Sample → Nat
  gauge : List Int → Int

namespace Recorder

/-- Increments of a series add up. -/
structure CountsUp (R : Recorder) : Prop where
  fresh : ∀ series, R.counter [] series = 0
  increment : ∀ calls call series, R.counter (calls ++ [call]) series =
    R.counter calls series + if call = series then 1 else 0

/-- Deltas of the gauge add up. -/
structure GaugeAddsUp (R : Recorder) : Prop where
  fresh : R.gauge [] = 0
  increment : ∀ deltas delta, R.gauge (deltas ++ [delta]) = R.gauge deltas + delta

end Recorder

/-! ### The world -/

/-- The states a request can reach, and the increments asked for so far; `now` is in
nanoseconds. -/
structure World (lim κ υ δ : Type) where
  now : Nat
  limiter : lim
  cache : κ
  upstream : υ
  discovery : δ
  increments : List Sample

/-- One more increment. -/
def World.record {lim κ υ δ : Type} (w : World lim κ υ δ) (s : Sample) : World lim κ υ δ :=
  { w with increments := w.increments ++ [s] }

end MiniGateway
