import MiniGateway.Source.Config

/-!
# Source — Selection

`proxy.rs`, `select_endpoint`: the choice of an endpoint out of a list.  `handle_request` never asks
for it.

The counter `lb_counter` is shared by a client and its clones.  A call touches it once at most, by
an atomic addition, and so is a function of the value it finds there.  The counter is a `usize` of
64 bits.  What the hasher makes of an address or of the time is a parameter: its algorithm is not
specified.
-/

namespace MiniGateway

/-- `DefaultHasher`: the hash of a text, and of a time. -/
structure DefaultHasher where
  ofText : Text → UInt64
  ofTime : Nat → UInt64

/-- A panic: an index out of the bounds of a slice. -/
structure OutOfBounds where
  index : Nat
  len : Nat
  deriving DecidableEq

namespace ProxyClient

/-- `AtomicUsize::new(0)`. -/
def newCounter : UInt64 := 0

/-- `endpoints[idx].clone()`. -/
def endpointAt (endpoints : List Text) (idx : Nat) : Except OutOfBounds Text :=
  match endpoints[idx]? with
  | some endpoint => .ok endpoint
  | none => .error ⟨idx, endpoints.length⟩

/-- The index of the endpoint, and the counter after the call. -/
def selectIndex (H : DefaultHasher) (now : Nat) (endpoints : List Text)
    (strategy : LoadBalanceStrategy) (clientIp : Option Text) (counter : UInt64) : Nat × UInt64 :=
  match strategy with
  | .roundRobin => (counter.toNat % endpoints.length, counter + 1)
  | .random => ((H.ofTime now).toNat % endpoints.length, counter)
  | .ipHash =>
      match clientIp with
      | some ip => ((H.ofText ip).toNat % endpoints.length, counter)
      | none => (0, counter)
  -- in turn, like `roundRobin`, and by the same counter
  | .leastConnections => (counter.toNat % endpoints.length, counter + 1)

def selectEndpoint (H : DefaultHasher) (now : Nat) (endpoints : List Text)
    (strategy : LoadBalanceStrategy) (clientIp : Option Text) (counter : UInt64) :
    Except OutOfBounds (Option Text) × UInt64 :=
  if endpoints.isEmpty then (.ok none, counter)
  else
    let selected := selectIndex H now endpoints strategy clientIp counter
    ((endpointAt endpoints selected.1).map some, selected.2)

end ProxyClient

end MiniGateway
