import MiniGateway.Source.World

/-!
# Source — Exporter

The metrics server of `metrics.rs`.  Its loop accepts a connection, renders the registry and
starts a task that answers the requests on that connection out of what was rendered.

The registry is told as the increments so far.  What is rendered of them is up to the exporter
library, and a parameter (`render`).
-/

namespace MiniGateway

open Http

structure MetricsExporter where
  /-- `PrometheusHandle::render`. -/
  render : List Sample → Text
  endpoint : Text

/-- What the task of a connection holds. -/
structure MetricsConnection where
  metrics : Text
  endpoint : Text
  deriving DecidableEq

/-- One round of the loop of `serve`, with the registry as it is then. -/
def MetricsExporter.accept (exporter : MetricsExporter) (registry : List Sample) :
    MetricsConnection :=
  ⟨exporter.render registry, exporter.endpoint⟩

/-- The service of a connection. -/
def MetricsConnection.answer (conn : MetricsConnection) (req : Request) : Except Panic Response :=
  if req.uri.path = conn.endpoint then
    unwrap (((Builder.new.status 200).header "Content-Type"
      (Text.utf8 "text/plain; charset=utf-8")).body conn.metrics.utf8)
  else unwrap ((Builder.new.status 404).body (Text.utf8 "Not Found"))

end MiniGateway
