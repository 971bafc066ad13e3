import Scriptwright.Moment
import Scriptwright.Signature

/-!
Health of the parts of the generator, and the report that puts them together.
-/
namespace Scriptwright

inductive HealthStatus where
  | healthy
  | degraded
  | unhealthy
deriving DecidableEq, Repr

namespace HealthStatus

def all : List HealthStatus := [.healthy, .degraded, .unhealthy]

def tag : HealthStatus → String
  | .healthy => "healthy"
  | .degraded => "degraded"
  | .unhealthy => "unhealthy"

def ofTag? (s : String) : Option HealthStatus := all.find? (·.tag = s)

theorem ofTag?_tag (s : HealthStatus) : ofTag? s.tag = some s := by cases s <;> decide

def toValue (s : HealthStatus) : Value := .string s.tag

def ofValue? (v : Value) : Option HealthStatus := v.asTag? >>= ofTag?

/-- The worse of the two. -/
def combine : HealthStatus → HealthStatus → HealthStatus
  | .unhealthy, _ | _, .unhealthy => .unhealthy
  | .degraded, _ | _, .degraded => .degraded
  | .healthy, .healthy => .healthy

def exitCode : HealthStatus → Nat
  | .healthy | .degraded => 0
  | .unhealthy => 1

end HealthStatus

structure ComponentHealth where
  component : String
  status : HealthStatus
  error : Option String
  /-- When it was checked, in seconds since the start of 1970. -/
  timestamp : Int
  details : Option Value

namespace ComponentHealth

def healthy (now : Moment) (component : String) (details : Option Value) : ComponentHealth :=
  ⟨component, .healthy, none, now.seconds, details⟩

def degraded (now : Moment) (component error : String) (details : Option Value) :
    ComponentHealth :=
  ⟨component, .degraded, some error, now.seconds, details⟩

def unhealthy (now : Moment) (component error : String) (details : Option Value) :
    ComponentHealth :=
  ⟨component, .unhealthy, some error, now.seconds, details⟩

def shape : Shape :=
  .record [("component", .text), ("status", .choice), ("error", .optional .text),
    ("timestamp", .number), ("details", .optional .free)]

def toValue (c : ComponentHealth) : Value :=
  .object ([("component", .string c.component), ("status", c.status.toValue)] ++
    Entries.ofOption "error" .string c.error ++
    [("timestamp", .number (.int c.timestamp))] ++
    Entries.ofOption "details" id c.details)

def ofValue? (v : Value) : Option ComponentHealth := do
  let component ← v.required "component" (·.asString?)
  let status ← v.required "status" HealthStatus.ofValue?
  let error ← v.optional "error" (·.asString?)
  let timestamp ← v.required "timestamp" (·.asInt?)
  let details ← v.optional "details" some
  return ⟨component, status, error, timestamp, details⟩

end ComponentHealth

/-- A status for all components, and the last word of each component, sorted by name. -/
structure HealthReport where
  status : HealthStatus
  version : String
  timestamp : String
  details : List (String × ComponentHealth)

namespace HealthReport

/-- Puts a component at its place in the order of names, instead of one of the same name. -/
def place {α : Type} (name : String) (a : α) : List (String × α) → List (String × α)
  | [] => [(name, a)]
  | (n, b) :: rest =>
    if name < n then (name, a) :: (n, b) :: rest
    else if name = n then (name, a) :: rest
    else (n, b) :: place name a rest

def ofComponents (now : Moment) (components : List ComponentHealth) : HealthReport where
  status := components.foldl (fun s c => s.combine c.status) .healthy
  version := generatorVersion
  timestamp := now.exact
  details := components.foldl (fun ds c => place c.component c ds) []

def shape : Shape :=
  .record [("status", .choice), ("version", .text), ("timestamp", .text),
    ("details", .entriesOf ComponentHealth.shape)]

def toValue (r : HealthReport) : Value :=
  .object [("status", r.status.toValue), ("version", .string r.version),
    ("timestamp", .string r.timestamp),
    ("details", .object (r.details.map fun (name, c) => (name, c.toValue)))]

def ofValue? (v : Value) : Option HealthReport := do
  let status ← v.required "status" HealthStatus.ofValue?
  let version ← v.required "version" (·.asString?)
  let timestamp ← v.required "timestamp" (·.asString?)
  let entries ← v.required "details" (·.asEntries?)
  let details ← entries.mapM fun (name, c) => (ComponentHealth.ofValue? c).map (name, ·)
  return ⟨status, version, timestamp, details.foldl (fun ds (name, c) => place name c ds) []⟩

end HealthReport

end Scriptwright
