import RequestBridge.Metrics.Basic

/-! The metrics as a text of named samples, and the set-up of the recorder. -/
namespace RequestBridge.Metrics

/-- A metric as its readers see it. -/
structure Series where
  name : String
  help : String
  kind : String

def dispatchTotal : Series :=
  ⟨"kiri_dispatch_total", "Requests dispatched by terminal outcome", "counter"⟩

def requestDuration : Series :=
  ⟨"kiri_request_duration_seconds", "Time from dispatch to the terminal action, in seconds",
    "histogram"⟩

def inFlightRequests : Series :=
  ⟨"kiri_in_flight_requests", "Requests currently running a handler chain", "gauge"⟩

def Series.helpLine (s : Series) : String := s!"# HELP {s.name} {s.help}"

def Series.typeLine (s : Series) : String := s!"# TYPE {s.name} {s.kind}"

/-- The lines that describe the metrics, in the order of their names. -/
def headLines : List String :=
  let series := [dispatchTotal, inFlightRequests, requestDuration]
  series.map Series.helpLine ++ series.map Series.typeLine

/-- The upper bounds of the buckets, as labels and in microseconds. -/
def bounds : List (String × Nat) := [
  ("0.001", 1000), ("0.005", 5000), ("0.01", 10000), ("0.025", 25000), ("0.05", 50000),
  ("0.1", 100000), ("0.25", 250000), ("0.5", 500000), ("1", 1000000), ("2.5", 2500000),
  ("5", 5000000), ("10", 10000000)]

/-- A label set in braces after a name. -/
def labelled (name : String) (labels : List (String × String)) : String :=
  name ++ "\x7b" ++ ",".intercalate (labels.map fun (l, v) => l ++ "=\"" ++ v ++ "\"") ++ "\x7d"

/-- The samples of the totals, the numbers of durations, and the requests in flight. -/
def samples (m : Metrics) : List (String × Int) :=
  Verdict.all.map (fun v =>
    (labelled dispatchTotal.name [("outcome", v.label)], (m.totals v : Int))) ++
  Verdict.all.map (fun v =>
    (labelled (requestDuration.name ++ "_count") [("outcome", v.label)],
      ((m.durations v).length : Int))) ++
  [(inFlightRequests.name, m.inFlight)]

/-- The samples of the buckets. A duration counts in every bucket that reaches it. -/
def bucketSamples (m : Metrics) : List (String × Int) :=
  Verdict.all.flatMap fun v =>
    let bucket (le : String) (n : Nat) : String × Int :=
      (labelled (requestDuration.name ++ "_bucket") [("outcome", v.label), ("le", le)], (n : Int))
    bounds.map (fun (label, bound) => bucket label ((m.durations v).countP (· ≤ bound))) ++
      [bucket "+Inf" (m.durations v).length]

structure Settings where
  enabled : Bool := true
  /-- The bounds of the buckets, in seconds. -/
  buckets : List Float := bounds.map fun (_, micros) => Float.ofScientific micros true 6

inductive SetupError where
  | noBuckets
  | recorderTaken
deriving DecidableEq, Repr

def SetupError.reason : SetupError → String
  | .noBuckets => "bucket bounds/quantiles cannot be empty"
  | .recorderTaken =>
    "failed to install exporter as global recorder: " ++
      "attempted to set a recorder after the metrics system was already initialized"

def SetupError.message (e : SetupError) : String := "Failed to initialize metrics: " ++ e.reason

/-- The set-up of a recorder, in a process that may have one already. -/
def Settings.install (s : Settings) (taken : Bool) : Except SetupError Unit :=
  if !s.enabled then .ok ()
  else if s.buckets.isEmpty then .error .noBuckets
  else if taken then .error .recorderTaken
  else .ok ()

end RequestBridge.Metrics
