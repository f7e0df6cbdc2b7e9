import RequestBridge.Bridge.Requests

/-! Tasks: requests on their way through their chains.

A task advances by one step at a time, and the steps of several tasks may come in any
order. Left to themselves, tasks run in rounds, one after another, each until it ends,
waits or pauses. Those that have paused make up the next round, the latest first. -/
namespace RequestBridge.Bridge

/-- A task in the place where it was, with another state. -/
def setTask (b : Bridge) (t : Task) : Bridge :=
  { b with tasks := b.tasks.map fun u => if u.id = t.id then t else u }

/-- A task that goes on with what is left of its chain. -/
def resume (b : Bridge) (t : Task) (rest : Act Outcome) : Bridge :=
  b.setTask { t with act := rest, waiting := none }

/-- A task that begins to wait at a gate, behind all that wait already. -/
def suspend (b : Bridge) (t : Task) (gate : String) : Bridge :=
  if t.waiting = some gate then b
  else { b with
    tasks := b.tasks.filter (·.id != t.id) ++ [{ t with waiting := some gate }] }

/-- The end of a task whose chain has come to a result. -/
def finish (b : Bridge) (t : Task) (result : Except Payload Outcome) : Bridge :=
  let settled := settle t.route result
  let (_, delivered) :=
    (CompletionToken.mk t.context).complete b.engine settled.response t.flag
  let abandoned :=
    if delivered.delivery = .released ∧ settled.verdict ≠ .cancelled then
      [routeEvent .debug "request abandoned by peer" t.route none]
    else []
  let b := { b with tasks := b.tasks.filter (·.id != t.id) }
  { b with
    engine := delivered.engine.letGo t.flag b.flags
    metrics := (b.metrics.recordDispatch settled.verdict 0).leave }.say
    (settled.events ++ delivered.events ++ abandoned)

/-- The first step of a task. -/
def embark (b : Bridge) (t : Task) : Bridge :=
  { b.setTask { t with begun := true } with metrics := b.metrics.enter }

/-- One step of a chain. -/
def perform (b : Bridge) (t : Task) : Act Outcome → Bridge
  | .done outcome => b.finish t (.ok outcome)
  | .panic payload => b.finish t (.error payload)
  | .mark text rest => { b.resume t rest with marks := text :: b.marks }
  | .log event rest => (b.resume t rest).say [event]
  | .wait gate rest => if gate ∈ b.gates then b.resume t rest else b.suspend t gate
  | .pause rest => b.resume t rest
  | .poll rest =>
    let (engine, cancelled) := b.engine.ask t.flag
    { b.resume t (rest cancelled) with engine }
  | .share rest => { b.resume t rest with kept := t.flag.toList ++ b.kept }

/-- One step of a task, if it is still there. -/
def advance (b : Bridge) (id : TaskId) : Bridge :=
  match b.task? id with
  | none => b
  | some t => if t.begun then b.perform t t.act else b.embark t

/-- The steps of a task until it ends, waits or pauses, along what is left of its chain. -/
def follow (b : Bridge) (id : TaskId) (flag : Option Address) : Act Outcome → Bridge
  | .done _ => b.advance id
  | .panic _ => b.advance id
  | .mark _ rest => (b.advance id).follow id flag rest
  | .log _ rest => (b.advance id).follow id flag rest
  | .wait gate rest =>
    if gate ∈ b.gates then (b.advance id).follow id flag rest else b.advance id
  | .pause _ => b.advance id
  | .poll rest => (b.advance id).follow id flag (rest (b.engine.isCancelled flag))
  | .share rest => (b.advance id).follow id flag rest

/-- Runs one task until it ends, waits or pauses. -/
def runTask (b : Bridge) (id : TaskId) : Bridge :=
  match b.task? id with
  | none => b
  | some t => (if t.begun then b else b.advance id).follow id t.flag t.act

/-- Whether a task is there and does not wait. -/
def canRun (b : Bridge) (id : TaskId) : Bool := (b.task? id).any (·.waiting.isNone)

/-- Runs tasks in order, and then in rounds those of them that have paused. -/
def runRounds (b : Bridge) (round : List TaskId) : Nat → Bridge
  | 0 => b
  | more + 1 =>
    let b := round.foldl runTask b
    b.runRounds (round.filter b.canRun).reverse more

/-- Runs every task that can run, until all have ended or wait. No task can make another
one run, and none pauses more often than its chain has pauses. -/
def drive (b : Bridge) : Bridge :=
  let ready := b.tasks.filter (·.waiting.isNone)
  b.runRounds (ready.map (·.id)) ((ready.map (·.act.pauses)).foldl max 0 + 1)

/-- Opens a gate. Those that wait at it go on behind all others, in the order in which they
began to wait. -/
def openGate (b : Bridge) (gate : String) : Bridge :=
  let isThere (t : Task) : Bool := t.waiting == some gate
  { b with
    gates := gate :: b.gates
    tasks := b.tasks.filter (!isThere ·) ++
      (b.tasks.filter isThere).map fun t => { t with waiting := none } }

/-- Stops running tasks for good. Those that are left are discarded, the oldest first. -/
def halt (b : Bridge) : Bridge :=
  (b.tasks.mergeSort (fun t u => t.id ≤ u.id)).foldl discard { b with halted := true }

/-- The peer of a request gives it up. -/
def cancel (b : Bridge) (flag : Address) : Bridge := { b with engine := b.engine.cancel flag }

/-- A copy of a cancellation token that was given away is asked. -/
def askCopy (b : Bridge) (flag : Address) : Bridge :=
  if flag ∈ b.kept then { b with engine := (b.engine.ask (some flag)).1 } else b

/-- A copy of a cancellation token that was given away is dropped. -/
def dropCopy (b : Bridge) (flag : Address) : Bridge :=
  if flag ∈ b.kept then
    let b := { b with kept := b.kept.erase flag }
    { b with engine := b.engine.letGo (some flag) b.flags }
  else b

end RequestBridge.Bridge
