import RequestBridge.Client.Exchange

/-! What may happen to a bridge.

The history of a bridge is a list of moves: what is done with routers and servers on this
side, what the engine and the peers do, and single steps of tasks. The steps of a start, of
a stop and of a task may stand between any other moves. A move that is refused, or that
has nothing to act on, may still be made; it is part of the history as well. -/
namespace RequestBridge

inductive Move where
  | addRouter
  | shareRouter (r : RouterId)
  | dropRouter (r : RouterId)
  | addStage (r : RouterId) (stage : Middleware)
  | addRoute (r : RouterId) (path : String) (route : Route)
  | addGroup (r : RouterId) (base : String) (stages : List Middleware) (items : List Declaration)
  | changePhase (r : RouterId) (transition : Transition)
  | addServer (r : RouterId) (port : UInt16) (limits : Frame.Limits)
  | beginStart (s : ServerId)
  | stepStart (s : ServerId)
  | stepStop (s : ServerId)
  /-- A whole start, with nothing in between. -/
  | start (s : ServerId)
  /-- A whole stop, with nothing in between. -/
  | stop (s : ServerId)
  | dropServer (s : ServerId)
  /-- The engine hands over a request, to the server that it has seen attached before. -/
  | handOver (attached : Option ServerId) (withContext withFlag cancelled : Bool)
      (route : UInt16) (frame : Option Bytes)
  /-- A client hands over bytes under the number of a route. -/
  | sendFrame (route : UInt16) (frame : Bytes) (cancelled : Bool)
  | sendRequest (request : Client.Outbound)
  | cancel (flag : Address)
  /-- One step of one task. -/
  | advance (id : TaskId)
  /-- Every task runs until it ends or waits. -/
  | drive
  | openGate (gate : String)
  | halt
  | askCopy (flag : Address)
  | dropCopy (flag : Address)
  /-- From now on servers start, or fail to start with a message or without one. -/
  | failStarts (failing : Option (Option Bytes))
  /-- From now on routes are refused with a code, unless it is zero. -/
  | refuseRoutes (code : Int)
  /-- From now on there are tables, or there are none. -/
  | exhaustTables (exhausted : Bool)

namespace Bridge

/-- The bridge after one move. -/
def apply (b : Bridge) : Move → Bridge
  | .addRouter => b.addRouter.1
  | .shareRouter r => b.shareRouter r
  | .dropRouter r => b.dropRouter r
  | .addStage r stage => (b.addStage r stage).toOption.getD b
  | .addRoute r path route => (b.addRoute r path route).1
  | .addGroup r base stages items => (b.addGroup r base stages items).1
  | .changePhase r transition => (b.changePhase r transition).toOption.getD b
  | .addServer r port limits => b.addServer r port limits
  | .beginStart s => (b.beginStart s).bridge
  | .stepStart s => (b.stepStart s).bridge
  | .stepStop s => b.stepStop s
  | .start s => (b.start s).1
  | .stop s => b.stop s
  | .dropServer s => b.dropServer s
  | .handOver attached withContext withFlag cancelled route frame =>
    (b.handOver attached withContext withFlag cancelled route frame).1
  | .sendFrame route frame cancelled =>
    ((b.sendFrame route frame cancelled).map (·.1)).toOption.getD b
  | .sendRequest request => ((b.sendRequest request).map (·.1)).toOption.getD b
  | .cancel flag => b.cancel flag
  | .advance id => b.advance id
  | .drive => b.drive
  | .openGate gate => b.openGate gate
  | .halt => b.halt
  | .askCopy flag => b.askCopy flag
  | .dropCopy flag => b.dropCopy flag
  | .failStarts failing => { b with engine := { b.engine with failing } }
  | .refuseRoutes code => { b with engine := { b.engine with refusing := code } }
  | .exhaustTables exhausted => { b with engine := { b.engine with exhausted } }

/-- The bridge after a history. -/
def run (b : Bridge) : List Move → Bridge
  | [] => b
  | move :: rest => (b.apply move).run rest

@[simp] theorem run_nil (b : Bridge) : b.run [] = b := rfl

@[simp] theorem run_cons (b : Bridge) (move : Move) (rest : List Move) :
    b.run (move :: rest) = (b.apply move).run rest := rfl

theorem run_append (b : Bridge) (before after : List Move) :
    b.run (before ++ after) = (b.run before).run after := by
  induction before generalizing b with
  | nil => rfl
  | cons move rest ih => exact ih _

end Bridge
end RequestBridge
