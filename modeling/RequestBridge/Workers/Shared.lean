/-! The workers that all applications without their own share.

They are built on first use, by whoever holds the lock. A caller looks before it queues
for the lock, and looks again once it holds it, since someone else may have built them in
the meantime. A caller that fails to build gives the lock back, and the next one may try
again. -/
namespace RequestBridge.Workers

/-- Workers that were built, numbered in the order in which they were. -/
abbrev PoolId := Nat

/-- Where a caller stands. -/
inductive Standing where
  /-- It is about to look for the first time. -/
  | entering
  /-- It has found nothing, and wants the lock. -/
  | queued
  /-- It holds the lock, and is about to look again. -/
  | locked
  /-- It has found nothing again, and is about to build. -/
  | building
  /-- It has built workers, and is about to put them in the place of the shared ones. -/
  | storing (pool : PoolId)
  /-- It is about to give the lock back. -/
  | leaving (answer : Option PoolId)
  /-- It has got the shared workers, or the news that there are none. -/
  | served (answer : Option PoolId)
deriving DecidableEq, Repr

structure Shared where
  /-- The shared workers, once there are any. -/
  slot : Option PoolId := none
  /-- The caller that holds the lock. -/
  holder : Option Nat := none
  callers : List Standing := []
  /-- How many workers have been built. -/
  built : Nat := 0
  /-- The workers that were built and thrown away. -/
  discarded : List PoolId := []
deriving DecidableEq, Repr

/-- What may happen. -/
inductive Shared.Event where
  /-- Someone comes to ask for the shared workers. -/
  | enter
  /-- A caller takes its next step. If the step is to build, it may succeed or fail. -/
  | step (caller : Nat) (succeeds : Bool)
deriving DecidableEq, Repr

namespace Shared

def setCaller (s : Shared) (caller : Nat) (standing : Standing) : Shared :=
  { s with callers := s.callers.set caller standing }

/-- Fills the slot, unless it is filled, and says what is in it then. -/
def store (s : Shared) (pool : PoolId) : Shared × PoolId :=
  match s.slot with
  | none => ({ s with slot := some pool }, pool)
  | some present => ({ s with discarded := pool :: s.discarded }, present)

/-- The next step of a caller, from where it stands. -/
def step (s : Shared) (caller : Nat) (succeeds : Bool) : Standing → Shared
  | .entering =>
    match s.slot with
    | some pool => s.setCaller caller (.served (some pool))
    | none => s.setCaller caller .queued
  | .queued =>
    match s.holder with
    | some _ => s
    | none => { s with holder := some caller }.setCaller caller .locked
  | .locked =>
    match s.slot with
    | some pool => s.setCaller caller (.leaving (some pool))
    | none => s.setCaller caller .building
  | .building =>
    if succeeds then { s with built := s.built + 1 }.setCaller caller (.storing s.built)
    else s.setCaller caller (.leaving none)
  | .storing pool =>
    let (s, present) := s.store pool
    s.setCaller caller (.leaving (some present))
  | .leaving answer => { s with holder := none }.setCaller caller (.served answer)
  | .served _ => s

def apply (s : Shared) : Event → Shared
  | .enter => { s with callers := s.callers ++ [.entering] }
  | .step caller succeeds =>
    match s.callers[caller]? with
    | some standing => s.step caller succeeds standing
    | none => s

/-- What has become of the shared workers after some events. -/
def run (s : Shared) : List Event → Shared
  | [] => s
  | event :: rest => (s.apply event).run rest

theorem run_append (s : Shared) (before after : List Event) :
    s.run (before ++ after) = (s.run before).run after := by
  induction before generalizing s with
  | nil => rfl
  | cons event rest ih => exact ih _

end Shared
end RequestBridge.Workers
