import RequestBridge.Config.Basic
import RequestBridge.Text.Utf8

/-! The launch of the threads that run the chains of an application.

A configuration can be usable and still ask for threads that there cannot be. -/
namespace RequestBridge.Workers

/-- Why threads cannot be launched. -/
inductive LaunchError where
  /-- There are more of them than a list can hold. -/
  | tooMany
  /-- Their name has a zero byte in it, first at the given position. -/
  | zeroInName (position : Nat) (name : Bytes)
  /-- There is no room for the stack of one. -/
  | noRoom
  /-- The stack of one has a size that leaves no place for the page that guards it. -/
  | unguarded
deriving DecidableEq, Repr

def LaunchError.message : LaunchError → String
  | .tooMany => "capacity overflow"
  | .zeroInName position name =>
    "thread name may not contain interior null bytes: NulError(" ++ toString position ++ ", " ++
      Quoted.list (name.map toString) ++ ")"
  | .noRoom =>
    "OS can't spawn worker thread: Resource temporarily unavailable (os error 11)"
  | .unguarded => "OS can't spawn worker thread: Invalid argument (os error 22)"

/-- The greatest number of threads that a list can hold: it takes eight bytes for each, and
fewer than `2 ^ 63` in all. -/
def maxThreads : Nat := Nat.pow 2 60 - 1

/-- The size of the space of addresses that a program has. -/
def addressSpace : Nat := Nat.pow 2 47

/-- The size of the page that guards a stack. -/
def guardPage : Nat := 4096

/-- Checks that the threads of a configuration can be launched. -/
def checkLaunch (w : Config.Workers) : Except LaunchError Unit := do
  if maxThreads < w.threads.getD 0 then throw .tooMany
  let name := Utf8.encode w.threadName
  if let some position := name.findIdx? (· == 0) then throw (.zeroInName position name)
  let stack := w.stackSize.getD 0
  if Nat.pow 2 64 - guardPage ≤ stack then throw .unguarded
  if addressSpace ≤ stack then throw .noRoom

end RequestBridge.Workers
