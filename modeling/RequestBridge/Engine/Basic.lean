import RequestBridge.Method
import RequestBridge.Text.Utf8

/-! The engine: the foreign party that owns route tables, servers and the contexts of
requests.

All that passes between it and this side is a call, and the engine keeps a journal of
the calls in the order in which they come. Its things are known here by their addresses
only. An engine hands out each address once. -/
namespace RequestBridge

abbrev Address := Nat

/-- The number of a server on this side. -/
abbrev ServerId := Nat

/-- What tells one make of engine from another. -/
structure Profile where
  /-- The first address that it hands out, and the distance to the next one. -/
  first : Nat
  stride : Nat
  stride_pos : 0 < stride := by decide
  /-- What a second server is refused with. -/
  refusal : String
  /-- What can be seen of the message of a failure. -/
  visible : Bytes → Bytes := id

/-- An engine that lives in memory and finds routes itself. -/
def Profile.memory : Profile where
  first := 0x10
  stride := 0x10
  refusal := "a server is already running on this engine"

/-- An engine behind a foreign interface, of which a process has one. Its messages end at
their first zero byte. -/
def Profile.native : Profile where
  first := 0x1000
  stride := 8
  refusal := "a server is already running in this process"
  visible := List.takeWhile (· != 0)

/-- A call that has been made, with what came of it. -/
inductive Call where
  | tableCreated (table : Address)
  | tableFreed (table : Address)
  /-- A route was announced and accepted with code zero, or refused with another one. -/
  | routeRegistered (table : Address) (method : Method) (pattern : Bytes) (route : UInt16)
      (code : Int)
  | serverStarted (server : Address) (port : UInt16) (table : Option Address)
  | startFailed (port : UInt16) (table : Option Address)
  | serverStopped (server : Address)
  /-- The message of the last failure was taken. -/
  | errorTaken
  | attached (server : ServerId)
  | detached
  /-- A request was answered with a response frame. -/
  | completed (context : Address) (frame : Bytes)
  /-- A request was let go without an answer. -/
  | released (context : Address)
  /-- It was asked whether the peer has given a request up. -/
  | asked (flag : Address)
  | flagFreed (flag : Address)
deriving DecidableEq, Repr

/-- A route as the engine knows it. -/
structure KnownRoute where
  table : Address
  method : Method
  pattern : String
  route : UInt16
deriving DecidableEq, Repr

structure Engine where
  profile : Profile
  /-- The address that is handed out next. -/
  next : Address
  /-- All calls so far, the latest first. -/
  journal : List Call := []
  /-- All accepted routes of all tables, the latest first. -/
  known : List KnownRoute := []
  /-- The tables that are not freed. -/
  tables : List Address := []
  /-- The servers that are not stopped, with their ports. -/
  servers : List (Address × UInt16) := []
  /-- The server that is handed requests. -/
  attached : Option ServerId := none
  /-- The contexts of all requests that it has handed over, the latest first. -/
  issued : List Address := []
  /-- The flags of peers that have given up. -/
  cancelled : List Address := []
  /-- The message of the last failure, unless it has been taken. -/
  lastError : Option Bytes := none
  /-- Whether servers fail to start at present, and with what message. -/
  failing : Option (Option Bytes) := none
  /-- What routes are refused with at present, if not zero. -/
  refusing : Int := 0
  /-- Whether no tables are created at present. -/
  exhausted : Bool := false

namespace Engine

def new (profile : Profile) : Engine where
  profile
  next := profile.first

def record (e : Engine) (call : Call) : Engine := { e with journal := call :: e.journal }

/-- A fresh address. -/
def allocate (e : Engine) : Engine × Address :=
  ({ e with next := e.next + e.profile.stride }, e.next)

/-! ### Tables -/

def createTable (e : Engine) : Engine × Option Address :=
  if e.exhausted then (e, none)
  else
    let (e, table) := e.allocate
    ({ e with tables := table :: e.tables }.record (.tableCreated table), some table)

def freeTable (e : Engine) (table : Address) : Engine :=
  { e with tables := e.tables.erase table }.record (.tableFreed table)

/-- The code of a registration: zero if it is accepted. -/
def codeFor (e : Engine) (table : Address) (pattern : Bytes) : Int :=
  if e.refusing ≠ 0 then e.refusing
  else if table ∉ e.tables then -1
  else if (Utf8.decode? pattern).isNone then -2
  else 0

def registerRoute (e : Engine) (table : Address) (method : Method) (pattern : Bytes)
    (route : UInt16) : Engine × Int :=
  let code := e.codeFor table pattern
  let e := e.record (.routeRegistered table method pattern route code)
  match code, Utf8.decode? pattern with
  | 0, some pattern => ({ e with known := ⟨table, method, pattern, route⟩ :: e.known }, code)
  | _, _ => (e, code)

/-! ### Servers -/

/-- Starts a server, or fails and keeps the message. -/
def startServer (e : Engine) (port : UInt16) (table : Option Address) :
    Engine × Option Address :=
  match e.failing with
  | some message => ({ e with lastError := message }.record (.startFailed port table), none)
  | none =>
    let (e, server) := e.allocate
    ({ e with servers := e.servers ++ [(server, port)] }.record
      (.serverStarted server port table), some server)

def stopServer (e : Engine) (server : Address) : Engine :=
  { e with servers := e.servers.filter (·.1 != server) }.record (.serverStopped server)

/-- Takes the message of the last failure. What is no text in it is replaced. -/
def takeError (e : Engine) : Engine × Option String :=
  match e.lastError with
  | none => (e, none)
  | some message =>
    ({ e with lastError := none }.record .errorTaken, some (Utf8.lossy (e.profile.visible message)))

/-- Attaches a server, unless there is one. -/
def attach (e : Engine) (server : ServerId) : Except String Engine :=
  if e.attached.isSome then .error e.profile.refusal
  else .ok ({ e with attached := some server }.record (.attached server))

def detach (e : Engine) : Engine := { e with attached := none }.record .detached

/-! ### Requests -/

def complete (e : Engine) (context : Address) (frame : Bytes) : Engine :=
  e.record (.completed context frame)

def release (e : Engine) (context : Address) : Engine := e.record (.released context)

/-- A fresh context, through which a request is handed over. -/
def issue (e : Engine) : Engine × Address :=
  let (e, context) := e.allocate
  ({ e with issued := context :: e.issued }, context)

/-- The peer gives a request up. -/
def cancel (e : Engine) (flag : Address) : Engine :=
  { e with cancelled := flag :: e.cancelled }

/-- Whether the peer has given a request up; a request without a flag counts as given up. -/
def isCancelled (e : Engine) (flag : Option Address) : Bool :=
  match flag with
  | some flag => e.cancelled.contains flag
  | none => true

/-- Fresh addresses for a request: a context unless it has none, and a flag unless it has
none, which may be raised from the start. -/
def equip (e : Engine) (withContext withFlag cancelled : Bool) :
    Engine × Option Address × Option Address :=
  let (e, context) := if withContext then e.issue.map id some else (e, none)
  if withFlag then
    let (e, flag) := e.allocate
    (if cancelled then e.cancel flag else e, context, some flag)
  else (e, context, none)

/-- Asks whether the peer has given a request up. -/
def ask (e : Engine) (flag : Option Address) : Engine × Bool :=
  match flag with
  | some f => (e.record (.asked f), e.isCancelled flag)
  | none => (e, true)

def freeFlag (e : Engine) (flag : Address) : Engine := e.record (.flagFreed flag)

/-- One holder of a flag less. The flag is freed unless one of the others holds it. -/
def letGo (e : Engine) (flag : Option Address) (others : List Address) : Engine :=
  match flag with
  | some flag => if flag ∈ others then e else e.freeFlag flag
  | none => e

end Engine
end RequestBridge
