import AuthFoundation.Database
import AuthFoundation.Foundation
import AuthFoundation.Lib.Pool
import AuthFoundation.LocalState
import AuthFoundation.Scripts

set_option autoImplicit false

/-!
# The surroundings of the service

The operations of the service and of the portal on their surroundings: clock, random source, Redis,
PostgreSQL, Google and the local state of the portal. A failing Redis command has no effect.

* `Op`, `Reply`: the operations and their replies.
* `World`, `World.exec`, `World.move`: the two stores, what operations do and what happens without
  the service.
* `machine`: the world as a machine for interleaved requests.
-/

namespace AuthFoundation

open Text Interleave

abbrev Command := Redis.Command ScriptName

/-- The answer of Google to a request for user info. -/
structure GoogleUserInfo where
  id : String
  email : Option String
  verifiedEmail : Option Bool
  name : Option String
  picture : Option String
  deriving DecidableEq

/-- The operations of the service. -/
inductive Op where
  | systemTimeNow
  | tryFillBytes
  | getMultiplexedTokioConnection
  | redis (c : Command)
  | sql (q : Statement)
  | exchangeCode (code : String)
  | userInfo (accessToken : String)
  | localState (c : LocalCall)
  | network
  deriving DecidableEq

/-- Their replies. The inner option of `userInfo` is the body, if it parses; calls of the local
state name the bytes they drew; `network` says whether a message arrived. -/
abbrev Reply : Op → Type
  | .systemTimeNow => Int64
  | .tryFillBytes => Except Unit (Vector UInt8 32)
  | .getMultiplexedTokioConnection => Except Unit Unit
  | .redis c => Except Redis.Error c.Reply
  | .sql q => Except SqlxError q.Rows
  | .exchangeCode _ => Except Unit String
  | .userInfo _ => Except Unit (Option GoogleUserInfo)
  | .localState c => Draws × c.Result
  | .network => Except Unit Unit

instance : ∀ o, DecidableEq (Reply o)
  | .systemTimeNow => inferInstanceAs (DecidableEq Int64)
  | .tryFillBytes => inferInstanceAs (DecidableEq (Except Unit (Vector UInt8 32)))
  | .getMultiplexedTokioConnection => inferInstanceAs (DecidableEq (Except Unit Unit))
  | .redis c => inferInstanceAs (DecidableEq (Except Redis.Error c.Reply))
  | .sql q => inferInstanceAs (DecidableEq (Except SqlxError q.Rows))
  | .exchangeCode _ => inferInstanceAs (DecidableEq (Except Unit String))
  | .userInfo _ => inferInstanceAs (DecidableEq (Except Unit (Option GoogleUserInfo)))
  | .localState c => inferInstanceAs (DecidableEq (Draws × c.Result))
  | .network => inferInstanceAs (DecidableEq (Except Unit Unit))

/-- Programs of the service. -/
abbrev Service (α : Type) := Prog Op Reply α

/-- What the surroundings choose when they answer. -/
inductive Answer where
  | ok
  | fail
  | time (seconds : Int64)
  | bytes (bytes : Vector UInt8 32)
  | token (accessToken : String)
  | userInfo (body : Option GoogleUserInfo)
  | draws (draws : Draws)

structure World where
  redis : Redis.State
  database : Database
  portal : PortalLocalState

/-- The empty stores with some registered services, and a portal of the default capacities. -/
def World.empty (services : String → Option RegisteredService) : World :=
  ⟨.empty, .empty services, .new 10000 50000⟩

/-- **An operation** of client `i`. -/
def World.exec [Crates] (w : World) (i : ℕ) : (o : Op) → Answer → Option (Reply o × World)
  | .systemTimeNow, .time seconds => some (seconds, w)
  | .tryFillBytes, .bytes bytes => some (.ok bytes, w)
  | .tryFillBytes, .fail => some (.error (), w)
  | .getMultiplexedTokioConnection, .ok => some (.ok (), w)
  | .getMultiplexedTokioConnection, .fail => some (.error (), w)
  | .redis c, .ok =>
    let x := c.script ScriptName.source w.redis
    some (x.1, { w with redis := x.2 })
  | .redis _, .fail => some (.error .unavailable, w)
  | .sql q, .ok => (w.database.exec i q).map fun x => (x.1, { w with database := x.2 })
  | .sql q, .fail =>
    let x := w.database.execFail i q
    some (x.1, { w with database := x.2 })
  | .exchangeCode _, .token accessToken => some (.ok accessToken, w)
  | .exchangeCode _, .fail => some (.error (), w)
  | .userInfo _, .userInfo body => some (.ok body, w)
  | .userInfo _, .fail => some (.error (), w)
  | .localState c, .draws draws =>
    (w.portal.exec c draws).map fun x => ((draws, x.1), { w with portal := x.2 })
  | .network, .ok => some (.ok (), w)
  | .network, .fail => some (.error (), w)
  | _, _ => none

/-- What happens without the service: ticks of the Redis clock, physical expiry of a key, and the
moves of the database. -/
inductive Move where
  | tick (n : ℕ)
  | expire (k : Bytes)
  | database (m : Database.Move)
  deriving DecidableEq

def World.move (w : World) : Move → Option World
  | .tick n => some { w with redis := { w.redis with time := w.redis.time + n } }
  | .expire k => match w.redis.entries k with
    | some ⟨_, some t⟩ => if t ≤ w.redis.time then some { w with redis := w.redis.del k } else none
    | _ => none
  | .database m => (w.database.move m).map fun db => { w with database := db }

/-- The world as a machine. -/
def machine [Crates] : Machine World Op Reply Answer Move := ⟨World.exec, World.move⟩

/-! ## Single operations -/

def systemTimeNow : Service Int64 := Prog.ask Op.systemTimeNow

def queryAsync (c : Command) : Service (Except Redis.Error c.Reply) := Prog.ask (Op.redis c)

def fetch (q : Statement) : Service (Except SqlxError q.Rows) := Prog.ask (Op.sql q)

def getMultiplexedTokioConnection : Service (Except Unit Unit) :=
  Prog.ask Op.getMultiplexedTokioConnection

def tryFillBytes : Service (Except Unit (Vector UInt8 32)) := Prog.ask Op.tryFillBytes

def localState (c : LocalCall) : Service c.Result := do return (← Prog.ask (Op.localState c)).2

def network : Service (Except Unit Unit) := Prog.ask Op.network

def generateReferenceValue : Service (Except Unit String) := do
  match ← tryFillBytes with
  | .ok bytes => return .ok (referenceValue bytes)
  | .error e => return .error e

end AuthFoundation
