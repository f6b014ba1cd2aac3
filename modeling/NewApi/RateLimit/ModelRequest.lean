import NewApi.Lib.Transition
import NewApi.Lib.Window

/-!
# The limit on model requests

`ModelRequestRateLimit` limits all requests of a user in a window and the successful ones
(`middleware/model-rate-limit.go`). The variant in memory keeps queues of times, of which the one
for successful requests is never read; the one in Redis a list of times and a bucket of tokens.
Requests do not overlap, and both variants see the same requests.
-/

namespace NewApi.RateLimit

open Lib

/-- The limits with their window. The queues in memory are those of a limiter that other limits
share: `expiration` is the time its first `Init` was called with. -/
structure LimitConfig where
  duration : Nat
  totalMaxCount : Nat
  successMaxCount : Nat
  expiration : Nat

inductive Decision where
  | admitted
  | totalLimit
  | successLimit
  deriving DecidableEq

/-! ## In memory -/

/-- `InMemoryRateLimiter.Request` on the queue of its key. A queue that is there is not empty. -/
def request (maxRequestNum duration now : Nat) :
    Option (List Nat) → Bool × Option (List Nat)
  | none => (true, some [now])
  | some queue =>
    if queue.length < maxRequestNum then (true, some (queue ++ [now]))
    else if duration ≤ now - queue.headD 0 then (true, some (queue.tail ++ [now]))
    else (false, some queue)

/-- What `clearExpiredItems` leaves of the queue of a key. -/
def clearExpired (expiration now : Nat) : Option (List Nat) → Option (List Nat)
  | none => none
  | some times =>
    if times = [] ∨ expiration < now - times.getLastD 0 then none else some times

structure MemoryStore where
  total : Option (List Nat) := none
  check : Option (List Nat) := none
  success : Option (List Nat) := none
  deriving DecidableEq

namespace MemoryStore

variable (config : LimitConfig) (now : Nat) (store : MemoryStore)

/-- The queue of all requests: whether the request passes, and the queue after it. -/
def requestTotal : Bool × Option (List Nat) :=
  if 0 < config.totalMaxCount then
    request config.totalMaxCount config.duration now store.total
  else (true, store.total)

/-- `memoryRateLimitHandler` up to `c.Next`. -/
def arrive : Decision × MemoryStore :=
  let (passes, total) := store.requestTotal config now
  if passes then
    let (allowed, check) := request config.successMaxCount config.duration now store.check
    (if allowed then .admitted else .successLimit, { store with total, check })
  else (.totalLimit, { store with total })

/-- `memoryRateLimitHandler` after `c.Next`. -/
def finish (success : Bool) : MemoryStore :=
  if success then
    let (_, queue) := request config.successMaxCount config.duration now store.success
    { store with success := queue }
  else store

/-- `clearExpiredItems`. -/
def clear : MemoryStore where
  total := clearExpired config.expiration now store.total
  check := clearExpired config.expiration now store.check
  success := clearExpired config.expiration now store.success

end MemoryStore

/-! ## In Redis -/

/-- The list of the times of successful requests, newest first, with the moment at which its key
expires, and the bucket: its tokens and the time of the last request. -/
structure RedisStore where
  successes : List Nat := []
  expiresAt : Nat := 0
  bucket : Option (Nat × Nat) := none
  deriving DecidableEq

namespace RedisStore

variable (config : LimitConfig) (now : Nat) (store : RedisStore)

def times : List Nat :=
  if now < store.expiresAt then store.successes else []

/-- A refusal sets the time to live of the key again. -/
def checkRedisRateLimit : Bool × RedisStore :=
  if config.successMaxCount = 0 then (true, store)
  else if (store.times now).length < config.successMaxCount then (true, store)
  else if now - (store.times now).getLastD 0 < config.duration then
    (false, { store with successes := store.times now, expiresAt := now + config.duration })
  else (true, store)

def recordRedisRequest : RedisStore :=
  if config.successMaxCount = 0 then store
  else
    { store with
      successes := (now :: store.times now).take config.successMaxCount
      expiresAt := now + config.duration }

/-- The tokens of the bucket now: it holds `totalMaxCount` requests of `duration` tokens each, and
`totalMaxCount` tokens are added every second. -/
def tokens : Nat :=
  let capacity := config.totalMaxCount * config.duration
  match store.bucket with
  | none => capacity
  | some (tokens, lastTime) => min capacity (tokens + (now - lastTime) * config.totalMaxCount)

def takeTokens : Bool × RedisStore :=
  let tokens := store.tokens config now
  if config.duration ≤ tokens then
    (true, { store with bucket := some (tokens - config.duration, now) })
  else (false, { store with bucket := some (tokens, now) })

/-- `redisRateLimitHandler` up to `c.Next`. -/
def arrive : Decision × RedisStore :=
  let (allowed, checked) := store.checkRedisRateLimit config now
  if allowed then
    if 0 < config.totalMaxCount then
      let (allowed, taken) := checked.takeTokens config now
      (if allowed then .admitted else .totalLimit, taken)
    else (.admitted, checked)
  else (.successLimit, checked)

/-- `redisRateLimitHandler` after `c.Next`. -/
def finish (success : Bool) : RedisStore :=
  if success then store.recordRedisRequest config now else store

end RedisStore

/-! ## Both variants -/

structure RequestLog where
  admitted : List Nat := []
  succeeded : List Nat := []
  serving : Bool := false
  deriving DecidableEq

def RequestLog.arrive (log : RequestLog) (now : Nat) (decision : Decision) : RequestLog :=
  if decision = .admitted then { log with admitted := log.admitted ++ [now], serving := true }
  else log

def RequestLog.finish (log : RequestLog) (now : Nat) (success : Bool) : RequestLog :=
  { log with
    succeeded := if success then log.succeeded ++ [now] else log.succeeded
    serving := false }

/-- Both variants with the requests they have seen; `passed` are those that have passed the queue
of all requests in memory. -/
structure LimiterState where
  clock : Nat := 0
  memory : MemoryStore := {}
  redis : RedisStore := {}
  passed : List Nat := []
  memoryLog : RequestLog := {}
  redisLog : RequestLog := {}
  deriving DecidableEq

/-- What happens some seconds later: a request arrives, the request that is being served finishes,
or the queues in memory are cleared. -/
inductive LimiterAction where
  | arrive (wait : Nat)
  | finish (wait : Nat) (success : Bool)
  | clear (wait : Nat)

namespace LimiterState

variable (config : LimitConfig) (state : LimiterState)

def memoryDecision (now : Nat) : Decision :=
  (state.memory.arrive config now).1

def redisDecision (now : Nat) : Decision :=
  (state.redis.arrive config now).1

def arrive (now : Nat) : LimiterState where
  clock := now
  memory := (state.memory.arrive config now).2
  redis := (state.redis.arrive config now).2
  passed :=
    if state.memoryDecision config now = .totalLimit then state.passed else state.passed ++ [now]
  memoryLog := state.memoryLog.arrive now (state.memoryDecision config now)
  redisLog := state.redisLog.arrive now (state.redisDecision config now)

def finish (now : Nat) (success : Bool) : LimiterState :=
  { state with
    clock := now
    memory :=
      if state.memoryLog.serving then state.memory.finish config now success else state.memory
    redis := if state.redisLog.serving then state.redis.finish config now success else state.redis
    memoryLog :=
      if state.memoryLog.serving then state.memoryLog.finish now success else state.memoryLog
    redisLog :=
      if state.redisLog.serving then state.redisLog.finish now success else state.redisLog }

/-- One action; a request does not arrive while another one is served, and with no expiration
`Init` starts no cleaner. -/
def step : LimiterAction → Option LimiterState
  | .arrive wait =>
    if state.memoryLog.serving || state.redisLog.serving then none
    else some (state.arrive config (state.clock + wait))
  | .finish wait success =>
    if state.memoryLog.serving || state.redisLog.serving then
      some (state.finish config (state.clock + wait) success)
    else none
  | .clear wait =>
    if config.expiration = 0 then none
    else
      some { state with
        clock := state.clock + wait
        memory := state.memory.clear config (state.clock + wait) }

end LimiterState

def limiterSystem (config : LimitConfig) : System LimiterState LimiterAction where
  step := LimiterState.step config

end NewApi.RateLimit
