import ServerPilot.Spec.Estimate

/-!
# The rate limit of an actor

`RateLimiter.check` keeps, for each actor, the times of the checks it let through, drops those
of a minute ago and refuses when as many as are allowed in a minute are left.
-/

namespace ServerPilot.Api

/-- What `time.monotonic()` answers: a double number of seconds, from the system's 64 bits of
nanoseconds. -/
structure Reading where
  seconds : ℚ
  isDouble : toDouble seconds = seconds
  nonneg : 0 ≤ seconds
  inRange : seconds < 2 ^ 34

/-- `RateLimiter`; `_hits` is a `defaultdict` of queues, oldest first. -/
structure RateLimiter where
  perMinute : ℕ
  hits : String → List Reading

def RateLimiter.new (perMinute : ℕ) : RateLimiter where
  perMinute := perMinute
  hits := fun _ => []

def rateLimited : BrokerError where
  code := "rate_limited"
  message := "rate limit exceeded; retry after one minute"
  statusCode := 429

/-- `while hits and hits[0] <= now - 60: hits.popleft()`, with the double `now - 60`. -/
def trim (now : Reading) (hits : List Reading) : List Reading :=
  hits.dropWhile fun hit => decide (hit.seconds ≤ toDouble (now.seconds - 60))

/-- `RateLimiter.check`: what it raises, and the queues it leaves. -/
def RateLimiter.check (r : RateLimiter) (now : Reading) (actorId : String) :
    Except BrokerError Unit × RateLimiter :=
  let hits := trim now (r.hits actorId)
  if r.perMinute ≤ hits.length then
    (.error rateLimited, { r with hits := Function.update r.hits actorId hits })
  else (.ok (), { r with hits := Function.update r.hits actorId (hits ++ [now]) })

/-! ## Runs -/

/-- A call of `check`, with the time it reads. -/
structure Check where
  now : Reading
  actorId : String

/-- What `check` answered, call after call. -/
abbrev Outcomes := List (Check × Except BrokerError Unit)

/-- The calls in the order in which they take the lock. -/
def RateLimiter.outcomes (r : RateLimiter) : List Check → Outcomes
  | [] => []
  | c :: rest => (c, (r.check c.now c.actorId).1) :: (r.check c.now c.actorId).2.outcomes rest

/-- Checks at times that do not go back. -/
structure Checks where
  calls : List Check
  ordered : (calls.map fun c => c.now.seconds).Pairwise (· ≤ ·)

/-- The times of the checks of an actor that were let through. -/
def accepted (actorId : String) (outcomes : Outcomes) : List ℚ :=
  (outcomes.filter fun o => decide (o.1.actorId = actorId) && o.2.isOk).map fun o => o.1.now.seconds

end ServerPilot.Api
