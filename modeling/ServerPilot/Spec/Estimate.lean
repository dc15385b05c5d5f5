import ServerPilot.Lib.Ranking
import ServerPilot.Lib.Running
import ServerPilot.Spec.Claim
import ServerPilot.Spec.Host

/-!
# When enough cards should come free

`_estimate_capacity_at` answers a refused claim: declared durations, scaled by how long finished
leases really ran, say when the live leases should end. The arithmetic is that of doubles, dates
and time differences, with their ranges: an instant is in microseconds since 1970, and `none`
stands for an `OverflowError`.
-/

namespace ServerPilot

/-! ## Doubles and dates -/

def powTwo (e : ℤ) : ℚ := if 0 ≤ e then (2 ^ e.toNat : ℕ) else 1 / (2 ^ (-e).toNat : ℕ)

/-- The exponent of a number: `2 ^ e ≤ |q| < 2 ^ (e + 1)`. -/
def exponent (q : ℚ) : ℤ :=
  let e : ℤ := (q.num.natAbs.log2 : ℤ) - q.den.log2
  if (q.num.natAbs : ℚ) / q.den < powTwo e then e - 1 else e

/-- To the nearest whole number, ties to the even one. -/
def roundEven (q : ℚ) : ℤ :=
  let f := ⌊q⌋
  let d := q - f
  if d < 1 / 2 then f else if 1 / 2 < d then f + 1 else if f % 2 = 0 then f else f + 1

/-- The double a result is rounded to: 53 significant bits. No number here is so large or so
small that its exponent does not fit. -/
def toDouble (q : ℚ) : ℚ :=
  if q = 0 then 0
  else
    let unit := powTwo (exponent q - 52)
    roundEven (q / unit) * unit

/-- Towards zero. -/
def truncate (q : ℚ) : ℤ := if 0 ≤ q then ⌊q⌋ else ⌈q⌉

/-- `delta.total_seconds()`. -/
def totalSeconds (delta : Time) : ℚ := toDouble ((delta : ℚ) / 1000000)

/-- `timedelta(seconds=x)`: the whole seconds exactly, the rest in doubles; it has at most
999999999 days. -/
def timedeltaSeconds (x : ℚ) : Option Time :=
  let rest := toDouble ((x - truncate x) * 1000000)
  let delta := roundEven (truncate x * 1000000 + rest)
  if -999999999 ≤ delta / 86400000000 ∧ delta / 86400000000 ≤ 999999999 then some delta else none

/-- `datetime.min`, the start of the year 1. -/
def datetimeMin : Time := seconds (-62135596800)

/-- `datetime.max`, the end of the year 9999. -/
def datetimeMax : Time := seconds 253402300800 - 1

/-- `datetime + timedelta`. -/
def addDelta (t delta : Time) : Option Time :=
  if datetimeMin ≤ t + delta ∧ t + delta ≤ datetimeMax then some (t + delta) else none

/-! ## The estimate -/

def etaSampleDays : ℤ := 30

def etaMinSamples : ℕ := 50

def retryMinSeconds : ℚ := 60

def retryMaxSeconds : ℚ := 1800

/-- The real duration of a lease that completed lately, over its declared one. -/
def Lease.ratio? (now : Time) (lease : Lease) : Option ℚ :=
  if lease.kind = .workload ∧ lease.releaseReason = some "workload_completed" ∧
      lease.durationSeconds ≠ undeclaredDurationSeconds then
    match lease.releasedAt with
    | some releasedAt =>
      if now - seconds (etaSampleDays * 86400) ≤ releasedAt then
        some (toDouble (totalSeconds (releasedAt - lease.issuedAt) /
          (max 1 lease.durationSeconds : ℕ)))
      else none
    | none => none
  else none

def ratioLe (a b : ℚ) : Bool := decide (a ≤ b)

/-- `ratios`. -/
def Ledger.ratios (l : Ledger) (now : Time) : List ℚ :=
  Ranking.arranged ratioLe id (l.leases.filterMap (Lease.ratio? now))

/-- `sampled`. -/
def Ledger.sampled (l : Ledger) (now : Time) : Bool :=
  decide (etaMinSamples ≤ (l.ratios now).length)

/-- `scale`: the median of the ratios, if there are enough. -/
def Ledger.scale (l : Ledger) (now : Time) : ℚ :=
  if l.sampled now then (l.ratios now).getD ((l.ratios now).length / 2) 1 else 1

/-- The leases of `ACTIVE_LEASE_STATES` that run work. -/
def Ledger.liveWorkloads (l : Ledger) : List Lease :=
  l.leases.filter fun x => x.state.live = true ∧ x.kind = .workload

/-- `ends`: when a lease should end. -/
def Lease.scaledEnd (scale : ℚ) (lease : Lease) : Option Time :=
  (timedeltaSeconds (toDouble (lease.durationSeconds * scale))).bind (addDelta lease.issuedAt)

/-- `releases` and `unknown_holders`. -/
structure Coming where
  releases : List (Time × ℕ) := []
  unknownHolders : ℕ := 0

/-- The body of the loop over the live leases. -/
def Coming.add (l : Ledger) (scale : ℚ) (now : Time) (s : Coming) (lease : Lease) : Option Coming :=
  (lease.scaledEnd scale).map fun ends =>
    if ends ≤ now ∨ lease.durationSeconds = undeclaredDurationSeconds then
      { s with unknownHolders := s.unknownHolders + l.leaseCardCount lease }
    else { s with releases := s.releases ++ [(ends, l.leaseCardCount lease)] }

/-- Pairs compare by their time, then by their number. -/
def releaseLe (a b : Time × ℕ) : Bool :=
  if a.1 = b.1 then decide (a.2 ≤ b.2) else decide (a.1 < b.1)

/-- What a refusal is explained with. -/
structure CapacityEstimate where
  eta : Option Time
  etaBasis : String
  unknownHolders : ℕ
  retryAfterSeconds : ℤ

/-- `retry_after_seconds`; `jitter` is `random.uniform(0.9, 1.1)`. -/
def retryAfter (now : Time) (jitter : ℚ) (estimate : Option Time) : ℤ :=
  let retry :=
    match estimate with
    | none => retryMinSeconds
    | some ends => toDouble (totalSeconds (ends - now) / 2)
  truncate (toDouble (min retryMaxSeconds (max retryMinSeconds retry) * jitter))

/-- `_estimate_capacity_at`; `none` where it raises. -/
def Ledger.estimateCapacityAt (l : Ledger) (now : Time) (jitter : ℚ) (shortfall : ℤ) :
    Option CapacityEstimate :=
  (l.liveWorkloads.foldlM (Coming.add l (l.scale now) now) {}).map fun s =>
    let estimate := Running.first (fun coming => decide (shortfall ≤ (coming : ℤ))) 0
      (Ranking.arranged releaseLe id s.releases)
    { eta := estimate
      etaBasis := if l.sampled now then "observed_durations" else "declared_durations"
      unknownHolders := s.unknownHolders
      retryAfterSeconds := retryAfter now jitter estimate }

end ServerPilot
