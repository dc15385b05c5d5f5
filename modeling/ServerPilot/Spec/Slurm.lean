import ServerPilot.Spec.Observation

/-!
# The Slurm helper

`slurm-immediate` runs on the login node, once for each call of the broker's: its
runs may overlap, be repeated and be interrupted anywhere. What they share is a
directory of small JSON files, Slurm itself, and the `srun` each application
leaves behind with its hold process. `Site` is all of that; a step is what one of
them does between two looks at anything shared. `reserved`, `printed` and
`refused` record who created a request file, what was printed, and which requests
were answered with `NO_CAPACITY_EXIT_CODE`; no process reads them.
-/

namespace ServerPilot.Slurm

/-! ## Files -/

/-- A request file or the sample of a hold process, of which the identities are kept. -/
structure Doc where
  requestId : String
  allocationRef : Option ℕ
  deriving DecidableEq, Repr

/-- The name of a request file, without `.json`. A sample's is the request id. -/
def requestName (requestId : String) : String := "request-" ++ requestId

/-- `ROOT.glob("request-*.json")`. -/
def isRequestName (name : String) : Bool := "request-".toList.isPrefixOf name.toList

/-! ## Slurm -/

/-- `JobState`. -/
inductive JobState
  | pending | running | completing | suspended | completed | cancelled | timeout | failed
  | nodeFail | outOfMemory | preempted
  deriving DecidableEq, Repr

namespace JobState

/-- `mapped`, and `unknown` for the rest. -/
def mapped : JobState → FactState
  | running | completing | suspended => .active
  | completed | cancelled => .released
  | timeout => .expired
  | failed | nodeFail | outOfMemory | preempted => .failed
  | pending => .unknown

/-- Slurm does nothing more with the job. -/
def final (s : JobState) : Bool :=
  decide (s ≠ .pending ∧ s.mapped ≠ .active)

end JobState

/-- A job, with the request whose `srun` it belongs to. -/
structure Job where
  id : ℕ
  name : String
  request : Option String := none
  state : JobState := .pending
  /-- The hold process has written its sample. -/
  sampled : Bool := false
  deriving DecidableEq, Repr

/-- One `srun -I`: the job Slurm accepted for it, and its exit code once it has ended. -/
structure Srun where
  requestId : String
  job : Option ℕ := none
  exit : Option ℕ := none
  deriving DecidableEq, Repr

/-- `NO_CAPACITY_EXIT_CODE`, and `SLURM_EXIT_IMMEDIATE` of every `srun`. -/
def noCapacityExitCode : ℕ := 3

/-! ## Runs of the helper -/

/-- Where a run of `cmd_apply` is. -/
inductive ApplyPhase
  /-- before the capacity check -/
  | begun
  | checked
  /-- the request file was there -/
  | query
  /-- the request file was created, and is still empty -/
  | reserved
  | written
  /-- in the loop, with its `srun` -/
  | waiting (srun : ℕ)
  | done
  deriving DecidableEq, Repr

structure ApplyRun where
  requestId : String
  phase : ApplyPhase := .begun
  deriving DecidableEq, Repr

/-- The login node and its cluster. -/
structure Site where
  /-- A file by its name: missing, empty, or with its document. -/
  files : String → Option (Option Doc) := fun _ => none
  names : List String := []
  /-- The jobs `request-<id>.log` names. -/
  logs : String → List ℕ := fun _ => []
  jobs : List Job := []
  sruns : List Srun := []
  runs : List ApplyRun := []
  reserved : List (String × ℕ) := []
  printed : List (String × ℕ) := []
  refused : List String := []

namespace Site

variable (w : Site)

/-- `read_json`. -/
def readJson (name : String) : Option Doc := (w.files name).bind id

/-- A file is written, or created. -/
def put (name : String) (file : Option Doc) : Site :=
  { w with
    files := fun n => if n = name then some file else w.files n
    names := if name ∈ w.names then w.names else w.names ++ [name] }

def job? (j : ℕ) : Option Job := w.jobs.find? fun x => x.id = j

/-- `job_details`, when Slurm answers. -/
def jobDetails (answers : ℕ → Bool) (j : ℕ) : Option Job := (w.job? j).filter fun _ => answers j

/-- The run's next phase. -/
def moveTo (i : ℕ) (phase : ApplyPhase) : Site :=
  { w with runs := w.runs.modify i fun r => { r with phase } }

/-! ## Facts -/

/-- `allocation_fact`. -/
structure Fact where
  allocationRef : ℕ
  requestId : Option String
  state : FactState
  deriving DecidableEq, Repr

/-- `allocation_fact`. -/
def allocationFact (answers : ℕ → Bool) (j : ℕ) (requestId : Option String) : Fact :=
  { allocationRef := j, requestId
    state := ((w.jobDetails answers j).map fun x => x.state.mapped).getD .unknown }

/-- `request_job_id`. -/
def requestJobId (answers : ℕ → Bool) (request : Doc) : Option ℕ :=
  request.allocationRef.or
    (match (w.logs request.requestId).dedup.filter fun j =>
        (w.jobDetails answers j).any fun x => x.name = "sp-" ++ request.requestId with
      | [j] => some j
      | _ => none)

/-- The job of a request: its sample's, or the request's own. -/
def jobOf (answers : ℕ → Bool) (request : Doc) : Option ℕ :=
  match w.readJson request.requestId with
  | some sample => sample.allocationRef
  | none => w.requestJobId answers request

/-- `requests` of `all_allocations`, for a listing of the directory. -/
def requests (answers : ℕ → Bool) (listing : List String) : List (ℕ × Doc) :=
  ((listing.filter isRequestName).filterMap w.readJson).filterMap fun request =>
    (w.jobOf answers request).map fun j => (j, request)

/-- `all_allocations`. A later request of the same job takes the place of an earlier one. -/
def allAllocations (answers : ℕ → Bool) (listing : List String) : List Fact :=
  let requests := w.requests answers listing
  let ids := (requests.map Prod.fst ++ (w.jobs.filter fun x => !x.state.final).map Job.id).dedup
  (ids.insertionSort fun a b => toString a ≤ toString b).map fun j =>
    w.allocationFact answers j ((requests.reverse.lookup j).map Doc.requestId)

/-! ## Steps of a run -/

/-- The capacity check. -/
def capacity (i : ℕ) (enough : Bool) : Site :=
  match w.runs[i]? with
  | some ⟨x, .begun⟩ =>
    if enough then w.moveTo i .checked
    else { w.moveTo i .done with refused := x :: w.refused }
  | _ => w

/-- `request_path.open("x")`. -/
def reserve (i : ℕ) : Site :=
  match w.runs[i]? with
  | some ⟨x, .checked⟩ =>
    if (w.files (requestName x)).isSome then w.moveTo i .query
    else { (w.put (requestName x) none).moveTo i .reserved with
      reserved := (x, i) :: w.reserved }
  | _ => w

/-- `json.dump` into the request file. -/
def write (i : ℕ) : Site :=
  match w.runs[i]? with
  | some ⟨x, .reserved⟩ =>
    (w.put (requestName x) (some { requestId := x, allocationRef := none })).moveTo i .written
  | _ => w

/-- The log is opened and `srun` started. -/
def launch (i : ℕ) : Site :=
  match w.runs[i]? with
  | some ⟨x, .written⟩ =>
    { w.moveTo i (.waiting w.sruns.length) with
      logs := fun n => if n = x then [] else w.logs n
      sruns := w.sruns ++ [{ requestId := x }] }
  | _ => w

/-- The loop's look at the sample; `deadline` says that Slurm reports an end time. -/
def look (i : ℕ) (answers : ℕ → Bool) (deadline : Bool) : Site :=
  match w.runs[i]? with
  | some ⟨x, .waiting _⟩ =>
    match w.readJson x with
    | none => w
    | some sample =>
      match sample.allocationRef with
      | none => w.moveTo i .done
      | some j =>
        let w' := w.put (requestName x) (some { requestId := x, allocationRef := some j })
        if (w.allocationFact answers j (some x)).state = .active ∧ deadline = true then
          { w'.moveTo i .done with printed := (x, j) :: w.printed }
        else w'
  | _ => w

/-- The loop's look at its `srun`. -/
def poll (i : ℕ) : Site :=
  match w.runs[i]? with
  | some ⟨x, .waiting k⟩ =>
    match (w.sruns[k]?).bind Srun.exit with
    | none => w
    | some code =>
      if code = noCapacityExitCode then { w.moveTo i .done with refused := x :: w.refused }
      else w.moveTo i .done
  | _ => w

/-- The request file was there: the outcome of the original application. -/
def ask (i : ℕ) (answers : ℕ → Bool) (listing : List String) : Site :=
  match w.runs[i]? with
  | some ⟨x, .query⟩ =>
    match (w.allAllocations answers listing).find? fun f => f.requestId = some x with
    | some f =>
      if f.state = .active then
        { w.moveTo i .done with printed := (x, f.allocationRef) :: w.printed }
      else w.moveTo i .done
    | none => w.moveTo i .done
  | _ => w

/-! ## Steps of Slurm -/

/-- Slurm accepts a job for an `srun`; ids are never used again. -/
def accept (k j : ℕ) : Site :=
  match w.sruns[k]? with
  | some s =>
    if s.exit = none ∧ s.job = none ∧ j ∉ w.jobs.map Job.id then
      { w with
        sruns := w.sruns.modify k fun s => { s with job := some j }
        jobs := w.jobs ++ [{ id := j, name := "sp-" ++ s.requestId, request := some s.requestId }] }
    else w
  | none => w

/-- `srun` writes `srun: job N` to the request's log. -/
def announce (k : ℕ) : Site :=
  match w.sruns[k]? with
  | some { requestId := x, job := some j, exit := _ } =>
    { w with logs := fun n => if n = x then w.logs n ++ [j] else w.logs n }
  | _ => w

/-- A job changes its state; a final one stays. -/
def setState (j : ℕ) (state : JobState) : Site :=
  { w with jobs := w.jobs.map fun x =>
      if x.id = j ∧ x.state.final = false then { x with state } else x }

/-- `srun` ends: with `SLURM_EXIT_IMMEDIATE` only if no job of its was started. -/
def exit (k code : ℕ) : Site :=
  match w.sruns[k]? with
  | some s =>
    if code = noCapacityExitCode then
      if s.exit = none ∧
          ∀ j ∈ s.job, ((w.job? j).all fun x => decide (x.state = .pending)) = true then
        let w' : Site := { w with sruns := w.sruns.modify k fun s => { s with exit := some code } }
        match s.job with
        | some j => w'.setState j .cancelled
        | none => w'
      else w
    else if s.exit = none then
      { w with sruns := w.sruns.modify k fun s => { s with exit := some code } }
    else w
  | none => w

/-- The hold process of a running job writes its sample. -/
def hold (j : ℕ) : Site :=
  match w.job? j with
  | some { id := _, name := _, request := some x, state, sampled := _ } =>
    if state.mapped = .active then
      { w.put x (some { requestId := x, allocationRef := some j }) with
        jobs := w.jobs.map fun y => if y.id = j then { y with sampled := true } else y }
    else w
  | _ => w

/-- Somebody else's job. -/
def foreign (j : ℕ) (name : String) : Site :=
  if j ∈ w.jobs.map Job.id then w else { w with jobs := w.jobs ++ [{ id := j, name }] }

end Site

/-! ## Steps -/

inductive SiteAct
  | apply (requestId : String)
  | capacity (i : ℕ) (enough : Bool)
  | reserve (i : ℕ)
  | write (i : ℕ)
  | launch (i : ℕ)
  | look (i : ℕ) (answers : ℕ → Bool) (deadline : Bool)
  | poll (i : ℕ)
  | ask (i : ℕ) (answers : ℕ → Bool) (listing : List String)
  /-- The run is interrupted, or its time is up. -/
  | interrupt (i : ℕ)
  | accept (k j : ℕ)
  | announce (k : ℕ)
  | setState (j : ℕ) (state : JobState)
  | exit (k code : ℕ)
  | hold (j : ℕ)
  | foreign (j : ℕ) (name : String)

/-- One step. A listing is of the names there are, in any order. -/
def Site.step (w : Site) : SiteAct → Site
  | .apply requestId => { w with runs := w.runs ++ [{ requestId }] }
  | .capacity i enough => w.capacity i enough
  | .reserve i => w.reserve i
  | .write i => w.write i
  | .launch i => w.launch i
  | .look i answers deadline => w.look i answers deadline
  | .poll i => w.poll i
  | .ask i answers listing => if listing.isPerm w.names then w.ask i answers listing else w
  | .interrupt i => w.moveTo i .done
  | .accept k j => w.accept k j
  | .announce k => w.announce k
  | .setState j state => w.setState j state
  | .exit k code => w.exit k code
  | .hold j => w.hold j
  | .foreign j name => w.foreign j name

end ServerPilot.Slurm
