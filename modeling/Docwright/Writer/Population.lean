import Docwright.Table.Job
import Docwright.Writer.Session

/-!
The second phase of writing tables. A fresh snapshot tells where the cells of the new tables are;
then one batch for each job fills its table. What the first phase has written stays, whatever
happens here.
-/

namespace Docwright.Writer

open Edit

variable {σ : Type}

/-- The jobs as they were left, the number of tables that were filled, and what stopped them. -/
structure Population where
  jobs : List Table.Job
  filled : Nat := 0
  failure : Option Failure := none

/-- A job without content has nothing to write. -/
def batch (j : Table.Job) : Except Table.Obstacle (List Operation) :=
  if j.hasContent then j.operations else .ok []

/-- Submits the batch of a job, and finishes the job. The number tells whether there was a batch. If
`marked`, the headers are marked texts. -/
def fillJob (w : Writer σ) (id : DocumentId) (marked : Bool) (j : Table.Job) :
    Action σ (Nat × Table.Job) := do
  let ops ← .settled ((batch j).mapError Table.Obstacle.toFailure)
  .settled (checkEncodable marked j.writtenHeaders)
  let _ ← w.submit id ops "populate_table"
  let done ← .settled (j.finish.mapError Table.Obstacle.toFailure)
  return (if ops.isEmpty then 0 else 1, done)

def fillJobs (w : Writer σ) (id : DocumentId) (marked : Bool) :
    List Table.Job → Session σ → Population × Session σ
  | [], s => ({ jobs := [] }, s)
  | j :: js, s =>
    match w.fillJob id marked j s with
    | (.error f, t) => ({ jobs := j :: js, failure := some f }, t)
    | (.ok (n, done), t) =>
      let (rest, u) := w.fillJobs id marked js t
      ({ rest with jobs := done :: rest.jobs, filled := n + rest.filled }, u)

def bindJobs (jobs : List Table.Job) (document : Json) :
    Action σ (List Table.Job × Option Table.Obstacle) := do
  let (bound, stop) := Table.claimAll (Snapshot.ofJson document) jobs
  Action.warn ((stop.map Table.Obstacle.warnings).getD [])
  return (bound, stop)

/-- Jobs that have no content are not even looked for. -/
def runJobs (w : Writer σ) (id : DocumentId) (jobs : List Table.Job) (s : Session σ)
    (marked : Bool := false) : Population × Session σ :=
  if !jobs.any (·.hasContent) then ({ jobs }, s)
  else match (w.fetch id).andThen (bindJobs jobs) s with
    | (.error f, t) => ({ jobs, failure := some f }, t)
    | (.ok (bound, some o), t) => ({ jobs := bound, failure := some o.toFailure }, t)
    | (.ok (bound, none), t) => w.fillJobs id marked bound t

/-- A failure of the second phase names the document. -/
def populationFailure (id : DocumentId) : Failure → Failure
  | .api .tablePopulation m status own =>
    .api .tablePopulation m status (match own with
      | some name => if name = "" then id else own
      | none => id)
  | .api _ m status _ =>
    .api .tablePopulation s!"Content was written but failed to populate table: {m}" status id
  | f => f

/-- The number of tables that received content. -/
def populate (w : Writer σ) (id : DocumentId) (jobs : List Table.Job) (marked : Bool := false) :
    Action σ Nat :=
  fun s =>
    let (p, t) := w.runJobs id jobs s marked
    (match p.failure with
      | some f => .error (populationFailure id f)
      | none => .ok p.filled, t)

end Docwright.Writer
