import BoostZones.Kernel.Job

/-!
The entries of a zone. A kernel either finishes, refuses the call for a reason, or fails; the
guard around it turns each of these into a status code, so that nothing else ever crosses the
boundary. A call without a handle or without a record is refused by the guard itself. The entry
that finishes a metric has no status: what goes wrong there comes back as no number.
-/

namespace BoostZones.Kernel

/-- How a kernel comes to an end. -/
inductive Ending where
  | finished
  | refused (reason : ZoneError)
  /-- The kernel breaks off: it needs an entry that no buffer has. -/
  | fault

def Ending.code : Ending → Int32
  | .finished => Status.ok.code
  | .refused reason => reason.status.code
  | .fault => Status.unexpectedInternal.code

end Kernel

/-- Works on a record: the record afterwards, and how the work ended. -/
abbrev Kernel := Handle → Transfer → Transfer × Kernel.Ending

/-- What other code can call to apply an update. -/
abbrev UpdateEntry := Option Handle → Option Transfer → Int32 × Option Transfer

/-- What other code can call to finish a metric. -/
abbrev FinishEntry := Option Handle → Float → Float

namespace Kernel

/-- The kernel behind its guard. -/
def guardUpdate (kernel : Kernel) : UpdateEntry
  | some handle, some record =>
    let (record, ending) := kernel handle record
    (ending.code, some record)
  | _, record => (Status.illegalParameter.code, record)

/-- Not a number. -/
def notNumber : Float := 0 / 0

/-- The transformation behind its guard. -/
def guardFinish (finish : Handle → Float → Option Float) : FinishEntry
  | some handle, value => (finish handle value).getD notNumber
  | none, _ => notNumber

/-- The metric of a mean, by the objective that the handle stands for. -/
def finishMetric (handle : Handle) (mean : Float) : Option Float :=
  match Objective.ofHandle handle with
  | .ok objective => some (objective.finish mean)
  | .error _ => some notNumber

/-- The kernel that carries accepted calls out by a traversal, unless what the traversal works on
is not to be had. The metric is written last, when nothing can fail any more. -/
def ofTraversal (traverse : Traversal) (objection? : Job → Option ZoneError) : Kernel :=
    fun handle record =>
  match Job.accept handle record with
  | .error reason => (record, .refused reason)
  | .ok job =>
    match objection? job with
    | some reason => (record, .refused reason)
    | none =>
      match traverse job with
      | .ok p => ({ record.store p.scores p.gradients with metric := p.metric }, .finished)
      | .error p => (record.store p.scores p.gradients, .fault)

end Kernel
end BoostZones
