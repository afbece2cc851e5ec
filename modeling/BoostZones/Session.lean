import BoostZones.Buffers
import BoostZones.Registry.Linked
import BoostZones.Selector

/-!
Sessions. A session is an objective bound to a zone. It counts the rounds of training that were
carried out, and it turns the metric of a validation call into a finished one: the sum is
divided by the total weight and finished by the baseline, which a session of another zone binds
as well if it can.
-/

namespace BoostZones

structure Session where
  objective : Objective
  binding : Binding
  /-- The baseline's binding, in a session of another zone. -/
  finisher : Option Binding
  /-- Rounds of training carried out. -/
  rounds : Nat

namespace Session

-------------------------------------------------------------------------------
-- Opening
-------------------------------------------------------------------------------

/-- The baseline's binding of a session in this zone: none in the baseline itself, and none
when it cannot be bound. -/
def finisherFor (r : Registry) (zone : Zone) (d : Descriptor) : Option Binding :=
  if zone.isBaseline then none else (bind r Zone.baseline d).toOption

/-- Opens a session for an objective in a zone of the registry. -/
def create (r : Registry) (zone : Zone) (objective : Objective) : Except RunError Session := do
  let descriptor ← objective.descriptor.mapError .objective
  let binding ← (bind r zone descriptor).mapError .zone
  return { objective, binding, finisher := finisherFor r zone descriptor, rounds := 0 }

/-- Opens the session that settings ask for. -/
def ofSettings (r : Registry) (s : Settings) : Except RunError Session := do
  let zone ← r.select s.zone
  let objective ← s.learned.mapError .objective
  create r zone objective

/-- Opens the session that settings ask for, in the linked zones. -/
def ofLinked (s : Settings) : Except RunError Session := do
  let r ← linkedZones.mapError .zone
  ofSettings r s

-------------------------------------------------------------------------------
-- Questions
-------------------------------------------------------------------------------

def zone (s : Session) : Zone :=
  s.binding.zone

/-- Metrics can be finished. -/
def canFinish (s : Session) : Bool :=
  s.binding.supports .finishMetric || s.finisher.isSome

def checkTargets (s : Session) (targets : List Float) : Except RunError Unit :=
  (s.objective.checkTargets targets).mapError .objective

-------------------------------------------------------------------------------
-- Rounds
-------------------------------------------------------------------------------

/-- Carries out a round of training: the session, the buffers, and what came of it. -/
def trainRound (s : Session) (b : Buffers) : Session × Buffers × Except RunError Unit :=
  if b.isValidation then
    (s, b, .error (.zone (.invalidParameter "rodada de treino sem buffer de gradientes")))
  else
    let (b, answer) := s.binding.applyUpdate b
    match answer with
    | .ok _ => ({ s with rounds := s.rounds + 1 }, b, .ok ())
    | .error reason => (s, b, .error (.zone reason))

/-- A total weight has to be a positive finite number. -/
def checkTotalWeight (weight : Float) : Except RunError Unit :=
  if weight > 0 && weight.isFinite then .ok () else .error (.invalidTotalWeight weight)

/-- Finishes the weighted sum of a metric. -/
def finish (s : Session) (sum weight : Float) : Except RunError Float := do
  checkTotalWeight weight
  let finisher ←
    if s.binding.supports .finishMetric then pure s.binding
    else
      match s.finisher with
      | some finisher => pure finisher
      | none => throw (.zone (.capabilityAbsent s.zone .finishMetric))
  (finisher.finishMetric (sum / weight)).mapError .zone

/-- The weights of the buffers added up; without weights, the number of targets. -/
def totalWeight (b : Buffers) : Float :=
  match b.weights with
  | some weights => weights.toList.foldl (· + ·) (-0.0)
  | none => (UInt64.ofNat b.targets.size).toFloat

/-- Carries out a validation call and finishes its metric. The total weight is checked before
the scores are touched. -/
def validate (s : Session) (b : Buffers) : Buffers × Except RunError Float :=
  if !b.isValidation then
    (b, .error (.zone (.invalidParameter "validação com buffer de gradientes")))
  else
    let weight := totalWeight b
    match checkTotalWeight weight with
    | .error reason => (b, .error reason)
    | .ok () =>
      let (b, answer) := s.binding.applyUpdate b
      match answer with
      | .ok sum => (b, s.finish sum weight)
      | .error reason => (b, .error (.zone reason))

end Session
end BoostZones
