/-!
Zones and the names of their symbols. A zone is one build of the update kernel. The two
operations exist once per zone, so a symbol is named after its operation and its zone; two
different pairs never share a name.
-/

namespace BoostZones

/-- What a zone can be asked to do. -/
inductive Operation where
  /-- Apply one boosting update to the sample scores. -/
  | applyUpdate
  /-- Turn an averaged metric into the reported one. -/
  | finishMetric
deriving DecidableEq

namespace Operation

def all : List Operation :=
  [.applyUpdate, .finishMetric]

def name : Operation → String
  | .applyUpdate => "ApplyUpdate"
  | .finishMetric => "FinishMetric"

end Operation

/-- One build of the update kernel. -/
inductive Zone where
  /-- One sample after the other: the reference. -/
  | cpu
  /-- Blocks of lanes. -/
  | simd
  /-- Staged blocks on a device queue. -/
  | offload
deriving DecidableEq

namespace Zone

/-- The zone that the others are measured against, and the only one that finishes metrics. -/
def baseline : Zone := .cpu

/-- Every zone, in the order of the ids. -/
def all : List Zone :=
  [.cpu, .simd, .offload]

def name : Zone → String
  | .cpu => "cpu"
  | .simd => "simd"
  | .offload => "offload"

/-- The number that stands for the zone in a handle. -/
def id : Zone → UInt32
  | .cpu => 0
  | .simd => 1
  | .offload => 2

def ofId? (n : UInt32) : Option Zone :=
  all.find? (·.id == n)

def isBaseline (z : Zone) : Bool :=
  z == baseline

/-- Every zone applies updates; only the baseline finishes metrics. -/
def supports (z : Zone) : Operation → Bool
  | .applyUpdate => true
  | .finishMetric => z.isBaseline

/-- The operations that a binding to the zone has to find. -/
def required (z : Zone) : List Operation :=
  Operation.all.filter z.supports

/-- What stands between the operation and the zone in a symbol's name. -/
def separator : String := "_"

def symbolName (z : Zone) (op : Operation) : String :=
  op.name ++ separator ++ z.name

theorem mem_all (z : Zone) : z ∈ all := by
  cases z <;> decide

theorem ofId?_id (z : Zone) : ofId? z.id = some z := by
  cases z <;> decide

/-- A symbol's name tells its zone and its operation. -/
theorem symbolName_inj {z w : Zone} {op other : Operation}
    : z.symbolName op = w.symbolName other ↔ z = w ∧ op = other := by
  cases z <;> cases w <;> cases op <;> cases other <;> decide

end Zone

/-- Two names are the same when they have the same bytes. -/
def sameName (a b : String) : Bool :=
  a.toUTF8 == b.toUTF8

end BoostZones
