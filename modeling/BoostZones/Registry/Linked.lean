import BoostZones.Kernel.Lanes
import BoostZones.Kernel.Scalar
import BoostZones.Kernel.Staged
import BoostZones.Registry

/-!
The zones of the library. Every zone exports its kernel, and the baseline also the finishing of
metrics; the kernel of the staged zone works on the device of the machine. The program is linked
with the baseline and the staged zone.
-/

namespace BoostZones

namespace Zone

/-- The zone's kernel on a machine with this device. -/
def kernelOn (zone : Zone) (device : Device) : Kernel :=
  match zone with
  | .cpu => .scalar
  | .simd => .lanes
  | .offload => .staged device

/-- The zone's entry for updates on a machine with this device. -/
def updateOn (zone : Zone) (device : Device) : UpdateEntry :=
  Kernel.guardUpdate (zone.kernelOn device)

/-- What a zone exports on a machine with this device, as a zone that can work. -/
def exportsOn (zone : Zone) (device : Device) : Exports where
  zone := zone
  symbols := zone.required.map fun op => ⟨zone.symbolName op, entry op⟩
  available := true
where
  entry : Operation → Entry
    | .applyUpdate => .update (zone.updateOn device)
    | .finishMetric => .finish (Kernel.guardFinish Kernel.finishMetric)

def kernel (zone : Zone) : Kernel :=
  zone.kernelOn .host

/-- What a zone exports when it can work. -/
def exports (zone : Zone) : Exports :=
  zone.exportsOn .host

end Zone

/-- The exports that the program is linked with. -/
def linkedExports : List Exports :=
  [Zone.cpu.exports, Zone.offload.exports]

/-- The registry of the linked zones. -/
def linkedZones : Except ZoneError Registry :=
  Registry.build linkedExports

end BoostZones
