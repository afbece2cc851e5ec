import BoostZones.Zone
import BoostZones.Status

/-!
What goes wrong between a caller and a zone. An error names its cause; its message, its status
and whether it is a matter of configuration are functions of the cause.
-/

namespace BoostZones

inductive ZoneError where
  | unknownZone (text : String)
  | zoneUnavailable (zone : Zone)
  | symbolNotFound (symbol : String)
  /-- Two registrations want the same name. -/
  | duplicateSymbol (symbol : String) (first second : Zone)
  | symbolNameMismatch (expected actual : String)
  | zoneAlreadyRegistered (zone : Zone)
  /-- A zone offers an operation that it does not support. -/
  | unexpectedCapability (zone : Zone) (op : Operation)
  /-- An operation is asked of a zone that does not offer it. -/
  | capabilityAbsent (zone : Zone) (op : Operation)
  | objectiveMismatch (reason : String)
  | invalidParameter (reason : String)
  | outOfMemory
  | internal (reason : String)
deriving DecidableEq

namespace ZoneError

def message : ZoneError → String
  | .unknownZone text => "Zona desconhecida: " ++ text
  | .zoneUnavailable zone => "Zona '" ++ zone.name ++ "' não disponível"
  | .symbolNotFound symbol => "Símbolo não encontrado: " ++ symbol
  | .duplicateSymbol symbol first second =>
    "Símbolo duplicado: " ++ symbol ++ " (zonas " ++ first.name ++ " e " ++ second.name ++ ")"
  | .symbolNameMismatch expected actual =>
    "Nome de símbolo '" ++ actual ++ "' não corresponde ao esperado '" ++ expected ++ "'"
  | .zoneAlreadyRegistered zone => "Zona '" ++ zone.name ++ "' já registrada"
  | .unexpectedCapability zone op =>
    "Zona '" ++ zone.name ++ "' não declara a operação " ++ op.name
  | .capabilityAbsent zone op =>
    "Operação " ++ op.name ++ " indisponível na zona '" ++ zone.name ++ "'"
  | .objectiveMismatch reason => "Objetivo incompatível: " ++ reason
  | .invalidParameter reason => "Parâmetro inválido: " ++ reason
  | .outOfMemory => "Memória insuficiente no kernel da zona"
  | .internal reason => "Falha interna: " ++ reason

/-- The status under which a kernel reports the error. -/
def status : ZoneError → Status
  | .outOfMemory => .outOfMemory
  | .invalidParameter _ | .objectiveMismatch _ => .illegalParameter
  | _ => .unexpectedInternal

/-- The error is one of setting up zones and symbols, and not of a single call. -/
def isConfiguration : ZoneError → Bool
  | .unknownZone _ | .zoneUnavailable _ | .symbolNotFound _ | .duplicateSymbol _ _ _
  | .symbolNameMismatch _ _ | .zoneAlreadyRegistered _ | .unexpectedCapability _ _ => true
  | _ => false

/-- Reads a kernel's answer: the error that its code stands for, told with the zone. -/
def check (code : Int32) (zone : Zone) : Except ZoneError Unit :=
  match Status.ofCode code with
  | .ok => .ok ()
  | .outOfMemory => .error .outOfMemory
  | .illegalParameter =>
    .error (.invalidParameter ("kernel da zona '" ++ zone.name ++ "' rejeitou os parâmetros"))
  | .unexpectedInternal =>
    .error (.internal ("kernel da zona '" ++ zone.name ++ "' devolveu " ++ toString code.toInt))

/-- A kernel's answer is accepted exactly when its code is zero. -/
theorem check_eq_ok_iff (code : Int32) (zone : Zone) : check code zone = .ok () ↔ code = 0 := by
  rw [← Status.ofCode_eq_ok_iff, check]
  cases Status.ofCode code <;> simp

theorem status_ne_ok (e : ZoneError) : e.status ≠ .ok := by
  cases e <;> simp [status]

end ZoneError

end BoostZones
