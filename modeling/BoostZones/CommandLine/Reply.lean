import BoostZones.CommandLine.Request
import BoostZones.Json.Writer
import BoostZones.Registry.Linked
import BoostZones.Registry.Summary
import BoostZones.Selector
import BoostZones.Settings.File
import BoostZones.Trial.Report

/-!
What the program answers. A command loads the settings first, then looks at the linked zones.
Misuse of the command line, failure of a command and its breaking off have codes of their own;
what was written before a failure stays written.
-/

namespace BoostZones.CommandLine

structure Reply where
  code : UInt8
  output : String
  /-- What is said about a failure, beside the output. -/
  complaint : String

namespace Reply

def success (output : String) : Reply := ⟨0, output, ""⟩

def failure (output complaint : String) : Reply := ⟨1, output, complaint⟩

/-- Reply of a command that breaks off. -/
def broken (complaint : String) : Reply := ⟨101, "", complaint⟩

/-- Reply to arguments that ask for no command. -/
def ofStop : Stop → Reply
  | .shown text => success text
  | .misuse => ⟨2, "", "Usage: " ++ programName ++ " [OPTIONS] <COMMAND>"⟩

end Reply

-------------------------------------------------------------------------------
-- Zones
-------------------------------------------------------------------------------

def summaryJson (z : ZoneSummary) : Json :=
  .object [("zone", .text z.zone.name), ("linked", .boolean z.linked),
    ("available", .boolean z.available), ("baseline", .boolean z.baseline),
    ("finish_metric", .boolean z.finishMetric), ("symbols", .list (z.symbols.map .text))]

/-- The width of the column of zone names. -/
def zoneWidth : Nat := 8

def statusText (z : ZoneSummary) : String :=
  if !z.linked then "não ligada" else if z.available then "disponível" else "indisponível"

def summaryLines (z : ZoneSummary) : List String :=
  let indent := String.ofList (List.replicate (zoneWidth + 3) ' ')
  ("  " ++ padded zoneWidth z.zone.name ++ " " ++ statusText z
      ++ if z.baseline then " (baseline)" else "")
    :: z.symbols.map (indent ++ ·)

/-- Lines with their ends. -/
def joinLines (lines : List String) : String :=
  String.join (lines.map (· ++ "\n"))

def listReply (zones : List ZoneSummary) (json : Bool) : Reply :=
  .success <|
    if json then (Json.list (zones.map summaryJson)).write ++ "\n"
    else joinLines ("Zonas" :: zones.flatMap summaryLines)

-------------------------------------------------------------------------------
-- The check
-------------------------------------------------------------------------------

def reportJson (r : Report) : Json :=
  .object [("zone", .text r.zone.name), ("max_score_diff", .number r.scoreDifference),
    ("max_gradient_diff", .number r.gradientDifference), ("metric_sum", .number r.metricSum),
    ("metric_rel_diff", .number r.metricDifference)]

def reportLine (r : Report) : String :=
  "  " ++ (if r.isConsistent then "✓" else "✗") ++ " " ++ padded zoneWidth r.zone.name
    ++ " métrica " ++ Decimal.fixed 12 r.metricSum
    ++ "  Δrel " ++ Decimal.fixed 2 r.metricDifference
    ++ "  Δscore " ++ Decimal.fixed 2 r.scoreDifference
    ++ "  Δgrad " ++ Decimal.fixed 2 r.gradientDifference

def checkHeading (o : Objective) (samples : UInt64) : String :=
  "Check " ++ o.display ++ " (" ++ Text.writeCount samples ++ " samples, tolerância "
    ++ Decimal.scientific Report.tolerance ++ ")"

def checkReply (o : Objective) (samples : UInt64) (json : Bool) (reports : List Report)
    : Reply :=
  let output :=
    if json then (Json.list (reports.map reportJson)).write ++ "\n"
    else joinLines (checkHeading o samples :: reports.map reportLine)
  let divergent := reports.filter (!·.isConsistent)
  if divergent.isEmpty then .success output
  else
    .failure output
      ("zonas divergentes: " ++ ", ".intercalate (divergent.map (·.zone.name)))

def failedCheck : Trial.Failure → Reply
  | .fault => .broken "o problema não pode ser construído"
  | .error reason => .failure "" reason.message

-------------------------------------------------------------------------------
-- Commands
-------------------------------------------------------------------------------

/-- The settings' text, and the zone that they choose if they choose one. -/
def configReply (r : Registry) (s : Settings) : Reply :=
  match s.toText with
  | .error e => .failure "" e.message
  | .ok text =>
    match r.select s.zone with
    | .error e => .failure text e.message
    | .ok zone => .success (text ++ "\n# zona selecionada: " ++ zone.name ++ "\n")

/-- The reply of a command with settings. -/
def Command.reply (s : Settings) (r : Registry) : Command → Reply
  | .list json => listReply r.summarize json
  | .check samples chosen json =>
    match chosen.elim s.learned .ok with
    | .error e => .failure "" e.message
    | .ok o =>
      match Trial.crossCheck r o samples.toNat with
      | .error e => failedCheck e
      | .ok reports => checkReply o samples json reports
  | .config => configReply r s

/-- The reply to a request, given what its settings file holds if that is a text. -/
def Request.reply (request : Request) (content : Option String)
    (environment : Settings.Environment)
    : Reply :=
  match Settings.load (request.file.map (⟨·, content⟩)) environment with
  | .error e => .failure "" ("falha ao carregar configuração: " ++ e.message)
  | .ok s =>
    match linkedZones with
    | .error e => .failure "" e.message
    | .ok r => request.command.reply s r

end BoostZones.CommandLine
