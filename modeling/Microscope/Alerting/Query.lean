import Microscope.Alerting.Config
import Microscope.Logql.Query

namespace Microscope.Alerting

open Microscope.Logql

/-! # The query of an alert

`logql_query`, as the structure of the query it writes and as the text.
-/

/-! ## Conditions -/

/-- `logql_operator`; the two operators that have no comparison are rendered
separately. -/
def logqlOperator : AlertConditionOperator → Except Failure Comparison
  | .eq => .ok .eq
  | .ne => .ok .ne
  | .gt => .ok .gt
  | .gte => .ok .gte
  | .lt => .ok .lt
  | .lte => .ok .lte
  | .exists | .contains => .error ["special condition operators are rendered separately"]

section Rendering

variable (libraries : Libraries)

def logqlValue : AlertConditionValue → Literal
  | .integer value => .number (toString value) value
  | .float value => .number (libraries.floatText value) value.value
  | .boolean value => .text (toString value)
  | .string value => .text value

/-- The filters of a condition, which `and` connects. -/
def conditionFilter (condition : AlertCondition) (label : String) : Except Failure (List LabelFilter) :=
  match condition.operator, condition.value with
  | .exists, none => .ok [.compare label .ne (.text "")]
  | .contains, some (.string value) => .ok [.matchesAll label (containsPattern value)]
  | .ne, some (.string value) =>
      .ok [.compare label .ne (.text ""), .compare label .ne (logqlValue libraries (.string value))]
  | .ne, some (.boolean value) =>
      .ok [.compare label .ne (.text ""), .compare label .ne (logqlValue libraries (.boolean value))]
  | operator, some value => do
      return [.compare label (← logqlOperator operator) (logqlValue libraries value)]
  | _, none => .error ["invalid condition for field " ++ condition.field]

def conditionLabel (index : Nat) : String := "condition_" ++ toString index

/-- What the query reads of the records of a kind. -/
structure SignalScope where
  recordKind : String
  signalPath : String
  scopePath : String
  scopeValue : String

def signalScope (config : Config) (alert : AlertRule) : Except Failure SignalScope :=
  match alert.kind, config.multisig with
  | .event, _ => .ok ⟨"program_event", "name", "program_id", config.programId⟩
  | .instruction, _ => .ok ⟨"program_instruction", "name", "program_id", config.programId⟩
  | .multisig, some multisig =>
      .ok ⟨"multisig_activity", "action", "vault_address", multisig.vaultAddress⟩
  | .multisig, none =>
      .error ["multisig alert " ++ alert.name ++ " requires a [multisig] section in the config"]

def baseExtractions (kind : AlertKind) (scope : SignalScope) : List (String × String) :=
  [("kind", "kind"), ("signal", scope.signalPath), ("scope", scope.scopePath), ("signature", "signature")] ++
    if kind = .multisig then [("failed", "failed")] else []

def baseFilters (alert : AlertRule) (scope : SignalScope) : List LabelFilter :=
  [.compare "kind" .eq (.text scope.recordKind), .compare "signal" .eq (.text alert.name),
    .compare "scope" .eq (.text scope.scopeValue)] ++
    if alert.kind = .multisig then [.compare "failed" .eq (.text "false")] else []

/-- The closure `count_query`. -/
def countQuery (alert : AlertRule) (defaults : AlertingConfig) (scope : SignalScope)
    (conditions : List (AlertCondition × Nat)) : Except Failure CountQuery := do
  let filters ← conditions.mapM fun (condition, index) => do
    condition.validate libraries
    conditionFilter libraries condition (conditionLabel index)
  return {
    extractions := baseExtractions alert.kind scope ++
      conditions.map fun (condition, index) => (conditionLabel index, condition.field)
    filters := baseFilters alert scope
    conditions := filters.flatten
    windowSeconds := alert.effectiveLookback defaults }

def logqlQuery (config : Config) (alert : AlertRule) : Except Failure MetricQuery := do
  let scope ← signalScope config alert
  let indexedConditions := alert.conditions.zipIdx
  if alert.matchMode = .any ∧ indexedConditions.length > 1 then
    let branches ← indexedConditions.mapM fun condition =>
      countQuery libraries alert config.alerting scope [condition]
    return { branches }
  else
    let query ← countQuery libraries alert config.alerting scope indexedConditions
    return { branches := [query] }

/-! ## Text -/

def literalText : Literal → String
  | .text value => libraries.quoted value
  | .number text _ => text

def filterText : LabelFilter → String
  | .compare label comparison literal => label ++ " " ++ comparison.text ++ " " ++ literalText libraries literal
  | .matchesAll label expression => label ++ " =~ " ++ libraries.quoted expression

def countText (query : CountQuery) : String :=
  let parser := "| json " ++ String.intercalate ", "
    (query.extractions.map fun (label, path) => label ++ "=\"" ++ path ++ "\"")
  let filters := String.intercalate " " (query.filters.map fun filter => "| " ++ filterText libraries filter)
  let conditions :=
    if query.conditions.isEmpty then ""
    else " | (" ++ String.intercalate " and " (query.conditions.map (filterText libraries)) ++ ")"
  "sum by (signature) (count_over_time(\x7bservice_name=\"microscope-indexer\"\x7d " ++ parser ++ " " ++
    filters ++ conditions ++ " | __error__ = \"\" [" ++ toString query.windowSeconds ++ "s]))"

def queryText (query : MetricQuery) : String :=
  "(" ++ String.intercalate " or " (query.branches.map (countText libraries)) ++ " or on() vector(0))"

end Rendering

end Microscope.Alerting
