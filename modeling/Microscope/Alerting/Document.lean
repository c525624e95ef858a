import Microscope.Alerting.Health

namespace Microscope.Alerting

open Std Microscope.Data

/-! # The provisioning document

`provisioning_document`: the rules about health and the rules of the alerts,
grouped by their intervals, with the contact points and the routes.
-/

/-- `configured_channels`, in the order of the enumeration. -/
def configuredChannels (config : Config) : List AlertChannel :=
  [.slack, .telegram, .pagerduty].filter fun channel =>
    config.alertRules.any fun alert => channel ∈ alert.channels

/-! ## Rules of alerts -/

def channelName (channel : Option AlertChannel) : String :=
  channel.elim "none" AlertChannel.asStr

section Rules

variable (libraries : Libraries) (config : Config)

/-- `serde_json::to_string`, of a value. -/
def jsonValueText : AlertConditionValue → String
  | .integer value => toString value
  | .float value => libraries.floatText value
  | .boolean value => toString value
  | .string value => libraries.quoted value

def conditionDescription (condition : AlertCondition) : Except Failure String :=
  if condition.operator = .exists then .ok (condition.field ++ " is present and non-empty")
  else
    match condition.value with
    | none => .error ["validated conditions have a value"]
    | some value =>
        .ok (condition.field ++ " " ++ condition.operator.asStr ++ " " ++ jsonValueText libraries value)

def ruleDescription (alert : AlertRule) : Except Failure String :=
  let matched := "Matched " ++ alert.kind.asStr ++ " " ++ alert.name
  if alert.conditions.isEmpty then .ok matched
  else do
    let conditions ← alert.conditions.mapM (conditionDescription libraries)
    return matched ++ " where " ++ String.intercalate (" " ++ alert.matchMode.asStr ++ " ") conditions

/-- What identifies a rule. -/
def canonicalText (alert : AlertRule) (channel : Option AlertChannel) : String :=
  String.intercalate "\x00" [config.programId, alert.kind.asStr, alert.name, alert.matchMode.asStr,
    libraries.conditionsText alert.conditions, alert.severity.asStr, channelName channel]

def digestUid (text : String) : String :=
  "ms-" ++ String.ofList ((libraries.digestText text).toList.take 32)

def logPanelId : AlertKind → Option Nat
  | .event => some 6
  | .multisig => some 8
  | .instruction => none

def ruleAnnotations (alert : AlertRule) (description : String) : Json :=
  let transactionUrl :=
    config.alerting.explorerTransactionUrl.replace "\x7bsignature\x7d" "\x7b\x7b $labels.signature \x7d\x7d"
  let annotations := Json.object [
    ("description", .string description),
    ("summary", .string ("Microscope matched " ++ alert.kind.asStr ++ " " ++ alert.name)),
    ("transaction", .string ("\x7b\x7b $labels.signature \x7d\x7d " ++ transactionUrl))]
  match logPanelId alert.kind with
  | none => annotations
  | some panelId =>
      (annotations.set "__dashboardUid__" (.string "microscope-overview")).set "__panelId__"
        (.string (toString panelId))

def grafanaRule (alert : AlertRule) (channel : Option AlertChannel) : Except Failure Json := do
  let query ← logqlQuery libraries config alert
  let description ← ruleDescription libraries alert
  return withSettings (.object [
    ("uid", .string (digestUid libraries (canonicalText libraries config alert channel))),
    ("title", .string (alert.kind.asStr ++ " " ++ alert.name ++ " [" ++ channelName channel ++ "]")),
    ("condition", .string "C"),
    ("data", ruleData
      (lokiQuery (queryText libraries query) (alert.effectiveLookback config.alerting)) "$B > 0"),
    ("noDataState", .string "OK"),
    ("execErrState", .string "OK"),
    ("for", .string "0s"),
    ("annotations", ruleAnnotations config alert description),
    ("labels", .object [
      ("channel", .string (channelName channel)),
      ("program_id", .string config.programId),
      ("severity", .string alert.severity.asStr),
      ("signal_kind", .string alert.kind.asStr),
      ("signal_name", .string alert.name)]),
    ("isPaused", .bool false)]) (channelName channel)

/-- The channels of the rules of an alert. -/
def AlertRule.ruleChannels (alert : AlertRule) : List (Option AlertChannel) :=
  if alert.channels.isEmpty then [none] else alert.channels.map some

end Rules

/-! ## Groups -/

/-- Extend the rules of an interval; the intervals are in order. -/
def extendInterval (interval : Nat) (rules : List Json) : List (Nat × List Json) → List (Nat × List Json)
  | [] => [(interval, rules)]
  | (other, others) :: rest =>
      if interval < other then (interval, rules) :: (other, others) :: rest
      else if interval = other then (other, others ++ rules) :: rest
      else (other, others) :: extendInterval interval rules rest

def ruleGroup (entry : Nat × List Json) : Json :=
  .object [
    ("orgId", .number 1),
    ("name", .string ("microscope-" ++ toString entry.1 ++ "s")),
    ("folder", .string "Microscope"),
    ("interval", .string (toString entry.1 ++ "s")),
    ("rules", .array entry.2)]

/-! ## Contact points and routes -/

def noopContactPoint : Json :=
  .object [
    ("orgId", .number 1),
    ("name", .string "microscope-noop"),
    ("receivers", .array [.object [
      ("uid", .string "microscope-noop"),
      ("type", .string "webhook"),
      ("settings", .object [("url", .string "http://127.0.0.1:9")]),
      ("disableResolveMessage", .bool true)]])]

def channelSettings : AlertChannel → Json
  | .slack => .object [("url", .string "$SLACK_WEBHOOK_URL")]
  | .telegram => .object [
      ("bottoken", .string "$TELEGRAM_BOT_TOKEN"),
      ("chatid", .string "$TELEGRAM_CHAT_ID")]
  | .pagerduty => .object [
      ("integrationKey", .string "$PAGERDUTY_INTEGRATION_KEY"),
      ("severity", .string "\x7b\x7b .CommonLabels.severity \x7d\x7d")]

def contactPoint (channel : AlertChannel) : Json :=
  .object [
    ("orgId", .number 1),
    ("name", .string ("microscope-" ++ channel.asStr)),
    ("receivers", .array [.object [
      ("uid", .string ("microscope-" ++ channel.asStr)),
      ("type", .string channel.asStr),
      ("settings", channelSettings channel),
      ("disableResolveMessage", .bool false)]])]

def noopRoute : Json :=
  .object [
    ("receiver", .string "microscope-noop"),
    ("object_matchers", .array [.ofStrings ["channel", "=", "none"]]),
    ("mute_time_intervals", .ofStrings ["microscope-always"]),
    ("continue", .bool false)]

def channelRoute (channel : AlertChannel) : Json :=
  .object [
    ("receiver", .string ("microscope-" ++ channel.asStr)),
    ("object_matchers", .array [.ofStrings ["channel", "=", channel.asStr]]),
    ("continue", .bool false)]

def muteTimes : Json :=
  .array [.object [
    ("orgId", .number 1),
    ("name", .string "microscope-always"),
    ("time_intervals", .array [.object [
      ("location", .string "UTC"),
      ("times", .array [.object [
        ("start_time", .string "00:00"),
        ("end_time", .string "24:00")]])]])]]

def policies (channels : List AlertChannel) : Json :=
  .array [.object [
    ("orgId", .number 1),
    ("receiver", .string "microscope-noop"),
    ("group_by", .ofStrings ["alertname", "channel"]),
    ("group_wait", .string "5s"),
    ("group_interval", .string "1m"),
    ("repeat_interval", .string "4h"),
    ("routes", .array (noopRoute :: channels.map channelRoute))]]

/-! ## Document -/

section Provisioning

variable (libraries : Libraries) (deployment : Option String) (config : Config)
  (channels : List AlertChannel) (rpcPolling : Bool)

/-- The families of health rules that the deployment has. -/
def healthFamilies : List (List HealthRule) :=
  let pendingSeconds := config.alerting.healthPendingPeriodSeconds
  [rpcRecoveryDegradedRules pendingSeconds, datasourceDropRules libraries deployment pendingSeconds] ++
    (if config.datasource.mode = .yellowstone then
      [yellowstoneHealthRules libraries deployment pendingSeconds] else []) ++
    [logDeliveryRules pendingSeconds] ++
    (if config.multisig.isSome then
      [multisigHealthRules pendingSeconds config.alerting.multisigUnmatchedWindowSeconds] else []) ++
    if rpcPolling then [rpcHealthRules config pendingSeconds] else []

/-- The rules of all alerts, by interval. -/
def addAlertRules (alerts : List AlertRule) (rules : List (Nat × List Json)) :
    Except Failure (List (Nat × List Json)) :=
  alerts.foldlM (fun rules alert => do
    let added ← alert.ruleChannels.mapM (grafanaRule libraries config alert)
    return extendInterval (alert.effectiveInterval config.alerting) added rules) rules

def provisioningDocument : Except Failure Json := do
  let health := (healthFamilies libraries deployment config rpcPolling).flatMap fun family =>
    healthRules family channels
  let rulesByInterval ← addAlertRules libraries config config.alertRules
    (extendInterval rpcHealthEvaluationIntervalSeconds health [])
  return .object [
    ("apiVersion", .number 1),
    ("groups", .array (rulesByInterval.map ruleGroup)),
    ("contactPoints", .array (noopContactPoint :: channels.map contactPoint)),
    ("muteTimes", muteTimes),
    ("policies", policies channels)]

end Provisioning

/-! ## Uids -/

def resourceUids (resources : List Json) : List String :=
  resources.filterMap fun resource => (resource.field "uid").toText

/-- The rules of all groups of a document. -/
def documentRules (document : Json) : List Json :=
  (document.field "groups").elements.flatMap fun group => (group.field "rules").elements

def documentReceivers (document : Json) : List Json :=
  (document.field "contactPoints").elements.flatMap fun contactPoint => (contactPoint.field "receivers").elements

def ruleUids (document : Json) : ExtTreeSet String :=
  ExtTreeSet.ofList (resourceUids (documentRules document))

def contactPointUids (document : Json) : ExtTreeSet String :=
  ExtTreeSet.ofList (resourceUids (documentReceivers document))

def deletionUids (document : Json) (field : String) : ExtTreeSet String :=
  ExtTreeSet.ofList (resourceUids (document.field field).elements)

end Microscope.Alerting
