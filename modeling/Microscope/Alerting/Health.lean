import Microscope.Rpc
import Microscope.Alerting.Query

namespace Microscope.Alerting

open Microscope.Data

/-! # Rules about the health of the deployment

Each family of rules has its members once for every channel.
-/

def rpcHealthEvaluationIntervalSeconds : Nat := 30

/-- Five times the idle checkpoint write interval. -/
def checkpointStaleAfterSeconds : Nat := 300

def healthLogWindowSeconds : Nat := 120

def streamInterruptionWindowSeconds : Nat := 900

def streamInterruptionThreshold : Nat := 5

def yellowstoneGapWindowSeconds : Nat := 600

def yellowstoneProbeWindowSeconds : Nat := 120

/-! ## Rules -/

/-- A rule before its channel, which ends its uid and its title. -/
structure HealthRule where
  uid : String
  title : String
  query : Json
  pendingSeconds : Nat
  condition : String
  noDataState : String
  severity : String
  signalName : String
  description : String

def prometheusQuery (query : String) : Json :=
  .object [
    ("refId", .string "A"),
    ("queryType", .string ""),
    ("relativeTimeRange", .object [("from", .number 600), ("to", .number 0)]),
    ("datasourceUid", .string "prometheus"),
    ("model", .object [
      ("datasource", .object [("type", .string "prometheus"), ("uid", .string "prometheus")]),
      ("editorMode", .string "code"),
      ("expr", .string query),
      ("instant", .bool true),
      ("intervalMs", .number 15000),
      ("legendFormat", .string "__auto"),
      ("maxDataPoints", .number 43200),
      ("range", .bool false),
      ("refId", .string "A")])]

def lokiQuery (query : String) (windowSeconds : Nat) : Json :=
  .object [
    ("refId", .string "A"),
    ("queryType", .string "range"),
    ("relativeTimeRange", .object [("from", .number windowSeconds), ("to", .number 0)]),
    ("datasourceUid", .string "loki"),
    ("model", .object [
      ("datasource", .object [("type", .string "loki"), ("uid", .string "loki")]),
      ("editorMode", .string "code"),
      ("expr", .string query),
      ("intervalMs", .number 1000),
      ("maxDataPoints", .number 43200),
      ("queryType", .string "range"),
      ("refId", .string "A")])]

def expressionDatasource : Json :=
  .object [("type", .string "__expr__"), ("uid", .string "__expr__")]

def ruleData (query : Json) (condition : String) : Json :=
  .array [
    query,
    .object [
      ("refId", .string "B"),
      ("queryType", .string ""),
      ("relativeTimeRange", .object [("from", .number 0), ("to", .number 0)]),
      ("datasourceUid", .string "__expr__"),
      ("model", .object [
        ("conditions", .array []),
        ("datasource", expressionDatasource),
        ("expression", .string "A"),
        ("reducer", .string "last"),
        ("refId", .string "B"),
        ("settings", .object [("mode", .string "dropNN")]),
        ("type", .string "reduce")])],
    .object [
      ("refId", .string "C"),
      ("queryType", .string ""),
      ("relativeTimeRange", .object [("from", .number 0), ("to", .number 0)]),
      ("datasourceUid", .string "__expr__"),
      ("model", .object [
        ("conditions", .array []),
        ("datasource", expressionDatasource),
        ("expression", .string condition),
        ("refId", .string "C"),
        ("type", .string "math")])]]

def notificationSettings (channel : String) : Option Json :=
  if channel = "none" then none
  else some (.object [("receiver", .string ("microscope-" ++ channel))])

/-- A rule names its receiver where it has one. -/
def withSettings (rule : Json) (channel : String) : Json :=
  match notificationSettings channel with
  | none => rule
  | some settings => rule.set "notification_settings" settings

/-- `health_rule`, of a rule and a channel. -/
def healthRule (rule : HealthRule) (channel : String) : Json :=
  let title := rule.title ++ " [" ++ channel ++ "]"
  withSettings (.object [
    ("uid", .string (rule.uid ++ channel)),
    ("title", .string title),
    ("condition", .string "C"),
    ("data", ruleData rule.query rule.condition),
    ("noDataState", .string rule.noDataState),
    ("execErrState", .string "Error"),
    ("for", .string (toString rule.pendingSeconds ++ "s")),
    ("annotations", .object [
      ("description", .string rule.description),
      ("summary", .string title)]),
    ("labels", .object [
      ("channel", .string channel),
      ("severity", .string rule.severity),
      ("signal_kind", .string "datasource"),
      ("signal_name", .string rule.signalName)]),
    ("isPaused", .bool false)]) channel

def healthChannelNames (channels : List AlertChannel) : List String :=
  if channels.isEmpty then ["none"] else channels.map AlertChannel.asStr

/-- The members of a family for every channel. -/
def healthRules (family : List HealthRule) (channels : List AlertChannel) : List Json :=
  (healthChannelNames channels).flatMap fun channel => family.map fun rule => healthRule rule channel

/-! ## Families -/

section Families

variable (libraries : Libraries) (deployment : Option String) (config : Config) (pendingSeconds : Nat)

/-- `str::trim`. -/
def trimmed (text : String) : String :=
  String.ofList (((text.toList.dropWhile libraries.isWhitespace).reverse.dropWhile
    libraries.isWhitespace).reverse)

/-- `log_stream_selector`, of the deployment that the environment names. -/
def logStreamSelector : String :=
  match deployment.map (trimmed libraries) with
  | some name =>
      if name.isEmpty then "\x7bservice_name=\"microscope-indexer\"\x7d"
      else "\x7bservice_name=\"microscope-indexer\", deployment=\"" ++ name ++ "\"\x7d"
  | none => "\x7bservice_name=\"microscope-indexer\"\x7d"

def rpcRecoveryDegradedRules : List HealthRule :=
  [{
    uid := "ms-rpc-recovery-degraded-"
    title := "RPC recovery disabled"
    query := prometheusQuery "max(microscope_rpc_recovery_degraded)"
    pendingSeconds
    condition := "$B > 0"
    noDataState := "OK"
    severity := "critical"
    signalName := "rpc_recovery_disabled"
    description :=
      "RPC recovery disabled itself and stays off until the indexer restarts; the reason label on " ++
      "microscope_rpc_recovery_degraded says whether the cause was a checkpoint failure, exhausted " ++
      "provider history, or a cursor past the confirmed head. In Yellowstone mode the stack continues " ++
      "but gaps are no longer recovered; in RPC mode nothing is indexed at all." },
   {
    uid := "ms-rpc-checkpoint-corrupt-"
    title := "RPC checkpoint recovered from corruption"
    query := prometheusQuery "microscope_rpc_checkpoint_quarantined_files"
    pendingSeconds
    condition := "$B > 0"
    noDataState := "OK"
    severity := "critical"
    signalName := "rpc_checkpoint_corrupt"
    description :=
      "A corrupt RPC checkpoint was moved aside. Recovery restarted from the configured replay window; " ++
      "backfill may be required for older activity. This resolves once the quarantined " ++
      "rpc-polling.json.corrupt-* file is deleted." }]

def datasourceDropRules : List HealthRule :=
  [{
    uid := "ms-datasource-drop-"
    title := "Datasource updates dropped"
    query := lokiQuery
      ("(sum(count_over_time(" ++ logStreamSelector libraries deployment ++
        " |~ \"Failed to send (account|transaction)\" [" ++ toString healthLogWindowSeconds ++
        "s])) or on() vector(0))")
      healthLogWindowSeconds
    pendingSeconds := min pendingSeconds (healthLogWindowSeconds / 2)
    condition := "$B > 0"
    noDataState := "OK"
    severity := "critical"
    signalName := "datasource_updates_dropped"
    description :=
      "The Yellowstone datasource discarded a monitored update because the channel it forwards into was " ++
      "full; the signature is in the log line. With RPC_URL configured the poller re-delivers it within " ++
      "the replay window, so confirm the transaction was indexed rather than treating it as lost. " ++
      "Without RPC_URL the transaction is lost and that slot needs a backfill." }]

def yellowstoneHealthRules : List HealthRule :=
  [{
    uid := "ms-yellowstone-stream-"
    title := "Yellowstone stream interrupted"
    query := lokiQuery
      ("(sum(count_over_time(" ++ logStreamSelector libraries deployment ++
        " |~ \"Stream timeout - no messages|Failed to subscribe|Geyser stream error|Stream closed\" [" ++
        toString streamInterruptionWindowSeconds ++ "s])) or on() vector(0))")
      streamInterruptionWindowSeconds
    pendingSeconds := min pendingSeconds (streamInterruptionWindowSeconds / 2)
    condition := "$B > " ++ toString streamInterruptionThreshold
    noDataState := "OK"
    severity := "error"
    signalName := "yellowstone_stream_interrupted"
    description :=
      "The Yellowstone stream closed, timed out, or could not resubscribe more than five times in " ++
      "fifteen minutes. No on-chain activity is observed while this fires, and the indexer resumes at " ++
      "the stream head, so the interrupted interval is lost unless RPC_URL is configured." },
   {
    uid := "ms-yellowstone-gap-"
    title := "Yellowstone gap unrecovered"
    query := prometheusQuery
      ("max(increase(microscope_yellowstone_disconnects_total[" ++ toString yellowstoneGapWindowSeconds ++
        "s]) and on() microscope_rpc_recovery_enabled == 0)")
    pendingSeconds
    condition := "$B > 0"
    noDataState := "OK"
    severity := "error"
    signalName := "yellowstone_gap_unrecovered"
    description :=
      "The Yellowstone stream reconnected at the provider's current head after a disconnect while RPC " ++
      "recovery is not replaying the gap, either because RPC_URL is unset or because recovery disabled " ++
      "itself (see the RPC recovery disabled alert). The transactions in the gap will never be indexed. " ++
      "microscope_yellowstone_missed_slots_total gives the size of the gap; backfill this interval." },
   {
    uid := "ms-yellowstone-unreachable-"
    title := "Yellowstone endpoint unreachable"
    query := prometheusQuery
      ("max(max_over_time(microscope_yellowstone_probe_healthy[" ++ toString yellowstoneProbeWindowSeconds ++
        "s]))")
    pendingSeconds
    condition := "$B < 1"
    noDataState := "Alerting"
    severity := "error"
    signalName := "yellowstone_endpoint_unreachable"
    description :=
      "Every probe of the Yellowstone endpoint failed, so the datasource cannot establish a stream. The " ++
      "disconnect and missed-slot counters stay flat throughout, because they only move once an " ++
      "established stream goes silent, so this is the only metric that shows a provider refusing " ++
      "connections. No data also alerts here: the probe gauge is seeded at startup, so its absence means " ++
      "the indexer is gone." }]

def logDeliveryRules : List HealthRule :=
  [{
    uid := "ms-log-delivery-stalled-"
    title := "Log delivery stalled"
    query := prometheusQuery
      ("sum(increase(microscope_transactions_total[10m])) > 0 unless " ++
        "sum(increase(loki_write_sent_entries_total[10m])) > 0")
    pendingSeconds
    condition := "$B > 0"
    noDataState := "OK"
    severity := "error"
    signalName := "log_delivery_stalled"
    description :=
      "The indexer decoded transactions but Alloy shipped no log entries. Decoded records are not " ++
      "reaching Loki, so every activity alert evaluates against an empty stream and stays silent." }]

def multisigHealthRules (windowSeconds : Nat) : List HealthRule :=
  [{
    uid := "ms-multisig-unmatched-"
    title := "Squads activity for another multisig"
    query := prometheusQuery
      ("max(increase(microscope_multisig_unmatched_state_total[" ++ toString windowSeconds ++ "s]))")
    pendingSeconds
    condition := "$B > 0"
    noDataState := "OK"
    severity := "error"
    signalName := "multisig_unmatched_state"
    description :=
      "Squads instructions decoded but referenced a different internal state account than the configured " ++
      "one, so no multisig activity was recorded for the configured vault. The multisig.state_address or " ++
      "multisig.version is wrong for this vault. Without this alert a misconfigured vault is " ++
      "indistinguishable from an idle one: both leave the multisig panels empty." }]

def DatasourceConfig.rpcPollStaleAfterSeconds (datasource : DatasourceConfig) : Nat :=
  let threshold := min (datasource.pollIntervalSeconds * 6) u64Max
  if threshold < 60 then 60 else threshold

def rpcHealthRules : List HealthRule :=
  let staleAfterSeconds := config.datasource.rpcPollStaleAfterSeconds
  let lagThresholdSlots := min (config.datasource.replayWindowSlots * 2) u64Max
  let sustainedFailureSeconds := config.alerting.rpcPollSustainedFailureSeconds
  let pollIntervalSeconds := max config.datasource.pollIntervalSeconds 1
  let failureThreshold := max ((sustainedFailureSeconds + pollIntervalSeconds - 1) / pollIntervalSeconds) 1
  [{
    uid := "ms-rpc-poll-stale-"
    title := "RPC polling stale"
    query := prometheusQuery
      "time() - (microscope_rpc_poll_last_success_unixtime or microscope_rpc_poll_started_unixtime)"
    pendingSeconds
    condition := "$B > " ++ toString staleAfterSeconds
    noDataState := "Alerting"
    severity := "error"
    signalName := "rpc_poll_stale"
    description :=
      "No RPC poll has completed successfully within " ++ toString staleAfterSeconds ++ " seconds." },
   {
    uid := "ms-rpc-poll-lag-"
    title := "RPC polling lagging"
    query := prometheusQuery "microscope_rpc_poll_lag_slots"
    pendingSeconds
    condition := "$B > " ++ toString lagThresholdSlots
    noDataState := "OK"
    severity := "warning"
    signalName := "rpc_poll_lag"
    description :=
      "RPC polling cursors trail the confirmed head by more than " ++ toString lagThresholdSlots ++
      " slots (twice the replay window). Polls are succeeding but transactions are not being decoded; " ++
      "check for unfetchable transactions or provider history gaps." },
   {
    uid := "ms-rpc-poll-failing-"
    title := "RPC polling failing"
    query := prometheusQuery
      ("increase(microscope_rpc_poll_failures_total[" ++ toString rpcPollFailureWindowSeconds ++ "s])")
    pendingSeconds
    condition := "$B >= " ++ toString failureThreshold
    noDataState := "OK"
    severity := "warning"
    signalName := "rpc_poll_failing"
    description :=
      "At least " ++ toString failureThreshold ++ " RPC polls failed in the last " ++
      toString rpcPollFailureWindowSeconds ++ " seconds, the count an unbroken outage produces in " ++
      toString sustainedFailureSeconds ++
      " seconds. Enough polls are still succeeding to keep the freshness and lag rules green, so gap " ++
      "recovery is partially dead rather than stopped; read the poll failure logs for the RPC error." },
   {
    uid := "ms-rpc-checkpoint-stale-"
    title := "RPC checkpoint stale"
    query := prometheusQuery
      ("time() - (microscope_rpc_checkpoint_last_success_unixtime or " ++
        "microscope_rpc_poll_started_unixtime)")
    pendingSeconds
    condition := "$B > " ++ toString checkpointStaleAfterSeconds
    noDataState := "Alerting"
    severity := "error"
    signalName := "rpc_checkpoint_stale"
    description :=
      "No RPC recovery checkpoint has been written within " ++ toString checkpointStaleAfterSeconds ++
      " seconds. Polling continues, but a restart would resume from a stale cursor and re-fetch or miss " ++
      "the uncheckpointed window." },
   {
    uid := "ms-rpc-quarantine-"
    title := "RPC transactions quarantined"
    query := prometheusQuery "microscope_rpc_poll_quarantined_transactions"
    pendingSeconds
    condition := "$B > 0"
    noDataState := "OK"
    severity := "error"
    signalName := "rpc_transaction_quarantined"
    description := "RPC transactions were skipped after bounded fetch or conversion failures." }]

end Families

end Microscope.Alerting
