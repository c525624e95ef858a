import Microscope.Data.Checks
import Microscope.Signals.Emission

namespace Microscope.Alerting

open Std Microscope.Data Microscope.Signals

/-! # The configuration

`Config` as far as the alerts depend on it, and its validation.  An error is
the list of its contexts and its cause, outermost first.
-/

abbrev Failure := List String

/-- `with_context`. -/
def withContext {α : Type} (context : String) : Except Failure α → Except Failure α
  | .error chain => .error (context :: chain)
  | .ok value => .ok value

/-- `bail!` under a condition. -/
def bailIf (condition : Prop) [Decidable condition] (message : String) : Except Failure Unit :=
  if condition then .error [message] else .ok ()

/-! ## Values -/

inductive AlertKind where
  | event
  | instruction
  | multisig
deriving DecidableEq, Repr

def AlertKind.asStr : AlertKind → String
  | .event => "event"
  | .instruction => "instruction"
  | .multisig => "multisig"

inductive AlertSeverity where
  | critical
  | error
  | warning
  | info
deriving DecidableEq, Repr

def AlertSeverity.asStr : AlertSeverity → String
  | .critical => "critical"
  | .error => "error"
  | .warning => "warning"
  | .info => "info"

inductive AlertChannel where
  | slack
  | telegram
  | pagerduty
deriving DecidableEq, Repr

def AlertChannel.asStr : AlertChannel → String
  | .slack => "slack"
  | .telegram => "telegram"
  | .pagerduty => "pagerduty"

inductive AlertMatch where
  | all
  | any
deriving DecidableEq, Repr

def AlertMatch.asStr : AlertMatch → String
  | .all => "all"
  | .any => "any"

inductive AlertConditionOperator where
  | exists
  | contains
  | eq
  | ne
  | gt
  | gte
  | lt
  | lte
deriving DecidableEq, Repr

def AlertConditionOperator.asStr : AlertConditionOperator → String
  | .exists => "exists"
  | .contains => "contains"
  | .eq => "eq"
  | .ne => "ne"
  | .gt => "gt"
  | .gte => "gte"
  | .lt => "lt"
  | .lte => "lte"

/-- An `f64` by its bits. -/
structure F64 where
  bits : BitVec 64
deriving DecidableEq, Repr

namespace F64

variable (number : F64)

def exponent : Nat := (number.bits.extractLsb' 52 11).toNat

def fraction : Nat := (number.bits.extractLsb' 0 52).toNat

def isFinite : Bool := number.exponent ≠ 2047

/-- The number that a finite float is. -/
def value : ℚ :=
  let magnitude : ℚ :=
    if number.exponent = 0 then (number.fraction : ℚ) / 2 ^ 1074
    else (2 ^ 52 + number.fraction : ℚ) * 2 ^ number.exponent / 2 ^ 1075
  if number.bits.msb then -magnitude else magnitude

end F64

inductive AlertConditionValue where
  | integer (value : Int)
  | float (value : F64)
  | boolean (value : Bool)
  | string (value : String)
deriving DecidableEq, Repr

structure AlertCondition where
  field : String
  operator : AlertConditionOperator
  value : Option AlertConditionValue
deriving DecidableEq, Repr

structure AlertRule where
  kind : AlertKind
  name : String
  matchMode : AlertMatch
  conditions : List AlertCondition
  severity : AlertSeverity
  channels : List AlertChannel
  lookbackWindowSeconds : Option Nat
  evaluationIntervalSeconds : Option Nat
deriving DecidableEq, Repr

structure AlertingConfig where
  lookbackWindowSeconds : Nat := 60
  evaluationIntervalSeconds : Nat := 10
  explorerTransactionUrl : String := "https://explorer.solana.com/tx/\x7bsignature\x7d"
  rpcPollSustainedFailureSeconds : Nat := 45
  healthPendingPeriodSeconds : Nat := 300
  multisigUnmatchedWindowSeconds : Nat := 3600

structure DashboardConfig where
  eventFields : List String := ["name", "source", "signature", "slot", "failed"]
  multisigFields : List String := ["action", "squads_version", "instruction", "signature", "slot", "failed"]

inductive MultisigVersion where
  | v3
  | v4
  | v5
deriving DecidableEq, Repr

structure MultisigConfig where
  vaultAddress : String
  stateAddress : String
  version : MultisigVersion

inductive DatasourceMode where
  | yellowstone
  | rpc
deriving DecidableEq, Repr

structure DatasourceConfig where
  mode : DatasourceMode := .yellowstone
  pollIntervalSeconds : Nat := 5
  replayWindowSlots : Nat := 600

structure Config where
  programId : String
  multisig : Option MultisigConfig
  datasource : DatasourceConfig := {}
  alerting : AlertingConfig := {}
  dashboard : DashboardConfig := {}
  alertRules : List AlertRule := []

/-- What the IDL path of the configuration leads to. -/
inductive IdlFile where
  | missing
  | unreadable (error : String)
  | unparsable (error : String)
  | parsed (idl : Json)

/-- The libraries that validation and generation call. -/
structure Libraries where
  tables : CaseTables
  isWhitespace : Char → Bool
  /-- `Pubkey::from_str`. -/
  parsePubkey : String → Except String Unit
  /-- The `Debug` text of a string. -/
  debugText : String → String
  /-- `serde_json::to_string`. -/
  quoted : String → String
  floatText : F64 → String
  conditionsText : List AlertCondition → String
  /-- `Sha256::digest`, in lower case hexadecimal digits. -/
  digestText : String → String

/-! ## Validation -/

def grafanaSchedulerIntervalSeconds : Nat := 10

def minRpcPollIntervalSeconds : Nat := 1

def maxRpcPollIntervalSeconds : Nat := 300

def minRpcReplayWindowSlots : Nat := 1

def maxRpcReplayWindowSlots : Nat := 100000

def rpcPollFailureWindowSeconds : Nat := 900

def maxExactLokiInteger : Nat := 1 <<< 53

section Validation

variable (libraries : Libraries)

def validSegment : List Char → Bool
  | [] => false
  | first :: rest =>
      (first == '_' || first.isAlpha) && rest.all fun character => character == '_' || character.isAlphanum

def validateFieldPath (field : String) : Except Failure Unit :=
  if field.isEmpty || (field.toList.splitOnP (· == '.')).any (!validSegment ·) then
    .error ["field " ++ libraries.debugText field ++
      " must be a dot-separated JSON path containing letters, numbers, and underscores"]
  else .ok ()

/-- The check of an integer value. -/
def validateInteger : Option AlertConditionValue → Except Failure Unit
  | some (.integer value) =>
      if value.natAbs > maxExactLokiInteger then
        .error ["integer condition value " ++ toString value ++ " exceeds " ++
          toString maxExactLokiInteger ++ "; Loki compares numbers as float64, so larger values match " ++
          "neighbouring integers. Quote the value to compare it as an exact string instead"]
      else .ok ()
  | _ => .ok ()

def requiresFinite (operator : AlertConditionOperator) : Failure :=
  ["operator " ++ operator.asStr ++ " requires a finite numeric value"]

def validateOperator : AlertConditionOperator → Option AlertConditionValue → Except Failure Unit
  | .exists, none => .ok ()
  | .exists, some _ => .error ["operator exists does not accept a value"]
  | operator, none => .error ["operator " ++ operator.asStr ++ " requires a value"]
  | .contains, some (.string value) =>
      if value.isEmpty then .error ["operator contains requires a non-empty string value"] else .ok ()
  | .contains, some _ => .error ["operator contains requires a string value"]
  | .eq, some (.float value) => if value.isFinite then .ok () else .error (requiresFinite .eq)
  | .ne, some (.float value) => if value.isFinite then .ok () else .error (requiresFinite .ne)
  | .eq, some _ => .ok ()
  | .ne, some _ => .ok ()
  | _, some (.integer _) => .ok ()
  | operator, some (.float value) =>
      if value.isFinite then .ok () else .error (requiresFinite operator)
  | operator, some _ => .error (requiresFinite operator)

def AlertCondition.validate (condition : AlertCondition) : Except Failure Unit := do
  validateFieldPath libraries condition.field
  validateInteger condition.value
  validateOperator condition.operator condition.value

def validateTiming (lookbackWindowSeconds evaluationIntervalSeconds : Nat) : Except Failure Unit :=
  if lookbackWindowSeconds = 0 then
    .error ["lookback_window_seconds must be greater than zero"]
  else if evaluationIntervalSeconds = 0 then
    .error ["evaluation_interval_seconds must be greater than zero"]
  else if evaluationIntervalSeconds % grafanaSchedulerIntervalSeconds ≠ 0 then
    .error ["evaluation_interval_seconds must be a multiple of the Grafana scheduler interval (" ++
      toString grafanaSchedulerIntervalSeconds ++ " seconds)"]
  else if lookbackWindowSeconds < evaluationIntervalSeconds then
    .error ["lookback_window_seconds must be greater than or equal to evaluation_interval_seconds"]
  else .ok ()

/-- The first element that occurs again, of those not yet seen. -/
def firstDuplicate {α : Type} [DecidableEq α] (seen : List α) : List α → Option α
  | [] => none
  | element :: rest => if element ∈ seen then some element else firstDuplicate (element :: seen) rest

def AlertRule.effectiveLookback (alert : AlertRule) (defaults : AlertingConfig) : Nat :=
  alert.lookbackWindowSeconds.getD defaults.lookbackWindowSeconds

def AlertRule.effectiveInterval (alert : AlertRule) (defaults : AlertingConfig) : Nat :=
  alert.evaluationIntervalSeconds.getD defaults.evaluationIntervalSeconds

def validateConditions (kind : AlertKind) (conditions : List AlertCondition) : Except Failure Unit :=
  conditions.zipIdx.forM fun (condition, index) => do
    withContext ("invalid condition at index " ++ toString index) (condition.validate libraries)
    bailIf (kind = .multisig ∧ condition.field = "failed")
      ("condition at index " ++ toString index ++ " is redundant or unsatisfiable: multisig " ++
        "alerts already match successful activity only")

def validateChannels (channels : List AlertChannel) : Except Failure Unit :=
  match firstDuplicate [] channels with
  | some channel => .error ["duplicate channel " ++ channel.asStr]
  | none => .ok ()

def AlertRule.validate (alert : AlertRule) (defaults : AlertingConfig) : Except Failure Unit := do
  bailIf (alert.name.toList.all libraries.isWhitespace) "name must not be empty"
  validateChannels alert.channels
  validateConditions libraries alert.kind alert.conditions
  validateTiming (alert.effectiveLookback defaults) (alert.effectiveInterval defaults)

def validateDashboardFields (name : String) (fields : List String) : Except Failure Unit := do
  bailIf fields.isEmpty ("dashboard." ++ name ++ " must contain at least one field")
  fields.zipIdx.forM fun (field, index) => do
    withContext ("invalid dashboard " ++ name ++ " field") (validateFieldPath libraries field)
    bailIf (field ∈ fields.take index) ("duplicate dashboard " ++ name ++ " field " ++ field)

end Validation

/-! ## Signals -/

/-- `multisig::action_names`. -/
def actionNames : MultisigVersion → List String
  | .v3 => ["member_added", "member_removed", "multisig_created", "proposal_activated",
      "proposal_approved", "proposal_cancelled", "proposal_rejected", "threshold_changed",
      "transaction_created", "transaction_executed", "transaction_instruction_added",
      "transaction_instruction_executed", "vault_authority_added"]
  | .v4 => ["batch_closed", "batch_created", "batch_transaction_added", "batch_transaction_closed",
      "batch_transaction_executed", "configuration_authority_changed",
      "configuration_transaction_closed", "configuration_transaction_created",
      "configuration_transaction_executed", "member_added", "member_removed", "multisig_created",
      "program_configuration_authority_changed", "program_configuration_initialized",
      "program_multisig_creation_fee_changed", "program_treasury_changed", "proposal_activated",
      "proposal_approved", "proposal_cancelled", "proposal_created", "proposal_rejected",
      "rent_collector_changed", "spending_limit_added", "spending_limit_removed",
      "spending_limit_used", "threshold_changed", "time_lock_changed", "transaction_buffer_closed",
      "transaction_buffer_created", "transaction_buffer_extended", "transaction_closed",
      "transaction_created", "transaction_executed"]
  | .v5 => ["archival_authority_changed", "batch_closed", "batch_created",
      "batch_transaction_added", "batch_transaction_closed", "batch_transaction_executed",
      "empty_policy_transaction_closed", "event_logged", "member_added", "member_removed",
      "multisig_created", "policy_created", "policy_removed", "policy_updated",
      "program_configuration_authority_changed", "program_configuration_initialized",
      "program_smart_account_creation_fee_changed", "program_treasury_changed",
      "proposal_activated", "proposal_approved", "proposal_cancelled", "proposal_created",
      "proposal_rejected", "settings_authority_changed", "settings_transaction_closed",
      "settings_transaction_created", "settings_transaction_executed", "spending_limit_added",
      "spending_limit_removed", "spending_limit_used", "threshold_changed", "time_lock_changed",
      "transaction_buffer_closed", "transaction_buffer_created", "transaction_buffer_extended",
      "transaction_closed", "transaction_created", "transaction_executed"]

/-- `IdlSignalNames::read`, of the file at the resolved path. -/
def readSignalNames (libraries : Libraries) (idlPath : String) : IdlFile → Except Failure IdlSignalNames
  | .missing => .error ["reading IDL file " ++ idlPath]
  | .unreadable error => .error ["reading IDL file " ++ idlPath, error]
  | .unparsable error => .error ["parsing IDL file " ++ idlPath, error]
  | .parsed idl => .ok (IdlSignalNames.read libraries.tables idl)

section Configuration

variable (libraries : Libraries) (idlPath : String) (idlFile : IdlFile) (config : Config)

def parseAddress (context address : String) : Except Failure Unit :=
  match libraries.parsePubkey address with
  | .error error => .error [context ++ " " ++ address, error]
  | .ok _ => .ok ()

def knownNames (kind : AlertKind) (multisig : Option MultisigConfig) : Except Failure (List String) :=
  match kind with
  | .event => do return (← readSignalNames libraries idlPath idlFile).events.toList
  | .instruction => do return (← readSignalNames libraries idlPath idlFile).instructions.toList
  | .multisig => .ok (multisig.elim [] fun multisig => actionNames multisig.version)

def validateAlert (index : Nat) (alert : AlertRule) : Except Failure Unit := do
  bailIf (alert.kind = .multisig ∧ config.multisig.isNone) ("alerts entry at index " ++
    toString index ++ " has kind multisig but no [multisig] section is configured")
  withContext ("invalid alerts entry at index " ++ toString index)
    (alert.validate libraries config.alerting)
  let known ← knownNames libraries idlPath idlFile alert.kind config.multisig
  bailIf (alert.name ∉ known) ("alerts entry at index " ++ toString index ++ " names an unknown " ++
    alert.kind.asStr ++ " signal " ++ libraries.debugText alert.name ++
    "; this deployment emits " ++ String.intercalate ", " known)

def validateMultisig : Option MultisigConfig → Except Failure Unit
  | none => .ok ()
  | some multisig => do
      parseAddress libraries "invalid multisig.vault_address" multisig.vaultAddress
      parseAddress libraries "invalid multisig.state_address" multisig.stateAddress

def validateRanges : Except Failure Unit := do
  bailIf (config.datasource.pollIntervalSeconds < minRpcPollIntervalSeconds ∨
      maxRpcPollIntervalSeconds < config.datasource.pollIntervalSeconds)
    ("datasource.poll_interval_seconds must be between " ++ toString minRpcPollIntervalSeconds ++
      " and " ++ toString maxRpcPollIntervalSeconds)
  bailIf (config.datasource.replayWindowSlots < minRpcReplayWindowSlots ∨
      maxRpcReplayWindowSlots < config.datasource.replayWindowSlots)
    ("datasource.replay_window_slots must be between " ++ toString minRpcReplayWindowSlots ++
      " and " ++ toString maxRpcReplayWindowSlots)
  withContext "invalid alerting defaults"
    (validateTiming config.alerting.lookbackWindowSeconds config.alerting.evaluationIntervalSeconds)
  bailIf (config.alerting.rpcPollSustainedFailureSeconds < 1 ∨
      rpcPollFailureWindowSeconds < config.alerting.rpcPollSustainedFailureSeconds)
    ("alerting.rpc_poll_sustained_failure_seconds must be between 1 and " ++
      toString rpcPollFailureWindowSeconds ++ ", the window the rule counts failures over")
  bailIf (config.alerting.healthPendingPeriodSeconds = 0)
    "alerting.health_pending_period_seconds must be greater than zero"
  bailIf (config.alerting.multisigUnmatchedWindowSeconds = 0)
    "alerting.multisig_unmatched_window_seconds must be greater than zero"

def IdlFile.isFile : IdlFile → Bool
  | .missing => false
  | _ => true

def Config.validate : Except Failure Unit := do
  parseAddress libraries "invalid program_id" config.programId
  validateMultisig libraries config.multisig
  bailIf (¬idlFile.isFile) ("IDL file " ++ idlPath ++ " does not exist")
  validateRanges config
  validateDashboardFields libraries "event_fields" config.dashboard.eventFields
  validateDashboardFields libraries "multisig_fields" config.dashboard.multisigFields
  config.alertRules.zipIdx.forM fun (alert, index) =>
    validateAlert libraries idlPath idlFile config index alert

end Configuration

/-! ## What validation ensures -/

section Accepted

variable {libraries : Libraries} {idlPath : String} {idlFile : IdlFile} {config : Config}
  {alert : AlertRule} {condition : AlertCondition}

theorem withContext_accepts {α : Type} {context : String} {result : Except Failure α} {value : α} :
    withContext context result = .ok value ↔ result = .ok value := by
  cases result <;> simp [withContext]

theorem bailIf_accepts {bad : Prop} [Decidable bad] {message : String} {result : Unit} :
    bailIf bad message = .ok result ↔ ¬bad := by
  by_cases holds : bad <;> simp [bailIf, holds]

/-- An accepted alert is valid and names a signal that is known. -/
theorem accepted_alert (accepted : config.validate libraries idlPath idlFile = .ok ())
    (listed : alert ∈ config.alertRules) :
    alert.validate libraries config.alerting = .ok () ∧
      (alert.kind = .multisig → config.multisig.isSome = true) ∧
      ∃ known, knownNames libraries idlPath idlFile alert.kind config.multisig = .ok known ∧
        alert.name ∈ known := by
  simp only [Config.validate, bind_accepts] at accepted
  obtain ⟨_, _, _, _, _, _, _, _, _, _, _, _, alerts⟩ := accepted
  obtain ⟨index, found⟩ := List.mem_iff_getElem?.mp listed
  have checked := forM_accepts.mp alerts (alert, index) (List.mk_mem_zipIdx_iff_getElem?.mpr found)
  simp only [validateAlert, bind_accepts, withContext_accepts, bailIf_accepts] at checked
  obtain ⟨_, configured, _, valid, known, names, member⟩ := checked
  refine ⟨valid, fun multisig => ?_, known, names, not_not.mp member⟩
  rw [multisig] at configured
  exact Option.isSome_iff_ne_none.mpr fun absent => configured ⟨rfl, Option.isNone_iff_eq_none.mpr absent⟩

theorem accepted_conditions {defaults : AlertingConfig}
    (valid : alert.validate libraries defaults = .ok ()) (listed : condition ∈ alert.conditions) :
    condition.validate libraries = .ok () ∧ ¬(alert.kind = .multisig ∧ condition.field = "failed") := by
  simp only [AlertRule.validate, bind_accepts] at valid
  obtain ⟨_, _, _, _, _, conditions, _⟩ := valid
  obtain ⟨index, found⟩ := List.mem_iff_getElem?.mp listed
  have checked := forM_accepts.mp conditions (condition, index) (List.mk_mem_zipIdx_iff_getElem?.mpr found)
  simp only [bind_accepts, withContext_accepts, bailIf_accepts] at checked
  obtain ⟨_, valid, apart⟩ := checked
  exact ⟨valid, apart⟩

theorem accepted_channels {defaults : AlertingConfig}
    (valid : alert.validate libraries defaults = .ok ()) : alert.channels.Nodup := by
  simp only [AlertRule.validate, bind_accepts] at valid
  obtain ⟨_, _, _, channels, _⟩ := valid
  have unrepeated : firstDuplicate [] alert.channels = none := by
    unfold validateChannels at channels
    split at channels
    · contradiction
    · assumption
  have distinct : ∀ {seen rest : List AlertChannel}, firstDuplicate seen rest = none →
      rest.Nodup ∧ ∀ channel ∈ rest, channel ∉ seen := by
    intro seen rest
    induction rest generalizing seen with
    | nil => simp
    | cons channel rest ih =>
        intro absent
        rw [firstDuplicate] at absent
        split at absent
        · contradiction
        · rename_i fresh
          obtain ⟨nodup, apart⟩ := ih absent
          refine ⟨List.nodup_cons.mpr ⟨fun member => apart channel member List.mem_cons_self, nodup⟩, ?_⟩
          rw [List.forall_mem_cons]
          exact ⟨fresh, fun other member => fun seen => apart other member (List.mem_cons_of_mem _ seen)⟩
  exact (distinct unrepeated).1

theorem accepted_condition (valid : condition.validate libraries = .ok ()) :
    validateFieldPath libraries condition.field = .ok () ∧
      validateInteger condition.value = .ok () ∧
      validateOperator condition.operator condition.value = .ok () := by
  simp only [AlertCondition.validate, bind_accepts] at valid
  obtain ⟨_, field, _, integer, operator⟩ := valid
  exact ⟨field, integer, operator⟩

theorem accepted_integer {value : Int} (valid : condition.validate libraries = .ok ())
    (valued : condition.value = some (.integer value)) : value.natAbs ≤ 2 ^ 53 := by
  obtain ⟨_, integer, _⟩ := accepted_condition valid
  rw [valued] at integer
  simp only [validateInteger] at integer
  split at integer
  · contradiction
  · rename_i small
    exact Nat.le_of_not_lt small

end Accepted

/-! ## Sample libraries

Texts of strings without escapes and of conditions without floats, and the
digests of the listed texts.
-/

def quotedText (text : String) : String := "\"" ++ text ++ "\""

def valueText : Option AlertConditionValue → String
  | none => "null"
  | some (.integer value) => toString value
  | some (.float _) => "0.5"
  | some (.boolean value) => toString value
  | some (.string value) => quotedText value

def conditionText (condition : AlertCondition) : String :=
  "\x7b\"field\":" ++ quotedText condition.field ++ ",\"operator\":" ++
    quotedText condition.operator.asStr ++ ",\"value\":" ++ valueText condition.value ++ "\x7d"

def base58 : List Char := "123456789ABCDEFGHJKLMNPQRSTUVWXYZabcdefghijkmnopqrstuvwxyz".toList

def sampleLibraries (digests : List (String × String)) : Libraries where
  tables := asciiTables
  isWhitespace := Char.isWhitespace
  parsePubkey address :=
    if address.length = 32 ∧ address.toList.all (base58.contains ·) then .ok ()
    else .error "Invalid Base58 string"
  debugText := quotedText
  quoted := quotedText
  floatText _ := "0.5"
  conditionsText conditions := "[" ++ String.intercalate "," (conditions.map conditionText) ++ "]"
  digestText text := (digests.lookup text).getD "e3b0c44298fc1c149afbf4c8996fb92427ae41e4649b934ca495991b7852b855"

end Microscope.Alerting
