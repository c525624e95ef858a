import Microscope.Data.Lines
import Microscope.Alerting.Query

namespace Microscope.Alerting

open Microscope.Data Microscope.Logql

/-! # What an alert means

An alert matches the signatures of the records of its signal that satisfy its
conditions.  Its query counts exactly these.
-/

section Meaning

/-- How Loki reads a label as a number, and the label of a nested value. -/
structure Reading where
  number : String → Option ℚ
  nestedText : Json → String

variable (reading : Reading)

/-- The value at a dotted path, null where there is none. -/
def valueAt (record : Json) (path : String) : Json :=
  (path.toList.splitOnP (· == '.')).foldl (fun value name => value.field (String.ofList name)) record

def labelText : Json → String
  | .null => ""
  | .bool value => toString value
  | .number value => toString value
  | .otherNumber text => text
  | .string value => value
  | nested => reading.nestedText nested

/-- The text of a field; a missing, null or empty field has the empty one. -/
def fieldText (record : Json) (path : String) : String := labelText reading (valueAt record path)

/-- The relation of an operator to a numeric value. -/
def Compares (operator : AlertConditionOperator) (field threshold : ℚ) : Prop :=
  match operator with
  | .eq => field = threshold
  | .ne => field ≠ threshold
  | .gt => threshold < field
  | .gte => threshold ≤ field
  | .lt => field < threshold
  | .lte => field ≤ threshold
  | .exists | .contains => False

/-- The text is a number that the operator relates to the threshold. -/
def ComparesText (operator : AlertConditionOperator) (text : String) (threshold : ℚ) : Prop :=
  text ≠ "" ∧ ∃ field, reading.number text = some field ∧ Compares operator field threshold

/-- The text of a string or boolean is the field's, or the field is present and
has another. -/
def EqualsText (operator : AlertConditionOperator) (text value : String) : Prop :=
  match operator with
  | .eq => text = value
  | .ne => text ≠ "" ∧ text ≠ value
  | .contains => value.toList <:+: text.toList
  | _ => False

/-- The condition holds of a field with this text. -/
def AlertCondition.Holds (condition : AlertCondition) (text : String) : Prop :=
  match condition.value with
  | none => condition.operator = .exists ∧ text ≠ ""
  | some (.integer value) => ComparesText reading condition.operator text value
  | some (.float value) => ComparesText reading condition.operator text value.value
  | some (.boolean value) => EqualsText condition.operator text (toString value)
  | some (.string value) => EqualsText condition.operator text value

/-- The record reports the signal of the alert, within its scope. -/
def Reports (config : Config) (alert : AlertRule) (record : Json) : Prop :=
  match alert.kind with
  | .event => fieldText reading record "kind" = "program_event" ∧
      fieldText reading record "name" = alert.name ∧
      fieldText reading record "program_id" = config.programId
  | .instruction => fieldText reading record "kind" = "program_instruction" ∧
      fieldText reading record "name" = alert.name ∧
      fieldText reading record "program_id" = config.programId
  | .multisig => fieldText reading record "kind" = "multisig_activity" ∧
      fieldText reading record "action" = alert.name ∧
      (∃ multisig, config.multisig = some multisig ∧
        fieldText reading record "vault_address" = multisig.vaultAddress) ∧
      fieldText reading record "failed" = "false"

def AlertRule.Satisfied (alert : AlertRule) (record : Json) : Prop :=
  match alert.matchMode with
  | .all => ∀ condition ∈ alert.conditions, condition.Holds reading (fieldText reading record condition.field)
  | .any => alert.conditions = [] ∨
      ∃ condition ∈ alert.conditions, condition.Holds reading (fieldText reading record condition.field)

end Meaning

section Correctness

variable {libraries : Libraries} {idlPath : String} {idlFile : IdlFile} {config : Config}
  {alert : AlertRule} {condition : AlertCondition} {label : String} {labels : String → String}
  {reading : Reading} {record : Json} {scope : SignalScope}

theorem comparison_holds {operator : AlertConditionOperator} {comparison : Comparison} {field threshold : ℚ}
    (rendered : logqlOperator operator = .ok comparison) :
    comparison.holds field threshold = true ↔ Compares operator field threshold := by
  cases operator <;> cases rendered <;> simp [Comparison.holds, Compares]

theorem numeric_accepts {operator : AlertConditionOperator} {comparison : Comparison} {text : String}
    {threshold : ℚ} (rendered : logqlOperator operator = .ok comparison) :
    (LabelFilter.compare label comparison (.number text threshold)).Accepts reading.number labels ↔
      ComparesText reading operator (labels label) threshold := by
  simp only [LabelFilter.Accepts, ComparesText, comparison_holds rendered]

/-- The filters of a valid condition accept the labels under which it holds. -/
theorem conditionFilter_accepts (label : String) (valid : condition.validate libraries = .ok ()) :
    ∃ filters, conditionFilter libraries condition label = .ok filters ∧
      ∀ (reading : Reading) (labels : String → String),
        (∀ filter ∈ filters, filter.Accepts reading.number labels) ↔
          condition.Holds reading (labels label) := by
  obtain ⟨_, _, checked⟩ := accepted_condition valid
  obtain ⟨field, operator, value⟩ := condition
  cases value with
  | none =>
      cases operator with
      | «exists» => exact ⟨_, rfl, by simp [LabelFilter.Accepts, AlertCondition.Holds]⟩
      | _ => contradiction
  | some value =>
      cases value with
      | integer threshold =>
          cases operator with
          | «exists» | contains => contradiction
          | _ => exact ⟨_, rfl, fun reading labels => by
              simpa [AlertCondition.Holds, logqlValue] using numeric_accepts rfl⟩
      | float threshold =>
          cases operator with
          | «exists» | contains => contradiction
          | _ => exact ⟨_, rfl, fun reading labels => by
              simpa [AlertCondition.Holds, logqlValue] using numeric_accepts rfl⟩
      | boolean expected =>
          cases operator with
          | eq | ne =>
              exact ⟨_, rfl, by simp [LabelFilter.Accepts, AlertCondition.Holds, EqualsText, logqlValue]⟩
          | _ => contradiction
      | string expected =>
          cases operator with
          | eq | ne =>
              exact ⟨_, rfl, by simp [LabelFilter.Accepts, AlertCondition.Holds, EqualsText, logqlValue]⟩
          | contains =>
              exact ⟨_, rfl, by
                simp [LabelFilter.Accepts, AlertCondition.Holds, EqualsText, matchesPattern_contains]⟩
          | _ => contradiction

theorem conditionLabel_injective {first second : Nat} (same : conditionLabel first = conditionLabel second) :
    first = second := by
  have lists := congrArg String.toList same
  simp only [conditionLabel, String.toList_append] at lists
  exact toString_injective (String.toList_inj.mp (List.append_cancel_left lists))

theorem mapM_exists {α β : Type} {elements : List α} {check : α → Except Failure β} {relation : α → β → Prop}
    (accepts : ∀ element ∈ elements, ∃ result, check element = .ok result ∧ relation element result) :
    ∃ results, elements.mapM check = .ok results ∧ List.Forall₂ relation elements results := by
  induction elements with
  | nil => exact ⟨[], rfl, .nil⟩
  | cons element rest ih =>
      obtain ⟨result, first, related⟩ := accepts element List.mem_cons_self
      obtain ⟨results, others, all⟩ := ih fun other member => accepts other (List.mem_cons_of_mem _ member)
      refine ⟨result :: results, ?_, .cons related all⟩
      rw [List.mapM_cons, first, others]
      rfl

theorem forall_flatten_iff {α β : Type} {elements : List α} {results : List (List β)} {holds : α → Prop}
    {accepts : β → Prop}
    (related : List.Forall₂ (fun element group => (∀ result ∈ group, accepts result) ↔ holds element)
      elements results) :
    (∀ result ∈ results.flatten, accepts result) ↔ ∀ element ∈ elements, holds element := by
  induction related with
  | nil => simp
  | cons first _ ih => rw [List.flatten_cons, List.forall_mem_append, List.forall_mem_cons, first, ih]

theorem exists_iff_of_forall₂ {α β : Type} {elements : List α} {results : List β} {relation : α → β → Prop}
    {holds : α → Prop} {accepts : β → Prop} (related : List.Forall₂ relation elements results)
    (same : ∀ element result, relation element result → (holds element ↔ accepts result)) :
    (∃ result ∈ results, accepts result) ↔ ∃ element ∈ elements, holds element := by
  induction related with
  | nil => simp
  | cons first _ ih => rw [List.exists_mem_cons_iff, List.exists_mem_cons_iff, ← same _ _ first, ih]

theorem exists_related {α β : Type} {elements : List α} {results : List β} {relation : α → β → Prop} {result : β}
    (related : List.Forall₂ relation elements results) (listed : result ∈ results) :
    ∃ element ∈ elements, relation element result := by
  induction related with
  | nil => contradiction
  | cons first _ ih =>
      rcases List.mem_cons.mp listed with rfl | listed
      · exact ⟨_, List.mem_cons_self, first⟩
      · obtain ⟨element, member, holds⟩ := ih listed
        exact ⟨element, List.mem_cons_of_mem _ member, holds⟩

theorem lookup_base {kind : AlertKind} (index : Nat) :
    (baseExtractions kind scope).lookup (conditionLabel index) = none := by
  rw [List.lookup_eq_none_iff]
  intro entry listed
  have long : 10 ≤ (conditionLabel index).length := by
    have start : "condition_".length = 10 := by decide
    rw [conditionLabel, String.length_append, start]
    omega
  have short : entry.1.length < 10 := by
    simp only [baseExtractions, List.mem_append, List.mem_cons, List.not_mem_nil, or_false] at listed
    rcases listed with (rfl | rfl | rfl | rfl) | listed
    · show "kind".length < 10
      decide
    · show "signal".length < 10
      decide
    · show "scope".length < 10
      decide
    · show "signature".length < 10
      decide
    · split at listed
      · rw [List.mem_singleton.mp listed]
        decide
      · contradiction
  rw [bne_iff_ne]
  rintro same
  rw [same] at long
  omega

theorem lookup_own {kind : AlertKind} {entry : String × String}
    (listed : entry ∈ baseExtractions kind scope) :
    (baseExtractions kind scope).lookup entry.1 = some entry.2 := by
  refine lookup_of_mem ?_ listed
  cases kind with
  | event => simp [baseExtractions]
  | instruction => simp [baseExtractions]
  | multisig => simp [baseExtractions]

theorem lookup_conditions {conditions : List (AlertCondition × Nat)} {pair : AlertCondition × Nat}
    (distinct : (conditions.map Prod.snd).Nodup) (listed : pair ∈ conditions) :
    (conditions.map fun (condition, index) => (conditionLabel index, condition.field)).lookup
      (conditionLabel pair.2) = some pair.1.field := by
  let entry : AlertCondition × Nat → String × String := fun pair => (conditionLabel pair.2, pair.1.field)
  have labels : ((conditions.map entry).map Prod.fst).Nodup := by
    rw [List.map_map, show Prod.fst ∘ entry = conditionLabel ∘ Prod.snd from rfl, ← List.map_map]
    exact distinct.map fun first second same => conditionLabel_injective same
  have found : entry pair ∈ conditions.map entry := List.mem_map_of_mem listed
  exact lookup_of_mem labels found

/-- The filters of the signal accept the labels of its records. -/
theorem base_accepts (covered : signalScope config alert = .ok scope)
    (base : ∀ entry ∈ baseExtractions alert.kind scope, labels entry.1 = fieldText reading record entry.2) :
    (∀ filter ∈ baseFilters alert scope, filter.Accepts reading.number labels) ↔
      Reports reading config alert record := by
  cases kind : alert.kind with
  | event =>
      simp only [signalScope, kind, Except.ok.injEq] at covered
      subst covered
      simp_all [baseExtractions, baseFilters, LabelFilter.Accepts, Reports]
  | instruction =>
      simp only [signalScope, kind, Except.ok.injEq] at covered
      subst covered
      simp_all [baseExtractions, baseFilters, LabelFilter.Accepts, Reports]
  | multisig =>
      cases configured : config.multisig with
      | none => simp [signalScope, kind, configured] at covered
      | some multisig =>
          simp only [signalScope, kind, configured, Except.ok.injEq] at covered
          subst covered
          simp_all [baseExtractions, baseFilters, LabelFilter.Accepts, Reports]

/-- The query counts the records of the alert's signal that satisfy all of the
conditions. -/
structure Counts (config : Config) (alert : AlertRule) (conditions : List AlertCondition)
    (query : CountQuery) : Prop where
  window : query.windowSeconds = alert.effectiveLookback config.alerting
  signature : ∀ (reading : Reading) (record : Json),
    query.signature (fieldText reading) record = fieldText reading record "signature"
  selects : ∀ (reading : Reading) (record : Json),
    query.selects (fieldText reading) reading.number record = true ↔
      Reports reading config alert record ∧
        ∀ condition ∈ conditions, condition.Holds reading (fieldText reading record condition.field)

theorem countQuery_counts {conditions : List (AlertCondition × Nat)}
    (covered : signalScope config alert = .ok scope)
    (distinct : (conditions.map Prod.snd).Nodup)
    (valid : ∀ pair ∈ conditions, pair.1.validate libraries = .ok ()) :
    ∃ query, countQuery libraries alert config.alerting scope conditions = .ok query ∧
      Counts config alert (conditions.map Prod.fst) query := by
  let check : AlertCondition × Nat → Except Failure (List LabelFilter) := fun (condition, index) => do
    condition.validate libraries
    conditionFilter libraries condition (conditionLabel index)
  let relation : AlertCondition × Nat → List LabelFilter → Prop := fun pair filters =>
    ∀ (reading : Reading) (labels : String → String),
      (∀ filter ∈ filters, filter.Accepts reading.number labels) ↔
        pair.1.Holds reading (labels (conditionLabel pair.2))
  have accepts : ∀ pair ∈ conditions, ∃ filters, check pair = .ok filters ∧ relation pair filters := by
    intro pair listed
    obtain ⟨filters, rendered, accepts⟩ := conditionFilter_accepts (conditionLabel pair.2) (valid pair listed)
    have checked : check pair = .ok filters :=
      bind_accepts.mpr ⟨(), valid pair listed, rendered⟩
    exact ⟨filters, checked, accepts⟩
  obtain ⟨filters, checked, related⟩ := mapM_exists accepts
  let query : CountQuery := {
    extractions := baseExtractions alert.kind scope ++
      conditions.map fun (condition, index) => (conditionLabel index, condition.field)
    filters := baseFilters alert scope
    conditions := filters.flatten
    windowSeconds := alert.effectiveLookback config.alerting }
  have base : ∀ (reading : Reading) (record : Json), ∀ entry ∈ baseExtractions alert.kind scope,
      query.labels (fieldText reading) record entry.1 = fieldText reading record entry.2 := by
    intro reading record entry listed
    have found : query.extractions.lookup entry.1 = some entry.2 := by
      rw [List.lookup_append, lookup_own listed]
      rfl
    simp only [CountQuery.labels, found]
  have condition : ∀ (reading : Reading) (record : Json), ∀ pair ∈ conditions,
      query.labels (fieldText reading) record (conditionLabel pair.2) =
        fieldText reading record pair.1.field := by
    intro reading record pair listed
    have found : query.extractions.lookup (conditionLabel pair.2) = some pair.1.field := by
      rw [List.lookup_append, lookup_base]
      exact lookup_conditions distinct listed
    simp only [CountQuery.labels, found]
  refine ⟨query, ?_, rfl, fun reading record => base reading record ("signature", "signature") ?_,
    fun reading record => ?_⟩
  · rw [countQuery, checked]
    rfl
  · simp [baseExtractions]
  rw [selects_iff, List.forall_mem_append, base_accepts covered (base reading record), List.forall_mem_map]
  refine and_congr_right fun _ => ?_
  have each := forall_flatten_iff (related.imp fun pair group accepts =>
    accepts reading (query.labels (fieldText reading) record))
  refine each.trans ⟨fun holds pair listed => ?_, fun holds pair listed => ?_⟩
  · rw [← condition reading record pair listed]
    exact holds pair listed
  · rw [condition reading record pair listed]
    exact holds pair listed

/-- A query whose branches count groups of conditions matches the records that
satisfy a group. -/
theorem positive_of_counts {query : MetricQuery} {groups : List (List AlertCondition)}
    (related : List.Forall₂ (Counts config alert) groups query.branches) (reading : Reading)
    (records : List Json) :
    query.positive (fieldText reading) reading.number records =
      { signature | ∃ record ∈ records, fieldText reading record "signature" = signature ∧
        Reports reading config alert record ∧ ∃ group ∈ groups, ∀ condition ∈ group,
          condition.Holds reading (fieldText reading record condition.field) } := by
  ext signature
  have branches : (∃ branch ∈ query.branches, ∃ record ∈ records,
        branch.selects (fieldText reading) reading.number record = true ∧
          branch.signature (fieldText reading) record = signature) ↔
      ∃ group ∈ groups, ∃ record ∈ records, (Reports reading config alert record ∧
        ∀ condition ∈ group, condition.Holds reading (fieldText reading record condition.field)) ∧
          fieldText reading record "signature" = signature := by
    refine exists_iff_of_forall₂ related fun group branch counts => ?_
    simp only [counts.selects, counts.signature]
  rw [mem_positive_iff, branches]
  constructor
  · rintro ⟨group, listed, record, present, ⟨reports, holds⟩, same⟩
    exact ⟨record, present, same, reports, group, listed, holds⟩
  · rintro ⟨record, present, same, reports, group, listed, holds⟩
    exact ⟨group, listed, record, present, ⟨reports, holds⟩, same⟩

/-- The conditions of one branch, or the branches of an alert that any of its
conditions satisfies. -/
def AlertRule.groups (alert : AlertRule) : List (List AlertCondition) :=
  if alert.matchMode = .any ∧ alert.conditions.length > 1 then alert.conditions.map fun condition => [condition]
  else [alert.conditions]

theorem satisfied_iff : alert.Satisfied reading record ↔ ∃ group ∈ alert.groups, ∀ condition ∈ group,
    condition.Holds reading (fieldText reading record condition.field) := by
  obtain ⟨kind, name, matchMode, conditions, severity, channels, lookback, interval⟩ := alert
  cases matchMode with
  | all => simp [AlertRule.Satisfied, AlertRule.groups]
  | any =>
      cases conditions with
      | nil => simp [AlertRule.Satisfied, AlertRule.groups]
      | cons condition rest =>
          cases rest with
          | nil => simp [AlertRule.Satisfied, AlertRule.groups]
          | cons other rest => simp [AlertRule.Satisfied, AlertRule.groups]

theorem logqlQuery_counts (covered : signalScope config alert = .ok scope)
    (valid : ∀ condition ∈ alert.conditions, condition.validate libraries = .ok ()) :
    ∃ query, logqlQuery libraries config alert = .ok query ∧
      List.Forall₂ (Counts config alert) alert.groups query.branches := by
  have pairs : ∀ pair ∈ alert.conditions.zipIdx, pair.1.validate libraries = .ok () :=
    fun pair listed => valid pair.1 (List.fst_mem_of_mem_zipIdx listed)
  have positions : (alert.conditions.zipIdx.map Prod.snd).Nodup := by
    rw [List.zipIdx_map_snd]
    exact List.nodup_range'
  have contents : alert.conditions.zipIdx.map Prod.fst = alert.conditions := List.zipIdx_map_fst _ _
  have size : alert.conditions.zipIdx.length = alert.conditions.length := List.length_zipIdx
  by_cases several : alert.matchMode = .any ∧ alert.conditions.length > 1
  · have single : ∀ pair ∈ alert.conditions.zipIdx, ∃ branch,
        countQuery libraries alert config.alerting scope [pair] = .ok branch ∧
          Counts config alert [pair.1] branch := by
      intro pair listed
      have alone : ∀ other ∈ [pair], other.1.validate libraries = .ok () := by
        intro other same
        rw [List.mem_singleton.mp same]
        exact pairs pair listed
      exact countQuery_counts covered (List.nodup_singleton _) alone
    obtain ⟨branches, rendered, related⟩ := mapM_exists single
    refine ⟨{ branches }, ?_, ?_⟩
    · rw [logqlQuery, covered]
      simp only [bind, Except.bind, size, several, and_self, if_true]
      rw [show _ = Except.ok branches from rendered]
      rfl
    · have grouped : alert.groups = alert.conditions.zipIdx.map fun pair => [pair.1] := by
        rw [AlertRule.groups, if_pos several]
        conv => lhs; rw [← contents, List.map_map]
        rfl
      rw [grouped, List.forall₂_map_left_iff]
      exact related
  · obtain ⟨branch, rendered, counts⟩ := countQuery_counts covered positions pairs
    refine ⟨{ branches := [branch] }, ?_, ?_⟩
    · rw [logqlQuery, covered]
      simp only [bind, Except.bind, size, several, if_false, rendered]
      rfl
    · rw [AlertRule.groups, if_neg several]
      rw [contents] at counts
      exact .cons counts .nil

theorem signalScope_exists (configured : alert.kind = .multisig → config.multisig.isSome = true) :
    ∃ scope, signalScope config alert = .ok scope := by
  cases kind : alert.kind with
  | event => exact ⟨_, by rw [signalScope, kind]⟩
  | instruction => exact ⟨_, by rw [signalScope, kind]⟩
  | multisig =>
      obtain ⟨multisig, found⟩ := Option.isSome_iff_exists.mp (configured kind)
      exact ⟨_, by rw [signalScope, kind, found]⟩

/-- The query of an alert is positive for exactly the signatures of the
records of its signal that satisfy it, over its window. -/
theorem logqlQuery_positive_iff (accepted : config.validate libraries idlPath idlFile = .ok ())
    (listed : alert ∈ config.alertRules) :
    ∃ query, logqlQuery libraries config alert = .ok query ∧
      (∀ branch ∈ query.branches, branch.windowSeconds = alert.effectiveLookback config.alerting) ∧
      ∀ (reading : Reading) (records : List Json),
        query.positive (fieldText reading) reading.number records =
          { signature | ∃ record ∈ records, fieldText reading record "signature" = signature ∧
            Reports reading config alert record ∧ alert.Satisfied reading record } := by
  obtain ⟨valid, configured, _⟩ := accepted_alert accepted listed
  obtain ⟨scope, covered⟩ := signalScope_exists configured
  have conditions : ∀ condition ∈ alert.conditions, condition.validate libraries = .ok () :=
    fun condition member => (accepted_conditions valid member).1
  obtain ⟨query, rendered, related⟩ := logqlQuery_counts covered conditions
  refine ⟨query, rendered, fun branch member => ?_, fun reading records => ?_⟩
  · obtain ⟨group, _, counts⟩ := exists_related related member
    exact counts.window
  · rw [positive_of_counts related]
    simp only [satisfied_iff]

/-! An alert that either of two conditions satisfies. -/

def transferIdl : IdlFile := .parsed (.object [
  ("instructions", .array []),
  ("events", .array [.object [("name", .string "TransferEvent")]])])

def transferAlert : AlertRule where
  kind := .event
  name := "transfer_event"
  matchMode := .any
  conditions := [
    { field := "data.amount", operator := .gte, value := some (.integer 1000) },
    { field := "data.currency", operator := .contains, value := some (.string "USD") }]
  severity := .warning
  channels := [.slack]
  lookbackWindowSeconds := none
  evaluationIntervalSeconds := none

def transferConfig : Config where
  programId := "11111111111111111111111111111111"
  multisig := none
  alertRules := [transferAlert]

theorem logqlQuery_positive_transfer :
    ∃ query, logqlQuery (sampleLibraries []) transferConfig transferAlert = .ok query ∧
      (∀ branch ∈ query.branches,
        branch.windowSeconds = transferAlert.effectiveLookback transferConfig.alerting) ∧
      ∀ (reading : Reading) (records : List Json),
        query.positive (fieldText reading) reading.number records =
          { signature | ∃ record ∈ records, fieldText reading record "signature" = signature ∧
            Reports reading transferConfig transferAlert record ∧
              transferAlert.Satisfied reading record } := by
  have accepted : transferConfig.validate (sampleLibraries []) "idl.json" transferIdl = .ok () := by
    decide +kernel
  exact logqlQuery_positive_iff accepted List.mem_cons_self

end Correctness

end Microscope.Alerting
