import Mathlib.Data.List.Flatten
import Mathlib.Data.List.Nodup
import Mathlib.Data.List.Perm.Basic
import Microscope.Alerting.Document
import Microscope.Alerting.Meaning

namespace Microscope.Alerting

open Microscope.Data

/-! # The uids of the rules

The rules of a document are those about health and those of the alerts, and
the uid of an alert's rule is the digest of what identifies it.
-/

variable {libraries : Libraries} {idlPath : String} {idlFile : IdlFile} {config : Config}
  {deployment : Option String} {channels : List AlertChannel} {rpcPolling : Bool} {alert : AlertRule}

/-! ## Rules -/

theorem field_withSettings (rule : Json) (channel : String) {name : String}
    (other : name ≠ "notification_settings") : (withSettings rule channel).field name = rule.field name := by
  unfold withSettings
  cases notificationSettings channel with
  | none => rfl
  | some settings => exact field_set_of_ne rule settings other

theorem uid_healthRule (rule : HealthRule) (channel : String) :
    ((healthRule rule channel).field "uid").toText = some (rule.uid ++ channel) := by
  rw [healthRule, field_withSettings _ _ (by decide)]
  rfl

theorem conditionDescription_exists {condition : AlertCondition}
    (valid : condition.validate libraries = .ok ()) :
    ∃ description, conditionDescription libraries condition = .ok description := by
  obtain ⟨_, _, checked⟩ := accepted_condition valid
  unfold conditionDescription
  split
  · exact ⟨_, rfl⟩
  · rename_i valued
    cases value : condition.value with
    | some value => exact ⟨_, rfl⟩
    | none =>
        rw [value] at checked
        cases operator : condition.operator with
        | «exists» => contradiction
        | _ => rw [operator] at checked; contradiction

theorem ruleDescription_exists
    (valid : ∀ condition ∈ alert.conditions, condition.validate libraries = .ok ()) :
    ∃ description, ruleDescription libraries alert = .ok description := by
  unfold ruleDescription
  split
  · exact ⟨_, rfl⟩
  · have described : ∀ condition ∈ alert.conditions, ∃ description,
        conditionDescription libraries condition = .ok description ∧ True := by
      intro condition listed
      obtain ⟨description, found⟩ := conditionDescription_exists (valid condition listed)
      exact ⟨description, found, trivial⟩
    obtain ⟨descriptions, found, _⟩ := mapM_exists described
    exact ⟨_, bind_accepts.mpr ⟨descriptions, found, rfl⟩⟩

/-- The uid of a rule of an alert. -/
def alertUid (libraries : Libraries) (config : Config) (alert : AlertRule) (channel : Option AlertChannel) :
    String :=
  digestUid libraries (canonicalText libraries config alert channel)

theorem grafanaRule_exists (accepted : config.validate libraries idlPath idlFile = .ok ())
    (listed : alert ∈ config.alertRules) (channel : Option AlertChannel) :
    ∃ rule, grafanaRule libraries config alert channel = .ok rule ∧
      (rule.field "uid").toText = some (alertUid libraries config alert channel) := by
  obtain ⟨valid, configured, _⟩ := accepted_alert accepted listed
  obtain ⟨scope, covered⟩ := signalScope_exists configured
  have conditions : ∀ condition ∈ alert.conditions, condition.validate libraries = .ok () :=
    fun condition member => (accepted_conditions valid member).1
  obtain ⟨query, rendered, _⟩ := logqlQuery_counts covered conditions
  obtain ⟨description, described⟩ := ruleDescription_exists conditions
  refine ⟨_, bind_accepts.mpr ⟨query, rendered, bind_accepts.mpr ⟨description, described, rfl⟩⟩, ?_⟩
  rw [field_withSettings _ _ (by decide)]
  rfl

theorem resourceUids_of_related {α : Type} {elements : List α} {resources : List Json} {uid : α → String}
    (related : List.Forall₂ (fun element resource => (resource.field "uid").toText = some (uid element))
      elements resources) :
    resourceUids resources = elements.map uid := by
  induction related with
  | nil => rfl
  | cons first _ ih =>
      rw [resourceUids, List.filterMap_cons, first, List.map_cons]
      exact congrArg _ ih

/-! ## Groups -/

theorem extendInterval_perm (interval : Nat) (rules : List Json) (groups : List (Nat × List Json)) :
    ((extendInterval interval rules groups).flatMap Prod.snd).Perm (groups.flatMap Prod.snd ++ rules) := by
  induction groups with
  | nil => simp [extendInterval]
  | cons group rest ih =>
      obtain ⟨other, others⟩ := group
      rw [extendInterval]
      split
      · exact List.perm_append_comm
      · split
        · simp only [List.flatMap_cons, List.append_assoc]
          exact List.Perm.append_left others List.perm_append_comm
        · simp only [List.flatMap_cons, List.append_assoc]
          exact ih.append_left others

theorem documentRules_groups {groups : List (Nat × List Json)} {document : Json}
    (present : document.field "groups" = .array (groups.map ruleGroup)) :
    documentRules document = groups.flatMap Prod.snd := by
  have members : ∀ group : Nat × List Json, ((ruleGroup group).field "rules").elements = group.2 :=
    fun _ => rfl
  rw [documentRules, present]
  simp only [Json.elements, Json.toArray, Option.getD_some, List.flatMap_map]
  exact congrArg (List.flatMap · groups) (funext members)

/-- The uids of an alert's rules. -/
def AlertRule.uids (alert : AlertRule) (libraries : Libraries) (config : Config) : List String :=
  alert.ruleChannels.map (alertUid libraries config alert)

theorem addAlertRules_uids (alerts : List AlertRule) (groups : List (Nat × List Json))
    (accepted : config.validate libraries idlPath idlFile = .ok ())
    (listed : ∀ alert ∈ alerts, alert ∈ config.alertRules) :
    ∃ extended, addAlertRules libraries config alerts groups = .ok extended ∧
      (resourceUids (extended.flatMap Prod.snd)).Perm
        (resourceUids (groups.flatMap Prod.snd) ++ alerts.flatMap (·.uids libraries config)) := by
  induction alerts generalizing groups with
  | nil => exact ⟨groups, rfl, by simp⟩
  | cons alert rest ih =>
      have rendered : ∀ channel ∈ alert.ruleChannels, ∃ rule,
          grafanaRule libraries config alert channel = .ok rule ∧
            (rule.field "uid").toText = some (alertUid libraries config alert channel) :=
        fun channel _ => grafanaRule_exists accepted (listed alert List.mem_cons_self) channel
      obtain ⟨rules, found, related⟩ := mapM_exists rendered
      let grown := extendInterval (alert.effectiveInterval config.alerting) rules groups
      obtain ⟨extended, added, uids⟩ := ih grown fun other member => listed other (List.mem_cons_of_mem _ member)
      refine ⟨extended, ?_, ?_⟩
      · rw [addAlertRules, List.foldlM_cons]
        refine bind_accepts.mpr ⟨grown, bind_accepts.mpr ⟨rules, found, rfl⟩, added⟩
      · have step : (resourceUids (grown.flatMap Prod.snd)).Perm
            (resourceUids (groups.flatMap Prod.snd) ++ alert.uids libraries config) := by
          have moved := (extendInterval_perm (alert.effectiveInterval config.alerting) rules groups).filterMap
            fun resource => (resource.field "uid").toText
          rw [List.filterMap_append] at moved
          rw [AlertRule.uids, ← resourceUids_of_related related]
          exact moved
        rw [List.flatMap_cons, ← List.append_assoc]
        exact uids.trans (step.append_right _)

/-! ## Health -/

/-- The uids of families of health rules. -/
def familyUids (families : List (List String)) (channelNames : List String) : List String :=
  families.flatMap fun family => channelNames.flatMap fun channel => family.map fun uid => uid ++ channel

def ruleNames (families : List (List HealthRule)) : List (List String) :=
  families.map fun family => family.map HealthRule.uid

theorem resourceUids_healthRules (family : List HealthRule) (channels : List AlertChannel) :
    resourceUids (healthRules family channels) =
      (healthChannelNames channels).flatMap fun channel => family.map fun rule => rule.uid ++ channel := by
  have each : ∀ channel, resourceUids (family.map fun rule => healthRule rule channel) =
      family.map fun rule => rule.uid ++ channel := by
    intro channel
    induction family with
    | nil => rfl
    | cons rule rest ih =>
        rw [List.map_cons, resourceUids, List.filterMap_cons, uid_healthRule, List.map_cons]
        exact congrArg _ ih
  rw [healthRules, resourceUids, List.filterMap_flatMap]
  exact congrArg (List.flatMap · _) (funext each)

theorem resourceUids_health (families : List (List HealthRule)) (channels : List AlertChannel) :
    resourceUids (families.flatMap fun family => healthRules family channels) =
      familyUids (ruleNames families) (healthChannelNames channels) := by
  rw [resourceUids, List.filterMap_flatMap, familyUids, ruleNames, List.flatMap_map]
  refine congrArg (List.flatMap · families) (funext fun family => ?_)
  rw [← resourceUids, resourceUids_healthRules]
  simp only [List.map_map]
  rfl

/-- The uids of a document are those of its health rules and of its alerts. -/
theorem provisioningDocument_uids (deployment : Option String) (channels : List AlertChannel)
    (rpcPolling : Bool) (accepted : config.validate libraries idlPath idlFile = .ok ()) :
    ∃ document, provisioningDocument libraries deployment config channels rpcPolling = .ok document ∧
      (resourceUids (documentRules document)).Perm
        (familyUids (ruleNames (healthFamilies libraries deployment config rpcPolling))
            (healthChannelNames channels) ++
          config.alertRules.flatMap (·.uids libraries config)) := by
  let health := (healthFamilies libraries deployment config rpcPolling).flatMap fun family =>
    healthRules family channels
  obtain ⟨groups, added, uids⟩ := addAlertRules_uids config.alertRules
    (extendInterval rpcHealthEvaluationIntervalSeconds health []) accepted fun _ listed => listed
  refine ⟨_, bind_accepts.mpr ⟨groups, added, rfl⟩, ?_⟩
  rw [documentRules_groups rfl]
  refine uids.trans (List.Perm.append_right _ ?_)
  rw [← resourceUids_health]
  simp [extendInterval, health]

/-! ## Distinct health rules -/

/-- The names of all health rules, by family. -/
def allRuleNames : List (List String) :=
  [["ms-rpc-recovery-degraded-", "ms-rpc-checkpoint-corrupt-"],
    ["ms-datasource-drop-"],
    ["ms-yellowstone-stream-", "ms-yellowstone-gap-", "ms-yellowstone-unreachable-"],
    ["ms-log-delivery-stalled-"],
    ["ms-multisig-unmatched-"],
    ["ms-rpc-poll-stale-", "ms-rpc-poll-lag-", "ms-rpc-poll-failing-", "ms-rpc-checkpoint-stale-",
      "ms-rpc-quarantine-"]]

def allChannelNames : List String := ["none", "slack", "telegram", "pagerduty"]

theorem ruleNames_sublist :
    (ruleNames (healthFamilies libraries deployment config rpcPolling)).Sublist allRuleNames := by
  have optional : ∀ (present : Prop) [Decidable present] (family : List HealthRule),
      (ruleNames (if present then [family] else [])).Sublist [family.map HealthRule.uid] := by
    intro present _ family
    split
    · exact List.Sublist.refl _
    · exact List.nil_sublist _
  simp only [healthFamilies, ruleNames, List.map_append]
  have recovery := List.Sublist.refl (allRuleNames.take 2)
  have yellowstone := optional (config.datasource.mode = .yellowstone)
    (yellowstoneHealthRules libraries deployment config.alerting.healthPendingPeriodSeconds)
  have delivery := List.Sublist.refl [allRuleNames[3]]
  have multisig := optional (config.multisig.isSome = true)
    (multisigHealthRules config.alerting.healthPendingPeriodSeconds
      config.alerting.multisigUnmatchedWindowSeconds)
  have polling := optional (rpcPolling = true)
    (rpcHealthRules config config.alerting.healthPendingPeriodSeconds)
  exact (((recovery.append yellowstone).append delivery).append multisig).append polling

theorem channelNames_sublist : (healthChannelNames (configuredChannels config)).Sublist allChannelNames := by
  unfold healthChannelNames
  split
  · decide
  · have names : ((configuredChannels config).map AlertChannel.asStr).Sublist
        ([AlertChannel.slack, .telegram, .pagerduty].map AlertChannel.asStr) := List.filter_sublist.map _
    exact names.trans (by decide)

theorem familyUids_sublist {families allFamilies : List (List String)} {names allNames : List String}
    (fewer : families.Sublist allFamilies) (fewerNames : names.Sublist allNames) :
    (familyUids families names).Sublist (familyUids allFamilies allNames) :=
  (fewer.flatMap _).trans (List.Sublist.flatMap_right _ fun _ _ => fewerNames.flatMap _)

theorem healthUids_sublist :
    (familyUids (ruleNames (healthFamilies libraries deployment config rpcPolling))
      (healthChannelNames (configuredChannels config))).Sublist (familyUids allRuleNames allChannelNames) :=
  familyUids_sublist ruleNames_sublist channelNames_sublist

theorem healthUids_nodup :
    (familyUids (ruleNames (healthFamilies libraries deployment config rpcPolling))
      (healthChannelNames (configuredChannels config))).Nodup := by
  have distinct : (familyUids allRuleNames allChannelNames).Nodup := by decide +kernel
  exact distinct.sublist healthUids_sublist

/-- The uid of a health rule has a hyphen after its beginning. -/
theorem healthUid_hyphen {uid : String}
    (listed : uid ∈ familyUids (ruleNames (healthFamilies libraries deployment config rpcPolling))
      (healthChannelNames (configuredChannels config))) : '-' ∈ uid.toList.drop 3 := by
  have all : ∀ uid ∈ familyUids allRuleNames allChannelNames, '-' ∈ uid.toList.drop 3 := by decide +kernel
  exact all uid (healthUids_sublist.mem listed)

/-! ## Texts joined by NUL -/

theorem append_cons_left_inj {α : Type} {mark : α} {first second rest others : List α}
    (plain : mark ∉ first) (otherPlain : mark ∉ second)
    (same : first ++ mark :: rest = second ++ mark :: others) : first = second ∧ rest = others := by
  induction first generalizing second with
  | nil =>
      cases second with
      | nil => exact ⟨rfl, (List.cons.inj same).2⟩
      | cons head second =>
          obtain ⟨rfl, _⟩ := List.cons.inj same
          exact absurd List.mem_cons_self otherPlain
  | cons head first ih =>
      cases second with
      | nil =>
          obtain ⟨rfl, _⟩ := List.cons.inj same
          exact absurd List.mem_cons_self plain
      | cons other second =>
          obtain ⟨rfl, tails⟩ := List.cons.inj same
          obtain ⟨rfl, equal⟩ := ih (fun member => plain (List.mem_cons_of_mem _ member))
            (fun member => otherPlain (List.mem_cons_of_mem _ member)) tails
          exact ⟨rfl, equal⟩

theorem append_cons_right_inj {α : Type} {mark : α} {first second rest others : List α}
    (plain : mark ∉ rest) (otherPlain : mark ∉ others)
    (same : first ++ mark :: rest = second ++ mark :: others) : first = second ∧ rest = others := by
  have reversed := congrArg List.reverse same
  simp only [List.reverse_append, List.reverse_cons, List.append_assoc, List.singleton_append] at reversed
  obtain ⟨tails, heads⟩ := append_cons_left_inj (by simpa using plain) (by simpa using otherPlain) reversed
  exact ⟨List.reverse_inj.mp heads, List.reverse_inj.mp tails⟩

theorem kind_plain (kind : AlertKind) : '\x00' ∉ kind.asStr.toList := by
  cases kind <;> decide

theorem matchMode_plain (mode : AlertMatch) : '\x00' ∉ mode.asStr.toList := by
  cases mode <;> decide

theorem severity_plain (severity : AlertSeverity) : '\x00' ∉ severity.asStr.toList := by
  cases severity <;> decide

theorem channelName_plain (channel : Option AlertChannel) : '\x00' ∉ (channelName channel).toList := by
  cases channel with
  | none => decide
  | some channel => cases channel <;> decide

theorem kind_asStr_inj {first second : AlertKind} (same : first.asStr = second.asStr) : first = second := by
  revert same
  cases first <;> cases second <;> decide

theorem matchMode_asStr_inj {first second : AlertMatch} (same : first.asStr = second.asStr) :
    first = second := by
  revert same
  cases first <;> cases second <;> decide

theorem severity_asStr_inj {first second : AlertSeverity} (same : first.asStr = second.asStr) :
    first = second := by
  revert same
  cases first <;> cases second <;> decide

theorem channelName_inj {first second : Option AlertChannel} (same : channelName first = channelName second) :
    first = second := by
  have all : ∀ first ∈ [none, some AlertChannel.slack, some .telegram, some .pagerduty],
      ∀ second ∈ [none, some AlertChannel.slack, some .telegram, some .pagerduty],
        channelName first = channelName second → first = second := by decide
  have listed : ∀ channel : Option AlertChannel,
      channel ∈ [none, some AlertChannel.slack, some .telegram, some .pagerduty] := by
    intro channel
    cases channel with
    | none => decide
    | some channel => cases channel <;> decide
  exact all first (listed first) second (listed second) same

/-- The canonical text determines everything that it joins. -/
theorem canonicalText_fields {first second : AlertRule} {channel other : Option AlertChannel}
    (escaped : '\x00' ∉ (libraries.conditionsText first.conditions).toList)
    (otherEscaped : '\x00' ∉ (libraries.conditionsText second.conditions).toList)
    (same : canonicalText libraries config first channel = canonicalText libraries config second other) :
    first.kind = second.kind ∧ first.name = second.name ∧ first.matchMode = second.matchMode ∧
      libraries.conditionsText first.conditions = libraries.conditionsText second.conditions ∧
      first.severity = second.severity ∧ channel = other := by
  have lists := congrArg String.toList same
  have mark : "\x00".toList = ['\x00'] := by decide
  simp only [canonicalText, String.toList_intercalate, List.map_cons, List.map_nil, mark,
    List.intercalate_cons_cons, List.intercalate_singleton, List.append_assoc, List.singleton_append] at lists
  -- The program is the same, the kind ends at the first mark, and what
  -- follows the name is cut off from the end.
  have afterProgram := (List.cons.inj (List.append_cancel_left lists)).2
  obtain ⟨kind, afterKind⟩ := append_cons_left_inj (kind_plain _) (kind_plain _) afterProgram
  have regroup : ∀ name mode conditions severity channel : List Char,
      name ++ '\x00' :: (mode ++ '\x00' :: (conditions ++ '\x00' :: (severity ++ '\x00' :: channel))) =
        (((name ++ '\x00' :: mode) ++ '\x00' :: conditions) ++ '\x00' :: severity) ++ '\x00' :: channel := by
    simp
  rw [regroup, regroup] at afterKind
  obtain ⟨beforeChannel, channelText⟩ := append_cons_right_inj (channelName_plain _) (channelName_plain _) afterKind
  obtain ⟨beforeSeverity, severity⟩ := append_cons_right_inj (severity_plain _) (severity_plain _) beforeChannel
  obtain ⟨beforeConditions, conditions⟩ := append_cons_right_inj escaped otherEscaped beforeSeverity
  obtain ⟨name, mode⟩ := append_cons_right_inj (matchMode_plain _) (matchMode_plain _) beforeConditions
  exact ⟨kind_asStr_inj (String.toList_inj.mp kind), String.toList_inj.mp name,
    matchMode_asStr_inj (String.toList_inj.mp mode), String.toList_inj.mp conditions,
    severity_asStr_inj (String.toList_inj.mp severity), channelName_inj (String.toList_inj.mp channelText)⟩

/-! ## Distinct rules of alerts -/

/-- The digests of the texts that occur differ in their first digits and have
no hyphens, and the texts of the conditions tell them apart and have no NUL. -/
structure Separates (libraries : Libraries) (config : Config) : Prop where
  hexadecimal : ∀ text, '-' ∉ (libraries.digestText text).toList
  digests : ∀ first ∈ config.alertRules, ∀ channel ∈ first.ruleChannels,
    ∀ second ∈ config.alertRules, ∀ other ∈ second.ruleChannels,
      (libraries.digestText (canonicalText libraries config first channel)).toList.take 32 =
          (libraries.digestText (canonicalText libraries config second other)).toList.take 32 →
        canonicalText libraries config first channel = canonicalText libraries config second other
  conditions : ∀ first ∈ config.alertRules, ∀ second ∈ config.alertRules,
    libraries.conditionsText first.conditions = libraries.conditionsText second.conditions →
      first.conditions = second.conditions
  escaped : ∀ alert ∈ config.alertRules, '\x00' ∉ (libraries.conditionsText alert.conditions).toList

/-- Two alerts agree in what identifies their rules, on a common channel or on
none. -/
structure Conflicts (first second : AlertRule) : Prop where
  kind : first.kind = second.kind
  name : first.name = second.name
  matchMode : first.matchMode = second.matchMode
  conditions : first.conditions = second.conditions
  severity : first.severity = second.severity
  channel : ∃ channel ∈ first.ruleChannels, channel ∈ second.ruleChannels

theorem alertUid_inj {first second : AlertRule} {channel other : Option AlertChannel}
    (separates : Separates libraries config) (listed : first ∈ config.alertRules)
    (channelListed : channel ∈ first.ruleChannels) (otherListed : second ∈ config.alertRules)
    (otherChannelListed : other ∈ second.ruleChannels)
    (same : alertUid libraries config first channel = alertUid libraries config second other) :
    first.kind = second.kind ∧ first.name = second.name ∧ first.matchMode = second.matchMode ∧
      first.conditions = second.conditions ∧ first.severity = second.severity ∧ channel = other := by
  have lists := congrArg String.toList same
  simp only [alertUid, digestUid, String.toList_append, String.toList_ofList] at lists
  have canonical := separates.digests first listed channel channelListed second otherListed other
    otherChannelListed (List.append_cancel_left lists)
  obtain ⟨kind, name, mode, conditions, severity, equal⟩ :=
    canonicalText_fields (separates.escaped first listed) (separates.escaped second otherListed) canonical
  exact ⟨kind, name, mode, separates.conditions first listed second otherListed conditions, severity, equal⟩

theorem alertUid_congr {first second : AlertRule} {channel : Option AlertChannel}
    (conflicts : Conflicts first second) :
    alertUid libraries config first channel = alertUid libraries config second channel := by
  simp only [alertUid, canonicalText, conflicts.kind, conflicts.name, conflicts.matchMode,
    conflicts.conditions, conflicts.severity]

theorem ruleChannels_nodup (accepted : config.validate libraries idlPath idlFile = .ok ())
    (listed : alert ∈ config.alertRules) : alert.ruleChannels.Nodup := by
  obtain ⟨valid, _⟩ := accepted_alert accepted listed
  unfold AlertRule.ruleChannels
  split
  · exact List.nodup_singleton _
  · exact (accepted_channels valid).map (Option.some_injective _)

theorem uids_nodup (separates : Separates libraries config)
    (accepted : config.validate libraries idlPath idlFile = .ok ()) (listed : alert ∈ config.alertRules) :
    (alert.uids libraries config).Nodup := by
  refine List.Nodup.map_on ?_ (ruleChannels_nodup accepted listed)
  intro channel member other otherMember same
  obtain ⟨_, _, _, _, _, equal⟩ := alertUid_inj separates listed member listed otherMember same
  exact equal

theorem uids_disjoint_iff {first second : AlertRule} (separates : Separates libraries config)
    (listed : first ∈ config.alertRules) (otherListed : second ∈ config.alertRules) :
    List.Disjoint (first.uids libraries config) (second.uids libraries config) ↔ ¬Conflicts first second := by
  constructor
  · intro apart conflicts
    obtain ⟨channel, member, otherMember⟩ := conflicts.channel
    have uid : alertUid libraries config first channel ∈ first.uids libraries config :=
      List.mem_map_of_mem member
    have otherUid : alertUid libraries config first channel ∈ second.uids libraries config := by
      rw [alertUid_congr conflicts]
      exact List.mem_map_of_mem otherMember
    exact apart uid otherUid
  · intro apart uid member otherMember
    obtain ⟨channel, channelListed, rfl⟩ := List.mem_map.mp member
    obtain ⟨other, otherChannelListed, same⟩ := List.mem_map.mp otherMember
    obtain ⟨kind, name, mode, conditions, severity, rfl⟩ :=
      alertUid_inj separates listed channelListed otherListed otherChannelListed same.symm
    exact apart ⟨kind, name, mode, conditions, severity, channel, channelListed, otherChannelListed⟩

theorem alertUid_hyphen (separates : Separates libraries config) (channel : Option AlertChannel) :
    '-' ∉ (alertUid libraries config alert channel).toList.drop 3 := by
  intro member
  have start : "ms-".toList.length = 3 := by decide
  rw [alertUid, digestUid, String.toList_append, ← start, List.drop_left, String.toList_ofList] at member
  exact separates.hexadecimal _ (List.mem_of_mem_take member)

/-- The uids are distinct if and only if no two alerts conflict. -/
theorem rule_uids_distinct_iff (accepted : config.validate libraries idlPath idlFile = .ok ())
    (separates : Separates libraries config) :
    ∃ document, provisioningDocument libraries deployment config (configuredChannels config) rpcPolling =
        .ok document ∧
      ((resourceUids (documentRules document)).Nodup ↔
        config.alertRules.Pairwise fun first second => ¬Conflicts first second) := by
  obtain ⟨document, provisioned, uids⟩ := provisioningDocument_uids deployment (configuredChannels config)
    rpcPolling accepted
  refine ⟨document, provisioned, ?_⟩
  have pairs : config.alertRules.Pairwise (Function.onFun List.Disjoint (·.uids libraries config)) ↔
      config.alertRules.Pairwise fun first second => ¬Conflicts first second :=
    List.Pairwise.iff_of_mem fun listed otherListed => uids_disjoint_iff separates listed otherListed
  have alerts : (config.alertRules.flatMap (·.uids libraries config)).Nodup ↔
      config.alertRules.Pairwise fun first second => ¬Conflicts first second := by
    rw [List.nodup_flatMap, pairs]
    exact and_iff_right fun alert listed => uids_nodup separates accepted listed
  have apart : ∀ uid ∈ familyUids (ruleNames (healthFamilies libraries deployment config rpcPolling))
      (healthChannelNames (configuredChannels config)),
      ∀ other ∈ config.alertRules.flatMap (·.uids libraries config), uid ≠ other := by
    intro uid health other listed same
    obtain ⟨alert, _, member⟩ := List.mem_flatMap.mp listed
    obtain ⟨channel, _, rfl⟩ := List.mem_map.mp member
    rw [same] at health
    exact alertUid_hyphen separates channel (healthUid_hyphen health)
  rw [uids.nodup_iff, List.nodup_append, alerts]
  exact ⟨fun both => both.2.1, fun distinct => ⟨healthUids_nodup, distinct, apart⟩⟩

/-! Two alerts that differ in their lookback window only, and two that differ
in their severity. -/

def windowedAlert (seconds : Nat) : AlertRule :=
  { transferAlert with lookbackWindowSeconds := some seconds }

def windowedConfig : Config := { transferConfig with alertRules := [windowedAlert 60, windowedAlert 300] }

def criticalAlert : AlertRule := { transferAlert with severity := .critical }

def severitiesConfig : Config := { transferConfig with alertRules := [transferAlert, criticalAlert] }

def transferText (severity : String) : String :=
  String.intercalate "\x00" ["11111111111111111111111111111111", "event", "transfer_event", "any",
    "[\x7b\"field\":\"data.amount\",\"operator\":\"gte\",\"value\":1000\x7d," ++
      "\x7b\"field\":\"data.currency\",\"operator\":\"contains\",\"value\":\"USD\"\x7d]",
    severity, "slack"]

def transferLibraries : Libraries := sampleLibraries [
  (transferText "warning", "3d451a49da9f2ca32ca2581ad111e60a5f84999b8c9f50ca2acd31bdb36474d2"),
  (transferText "critical", "764bb72031cc92c510292dd403ea4e77bc5ae4267f5df1d069cc8a625a6c0783")]

theorem transferLibraries_hexadecimal (text : String) :
    '-' ∉ (transferLibraries.digestText text).toList := by
  simp only [transferLibraries, sampleLibraries, List.lookup_cons, List.lookup_nil]
  split
  · rw [Option.getD_some]
    decide +kernel
  · split
    · rw [Option.getD_some]
      decide +kernel
    · rw [Option.getD_none]
      decide +kernel

theorem windowed_separates : Separates transferLibraries windowedConfig where
  hexadecimal := transferLibraries_hexadecimal
  digests := by decide +kernel
  conditions := by decide +kernel
  escaped := by decide +kernel

theorem lookback_windows_share_uid :
    windowedConfig.validate transferLibraries "idl.json" transferIdl = .ok () ∧
    Separates transferLibraries windowedConfig ∧
    ∃ document, provisioningDocument transferLibraries none windowedConfig
        (configuredChannels windowedConfig) false = .ok document ∧
      ¬(resourceUids (documentRules document)).Nodup := by
  have accepted : windowedConfig.validate transferLibraries "idl.json" transferIdl = .ok () := by
    decide +kernel
  obtain ⟨document, provisioned, uids⟩ :=
    provisioningDocument_uids none (configuredChannels windowedConfig) false accepted
  refine ⟨accepted, windowed_separates, document, provisioned, ?_⟩
  rw [uids.nodup_iff]
  decide +kernel

theorem rule_uids_distinct_severities :
    ∃ document, provisioningDocument transferLibraries none severitiesConfig
        (configuredChannels severitiesConfig) false = .ok document ∧
      ((resourceUids (documentRules document)).Nodup ↔
        severitiesConfig.alertRules.Pairwise fun first second => ¬Conflicts first second) := by
  have accepted : severitiesConfig.validate transferLibraries "idl.json" transferIdl = .ok () := by
    decide +kernel
  have separates : Separates transferLibraries severitiesConfig :=
    { hexadecimal := transferLibraries_hexadecimal
      digests := by decide +kernel
      conditions := by decide +kernel
      escaped := by decide +kernel }
  exact rule_uids_distinct_iff accepted separates

end Microscope.Alerting
