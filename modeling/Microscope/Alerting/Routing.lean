import Microscope.Alerting.Deletions
import Microscope.Alerting.Stack

namespace Microscope.Alerting

open Microscope.Data Microscope.Logql

/-! # Whom the alerts notify

An alert of a configuration means that its channels are notified of the
transactions whose records satisfy it, and of no others.  A stack that has the
document does so, as far as its documentation goes.
-/

/-- A notification about a signature. -/
structure Notice where
  integration : String
  kind : String
  name : String
  severity : String
  signature : String

def AlertRule.notice (alert : AlertRule) (channel : AlertChannel) (signature : String) : Notice where
  integration := channel.asStr
  kind := alert.kind.asStr
  name := alert.name
  severity := alert.severity.asStr
  signature := signature

/-- A rule of the document with the labels of the notice. -/
structure Carries (document rule : Json) (notice : Notice) : Prop where
  listed : rule ∈ documentRules document
  kind : label rule "signal_kind" = notice.kind
  name : label rule "signal_name" = notice.name
  severity : label rule "severity" = notice.severity

/-- An evaluation finds that an alert fires, and the alert goes to the
integration. -/
def Alarms (stack : Stack) (document : Json) (time : Nat) (notice : Notice) : Prop :=
  ∃ rule, Carries document rule notice ∧ stack.fires rule time notice.signature ∧
    ∃ receiver, stack.routes rule time receiver ∧ stack.integrates receiver notice.integration

/-- The stack notifies what the notice says. -/
def Announces (stack : Stack) (document : Json) (time : Nat) (notice : Notice) : Prop :=
  ∃ rule, Carries document rule notice ∧ stack.notifies rule time notice.signature notice.integration

/-- The record is one that the alert is about. -/
def AlertRule.Matches (alert : AlertRule) (reading : Alerting.Reading) (config : Config) (record : Json) :
    Prop :=
  Reports reading config alert record ∧ alert.Satisfied reading record

/-- Loki counts for the queries of the alerts as they are written, and reads the
records as the conditions do. -/
def Serves (stack : Stack) (logged : Nat → List Json) (reading : Alerting.Reading) (libraries : Libraries)
    (config : Config) : Prop :=
  ∀ alert ∈ config.alertRules, ∀ query, logqlQuery libraries config alert = .ok query → ∀ time,
    stack.counts (queryText libraries query) time =
      instant query (fieldText reading) reading.number logged time

/-- The group of the rules of an alert. -/
def AlertRule.group (alert : AlertRule) (defaults : AlertingConfig) : String :=
  "microscope-" ++ toString (alert.effectiveInterval defaults) ++ "s"

/-- When the rules of an alert are evaluated. -/
def AlertRule.evaluation (alert : AlertRule) (stack : Stack) (defaults : AlertingConfig) (round : Nat) : Nat :=
  stack.evaluation (alert.group defaults) (alert.effectiveInterval defaults) round

variable {libraries : Libraries} {idlPath : String} {idlFile : IdlFile} {config : Config}
  {environment : String → Option String} {document rule : Json} {previous : Option Json}
  {alert : AlertRule} {channel : Option AlertChannel} {stack : Stack} {reading : Alerting.Reading}
  {query : MetricQuery} {logged : Nat → List Json}

/-! ## Rules of a document -/

/-- A rule in the group of an interval. -/
def Placed (groups : List (Nat × List Json)) (interval : Nat) (rule : Json) : Prop :=
  ∃ rules, (interval, rules) ∈ groups ∧ rule ∈ rules

theorem placed_extendInterval {interval other : Nat} {rules : List Json} {groups : List (Nat × List Json)} :
    Placed (extendInterval interval rules groups) other rule ↔
      Placed groups other rule ∨ other = interval ∧ rule ∈ rules := by
  induction groups with
  | nil => simp [extendInterval, Placed]
  | cons group rest ih =>
      obtain ⟨first, members⟩ := group
      have split : ∀ {head : Nat × List Json} {tail : List (Nat × List Json)},
          Placed (head :: tail) other rule ↔ (other = head.1 ∧ rule ∈ head.2) ∨ Placed tail other rule := by
        intro head tail
        obtain ⟨name, listed⟩ := head
        simp only [Placed, List.mem_cons, Prod.mk.injEq]
        constructor
        · rintro ⟨found, ⟨rfl, rfl⟩ | inside, member⟩
          · exact .inl ⟨rfl, member⟩
          · exact .inr ⟨found, inside, member⟩
        · rintro (⟨rfl, member⟩ | ⟨found, inside, member⟩)
          · exact ⟨listed, .inl ⟨rfl, rfl⟩, member⟩
          · exact ⟨found, .inr inside, member⟩
      rw [extendInterval]
      split_ifs with earlier same
      · rw [split, or_comm]
      · rw [split, split, same, List.mem_append]
        tauto
      · rw [split, split, ih]
        tauto

/-- The groups have the rules of the alerts at the intervals of the alerts. -/
theorem placed_addAlertRules {alerts : List AlertRule} {groups extended : List (Nat × List Json)}
    {interval : Nat} (added : addAlertRules libraries config alerts groups = .ok extended) :
    Placed extended interval rule ↔ Placed groups interval rule ∨
      ∃ alert ∈ alerts, interval = alert.effectiveInterval config.alerting ∧
        ∃ channel ∈ alert.ruleChannels, grafanaRule libraries config alert channel = .ok rule := by
  induction alerts generalizing groups with
  | nil =>
      cases added
      simp
  | cons alert rest ih =>
      rw [addAlertRules, List.foldlM_cons] at added
      obtain ⟨grown, step, others⟩ := bind_accepts.mp added
      obtain ⟨rules, rendered, same⟩ := bind_accepts.mp step
      cases same
      rw [ih others, placed_extendInterval, mem_mapM_accepts rendered, List.exists_mem_cons_iff, or_assoc]

/-- The rules about health, once for every channel. -/
def allHealthRules (libraries : Libraries) (deployment : Option String) (config : Config)
    (rpcPolling : Bool) : List Json :=
  (healthFamilies libraries deployment config rpcPolling).flatMap fun family =>
    healthRules family (configuredChannels config)

/-- What is in a document of a configuration, deletions apart. -/
structure Provisions (libraries : Libraries) (deployment : Option String) (config : Config)
    (rpcPolling : Bool) (document : Json) : Prop where
  groups : ∃ rulesByInterval, document.field "groups" = .array (rulesByInterval.map ruleGroup) ∧
    ∀ interval rule, Placed rulesByInterval interval rule ↔
      interval = rpcHealthEvaluationIntervalSeconds ∧
        rule ∈ allHealthRules libraries deployment config rpcPolling ∨
      ∃ alert ∈ config.alertRules, interval = alert.effectiveInterval config.alerting ∧
        ∃ channel ∈ alert.ruleChannels, grafanaRule libraries config alert channel = .ok rule
  contactPoints : document.field "contactPoints" =
    .array (noopContactPoint :: (configuredChannels config).map contactPoint)
  muteTimes : document.field "muteTimes" = muteTimes
  policies : document.field "policies" = policies (configuredChannels config)

variable {deployment : Option String} {rpcPolling : Bool}

theorem label_withSettings (rule : Json) (channel name : String) :
    label (withSettings rule channel) name = label rule name := by
  rw [label, field_withSettings _ _ (by decide), label]

theorem mem_allHealthRules : rule ∈ allHealthRules libraries deployment config rpcPolling ↔
    ∃ family ∈ healthFamilies libraries deployment config rpcPolling,
      ∃ channel ∈ healthChannelNames (configuredChannels config), ∃ member ∈ family,
        healthRule member channel = rule := by
  simp only [allHealthRules, healthRules, List.mem_flatMap, List.mem_map]

theorem field_addResourceDeletions (previous : Json) {name : String} (rules : name ≠ "deleteRules")
    (contactPoints : name ≠ "deleteContactPoints") :
    (addResourceDeletions document previous).field name = document.field name := by
  rw [addResourceDeletions, field_setDeletions _ _ contactPoints, field_setDeletions _ _ rules]

theorem provisioningDocument_provisions
    (provisioned : provisioningDocument libraries deployment config (configuredChannels config) rpcPolling =
      .ok document) : Provisions libraries deployment config rpcPolling document := by
  obtain ⟨groups, added, same⟩ := bind_accepts.mp provisioned
  cases same
  refine ⟨⟨groups, rfl, fun interval rule => ?_⟩, rfl, rfl, rfl⟩
  rw [placed_addAlertRules added, placed_extendInterval]
  simp [Placed, allHealthRules]

theorem nextDocument_provisions (next : nextDocument libraries environment config previous = .ok document) :
    Provisions libraries (environment "MICROSCOPE_DEPLOYMENT") config
      (config.datasource.pollsRpc libraries environment) document := by
  obtain ⟨fresh, provisioned, same⟩ := bind_accepts.mp next
  cases same
  have made := provisioningDocument_provisions provisioned
  cases previous with
  | none => exact made
  | some previous =>
      have kept : ∀ name ∈ ["groups", "contactPoints", "muteTimes", "policies"],
          (addResourceDeletions fresh previous).field name = fresh.field name := by
        intro name listed
        refine field_addResourceDeletions previous ?_ ?_ <;> rintro rfl <;> simp at listed
      obtain ⟨rulesByInterval, present, placed⟩ := made.groups
      exact {
        groups := ⟨rulesByInterval, (kept "groups" (by simp)).trans present, placed⟩
        contactPoints := (kept "contactPoints" (by simp)).trans made.contactPoints
        muteTimes := (kept "muteTimes" (by simp)).trans made.muteTimes
        policies := (kept "policies" (by simp)).trans made.policies }

theorem ruleGroup_interval (interval : Nat) (rules : List Json) :
    (ruleGroup (interval, rules)).field "interval" = .string (toString interval ++ "s") :=
  rfl

/-- The rules of a document by their groups. -/
theorem Provisions.grouped_iff {group : String} {interval : Nat}
    (provisions : Provisions libraries deployment config rpcPolling document) :
    Grouped document rule group interval ↔ group = "microscope-" ++ toString interval ++ "s" ∧
      (interval = rpcHealthEvaluationIntervalSeconds ∧
          rule ∈ allHealthRules libraries deployment config rpcPolling ∨
        ∃ alert ∈ config.alertRules, interval = alert.effectiveInterval config.alerting ∧
          ∃ channel ∈ alert.ruleChannels, grafanaRule libraries config alert channel = .ok rule) := by
  obtain ⟨rulesByInterval, present, placed⟩ := provisions.groups
  rw [← placed, Grouped, present]
  constructor
  · rintro ⟨entry, listed, named, often, member⟩
    obtain ⟨⟨seconds, rules⟩, inside, rfl⟩ := List.mem_map.mp listed
    have same : toString seconds ++ "s" = toString interval ++ "s" :=
      Json.string.inj ((ruleGroup_interval seconds rules).symm.trans often)
    obtain rfl := toString_injective ((String.append_left_inj _).mp same)
    exact ⟨(Json.string.inj named).symm, rules, inside, member⟩
  · rintro ⟨rfl, rules, inside, member⟩
    exact ⟨ruleGroup (interval, rules), List.mem_map_of_mem inside, rfl, rfl, member⟩

/-! ## Rules of alerts -/

theorem grafanaRule_watches (made : grafanaRule libraries config alert channel = .ok rule)
    (rendered : logqlQuery libraries config alert = .ok query) :
    Watches rule (queryText libraries query) (alert.effectiveLookback config.alerting) 0 := by
  obtain ⟨other, found, described⟩ := bind_accepts.mp made
  obtain ⟨description, _, same⟩ := bind_accepts.mp described
  cases found.symm.trans rendered
  cases same
  refine ⟨?_, ?_, ?_⟩ <;> rw [field_withSettings _ _ (by decide)] <;> rfl

/-- A rule of an alert fires at once, and for its condition only. -/
theorem grafanaRule_states (made : grafanaRule libraries config alert channel = .ok rule) :
    rule.field "for" = .string "0s" ∧ rule.field "noDataState" = .string "OK" ∧
      rule.field "execErrState" = .string "OK" := by
  obtain ⟨other, _, described⟩ := bind_accepts.mp made
  obtain ⟨description, _, same⟩ := bind_accepts.mp described
  cases same
  refine ⟨?_, ?_, ?_⟩ <;> rw [field_withSettings _ _ (by decide)] <;> rfl

theorem grafanaRule_labels (made : grafanaRule libraries config alert channel = .ok rule) :
    label rule "signal_kind" = alert.kind.asStr ∧ label rule "signal_name" = alert.name ∧
      label rule "severity" = alert.severity.asStr ∧ label rule "channel" = channelName channel := by
  obtain ⟨other, _, described⟩ := bind_accepts.mp made
  obtain ⟨description, _, same⟩ := bind_accepts.mp described
  cases same
  simp only [label_withSettings]
  exact ⟨rfl, rfl, rfl, rfl⟩

theorem mem_configuredChannels {channel : AlertChannel} (listed : alert ∈ config.alertRules)
    (used : channel ∈ alert.channels) : channel ∈ configuredChannels config := by
  refine List.mem_filter.mpr ⟨by cases channel <;> decide, ?_⟩
  exact List.any_eq_true.mpr ⟨alert, listed, decide_eq_true used⟩

/-- The settings of a rule of a channel, or of none. -/
structure Addressed (rule : Json) (channel : Option AlertChannel) : Prop where
  settings : rule.field "notification_settings" = channel.elim .null fun channel =>
    .object [("receiver", .string ("microscope-" ++ channel.asStr))]
  labelled : label rule "channel" = channelName channel

theorem settings_withSettings (entries : List (String × Json)) (channel : Option AlertChannel)
    (unnamed : (Json.object entries).field "notification_settings" = .null) :
    (withSettings (.object entries) (channelName channel)).field "notification_settings" =
      channel.elim .null fun channel => .object [("receiver", .string ("microscope-" ++ channel.asStr))] := by
  cases channel with
  | none => exact unnamed
  | some channel =>
      have settings : notificationSettings (channelName (some channel)) =
          some (.object [("receiver", .string ("microscope-" ++ channel.asStr))]) := by
        cases channel <;> rfl
      rw [withSettings, settings]
      dsimp only
      rw [field_set_self]
      rfl

theorem grafanaRule_addressed (made : grafanaRule libraries config alert channel = .ok rule) :
    Addressed rule channel := by
  refine ⟨?_, (grafanaRule_labels made).2.2.2⟩
  obtain ⟨other, _, described⟩ := bind_accepts.mp made
  obtain ⟨description, _, same⟩ := bind_accepts.mp described
  cases same
  exact settings_withSettings _ channel rfl

theorem healthRule_addressed (kind : HealthRule) :
    Addressed (healthRule kind (channelName channel)) channel := by
  refine ⟨settings_withSettings _ channel rfl, ?_⟩
  rw [healthRule, label_withSettings]
  rfl

section Routes

variable {time : Nat} {integration : String}

/-- The contact point of a channel has the integration of the channel. -/
theorem integrates_channel {channel : AlertChannel} (documented : stack.Documented document)
    (provisions : Provisions libraries deployment config rpcPolling document)
    (configured : channel ∈ configuredChannels config) :
    stack.integrates ("microscope-" ++ channel.asStr) integration ↔ integration = channel.asStr := by
  have points : (document.field "contactPoints").elements =
      noopContactPoint :: (configuredChannels config).map contactPoint := by
    rw [provisions.contactPoints]
    rfl
  have present : contactPoint channel ∈ (document.field "contactPoints").elements := by
    rw [points]
    exact List.mem_cons_of_mem _ (List.mem_map_of_mem configured)
  rw [documented.integrates _ ⟨contactPoint channel, present, rfl⟩]
  constructor
  · rintro ⟨point, listed, named, used, inside, typed⟩
    rw [points] at listed
    rcases List.mem_cons.mp listed with rfl | listed
    · have apart : "microscope-noop" ≠ "microscope-" ++ channel.asStr := by cases channel <;> decide
      exact absurd (Json.string.inj named) apart
    · obtain ⟨other, _, rfl⟩ := List.mem_map.mp listed
      have same : other.asStr = channel.asStr := (String.append_right_inj _).mp (Json.string.inj named)
      obtain rfl := List.mem_singleton.mp inside
      exact (Json.string.inj typed).symm.trans same
  · rintro rfl
    exact ⟨contactPoint channel, present, rfl, _, List.mem_singleton_self _, rfl⟩

/-- The alerts of a rule of a channel go to the channel, whatever the policies
of the stack are. -/
theorem reaches_channel {channel : AlertChannel} (documented : stack.Documented document)
    (provisions : Provisions libraries deployment config rpcPolling document)
    (configured : channel ∈ configuredChannels config) (listed : rule ∈ documentRules document)
    (addressed : Addressed rule (some channel)) :
    (∃ receiver, stack.routes rule time receiver ∧ stack.integrates receiver integration) ↔
      integration = channel.asStr := by
  have routed := documented.named rule listed _ addressed.settings time
  constructor
  · rintro ⟨receiver, routes, integrates⟩
    obtain rfl := (routed receiver).mp routes
    exact (integrates_channel documented provisions configured).mp integrates
  · intro same
    exact ⟨_, (routed _).mpr rfl, (integrates_channel documented provisions configured).mpr same⟩

/-- The policies of the document send the alerts of a rule without a channel
nowhere. -/
theorem routes_none (owns : stack.Owns document)
    (provisions : Provisions libraries deployment config rpcPolling document)
    (listed : rule ∈ documentRules document) (addressed : Addressed rule none) (receiver : String) :
    ¬stack.routes rule time receiver := by
  intro routed
  have takes : Takes noopRoute "channel" "none" := ⟨rfl, rfl, rfl⟩
  obtain ⟨timing, timings, called, always⟩ : ∃ timing ∈ (document.field "muteTimes").elements,
      timing.field "name" = .string "microscope-always" ∧
        wholeDay ∈ (timing.field "time_intervals").elements := by
    rw [provisions.muteTimes]
    exact ⟨_, List.mem_singleton_self _, rfl, List.mem_singleton_self _⟩
  have muted := owns.muted timing timings _ called always time
  have unmuted := ((owns.taken _ [] noopRoute _ provisions.policies rfl rule listed addressed.settings
    (fun _ absent => absurd absent List.not_mem_nil) "channel" "none" takes addressed.labelled time
    receiver).mp routed).2
  exact unmuted "microscope-always" (List.mem_singleton_self _) muted

theorem configured_ruleChannel (listed : alert ∈ config.alertRules) (member : channel ∈ alert.ruleChannels) :
    ∀ used, channel = some used → used ∈ alert.channels ∧ used ∈ configuredChannels config := by
  rintro used rfl
  unfold AlertRule.ruleChannels at member
  split at member
  · cases List.mem_singleton.mp member
  · obtain ⟨other, inside, same⟩ := List.mem_map.mp member
    obtain rfl := Option.some.inj same
    exact ⟨inside, mem_configuredChannels listed inside⟩

end Routes

/-! ## When a rule fires -/

theorem accepted_timing {defaults : AlertingConfig} (valid : alert.validate libraries defaults = .ok ()) :
    0 < alert.effectiveInterval defaults ∧ alert.effectiveInterval defaults ≤ alert.effectiveLookback defaults := by
  simp only [AlertRule.validate, bind_accepts] at valid
  obtain ⟨_, _, _, _, _, _, timing⟩ := valid
  unfold validateTiming at timing
  split_ifs at timing
  omega

/-- A record of the signature was logged within a window, and the alert is about
it. -/
def AlertRule.Sees (alert : AlertRule) (reading : Alerting.Reading) (config : Config)
    (logged : Nat → List Json) (window time : Nat) (signature : String) : Prop :=
  ∃ second, ∃ record ∈ logged second, second ≤ time ∧ time < second + window ∧
    fieldText reading record "signature" = signature ∧ alert.Matches reading config record

section Seen

variable {time : Nat} {signature : String} (accepted : config.validate libraries idlPath idlFile = .ok ())
  (listed : alert ∈ config.alertRules) (serves : Serves stack logged reading libraries config)

include accepted listed serves

/-- What Loki counts for an alert. -/
theorem counts_alert : ∃ query, logqlQuery libraries config alert = .ok query ∧ ∀ time,
      let records := recent logged (alert.effectiveLookback config.alerting) time
      stack.counts (queryText libraries query) time =
          query.evaluate (fieldText reading) reading.number records ∧
        ∀ signature, signature ∈ query.positive (fieldText reading) reading.number records ↔
          alert.Sees reading config logged (alert.effectiveLookback config.alerting) time signature := by
  obtain ⟨query, rendered, uniform, positive⟩ := logqlQuery_positive_iff accepted listed
  refine ⟨query, rendered, fun time => ⟨?_, fun signature => ?_⟩⟩
  · rw [serves alert listed query rendered, instant_eq uniform]
  · rw [positive reading]
    constructor
    · rintro ⟨record, present, signed, matching⟩
      obtain ⟨second, earlier, within, inside⟩ := mem_recent.mp present
      exact ⟨second, record, inside, earlier, within, signed, matching⟩
    · rintro ⟨second, record, inside, earlier, within, signed, matching⟩
      exact ⟨record, mem_recent.mpr ⟨second, earlier, within, inside⟩, signed, matching⟩

variable (documented : stack.Documented document) (ruled : rule ∈ documentRules document)
  (made : grafanaRule libraries config alert channel = .ok rule)

include documented ruled made

/-- The condition of an alert's rule holds of no signature whose records are two
windows old. -/
theorem sees_of_satisfied (satisfied : stack.satisfied rule time signature) :
    alert.Sees reading config logged (2 * alert.effectiveLookback config.alerting) time signature := by
  obtain ⟨query, rendered, counts⟩ := counts_alert accepted listed serves
  obtain ⟨step, count, last, counted⟩ :=
    (documented.satisfied rule ruled _ _ _ (grafanaRule_watches made rendered) time signature).mp satisfied
  obtain ⟨reached, past⟩ := documented.steps_within _ _ _ last.within
  obtain ⟨evaluated, positive⟩ := counts step
  have found : signature ∈ query.positive (fieldText reading) reading.number
      (recent logged (alert.effectiveLookback config.alerting) step) :=
    ⟨count, mem_of_lookup (evaluated ▸ last.counted), counted⟩
  obtain ⟨second, record, inside, earlier, within, matching⟩ := (positive signature).mp found
  exact ⟨second, record, inside, earlier.trans past, by omega, matching⟩

/-- It holds of the other signatures, as long as the range has a point for each
second. -/
theorem satisfied_of_sees (short : alert.effectiveLookback config.alerting ≤ 43200) (signed : signature ≠ "")
    (sees : alert.Sees reading config logged (2 * alert.effectiveLookback config.alerting) time signature) :
    stack.satisfied rule time signature := by
  obtain ⟨often, shorter⟩ := accepted_timing (accepted_alert accepted listed).1
  obtain ⟨query, rendered, counts⟩ := counts_alert accepted listed serves
  obtain ⟨second, record, inside, earlier, within, matching⟩ := sees
  -- The last second of the range at which the record is still in the window.
  let step := min time (second + alert.effectiveLookback config.alerting - 1)
  obtain ⟨evaluated, positive⟩ := counts step
  have seen : ((stack.counts (queryText libraries query) step).lookup signature).isSome = true := by
    rw [evaluated, lookup_isSome_iff signed]
    exact (positive signature).mpr ⟨second, record, inside, by omega, by omega, matching⟩
  obtain ⟨latest, count, last⟩ := documented.exists_last short
    (show time ≤ step + alert.effectiveLookback config.alerting by omega) (Nat.min_le_left _ _) seen
  have positive : 0 < count :=
    positive_of_named signed (mem_of_lookup ((counts latest).1 ▸ last.counted))
  exact (documented.satisfied rule ruled _ _ _ (grafanaRule_watches made rendered) time signature).mpr
    ⟨latest, count, last, positive⟩

end Seen

/-! ## Notices -/

section Notices

variable {channel : AlertChannel} {signature : String} {second : Nat} {record : Json}
  (accepted : config.validate libraries idlPath idlFile = .ok ())
  (provisions : Provisions libraries deployment config rpcPolling document)

include accepted provisions

/-- The rule of an alert for one of its channels. -/
theorem exists_channelRule (listed : alert ∈ config.alertRules) (used : channel ∈ alert.channels) :
    ∃ rule, grafanaRule libraries config alert (some channel) = .ok rule ∧
      Grouped document rule (alert.group config.alerting) (alert.effectiveInterval config.alerting) ∧
      ∀ signature, Carries document rule (alert.notice channel signature) := by
  obtain ⟨rule, made, _⟩ := grafanaRule_exists accepted listed (some channel)
  have ruled : some channel ∈ alert.ruleChannels := by
    rw [AlertRule.ruleChannels, if_neg (by simpa using List.ne_nil_of_mem used)]
    exact List.mem_map_of_mem used
  have grouped : Grouped document rule (alert.group config.alerting)
      (alert.effectiveInterval config.alerting) :=
    provisions.grouped_iff.mpr ⟨rfl, .inr ⟨alert, listed, rfl, _, ruled, made⟩⟩
  obtain ⟨kind, name, severity, _⟩ := grafanaRule_labels made
  exact ⟨rule, made, grouped, fun _ => ⟨grouped.listed, kind, name, severity⟩⟩

variable (serves : Serves stack logged reading libraries config) (documented : stack.Documented document)

include serves documented

section Records

variable (listed : alert ∈ config.alertRules) (short : alert.effectiveLookback config.alerting ≤ 43200)
  (used : channel ∈ alert.channels) (recorded : record ∈ logged second)
  (matching : alert.Matches reading config record) (signed : signature ≠ "")
  (same : fieldText reading record "signature" = signature)

include listed short used recorded matching signed same

/-- The alert of a signature fires for the two windows after each of its
records. -/
theorem alarms_after {round : Nat}
    (after : second ≤ alert.evaluation stack config.alerting round)
    (within : alert.evaluation stack config.alerting round <
      second + 2 * alert.effectiveLookback config.alerting) :
    Alarms stack document (alert.evaluation stack config.alerting round) (alert.notice channel signature) := by
  obtain ⟨rule, made, grouped, carries⟩ := exists_channelRule accepted provisions listed used
  have satisfied := satisfied_of_sees accepted listed serves documented grouped.listed made short signed
    ⟨second, record, recorded, after, within, same, matching⟩
  have fires := documented.fires_at_once grouped (grafanaRule_states made).1 satisfied
  exact ⟨rule, carries signature, fires, (reaches_channel documented provisions
    (mem_configuredChannels listed used) grouped.listed (grafanaRule_addressed made)).mpr rfl⟩

/-- The first record of a signature is notified after an interval and the wait,
if its alert fires that long. -/
theorem announces_first (started : stack.phase (alert.group config.alerting) ≤ second)
    (first : ∀ earlier < second, ∀ other ∈ logged earlier, alert.Matches reading config other →
      fieldText reading other "signature" ≠ signature)
    (long : alert.effectiveInterval config.alerting + stack.wait ≤
      2 * alert.effectiveLookback config.alerting) :
    ∃ time, second ≤ time ∧ time < second + alert.effectiveInterval config.alerting + stack.wait ∧
      Announces stack document time (alert.notice channel signature) := by
  obtain ⟨often, _⟩ := accepted_timing (accepted_alert accepted listed).1
  obtain ⟨rule, made, grouped, carries⟩ := exists_channelRule accepted provisions listed used
  obtain ⟨immediate, noData, failed⟩ := grafanaRule_states made
  obtain ⟨round, after, soon⟩ := exists_evaluation often started
  have monotone : ∀ {one other : Nat}, one ≤ other → one * alert.effectiveInterval config.alerting ≤
      other * alert.effectiveInterval config.alerting := fun ordered => Nat.mul_le_mul_right _ ordered
  have before : ∀ earlier < round, ¬stack.fires rule (alert.evaluation stack config.alerting earlier)
      signature := by
    intro earlier less fires
    obtain ⟨back, _, _, satisfied⟩ := documented.fired rule _ _ grouped noData failed signature earlier fires
    obtain ⟨moment, other, logs, past, _, about, matched⟩ :=
      sees_of_satisfied accepted listed serves documented grouped.listed made satisfied
    have step := monotone (Nat.succ_le_of_lt less)
    have sooner := monotone (Nat.sub_le earlier back)
    rw [Nat.succ_mul] at step
    rw [Stack.evaluation] at past
    exact first moment (by omega) other logs matched about
  have during : ∀ later, round ≤ later → alert.evaluation stack config.alerting later ≤
      alert.evaluation stack config.alerting round + stack.wait →
        stack.fires rule (alert.evaluation stack config.alerting later) signature := by
    intro later ordered within
    have apart := monotone ordered
    simp only [AlertRule.evaluation, Stack.evaluation] at within ⊢
    refine documented.fires_at_once grouped immediate (satisfied_of_sees accepted listed serves documented
      grouped.listed made short signed ⟨second, record, recorded, ?_, ?_, same, matching⟩) <;>
      rw [Stack.evaluation] <;> omega
  have routed := documented.named rule grouped.listed _ (grafanaRule_addressed made).settings
  have integrated := (integrates_channel documented provisions (mem_configuredChannels listed used)).mpr rfl
  obtain ⟨time, reached, waited, notified⟩ := documented.sent rule _ _ grouped signature _ _ round before during
    (fun time => (routed time _).mpr rfl) integrated
  rw [Stack.evaluation] at reached waited
  exact ⟨time, by omega, by omega, rule, carries signature, notified⟩

end Records

/-- What the policies of the document have notified is a recent transaction of
an alert. -/
theorem announced_matches (owns : stack.Owns document) {time : Nat} {notice : Notice}
    (announced : Announces stack document time notice) (alerted : notice.kind ≠ "datasource") :
    ∃ alert ∈ config.alertRules, ∃ channel ∈ alert.channels, ∃ second, ∃ record ∈ logged second,
      alert.Matches reading config record ∧ second ≤ time ∧
        time < second + 2 * alert.effectiveLookback config.alerting +
          3 * alert.effectiveInterval config.alerting ∧
        notice = alert.notice channel (fieldText reading record "signature") := by
  obtain ⟨rule, carries, notified⟩ := announced
  obtain ⟨reached, group, interval, round, grouped, after, within, fires⟩ :=
    documented.lists rule carries.listed _ _ _ notified
  obtain ⟨_, ⟨_, health⟩ | ⟨alert, listed, same, channel, ruled, made⟩⟩ := provisions.grouped_iff.mp grouped
  · obtain ⟨family, _, channel, _, member, _, rfl⟩ := mem_allHealthRules.mp health
    have kind := carries.kind
    rw [healthRule, label_withSettings] at kind
    exact absurd kind.symm alerted
  · obtain ⟨_, noData, failed⟩ := grafanaRule_states made
    obtain ⟨back, few, _, satisfied⟩ := documented.fired rule _ _ grouped noData failed _ round fires
    obtain ⟨second, record, recorded, past, recent, signed, matching⟩ :=
      sees_of_satisfied accepted listed serves documented grouped.listed made satisfied
    have sooner : round * interval ≤ (round - back) * interval + back * interval := by
      rw [← Nat.add_mul]
      exact Nat.mul_le_mul_right _ (by omega)
    have twice : back * interval ≤ 2 * interval := Nat.mul_le_mul_right _ few
    have less : (round - back) * interval ≤ round * interval := Nat.mul_le_mul_right _ (Nat.sub_le _ _)
    rw [Stack.evaluation] at after within past recent
    obtain ⟨receiver, routes, integrates⟩ := reached
    cases channel with
    | none =>
        exact absurd routes (routes_none owns provisions grouped.listed (grafanaRule_addressed made) receiver)
    | some used =>
        obtain ⟨charged, configured⟩ := configured_ruleChannel listed ruled used rfl
        have integration := (reaches_channel documented provisions configured grouped.listed
          (grafanaRule_addressed made)).mp ⟨receiver, routes, integrates⟩
        obtain ⟨kind, name, severity, _⟩ := grafanaRule_labels made
        refine ⟨alert, listed, used, charged, second, record, recorded, matching, by omega, by omega, ?_⟩
        obtain ⟨_, noticeKind, noticeName, noticeSeverity, _⟩ := notice
        obtain rfl := carries.kind.symm.trans kind
        obtain rfl := carries.name.symm.trans name
        obtain rfl := carries.severity.symm.trans severity
        subst integration
        rw [AlertRule.notice, signed]

end Notices

section Example

variable (counts : String → Nat → List (String × Nat))

def exampleSatisfied (rule : Json) (time : Nat) (series : String) : Prop :=
  ∃ text window threshold, Watches rule text window threshold ∧ ∃ step count,
    (time ≤ step + window ∧ step ≤ time) ∧ (counts text step).lookup series = some count ∧
      (∀ later, time ≤ later + window ∧ later ≤ time → step < later →
        (counts text later).lookup series = none) ∧ threshold < count

def exampleFires (rule : Json) (time : Nat) (series : String) : Prop :=
  ∃ group interval pending round rounds, Grouped warningDocument rule group interval ∧
    rule.field "for" = .string (toString pending ++ "s") ∧ time = 3 + round * interval ∧ rounds ≤ round ∧
      pending ≤ rounds * interval ∧
      ∀ back ≤ rounds, exampleSatisfied counts rule (3 + (round - back) * interval) series

def exampleRoutes (rule : Json) (receiver : String) : Prop :=
  rule.field "notification_settings" = .object [("receiver", .string receiver)]

def exampleIntegrates (receiver integration : String) : Prop :=
  ∃ point ∈ (warningDocument.field "contactPoints").elements, point.field "name" = .string receiver ∧
    ∃ used ∈ (point.field "receivers").elements, used.field "type" = .string integration

/-- Groups are evaluated from the third second on, and an alert that begins to
fire is notified five seconds later. -/
def exampleStack : Stack where
  counts := counts
  steps window time step := time ≤ step + window ∧ step ≤ time
  phase _ := 3
  satisfied := exampleSatisfied counts
  fires := exampleFires counts
  routes rule _ := exampleRoutes rule
  mutes timing _ := timing = "microscope-always"
  integrates := exampleIntegrates
  notifies rule time series integration :=
    (∃ receiver, exampleRoutes rule receiver ∧ exampleIntegrates receiver integration) ∧
    ∃ group interval round, Grouped warningDocument rule group interval ∧
      time = 3 + round * interval + 5 ∧ exampleFires counts rule (3 + round * interval) series ∧
      ∀ earlier < round, ¬exampleFires counts rule (3 + earlier * interval) series
  wait := 60

theorem Watches.unique {text other : String} {window width threshold bound : Nat}
    (first : Watches rule text window threshold) (second : Watches rule other width bound) :
    text = other ∧ window = width ∧ threshold = bound := by
  have same := first.data.symm.trans second.data
  simp only [ruleData, lokiQuery, Json.array.injEq, List.cons.injEq, Json.object.injEq, Prod.mk.injEq,
    Json.string.injEq, Json.number.injEq, true_and, and_true] at same
  obtain ⟨⟨widths, texts⟩, conditions⟩ := same
  exact ⟨texts, widths, toString_injective ((String.append_right_inj _).mp conditions)⟩

theorem transferConfig_accepted :
    (severityConfig transferAlert).validate transferLibraries "idl.json" transferIdl = .ok () := by
  decide +kernel

theorem warningDocument_next : nextDocument transferLibraries slackEnvironment (severityConfig transferAlert)
    none = .ok warningDocument :=
  nextDocument_documentAfter transferAlert none transferConfig_accepted

theorem warningDocument_intervals {group : String} {interval : Nat}
    (grouped : Grouped warningDocument rule group interval) : interval = 30 ∨ interval = 10 := by
  obtain ⟨_, ⟨often, _⟩ | ⟨alert, listed, same, _⟩⟩ :=
    (nextDocument_provisions warningDocument_next).grouped_iff.mp grouped
  · exact .inl often
  · obtain rfl := List.mem_singleton.mp listed
    exact .inr same

theorem exampleStack_documented : (exampleStack counts).Documented warningDocument where
  steps_within _ _ _ inside := inside
  steps_each _ _ _ _ reached past := ⟨reached, past⟩
  satisfied rule _ text window threshold watches time series := by
    constructor
    · rintro ⟨_, _, _, other, step, count, within, counted, final, more⟩
      obtain ⟨rfl, rfl, rfl⟩ := watches.unique other
      exact ⟨step, count, ⟨within, counted, final⟩, more⟩
    · rintro ⟨step, count, last, more⟩
      exact ⟨text, window, threshold, watches, step, count, last.within, last.counted, last.final, more⟩
  fires rule group interval pending grouped pends series round rounds fewer enough holds :=
    ⟨group, interval, pending, round, rounds, grouped, pends, rfl, fewer, enough, holds⟩
  fired rule group interval _ _ _ series round fires := by
    obtain ⟨_, often, _, turn, _, _, _, same, _, _, holds⟩ := fires
    refine ⟨0, Nat.zero_le _, Nat.zero_le _, ?_⟩
    have held := holds 0 (Nat.zero_le _)
    rw [Nat.sub_zero, ← same] at held
    exact held
  named rule _ receiver settings _ other := by
    constructor
    · intro routed
      have same := settings.symm.trans routed
      simpa using same.symm
    · rintro rfl
      exact settings
  integrates _ _ _ := Iff.rfl
  sent rule group interval grouped series receiver integration round before during routed integrated := by
    have soon : 5 ≤ 60 := by decide
    refine ⟨3 + round * interval + 5, Nat.le_add_right _ _, Nat.add_le_add_left soon _, ?_⟩
    have fires := during round le_rfl (Nat.le_add_right _ _)
    exact ⟨⟨receiver, routed 0, integrated⟩, group, interval, round, grouped, rfl, fires, before⟩
  lists rule _ time series integration := by
    rintro ⟨reached, group, interval, round, grouped, rfl, fires, _⟩
    refine ⟨reached, group, interval, round, grouped, Nat.le_add_right _ _, ?_, fires⟩
    have often := warningDocument_intervals grouped
    change 3 + round * interval + 5 < 3 + round * interval + interval
    omega

theorem exampleStack_owns : (exampleStack counts).Owns warningDocument where
  taken root before route after _ _ rule listed unnamed := by
    have named : ∀ rule ∈ documentRules warningDocument,
        ((rule.field "notification_settings").field "receiver").toText.isSome = true := by
      decide +kernel
    have receiver := named rule listed
    rw [unnamed] at receiver
    contradiction
  muted timing listed name called _ _ := by
    rw [(nextDocument_provisions warningDocument_next).muteTimes] at listed
    obtain rfl := List.mem_singleton.mp listed
    exact (Json.string.inj called).symm
  waits root groupWait groupInterval present waits repeats := by
    have single := (nextDocument_provisions warningDocument_next).policies.symm.trans present
    obtain rfl := List.singleton_inj.mp (Json.array.inj single)
    have five : toString 5 ++ "s" = toString groupWait ++ "s" := Json.string.inj waits
    have one : toString 1 ++ "m" = toString groupInterval ++ "m" := Json.string.inj repeats
    obtain rfl := toString_injective ((String.append_left_inj _).mp five)
    obtain rfl := toString_injective ((String.append_left_inj _).mp one)
    rfl

end Example

def transferRecord : Json := .object [
  ("kind", .string "program_event"),
  ("name", .string "transfer_event"),
  ("program_id", .string "11111111111111111111111111111111"),
  ("signature", .string "5sig"),
  ("data", .object [("amount", .number 2000)])]

def numberReading : Alerting.Reading where
  number text := (parseUnsigned (1 <<< 64) text.toList).map fun number => (number : ℚ)
  nestedText _ := ""

def transferLog (second : Nat) : List Json := if second = 105 then [transferRecord] else []

/-- What Loki counts for the alert over the transfer. -/
def transferCounts (text : String) (time : Nat) : List (String × Nat) :=
  match logqlQuery transferLibraries (severityConfig transferAlert) transferAlert with
  | .ok query =>
      if text = queryText transferLibraries query then
        instant query (fieldText numberReading) numberReading.number transferLog time
      else []
  | .error _ => []

theorem transferCounts_serves : Serves (exampleStack transferCounts) transferLog numberReading transferLibraries
    (severityConfig transferAlert) := by
  intro alert listed query rendered time
  obtain rfl := List.mem_singleton.mp listed
  simp only [exampleStack, transferCounts, rendered, if_pos]

theorem transferRecord_matches :
    transferAlert.Matches numberReading (severityConfig transferAlert) transferRecord := by
  refine ⟨⟨by decide, by decide, by decide⟩, .inr ⟨_, List.mem_cons_self, ?_⟩⟩
  have amount : fieldText numberReading transferRecord "data.amount" = "2000" := by decide
  have number : numberReading.number "2000" = some 2000 := by
    have read : parseUnsigned (1 <<< 64) "2000".toList = some 2000 := by decide
    change (parseUnsigned (1 <<< 64) "2000".toList).map (fun number : Nat => (number : ℚ)) = _
    rw [read]
    norm_num
  change ComparesText numberReading .gte (fieldText numberReading transferRecord "data.amount") (1000 : ℤ)
  rw [amount]
  exact ⟨by decide, 2000, number, by norm_num [Compares]⟩

end Microscope.Alerting
