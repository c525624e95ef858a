import Microscope.Alerting.Routing

namespace Microscope.Alerting

open Microscope.Data

/-! # What the lines of the indexer page for

A rule pends only while its condition holds, and a line is counted for the
window of its rule only.  The rules about lines of the indexer pend for at most
half of their windows, so that enough lines in a row make them fire whatever the
pending period of the configuration is.
-/

/-- The count of the lines about discarded updates. -/
def droppedLines (selector : String) : String :=
  "(sum(count_over_time(" ++ selector ++ " |~ \"Failed to send (account|transaction)\" [" ++
    toString healthLogWindowSeconds ++ "s])) or on() vector(0))"

/-- The count of the lines about interruptions of the stream. -/
def interruptedLines (selector : String) : String :=
  "(sum(count_over_time(" ++ selector ++
    " |~ \"Stream timeout - no messages|Failed to subscribe|Geyser stream error|Stream closed\" [" ++
    toString streamInterruptionWindowSeconds ++ "s])) or on() vector(0))"

variable {libraries : Libraries} {config : Config} {environment : String → Option String}
  {document : Json} {previous : Option Json} {stack : Stack} {deployment : Option String}
  {rpcPolling : Bool} {lines : Nat → List String} {matching : String → Bool} {time span : Nat}

/-- Loki counts the lines of the window that a pattern matches. -/
def CountsLines (stack : Stack) (text : String) (lines : Nat → List String) (matching : String → Bool)
    (window : Nat) : Prop :=
  ∀ time, stack.counts text time = [("", (recent lines window time).countP matching)]

/-- A rule about lines of the indexer. -/
structure AboutLines (kind : HealthRule) (text : String) (window threshold : Nat) : Prop where
  query : kind.query = lokiQuery text window
  pending : kind.pendingSeconds ≤ window / 2
  condition : kind.condition = "$B > " ++ toString threshold

/-- The group of the rules about health. -/
def healthGroup : String := "microscope-" ++ toString rpcHealthEvaluationIntervalSeconds ++ "s"

theorem healthRule_watches {kind : HealthRule} {text : String} {window threshold : Nat} (channel : String)
    (about : AboutLines kind text window threshold) :
    Watches (healthRule kind channel) text window threshold := by
  refine ⟨?_, ?_, ?_⟩
  · rw [← about.query, ← about.condition]
    exact field_withSettings _ _ (by decide)
  · exact field_withSettings _ _ (by decide)
  · exact field_withSettings _ _ (by decide)

/-- A rule about lines fires for every channel soon after more lines than its
threshold, if these came in less than the half of its window that it does not
pend for. -/
theorem lines_alarm (provisions : Provisions libraries deployment config rpcPolling document)
    (documented : stack.Documented document) {family : List HealthRule} {kind : HealthRule} {text : String}
    {window threshold : Nat} {channel : AlertChannel}
    (present : family ∈ healthFamilies libraries deployment config rpcPolling) (listed : kind ∈ family)
    (about : AboutLines kind text window threshold) (counts : CountsLines stack text lines matching window)
    (configured : channel ∈ configuredChannels config) (started : stack.phase healthGroup ≤ time)
    (many : threshold < (recent lines span time).countP matching)
    (short : span + window / 2 + 58 ≤ window) (points : window ≤ 43200) :
    ∃ later, time ≤ later ∧ later < time + window ∧ Alarms stack document later
      ⟨channel.asStr, "datasource", kind.signalName, kind.severity, ""⟩ := by
  have named : channelName (some channel) ∈ healthChannelNames (configuredChannels config) := by
    rw [healthChannelNames, if_neg (by simpa using List.ne_nil_of_mem configured)]
    exact List.mem_map_of_mem configured
  let rule := healthRule kind (channelName (some channel))
  have member : rule ∈ allHealthRules libraries deployment config rpcPolling :=
    mem_allHealthRules.mpr ⟨family, present, _, named, kind, listed, rfl⟩
  have grouped : Grouped document rule healthGroup rpcHealthEvaluationIntervalSeconds :=
    provisions.grouped_iff.mpr ⟨rfl, .inl ⟨rfl, member⟩⟩
  have pends : rule.field "for" = .string (toString kind.pendingSeconds ++ "s") :=
    field_withSettings _ _ (by decide)
  have holds : ∀ later, time ≤ later → later < time + window + 1 - span →
      stack.satisfied rule later "" := by
    intro later after within
    have counted : (stack.counts text later).lookup "" = some ((recent lines window later).countP matching) := by
      rw [counts later]
      simp
    have enough : (recent lines span time).countP matching ≤ (recent lines window later).countP matching :=
      (recent_sublist after (by omega)).countP_le
    exact (documented.satisfied rule grouped.listed _ _ _ (healthRule_watches _ about) later "").mpr
      ⟨later, _, documented.last_at points counted, many.trans_le enough⟩
  have lasting : 0 < span := by
    obtain ⟨line, found, _⟩ := List.countP_pos_iff.mp (Nat.zero_lt_of_lt many)
    obtain ⟨earlier, past, inTime, _⟩ := mem_recent.mp found
    omega
  have long : time + kind.pendingSeconds + 2 * rpcHealthEvaluationIntervalSeconds ≤
      time + window + 1 - span + 1 := by
    have half := about.pending
    unfold rpcHealthEvaluationIntervalSeconds
    omega
  obtain ⟨round, after, within, fires⟩ :=
    documented.fires_throughout grouped pends (by decide) started holds long
  refine ⟨_, after, by omega, rule, ⟨grouped.listed, ?_, ?_, ?_⟩, fires, (reaches_channel documented
    provisions configured grouped.listed (healthRule_addressed kind)).mpr rfl⟩
  all_goals exact label_withSettings _ _ _

/-- The rule about discarded updates. -/
theorem exists_dropRule (pendingSeconds : Nat) : ∃ kind ∈ datasourceDropRules libraries deployment pendingSeconds,
    AboutLines kind (droppedLines (logStreamSelector libraries deployment)) healthLogWindowSeconds 0 ∧
      kind.signalName = "datasource_updates_dropped" ∧ kind.severity = "critical" :=
  ⟨_, List.mem_cons_self, ⟨rfl, Nat.min_le_right _ _, rfl⟩, rfl, rfl⟩

/-- The rule about an interrupted stream. -/
theorem exists_interruptionRule (pendingSeconds : Nat) :
    ∃ kind ∈ yellowstoneHealthRules libraries deployment pendingSeconds,
      AboutLines kind (interruptedLines (logStreamSelector libraries deployment))
          streamInterruptionWindowSeconds streamInterruptionThreshold ∧
        kind.signalName = "yellowstone_stream_interrupted" ∧ kind.severity = "error" :=
  ⟨_, List.mem_cons_self, ⟨rfl, Nat.min_le_right _ _, rfl⟩, rfl, rfl⟩

def eventfulLines (second : Nat) : List String :=
  if second = 50 then ["Failed to send transaction update"]
  else if second ∈ [60, 64, 68, 72, 76, 80] then ["Stream closed"]
  else []

def isDropped (line : String) : Bool := line = "Failed to send transaction update"

def isInterrupted (line : String) : Bool := line = "Stream closed"

def eventfulSelector : String := logStreamSelector transferLibraries (slackEnvironment "MICROSCOPE_DEPLOYMENT")

def eventfulCounts (text : String) (time : Nat) : List (String × Nat) :=
  if text = droppedLines eventfulSelector then
    [("", (recent eventfulLines healthLogWindowSeconds time).countP isDropped)]
  else if text = interruptedLines eventfulSelector then
    [("", (recent eventfulLines streamInterruptionWindowSeconds time).countP isInterrupted)]
  else []

theorem eventfulCounts_dropped : CountsLines (exampleStack eventfulCounts) (droppedLines eventfulSelector)
    eventfulLines isDropped healthLogWindowSeconds := by
  intro time
  simp only [exampleStack, eventfulCounts, if_pos]

theorem eventfulCounts_interrupted : CountsLines (exampleStack eventfulCounts)
    (interruptedLines eventfulSelector) eventfulLines isInterrupted streamInterruptionWindowSeconds := by
  have apart : interruptedLines eventfulSelector ≠ droppedLines eventfulSelector := by decide +kernel
  intro time
  simp only [exampleStack, eventfulCounts, if_neg apart, if_pos]

end Microscope.Alerting
