import Mathlib.Data.Nat.Find
import Microscope.Alerting.Document

namespace Microscope.Alerting

open Microscope.Data Microscope.Logql

/-! # What a stack does with a document

Grafana and its Loki are parameters: what happens in a stack is known only as
far as the documentation of Grafana promises it, and each promise is a field of
its own.  The promises are those of a stack that works: its queries succeed and
its notifications are sent.  Times are in seconds.
-/

/-- What happens in a stack.  A series is named by the label that its query
counts by. -/
structure Stack where
  /-- What Loki counts for a query at a time. -/
  counts : (query : String) → (time : Nat) → List (String × Nat)
  /-- The times at which Loki counts for a range that ends at a time. -/
  steps : (window time step : Nat) → Prop
  /-- The first evaluation of a group. -/
  phase : (group : String) → Nat
  /-- The condition of a rule, if the rule is evaluated at the time. -/
  satisfied : (rule : Json) → (time : Nat) → (series : String) → Prop
  /-- The alert of a series fires after an evaluation. -/
  fires : (rule : Json) → (time : Nat) → (series : String) → Prop
  /-- The contact points that are notified of the alerts of a rule. -/
  routes : (rule : Json) → (time : Nat) → (receiver : String) → Prop
  mutes : (timing : String) → (time : Nat) → Prop
  integrates : (receiver integration : String) → Prop
  /-- A notification that lists the alert of a series as firing. -/
  notifies : (rule : Json) → (time : Nat) → (series integration : String) → Prop
  /-- How long alerts wait for a notification of their group. -/
  wait : Nat

/-- The label of a rule, empty where it has none. -/
def label (rule : Json) (name : String) : String := (((rule.field "labels").field name).toText).getD ""

/-- A rule of a group of the document, with the interval of the group. -/
def Grouped (document rule : Json) (group : String) (interval : Nat) : Prop :=
  ∃ entry ∈ (document.field "groups").elements, entry.field "name" = .string group ∧
    entry.field "interval" = .string (toString interval ++ "s") ∧ rule ∈ (entry.field "rules").elements

theorem Grouped.listed {document rule : Json} {group : String} {interval : Nat}
    (grouped : Grouped document rule group interval) : rule ∈ documentRules document := by
  obtain ⟨entry, present, _, _, member⟩ := grouped
  exact List.mem_flatMap.mpr ⟨entry, present, member⟩

/-- A rule that compares the last count of a query over a window with a
threshold. -/
structure Watches (rule : Json) (text : String) (window threshold : Nat) : Prop where
  data : rule.field "data" = ruleData (lokiQuery text window) ("$B > " ++ toString threshold)
  condition : rule.field "condition" = .string "C"
  isPaused : rule.field "isPaused" = .bool false

/-- A route below the root that takes the rules with one label. -/
structure Takes (route : Json) (name value : String) : Prop where
  matchers : route.field "object_matchers" = .array [.ofStrings [name, "=", value]]
  stops : route.field "continue" = .bool false
  leaf : route.field "routes" = .null

/-- An interval of a timing, with all times of a day. -/
def wholeDay : Json :=
  .object [
    ("location", .string "UTC"),
    ("times", .array [.object [("start_time", .string "00:00"), ("end_time", .string "24:00")]])]

namespace Stack

section Promises

variable (stack : Stack) (document : Json)

def evaluation (group : String) (interval round : Nat) : Nat := stack.phase group + round * interval

/-- The last count of a series in a range. -/
structure Last (text : String) (window time : Nat) (series : String) (step count : Nat) : Prop where
  within : stack.steps window time step
  counted : (stack.counts text step).lookup series = some count
  final : ∀ later, stack.steps window time later → step < later →
    (stack.counts text later).lookup series = none

/-- What is promised about the rules and the contact points of a document. -/
structure Documented : Prop where
  /-- Loki counts within the range. -/
  steps_within : ∀ window time step, stack.steps window time step → time ≤ step + window ∧ step ≤ time
  /-- The queries ask for at most 43200 points, at least a second apart. -/
  steps_each : ∀ window time step, window ≤ 43200 → time ≤ step + window → step ≤ time →
    stack.steps window time step
  /-- The condition of a rule over logs compares the last count with a number. -/
  satisfied : ∀ rule ∈ documentRules document, ∀ text window threshold,
    Watches rule text window threshold → ∀ time series,
      (stack.satisfied rule time series ↔
        ∃ step count, stack.Last text window time series step count ∧ threshold < count)
  /-- A rule fires when its condition has held for its pending period. -/
  fires : ∀ rule group interval pending, Grouped document rule group interval →
    rule.field "for" = .string (toString pending ++ "s") → ∀ series round rounds,
      rounds ≤ round → pending ≤ rounds * interval →
      (∀ back ≤ rounds, stack.satisfied rule (stack.evaluation group interval (round - back)) series) →
      stack.fires rule (stack.evaluation group interval round) series
  /-- An alert whose series is missing keeps its state for two evaluations.
  Apart from that, a rule fires only where its condition holds, if no data and
  errors count as normal. -/
  fired : ∀ rule group interval, Grouped document rule group interval →
    rule.field "noDataState" = .string "OK" → rule.field "execErrState" = .string "OK" → ∀ series round,
      stack.fires rule (stack.evaluation group interval round) series → ∃ back ≤ 2, back ≤ round ∧
        stack.satisfied rule (stack.evaluation group interval (round - back)) series
  /-- The receiver that a rule names takes the place of the policies. -/
  named : ∀ rule ∈ documentRules document, ∀ receiver,
    rule.field "notification_settings" = .object [("receiver", .string receiver)] →
      ∀ time other, stack.routes rule time other ↔ other = receiver
  /-- A contact point has the integrations that the document lists for it. -/
  integrates : ∀ receiver,
    (∃ point ∈ (document.field "contactPoints").elements, point.field "name" = .string receiver) →
      ∀ integration, stack.integrates receiver integration ↔
        ∃ point ∈ (document.field "contactPoints").elements, point.field "name" = .string receiver ∧
          ∃ used ∈ (point.field "receivers").elements, used.field "type" = .string integration
  /-- An alert that begins to fire is listed by the next notification of its
  group, if it still fires then. -/
  sent : ∀ rule group interval, Grouped document rule group interval → ∀ series receiver integration round,
    (∀ earlier < round, ¬stack.fires rule (stack.evaluation group interval earlier) series) →
    (∀ later, round ≤ later →
      stack.evaluation group interval later ≤ stack.evaluation group interval round + stack.wait →
        stack.fires rule (stack.evaluation group interval later) series) →
    (∀ time, stack.routes rule time receiver) → stack.integrates receiver integration →
      ∃ time, stack.evaluation group interval round ≤ time ∧
        time ≤ stack.evaluation group interval round + stack.wait ∧
        stack.notifies rule time series integration
  /-- A notification lists as firing what fires after the last evaluation. -/
  lists : ∀ rule ∈ documentRules document, ∀ time series integration,
    stack.notifies rule time series integration →
      (∃ receiver, stack.routes rule time receiver ∧ stack.integrates receiver integration) ∧
      ∃ group interval round, Grouped document rule group interval ∧
        stack.evaluation group interval round ≤ time ∧
        time < stack.evaluation group interval round + interval ∧
        stack.fires rule (stack.evaluation group interval round) series

/-- What is promised besides, if the policies of the stack are those of the
document. -/
structure Owns : Prop where
  /-- A rule that names no receiver is routed by the first route that takes it,
  except while a timing of the route mutes. -/
  taken : ∀ root before route after, document.field "policies" = .array [root] →
    root.field "routes" = .array (before ++ route :: after) → ∀ rule ∈ documentRules document,
      rule.field "notification_settings" = .null →
      (∀ other ∈ before, ∃ name value, Takes other name value ∧ label rule name ≠ value) →
      ∀ name value, Takes route name value → label rule name = value → ∀ time receiver,
        (stack.routes rule time receiver ↔ route.field "receiver" = .string receiver ∧
          ∀ timing, .string timing ∈ (route.field "mute_time_intervals").elements → ¬stack.mutes timing time)
  /-- A timing with all times of the day mutes always. -/
  muted : ∀ timing ∈ (document.field "muteTimes").elements, ∀ name, timing.field "name" = .string name →
    wholeDay ∈ (timing.field "time_intervals").elements → ∀ time, stack.mutes name time
  /-- The first notification of a group of alerts waits for a time of its own,
  and the next ones for an interval. -/
  waits : ∀ root groupWait groupInterval, document.field "policies" = .array [root] →
    root.field "group_wait" = .string (toString groupWait ++ "s") →
    root.field "group_interval" = .string (toString groupInterval ++ "m") →
      stack.wait = max groupWait (groupInterval * 60)

end Promises

end Stack

/-! ## What a rule sees -/

section Sight

variable {Entry : Type} {logged : Nat → List Entry} {window time : Nat}

/-- What was logged in the window that ends at a time. -/
def recent (logged : Nat → List Entry) (window time : Nat) : List Entry :=
  ((List.range (time + 1)).filter fun earlier => time < earlier + window).flatMap logged

theorem mem_recent {entry : Entry} : entry ∈ recent logged window time ↔
    ∃ earlier, earlier ≤ time ∧ time < earlier + window ∧ entry ∈ logged earlier := by
  simp only [recent, List.mem_flatMap, List.mem_filter, List.mem_range, decide_eq_true_eq,
    Nat.lt_succ_iff, and_assoc]

/-- A later and longer window has what a shorter one had. -/
theorem recent_sublist {span later : Nat} (after : time ≤ later) (within : later + span ≤ time + window) :
    (recent logged span time).Sublist (recent logged window later) := by
  have wider : (fun earlier => decide (time < earlier + span)) ≤
      fun earlier => decide (later < earlier + window) := by
    intro earlier
    by_cases inside : time < earlier + span
    · simp [inside, show later < earlier + window by omega]
    · simp [inside]
  have longer : (List.range (time + 1)).Sublist (List.range (later + 1)) :=
    List.range_sublist.mpr (Nat.succ_le_succ after)
  exact ((longer.filter _).trans (List.monotone_filter_right _ wider)).flatMap _

variable {Record : Type} {records : Nat → List Record} {extract : Record → String → String}
  {number : String → Option ℚ} {query : MetricQuery} {series : String}

/-- The series of a metric query over the records of its windows. -/
def instant (query : MetricQuery) (extract : Record → String → String) (number : String → Option ℚ)
    (records : Nat → List Record) (time : Nat) : List (String × Nat) :=
  let counts := query.branches.map fun branch =>
    branch.evaluate extract number (recent records branch.windowSeconds time)
  match counts.foldl union [] with
  | [] => [("", 0)]
  | series => series

theorem instant_eq (uniform : ∀ branch ∈ query.branches, branch.windowSeconds = window) :
    instant query extract number records time =
      query.evaluate extract number (recent records window time) := by
  have counts : (query.branches.map fun branch => branch.evaluate extract number
        (recent records branch.windowSeconds time)) =
      query.branches.map fun branch => branch.evaluate extract number (recent records window time) :=
    List.map_congr_left fun branch listed => by rw [uniform branch listed]
  rw [instant, counts]
  rfl

/-- Every count is positive, but for that of no series. -/
theorem positive_of_named {among : List Record} {count : Nat} (named : series ≠ "")
    (listed : (series, count) ∈ query.evaluate extract number among) : 0 < count := by
  unfold MetricQuery.evaluate at listed
  split at listed
  · simp only [List.mem_singleton, Prod.mk.injEq] at listed
    exact absurd listed.1 named
  · rcases mem_unions listed with none | ⟨vector, vectors, inside⟩
    · contradiction
    · obtain ⟨branch, _, rfl⟩ := List.mem_map.mp vectors
      exact (mem_evaluate inside).1

/-- A named series is found where it is positive. -/
theorem lookup_isSome_iff {among : List Record} (named : series ≠ "") :
    ((query.evaluate extract number among).lookup series).isSome = true ↔
      series ∈ query.positive extract number among := by
  constructor
  · intro found
    obtain ⟨count, value⟩ := Option.isSome_iff_exists.mp found
    have listed := mem_of_lookup value
    exact ⟨count, listed, positive_of_named named listed⟩
  · rintro ⟨count, listed, _⟩
    cases found : (query.evaluate extract number among).lookup series with
    | none =>
        have apart := List.lookup_eq_none_iff.mp found (series, count) listed
        simp at apart
    | some value => rfl

/-- From the first evaluation on, every time is within an interval before one. -/
theorem exists_evaluation {first interval time : Nat} (often : 0 < interval) (started : first ≤ time) :
    ∃ round, time ≤ first + round * interval ∧ first + round * interval < time + interval := by
  refine ⟨(time - first + (interval - 1)) / interval, ?_, ?_⟩
  · have reached := Nat.lt_div_mul_add (a := time - first + (interval - 1)) often
    omega
  · have within := Nat.div_mul_le_self (time - first + (interval - 1)) interval
    omega

end Sight

/-! ## What the promises come to -/

namespace Stack.Documented

variable {stack : Stack} {document rule : Json} {group text series : String}
  {interval window time first last round : Nat}

/-- A range in which a series is found has a last count of the series. -/
theorem exists_last (documented : stack.Documented document) {step : Nat} (short : window ≤ 43200)
    (reached : time ≤ step + window) (past : step ≤ time)
    (found : ((stack.counts text step).lookup series).isSome = true) :
    ∃ latest count, stack.Last text window time series latest count := by
  let Found (earlier : Nat) : Prop := ((stack.counts text earlier).lookup series).isSome = true
  have after : step ≤ Nat.findGreatest Found time := Nat.le_findGreatest past found
  have inside : Found (Nat.findGreatest Found time) := Nat.findGreatest_spec past found
  obtain ⟨count, value⟩ := Option.isSome_iff_exists.mp inside
  refine ⟨_, count, ?_, value, fun later steps beyond => ?_⟩
  · exact documented.steps_each _ _ _ short (by omega) (Nat.findGreatest_le time)
  · have missing := Nat.findGreatest_is_greatest beyond (documented.steps_within _ _ _ steps).2
    exact Option.not_isSome_iff_eq_none.mp missing

/-- What is found at the end of a range is its last count. -/
theorem last_at (documented : stack.Documented document) {count : Nat} (short : window ≤ 43200)
    (found : (stack.counts text time).lookup series = some count) :
    stack.Last text window time series time count where
  within := documented.steps_each _ _ _ short (Nat.le_add_right _ _) le_rfl
  counted := found
  final _ steps beyond := absurd (documented.steps_within _ _ _ steps).2 (Nat.not_le_of_gt beyond)

/-- A rule without a pending period fires where its condition holds. -/
theorem fires_at_once (documented : stack.Documented document) (grouped : Grouped document rule group interval)
    (immediate : rule.field "for" = .string "0s")
    (holds : stack.satisfied rule (stack.evaluation group interval round) series) :
    stack.fires rule (stack.evaluation group interval round) series := by
  have zero : toString 0 ++ "s" = "0s" := by decide
  refine documented.fires rule group interval 0 grouped (by rw [zero, immediate]) series round 0
    (Nat.zero_le _) (Nat.zero_le _) fun back none => ?_
  rw [Nat.le_zero.mp none]
  exact holds

/-- A rule whose condition holds for its pending period and two intervals more
fires, whenever its group is evaluated. -/
theorem fires_throughout (documented : stack.Documented document)
    (grouped : Grouped document rule group interval) {pending : Nat}
    (pends : rule.field "for" = .string (toString pending ++ "s")) (often : 0 < interval)
    (started : stack.phase group ≤ first)
    (holds : ∀ time, first ≤ time → time < last → stack.satisfied rule time series)
    (long : first + pending + 2 * interval ≤ last + 1) :
    ∃ round, first ≤ stack.evaluation group interval round ∧
      stack.evaluation group interval round < last ∧
      stack.fires rule (stack.evaluation group interval round) series := by
  obtain ⟨start, reached, soon⟩ := exists_evaluation often started
  let rounds := (pending + (interval - 1)) / interval
  have enough : pending ≤ rounds * interval := by
    have beyond := Nat.lt_div_mul_add (a := pending + (interval - 1)) often
    change pending + (interval - 1) < rounds * interval + interval at beyond
    omega
  have few : rounds * interval ≤ pending + (interval - 1) := Nat.div_mul_le_self _ _
  have evaluated : ∀ more, stack.evaluation group interval (start + more) =
      stack.phase group + start * interval + more * interval := by
    intro more
    rw [evaluation, Nat.add_mul, Nat.add_assoc]
  refine ⟨start + rounds, ?_, ?_, ?_⟩
  · rw [evaluated]
    omega
  · rw [evaluated]
    omega
  · refine documented.fires _ _ _ _ grouped pends _ _ rounds (Nat.le_add_left _ _) enough fun back fewer => ?_
    have earlier : start + rounds - back = start + (rounds - back) := Nat.add_sub_assoc fewer start
    have less : (rounds - back) * interval ≤ rounds * interval := Nat.mul_le_mul_right _ (Nat.sub_le _ _)
    rw [earlier, evaluated]
    exact holds _ (by omega) (by omega)

end Stack.Documented

end Microscope.Alerting
