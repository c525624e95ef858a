import Mathlib.Data.List.Nodup
import Microscope.Alerting.Config
import Microscope.Signals.Titles

namespace Microscope.Dashboard

open Microscope.Data Microscope.Alerting

/-! # Table panels

`configure_table_panel`, and the names of the columns that it makes of the
configured fields.
-/

/-! ## Names of columns -/

section Naming

variable (toTitleCase : String → String)

/-- `path.rsplit('.').next()`. -/
def lastSegment (path : String) : String :=
  String.ofList ((path.toList.splitOnP (· == '.')).getLast?.getD path.toList)

def displayName (path : String) : String :=
  if path = "name" then "Event"
  else if path = "program_id" then "Program ID"
  else toTitleCase (lastSegment path)

def collisionSafeDisplayNames (paths : List String) : List String :=
  let shortNames := paths.map (displayName toTitleCase)
  (paths.zip shortNames).map fun (path, shortName) =>
    if shortNames.count shortName > 1 then path else shortName

end Naming

/-! ## Panels -/

def fieldKey (fieldPrefix : String) (index : Nat) : String := fieldPrefix ++ "_" ++ toString index

/-- What a panel shows, and of which records. -/
structure TablePanel where
  fields : List String
  fieldPrefix : String
  recordKind : String
  scopePath : String
  scopeValue : String
  description : String

def tableFieldConfig : Json :=
  .object [
    ("defaults", .object [
      ("custom", .object [
        ("align", .string "auto"),
        ("cellOptions", .object [("type", .string "auto")]),
        ("filterable", .bool true),
        ("inspect", .bool false)]),
      ("mappings", .array []),
      ("noValue", .string "—"),
      ("thresholds", .object [
        ("mode", .string "absolute"),
        ("steps", .array [.object [("color", .string "green"), ("value", .null)]])])]),
    ("overrides", .array [])]

def tableOptions : Json :=
  .object [
    ("cellHeight", .string "sm"),
    ("footer", .object [("show", .bool false)]),
    ("showHeader", .bool true),
    ("sortBy", .array [.object [("desc", .bool true), ("displayName", .string "Time")]])]

section Panels

variable (libraries : Libraries) (toTitleCase : String → String) (table : TablePanel)

def jsonPaths : Json :=
  .array (table.fields.zipIdx.map fun (path, index) =>
    .object [("alias", .string (fieldKey table.fieldPrefix index)), ("path", .string path)])

def fieldOrder : Json :=
  (collisionSafeDisplayNames toTitleCase table.fields).zipIdx.foldl
    (fun order (_, index) => order.set (fieldKey table.fieldPrefix index) (.number (index + 1)))
    (.object [("Time", .number 0)])

def fieldNames : Json :=
  (collisionSafeDisplayNames toTitleCase table.fields).zipIdx.foldl
    (fun names (displayName, index) => names.set (fieldKey table.fieldPrefix index) (.string displayName))
    (.object [])

def tableTargets : Json :=
  .array [.object [
    ("datasource", .object [("type", .string "loki"), ("uid", .string "loki")]),
    ("editorMode", .string "code"),
    ("expr", .string ("\x7bservice_name=\"microscope-indexer\"\x7d | json kind=\"kind\", scope=\"" ++
      table.scopePath ++ "\" | kind = \"" ++ table.recordKind ++ "\" | scope = " ++
      libraries.quoted table.scopeValue ++ " | __error__ = \"\"")),
    ("queryType", .string "range"),
    ("refId", .string "A")]]

def tableTransformations : Json :=
  .array [
    .object [
      ("id", .string "extractFields"),
      ("options", .object [
        ("format", .string "json"),
        ("jsonPaths", jsonPaths table),
        ("keepTime", .bool true),
        ("replace", .bool true),
        ("source", .string "Line")])],
    .object [
      ("id", .string "organize"),
      ("options", .object [
        ("excludeByName", .object []),
        ("includeByName", .object []),
        ("indexByName", fieldOrder toTitleCase table),
        ("renameByName", fieldNames toTitleCase table)])]]

def configureTablePanel (panel : Json) : Json :=
  (((((panel.set "type" (.string "table")).set "description" (.string table.description)).set
    "fieldConfig" tableFieldConfig).set "options" tableOptions).set
    "targets" (tableTargets libraries table)).set "transformations" (tableTransformations toTitleCase table)

end Panels

/-- The names that a panel assigns to its columns. -/
def columnNames (panel : Json) : List String :=
  let organize := (panel.field "transformations").elements.getD 1 .null
  match (organize.field "options").field "renameByName" with
  | .object entries => entries.filterMap fun entry => entry.2.toText
  | _ => []

/-- The columns by which a panel sorts. -/
def sortedColumns (panel : Json) : List String :=
  ((panel.field "options").field "sortBy").elements.filterMap fun column => (column.field "displayName").toText

/-! ## Assigned names -/

section Assigned

variable {libraries : Libraries} {toTitleCase : String → String} {table : TablePanel}

theorem fieldKey_injective (fieldPrefix : String) : Function.Injective (fieldKey fieldPrefix) := by
  intro first second same
  exact Nat.repr_injective ((String.append_right_inj _).mp same)

/-- Setting new names one after the other appends them. -/
theorem foldl_set (known added : List (String × Json)) (distinct : ((known ++ added).map Prod.fst).Nodup) :
    added.foldl (fun object entry => object.set entry.1 entry.2) (Json.object known) =
      .object (known ++ added) := by
  induction added generalizing known with
  | nil => simp
  | cons entry added ih =>
      have fresh : ∀ other ∈ known, other.1 ≠ entry.1 := by
        intro other listed same
        rw [List.map_append, List.nodup_append] at distinct
        exact distinct.2.2 other.1 (List.mem_map_of_mem listed) entry.1 List.mem_cons_self same
      have kept : known.filter (·.1 ≠ entry.1) = known := by
        rw [List.filter_eq_self]
        intro other listed
        exact decide_eq_true (fresh other listed)
      rw [List.foldl_cons, Json.set, kept, ih (known ++ [entry]) (by simpa using distinct)]
      simp

theorem fieldNames_eq (toTitleCase : String → String) (table : TablePanel) :
    fieldNames toTitleCase table =
      .object ((collisionSafeDisplayNames toTitleCase table.fields).zipIdx.map fun (displayName, index) =>
        (fieldKey table.fieldPrefix index, .string displayName)) := by
  have distinct : (((collisionSafeDisplayNames toTitleCase table.fields).zipIdx.map
      fun (displayName, index) => (fieldKey table.fieldPrefix index, Json.string displayName)).map Prod.fst).Nodup := by
    have keys : (((collisionSafeDisplayNames toTitleCase table.fields).zipIdx.map Prod.snd).map
        (fieldKey table.fieldPrefix)).Nodup := by
      rw [List.zipIdx_map_snd]
      exact (List.nodup_range' 1).map (fieldKey_injective _)
    rwa [List.map_map] at keys ⊢
  have appended := foldl_set [] _ distinct
  rw [List.foldl_map] at appended
  exact appended

theorem columnNames_configured (entries : List (String × Json)) :
    columnNames (configureTablePanel libraries toTitleCase table (.object entries)) =
      collisionSafeDisplayNames toTitleCase table.fields := by
  have transformations : (configureTablePanel libraries toTitleCase table (.object entries)).field
      "transformations" = tableTransformations toTitleCase table := field_set_self _ _ _
  have renamed : (((tableTransformations toTitleCase table).elements.getD 1 .null).field "options").field
      "renameByName" = fieldNames toTitleCase table := by
    simp [tableTransformations, Json.elements, Json.toArray, Json.field, List.lookup_cons]
  rw [columnNames, transformations, renamed, fieldNames_eq]
  have texts : ∀ named : List (String × Nat),
      (named.map fun (displayName, index) => (fieldKey table.fieldPrefix index, Json.string displayName)).filterMap
        (fun entry : String × Json => entry.2.toText) = named.map Prod.fst := by
    intro named
    rw [List.filterMap_map, ← List.filterMap_eq_map]
    rfl
  exact (texts _).trans (List.zipIdx_map_fst _ _)

theorem sortedColumns_configured (entries : List (String × Json)) :
    sortedColumns (configureTablePanel libraries toTitleCase table (.object entries)) = ["Time"] := by
  have options : (configureTablePanel libraries toTitleCase table (.object entries)).field "options" =
      tableOptions := by
    rw [configureTablePanel, field_set_of_ne _ _ (by decide), field_set_of_ne _ _ (by decide)]
    exact field_set_self _ _ _
  rw [sortedColumns, options]
  simp [tableOptions, Json.field, Json.elements, Json.toArray, Json.toText, List.lookup_cons]

end Assigned

/-! ## Accepted fields -/

/-- What `heck` does with a segment of a path: it splits it into words and
capitalises each. -/
structure TitleCases (toTitleCase : String → String) : Prop where
  dotless : ∀ segment, validSegment segment.toList = true → '.' ∉ (toTitleCase segment).toList
  capitalised : ∀ segment, validSegment segment.toList = true →
    ∀ character ∈ (toTitleCase segment).toList.head?, character.isLower = false
  oneWord : ∀ segment, validSegment segment.toList = true → ' ' ∉ (toTitleCase segment).toList →
    toTitleCase (toTitleCase segment) = toTitleCase segment
  event : toTitleCase "event" = "Event"
  time : toTitleCase "time" = "Time"

/-- A path of segments of letters, digits and underscores. -/
def ValidPath (path : String) : Prop :=
  ∀ segment ∈ path.toList.splitOnP (· == '.'), validSegment segment = true

/-- The title of the field is that of the time, unless it has a name of its own. -/
def TitledTime (toTitleCase : String → String) (field : String) : Prop :=
  field ≠ "name" ∧ field ≠ "program_id" ∧ toTitleCase (lastSegment field) = "Time"

instance (toTitleCase : String → String) : DecidablePred (TitledTime toTitleCase) :=
  fun _ => inferInstanceAs (Decidable (_ ∧ _ ∧ _))

section Accepted

variable {libraries : Libraries} {toTitleCase : String → String} {panelName path other : String}
  {fields paths : List String}

theorem accepted_fields (accepted : validateDashboardFields libraries panelName fields = .ok ()) :
    fields ≠ [] ∧ fields.Nodup ∧ ∀ field ∈ fields, ValidPath field := by
  simp only [validateDashboardFields, bind_accepts, bailIf_accepts] at accepted
  obtain ⟨_, nonempty, each⟩ := accepted
  have checked : ∀ index field, fields[index]? = some field →
      validateFieldPath libraries field = .ok () ∧ field ∉ fields.take index := by
    intro index field found
    have check := forM_accepts.mp each (field, index) (List.mk_mem_zipIdx_iff_getElem?.mpr found)
    simp only [bind_accepts, withContext_accepts, bailIf_accepts] at check
    obtain ⟨_, valid, fresh⟩ := check
    exact ⟨valid, fresh⟩
  refine ⟨by simpa using nonempty, ?_, ?_⟩
  · rw [List.nodup_iff_getElem?_ne_getElem?]
    intro first second before inside same
    obtain ⟨field, found⟩ : ∃ field, fields[second]? = some field :=
      ⟨_, List.getElem?_eq_getElem inside⟩
    have earlier : (fields.take second)[first]? = some field := by
      rw [List.getElem?_take_of_lt before, same, found]
    exact (checked second field found).2 (List.mem_of_getElem? earlier)
  · intro field listed segment segments
    obtain ⟨index, found⟩ := List.mem_iff_getElem?.mp listed
    have valid := (checked index field found).1
    unfold validateFieldPath at valid
    split at valid
    · contradiction
    · rename_i plain
      simp only [Bool.or_eq_true, List.any_eq_true, not_or, not_exists, not_and] at plain
      simpa using plain.2 segment segments

theorem validSegment_characters {segment : List Char} (valid : validSegment segment = true) :
    ∀ character ∈ segment, character = '_' ∨ character.isAlphanum = true := by
  intro character member
  cases segment with
  | nil => contradiction
  | cons first rest =>
      simp only [validSegment, Bool.and_eq_true, Bool.or_eq_true, beq_iff_eq, List.all_eq_true] at valid
      rcases List.mem_cons.mp member with rfl | member
      · rcases valid.1 with underscore | letter
        · exact .inl underscore
        · exact .inr (by simp [Char.isAlphanum, letter])
      · exact valid.2 character member

theorem validSegment_plain {segment : List Char} (valid : validSegment segment = true) : ' ' ∉ segment := by
  intro space
  rcases validSegment_characters valid ' ' space with underscore | alphanumeric
  · contradiction
  · contradiction

/-- A path without dots is its last segment. -/
theorem lastSegment_dotless (dotless : '.' ∉ path.toList) : lastSegment path = path := by
  have whole : path.toList.splitOnP (· == '.') = [path.toList] := by
    refine List.splitOnP_eq_singleton ?_
    intro character member
    rw [beq_eq_false_iff_ne]
    exact fun same => dotless (same ▸ member)
  rw [lastSegment, whole]
  exact String.ofList_toList

theorem lastSegment_valid (valid : ValidPath path) : validSegment (lastSegment path).toList = true := by
  have nonempty := List.splitOnP_ne_nil (· == '.') path.toList
  rw [lastSegment, List.getLast?_eq_some_getLast nonempty, Option.getD_some, String.toList_ofList]
  exact valid _ (List.getLast_mem nonempty)

theorem displayName_dotless (titles : TitleCases toTitleCase) (valid : ValidPath path) :
    '.' ∉ (displayName toTitleCase path).toList := by
  unfold displayName
  split
  · decide
  · split
    · decide
    · exact titles.dotless _ (lastSegment_valid valid)

theorem displayName_titled (dotless : '.' ∉ path.toList) (plain : path ≠ "name") (other : path ≠ "program_id") :
    displayName toTitleCase path = toTitleCase path := by
  rw [displayName, if_neg plain, if_neg other, lastSegment_dotless dotless]

/-- The title of a segment that is a path is named by itself. -/
theorem displayName_title (titles : TitleCases toTitleCase) {segment : String}
    (segmentValid : validSegment segment.toList = true) (same : path = toTitleCase segment)
    (plain : ' ' ∉ path.toList) : displayName toTitleCase path = path := by
  have capitalised := titles.capitalised segment segmentValid
  have dotless := titles.dotless segment segmentValid
  rw [← same] at capitalised dotless
  have notName : path ≠ "name" := by
    rintro rfl
    have letter := capitalised 'n' (by decide)
    exact absurd letter (by decide)
  have notProgram : path ≠ "program_id" := by
    rintro rfl
    have letter := capitalised 'p' (by decide)
    exact absurd letter (by decide)
  rw [displayName_titled dotless notName notProgram]
  subst same
  exact titles.oneWord segment segmentValid plain

/-- A path that is a short name is its own short name. -/
theorem displayName_fixed (titles : TitleCases toTitleCase) (valid : ValidPath path) (otherValid : ValidPath other)
    (same : path = displayName toTitleCase other) : displayName toTitleCase path = path := by
  have dotless := displayName_dotless titles otherValid
  rw [← same] at dotless
  have segment := lastSegment_valid valid
  rw [lastSegment_dotless dotless] at segment
  have plain := validSegment_plain segment
  unfold displayName at same
  split at same
  · have event : path = toTitleCase "event" := same.trans titles.event.symm
    exact displayName_title titles (by decide) event plain
  · split at same
    · rw [same] at plain
      exact absurd (by decide) plain
    · exact displayName_title titles (lastSegment_valid otherValid) same plain

end Accepted

/-! ## Distinct columns -/

/-- No two columns of the panel have one name, the one by which it sorts
included. -/
def ColumnsDistinct (panel : Json) : Prop :=
  (columnNames panel).Nodup ∧ ∀ column ∈ sortedColumns panel, column ∉ columnNames panel

/-- The name of a field among others. -/
def shownName (toTitleCase : String → String) (paths : List String) (path : String) : String :=
  if (paths.map (displayName toTitleCase)).count (displayName toTitleCase path) > 1 then path
  else displayName toTitleCase path

section Distinct

variable {toTitleCase : String → String} {paths : List String} {path other : String}

theorem collisionSafeDisplayNames_eq (toTitleCase : String → String) (paths : List String) :
    collisionSafeDisplayNames toTitleCase paths = paths.map (shownName toTitleCase paths) := by
  rw [collisionSafeDisplayNames, ← List.map_prod_left_eq_zip, List.map_map]
  rfl

/-- A value that occurs once is of one element. -/
theorem eq_of_count_le_one {α β : Type} [DecidableEq β] {value : α → β} {elements : List α} {first second : α}
    (firstListed : first ∈ elements) (secondListed : second ∈ elements) (same : value first = value second)
    (once : (elements.map value).count (value first) ≤ 1) : first = second := by
  induction elements with
  | nil => contradiction
  | cons element elements ih =>
      rw [List.map_cons, List.count_cons] at once
      have repeated : ∀ other ∈ elements, value other = value first →
          0 < (elements.map value).count (value first) := by
        intro other listed equal
        exact List.count_pos_iff.mpr (equal ▸ List.mem_map_of_mem listed)
      rcases List.mem_cons.mp firstListed with rfl | firstLater
      · rcases List.mem_cons.mp secondListed with rfl | secondLater
        · rfl
        · have more := repeated second secondLater same.symm
          simp only [beq_self_eq_true, if_true] at once
          omega
      · rcases List.mem_cons.mp secondListed with rfl | secondLater
        · have more := repeated first firstLater rfl
          simp only [same, beq_self_eq_true, if_true] at once more
          omega
        · exact ih firstLater secondLater (by omega)

/-- Two fields that are shown alike are one. -/
theorem shownName_injective (titles : TitleCases toTitleCase) (valid : ∀ path ∈ paths, ValidPath path)
    (listed : path ∈ paths) (otherListed : other ∈ paths)
    (same : shownName toTitleCase paths path = shownName toTitleCase paths other) : path = other := by
  -- a path shown in full has several fields of its short name, and so has the
  -- short name that it is
  have apart : ∀ first ∈ paths, ∀ second ∈ paths, first = displayName toTitleCase second →
      1 < (paths.map (displayName toTitleCase)).count (displayName toTitleCase first) →
        1 < (paths.map (displayName toTitleCase)).count (displayName toTitleCase second) := by
    intro first firstListed second secondListed short several
    rw [displayName_fixed titles (valid first firstListed) (valid second secondListed) short] at several
    exact short ▸ several
  unfold shownName at same
  split at same
  · rename_i several
    split at same
    · exact same
    · rename_i once
      exact absurd (apart path listed other otherListed same several) once
  · rename_i once
    split at same
    · rename_i several
      exact absurd (apart other otherListed path listed same.symm several) once
    · exact eq_of_count_le_one listed otherListed same (by omega)

theorem displayName_time (path : String) :
    displayName toTitleCase path = "Time" ↔ TitledTime toTitleCase path := by
  unfold displayName TitledTime
  split
  · simp [*]
  · split
    · simp [*]
    · simp [*]

theorem count_time (toTitleCase : String → String) (paths : List String) :
    (paths.map (displayName toTitleCase)).count "Time" = paths.countP (TitledTime toTitleCase) := by
  rw [List.count, List.countP_map]
  refine List.countP_congr fun path _ => ?_
  simp [displayName_time]

/-- A field is shown as the time if it is that path or the only one so titled. -/
theorem time_shown_iff (titles : TitleCases toTitleCase) :
    "Time" ∈ paths.map (shownName toTitleCase paths) ↔
      "Time" ∈ paths ∨ paths.countP (TitledTime toTitleCase) = 1 := by
  have own : displayName toTitleCase "Time" = "Time" :=
    displayName_title titles (by decide) titles.time.symm (by decide)
  rw [← count_time]
  constructor
  · intro member
    obtain ⟨path, listed, shown⟩ := List.mem_map.mp member
    unfold shownName at shown
    split at shown
    · exact .inl (shown ▸ listed)
    · rename_i once
      rw [shown] at once
      have found : 0 < (paths.map (displayName toTitleCase)).count "Time" :=
        List.count_pos_iff.mpr (shown ▸ List.mem_map_of_mem listed)
      exact .inr (by omega)
  · rintro (listed | once)
    · refine List.mem_map.mpr ⟨"Time", listed, ?_⟩
      rw [shownName, own, ite_self]
    · have found : "Time" ∈ paths.map (displayName toTitleCase) := by
        rw [← List.count_pos_iff]
        omega
      obtain ⟨path, listed, short⟩ := List.mem_map.mp found
      refine List.mem_map.mpr ⟨path, listed, ?_⟩
      rw [shownName, short, if_neg (by omega)]

end Distinct

/-- The columns of accepted fields are distinct exactly when none is shown as
the time. -/
theorem columns_distinct_iff {toTitleCase : String → String} (titles : TitleCases toTitleCase)
    (libraries : Libraries) (panelName : String) (table : TablePanel) (entries : List (String × Json))
    (accepted : validateDashboardFields libraries panelName table.fields = .ok ()) :
    ColumnsDistinct (configureTablePanel libraries toTitleCase table (.object entries)) ↔
      "Time" ∉ table.fields ∧ table.fields.countP (TitledTime toTitleCase) ≠ 1 := by
  obtain ⟨_, distinct, valid⟩ := accepted_fields accepted
  have names : (table.fields.map (shownName toTitleCase table.fields)).Nodup :=
    distinct.map_on fun _ listed _ otherListed => shownName_injective titles valid listed otherListed
  rw [ColumnsDistinct, columnNames_configured, sortedColumns_configured, collisionSafeDisplayNames_eq,
    List.forall_mem_singleton, time_shown_iff titles, not_or]
  exact and_iff_right names

/-! ## Titles of heck -/

theorem toTitleCase_titles : TitleCases Signals.toTitleCase where
  dotless segment _ := by
    intro dot
    rcases Signals.mem_toTitleCase dot with space | alphanumeric
    · exact absurd space (by decide)
    · exact absurd alphanumeric (by decide)
  capitalised segment _ := Signals.toTitleCase_capitalised segment
  oneWord _ _ oneWord := Signals.toTitleCase_oneWord oneWord
  event := by decide +kernel
  time := by decide +kernel

def eventTable (fields : List String) : TablePanel where
  fields := fields
  fieldPrefix := "event_field"
  recordKind := "program_event"
  scopePath := "program_id"
  scopeValue := "11111111111111111111111111111111"
  description := "Decoded program events for the configured program. " ++
    "Missing configured fields display as a placeholder."

theorem time_field_shares_column :
    TitleCases Signals.toTitleCase ∧
      validateDashboardFields (sampleLibraries []) "event_fields" ["name", "data.time"] = .ok () ∧
        columnNames (configureTablePanel (sampleLibraries []) Signals.toTitleCase
          (eventTable ["name", "data.time"]) (.object [])) = ["Event", "Time"] ∧
          ¬ColumnsDistinct (configureTablePanel (sampleLibraries []) Signals.toTitleCase
            (eventTable ["name", "data.time"]) (.object [])) := by
  have names : columnNames (configureTablePanel (sampleLibraries []) Signals.toTitleCase
      (eventTable ["name", "data.time"]) (.object [])) = ["Event", "Time"] := by
    rw [columnNames_configured]
    decide +kernel
  refine ⟨toTitleCase_titles, by decide +kernel, names, fun distinct => ?_⟩
  have apart := distinct.2
  rw [sortedColumns_configured, names] at apart
  exact apart "Time" List.mem_cons_self (by decide)

theorem columns_distinct_times :
    ColumnsDistinct (configureTablePanel (sampleLibraries []) Signals.toTitleCase
      (eventTable ["data.time", "fees.time", "data.receiver"]) (.object [])) :=
  (columns_distinct_iff toTitleCase_titles (sampleLibraries []) "event_fields"
    (eventTable ["data.time", "fees.time", "data.receiver"]) [] (by decide +kernel)).mpr (by decide +kernel)

end Microscope.Dashboard
