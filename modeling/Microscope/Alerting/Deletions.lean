import Mathlib.Data.List.Sort
import Microscope.Alerting.Uids
import Microscope.Polling.Durability

namespace Microscope.Alerting

open Std Microscope.Data Microscope.Polling

/-! # Generation and deletion

`generate` replaces the document of the output directory, and marks what the
documents before it had and the new one has not for deletion.
-/

/-! ## Deletions -/

def startsWith (start text : String) : Bool := start.toList.isPrefixOf text.toList

/-- The resources that are marked for deletion. -/
def resourceDeletions (desired previous : ExtTreeSet String) (start : String) : List Json :=
  ((previous \ desired).toList.filter (startsWith start)).map fun uid =>
    .object [("orgId", .number 1), ("uid", .string uid)]

/-- A field that is present only if it has elements. -/
def setDeletions (document : Json) (field : String) (deletions : List Json) : Json :=
  if deletions.isEmpty then document else document.set field (.array deletions)

def addResourceDeletions (document previous : Json) : Json :=
  let desiredRules := ruleUids document
  let previousRules := ruleUids previous ∪ deletionUids previous "deleteRules"
  let document := setDeletions document "deleteRules" (resourceDeletions desiredRules previousRules "ms-")
  let desiredContactPoints := contactPointUids document
  let previousContactPoints := contactPointUids previous ∪ deletionUids previous "deleteContactPoints"
  setDeletions document "deleteContactPoints"
    (resourceDeletions desiredContactPoints previousContactPoints "microscope-")

/-! ## Generation -/

def outputName : String := "microscope.json"

def DatasourceConfig.pollsRpc (libraries : Libraries) (environment : String → Option String)
    (datasource : DatasourceConfig) : Bool :=
  datasource.mode = .rpc || (environment "RPC_URL").any fun url => !(trimmed libraries url).isEmpty

def requiredVariables : AlertChannel → List String
  | .slack => ["SLACK_WEBHOOK_URL"]
  | .telegram => ["TELEGRAM_BOT_TOKEN", "TELEGRAM_CHAT_ID"]
  | .pagerduty => ["PAGERDUTY_INTEGRATION_KEY"]

def validateContactPointCredentials (libraries : Libraries) (environment : String → Option String)
    (channels : List AlertChannel) : Except Failure Unit :=
  channels.forM fun channel => (requiredVariables channel).forM fun name =>
    bailIf ((environment name).all fun value => (trimmed libraries value).isEmpty)
      (name ++ " must be set because an alert uses the " ++ channel.asStr ++ " channel")

/-- `serde_json`, on the texts of documents. -/
structure DocumentCodec where
  fromSlice : Bytes → Except String Json
  toVecPretty : Json → Bytes

section Generation

variable (libraries : Libraries) (codec : DocumentCodec) (environment : String → Option String)
  (outputDir : String) (config : Config)

def outputPath (name : String) : String := outputDir ++ "/" ++ name

/-- The existing document, if there is one. -/
def existingDocument : Option Bytes → Except Failure (Option Json)
  | none => .ok none
  | some contents => withContext ("parsing existing alerting config " ++ outputPath outputDir outputName)
      (match codec.fromSlice contents with
        | .error error => .error [error]
        | .ok document => .ok (some document))

/-- The document of a configuration over the existing one. -/
def nextDocument (previous : Option Json) : Except Failure Json := do
  let document ← provisioningDocument libraries (environment "MICROSCOPE_DEPLOYMENT") config
    (configuredChannels config) (config.datasource.pollsRpc libraries environment)
  return previous.elim document (addResourceDeletions document)

/-- `generate`, with the document that it writes. -/
def generate : Program (@SystemCall.Response String UInt8 IoError) (Except Failure Json) :=
  match validateContactPointCredentials libraries environment (configuredChannels config) with
  | .error failure => .done (.error failure)
  | .ok _ => .call .createDirectories fun
    | .error error => .done (.error ["creating alerting output directory " ++ outputDir, error])
    | .ok _ => .call (.read outputName) fun
      | .error error =>
          .done (.error ["reading existing alerting config " ++ outputPath outputDir outputName, error])
      | .ok contents =>
          match existingDocument codec outputDir contents >>= nextDocument libraries environment config with
          | .error failure => .done (.error failure)
          | .ok document => do
              let installed ← installFile outputName (temporaryName outputName) (codec.toVecPretty document)
                (fun error =>
                  ["writing temporary alerting config " ++ outputPath outputDir (temporaryName outputName), error])
                (fun error => ["installing alerting config " ++ outputPath outputDir outputName, error])
              return installed.map fun _ => document

end Generation

/-- Generations one after another into one directory, and the documents that
they wrote. -/
inductive Generations (libraries : Libraries) (codec : DocumentCodec) (outputDir : String) (initial : Disk) :
    List Json → Disk → Prop where
  | start : Generations libraries codec outputDir initial [] initial
  | generated {documents : List Json} {document : Json} {disk final : Disk}
      {environment : String → Option String} {config : Config}
      {trace : List (Program.Event (@SystemCall.Response String UInt8 IoError))}
      (before : Generations libraries codec outputDir initial documents disk)
      (run : (generate libraries codec environment outputDir config).Run trace (.ok document))
      (execution : Program.Executes diskEnvironment disk trace final) :
      Generations libraries codec outputDir initial (documents ++ [document]) final
  | failed {documents : List Json} {disk final : Disk} {environment : String → Option String}
      {config : Config} {failure : Failure}
      {trace : List (Program.Event (@SystemCall.Response String UInt8 IoError))}
      (before : Generations libraries codec outputDir initial documents disk)
      (run : (generate libraries codec environment outputDir config).Run trace (.error failure))
      (execution : Program.Executes diskEnvironment disk trace final) :
      Generations libraries codec outputDir initial documents final

/-! ## Uids of a document -/

variable {libraries : Libraries} {codec : DocumentCodec} {environment : String → Option String}
  {outputDir : String} {config : Config} {document previous : Json} {documents : List Json}

theorem mem_uids {resources : List Json} {uid : String} :
    uid ∈ ExtTreeSet.ofList (resourceUids resources) ↔
      ∃ resource ∈ resources, (resource.field "uid").toText = some uid := by
  rw [ExtTreeSet.mem_ofList, List.contains_iff_mem, resourceUids, List.mem_filterMap]

theorem mem_resourceDeletions {desired previous : ExtTreeSet String} {start uid : String} :
    (∃ resource ∈ resourceDeletions desired previous start, (resource.field "uid").toText = some uid) ↔
      uid ∈ previous ∧ uid ∉ desired ∧ startsWith start uid = true := by
  constructor
  · rintro ⟨resource, listed, named⟩
    obtain ⟨other, member, rfl⟩ := List.mem_map.mp listed
    obtain rfl : other = uid := Option.some.inj named
    obtain ⟨removed, started⟩ := List.mem_filter.mp member
    rw [ExtTreeSet.mem_toList, ExtTreeSet.mem_diff_iff] at removed
    exact ⟨removed.1, removed.2, started⟩
  · rintro ⟨present, unwanted, started⟩
    refine ⟨_, List.mem_map_of_mem (List.mem_filter.mpr ⟨?_, started⟩), rfl⟩
    rw [ExtTreeSet.mem_toList, ExtTreeSet.mem_diff_iff]
    exact ⟨present, unwanted⟩

theorem field_setDeletions (document : Json) {field other : String} (deletions : List Json)
    (different : other ≠ field) : (setDeletions document field deletions).field other = document.field other := by
  unfold setDeletions
  split
  · rfl
  · exact field_set_of_ne document _ different

theorem elements_setDeletions {entries : List (String × Json)} {field : String} (deletions : List Json)
    (absent : (Json.object entries).field field = .null) :
    ((setDeletions (.object entries) field deletions).field field).elements = deletions := by
  unfold setDeletions
  split
  · rename_i empty
    rw [absent, List.isEmpty_iff.mp empty]
    rfl
  · rw [field_set_self]
    rfl

/-- The uids of a document start as those of the indexer do. -/
structure Named (document : Json) : Prop where
  rules : ∀ uid ∈ ruleUids document, startsWith "ms-" uid = true
  contactPoints : ∀ uid ∈ contactPointUids document, startsWith "microscope-" uid = true

/-- What every document has before deletions are added. -/
structure Provisioned (document : Json) : Prop extends Named document where
  object : ∃ entries, document = .object entries
  ruleDeletions : document.field "deleteRules" = .null
  contactPointDeletions : document.field "deleteContactPoints" = .null

theorem startsWith_append (start rest : String) : startsWith start (start ++ rest) = true := by
  rw [startsWith, String.toList_append]
  exact List.isPrefixOf_iff_prefix.mpr (List.prefix_append _ _)

theorem uid_grafanaRule {alert : AlertRule} {channel : Option AlertChannel} {rule : Json}
    (rendered : grafanaRule libraries config alert channel = .ok rule) :
    (rule.field "uid").toText = some (alertUid libraries config alert channel) := by
  obtain ⟨query, _, described⟩ := bind_accepts.mp rendered
  obtain ⟨description, _, same⟩ := bind_accepts.mp described
  cases same
  rw [field_withSettings _ _ (by decide)]
  rfl

theorem addAlertRules_members {alerts : List AlertRule} {groups extended : List (Nat × List Json)}
    (added : addAlertRules libraries config alerts groups = .ok extended) :
    ∀ rule ∈ extended.flatMap Prod.snd, rule ∈ groups.flatMap Prod.snd ∨
      ∃ alert channel, grafanaRule libraries config alert channel = .ok rule := by
  induction alerts generalizing groups with
  | nil =>
      cases added
      exact fun rule listed => .inl listed
  | cons alert rest ih =>
      rw [addAlertRules, List.foldlM_cons] at added
      obtain ⟨grown, step, others⟩ := bind_accepts.mp added
      obtain ⟨rules, rendered, same⟩ := bind_accepts.mp step
      cases same
      intro rule listed
      rcases ih others rule listed with present | made
      · rw [(extendInterval_perm _ rules groups).mem_iff, List.mem_append] at present
        rcases present with old | fresh
        · exact .inl old
        · obtain ⟨channel, _, found⟩ := (mem_mapM_accepts rendered).mp fresh
          exact .inr ⟨alert, channel, found⟩
      · exact .inr made

theorem healthRule_starts {deployment : Option String} {rpcPolling : Bool} {rule : Json} {uid : String}
    (listed : rule ∈ (healthFamilies libraries deployment config rpcPolling).flatMap fun family =>
      healthRules family (configuredChannels config))
    (named : (rule.field "uid").toText = some uid) : startsWith "ms-" uid = true := by
  have all : ∀ uid ∈ familyUids allRuleNames allChannelNames, startsWith "ms-" uid = true := by decide +kernel
  have member : uid ∈ resourceUids ((healthFamilies libraries deployment config rpcPolling).flatMap
      fun family => healthRules family (configuredChannels config)) :=
    List.mem_filterMap.mpr ⟨rule, listed, named⟩
  rw [resourceUids_health] at member
  exact all uid (healthUids_sublist.mem member)

theorem receiver_starts {channels : List AlertChannel} {receiver : Json} {uid : String}
    (listed : receiver ∈ (noopContactPoint :: channels.map contactPoint).flatMap fun contactPoint =>
      (contactPoint.field "receivers").elements)
    (named : (receiver.field "uid").toText = some uid) : startsWith "microscope-" uid = true := by
  obtain ⟨point, points, inside⟩ := List.mem_flatMap.mp listed
  rcases List.mem_cons.mp points with rfl | points
  · obtain rfl := List.mem_singleton.mp inside
    obtain rfl := Option.some.inj named
    decide
  · obtain ⟨channel, _, rfl⟩ := List.mem_map.mp points
    obtain rfl := List.mem_singleton.mp inside
    obtain rfl := Option.some.inj named
    exact startsWith_append _ _

theorem provisioningDocument_provisioned {deployment : Option String} {rpcPolling : Bool}
    (provisioned : provisioningDocument libraries deployment config (configuredChannels config) rpcPolling =
      .ok document) : Provisioned document := by
  obtain ⟨groups, added, same⟩ := bind_accepts.mp provisioned
  cases same
  refine ⟨⟨fun uid member => ?_, fun uid member => ?_⟩, ⟨_, rfl⟩, rfl, rfl⟩
  · obtain ⟨rule, listed, named⟩ := mem_uids.mp member
    rw [documentRules_groups rfl] at listed
    rcases addAlertRules_members added rule listed with health | ⟨alert, channel, rendered⟩
    · exact healthRule_starts (by simpa [extendInterval] using health) named
    · rw [uid_grafanaRule rendered] at named
      obtain rfl := Option.some.inj named
      exact startsWith_append _ _
  · obtain ⟨receiver, listed, named⟩ := mem_uids.mp member
    exact receiver_starts listed named

/-! ## Deleted uids -/

/-- The document deletes the uids of the earlier documents that it has not. -/
structure Deletes (earlier : List Json) (document : Json) : Prop where
  rules : ∀ uid, uid ∈ deletionUids document "deleteRules" ↔
    (∃ other ∈ earlier, uid ∈ ruleUids other) ∧ uid ∉ ruleUids document
  contactPoints : ∀ uid, uid ∈ deletionUids document "deleteContactPoints" ↔
    (∃ other ∈ earlier, uid ∈ contactPointUids other) ∧ uid ∉ contactPointUids document

theorem ruleUids_setDeletions (document : Json) {field : String} (deletions : List Json)
    (different : "groups" ≠ field) : ruleUids (setDeletions document field deletions) = ruleUids document := by
  simp only [ruleUids, documentRules, field_setDeletions document deletions different]

theorem contactPointUids_setDeletions (document : Json) {field : String} (deletions : List Json)
    (different : "contactPoints" ≠ field) :
    contactPointUids (setDeletions document field deletions) = contactPointUids document := by
  simp only [contactPointUids, documentReceivers, field_setDeletions document deletions different]

theorem object_setDeletions (entries : List (String × Json)) (field : String) (deletions : List Json) :
    ∃ others, setDeletions (.object entries) field deletions = .object others := by
  unfold setDeletions
  split
  · exact ⟨entries, rfl⟩
  · exact ⟨_, rfl⟩

/-- What adding deletions leaves and adds. -/
theorem addResourceDeletions_uids (provisioned : Provisioned document) (previous : Json) :
    ruleUids (addResourceDeletions document previous) = ruleUids document ∧
    contactPointUids (addResourceDeletions document previous) = contactPointUids document ∧
    (∀ uid, uid ∈ deletionUids (addResourceDeletions document previous) "deleteRules" ↔
      uid ∈ ruleUids previous ∪ deletionUids previous "deleteRules" ∧ uid ∉ ruleUids document ∧
        startsWith "ms-" uid = true) ∧
    (∀ uid, uid ∈ deletionUids (addResourceDeletions document previous) "deleteContactPoints" ↔
      uid ∈ contactPointUids previous ∪ deletionUids previous "deleteContactPoints" ∧
        uid ∉ contactPointUids document ∧ startsWith "microscope-" uid = true) := by
  obtain ⟨entries, rfl⟩ := provisioned.object
  let rules := resourceDeletions (ruleUids (.object entries))
    (ruleUids previous ∪ deletionUids previous "deleteRules") "ms-"
  obtain ⟨others, object⟩ := object_setDeletions entries "deleteRules" rules
  have contactPoints : contactPointUids (.object others) = contactPointUids (.object entries) := by
    rw [← object]
    exact contactPointUids_setDeletions _ _ (by decide)
  have absent : (Json.object others).field "deleteContactPoints" = .null := by
    rw [← object, field_setDeletions _ _ (by decide)]
    exact provisioned.contactPointDeletions
  have deleted : ((Json.object others).field "deleteRules").elements = rules := by
    rw [← object]
    exact elements_setDeletions rules provisioned.ruleDeletions
  have whole : addResourceDeletions (.object entries) previous =
      setDeletions (.object others) "deleteContactPoints" (resourceDeletions (contactPointUids (.object others))
        (contactPointUids previous ∪ deletionUids previous "deleteContactPoints") "microscope-") := by
    rw [← object]
    rfl
  rw [whole]
  refine ⟨?_, ?_, fun uid => ?_, fun uid => ?_⟩
  · rw [ruleUids_setDeletions _ _ (by decide), ← object]
    exact ruleUids_setDeletions _ _ (by decide)
  · rw [contactPointUids_setDeletions _ _ (by decide), contactPoints]
  · rw [deletionUids, mem_uids, field_setDeletions _ _ (by decide), deleted]
    exact mem_resourceDeletions
  · rw [deletionUids, mem_uids, elements_setDeletions _ absent, contactPoints]
    exact mem_resourceDeletions

theorem deletes_first (provisioned : Provisioned document) : Deletes [] document := by
  have none : ∀ field uid, document.field field = .null → uid ∉ deletionUids document field := by
    intro field uid absent member
    obtain ⟨_, listed, _⟩ := mem_uids.mp member
    rw [absent] at listed
    contradiction
  constructor
  · intro uid
    simpa using none "deleteRules" uid provisioned.ruleDeletions
  · intro uid
    simpa using none "deleteContactPoints" uid provisioned.contactPointDeletions

/-- What the last one has, or has lost of the earlier ones, is what occurred in
any of them. -/
theorem occurred_iff {α β : Type} {uids : β → α → Prop} {deleted : α → Prop} {earlier : List β} {last : β}
    (exactly : ∀ uid, deleted uid ↔ (∃ other ∈ earlier, uids other uid) ∧ ¬uids last uid) (uid : α) :
    uids last uid ∨ deleted uid ↔ ∃ other ∈ earlier ++ [last], uids other uid := by
  have split : (∃ other ∈ earlier ++ [last], uids other uid) ↔
      (∃ other ∈ earlier, uids other uid) ∨ uids last uid := by
    simp [or_and_right, exists_or]
  rw [exactly, split]
  by_cases kept : uids last uid
  · simp [kept]
  · simp [kept]

theorem deletes_next {earlier : List Json} (provisioned : Provisioned document)
    (deletes : Deletes earlier previous) (named : ∀ other ∈ earlier ++ [previous], Named other) :
    Named (addResourceDeletions document previous) ∧
      Deletes (earlier ++ [previous]) (addResourceDeletions document previous) := by
  obtain ⟨rules, contactPoints, deletedRules, deletedContactPoints⟩ :=
    addResourceDeletions_uids provisioned previous
  refine ⟨⟨?_, ?_⟩, ⟨fun uid => ?_, fun uid => ?_⟩⟩
  · rw [rules]
    exact provisioned.rules
  · rw [contactPoints]
    exact provisioned.contactPoints
  · rw [deletedRules, rules, ExtTreeSet.mem_union_iff, occurred_iff deletes.rules]
    constructor
    · rintro ⟨occurred, unwanted, _⟩
      exact ⟨occurred, unwanted⟩
    · rintro ⟨⟨other, listed, present⟩, unwanted⟩
      exact ⟨⟨other, listed, present⟩, unwanted, (named other listed).rules uid present⟩
  · rw [deletedContactPoints, contactPoints, ExtTreeSet.mem_union_iff, occurred_iff deletes.contactPoints]
    constructor
    · rintro ⟨occurred, unwanted, _⟩
      exact ⟨occurred, unwanted⟩
    · rintro ⟨⟨other, listed, present⟩, unwanted⟩
      exact ⟨⟨other, listed, present⟩, unwanted, (named other listed).contactPoints uid present⟩

/-! ## Any history of generations -/

/-- The file holds the next document, or after a failure what it held. -/
def GenerateOutcome (libraries : Libraries) (codec : DocumentCodec) (environment : String → Option String)
    (outputDir : String) (config : Config) (held : Option Bytes) : Except Failure Json → Disk → Prop
  | .ok document, final =>
      final.Holds outputName (temporaryName outputName) (some (codec.toVecPretty document)) ∧
        (existingDocument codec outputDir held >>= nextDocument libraries environment config) = .ok document
  | .error _, final => final.Holds outputName (temporaryName outputName) held

theorem generate_secures {disk : Disk} {held : Option Bytes}
    (holds : disk.Holds outputName (temporaryName outputName) held) :
    (generate libraries codec environment outputDir config).Secures diskEnvironment (fun _ => True)
      (GenerateOutcome libraries codec environment outputDir config held) disk := by
  unfold generate
  split
  · exact ⟨trivial, holds⟩
  refine ⟨trivial, fun response prepared answer => ?_⟩
  cases answer
  cases response with
  | error error => exact ⟨trivial, holds⟩
  | ok _ =>
  refine ⟨trivial, fun response known answer => ?_⟩
  cases answer
  rw [holds.read]
  dsimp only
  cases next : existingDocument codec outputDir held >>= nextDocument libraries environment config with
  | error failure => exact ⟨trivial, holds⟩
  | ok document =>
  refine (installFile_secures (temporaryName_ne outputName) holds _ _).bind (fun _ _ => trivial) ?_
  intro installed final _ outcome
  cases installed with
  | error failure => exact ⟨trivial, outcome⟩
  | ok _ => exact ⟨trivial, outcome, next⟩

/-- Every document deletes what it should, and is named. -/
structure Consistent (documents : List Json) : Prop where
  named : ∀ document ∈ documents, Named document
  deletes : ∀ index document, documents[index]? = some document → Deletes (documents.take index) document

theorem Consistent.snoc (consistent : Consistent documents) (named : Named document)
    (deletes : Deletes documents document) : Consistent (documents ++ [document]) where
  named := by
    intro other listed
    rcases List.mem_append.mp listed with earlier | last
    · exact consistent.named other earlier
    · rw [List.mem_singleton.mp last]
      exact named
  deletes := by
    intro index other found
    rcases Nat.lt_or_ge index documents.length with earlier | later
    · rw [List.getElem?_append_left earlier] at found
      rw [List.take_append_of_le_length earlier.le]
      exact consistent.deletes index other found
    · rw [List.getElem?_append_right later, List.getElem?_singleton] at found
      split at found
      · rename_i position
        obtain rfl := Option.some.inj found
        have last : index = documents.length := by omega
        rw [last, List.take_left]
        exact deletes
      · contradiction

theorem generate_outcome {disk final : Disk} {held : Option Bytes} {result : Except Failure Json}
    {trace : List (Program.Event (@SystemCall.Response String UInt8 IoError))}
    (holds : disk.Holds outputName (temporaryName outputName) held)
    (run : (generate libraries codec environment outputDir config).Run trace result)
    (execution : Program.Executes diskEnvironment disk trace final) :
    GenerateOutcome libraries codec environment outputDir config held result final :=
  ((generate_secures holds).advances (fun _ _ => id) run execution).2

theorem nextDocument_provisioned {before : Option Json}
    (next : nextDocument libraries environment config before = .ok document) :
    ∃ fresh, Provisioned fresh ∧ document = before.elim fresh (addResourceDeletions fresh) := by
  obtain ⟨fresh, provisioned, same⟩ := bind_accepts.mp next
  cases same
  exact ⟨fresh, provisioningDocument_provisioned provisioned, rfl⟩

theorem generations_consistent {initial final : Disk}
    (generations : Generations libraries codec outputDir initial documents final)
    (fresh : initial.Holds outputName (temporaryName outputName) none)
    (readable : ∀ document ∈ documents, codec.fromSlice (codec.toVecPretty document) = .ok document) :
    Consistent documents ∧
      final.Holds outputName (temporaryName outputName) (documents.getLast?.map codec.toVecPretty) := by
  induction generations with
  | start => exact ⟨⟨by simp, by simp⟩, fresh⟩
  | failed _ run execution ih =>
      obtain ⟨consistent, holds⟩ := ih readable
      exact ⟨consistent, generate_outcome holds run execution⟩
  | @generated documents document disk final _ _ _ _ run execution ih =>
      have earlier : ∀ other ∈ documents, codec.fromSlice (codec.toVecPretty other) = .ok other :=
        fun other listed => readable other (List.mem_append_left _ listed)
      obtain ⟨consistent, holds⟩ := ih earlier
      obtain ⟨written, next⟩ := generate_outcome holds run execution
      rw [List.getLast?_append, List.getLast?_singleton]
      refine ⟨?_, written⟩
      cases last : documents.getLast? with
      | none =>
          rw [last] at next
          obtain ⟨provisioned, made, rfl⟩ := nextDocument_provisioned next
          rw [List.getLast?_eq_none_iff.mp last]
          exact (List.getLast?_eq_none_iff.mp last ▸ consistent).snoc made.toNamed (deletes_first made)
      | some previous =>
          obtain ⟨front, rfl⟩ := List.getLast?_eq_some_iff.mp last
          have parsed : existingDocument codec outputDir (some (codec.toVecPretty previous)) =
              .ok (some previous) := by
            rw [existingDocument, earlier previous (List.mem_append_right _ List.mem_cons_self)]
            rfl
          rw [last, Option.map_some, parsed] at next
          obtain ⟨provisioned, made, rfl⟩ := nextDocument_provisioned next
          have latest : Deletes front previous := by
            have found := consistent.deletes front.length previous (by simp)
            rwa [List.take_left] at found
          obtain ⟨named, deletes⟩ := deletes_next made latest consistent.named
          exact consistent.snoc named deletes

/-- Every document of a history deletes exactly the uids of the earlier
documents that it has not. -/
theorem documents_delete_exactly {initial final : Disk}
    (generations : Generations libraries codec outputDir initial documents final)
    (fresh : initial.Holds outputName (temporaryName outputName) none)
    (readable : ∀ document ∈ documents, codec.fromSlice (codec.toVecPretty document) = .ok document)
    (index : Nat) (found : documents[index]? = some document) (uid : String) :
    (uid ∈ deletionUids document "deleteRules" ↔
      (∃ earlier ∈ documents.take index, uid ∈ ruleUids earlier) ∧ uid ∉ ruleUids document) ∧
    (uid ∈ deletionUids document "deleteContactPoints" ↔
      (∃ earlier ∈ documents.take index, uid ∈ contactPointUids earlier) ∧
        uid ∉ contactPointUids document) := by
  have deletes := (generations_consistent generations fresh readable).1.deletes index document found
  exact ⟨deletes.rules uid, deletes.contactPoints uid⟩

/-! ## A history of two documents -/

/-- A generation of which no call fails. -/
theorem generate_succeeds (codec : DocumentCodec) (outputDir : String) (disk : Disk)
    (credentials : validateContactPointCredentials libraries environment (configuredChannels config) = .ok ())
    (next : (existingDocument codec outputDir (disk.read outputName) >>=
      nextDocument libraries environment config) = .ok document)
    (absent : disk.visible (temporaryName outputName) = none) :
    ∃ trace final, (generate libraries codec environment outputDir config).Run trace (.ok document) ∧
      Program.Executes diskEnvironment disk trace final ∧
      final.visible (temporaryName outputName) = none ∧
      final.read outputName = some (codec.toVecPretty document) := by
  let content := codec.toVecPretty document
  let created := disk.created (temporaryName outputName)
  let written := created.modified disk.next (created.contents disk.next ++ content)
  let final := written.renamed (temporaryName outputName) outputName disk.next
  have scratch : written.visible (temporaryName outputName) = some disk.next := by
    simp [written, created, FileSystem.modified, FileSystem.created, FileSystem.relinked]
  have apart := temporaryName_ne outputName
  refine ⟨[⟨.createDirectories, .ok ()⟩, ⟨.read outputName, .ok (disk.read outputName)⟩,
    ⟨.openTruncated (temporaryName outputName), .ok disk.next⟩, ⟨.write disk.next content, .ok ()⟩,
    ⟨.rename (temporaryName outputName) outputName, .ok ()⟩], final, ?_, ?_, ?_, ?_⟩
  · unfold generate
    rw [credentials]
    refine .step (.step ?_)
    dsimp only
    rw [next]
    exact .step (.step (.step (.start _)))
  · exact .step .refl .createDirectories (.step .refl .read (.step .refl (.created absent)
      (.step .refl .written (.step .refl (.renamed scratch) (.idle .refl)))))
  · simp [final, FileSystem.renamed, FileSystem.relinked]
  · have atPath : final.visible outputName = some disk.next := by
      simp [final, FileSystem.renamed, FileSystem.relinked, Function.update_of_ne apart]
    have contents : final.contents disk.next = content := by
      simp [final, written, created, FileSystem.renamed, FileSystem.relinked, FileSystem.modified,
        FileSystem.created]
    rw [FileSystem.read, atPath, Option.map_some, contents]

/-! Documents as `serde_json` prints them, with sorted fields. -/

def quotedChars (text : List Char) : List Char :=
  '"' :: text.flatMap (fun character =>
    if character = '"' ∨ character = '\\' then ['\\', character] else [character]) ++ ['"']

def lineBreak (depth : Nat) : List Char := '\n' :: List.replicate (2 * depth) ' '

/-- The elements of a list or object between its brackets. -/
def bracketed (opening closing : Char) (depth : Nat) (elements : List (List Char)) : List Char :=
  if elements.isEmpty then [opening, closing]
  else opening :: List.intercalate [','] (elements.map fun element => lineBreak (depth + 1) ++ element) ++
    lineBreak depth ++ [closing]

mutual

def prettyChars (depth : Nat) : Json → List Char
  | .null => "null".toList
  | .bool value => (toString value).toList
  | .number value => (toString value).toList
  | .otherNumber text => text.toList
  | .string value => quotedChars value.toList
  | .array elements => bracketed '[' ']' depth (prettyElements (depth + 1) elements)
  | .object entries =>
      bracketed '\x7b' '\x7d' depth ((prettyEntries (depth + 1) entries).map fun entry =>
        quotedChars entry.1 ++ ": ".toList ++ entry.2)

def prettyElements (depth : Nat) : List Json → List (List Char)
  | [] => []
  | element :: rest => prettyChars depth element :: prettyElements depth rest

/-- The entries in the order of their names. -/
def prettyEntries (depth : Nat) : List (String × Json) → List (List Char × List Char)
  | [] => []
  | entry :: rest =>
      (prettyEntries depth rest).orderedInsert (fun first second => first.1 ≤ second.1)
        (entry.1.toList, prettyChars depth entry.2)

end

def prettyBytes (document : Json) : Bytes :=
  (prettyChars 0 document).map fun character => UInt8.ofNat character.toNat

/-- Reads the texts of two documents. -/
def sampleCodec (first second : Json) : DocumentCodec where
  toVecPretty := prettyBytes
  fromSlice contents :=
    if contents = prettyBytes first then .ok first
    else if contents = prettyBytes second then .ok second
    else .error "expected value at line 1 column 1"

def slackEnvironment (name : String) : Option String :=
  if name = "SLACK_WEBHOOK_URL" then some "https://hooks.slack.test" else none

def severityConfig (alert : AlertRule) : Config := { transferConfig with alertRules := [alert] }

def documentAfter (previous : Option Json) (alert : AlertRule) : Json :=
  (nextDocument transferLibraries slackEnvironment (severityConfig alert) previous).toOption.getD .null

def warningDocument : Json := documentAfter none transferAlert

def criticalDocument : Json := documentAfter (some warningDocument) criticalAlert

theorem nextDocument_documentAfter (alert : AlertRule) (previous : Option Json)
    (accepted : (severityConfig alert).validate transferLibraries "idl.json" transferIdl = .ok ()) :
    nextDocument transferLibraries slackEnvironment (severityConfig alert) previous =
      .ok (documentAfter previous alert) := by
  obtain ⟨document, provisioned, _⟩ := provisioningDocument_uids
    (slackEnvironment "MICROSCOPE_DEPLOYMENT") (configuredChannels (severityConfig alert))
    ((severityConfig alert).datasource.pollsRpc transferLibraries slackEnvironment) accepted
  have next : nextDocument transferLibraries slackEnvironment (severityConfig alert) previous =
      .ok (previous.elim document (addResourceDeletions document)) :=
    bind_accepts.mpr ⟨document, provisioned, rfl⟩
  rw [documentAfter, next]
  rfl

def emptyDisk : Disk where
  visible _ := none
  unsettled := []
  contents _ := []
  synced _ := false
  next := 0

theorem texts_differ : prettyBytes criticalDocument ≠ prettyBytes warningDocument := by decide +kernel

theorem sampleCodec_reads {first second : Json} (different : prettyBytes second ≠ prettyBytes first) :
    ∀ document ∈ [first, second], (sampleCodec first second).fromSlice (prettyBytes document) =
      .ok document := by
  simp [sampleCodec, different]

abbrev severitiesCodec : DocumentCodec := sampleCodec warningDocument criticalDocument

theorem severities_generated : ∃ final,
    Generations transferLibraries severitiesCodec "alerting" emptyDisk [warningDocument, criticalDocument]
      final := by
  have warning : (severityConfig transferAlert).validate transferLibraries "idl.json" transferIdl = .ok () := by
    decide +kernel
  have critical : (severityConfig criticalAlert).validate transferLibraries "idl.json" transferIdl = .ok () := by
    decide +kernel
  have credentials : ∀ alert ∈ [transferAlert, criticalAlert],
      validateContactPointCredentials transferLibraries slackEnvironment
        (configuredChannels (severityConfig alert)) = .ok () := by decide +kernel
  have first := nextDocument_documentAfter transferAlert none warning
  obtain ⟨_, middle, run, execution, absent, held⟩ := generate_succeeds severitiesCodec "alerting" emptyDisk
    (credentials transferAlert List.mem_cons_self) first rfl
  have existing : existingDocument severitiesCodec "alerting" (middle.read outputName) =
      .ok (some warningDocument) := by
    have readable : severitiesCodec.fromSlice (severitiesCodec.toVecPretty warningDocument) =
        .ok warningDocument := sampleCodec_reads texts_differ warningDocument List.mem_cons_self
    rw [held]
    change existingDocument severitiesCodec "alerting" (some (severitiesCodec.toVecPretty warningDocument)) = _
    rw [existingDocument, readable]
    rfl
  have second := nextDocument_documentAfter criticalAlert (some warningDocument) critical
  obtain ⟨_, final, nextRun, nextExecution, _, _⟩ := generate_succeeds severitiesCodec "alerting" middle
    (credentials criticalAlert (List.mem_cons_of_mem _ List.mem_cons_self))
    (bind_accepts.mpr ⟨some warningDocument, existing, second⟩) absent
  have written : Generations transferLibraries severitiesCodec "alerting" emptyDisk ([] ++ [warningDocument])
      middle := .generated .start run execution
  exact ⟨final, .generated written nextRun nextExecution⟩

/-- The uid of the rule of the first severity. -/
def warningUid : String := (ruleUids warningDocument).minD ""

theorem documents_delete_exactly_severities :
    (warningUid ∈ deletionUids criticalDocument "deleteRules" ↔
      (∃ earlier ∈ [warningDocument], warningUid ∈ ruleUids earlier) ∧
        warningUid ∉ ruleUids criticalDocument) ∧
    (warningUid ∈ deletionUids criticalDocument "deleteContactPoints" ↔
      (∃ earlier ∈ [warningDocument], warningUid ∈ contactPointUids earlier) ∧
        warningUid ∉ contactPointUids criticalDocument) := by
  obtain ⟨final, generations⟩ := severities_generated
  have fresh : emptyDisk.Holds outputName (temporaryName outputName) none :=
    { read := rfl
      apart := by simp [emptyDisk]
      exist := by simp [emptyDisk] }
  exact documents_delete_exactly generations fresh (sampleCodec_reads texts_differ) 1 rfl warningUid

end Microscope.Alerting
