import Microscope.Polling.Restarts

namespace Microscope.Shipped

open Std Microscope.Data

/-! # Starts refused for another target

A process that finds the checkpoint of another target leaves it where it is and
discards the journal.
-/

variable {Signature : Type} [LinearOrder Signature] [SignatureText Signature]
  {journal : Journal Signature} {name other : String}

/-! ## Journals of another target -/

/-- The first line of the file is complete and not the header of this name, and
the process does not go by it. -/
structure Journal.Foreign (name : String) (journal : Journal Signature) : Prop where
  file : ∀ raw ∈ journal.file, ∃ line rest, raw = line ++ '\n' :: rest ∧ OneLine line ∧
    stripStart identityPrefix line ≠ some name.toList
  closed : journal.file = none → journal.state.isOpen = false
  identity : ∀ identity ∈ journal.state.identity, OneLine identity.toList ∧ identity ≠ name

namespace Journal.Foreign

omit [SignatureText Signature] in
theorem missing (closed : journal.state.isOpen = false) (absent : journal.file = none)
    (identity : ∀ identity ∈ journal.state.identity, OneLine identity.toList ∧ identity ≠ name) :
    journal.Foreign name where
  file := by simp [absent]
  closed := fun _ => closed
  identity := identity

omit [SignatureText Signature] in
theorem header (foreign : journal.Foreign name) : headerOf journal.file ≠ some name := by
  intro same
  cases found : journal.file with
  | none =>
      rw [found] at same
      cases same
  | some raw =>
      obtain ⟨line, rest, rfl, oneLine, different⟩ := foreign.file raw found
      rw [found, headerOf, Option.bind_some, lines_append_newline oneLine, List.head?_cons,
        Option.bind_some] at same
      obtain ⟨header, stripped, rfl⟩ := Option.map_eq_some_iff.mp same
      exact different (by rw [stripped, String.toList_ofList])

theorem record {signature : Signature} {slot : Slot} (foreign : journal.Foreign name) :
    (journal.record noFaults signature slot).Foreign name := by
  unfold Journal.record
  split
  · exact foreign
  rw [append_noFaults]
  refine ⟨?_, by simp, foreign.identity⟩
  rintro raw ⟨⟩
  cases found : journal.file with
  | some raw =>
      obtain ⟨line, rest, rfl, oneLine, different⟩ := foreign.file raw found
      exact ⟨line, rest ++ entryLine (signature, slot), by simp [Journal.mark, found], oneLine, different⟩
  | none =>
      have closed := foreign.closed found
      cases known : journal.state.identity with
      | none =>
          refine ⟨entryText (signature, slot), [], ?_, entryText_oneLine, by simp [stripStart_entryText]⟩
          simp [Journal.mark, found, known, entryLine_eq]
      | some identity =>
          obtain ⟨oneLine, different⟩ := foreign.identity identity known
          refine ⟨identityPrefix ++ identity.toList, entryLine (signature, slot), ?_,
            OneLine.append (by decide) oneLine, ?_⟩
          · simp [Journal.mark, found, known, closed, headerLine]
          · rw [stripStart_eq_some_iff.mpr rfl]
            exact fun same => different (String.toList_inj.mp (Option.some.inj same))

omit [SignatureText Signature] in
theorem discard (journal : Journal Signature) (oneLine : OneLine other.toList) (different : other ≠ name) :
    (journal.discard noFaults other).Foreign name := by
  unfold Journal.discard
  rw [purge_noFaults]
  refine missing rfl rfl ?_
  rintro identity ⟨⟩
  exact ⟨oneLine, different⟩

/-- Nothing is restored from it under that name. -/
theorem restored (foreign : journal.Foreign name) : (journal.restore noFaults name).1 = [] := by
  unfold Journal.restore
  cases found : journal.file with
  | none => simp [readJournal]
  | some raw =>
      have different : (parseJournal raw : Option String × List (Signature × Slot)).1 ≠ some name := by
        rw [parseJournal_header, ← found]
        exact foreign.header
      simp [readJournal, noFaults, different]

theorem restore (foreign : journal.Foreign name) (oneLine : OneLine other.toList) (different : other ≠ name) :
    (journal.restore noFaults other).2.Foreign name := by
  have named : ∀ identity ∈ some other, OneLine identity.toList ∧ identity ≠ name := by
    rintro identity ⟨⟩
    exact ⟨oneLine, different⟩
  unfold Journal.restore
  cases found : journal.file with
  | none =>
      simp only [readJournal, purge_noFaults]
      split
      · exact ⟨foreign.file, foreign.closed, named⟩
      · exact missing rfl rfl named
  | some raw =>
      have readable : (noFaults .read).isSome = false := rfl
      simp only [readJournal, readable, Bool.false_eq_true, if_false]
      split
      · exact ⟨foreign.file, foreign.closed, named⟩
      · simp only [purge_noFaults]
        exact missing rfl rfl named

omit [SignatureText Signature] in
/-- The next process finds the file, and goes by no name yet. -/
theorem reopened (foreign : journal.Foreign name) :
    ({ file := journal.file } : Journal Signature).Foreign name where
  file := foreign.file
  closed := fun _ => rfl
  identity := by simp

end Journal.Foreign

/-! ## Journals that keep their entries -/

/-- The file carries this name and still has these entries. -/
def Journal.Vouching (name : String) (entries : List (Signature × Slot)) (journal : Journal Signature) :
    Prop :=
  ∃ raw, journal.file = some raw ∧ raw ≠ [] ∧ Whole raw ∧
    ∃ more, parseJournal raw = (some name, entries ++ more)

namespace Journal.Vouching

variable {entries : List (Signature × Slot)}

theorem record {signature : Signature} {slot : Slot} (vouching : journal.Vouching name entries) :
    (journal.record noFaults signature slot).Vouching name entries := by
  unfold Journal.record
  split
  · exact vouching
  obtain ⟨raw, found, filled, whole, more, parsed⟩ := vouching
  rw [append_noFaults]
  refine ⟨raw ++ entryLine (signature, slot), ?_, by simp [filled], entryLine_whole, ?_⟩
  · simp [Journal.mark, found, filled]
  · refine ⟨more ++ parseEntries (lines (entryLine (signature, slot))), ?_⟩
    rw [parseJournal_append whole filled, parsed, List.append_assoc]

theorem restored (vouching : journal.Vouching name entries) :
    ∃ more, (journal.restore noFaults name).1 = entries ++ more := by
  obtain ⟨raw, found, _, _, more, parsed⟩ := vouching
  exact ⟨more, by simp [Journal.restore, readJournal, found, noFaults, parsed]⟩

end Journal.Vouching

end Microscope.Shipped

namespace Microscope.Polling

open Std Microscope.Data Microscope.Shipped

/-! ## The names of targets -/

/-- Text as `Hash` and `Pubkey` write it. -/
structure Base58Text (text : String) : Prop where
  filled : text ≠ ""
  base58 : text.toList.all isBase58 = true

/-- The cluster, the program and the addresses of a process are named in base58. -/
structure NamesTarget (surroundings : Surroundings) (datasource : RpcPollingDatasource)
    (addresses : List Address) : Prop where
  genesisHash : Base58Text surroundings.genesisHash
  programId : Base58Text datasource.programId
  addresses : ∀ address ∈ addresses, Base58Text address

theorem oneLine_intercalate {parts : List (List Char)} (plain : ∀ part ∈ parts, OneLine part) :
    OneLine ([','].intercalate parts) := by
  induction parts with
  | nil =>
      rw [List.intercalate_nil]
      simp [OneLine]
  | cons part rest ih =>
      have first := plain part List.mem_cons_self
      have others := ih fun other member => plain other (List.mem_cons_of_mem _ member)
      cases rest with
      | nil => simpa using first
      | cons next rest =>
          rw [List.intercalate_cons_cons]
          exact (first.append (by decide)).append others

section Names

variable {surroundings other : Surroundings} {datasource otherDatasource : RpcPollingDatasource}
  {addresses otherAddresses : List Address}

/-- The three parts of the name. -/
theorem identity_toList : (surroundings.identity datasource addresses).toList =
    surroundings.genesisHash.toList ++ ' ' :: (datasource.programId.toList ++
      ' ' :: [','].intercalate ((addresses.insertionSort (· ≤ ·)).map String.toList)) := by
  have space : " ".toList = [' '] := by decide
  have comma : ",".toList = [','] := by decide
  simp [Surroundings.identity, journalIdentity, String.toList_append, String.toList_intercalate, space,
    comma]

theorem identity_oneLine (names : NamesTarget surroundings datasource addresses) :
    OneLine (surroundings.identity datasource addresses).toList := by
  have genesis := (base58_oneLine names.genesisHash.base58).1
  have program := (base58_oneLine names.programId.base58).1
  have listed : OneLine ([','].intercalate ((addresses.insertionSort (· ≤ ·)).map String.toList)) := by
    refine oneLine_intercalate fun part member => ?_
    obtain ⟨address, inside, rfl⟩ := List.mem_map.mp member
    have monitored : address ∈ addresses := (List.mem_insertionSort (· ≤ ·)).mp inside
    exact (base58_oneLine (names.addresses address monitored).base58).1
  have space : OneLine [' '] := by decide
  rw [identity_toList]
  exact genesis.append (space.append (program.append (space.append listed)))

/-- Targets of one name are one target. -/
theorem identity_injective (names : NamesTarget surroundings datasource addresses)
    (otherNames : NamesTarget other otherDatasource otherAddresses)
    (same : surroundings.identity datasource addresses = other.identity otherDatasource otherAddresses) :
    (surroundings.store datasource addresses).identity =
      (other.store otherDatasource otherAddresses).identity := by
  have plain : ∀ {surroundings : Surroundings} {datasource : RpcPollingDatasource} {addresses : List Address},
      NamesTarget surroundings datasource addresses →
      ∀ part ∈ (addresses.insertionSort (· ≤ ·)).map String.toList, part ≠ [] ∧ ',' ∉ part := by
    intro surroundings datasource addresses names part member
    obtain ⟨address, inside, rfl⟩ := List.mem_map.mp member
    have text := names.addresses address ((List.mem_insertionSort (· ≤ ·)).mp inside)
    refine ⟨fun empty => text.filled (String.toList_eq_nil_iff.mp empty), fun comma => ?_⟩
    have valid := List.all_eq_true.mp text.base58 ',' comma
    exact absurd valid (by decide +kernel)
  have lists := congrArg String.toList same
  rw [identity_toList, identity_toList] at lists
  have first := congrArg (splitOnce ' ') lists
  rw [splitOnce_append (base58_oneLine names.genesisHash.base58).2,
    splitOnce_append (base58_oneLine otherNames.genesisHash.base58).2] at first
  obtain ⟨genesis, rest⟩ := Prod.mk.inj (Option.some.inj first)
  have second := congrArg (splitOnce ' ') rest
  rw [splitOnce_append (base58_oneLine names.programId.base58).2,
    splitOnce_append (base58_oneLine otherNames.programId.base58).2] at second
  obtain ⟨program, listed⟩ := Prod.mk.inj (Option.some.inj second)
  have parts := intercalate_injective (plain names) (plain otherNames) listed
  have sorted : addresses.insertionSort (· ≤ ·) = otherAddresses.insertionSort (· ≤ ·) :=
    List.map_injective_iff.mpr (fun _ _ => String.toList_inj.mp) parts
  simp only [Surroundings.store, RpcPollingDatasource.checkpointStore, CheckpointStore.new,
    String.toList_inj.mp genesis, String.toList_inj.mp program, sorted]

end Names

/-! ## Refused starts -/

variable {Signature : Type} [LinearOrder Signature] [SignatureText Signature]
  {surroundings other : Surroundings} {codec : JsonCodec}
  {datasource otherDatasource : RpcPollingDatasource} {addresses otherAddresses : List Address}
  {pages : Nat} {before after refused : Site Signature} {raw : Bytes} {name identity : String}

/-- A process that has discarded the journal and goes no further, as it found a
checkpoint that it may not use. -/
structure RefusedStart (surroundings : Surroundings) (codec : JsonCodec)
    (datasource : RpcPollingDatasource) (addresses : List Address) (pages : Nat)
    (before after : Site Signature) : Prop where
  refuses : ∃ waiting trace control,
    Program.Rounds (siteEnvironment surroundings) (consume codec datasource addresses pages)
      (fun _ _ _ => True) .readingGenesisHash before .readingGenesisHash waiting ∧
    Program.Advances (readGenesisHash codec datasource addresses) trace control ∧
    Program.Executes (siteEnvironment surroundings) waiting trace after ∧
    ⟨.discardShipped (surroundings.identity datasource addresses), ()⟩ ∈ trace

/-- A command of a start-up under this name that leaves the checkpoint alone. -/
def Call.Owning (identity : String) : Call Signature → Prop
  | .restoreShipped name => name = identity
  | .discardShipped name => name = identity
  | .compactShipped _ => False
  | .installCheckpoint _ => False
  | .moveCorruptCheckpoint => False
  | _ => True

omit [LinearOrder Signature] [SignatureText Signature] in
theorem Call.Idle.owning {call : Call Signature} (idle : call.Idle) : call.Owning identity := by
  cases call <;> first | exact trivial | exact idle.elim

section Parties

variable (faultless : surroundings.faults = {noFaults})

include faultless

theorem Site.Answers.foreign {call : Call Signature} {response : call.Response}
    (owning : call.Owning identity) (oneLine : OneLine identity.toList) (different : identity ≠ name)
    (answers : before.Answers surroundings after call response) (foreign : before.journal.Foreign name) :
    after.journal.Foreign name := by
  by_cases transient : call.Transient
  · rw [(answers.sameFiles transient).journal]
    exact foreign
  · cases call with
    | readCheckpoint =>
        have idle : (Call.readCheckpoint : Call Signature).Idle := trivial
        rw [answers.idle idle]
        exact foreign
    | restoreShipped restored =>
        cases owning
        obtain ⟨faults, admitted, _, rfl⟩ := answers
        rw [faultless] at admitted
        cases admitted
        exact foreign.restore oneLine different
    | discardShipped discarded =>
        cases owning
        obtain ⟨faults, admitted, rfl⟩ := answers
        rw [faultless] at admitted
        cases admitted
        exact .discard _ oneLine different
    | compactShipped minimumSlot => exact owning.elim
    | installCheckpoint encoded => exact owning.elim
    | moveCorruptCheckpoint => exact owning.elim
    | _ => exact absurd trivial transient

/-- What the other parties record leaves a property of the journal in place. -/
theorem Site.Moves.journal {property : Journal Signature → Prop}
    (recorded : ∀ journal signature slot, property journal →
      property (journal.record noFaults signature slot))
    (moves : Site.Moves surroundings before after) (holds : property before.journal) :
    property after.journal := by
  cases moves with
  | @ship update faults busy admitted =>
      rw [faultless] at admitted
      cases admitted
      exact recorded _ _ _ holds
  | _ => exact holds

theorem drifts_journal {property : Journal Signature → Prop}
    (recorded : ∀ journal signature slot, property journal →
      property (journal.record noFaults signature slot))
    (drifts : (siteEnvironment surroundings).Drifts before after) (holds : property before.journal) :
    property after.journal := by
  induction drifts with
  | refl => exact holds
  | tail _ moves ih => exact Site.Moves.journal faultless recorded moves ih

end Parties

theorem validateIdentity_ok_iff {store : CheckpointStore} {document : CheckpointDocument} :
    store.validateIdentity document = .ok () ↔ document.schemaVersion = checkpointSchemaVersion ∧
      document.genesisHash = store.identity.genesisHash ∧
      document.programId = store.identity.programId ∧ document.addresses = store.identity.addresses := by
  unfold CheckpointStore.validateIdentity
  dsimp only
  split_ifs <;> simp_all

/-- A process may use the checkpoints of its own target. -/
theorem interpret_own_target {store otherStore : CheckpointStore}
    {reading : CheckpointReading Signature} {mismatch : CheckpointMismatch}
    (same : otherStore.identity = store.identity) (reads : store.interpret codec raw = .ok reading) :
    (otherStore.interpret codec raw : Except _ (CheckpointReading Signature)) ≠ .error mismatch := by
  unfold CheckpointStore.interpret at reads ⊢
  cases parsed : codec.fromSlice raw with
  | error error => simp
  | ok json =>
  rw [parsed] at reads
  dsimp only at reads ⊢
  cases read : CheckpointDocument.fromJson json with
  | error error => simp
  | ok document =>
  rw [read] at reads
  dsimp only [bind, Except.bind] at reads ⊢
  cases valid : store.validateIdentity document with
  | error other =>
      rw [valid] at reads
      cases reads
  | ok _ =>
      have otherValid : otherStore.validateIdentity document = .ok () := by
        rw [validateIdentity_ok_iff, same, ← validateIdentity_ok_iff]
        exact valid
      rw [otherValid]
      dsimp only
      split
      · simp [pure, Except.pure]
      · split
        · simp [pure, Except.pure]
        · split <;> simp [pure, Except.pure]

/-- As long as a process with an uncorrupted checkpoint starts up, that stays,
and the journal is restored or discarded under the name of the process. -/
theorem keeps_owning {waiting : Site Signature} {trace : List (CallEvent Signature)}
    {control : Task Signature (Consumption Signature ⊕ Stopped)}
    (sound : ∀ reason, ((surroundings.store datasource addresses).interpret codec raw :
      Except _ (CheckpointReading Signature)) ≠ .ok (.corrupt reason))
    (rounds : Program.Rounds (siteEnvironment surroundings) (consume codec datasource addresses pages)
      (fun _ _ _ => True) .readingGenesisHash before .readingGenesisHash waiting)
    (reached : Program.Advances (readGenesisHash codec datasource addresses) trace control)
    (execution : Program.Executes (siteEnvironment surroundings) waiting trace after)
    (content : before.checkpoint = some raw) :
    after.checkpoint = some raw ∧
      ∀ event ∈ trace, event.1.Owning (surroundings.identity datasource addresses) := by
  obtain ⟨finds, kept⟩ := keeps_file sound rounds reached execution content
  have owns : Program.Obeys (surroundings.Finds raw)
      (Call.Owning (surroundings.identity datasource addresses))
      (readGenesisHash codec datasource addresses : Task Signature (Consumption Signature ⊕ Stopped)) := by
    refine readGenesisHash_obeys (fun _ => Call.Idle.owning) trivial ?_ ?_ ?_
    · rintro genesisHash read
      cases read
      rfl
    · rintro genesisHash read
      cases read
      rfl
    · intro genesisHash found reason read content interpreted
      cases read
      cases content
      exact absurd interpreted (sound reason)
  exact ⟨kept, (owns.advances reached finds).1⟩

/-- After a refused start the checkpoint is there, and the journal is not that
of its target. -/
theorem RefusedStart.leaves {mismatch : CheckpointMismatch}
    (faultless : surroundings.faults = {noFaults})
    (oneLine : OneLine (surroundings.identity datasource addresses).toList)
    (different : surroundings.identity datasource addresses ≠ name)
    (mismatches : ((surroundings.store datasource addresses).interpret codec raw :
      Except _ (CheckpointReading Signature)) = .error mismatch)
    (content : before.checkpoint = some raw)
    (refuses : RefusedStart surroundings codec datasource addresses pages before refused) :
    refused.checkpoint = some raw ∧ refused.journal.Foreign name := by
  obtain ⟨waiting, trace, control, rounds, reached, execution, discards⟩ := refuses.refuses
  have sound : ∀ reason, ((surroundings.store datasource addresses).interpret codec raw :
      Except _ (CheckpointReading Signature)) ≠ .ok (.corrupt reason) := by
    simp [mismatches]
  obtain ⟨kept, owning⟩ := keeps_owning sound rounds reached execution content
  obtain ⟨first, rest, ready, discarded, rfl, _, answer, later⟩ := execution.at_event discards
  have foreign : discarded.journal.Foreign name := by
    obtain ⟨faults, admitted, rfl⟩ := answer.2
    rw [faultless] at admitted
    cases admitted
    exact .discard _ oneLine different
  have answered : ∀ (first : Site Signature) (event : CallEvent Signature) second, event ∈ rest →
      (siteEnvironment surroundings).answers first event.1 event.2 second →
      first.journal.Foreign name → second.journal.Foreign name := by
    intro first event second member answer foreign
    have owned : event.1.Owning (surroundings.identity datasource addresses) :=
      owning event (List.mem_append_right _ (List.mem_cons_of_mem _ member))
    exact Site.Answers.foreign faultless owned oneLine different answer.2 foreign
  have moved : ∀ first second : Site Signature, (siteEnvironment surroundings).interferes first second →
      first.journal.Foreign name → second.journal.Foreign name := fun _ _ moves foreign =>
    Site.Moves.journal faultless (fun _ _ _ foreign => foreign.record) moves foreign
  have final := later.keeps_events answered moved foreign
  exact ⟨kept, final⟩

/-- A valid checkpoint is resumed alone when the journal is another target's. -/
theorem Starts.resumes_alone {snapshot : CheckpointSnapshot Signature} {begun : PollingLoop Signature}
    (faultless : surroundings.faults = {noFaults})
    (loads : (surroundings.store datasource addresses).interpret codec raw = .ok (.loaded snapshot))
    (content : before.checkpoint = some raw)
    (foreign : before.journal.Foreign (surroundings.identity datasource addresses))
    (starts : Starts surroundings codec datasource addresses pages before begun after) :
    begun.state = snapshot.resume := by
  have found : LoadsFrom (surroundings.store datasource addresses) codec before.checkpoint
      (.loaded snapshot) := by
    rw [content]
    exact ⟨snapshot, rfl, loads⟩
  obtain ⟨ready, entries, restored, faults, admitted, drifts, restores, _, rfl⟩ := starts.loaded found
  rw [faultless] at admitted
  cases admitted
  have kept : ready.journal.Foreign (surroundings.identity datasource addresses) :=
    drifts_journal faultless (fun _ _ _ foreign => foreign.record) drifts foreign
  have nothing : entries = [] := by rw [← kept.restored, restores]
  rw [nothing]
  rfl

/-- It is resumed with what its own journal lists. -/
theorem Starts.resumes_journal {snapshot : CheckpointSnapshot Signature} {begun : PollingLoop Signature}
    {entries : List (Signature × Slot)} (faultless : surroundings.faults = {noFaults})
    (loads : (surroundings.store datasource addresses).interpret codec raw = .ok (.loaded snapshot))
    (content : before.checkpoint = some raw)
    (vouching : before.journal.Vouching (surroundings.identity datasource addresses) entries)
    (starts : Starts surroundings codec datasource addresses pages before begun after) :
    ∃ more, begun.state = snapshot.resume.recordRecentSignatures (entries ++ more) := by
  have found : LoadsFrom (surroundings.store datasource addresses) codec before.checkpoint
      (.loaded snapshot) := by
    rw [content]
    exact ⟨snapshot, rfl, loads⟩
  obtain ⟨ready, all, restored, faults, admitted, drifts, restores, _, rfl⟩ := starts.loaded found
  rw [faultless] at admitted
  cases admitted
  have kept : ready.journal.Vouching (surroundings.identity datasource addresses) entries :=
    drifts_journal faultless (fun _ _ _ vouching => vouching.record) drifts vouching
  obtain ⟨more, same⟩ := kept.restored
  rw [restores] at same
  exact ⟨more, by rw [← same]; rfl⟩

/-- A start that is refused because of the checkpoint of another target costs
that target its journal and nothing else: its next process resumes the
checkpoint alone, and so no longer knows the shipped transactions that only the
journal listed. -/
theorem refused_start_costs_journal {snapshot : CheckpointSnapshot Signature}
    {mismatch : CheckpointMismatch} {begun : PollingLoop Signature} {entries : List (Signature × Slot)}
    (names : NamesTarget surroundings datasource addresses)
    (otherNames : NamesTarget other otherDatasource otherAddresses)
    (faultless : surroundings.faults = {noFaults}) (otherFaultless : other.faults = {noFaults})
    (content : before.checkpoint = some raw)
    (loads : (surroundings.store datasource addresses).interpret codec raw = .ok (.loaded snapshot))
    (mismatches : ((other.store otherDatasource otherAddresses).interpret codec raw :
      Except _ (CheckpointReading Signature)) = .error mismatch)
    (journaled : before.journal.Vouching (surroundings.identity datasource addresses) entries)
    (refuses : RefusedStart other codec otherDatasource otherAddresses pages before.restart refused)
    (starts : Starts surroundings codec datasource addresses pages refused.restart begun after) :
    begun.state = snapshot.resume ∧
      ∀ (clean : PollingLoop Signature) (started : Site Signature),
        Starts surroundings codec datasource addresses pages before.restart clean started →
        clean.state.cursors = begun.state.cursors ∧
        clean.state.poisonFailures = begun.state.poisonFailures ∧
        ∀ entry ∈ entries, entry.1 ∈ clean.state.recentSignatures ∧
          (entry.1 ∈ begun.state.recentSignatures ↔ entry.1 ∈ snapshot.recentSignatures) := by
  have different : other.identity otherDatasource otherAddresses ≠
      surroundings.identity datasource addresses := by
    intro same
    exact interpret_own_target (identity_injective otherNames names same) loads mismatches
  have oneLine := identity_oneLine otherNames
  have there : before.restart.checkpoint = some raw := content
  obtain ⟨kept, foreign⟩ := refuses.leaves otherFaultless oneLine different mismatches there
  have left : refused.restart.checkpoint = some raw ∧
      refused.restart.journal.Foreign (surroundings.identity datasource addresses) :=
    ⟨kept, foreign.reopened⟩
  have resumed : begun.state = snapshot.resume :=
    starts.resumes_alone faultless loads left.1 left.2
  refine ⟨resumed, fun clean started startsClean => ?_⟩
  obtain ⟨more, same⟩ := startsClean.resumes_journal faultless loads there journaled
  rw [same, resumed]
  refine ⟨recordRecentSignatures_cursors, recordRecentSignatures_poisonFailures, fun entry member => ?_⟩
  refine ⟨?_, Iff.rfl⟩
  rw [recordRecentSignatures_recentSignatures, OrderedMap.mem_insertAll]
  exact .inr ⟨entry.2, List.mem_append_left _ member⟩

/-! ## Start-ups that happen -/

/-- What a process wrote is refused by the processes for other targets. -/
theorem interpret_encode_mismatch {store reader : CheckpointStore} {snapshot : CheckpointSnapshot Signature}
    (bounded : snapshot.Bounded) (different : reader.identity ≠ store.identity) :
    ∃ mismatch, (reader.interpret codec (store.encode codec snapshot) :
      Except CheckpointMismatch (CheckpointReading Signature)) = .error mismatch := by
  have documentBounded := CheckpointStore.document_bounded store bounded
  have invalid : reader.validateIdentity (store.document snapshot) ≠ .ok () := by
    intro valid
    obtain ⟨_, genesisHash, programId, addresses⟩ := validateIdentity_ok_iff.mp valid
    have same : store.identity = reader.identity := by
      cases own : store.identity
      cases read : reader.identity
      simp only [CheckpointStore.document, own, read] at genesisHash programId addresses
      rw [genesisHash, programId, addresses]
    exact different same.symm
  cases validated : reader.validateIdentity (store.document snapshot) with
  | ok _ => exact absurd validated invalid
  | error mismatch =>
      refine ⟨mismatch, ?_⟩
      simp only [CheckpointStore.interpret, CheckpointStore.encode,
        codec.fromSlice_toVecPretty _ documentBounded, fromJson_toJson documentBounded, validated]
      rfl

theorem startUp_loads {genesisHash : String} {snapshot : CheckpointSnapshot Signature}
    (loads : (datasource.checkpointStore datasource.checkpointPath genesisHash addresses).interpret codec
      raw = .ok (.loaded snapshot)) :
    Program.Advances (startUp codec datasource addresses genesisHash) [⟨.readCheckpoint, .ok (some raw)⟩]
      (restoreState (journalIdentity datasource addresses genesisHash) (.loaded snapshot) >>= fun state =>
        .done (.inl (.polling (beginPolling
          (datasource.checkpointStore datasource.checkpointPath genesisHash addresses) state)))) := by
  refine .step ?_
  simp only [Program.bind, loads]
  exact .start _

theorem startUp_mismatches {genesisHash : String} {mismatch : CheckpointMismatch}
    (mismatches : ((datasource.checkpointStore datasource.checkpointPath genesisHash addresses).interpret
      codec raw : Except _ (CheckpointReading Signature)) = .error mismatch) :
    ∃ control : Task Signature (Consumption Signature ⊕ Stopped),
      Program.Advances (startUp codec datasource addresses genesisHash)
        [⟨.readCheckpoint, .ok (some raw)⟩,
          ⟨.discardShipped (journalIdentity datasource addresses genesisHash), ()⟩] control := by
  obtain ⟨next, starts, after, discards⟩ : ∃ next,
      (startUp codec datasource addresses genesisHash : Task Signature (Consumption Signature ⊕ Stopped)) =
        .call .readCheckpoint next ∧
      ∃ after, next (.ok (some raw)) =
        .call (.discardShipped (journalIdentity datasource addresses genesisHash)) after := by
    refine ⟨_, rfl, ?_⟩
    simp only [Program.bind, mismatches]
    exact ⟨_, rfl⟩
  rw [starts]
  refine ⟨after (), .step ?_⟩
  rw [discards]
  exact .step (.start _)

section Happening

variable {site : Site Signature} (admitted : noFaults ∈ surroundings.faults)
  (content : site.checkpoint = some raw)

include admitted content

/-- A process that finds a valid checkpoint and can read it resumes both files. -/
theorem loads_resumes {snapshot : CheckpointSnapshot Signature}
    (loads : (surroundings.store datasource addresses).interpret codec raw = .ok (.loaded snapshot)) :
    Program.Run (readGenesisHash codec datasource addresses)
        [⟨.rpc .getGenesisHash, .ok surroundings.genesisHash⟩, ⟨.readCheckpoint, .ok (some raw)⟩,
          ⟨.restoreShipped (surroundings.identity datasource addresses),
            (site.journal.restore noFaults (surroundings.identity datasource addresses)).1⟩]
        (.inl (.polling (beginPolling (surroundings.store datasource addresses)
          (snapshot.resume.recordRecentSignatures
            (site.journal.restore noFaults (surroundings.identity datasource addresses)).1)))) ∧
      Program.Executes (siteEnvironment surroundings) site
        [⟨.rpc .getGenesisHash, .ok surroundings.genesisHash⟩, ⟨.readCheckpoint, .ok (some raw)⟩,
          ⟨.restoreShipped (surroundings.identity datasource addresses),
            (site.journal.restore noFaults (surroundings.identity datasource addresses)).1⟩]
        { site with
          journal := (site.journal.restore noFaults (surroundings.identity datasource addresses)).2 } := by
  have restored : Program.Executes (siteEnvironment surroundings) site
      [⟨.restoreShipped (surroundings.identity datasource addresses),
        (site.journal.restore noFaults (surroundings.identity datasource addresses)).1⟩]
      { site with
        journal := (site.journal.restore noFaults (surroundings.identity datasource addresses)).2 } :=
    .step .refl ⟨restore_bounded, noFaults, admitted, rfl, rfl⟩ (.idle .refl)
  have found : Program.Executes (siteEnvironment surroundings) site
      [⟨.rpc .getGenesisHash, .ok surroundings.genesisHash⟩, ⟨.readCheckpoint, .ok (some raw)⟩] site :=
    .step .refl ⟨trivial, rfl, rfl⟩ (.step .refl ⟨trivial, content.symm, rfl⟩ (.idle .refl))
  exact ⟨.step ((startUp_loads loads).trans (.step (.start _))), found.append restored⟩

/-- It starts. -/
theorem loads_begins {snapshot : CheckpointSnapshot Signature}
    (loads : (surroundings.store datasource addresses).interpret codec raw = .ok (.loaded snapshot)) :
    ∃ restored begun after,
      Program.Run (readGenesisHash codec datasource addresses)
        [⟨.rpc .getGenesisHash, .ok surroundings.genesisHash⟩, ⟨.readCheckpoint, .ok (some raw)⟩,
          ⟨.restoreShipped (surroundings.identity datasource addresses), restored⟩]
        (.inl (.polling begun)) ∧
      Program.Executes (siteEnvironment surroundings) site
        [⟨.rpc .getGenesisHash, .ok surroundings.genesisHash⟩, ⟨.readCheckpoint, .ok (some raw)⟩,
          ⟨.restoreShipped (surroundings.identity datasource addresses), restored⟩] after :=
  ⟨_, _, _, loads_resumes admitted content loads⟩

theorem starts_loaded {snapshot : CheckpointSnapshot Signature}
    (loads : (surroundings.store datasource addresses).interpret codec raw = .ok (.loaded snapshot)) :
    ∃ begun after, Starts surroundings codec datasource addresses pages site begun after := by
  obtain ⟨_, begun, after, run, execution⟩ := loads_begins admitted content loads
  exact ⟨begun, after, site, _, .start, run, execution⟩

/-- A process that finds the checkpoint of another target and can read it is
refused. -/
theorem refuses_mismatch {mismatch : CheckpointMismatch}
    (mismatches : ((surroundings.store datasource addresses).interpret codec raw :
      Except _ (CheckpointReading Signature)) = .error mismatch) :
    ∃ after, RefusedStart surroundings codec datasource addresses pages site after := by
  obtain ⟨control, starts⟩ := startUp_mismatches mismatches
  have discarded : Program.Executes (siteEnvironment surroundings) site
      [⟨.discardShipped (surroundings.identity datasource addresses), ()⟩]
      { site with
        journal := site.journal.discard noFaults (surroundings.identity datasource addresses) } :=
    .step .refl ⟨trivial, noFaults, admitted, rfl⟩ (.idle .refl)
  have found : Program.Executes (siteEnvironment surroundings) site
      [⟨.rpc .getGenesisHash, .ok surroundings.genesisHash⟩, ⟨.readCheckpoint, .ok (some raw)⟩] site :=
    .step .refl ⟨trivial, rfl, rfl⟩ (.step .refl ⟨trivial, content.symm, rfl⟩ (.idle .refl))
  have reached : Program.Advances (readGenesisHash codec datasource addresses)
      ([⟨.rpc .getGenesisHash, .ok surroundings.genesisHash⟩, ⟨.readCheckpoint, .ok (some raw)⟩] ++
        [⟨.discardShipped (surroundings.identity datasource addresses), ()⟩]) control := .step starts
  exact ⟨_, site, _, control, .start, reached, found.append discarded, by simp⟩

end Happening

/-! A process for another program finds the checkpoint and the journal of the
sample program. -/

def misconfigured : RpcPollingDatasource := { sampleDatasource with programId := "other" }

def journaledContents : Contents (Fin 58) where
  header := some ((undisturbed "genesis").identity sampleDatasource ["program"])
  entries := [(2, 95)]

def journaledSite : Site (Fin 58) :=
  .boot (some (durableStore.encode durableCodec olderSnapshot)) (some journaledContents.render)

theorem sample_namesTarget : NamesTarget (undisturbed "genesis") sampleDatasource ["program"] where
  genesisHash := ⟨by decide, by decide +kernel⟩
  programId := ⟨by decide, by decide +kernel⟩
  addresses := by simpa using ⟨by decide, by decide +kernel⟩

theorem sample_loads : ((undisturbed "genesis").store sampleDatasource ["program"]).interpret durableCodec
    (durableStore.encode durableCodec olderSnapshot) = .ok (.loaded (olderSnapshot.rewind 10)) :=
  CheckpointStore.interpret_encode olderSnapshot_bounded rfl (by decide +kernel)

theorem misconfigured_namesTarget : NamesTarget (undisturbed "genesis") misconfigured ["program"] :=
  ⟨sample_namesTarget.genesisHash, ⟨by decide, by decide +kernel⟩, sample_namesTarget.addresses⟩

theorem misconfigured_mismatches : ∃ mismatch, (((undisturbed "genesis").store misconfigured
    ["program"]).interpret durableCodec (durableStore.encode durableCodec olderSnapshot) :
      Except CheckpointMismatch (CheckpointReading (Fin 58))) = .error mismatch :=
  interpret_encode_mismatch olderSnapshot_bounded (by decide)

theorem journaledSite_vouching : journaledSite.journal.Vouching
    ((undisturbed "genesis").identity sampleDatasource ["program"]) [((2 : Fin 58), 95)] := by
  have names := identity_oneLine sample_namesTarget
  have typed : journaledContents.Typed := by
    refine ⟨?_, by decide⟩
    rintro identity ⟨⟩
    exact names
  refine ⟨_, rfl, fun empty => ?_, render_whole, [], parseJournal_render typed⟩
  have header := (Contents.render_eq_nil_iff.mp empty).1
  contradiction

/-- The next process of the sample program no longer knows signature 2. -/
theorem refused_start_costs_journal_entry : ∃ refused : Site (Fin 58),
    RefusedStart (undisturbed "genesis") durableCodec misconfigured ["program"] 1 journaledSite.restart refused ∧
    ∃ (begun clean : PollingLoop (Fin 58)) (after started : Site (Fin 58)),
      Starts (undisturbed "genesis") durableCodec sampleDatasource ["program"] 1 refused.restart begun
        after ∧
      Starts (undisturbed "genesis") durableCodec sampleDatasource ["program"] 1 journaledSite.restart clean
        started ∧
      (2 : Fin 58) ∈ clean.state.recentSignatures ∧ (2 : Fin 58) ∉ begun.state.recentSignatures := by
  obtain ⟨mismatch, mismatches⟩ := misconfigured_mismatches
  have loads := sample_loads
  have oneLine := identity_oneLine misconfigured_namesTarget
  have named : (undisturbed "genesis").identity misconfigured ["program"] ≠
      (undisturbed "genesis").identity sampleDatasource ["program"] := by decide +kernel
  have content : journaledSite.restart.checkpoint =
    some (durableStore.encode durableCodec olderSnapshot) := rfl
  obtain ⟨refused, refuses⟩ : ∃ refused, RefusedStart (undisturbed "genesis") durableCodec misconfigured
      ["program"] 1 journaledSite.restart refused := refuses_mismatch rfl content mismatches
  have kept : refused.restart.checkpoint = some (durableStore.encode durableCodec olderSnapshot) :=
    (refuses.leaves rfl oneLine named mismatches content).1
  obtain ⟨begun, after, starts⟩ : ∃ begun after, Starts (undisturbed "genesis") durableCodec
      sampleDatasource ["program"] 1 refused.restart begun after := starts_loaded rfl kept loads
  obtain ⟨clean, started, startsClean⟩ : ∃ clean started, Starts (undisturbed "genesis") durableCodec
      sampleDatasource ["program"] 1 journaledSite.restart clean started := starts_loaded rfl content loads
  obtain ⟨resumed, cleanly⟩ := refused_start_costs_journal sample_namesTarget misconfigured_namesTarget rfl rfl
    rfl loads mismatches journaledSite_vouching refuses starts
  obtain ⟨_, _, lost⟩ := cleanly clean started startsClean
  obtain ⟨known, kept⟩ := lost (2, 95) (by simp)
  have unknown : (2 : Fin 58) ∉ (olderSnapshot.rewind 10).recentSignatures := by decide +kernel
  exact ⟨refused, refuses, begun, clean, after, started, starts, startsClean, known,
    fun listed => unknown (kept.mp listed)⟩

end Microscope.Polling
