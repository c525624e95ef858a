import Microscope.Polling.Mismatches

namespace Microscope.Shipped

open Std Microscope.Data

/-! # What is restored after a refused start

A start that is refused for another target leaves the checkpoint and discards
the journal, so the next start restores what the journal alone knew only if the
checkpoint knows it too.
-/

variable {Signature : Type} [LinearOrder Signature] [SignatureText Signature]
  {journal : Journal Signature} {name : String}

/-- What the journal file lists under this name. -/
def Journal.listed (journal : Journal Signature) (name : String) : List (Signature × Slot) :=
  match journal.file with
  | none => []
  | some raw =>
      let (header, entries) := (parseJournal raw : Option String × List (Signature × Slot))
      if header = some name then entries else []

theorem restore_listed : (journal.restore noFaults name).1 = journal.listed name := by
  cases found : journal.file with
  | none => simp [Journal.restore, Journal.listed, readJournal, found]
  | some raw =>
      by_cases named : (parseJournal raw : Option String × List (Signature × Slot)).1 = some name
      · simp [Journal.restore, Journal.listed, readJournal, found, noFaults, named]
      · simp [Journal.restore, Journal.listed, readJournal, found, noFaults, named]

end Microscope.Shipped

namespace Microscope.Polling

open Std Microscope.Data Microscope.Shipped

variable {Signature : Type} [LinearOrder Signature] [SignatureText Signature]
  {surroundings other : Surroundings} {codec : JsonCodec}
  {datasource otherDatasource : RpcPollingDatasource} {addresses otherAddresses : List Address}
  {pages : Nat} {before after refused waiting : Site Signature} {raw : Bytes} {reason : String}
  {snapshot : CheckpointSnapshot Signature} {state : PollingState Signature}
  {trace : List (CallEvent Signature)}

/-! ## Corrupt checkpoints -/

/-- The checkpoint file is the corrupt one, or has been moved aside. -/
def Site.Spoilt (raw : Bytes) (site : Site Signature) : Prop :=
  site.checkpoint = some raw ∨ site.checkpoint = none

theorem Site.Answers.spoilt {call : Call Signature} {response : call.Response}
    (unwriting : call.Unwriting) (answers : before.Answers surroundings after call response)
    (spoilt : before.Spoilt raw) : after.Spoilt raw := by
  by_cases preserving : call.Preserving
  · unfold Site.Spoilt
    rw [answers.preserving preserving]
    exact spoilt
  · cases call with
    | installCheckpoint encoded => exact unwriting.elim
    | moveCorruptCheckpoint =>
        cases response with
        | ok _ =>
            obtain rfl := answers
            exact .inr rfl
        | error error =>
            rcases answers with rfl | rfl
            · exact spoilt
            · exact .inr rfl
    | _ => exact absurd trivial preserving

theorem Site.Moves.spoilt (moves : Site.Moves surroundings before after) (spoilt : before.Spoilt raw) :
    after.Spoilt raw := by
  unfold Site.Spoilt
  rw [moves.checkpoint]
  exact spoilt

theorem keeps_spoilt (unwriting : ∀ event ∈ trace, event.1.Unwriting)
    (execution : Program.Executes (siteEnvironment surroundings) before trace after)
    (spoilt : before.Spoilt raw) : after.Spoilt raw := by
  have answered : ∀ first event second, event ∈ trace →
      (siteEnvironment surroundings).answers first event.1 event.2 second →
      first.Spoilt raw → second.Spoilt raw :=
    fun _ event _ member answer => answer.2.spoilt (unwriting event member)
  have kept := execution.keeps_events answered (fun _ _ => Site.Moves.spoilt) spoilt
  exact kept

/-- Nothing is loaded from it. -/
theorem load_spoilt {store : CheckpointStore}
    {result : Except CheckpointLoadError (CheckpointLoadOutcome Signature)}
    (corrupt : store.interpret codec raw = .ok (.corrupt reason : CheckpointReading Signature))
    (run : Program.Run (store.load pollingFile codec) trace result)
    (execution : Program.Executes (siteEnvironment surroundings) before trace after)
    (spoilt : before.Spoilt raw) : result ≠ .ok (.loaded snapshot) := by
  obtain ⟨response, rest, rfl, afterRead⟩ := Program.run_call_iff.mp run
  cases execution with
  | @step _ ready answered _ _ _ _ drift answer later =>
  have stillSpoilt : ready.Spoilt raw := keeps_spoilt (by simp) (.idle drift) spoilt
  cases response with
  | error error =>
      obtain ⟨_, rfl⟩ := Program.run_done_iff.mp afterRead
      simp
  | ok content =>
      have read : content = ready.checkpoint := answer.2.1
      rw [Site.Spoilt, ← read] at stillSpoilt
      rcases stillSpoilt with rfl | rfl
      · simp only [Program.bind, corrupt] at afterRead
        obtain ⟨moved, last, rfl, afterMove⟩ := Program.run_call_iff.mp afterRead
        cases moved with
        | error error =>
            obtain ⟨_, rfl⟩ := Program.run_done_iff.mp afterMove
            simp
        | ok _ =>
            obtain ⟨_, rfl⟩ := Program.run_done_iff.mp afterMove
            simp
      · obtain ⟨_, rfl⟩ := Program.run_done_iff.mp afterRead
        simp

theorem loadCheckpoint_spoilt {store : CheckpointStore} {identity : String} {attempts : Nat}
    {loaded : CheckpointLoadOutcome Signature}
    (corrupt : store.interpret codec raw = .ok (.corrupt reason : CheckpointReading Signature))
    (unwriting : ∀ event ∈ trace, event.1.Unwriting)
    (run : Program.Run (loadCheckpoint codec datasource identity store attempts) trace (.inl loaded))
    (execution : Program.Executes (siteEnvironment surroundings) before trace after)
    (spoilt : before.Spoilt raw) : loaded ≠ .loaded snapshot := by
  induction attempts generalizing before trace with
  | zero =>
      obtain ⟨_, impossible⟩ := Program.run_done_iff.mp run
      contradiction
  | succ attempts ih =>
      obtain ⟨loading, rest, result, rfl, loads, afterLoad⟩ := Program.run_bind_iff.mp run
      obtain ⟨unwritingLoad, unwritingRest⟩ := List.forall_mem_append.mp unwriting
      obtain ⟨middle, first, second⟩ := execution.split
      have nothing : result ≠ .ok (.loaded snapshot) := load_spoilt corrupt loads first spoilt
      have stillSpoilt : middle.Spoilt raw := keeps_spoilt unwritingLoad first spoilt
      cases result with
      | ok outcome =>
          obtain ⟨_, same⟩ := Program.run_done_iff.mp afterLoad
          cases same
          exact fun found => nothing (congrArg _ found)
      | error error =>
      cases error with
      | mismatch mismatch =>
          obtain ⟨_, _, _, _, _, afterDiscard⟩ := Program.run_bind_iff.mp afterLoad
          obtain ⟨_, _, _, _, _, finished⟩ := Program.run_bind_iff.mp afterDiscard
          obtain ⟨_, impossible⟩ := Program.run_done_iff.mp finished
          contradiction
      | io error =>
          dsimp only at afterLoad
          split at afterLoad
          · obtain ⟨_, _, _, _, _, finished⟩ := Program.run_bind_iff.mp afterLoad
            obtain ⟨_, impossible⟩ := Program.run_done_iff.mp finished
            contradiction
          · obtain ⟨cancelled, last, rfl, afterSleep⟩ := Program.run_call_iff.mp afterLoad
            cases cancelled with
            | true =>
                obtain ⟨_, impossible⟩ := Program.run_done_iff.mp afterSleep
                contradiction
            | false =>
                cases second with
                | step drift answer later =>
                    have unwritingLast := (List.forall_mem_cons.mp unwritingRest).2
                    have asleep := keeps_spoilt (by simp [Call.Unwriting])
                      (.step drift answer (.idle .refl)) stillSpoilt
                    exact ih unwritingLast afterSleep later asleep

/-- A start that finds a corrupt checkpoint restores nothing. -/
theorem Starts.corrupt {begun : PollingLoop Signature}
    (starts : Starts surroundings codec datasource addresses pages before begun after)
    (content : before.checkpoint = some raw)
    (corrupt : (surroundings.store datasource addresses).interpret codec raw =
      .ok (.corrupt reason : CheckpointReading Signature)) : begun.state = {} := by
  obtain ⟨waiting, trace, rounds, run, execution⟩ := starts.starts
  have waited : waiting.Spoilt raw := keeps_waiting (fun _ _ => Site.Moves.spoilt) rounds (.inl content)
  have unwriting : ∀ event ∈ trace, event.1.Unwriting :=
    (readGenesisHash_unwriting.advances run (by simp [Program.Allowed])).1
  rcases readGenesisHash_cases run with ⟨genesisHash, rest, rfl, startsUp⟩ | ⟨impossible, _⟩
  · obtain ⟨_, unwritingRest⟩ := List.forall_mem_cons.mp unwriting
    cases execution with
    | @step _ ready answered _ _ _ _ drift answer later =>
        have named : genesisHash = surroundings.genesisHash := answer.2.1
        subst named
        have asks : Call.Unwriting (.rpc .getGenesisHash : Call Signature) := trivial
        have asked : answered.Spoilt raw :=
          answer.2.spoilt asks (keeps_spoilt (by simp) (.idle drift) waited)
        obtain ⟨loading, restoring, loaded, state, rfl, loads, restores, same⟩ := startUp_cases startsUp
        cases same
        obtain ⟨_, loadsIn, _⟩ := later.split
        have unwritingLoad := (List.forall_mem_append.mp unwritingRest).1
        have nothing : ∀ snapshot, loaded ≠ .loaded snapshot := fun snapshot =>
          loadCheckpoint_spoilt corrupt unwritingLoad loads loadsIn asked
        cases loaded with
        | loaded snapshot => exact absurd rfl (nothing snapshot)
        | missing =>
            obtain ⟨_, _, _, finished⟩ := Program.run_call_iff.mp restores
            obtain ⟨_, rfl⟩ := Program.run_done_iff.mp finished
            rfl
        | corrupt reason =>
            obtain ⟨_, _, _, finished⟩ := Program.run_call_iff.mp restores
            obtain ⟨_, rfl⟩ := Program.run_done_iff.mp finished
            rfl
  · contradiction

/-! ## Restored states -/

/-- A start from these files, during which nothing is shipped, restores this
state. -/
def Restores (surroundings : Surroundings) (codec : JsonCodec) (datasource : RpcPollingDatasource)
    (addresses : List Address) (pages : Nat) (before : Site Signature) (state : PollingState Signature) :
    Prop :=
  ∃ begun after, Starts surroundings codec datasource addresses pages before begun after ∧
    after.shipped = before.shipped ∧ begun.state = state

theorem Site.Moves.shipped (moves : Site.Moves surroundings before after) :
    before.shipped <+: after.shipped ∧ (after.shipped = before.shipped → after.journal = before.journal) := by
  cases moves with
  | ship => exact ⟨List.prefix_append _ _, fun same => absurd same (by simp)⟩
  | _ => exact ⟨List.prefix_rfl, fun _ => rfl⟩

/-- As long as nothing is shipped, the journal stays. -/
theorem drifts_shipped (drifts : (siteEnvironment surroundings).Drifts before after) :
    before.shipped <+: after.shipped ∧ (after.shipped = before.shipped → after.journal = before.journal) := by
  induction drifts with
  | refl => exact ⟨List.prefix_rfl, fun _ => rfl⟩
  | @tail middle final _ moves ih =>
      obtain ⟨grows, kept⟩ := ih
      obtain ⟨grew, stays⟩ := Site.Moves.shipped moves
      refine ⟨grows.trans grew, fun same => ?_⟩
      have length : middle.shipped.length = before.shipped.length :=
        Nat.le_antisymm (same ▸ grew.length_le) grows.length_le
      have unshipped : middle.shipped = before.shipped := (grows.eq_of_length length.symm).symm
      exact (stays (same.trans unshipped.symm)).trans (kept unshipped)

/-- A valid checkpoint is restored with what the journal lists. -/
theorem Restores.loaded (faultless : surroundings.faults = {noFaults}) (content : before.checkpoint = some raw)
    (loads : (surroundings.store datasource addresses).interpret codec raw = .ok (.loaded snapshot))
    (restores : Restores surroundings codec datasource addresses pages before state) :
    state = snapshot.resume.recordRecentSignatures
      (before.journal.listed (surroundings.identity datasource addresses)) := by
  obtain ⟨begun, after, starts, unshipped, rfl⟩ := restores
  have found : LoadsFrom (surroundings.store datasource addresses) codec before.checkpoint
      (.loaded snapshot) := by
    rw [content]
    exact ⟨snapshot, rfl, loads⟩
  obtain ⟨ready, entries, restored, faults, admitted, drifts, restoring, later, rfl⟩ := starts.loaded found
  rw [faultless] at admitted
  cases admitted
  obtain ⟨grows, kept⟩ := drifts_shipped drifts
  obtain ⟨grew, _⟩ := drifts_shipped later
  have length : ready.shipped.length = before.shipped.length :=
    Nat.le_antisymm (unshipped ▸ grew.length_le) grows.length_le
  have same : ready.journal = before.journal := kept (grows.eq_of_length length.symm).symm
  have listed : entries = before.journal.listed (surroundings.identity datasource addresses) := by
    rw [← restore_listed, ← same, restoring]
  rw [listed]
  rfl

theorem restores_loaded (admitted : noFaults ∈ surroundings.faults) (content : before.checkpoint = some raw)
    (loads : (surroundings.store datasource addresses).interpret codec raw = .ok (.loaded snapshot)) :
    Restores surroundings codec datasource addresses pages before (snapshot.resume.recordRecentSignatures
      (before.journal.listed (surroundings.identity datasource addresses))) := by
  obtain ⟨run, execution⟩ := loads_resumes admitted content loads
  refine ⟨_, _, ⟨before, _, .start, run, execution⟩, rfl, ?_⟩
  rw [restore_listed]
  rfl

theorem listed_foreign {name : String} {journal : Journal Signature} (foreign : journal.Foreign name) :
    journal.listed name = [] := by
  rw [← restore_listed]
  exact foreign.restored

/-! ## Journals that a checkpoint covers -/

/-- What the entries list, a valid checkpoint lists at the slot of the last of
them. -/
def CheckpointReading.Covers (reading : CheckpointReading Signature) (entries : List (Signature × Slot)) :
    Prop :=
  ∀ snapshot, reading = .loaded snapshot → ∀ signature slot,
    entries.reverse.lookup signature = some slot → snapshot.recentSignatures[signature]? = some slot

omit [SignatureText Signature] in
theorem recordRecentSignatures_eq {entries : List (Signature × Slot)} :
    state.recordRecentSignatures entries =
      { state with recentSignatures := OrderedMap.insertAll state.recentSignatures entries } := by
  induction entries generalizing state with
  | nil => rfl
  | cons entry rest ih => exact ih

omit [SignatureText Signature] in
/-- These entries then add nothing, and only these. -/
theorem resume_covered_iff {entries : List (Signature × Slot)} :
    snapshot.resume.recordRecentSignatures entries = snapshot.resume ↔
      (CheckpointReading.loaded snapshot).Covers entries := by
  have found : ∀ signature : Signature,
      (OrderedMap.insertAll snapshot.resume.recentSignatures entries)[signature]? =
        (entries.reverse.lookup signature).or snapshot.recentSignatures[signature]? :=
    fun signature => OrderedMap.getElem?_insertAll_lookup
  rw [recordRecentSignatures_eq]
  constructor
  · rintro same read ⟨⟩ signature slot last
    have listed := found signature
    have recents := congrArg PollingState.recentSignatures same
    dsimp only at recents
    rw [recents, last] at listed
    exact listed
  · intro covers
    have recents : OrderedMap.insertAll snapshot.resume.recentSignatures entries =
        snapshot.resume.recentSignatures := by
      refine ExtTreeMap.ext_getElem? fun signature => ?_
      rw [found]
      cases last : entries.reverse.lookup signature with
      | none => rfl
      | some slot => exact (covers snapshot rfl signature slot last).symm
    rw [recents]

/-- After a start that is refused because of the checkpoint of another target,
the next start of that target restores what it would have restored before if and
only if the checkpoint covers the journal. -/
theorem refused_start_restores_iff {reading : CheckpointReading Signature} {mismatch : CheckpointMismatch}
    (names : NamesTarget surroundings datasource addresses)
    (otherNames : NamesTarget other otherDatasource otherAddresses)
    (faultless : surroundings.faults = {noFaults}) (otherFaultless : other.faults = {noFaults})
    (content : before.checkpoint = some raw)
    (reads : (surroundings.store datasource addresses).interpret codec raw = .ok reading)
    (mismatches : ((other.store otherDatasource otherAddresses).interpret codec raw :
      Except _ (CheckpointReading Signature)) = .error mismatch)
    (refuses : RefusedStart other codec otherDatasource otherAddresses pages before.restart refused) :
    (∀ restored clean, Restores surroundings codec datasource addresses pages refused.restart restored →
      Restores surroundings codec datasource addresses pages before.restart clean → restored = clean) ↔
      reading.Covers (before.journal.listed (surroundings.identity datasource addresses)) := by
  have different : other.identity otherDatasource otherAddresses ≠
      surroundings.identity datasource addresses := by
    intro same
    exact interpret_own_target (identity_injective otherNames names same) reads mismatches
  have there : before.restart.checkpoint = some raw := content
  obtain ⟨kept, foreign⟩ :=
    refuses.leaves otherFaultless (identity_oneLine otherNames) different mismatches there
  have left : refused.restart.checkpoint = some raw := kept
  have nothing : refused.restart.journal.listed (surroundings.identity datasource addresses) = [] :=
    listed_foreign foreign.reopened
  have listed : before.restart.journal.listed (surroundings.identity datasource addresses) =
      before.journal.listed (surroundings.identity datasource addresses) := rfl
  cases reading with
  | corrupt reason =>
      refine ⟨fun _ => by rintro snapshot ⟨⟩, fun _ => ?_⟩
      rintro _ _ ⟨_, _, starts, _, rfl⟩ ⟨_, _, startsClean, _, rfl⟩
      rw [starts.corrupt left reads, startsClean.corrupt there reads]
  | loaded snapshot =>
      rw [← resume_covered_iff]
      constructor
      · intro same
        have admitted : noFaults ∈ surroundings.faults := faultless.symm ▸ rfl
        have equal := same _ _ (restores_loaded admitted left reads) (restores_loaded admitted there reads)
        rw [nothing, listed] at equal
        exact equal.symm
      · intro covered restored clean restores restoresClean
        rw [restores.loaded faultless left reads, restoresClean.loaded faultless there reads, nothing,
          listed, covered]
        rfl

/-! The sample program's checkpoint lists signature 1, and its journal once that
signature again and once signature 2. -/

def coveredSite : Site (Fin 58) :=
  .boot (some (durableStore.encode durableCodec olderSnapshot))
    (some { journaledContents with entries := [((1 : Fin 58), 85)] }.render)

theorem refused_start_restores_iff_covered : ∃ refused : Site (Fin 58),
    RefusedStart (undisturbed "genesis") durableCodec misconfigured ["program"] 1 coveredSite.restart refused ∧
    ∀ restored clean,
      Restores (undisturbed "genesis") durableCodec sampleDatasource ["program"] 1 refused.restart restored →
      Restores (undisturbed "genesis") durableCodec sampleDatasource ["program"] 1 coveredSite.restart clean →
      restored = clean := by
  obtain ⟨mismatch, mismatches⟩ := misconfigured_mismatches
  obtain ⟨refused, refuses⟩ : ∃ refused, RefusedStart (undisturbed "genesis") durableCodec misconfigured
      ["program"] 1 coveredSite.restart refused := refuses_mismatch rfl rfl mismatches
  refine ⟨refused, refuses, (refused_start_restores_iff sample_namesTarget misconfigured_namesTarget rfl rfl
    rfl sample_loads mismatches refuses).mpr ?_⟩
  have listed : coveredSite.journal.listed ((undisturbed "genesis").identity sampleDatasource ["program"]) =
      [((1 : Fin 58), 85)] := by decide +kernel
  rw [listed]
  rintro snapshot ⟨⟩ signature slot last
  have all : ∀ signature : Fin 58, ([((1 : Fin 58), 85)].reverse.lookup signature) =
      if signature = 1 then some 85 else none := by decide
  rw [all] at last
  split at last
  · cases last
    subst signature
    decide +kernel
  · contradiction

/-- The next process of the sample program restores without signature 2. -/
theorem refused_start_loses_entry : ∃ refused : Site (Fin 58),
    RefusedStart (undisturbed "genesis") durableCodec misconfigured ["program"] 1 journaledSite.restart refused ∧
    ∃ restored clean,
      Restores (undisturbed "genesis") durableCodec sampleDatasource ["program"] 1 refused.restart restored ∧
      Restores (undisturbed "genesis") durableCodec sampleDatasource ["program"] 1 journaledSite.restart clean ∧
      (2 : Fin 58) ∈ clean.recentSignatures ∧ (2 : Fin 58) ∉ restored.recentSignatures ∧ restored ≠ clean := by
  obtain ⟨mismatch, mismatches⟩ := misconfigured_mismatches
  have content : journaledSite.restart.checkpoint =
    some (durableStore.encode durableCodec olderSnapshot) := rfl
  have different : (undisturbed "genesis").identity misconfigured ["program"] ≠
      (undisturbed "genesis").identity sampleDatasource ["program"] := by decide +kernel
  obtain ⟨refused, refuses⟩ : ∃ refused, RefusedStart (undisturbed "genesis") durableCodec misconfigured
      ["program"] 1 journaledSite.restart refused := refuses_mismatch rfl content mismatches
  obtain ⟨kept, foreign⟩ :=
    refuses.leaves rfl (identity_oneLine misconfigured_namesTarget) different mismatches content
  have left : refused.restart.checkpoint = some (durableStore.encode durableCodec olderSnapshot) := kept
  have nothing : refused.restart.journal.listed ((undisturbed "genesis").identity sampleDatasource
      ["program"]) = [] := listed_foreign foreign.reopened
  have admitted : noFaults ∈ (undisturbed "genesis").faults := rfl
  have restored : Restores (undisturbed "genesis") durableCodec sampleDatasource ["program"] 1
      refused.restart _ := restores_loaded admitted left sample_loads
  have clean : Restores (undisturbed "genesis") durableCodec sampleDatasource ["program"] 1
      journaledSite.restart _ := restores_loaded admitted content sample_loads
  rw [nothing] at restored
  have known : (2 : Fin 58) ∈ ((olderSnapshot.rewind 10).resume.recordRecentSignatures
      (journaledSite.restart.journal.listed ((undisturbed "genesis").identity sampleDatasource
        ["program"]))).recentSignatures := by decide +kernel
  have unknown : (2 : Fin 58) ∉ ((olderSnapshot.rewind 10).resume.recordRecentSignatures
      []).recentSignatures := by decide +kernel
  exact ⟨refused, refuses, _, _, restored, clean, known, unknown, fun same => unknown (same ▸ known)⟩

end Microscope.Polling
