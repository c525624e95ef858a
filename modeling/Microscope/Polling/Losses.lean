import Microscope.Polling.Covering

namespace Microscope.Polling

open Std Microscope.Data Microscope.Shipped

/-! # What crashes lose

Processes of one target are killed, each at any point, and started again on the
files that the last one left.  A transaction above the first floor has then been
processed by one of them, or the running one has passed it on, quarantines it,
or has it within reach without taking it for a recent one.
-/

variable {Signature : Type} [LinearOrder Signature] [SignatureText Signature]
  {ledger : Ledger Signature} {surroundings : Surroundings} {codec : JsonCodec}
  {datasource : RpcPollingDatasource} {addresses : List Address} {pages : Nat}
  {loop : PollingLoop Signature} {trace : List (CallEvent Signature)} {signature : Signature}
  {known : Set Signature} {before after : Headed Signature}

/-! ## The files -/

/-- The checkpoint file holds this snapshot, which covers what is not
processed. -/
structure Durable (ledger : Ledger Signature) (store : CheckpointStore) (codec : JsonCodec) (window : Slot)
    (addresses : List Address) (known : Set Signature) (snapshot : CheckpointSnapshot Signature)
    (world : Headed Signature) : Prop where
  content : world.site.checkpoint = some (store.encode codec snapshot)
  saveable : Saveable store.identity snapshot
  headed : ∀ address ∈ addresses, world.head.isSome
  covers : Covers ledger window addresses
    (fun _ => world.head.map fun headSlot => headSlot - window - window)
    (known ∪ Processed world.site ∪ { signature | signature ∈ snapshot.quarantinedSignatures })
    snapshot.cursors snapshot.recentSignatures

/-- There is no checkpoint file, or it holds such a snapshot. -/
def Stored (ledger : Ledger Signature) (store : CheckpointStore) (codec : JsonCodec) (window : Slot)
    (addresses : List Address) (known : Set Signature) (world : Headed Signature) : Prop :=
  world.site.checkpoint = none ∨
    ∃ snapshot, Durable ledger store codec window addresses known snapshot world

section Storing

variable {store : CheckpointStore} {window : Slot} {snapshot : CheckpointSnapshot Signature}
  {identity : String}

theorem Durable.later {reading : Option Slot} (content : after.site.checkpoint = before.site.checkpoint)
    (processed : Processed before.site ⊆ Processed after.site) (head : after.head = before.head.or reading)
    (durable : Durable ledger store codec window addresses known snapshot before) :
    Durable ledger store codec window addresses known snapshot after := by
  have unmoved : ∀ address ∈ addresses, after.head = before.head := by
    intro address monitored
    obtain ⟨headSlot, first⟩ := Option.isSome_iff_exists.mp (durable.headed address monitored)
    rw [head, first, Option.some_or]
  refine ⟨content.trans durable.content, durable.saveable, fun address monitored => ?_, ?_⟩
  · rw [unmoved address monitored]
    exact durable.headed address monitored
  · have floors : ∀ address ∈ addresses, (after.head.map fun headSlot => headSlot - window - window) =
        before.head.map fun headSlot => headSlot - window - window := by
      intro address monitored
      rw [unmoved address monitored]
    refine (durable.covers.congr_floors floors).mono (Set.union_subset_union_left _ ?_)
    exact Set.union_subset_union_right _ processed

theorem Stored.later {reading : Option Slot} (content : after.site.checkpoint = before.site.checkpoint)
    (processed : Processed before.site ⊆ Processed after.site) (head : after.head = before.head.or reading)
    (stored : Stored ledger store codec window addresses known before) :
    Stored ledger store codec window addresses known after := by
  rcases stored with missing | ⟨snapshot, durable⟩
  · exact .inl (content.trans missing)
  · exact .inr ⟨snapshot, durable.later content processed head⟩

theorem Stored.moves (moves : (headedEnvironment surroundings).interferes before after)
    (stored : Stored ledger store codec window addresses known before) :
    Stored ledger store codec window addresses known after := by
  have processed : Processed before.site ⊆ Processed after.site :=
    executes_processed (.idle (.single moves.1))
  exact stored.later moves.1.checkpoint processed (moves.2.trans (Option.or_none).symm)

/-- Commands that leave the two files alone keep what is stored. -/
theorem Stored.transient (transient : ∀ event ∈ trace, event.1.Transient)
    (execution : Program.Executes (headedEnvironment surroundings) before trace after)
    (stored : Stored ledger store codec window addresses known before) :
    Stored ledger store codec window addresses known after := by
  have answered : ∀ first event second, event ∈ trace →
      (headedEnvironment surroundings).answers first event.1 event.2 second →
      Stored ledger store codec window addresses known first →
      Stored ledger store codec window addresses known second := by
    intro first event second member answer stored
    have processed : Processed first.site ⊆ Processed second.site :=
      executes_processed (.step .refl answer.1 (.idle .refl))
    exact stored.later (answer.1.2.sameFiles (transient event member)).checkpoint processed answer.2
  have moved : ∀ first second, (headedEnvironment surroundings).interferes first second →
      Stored ledger store codec window addresses known first →
      Stored ledger store codec window addresses known second := fun _ _ moves stored => stored.moves moves
  have kept := execution.keeps_events answered moved stored
  exact kept

/-- What is saved covers what is not processed. -/
theorem Covering.durable (monitors : ∀ address ∈ addresses, address ∈ store.identity.addresses)
    (complete : loop.processedState.cursors.keys = store.identity.addresses)
    (content : after.site.checkpoint = some (store.encode codec loop.processedState))
    (covering : Covering ledger store window addresses known loop after) :
    Durable ledger store codec window addresses known loop.processedState after := by
  have present : ∀ address ∈ addresses, loop.processedState.cursors[address]?.isSome := by
    intro address monitored
    rw [ExtTreeMap.isSome_getElem?_iff_mem, ← ExtTreeMap.mem_keys, complete]
    exact monitors address monitored
  refine ⟨content, ⟨covering.processedBounded, complete⟩,
    fun address monitored => covering.processedHeaded address monitored (present address monitored),
    covering.processed.congr_floors fun address monitored => ?_⟩
  rw [floorsAt, if_pos (present address monitored)]

section Saving

variable (faultless : surroundings.faults = {noFaults}) (oneLine : OneLine identity.toList)
  (monitors : ∀ address ∈ addresses, address ∈ store.identity.addresses)

include faultless oneLine monitors

/-- Saving keeps what is stored, wherever it stops. -/
theorem Stored.saves (outside : ∀ event ∈ trace, event.1.Outside)
    (saves : ∀ event ∈ trace, event.1.Saves loop.checkpoint codec loop.processedState)
    (execution : Program.Executes (headedEnvironment surroundings) before trace after)
    (covering : Covering ledger store window addresses known loop before)
    (stored : Stored ledger store codec window addresses known before) :
    Stored ledger store codec window addresses known after := by
  have answered : ∀ first event second, event ∈ trace →
      (headedEnvironment surroundings).answers first event.1 event.2 second →
      Covering ledger store window addresses known loop first ∧
        Stored ledger store codec window addresses known first →
      Covering ledger store window addresses known loop second ∧
        Stored ledger store codec window addresses known second := by
    rintro first event second member answer ⟨covering, stored⟩
    have step : Program.Executes (headedEnvironment surroundings) first [event] second :=
      .step .refl answer (.idle .refl)
    have covering := covering.execute faultless oneLine (by simp [(saves event member).naming])
      (by simp [outside event member]) step
    refine ⟨covering, ?_⟩
    rcases answer.1.2.saves (saves event member) with ⟨same, _⟩ | ⟨complete, installed⟩
    · exact stored.later same (executes_processed (executes_unheaded step)) answer.2
    · rw [covering.identity] at complete
      refine .inr ⟨loop.processedState, covering.durable monitors complete ?_⟩
      rw [installed, CheckpointStore.encode_congr covering.identity]
      rfl
  have moved : ∀ first second, (headedEnvironment surroundings).interferes first second →
      Covering ledger store window addresses known loop first ∧
        Stored ledger store codec window addresses known first →
      Covering ledger store window addresses known loop second ∧
        Stored ledger store codec window addresses known second :=
    fun _ _ moves ⟨covering, stored⟩ =>
      ⟨covering.execute faultless oneLine (by simp) (by simp) (.idle (.single moves)), stored.moves moves⟩
  have kept := execution.keeps_events answered moved ⟨covering, stored⟩
  exact kept.2

/-- Wherever a turn stops, the two files are accounted for. -/
theorem Stored.turn {control : Task Signature (Consumption Signature ⊕ Stopped)}
    (reached : Program.Advances (pollingTurn codec datasource addresses pages loop) trace control)
    (execution : Program.Executes (headedEnvironment surroundings) before trace after)
    (covering : Covering ledger store window addresses known loop before)
    (stored : Stored ledger store codec window addresses known before) :
    Stored ledger store codec window addresses known after ∧ Accounted known after.site := by
  have accounts : (∀ event ∈ trace, event.1.Naming identity) → Accounted known after.site := fun naming =>
    executes_accounted faultless oneLine naming (executes_unheaded execution) covering.accounted
  rcases pollingTurn_saving reached with
    transient | ⟨checked, saving, polling, refreshed, rfl, refreshes, checkedOutside, outside, saves, transient⟩
  · exact ⟨stored.transient transient execution,
      accounts fun event member => (transient event member).naming⟩
  · obtain ⟨_, checks, later⟩ := execution.split
    obtain ⟨_, savesIn, polls⟩ := later.split
    have refreshed := covering.refresh faultless oneLine checkedOutside refreshes checks
    refine ⟨((stored.transient refreshes.transient checks).saves faultless oneLine monitors outside saves savesIn
      refreshed).transient transient polls, accounts fun event member => ?_⟩
    rcases List.mem_append.mp member with member | member
    · exact (refreshes.transient event member).naming
    rcases List.mem_append.mp member with member | member
    · exact (saves event member).naming
    · exact (transient event member).naming

end Saving

end Storing

/-! ## Start-ups -/

section Starting

variable {world waiting started : Headed Signature} {begun : PollingLoop Signature}

/-- Until a process has read the genesis hash it reads no head. -/
theorem waiting_head
    {admits : Consumption Signature → List (CallEvent Signature) → Consumption Signature → Prop}
    (waited : Program.Rounds (headedEnvironment surroundings) (consume codec datasource addresses pages)
      admits .readingGenesisHash world .readingGenesisHash waiting) : waiting.head = world.head := by
  have waits : ∀ control current, Program.Rounds (headedEnvironment surroundings)
      (consume codec datasource addresses pages) admits .readingGenesisHash world control current →
      control = .readingGenesisHash → current.head = world.head := by
    intro control current rounds
    induction rounds with
    | start => exact fun _ => rfl
    | @next control next earlierWorld current trace earlier run execution _ ih =>
        intro same
        subst same
        cases control with
        | polling loop =>
            obtain ⟨_, _, impossible, _⟩ := pollingTurn_completes run
            contradiction
        | readingGenesisHash =>
            have outside := (readGenesisHash_outside.advances run (by simp [Program.Allowed])).1
            rw [executes_head execution, headReading_outside outside, Option.or_none]
            exact ih rfl
  exact waits _ _ waited rfl

theorem Site.Answers.absent {first second : Site Signature} {call : Call Signature}
    {response : call.Response} (unwriting : call.Unwriting)
    (answers : first.Answers surroundings second call response) (missing : first.checkpoint = none) :
    second.checkpoint = none := by
  by_cases preserving : call.Preserving
  · exact (answers.preserving preserving).trans missing
  · cases call with
    | installCheckpoint encoded => exact unwriting.elim
    | moveCorruptCheckpoint =>
        cases response with
        | error error => rcases answers with rfl | rfl <;> first | exact missing | rfl
        | ok _ =>
            obtain rfl := answers
            rfl
    | _ => exact absurd trivial preserving

/-- However far a process without a checkpoint has come in its start-up, there
still is none. -/
theorem keeps_absent {first waiting second : Site Signature}
    {control : Task Signature (Consumption Signature ⊕ Stopped)}
    (rounds : Program.Rounds (siteEnvironment surroundings) (consume codec datasource addresses pages)
      (fun _ _ _ => True) .readingGenesisHash first .readingGenesisHash waiting)
    (reached : Program.Advances (readGenesisHash codec datasource addresses) trace control)
    (execution : Program.Executes (siteEnvironment surroundings) waiting trace second)
    (missing : first.checkpoint = none) : second.checkpoint = none := by
  have moved : ∀ first second : Site Signature, Site.Moves surroundings first second →
      first.checkpoint = none → second.checkpoint = none := fun _ _ moves same => moves.checkpoint.trans same
  have unwriting : ∀ event ∈ trace, event.1.Unwriting :=
    (readGenesisHash_unwriting.advances reached (by simp [Program.Allowed])).1
  have answered : ∀ first event second, event ∈ trace →
      (siteEnvironment surroundings).answers first event.1 event.2 second →
      first.checkpoint = none → second.checkpoint = none :=
    fun _ event _ member answer missing => answer.2.absent (unwriting event member) missing
  have kept := execution.keeps_events answered moved (keeps_waiting moved rounds missing)
  exact kept

/-- What the files account for when a process starts: a checkpoint has its
journal beside it. -/
structure Files (ledger : Ledger Signature) (store : CheckpointStore) (codec : JsonCodec) (window : Slot)
    (addresses : List Address) (known : Set Signature) (world : Headed Signature) : Prop where
  stored : Stored ledger store codec window addresses known world
  journal : world.site.checkpoint ≠ none → world.site.journal.Lists (known ∪ Processed world.site)

omit [SignatureText Signature] in
/-- Resuming the rewound snapshot together with the journal covers what the
snapshot covers. -/
theorem Covers.resume {window : Slot} {snapshot : CheckpointSnapshot Signature} {handled : Set Signature}
    {head : Option Slot} {entries : List (Signature × Slot)} {state : PollingState Signature}
    (complete : ∀ address ∈ addresses, snapshot.cursors[address]?.isSome)
    (listed : ∀ entry ∈ entries, entry.1 ∈ handled)
    (resumed : state = (snapshot.rewind window).resume.recordRecentSignatures entries)
    (covers : Covers ledger window addresses (fun _ => head.map fun headSlot => headSlot - window - window)
      (handled ∪ { signature | signature ∈ snapshot.quarantinedSignatures }) snapshot.cursors
      snapshot.recentSignatures) :
    (∀ address : Address, state.cursors[address]?.isSome = snapshot.cursors[address]?.isSome) ∧
      Covers ledger window addresses (floorsAt window state.cursors head)
        (handled ∪ { signature | signature ∈ state.quarantinedSignatures }) state.cursors
        state.recentSignatures := by
  subst resumed
  have cursors : ((snapshot.rewind window).resume.recordRecentSignatures entries).cursors =
      (snapshot.rewind window).cursors := recordRecentSignatures_cursors
  have present : ∀ address : Address, (snapshot.rewind window).cursors[address]?.isSome =
      snapshot.cursors[address]?.isSome := by simp
  have quarantined : ((snapshot.rewind window).resume.recordRecentSignatures entries).quarantinedSignatures =
      (snapshot.rewind window).resume.quarantinedSignatures :=
    quarantinedSignatures_congr recordRecentSignatures_poisonFailures
  rw [recordRecentSignatures_recentSignatures, cursors, quarantined]
  refine ⟨present, ?_⟩
  have floors : ∀ address ∈ addresses, floorsAt window (snapshot.rewind window).cursors head address =
      head.map fun headSlot => headSlot - window - window := by
    intro address monitored
    rw [floorsAt, present, if_pos (complete address monitored)]
  have extended : Covers ledger window addresses (fun _ => head.map fun headSlot => headSlot - window - window)
      (handled ∪ { signature | signature ∈ snapshot.quarantinedSignatures } ∪
        { signature | ∃ slot, (signature, slot) ∈ entries })
      (snapshot.rewind window).cursors (OrderedMap.insertAll snapshot.recentSignatures entries) :=
    covers.rewind.extend
  refine (extended.congr_floors floors).mono ?_
  rintro signature ((member | quarantined) | ⟨slot, member⟩)
  · exact .inl member
  · exact .inr (mem_quarantined_resume.mpr quarantined)
  · exact .inl (listed _ member)

variable (names : NamesTarget surroundings datasource addresses)
  (faultless : surroundings.faults = {noFaults})

include names faultless

/-- A start-up leaves the files as they are, wherever it stops. -/
theorem Files.starting {control : Task Signature (Consumption Signature ⊕ Stopped)}
    {admits : Consumption Signature → List (CallEvent Signature) → Consumption Signature → Prop}
    (waited : Program.Rounds (headedEnvironment surroundings) (consume codec datasource addresses pages)
      admits .readingGenesisHash world .readingGenesisHash waiting)
    (reached : Program.Advances (readGenesisHash codec datasource addresses) trace control)
    (execution : Program.Executes (headedEnvironment surroundings) waiting trace after)
    (handedOver : HandedOver world.site)
    (files : Files ledger (surroundings.store datasource addresses) codec datasource.replayWindow.slots
      addresses known world) :
    Files ledger (surroundings.store datasource addresses) codec datasource.replayWindow.slots addresses
      known after := by
  have outside := (readGenesisHash_outside.advances reached (by simp [Program.Allowed])).1
  have head : after.head = world.head.or none := by
    rw [executes_head execution, headReading_outside outside, waiting_head waited, Option.or_none]
  have siteWaited : Program.Rounds (siteEnvironment surroundings) (consume codec datasource addresses pages)
      (fun _ _ _ => True) .readingGenesisHash world.site .readingGenesisHash waiting.site :=
    (waited.map Headed.site fun _ _ _ => executes_unheaded).mono fun _ _ _ _ => trivial
  have onSite := executes_unheaded execution
  have grows : ∀ first second : Site Signature, Site.Moves surroundings first second →
      Processed world.site ⊆ Processed first → Processed world.site ⊆ Processed second :=
    fun _ _ moves earlier => earlier.trans (executes_processed (.idle (.single moves)))
  have processed : Processed world.site ⊆ Processed after.site :=
    (keeps_waiting grows siteWaited subset_rfl).trans (executes_processed onSite)
  rcases files.stored with missing | ⟨snapshot, durable⟩
  · have absent := keeps_absent siteWaited reached onSite missing
    exact ⟨.inl absent, fun present => absurd absent present⟩
  · have sound : ∀ reason, ((surroundings.store datasource addresses).interpret codec
        ((surroundings.store datasource addresses).encode codec snapshot) :
        Except _ (CheckpointReading Signature)) ≠ .ok (.corrupt reason) := by
      rw [CheckpointStore.interpret_encode durable.saveable.bounded rfl durable.saveable.complete]
      simp
    obtain ⟨content, owning⟩ := keeps_owning sound siteWaited reached onSite durable.content
    have present : world.site.checkpoint ≠ none := by simp [durable.content]
    have accounted : Accounted known waiting.site :=
      keeps_waiting (fun _ _ moves accounted => moves.accounted faultless accounted) siteWaited
        ⟨handedOver, files.journal present⟩
    have naming : ∀ event ∈ trace, event.1.Naming (surroundings.identity datasource addresses) :=
      fun event member => (owning event member).naming
    exact ⟨.inr ⟨snapshot, durable.later (content.trans durable.content.symm) processed head⟩, fun _ =>
      (executes_accounted faultless (identity_oneLine names) naming onSite accounted).journal⟩

theorem Accounted.drifts {first second : Site Signature}
    (drifts : (siteEnvironment surroundings).Drifts first second) (accounted : Accounted known first) :
    Accounted known second :=
  executes_accounted faultless (identity_oneLine names) (by simp) (.idle drifts) accounted

/-- Without a checkpoint a process begins with nothing to cover. -/
theorem Starts.covering_missing
    (starts : Starts surroundings codec datasource addresses pages world.site begun started.site)
    (handedOver : HandedOver world.site) (head : started.head = none)
    (missing : world.site.checkpoint = none) :
    Covering ledger (surroundings.store datasource addresses) datasource.replayWindow.slots addresses known
      begun started := by
  obtain ⟨ready, discarded, faults, admitted, drifts, rfl, later, rfl⟩ := starts.missing missing
  rw [faultless] at admitted
  cases admitted
  have handed := executes_handedOver (.idle drifts) handedOver
  have discards : Accounted known { ready with
      journal := ready.journal.discard noFaults (surroundings.identity datasource addresses) } :=
    ⟨⟨handed.relayed, handed.deliveries⟩, .discard _ (identity_oneLine names)⟩
  have nothing : ∀ (address : Address) (cursor : AddressCursor),
      ({} : PollingState Signature).cursors[address]? ≠ some cursor := by simp
  have covers : ∀ {handled : Set Signature}, Covers ledger datasource.replayWindow.slots addresses
      (floorsAt datasource.replayWindow.slots ({} : PollingState Signature).cursors started.head) handled
      ({} : PollingState Signature).cursors ({} : PollingState Signature).recentSignatures :=
    ⟨by simp, by simp [floorsAt]⟩
  have bounded : ({} : PollingState Signature).Bounded :=
    ⟨fun address cursor present => absurd present (nothing address cursor), by simp⟩
  exact {
    identity := rfl
    accounted := discards.drifts names faultless later
    bounded
    processedBounded := bounded_snapshot bounded
    monitored := fun address cursor present => absurd present (nothing address cursor)
    headed := by simp [beginPolling, head]
    processedHeaded := by simp [beginPolling, PollingState.snapshot]
    live := covers
    processed := covers }

/-- With a checkpoint it begins with what that and the journal account for. -/
theorem Starts.covering_durable {snapshot : CheckpointSnapshot Signature}
    (starts : Starts surroundings codec datasource addresses pages world.site begun started.site)
    (accounted : Accounted known world.site) (head : started.head = world.head)
    (durable : Durable ledger (surroundings.store datasource addresses) codec datasource.replayWindow.slots
      addresses known snapshot world) :
    Covering ledger (surroundings.store datasource addresses) datasource.replayWindow.slots addresses known
      begun started := by
  have found : LoadsFrom (surroundings.store datasource addresses) codec world.site.checkpoint
      (resumed (surroundings.store datasource addresses) (some snapshot)) := by
    rw [durable.content]
    exact loadsFrom_encode durable.saveable rfl
  obtain ⟨_, loads, interpreted⟩ : ∃ loaded, _ = CheckpointLoadOutcome.loaded loaded ∧
      (surroundings.store datasource addresses).interpret codec
        ((surroundings.store datasource addresses).encode codec snapshot) = .ok (.loaded loaded) :=
    loadsFrom_encode durable.saveable rfl
  cases loads
  obtain ⟨_, _, stalls⟩ := starts.stalls durable.content interpreted
  obtain ⟨ready, entries, restored, faults, admitted, drifts, restores, later, rfl⟩ := starts.loaded found
  rw [faultless] at admitted
  cases admitted
  have ready_accounted := accounted.drifts names faultless drifts
  obtain ⟨lists, listed⟩ := ready_accounted.journal.restore (identity_oneLine names) restores
  have restores : Accounted known { ready with journal := restored } :=
    ⟨⟨ready_accounted.handedOver.relayed, ready_accounted.handedOver.deliveries⟩, lists⟩
  have readyProcessed : Processed { ready with journal := restored } ⊆ Processed started.site :=
    executes_processed (.idle later)
  have processed : Processed world.site ⊆ Processed started.site :=
    Set.Subset.trans (executes_processed (.idle drifts)) readyProcessed
  have monitored : ∀ address : Address, snapshot.cursors[address]?.isSome ↔ address ∈ addresses := by
    intro address
    rw [ExtTreeMap.isSome_getElem?_iff_mem, ← ExtTreeMap.mem_keys, durable.saveable.complete]
    exact CheckpointStore.mem_new_addresses
  have headed : ∀ address ∈ addresses, started.head.isSome := by
    rw [head]
    exact durable.headed
  have covers := durable.covers.mono (Set.union_subset_union_left _ (Set.union_subset_union_right _ processed))
  rw [← head] at covers
  obtain ⟨same, covers⟩ := covers.resume (fun address inside => (monitored address).mpr inside)
    (fun entry member => (listed entry member).imp_right fun finished => readyProcessed finished) rfl
  exact {
    identity := rfl
    accounted := restores.drifts names faultless later
    bounded := stalls.liveBounded
    processedBounded := stalls.processedBounded
    monitored := by
      intro address cursor present
      have there := (same address).symm.trans (Option.isSome_of_eq_some present)
      exact (monitored address).mp there
    headed := by
      intro address inside
      have present : snapshot.cursors[address]?.isSome := (monitored address).mpr inside
      rw [headed address inside]
      exact (same address).trans present
    processedHeaded := fun address inside _ => headed address inside
    live := covers.mono (Set.union_subset_union_left _ (Set.union_subset_union_right _
      Set.subset_union_right))
    processed := covers }

end Starting

/-! ## Lineages -/

/-- The process is killed, and another one started on its files.  The head that
counts is the first one since a checkpoint exists. -/
def Headed.restart (world : Headed Signature) : Headed Signature where
  site := world.site.restart
  head := world.site.checkpoint.bind fun _ => world.head

/-- The pages of a round come from replicas of the ledger. -/
def Honest (ledger : Ledger Signature) (_ : Consumption Signature) (trace : List (CallEvent Signature))
    (_ : Consumption Signature) : Prop :=
  ∃ contextOf, Replicas ledger contextOf trace

/-- A process that is about to start, and what those killed before it had
processed. -/
inductive Lineage (ledger : Ledger Signature) (surroundings : Surroundings) (codec : JsonCodec)
    (datasource : RpcPollingDatasource) (addresses : List Address) (pages : Nat) :
    Set Signature → Headed Signature → Prop where
  | first (file : Option (List Char)) :
      Lineage ledger surroundings codec datasource addresses pages ∅ ⟨.boot none file, none⟩
  | crash {known : Set Signature} {world crashed : Headed Signature}
      {control : Task Signature (Consumption Signature ⊕ Stopped)}
      (earlier : Lineage ledger surroundings codec datasource addresses pages known world)
      (reaches : Program.Reaches (headedEnvironment surroundings) (consume codec datasource addresses pages)
        (Honest ledger) .readingGenesisHash world control crashed) :
      Lineage ledger surroundings codec datasource addresses pages (known ∪ Processed crashed.site)
        crashed.restart

section Lineages

variable {world current crashed : Headed Signature}

/-- A process that has not begun, on files that account for what is known. -/
structure Boots (ledger : Ledger Signature) (store : CheckpointStore) (codec : JsonCodec) (window : Slot)
    (addresses : List Address) (known : Set Signature) (world : Headed Signature) : Prop where
  booted : ∃ checkpoint file, world.site = .boot checkpoint file
  bare : world.site.checkpoint = none → world.head = none
  files : Files ledger store codec window addresses known world

variable (names : NamesTarget surroundings datasource addresses)
  (faultless : surroundings.faults = {noFaults}) (distinct : addresses.Nodup)

include names faultless distinct

/-- Whenever a turn begins, the loop covers what it has to. -/
theorem Boots.turns
    (boots : Boots ledger (surroundings.store datasource addresses) codec datasource.replayWindow.slots addresses
      known world)
    (rounds : Program.Rounds (headedEnvironment surroundings) (consume codec datasource addresses pages)
      (Honest ledger) .readingGenesisHash world (.polling loop) current) :
    Covering ledger (surroundings.store datasource addresses) datasource.replayWindow.slots addresses known
        loop current ∧
      Stored ledger (surroundings.store datasource addresses) codec datasource.replayWindow.slots addresses
        known current := by
  have oneLine := identity_oneLine names
  have monitors : ∀ address ∈ addresses, address ∈ (surroundings.store datasource addresses).identity.addresses :=
    fun address monitored => CheckpointStore.mem_new_addresses.mpr monitored
  rcases consume_rounds_cases rounds with
    impossible | ⟨waiting, startTrace, begun, started, _, waited, starts, startsIn, same, turns⟩
  · contradiction
  cases same
  obtain ⟨checkpoint, file, booted⟩ := boots.booted
  have handedOver : HandedOver world.site := booted ▸ handedOver_boot
  have startedFiles := boots.files.starting names faultless waited starts startsIn handedOver
  have head : started.head = world.head := by
    have outside := (readGenesisHash_outside.advances starts (by simp [Program.Allowed])).1
    rw [executes_head startsIn, headReading_outside outside, waiting_head waited, Option.or_none]
  have site : Starts surroundings codec datasource addresses pages world.site begun started.site :=
    ⟨waiting.site, startTrace, (waited.map Headed.site fun _ _ _ => executes_unheaded).mono
      fun _ _ _ _ => trivial, starts, executes_unheaded startsIn⟩
  have begins : Covering ledger (surroundings.store datasource addresses) datasource.replayWindow.slots addresses
      known begun started := by
    rcases boots.files.stored with missing | ⟨snapshot, durable⟩
    · exact site.covering_missing names faultless handedOver (head.trans (boots.bare missing)) missing
    · have present : world.site.checkpoint ≠ none := by simp [durable.content]
      exact site.covering_durable names faultless ⟨handedOver, boots.files.journal present⟩ head durable
  have kept : ∀ (control : Consumption Signature) (current : Headed Signature),
      Program.Rounds (headedEnvironment surroundings) (consume codec datasource addresses pages)
        (Honest ledger) (.polling begun) started control current →
      ∃ loop : PollingLoop Signature, control = .polling loop ∧
        Covering ledger (surroundings.store datasource addresses) datasource.replayWindow.slots addresses known
          loop current ∧
        Stored ledger (surroundings.store datasource addresses) codec datasource.replayWindow.slots addresses
          known current := by
    intro control current turns
    induction turns with
    | start => exact ⟨begun, rfl, begins, startedFiles.stored⟩
    | next _ run execution honest ih =>
        obtain ⟨loop, rfl, covering, stored⟩ := ih
        obtain ⟨_, next, rfl, _⟩ := pollingTurn_completes run
        obtain ⟨contextOf, replicas⟩ := honest
        exact ⟨next, rfl, covering.turn faultless oneLine distinct run replicas execution,
          (stored.turn faultless oneLine monitors run execution covering).1⟩
  obtain ⟨_, same, covering, stored⟩ := kept _ _ turns
  cases same
  exact ⟨covering, stored⟩

/-- Wherever a process is killed, its files account for what is known by then. -/
theorem Boots.reaches {control : Task Signature (Consumption Signature ⊕ Stopped)}
    (boots : Boots ledger (surroundings.store datasource addresses) codec datasource.replayWindow.slots addresses
      known world)
    (reaches : Program.Reaches (headedEnvironment surroundings) (consume codec datasource addresses pages)
      (Honest ledger) .readingGenesisHash world control crashed) :
    Files ledger (surroundings.store datasource addresses) codec datasource.replayWindow.slots addresses known
      crashed := by
  obtain ⟨current, earlier, trace, rounds, reached, execution⟩ := reaches
  cases current with
  | readingGenesisHash =>
      obtain ⟨checkpoint, file, booted⟩ := boots.booted
      exact boots.files.starting names faultless rounds reached execution (booted ▸ handedOver_boot)
  | polling loop =>
      obtain ⟨covering, stored⟩ := boots.turns names faultless distinct rounds
      obtain ⟨stored, accounted⟩ := stored.turn faultless (identity_oneLine names)
        (fun address monitored => CheckpointStore.mem_new_addresses.mpr monitored) reached execution covering
      exact ⟨stored, fun _ => accounted.journal⟩

theorem Lineage.boots (lineage : Lineage ledger surroundings codec datasource addresses pages known world) :
    Boots ledger (surroundings.store datasource addresses) codec datasource.replayWindow.slots addresses known
      world := by
  induction lineage with
  | first file => exact ⟨⟨none, file, rfl⟩, fun _ => rfl, .inl rfl, fun present => absurd rfl present⟩
  | @crash known world crashed control _ reaches boots =>
      have files := boots.reaches names faultless distinct reaches
      refine ⟨⟨_, _, rfl⟩, fun missing => ?_, ?_, fun present => ?_⟩
      · have missing : crashed.site.checkpoint = none := missing
        rw [Headed.restart, missing]
        rfl
      · rcases files.stored with missing | ⟨snapshot, durable⟩
        · exact .inl missing
        · have head : crashed.restart.head = crashed.head := by
            rw [Headed.restart, durable.content]
            rfl
          refine .inr ⟨snapshot, durable.content, durable.saveable, ?_, ?_⟩
          · rw [head]
            exact durable.headed
          · rw [head]
            exact durable.covers.mono (Set.union_subset_union_left _ Set.subset_union_left)
      · exact (files.journal present).reopened.mono Set.subset_union_left

/-- However often processes of one target are killed, each at any point, and
started again on what the last one left: a transaction that mentions a monitored
address above two windows below the first head read since a checkpoint exists
has been processed by one of them, or the running one has passed it on,
quarantines it, or has it within reach without taking it for a recent one. -/
theorem crashes_lose_nothing {headSlot : Slot} {address : Address}
    (lineage : Lineage ledger surroundings codec datasource addresses pages known world)
    (rounds : Program.Rounds (headedEnvironment surroundings) (consume codec datasource addresses pages)
      (Honest ledger) .readingGenesisHash world (.polling loop) current)
    (first : current.head = some headSlot) (monitored : address ∈ addresses)
    (mentioned : ledger.mentions signature address)
    (above : headSlot - datasource.replayWindow.slots - datasource.replayWindow.slots <
      ledger.slotOf signature) :
    signature ∈ known ∪ Passed current.site ∨ signature ∈ loop.state.quarantinedSignatures ∨
      signature ∉ loop.state.recentSignatures ∧
        Reachable ledger datasource.replayWindow.slots addresses loop.state.cursors signature := by
  obtain ⟨covering, _⟩ := (lineage.boots names faultless distinct).turns names faultless distinct rounds
  have floor : floorsAt datasource.replayWindow.slots loop.state.cursors current.head address =
      some (headSlot - datasource.replayWindow.slots - datasource.replayWindow.slots) := by
    rw [floorsAt, covering.headed address monitored, first]
    rfl
  by_cases recent : signature ∈ loop.state.recentSignatures
  · exact (covering.live.recorded signature recent).imp_right .inl
  · rcases covering.live.reachable signature address monitored _ mentioned floor above with
      (handled | quarantined) | reachable
    · exact .inl handled
    · exact .inr (.inl quarantined)
    · exact .inr (.inr ⟨recent, reachable⟩)

end Lineages

/-! ## Processes in a scene -/

section Scenes

variable {scene : Scene Signature} {genesisHash : String} {head : Option Slot} {site final : Site Signature}
  {control last : Consumption Signature}

theorem executes_headed {first last : Site Signature}
    (execution : Program.Executes (siteEnvironment surroundings) first trace last) :
    Program.Executes (headedEnvironment surroundings) ⟨first, head⟩ trace
      ⟨last, head.or (headReading trace)⟩ := by
  have drifts : ∀ {first last : Site Signature} {head : Option Slot},
      (siteEnvironment surroundings).Drifts first last →
      (headedEnvironment surroundings).Drifts ⟨first, head⟩ ⟨last, head⟩ := by
    intro first last head drift
    induction drift with
    | refl => exact .refl
    | tail _ moves ih => exact ih.tail ⟨moves, rfl⟩
  induction execution generalizing head with
  | idle drift =>
      have unread : head.or (headReading ([] : List (CallEvent Signature))) = head := Option.or_none
      rw [unread]
      exact .idle (drifts drift)
  | @step _ _ _ _ command response trace drift answer _ ih =>
      have reads : head.or (headReading (⟨command, response⟩ :: trace)) =
          (head.or (headOf ⟨command, response⟩)).or (headReading trace) := by
        rw [Option.or_assoc]
        cases first : headOf ⟨command, response⟩ <;> simp [headReading, first]
      rw [reads]
      exact .step (drifts drift) ⟨answer, rfl⟩ ih

/-- Heads and pages are those of the scene. -/
def Scene.Shows (scene : Scene Signature) : (call : Call Signature) → call.Response → Prop
  | .rpc .getSlot, response => response = .ok scene.headSlot
  | .rpc (.getSignaturesForAddress address before limit _), response =>
      response = .ok (pageOf (listedEntries scene.entries address (scene.contextOf address)) before limit)
  | _, _ => True

theorem Scene.headReading_shows (shows : Program.Allowed scene.Shows trace) {headSlot : Slot}
    (read : headReading trace = some headSlot) : headSlot = scene.headSlot := by
  obtain ⟨⟨call, response⟩, member, read⟩ := List.exists_of_findSome?_eq_some read
  cases call with
  | rpc call =>
      cases call with
      | getSlot =>
          cases shows _ member
          exact (Option.some.inj read).symm
      | _ => contradiction
  | _ => contradiction

variable (scene genesisHash codec datasource addresses) in
/-- Complete rounds in a scene whose replicas have reached what is asked for. -/
def reachedIn : Nat → Consumption Signature → Site Signature → Option (Consumption Signature × Site Signature)
  | 0, control, site => some (control, site)
  | rounds + 1, control, site =>
      match scene.round genesisHash codec datasource addresses site control with
      | (trace, .inl next, after) => if scene.reaches trace then reachedIn rounds next after else none
      | (_, .inr _, _) => none

theorem headed_reachedIn {rounds : Nat} {start : Consumption Signature} {initial : Headed Signature}
    {sorted : scene.entries.Pairwise fun newer older => older.1.slot ≤ newer.1.slot}
    {apart : (scene.entries.map fun entry => entry.1.signature).Nodup} (typed : scene.Typed)
    (quiet : site.Quiet) (shown : ∀ headSlot ∈ head, headSlot = scene.headSlot)
    (earlier : Program.Rounds (headedEnvironment (undisturbed genesisHash))
      (consume codec datasource addresses 1) (Honest (.ofEntries scene.entries sorted apart)) start initial
      control ⟨site, head⟩)
    (reached : reachedIn codec datasource addresses scene genesisHash rounds control site = some (last, final)) :
    ∃ later, (∀ headSlot ∈ later, headSlot = scene.headSlot) ∧
      Program.Rounds (headedEnvironment (undisturbed genesisHash)) (consume codec datasource addresses 1)
        (Honest (.ofEntries scene.entries sorted apart)) start initial last ⟨final, later⟩ := by
  induction rounds generalizing control site head with
  | zero =>
      cases reached
      exact ⟨head, shown, earlier⟩
  | succ rounds ih =>
      unfold reachedIn at reached
      cases round : scene.round genesisHash codec datasource addresses site control with
      | mk trace outcome =>
          obtain ⟨result, next⟩ := outcome
          rw [round] at reached
          obtain ⟨run, execution, stillQuiet⟩ := scene.round_spec typed quiet round
          have answers : ∀ (site : Site Signature) (call : Call Signature),
              scene.Shows call (scene.perform genesisHash site call).1 := by
            intro site call
            cases call with
            | rpc call => cases call <;> first | rfl | trivial
            | _ => trivial
          have shows := Program.runWith_allowed answers site (consume codec datasource addresses 1 control)
          unfold Scene.round at round
          rw [round] at shows
          cases result with
          | inr stopped => cases reached
          | inl further =>
              dsimp only at reached
              split at reached
              · rename_i reaches
                have replicas : Replicas (.ofEntries scene.entries sorted apart) scene.contextOf trace := by
                  intro address before limit minimumContext page event
                  exact ⟨by simpa using List.all_eq_true.mp reaches _ event, Except.ok.inj (shows _ event)⟩
                refine ih stillQuiet (fun headSlot member => ?_)
                  (.next earlier run (executes_headed execution) ⟨_, replicas⟩) reached
                rcases Option.or_eq_some_iff.mp member with first | ⟨_, read⟩
                · exact shown headSlot first
                · exact scene.headReading_shows shows read
              · contradiction

end Scenes

/-! A process queues signature 1 and saves a checkpoint.  It is killed, and the
next one begins. -/

def drainingLedger : Ledger (Fin 58) := .ofEntries drainingScene.entries (by decide) (by decide)

theorem crashes_lose_nothing_restarted :
    ∃ (known : Set (Fin 58)) (world current : Headed (Fin 58)) (loop : PollingLoop (Fin 58)),
      Lineage drainingLedger (undisturbed "genesis") durableCodec sampleDatasource ["program"] 1 known world ∧
      world.site.checkpoint ≠ none ∧
      Program.Rounds (headedEnvironment (undisturbed "genesis"))
        (consume durableCodec sampleDatasource ["program"] 1) (Honest drainingLedger) .readingGenesisHash world
        (.polling loop) current ∧
      (1 ∈ known ∪ Passed current.site ∨ 1 ∈ loop.state.quarantinedSignatures ∨
        1 ∉ loop.state.recentSignatures ∧
          Reachable drainingLedger 10 ["program"] loop.state.cursors 1) := by
  have saves : (reachedIn durableCodec sampleDatasource ["program"] drainingScene "genesis" 3
      .readingGenesisHash (.boot none none)).any (fun reached => reached.2.checkpoint.isSome) = true := by
    decide +kernel
  obtain ⟨⟨control, site⟩, found, saved⟩ := (Option.any_eq_true _ _).mp saves
  have typed : drainingScene.Typed := ⟨by decide, by decide, by simp [drainingScene]⟩
  have booted : (Site.boot none none : Site (Fin 58)).Quiet := rfl
  -- The first process, up to its crash.
  obtain ⟨head, shown, rounds⟩ : ∃ later, (∀ headSlot ∈ later, headSlot = drainingScene.headSlot) ∧
      Program.Rounds (headedEnvironment (undisturbed "genesis"))
        (consume durableCodec sampleDatasource ["program"] 1) (Honest drainingLedger) .readingGenesisHash
        ⟨.boot none none, none⟩ control ⟨site, later⟩ :=
    headed_reachedIn typed booted (by simp) .start found
  have reaches : Program.Reaches (headedEnvironment (undisturbed "genesis"))
      (consume durableCodec sampleDatasource ["program"] 1) (Honest drainingLedger) .readingGenesisHash
      ⟨.boot none none, none⟩ (consume durableCodec sampleDatasource ["program"] 1 control) ⟨site, head⟩ :=
    ⟨control, _, [], rounds, .start _, .idle .refl⟩
  have crash : Lineage drainingLedger (undisturbed "genesis") durableCodec sampleDatasource ["program"] 1
      (∅ ∪ Processed site) (Headed.restart ⟨site, head⟩) := .crash (.first none) reaches
  -- The next one loads the checkpoint.
  have files := (crash.boots sample_namesTarget rfl (by decide)).files
  rcases files.stored with missing | ⟨snapshot, durable⟩
  · have saved : site.checkpoint.isSome = true := saved
    have absent : site.checkpoint.isSome = false := Option.isSome_eq_false_iff.mpr (Option.isNone_iff_eq_none.mpr missing)
    exact absurd (absent.symm.trans saved) Bool.false_ne_true
  have admitted : noFaults ∈ (undisturbed "genesis").faults := rfl
  have loads : ((undisturbed "genesis").store sampleDatasource ["program"]).interpret durableCodec
      (((undisturbed "genesis").store sampleDatasource ["program"]).encode durableCodec snapshot) =
        .ok (.loaded (snapshot.rewind 10)) :=
    CheckpointStore.interpret_encode durable.saveable.bounded rfl durable.saveable.complete
  obtain ⟨restored, loop, started, run, execution⟩ := loads_begins admitted durable.content loads
  have begins : Program.Rounds (headedEnvironment (undisturbed "genesis"))
      (consume durableCodec sampleDatasource ["program"] 1) (Honest drainingLedger) .readingGenesisHash
      (Headed.restart ⟨site, head⟩) (.polling loop) ⟨started, (Headed.restart ⟨site, head⟩).head⟩ := by
    have headed : Program.Executes (headedEnvironment (undisturbed "genesis")) (Headed.restart ⟨site, head⟩) _
        ⟨started, (Headed.restart ⟨site, head⟩).head.or none⟩ := executes_headed execution
    rw [Option.or_none] at headed
    exact .next .start run headed ⟨fun _ => 0, by simp [Replicas]⟩
  obtain ⟨headSlot, first⟩ := Option.isSome_iff_exists.mp (durable.headed "program" List.mem_cons_self)
  obtain ⟨_, _, read⟩ := Option.bind_eq_some_iff.mp first
  have above : headSlot - 10 - 10 < drainingLedger.slotOf 1 := by
    rw [shown headSlot read]
    decide +kernel
  exact ⟨_, _, _, loop, crash, by simp [durable.content], begins,
    crashes_lose_nothing sample_namesTarget rfl (by decide) crash begins first List.mem_cons_self
      ⟨_, List.mem_singleton.mpr rfl, rfl, by simp⟩ above⟩

end Microscope.Polling
