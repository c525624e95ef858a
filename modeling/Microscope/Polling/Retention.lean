import Microscope.Polling.Consistency
import Microscope.Polling.Mismatches
import Microscope.Polling.Quarantine

namespace Microscope.Polling

open Std Microscope.Data Microscope.Shipped

/-! # What the files of a process keep

A process without files polls a consistent endpoint, and is killed.  By then
its files keep the checkpoint it has saved, and every transaction shipped above
what a restart from that checkpoint can list.
-/

variable {Signature : Type} [LinearOrder Signature] [SignatureText Signature]
  {slotOf : Signature → Slot} {surroundings : Surroundings} {codec : JsonCodec}
  {datasource : RpcPollingDatasource} {addresses : List Address} {pages : Nat}
  {loop : PollingLoop Signature} {trace : List (CallEvent Signature)} {signature : Signature}

/-! ## What a turn sends -/

/-- A transaction is sent with its slot. -/
def Call.Sends (slotOf : Signature → Slot) : Call Signature → Prop
  | .send (.transaction update) => update.slot = slotOf update.signature
  | _ => True

/-- A command that is issued outside polls. -/
def Call.Outside : Call Signature → Prop
  | .rpc .getGenesisHash => True
  | .rpc _ => False
  | .drainDelivered => False
  | .send _ => False
  | _ => True

omit [LinearOrder Signature] [SignatureText Signature] in
theorem Call.Outside.sends {call : Call Signature} (outside : call.Outside) :
    call.Sends slotOf := by
  cases call with
  | send update => exact outside.elim
  | _ => trivial

/-- An outcome adds at most the update that was fetched. -/
theorem settleOutcome_successful (contexts : SignatureContexts Signature) (settled : Settled Signature)
    (signature : Signature) (outcome : FetchOutcome) :
    (settleOutcome contexts settled (signature, outcome)).successful = settled.successful ∨
      ∃ transaction update, outcome = .ok transaction ∧
        transactionUpdate signature transaction = some update ∧
        (settleOutcome contexts settled (signature, outcome)).successful =
          settled.successful ++ [{ signature, slot := transaction.slot, update }] := by
  have poisons : ∀ error, processFetchedTransaction settled.state signature outcome =
      poisoned settled.state signature error →
      (settleOutcome contexts settled (signature, outcome)).successful = settled.successful := by
    intro error processed
    simp only [settleOutcome, processed, poisoned]
    split
    · split <;> rfl
    · rfl
  cases outcome with
  | error failure =>
      obtain ⟨permanent, error⟩ := failure
      cases permanent with
      | true => exact .inl (poisons error rfl)
      | false => exact .inl rfl
  | ok transaction =>
      cases converted : transactionUpdate signature transaction with
      | none =>
          refine .inl (poisons ("transaction " ++ SignatureText.toText signature ++
            " could not be converted") ?_)
          simp only [processFetchedTransaction, converted]
      | some update =>
          refine .inr ⟨transaction, update, rfl, converted, ?_⟩
          simp only [settleOutcome, processFetchedTransaction, converted]

/-- What is ready to be sent has the slot it was fetched with. -/
theorem settleOutcomes_successful {contexts : SignatureContexts Signature} {state : PollingState Signature}
    {fetched : List (Signature × FetchOutcome)}
    (reported : ∀ signature transaction, (signature, .ok transaction) ∈ fetched →
      transaction.slot = slotOf signature) :
    ∀ update ∈ (settleOutcomes contexts state fetched).successful,
      update.update.slot = slotOf update.update.signature := by
  have folds : ∀ (settled : Settled Signature),
      (∀ update ∈ settled.successful, update.update.slot = slotOf update.update.signature) →
      ∀ update ∈ (fetched.foldl (settleOutcome contexts) settled).successful,
        update.update.slot = slotOf update.update.signature := by
    induction fetched with
    | nil => exact fun _ known => known
    | cons entry rest ih =>
        intro settled known
        refine ih (fun _ _ member => reported _ _ (List.mem_cons_of_mem _ member)) _ ?_
        obtain ⟨signature, outcome⟩ := entry
        rcases settleOutcome_successful contexts settled signature outcome with
          same | ⟨transaction, update, rfl, converted, appended⟩
        · rw [same]
          exact known
        · rw [appended]
          intro other member
          rcases List.mem_append.mp member with member | member
          · exact known other member
          · cases List.mem_singleton.mp member
            obtain ⟨sameSignature, sameSlot⟩ := transactionUpdate_some converted
            rw [sameSignature, sameSlot]
            exact reported signature transaction List.mem_cons_self
  exact folds _ (by simp)

omit [SignatureText Signature] in
theorem queueUpdates_sends {updates : List (FetchedUpdate Signature)} {state : PollingState Signature}
    {allowed : (call : Call Signature) → call.Response → Prop}
    (known : ∀ update ∈ updates, update.update.slot = slotOf update.update.signature) :
    Action.Obeys allowed (Call.Sends slotOf) (queueUpdates updates) state := by
  induction updates generalizing state with
  | nil => exact Action.obeys_pure
  | cons fetched updates ih =>
      have sends := known fetched List.mem_cons_self
      refine Action.Obeys.bind (Action.obeys_request.mpr sends) fun _ response _ _ _ => ?_
      cases response with
      | error closed => exact Action.obeys_fail
      | ok _ =>
          exact Action.Obeys.bind Action.obeys_modify fun _ _ _ _ _ =>
            ih fun update member => known update (List.mem_cons_of_mem _ member)

theorem poll_sends {state : PollingState Signature} {observed : Slot} :
    Action.Obeys (Call.Consistent slotOf observed) (Call.Sends slotOf)
      (poll pages datasource addresses) state := by
  refine poll_obeys ?_ ?_ fun headSlot initialized survey state => ?_
  · intro call preparing
    cases call <;> trivial
  · intro call quiet
    cases call <;> trivial
  · refine Action.Obeys.bind ?_ fun trace settled state fetches consistent => ?_
    · exact Action.Obeys.bind Action.obeys_read fun _ _ _ _ _ =>
        Action.Obeys.bind (Action.obeys_request.mpr trivial) fun _ _ _ _ _ =>
          Action.Obeys.bind Action.obeys_modify fun _ _ _ _ _ => Action.obeys_pure
    obtain ⟨fetched, rfl, same, _⟩ := fetchTransactions_cases fetches
    cases same
    have reported := (Program.allowed_cons.mp consistent).1
    refine Action.Obeys.bind (queueUpdates_sends fun update member => ?_) fun _ _ _ _ _ => ?_
    · exact settleOutcomes_successful reported update (mem_readyUpdates.mp member).1
    · exact Action.Obeys.bind Action.obeys_read fun _ _ _ _ _ =>
        Action.Obeys.bind Action.obeys_modify fun _ _ _ _ _ => Action.obeys_pure

/-! ## Outside polls -/

omit [LinearOrder Signature] [SignatureText Signature] in
theorem Call.Standby.outside {call : Call Signature} (standby : call.Standby) : call.Outside := by
  cases call with
  | rpc call => cases call <;> first | exact trivial | exact standby.elim
  | _ => first | exact trivial | exact standby.elim

/-- A start-up does not poll. -/
theorem readGenesisHash_outside : Program.Obeys (fun _ _ => True) Call.Outside
    (readGenesisHash codec datasource addresses : Task Signature (Consumption Signature ⊕ Stopped)) :=
  readGenesisHash_issues (fun _ => Call.Standby.outside) trivial (fun _ _ => trivial) (fun _ _ => trivial)
    fun _ _ _ _ _ _ => trivial

/-- A command that is issued between start-up and poll. -/
def Call.Maintaining : Call Signature → Prop
  | .now => True
  | .countCorruptCheckpoints => True
  | .channelEmpty => True
  | .receivedCounterFirst => True
  | .counter _ => True
  | .installCheckpoint _ => True
  | .compactShipped _ => True
  | _ => False

omit [LinearOrder Signature] [SignatureText Signature] in
theorem Call.Maintaining.outside {call : Call Signature} (maintaining : call.Maintaining) :
    call.Outside := by
  cases call <;> first | exact trivial | exact maintaining.elim

theorem saveCheckpoint_maintaining {loop : PollingLoop Signature} :
    Program.Obeys (fun _ _ => True) Call.Maintaining (saveCheckpoint codec datasource loop) := by
  have due : Program.Obeys (fun _ _ => True) Call.Maintaining
      (loop.checkpoint.writeDue pollingFile loop.checkpointUrgent :
        Task Signature Bool) := by
    unfold CheckpointStore.writeDue
    split
    · exact trivial
    · exact ⟨trivial, fun _ _ => trivial⟩
  have saves : Program.Obeys (fun _ _ => True) Call.Maintaining
      (loop.checkpoint.saveIfDue pollingFile codec loop.processedState loop.checkpointUrgent :
        Task Signature (Except IoError Bool × CheckpointStore)) := by
    unfold CheckpointStore.saveIfDue
    split
    · exact trivial
    · refine due.bind fun _ due _ _ => ?_
      cases due with
      | false => exact trivial
      | true =>
          refine ⟨trivial, fun installed _ => ?_⟩
          cases installed with
          | error error => exact trivial
          | ok _ => exact ⟨trivial, fun _ _ => trivial⟩
  refine saves.bind ?_
  rintro trace ⟨saved, checkpoint⟩ _ _
  dsimp only
  split
  · exact ⟨trivial, fun _ _ => trivial⟩
  · exact trivial

omit [SignatureText Signature] in
theorem refreshProcessedState_maintaining :
    Program.Obeys (fun _ _ => True) Call.Maintaining (refreshProcessedState loop) := by
  have reads : Program.Obeys (fun _ _ => True) Call.Maintaining
      (readCounters : Task Signature (Option Nat × Option Nat)) := by
    refine ⟨trivial, fun receivedFirst _ => ?_⟩
    cases receivedFirst <;> exact ⟨trivial, fun _ _ => ⟨trivial, fun _ _ => trivial⟩⟩
  refine ⟨trivial, fun channelEmpty _ => reads.bind ?_⟩
  rintro trace ⟨received, processed⟩ _ _
  dsimp only
  split <;> exact trivial

theorem beforePoll_maintaining :
    Program.Obeys (fun _ _ => True) Call.Maintaining (beforePoll codec datasource loop) :=
  ⟨trivial, fun _ _ => refreshProcessedState_maintaining.bind fun _ _ _ _ => saveCheckpoint_maintaining⟩

theorem beforePoll_outside :
    Program.Obeys (fun _ _ => True) Call.Outside (beforePoll codec datasource loop) :=
  beforePoll_maintaining.mono fun _ => Call.Maintaining.outside

/-- What comes before the poll leaves the live state alone. -/
theorem beforePoll_state {saved : PollingLoop Signature}
    (run : Program.Run (beforePoll codec datasource loop) trace saved) : saved.state = loop.state := by
  obtain ⟨_, rest, rfl, later⟩ := Program.run_call_iff.mp run
  replace later : Program.Run (refreshProcessedState loop >>= fun refreshed =>
      saveCheckpoint codec datasource refreshed) rest saved := later
  obtain ⟨_, _, refreshed, rfl, refreshes, saves⟩ := Program.run_bind_iff.mp later
  obtain ⟨_, rfl⟩ := saveCheckpoint_keeps saves
  rcases refreshProcessedState_cases refreshes with rfl | ⟨rfl, _⟩ <;> rfl

/-- Where a save can be: before it installs the checkpoint, or after. -/
theorem saveIfDue_stages {store : CheckpointStore} {snapshot : CheckpointSnapshot Signature}
    {activity : Bool} {control : Task Signature (Except IoError Bool × CheckpointStore)}
    (reached : Program.Advances (store.saveIfDue pollingFile codec snapshot activity) trace control) :
    ((∀ event ∈ trace, event.1 = .now) ∧ ∀ checkpoint, control ≠ .done (.ok true, checkpoint)) ∨
      snapshot.cursors.keys = store.identity.addresses ∧ ∃ due installed finishing,
        trace = due ++ ⟨.installCheckpoint (store.encode codec snapshot), installed⟩ :: finishing ∧
        (∀ event ∈ due, event.1 = .now) ∧ (∀ event ∈ finishing, event.1 = .now) ∧
        ∀ checkpoint, control = .done (.ok true, checkpoint) → installed = .ok () := by
  unfold CheckpointStore.saveIfDue at reached
  split at reached
  · cases reached
    exact .inl ⟨by simp, by simp⟩
  rename_i complete
  have clock : ∀ {due : List (CallEvent Signature)} {control : Task Signature Bool},
      Program.Advances (store.writeDue pollingFile activity) due control →
        ∀ event ∈ due, event.1 = .now := by
    intro due control reached
    unfold CheckpointStore.writeDue at reached
    split at reached
    · cases reached
      simp
    · cases reached with
      | start => simp
      | step later =>
          cases later
          simp
  rcases reached.bind_cases with ⟨middle, advanced, rfl⟩ | ⟨due, rest, isDue, rfl, run, later⟩
  · refine .inl ⟨clock advanced, fun checkpoint same => ?_⟩
    cases middle with
    | call command next => cases same
    | done isDue => cases isDue <;> cases same
  cases isDue with
  | false =>
      cases later
      exact .inl ⟨by simpa using clock run, by simp⟩
  | true =>
  cases later with
  | start => exact .inl ⟨by simpa using clock run, fun checkpoint same => by cases same⟩
  | @step _ _ installed _ _ later =>
  refine .inr ⟨not_not.mp complete, due, installed, _, rfl, clock run, ?_⟩
  cases installed with
  | error error =>
      cases later
      exact ⟨by simp, fun checkpoint same => by cases same⟩
  | ok _ =>
      cases later with
      | start => exact ⟨by simp, fun _ _ => rfl⟩
      | step last =>
          cases last
          exact ⟨by simp, fun _ _ => rfl⟩

/-- The journal is compacted only after the checkpoint is installed. -/
theorem saveCheckpoint_stages {control : Task Signature (PollingLoop Signature)}
    (reached : Program.Advances (saveCheckpoint codec datasource loop) trace control) :
    (∀ event ∈ trace, event.1 = .now) ∨
      loop.processedState.cursors.keys = loop.checkpoint.identity.addresses ∧ ∃ due installed finishing,
        trace = due ++
          ⟨.installCheckpoint (loop.checkpoint.encode codec loop.processedState), installed⟩ :: finishing ∧
        (∀ event ∈ due, event.1 = .now) ∧
        ∀ event ∈ finishing, event.1 = .now ∨ installed = .ok () ∧ event.1 = .compactShipped
          (unreachableBelow loop.processedState.checkpointSlot datasource.replayWindow.slots) := by
  rcases reached.bind_cases with ⟨middle, advanced, rfl⟩ | ⟨first, rest, ⟨saved, checkpoint⟩, rfl, run, later⟩
  · rcases saveIfDue_stages advanced with ⟨clock, _⟩ | ⟨complete, due, installed, finishing, rfl, clock, last, _⟩
    · exact .inl clock
    · exact .inr ⟨complete, due, installed, finishing, rfl, clock, fun event member => .inl (last event member)⟩
  · dsimp only at later
    split at later
    · rcases saveIfDue_stages run with ⟨_, unsaved⟩ | ⟨complete, due, installed, finishing, rfl, clock, last, known⟩
      · exact absurd rfl (unsaved checkpoint)
      · refine .inr ⟨complete, due, installed, finishing ++ rest, by simp, clock, fun event member => ?_⟩
        rcases List.mem_append.mp member with member | member
        · exact .inl (last event member)
        · cases later with
          | start => cases member
          | step done =>
              cases done
              rw [List.mem_singleton.mp member]
              exact .inr ⟨known checkpoint rfl, rfl⟩
    · cases later
      rcases saveIfDue_stages run with ⟨clock, _⟩ | ⟨complete, due, installed, finishing, rfl, clock, last, _⟩
      · exact .inl (by simpa using clock)
      · exact .inr ⟨complete, due, installed, finishing, by simp, clock, fun event member =>
          .inl (last event member)⟩

/-- A turn is outside its poll until that begins. -/
theorem pollingTurn_stages {control : Task Signature (Consumption Signature ⊕ Stopped)}
    (reached : Program.Advances (pollingTurn codec datasource addresses pages loop) trace control) :
    ((∀ event ∈ trace, event.1.Outside) ∧ ∀ next, control ≠ .done (.inl next)) ∨
      ∃ started checked polling saved,
        trace = ⟨.cancelled, false⟩ :: ⟨.now, started⟩ :: (checked ++ polling) ∧
        Program.Run (beforePoll codec datasource loop) checked saved ∧
        (∀ event ∈ checked, event.1.Outside) ∧
        Program.Advances (pollAndConclude datasource addresses pages started saved) polling control := by
  replace reached : Program.Advances (.call .cancelled fun cancelled =>
      if cancelled then .done (.inr .cancelled)
      else .call .now fun started => beforePoll codec datasource loop >>=
        pollAndConclude datasource addresses pages started) trace control := by
    simpa [pollingTurn, apply_ite] using reached
  cases reached with
  | start => exact .inl ⟨by simp, by simp⟩
  | @step _ _ cancelled _ _ reached =>
  cases cancelled with
  | true =>
      cases reached
      exact .inl ⟨by simp [Call.Outside], by simp⟩
  | false =>
  cases reached with
  | start => exact .inl ⟨by simp [Call.Outside], by simp⟩
  | @step _ _ started _ _ reached =>
  rcases beforePoll_outside.bind_cases reached (by simp [Program.Allowed]) with
    ⟨outside, command, next, rfl, _⟩ | ⟨checked, polling, saved, rfl, run, outside, later⟩
  · refine .inl ⟨?_, by simp⟩
    simpa [Call.Outside] using outside
  · exact .inr ⟨started, checked, polling, saved, rfl, run, outside, later⟩

omit [SignatureText Signature] in
theorem concludePoll_outside {started : Instant} {disabled : Bool} :
    Program.Obeys (fun _ _ => True) Call.Outside (concludePoll datasource started disabled loop) := by
  unfold concludePoll
  split
  · refine Program.Obeys.bind ?_ fun _ _ _ _ => trivial
    unfold waitWithRecoveryDisabled
    split <;> simp [Program.Obeys, Call.Outside]
  · refine ⟨trivial, fun finished _ => ⟨trivial, fun cancelled _ => ?_⟩⟩
    cases cancelled <;> exact trivial

/-- Every transaction that a turn sends has its slot. -/
theorem pollingTurn_sends {control : Task Signature (Consumption Signature ⊕ Stopped)} {observed : Slot}
    (reached : Program.Advances (pollingTurn codec datasource addresses pages loop) trace control)
    (consistent : Program.Allowed (Call.Consistent slotOf observed) trace) :
    ∀ event ∈ trace, event.1.Sends slotOf := by
  rcases pollingTurn_stages reached with
    ⟨outside, _⟩ | ⟨started, checked, polling, saved, rfl, _, outside, later⟩
  · exact fun event member => (outside event member).sends
  · have polls : Program.Obeys (Call.Consistent slotOf observed) (Call.Sends slotOf)
        (pollAndConclude datasource addresses pages started saved) := by
      refine Program.Obeys.bind poll_sends fun _ _ _ _ => ?_
      exact (concludePoll_outside.restrict fun _ _ _ => trivial).mono fun _ => Call.Outside.sends
    have polled : Program.Allowed (Call.Consistent slotOf observed) polling :=
      fun event member => consistent event (by simp [member])
    have sent := (polls.advances later polled).1
    intro event member
    simp only [List.mem_cons, List.mem_append] at member
    rcases member with rfl | rfl | member | member
    · trivial
    · trivial
    · exact (outside event member).sends
    · exact sent event member

/-! ## The first process -/

/-- Yellowstone hands nothing over. -/
structure Site.Alone (site : Site Signature) : Prop where
  relayed : site.relayed = none
  deliveries : site.deliveries = []

/-- The transaction is below what a restart from this checkpoint can list. -/
def OutOfReach (slotOf : Signature → Slot) (window : Slot) (cursors : ExtTreeMap Address AddressCursor)
    (signature : Signature) : Prop :=
  ∀ (address : Address) (cursor : AddressCursor), cursors[address]? = some cursor →
    slotOf signature ≤ unreachableBelow cursor.scannedSlot window

/-- What the two files keep of a process: the checkpoint it has saved, and in
the journal every shipped transaction that a restart from it can list. -/
structure Retains (slotOf : Signature → Slot) (store : CheckpointStore) (codec : JsonCodec)
    (identity : Identity) (window : Slot) (saved : Option (CheckpointSnapshot Signature))
    (site : Site Signature) : Prop where
  alone : site.Alone
  checkpoint : site.checkpoint = saved.map (store.encode codec)
  unsaved : saved = none → site.replacements = 0
  sound : ∀ snapshot ∈ saved, snapshot.Bounded ∧ snapshot.cursors.keys = store.identity.addresses
  sent : ∀ update, .transaction update ∈ site.pipeline.sent → update.slot = slotOf update.signature
  journal : ∃ entries, site.journal.Agrees identity entries ∧
    (∀ entry ∈ entries, entry.2 = slotOf entry.1) ∧
    ∀ entry ∈ site.shipped, entry.1 ∈ entries.map Prod.fst ∨
      ∃ snapshot ∈ saved, OutOfReach slotOf window snapshot.cursors entry.1

section Retention

variable {store : CheckpointStore} {identity : Identity} {window : Slot}
  {saved : Option (CheckpointSnapshot Signature)} {before after : Site Signature}
  (streaming : surroundings.streaming = false) (faultless : surroundings.faults = {noFaults})

omit [LinearOrder Signature] [SignatureText Signature] in
theorem Pipeline.mem_of_inFlight {pipeline : Pipeline Signature} {update : Update Signature}
    (busy : pipeline.inFlight = some update) : update ∈ pipeline.sent := by
  unfold Pipeline.inFlight at busy
  split at busy
  · exact List.mem_of_getElem? busy
  · contradiction

include streaming faultless in
theorem Site.Moves.retains (moves : Site.Moves surroundings before after)
    (retains : Retains slotOf store codec identity window saved before) :
    Retains slotOf store codec identity window saved after := by
  cases moves with
  | relay update streams =>
      rw [streaming] at streams
      contradiction
  | deliver relayed =>
      rw [retains.alone.relayed] at relayed
      contradiction
  | register => exact { retains with alone := ⟨retains.alone.relayed, retains.alone.deliveries⟩ }
  | dequeue => exact { retains with alone := ⟨retains.alone.relayed, retains.alone.deliveries⟩ }
  | finish => exact { retains with alone := ⟨retains.alone.relayed, retains.alone.deliveries⟩ }
  | @ship update faults busy admitted =>
      rw [faultless] at admitted
      cases admitted
      obtain ⟨entries, agrees, slots, kept⟩ := retains.journal
      have slot := retains.sent update (Pipeline.mem_of_inFlight busy)
      refine { retains with
        alone := ⟨retains.alone.relayed, retains.alone.deliveries⟩
        journal := ⟨_, agrees.record update.slot_lt, ?_, ?_⟩ }
      · intro entry member
        split at member
        · exact slots entry member
        · rcases List.mem_append.mp member with member | member
          · exact slots entry member
          · cases List.mem_singleton.mp member
            exact slot
      · intro entry member
        rcases List.mem_append.mp member with member | member
        · refine (kept entry member).imp_left fun present => ?_
          split
          · exact present
          · rw [List.map_append]
            exact List.mem_append_left _ present
        · cases List.mem_singleton.mp member
          refine .inl ?_
          split
          · assumption
          · simp

/-- A turn's commands outside its saving part keep what the files keep. -/
theorem Site.Answers.retains {call : Call Signature} {response : call.Response}
    (transient : call.Transient) (sends : call.Sends slotOf)
    (answers : before.Answers surroundings after call response)
    (retains : Retains slotOf store codec identity window saved before) :
    Retains slotOf store codec identity window saved after := by
  have files := answers.sameFiles transient
  have changes := answers.changes
  refine ⟨⟨changes.relayed.trans retains.alone.relayed, ?_⟩, files.checkpoint.trans retains.checkpoint,
    fun none => files.replacements.trans (retains.unsaved none), retains.sound, ?_, ?_⟩
  · rcases changes.deliveries with same | same
    · exact same.trans retains.alone.deliveries
    · exact same
  · intro update member
    rcases changes.pipeline with same | ⟨pushed, rfl, same⟩
    · rw [same] at member
      exact retains.sent update member
    · rw [same] at member
      rcases List.mem_append.mp member with member | member
      · exact retains.sent update member
      · cases List.mem_singleton.mp member
        exact sends
  · rw [files.journal, changes.shipped]
    exact retains.journal

include streaming faultless in
theorem Retains.transient (transient : ∀ event ∈ trace, event.1.Transient)
    (sends : ∀ event ∈ trace, event.1.Sends slotOf)
    (execution : Program.Executes (siteEnvironment surroundings) before trace after)
    (retains : Retains slotOf store codec identity window saved before) :
    Retains slotOf store codec identity window saved after := by
  have answered : ∀ first event second, event ∈ trace →
      (siteEnvironment surroundings).answers first event.1 event.2 second →
      Retains slotOf store codec identity window saved first →
      Retains slotOf store codec identity window saved second :=
    fun _ event _ member answer kept => answer.2.retains (transient event member) (sends event member) kept
  have moved : ∀ first second, Site.Moves surroundings first second →
      Retains slotOf store codec identity window saved first →
      Retains slotOf store codec identity window saved second :=
    fun _ _ moves kept => moves.retains streaming faultless kept
  have kept := execution.keeps_events answered moved retains
  exact kept

/-! ### Saving -/

variable {snapshot : CheckpointSnapshot Signature}

theorem unreachableBelow_mono {first second : Slot} (le : first ≤ second) :
    unreachableBelow first window ≤ unreachableBelow second window := Nat.sub_le_sub_right le _

omit [SignatureText Signature] in
theorem checkpointSlot_le {address : Address} {cursor : AddressCursor}
    (present : snapshot.cursors[address]? = some cursor) : snapshot.checkpointSlot ≤ cursor.scannedSlot := by
  unfold CheckpointSnapshot.checkpointSlot
  cases found : OrderedMap.least snapshot.cursors AddressCursor.scannedSlot with
  | none => exact Nat.zero_le _
  | some least => exact OrderedMap.least_le found present

omit [LinearOrder Signature] [SignatureText Signature] in
/-- What is out of reach stays so when the same cursors move on. -/
theorem OutOfReach.behind {earlier later : ExtTreeMap Address AddressCursor}
    (outOfReach : OutOfReach slotOf window earlier signature) (behind : Behind earlier later)
    (same : earlier.keys = later.keys) : OutOfReach slotOf window later signature := by
  intro address cursor present
  have known : address ∈ earlier := by
    rw [← ExtTreeMap.mem_keys, same, ExtTreeMap.mem_keys]
    exact OrderedMap.mem_iff_getElem?.mpr ⟨cursor, present⟩
  obtain ⟨first, found⟩ := OrderedMap.mem_iff_getElem?.mp known
  obtain ⟨next, nextPresent, le⟩ := behind address first found
  rw [present] at nextPresent
  cases nextPresent
  exact (outOfReach address first found).trans (unreachableBelow_mono le)

theorem Retains.install (bounded : snapshot.Bounded)
    (complete : snapshot.cursors.keys = store.identity.addresses)
    (behind : ∀ earlier ∈ saved, Behind earlier.cursors snapshot.cursors)
    (retains : Retains slotOf store codec identity window saved before) :
    Retains slotOf store codec identity window (some snapshot)
      (before.install (store.encode codec snapshot)) where
  alone := ⟨retains.alone.relayed, retains.alone.deliveries⟩
  checkpoint := rfl
  unsaved := by simp
  sound := by
    rintro other ⟨⟩
    exact ⟨bounded, complete⟩
  sent := retains.sent
  journal := by
    obtain ⟨entries, agrees, slots, kept⟩ := retains.journal
    refine ⟨entries, agrees, slots, fun entry member => (kept entry member).imp_right ?_⟩
    rintro ⟨earlier, known, outOfReach⟩
    have sameKeys := (retains.sound earlier known).2.trans complete.symm
    exact ⟨snapshot, rfl, outOfReach.behind (behind earlier known) sameKeys⟩

/-- Compaction drops what is out of reach of the saved checkpoint. -/
theorem Retains.compact (retains : Retains slotOf store codec identity window (some snapshot) before) :
    Retains slotOf store codec identity window (some snapshot) { before with
      journal := before.journal.compact noFaults (unreachableBelow snapshot.checkpointSlot window) } := by
  obtain ⟨entries, agrees, slots, kept⟩ := retains.journal
  refine { retains with
    alone := ⟨retains.alone.relayed, retains.alone.deliveries⟩
    journal := ⟨_, agrees.compact _, fun entry member => slots entry (List.mem_filter.mp member).1, ?_⟩ }
  intro entry member
  rcases kept entry member with present | outOfReach
  · obtain ⟨written, inside, same⟩ := List.mem_map.mp present
    by_cases above : written.2 > unreachableBelow snapshot.checkpointSlot window
    · exact .inl (List.mem_map.mpr ⟨written, List.mem_filter.mpr ⟨inside, decide_eq_true above⟩, same⟩)
    · refine .inr ⟨snapshot, rfl, fun address cursor found => ?_⟩
      rw [← same, ← slots written inside]
      exact (Nat.le_of_not_lt above).trans (unreachableBelow_mono (checkpointSlot_le found))
  · exact .inr outOfReach

include streaming faultless in
/-- However far a save has come, the files keep what they have to. -/
theorem Retains.saving {control : Task Signature (PollingLoop Signature)}
    (sameIdentity : loop.checkpoint.identity = store.identity)
    (bounded : loop.processedState.Bounded)
    (behind : ∀ earlier ∈ saved, Behind earlier.cursors loop.processedState.cursors)
    (reached : Program.Advances (saveCheckpoint codec datasource loop) trace control)
    (execution : Program.Executes (siteEnvironment surroundings) before trace after)
    (retains : Retains slotOf store codec identity datasource.replayWindow.slots saved before) :
    ∃ next, (next = saved ∨ next = some loop.processedState) ∧
      Retains slotOf store codec identity datasource.replayWindow.slots next after := by
  have clock : ∀ {events : List (CallEvent Signature)} {first second : Site Signature}
      {snapshots : Option (CheckpointSnapshot Signature)}, (∀ event ∈ events, event.1 = .now) →
      Program.Executes (siteEnvironment surroundings) first events second →
      Retains slotOf store codec identity datasource.replayWindow.slots snapshots first →
      Retains slotOf store codec identity datasource.replayWindow.slots snapshots second := by
    intro events first second snapshots clock execution retains
    refine retains.transient streaming faultless (fun event member => ?_) (fun event member => ?_) execution
    · rw [clock event member]
      trivial
    · rw [clock event member]
      trivial
  rcases saveCheckpoint_stages reached with
    now | ⟨complete, due, installed, finishing, rfl, now, later⟩
  · exact ⟨saved, .inl rfl, clock now execution retains⟩
  obtain ⟨ready, waits, execution⟩ := execution.split
  have ready := clock now waits retains
  cases execution with
  | @step _ installing written _ _ _ _ drift answer rest =>
  have ready := clock (by simp) (.idle drift) ready
  have sameEncoding : loop.checkpoint.encode codec loop.processedState =
      store.encode codec loop.processedState := by rw [CheckpointStore.encode_congr sameIdentity]
  have complete : loop.processedState.cursors.keys = store.identity.addresses := by
    rw [complete, sameIdentity]
  have now : Retains slotOf store codec identity datasource.replayWindow.slots
      (some loop.processedState) (installing.install (store.encode codec loop.processedState)) :=
    ready.install bounded complete behind
  rw [sameEncoding] at answer
  cases installed with
  | error error =>
      have clocked : ∀ event ∈ finishing, event.1 = .now := fun event member =>
        (later event member).resolve_right (by simp)
      rcases answer.2 with rfl | rfl
      · exact ⟨saved, .inl rfl, clock clocked rest ready⟩
      · exact ⟨_, .inr rfl, clock clocked rest now⟩
  | ok _ =>
      obtain rfl := answer.2
      refine ⟨_, .inr rfl, ?_⟩
      have answered : ∀ first event second, event ∈ finishing →
          (siteEnvironment surroundings).answers first event.1 event.2 second →
          Retains slotOf store codec identity datasource.replayWindow.slots (some loop.processedState) first →
          Retains slotOf store codec identity datasource.replayWindow.slots (some loop.processedState)
            second := by
        rintro first ⟨call, response⟩ second member answer retains
        rcases later _ member with ticks | ⟨_, compacts⟩
        · cases ticks
          have transient : (Call.now : Call Signature).Transient := trivial
          have sends : (Call.now : Call Signature).Sends slotOf := trivial
          exact answer.2.retains transient sends retains
        · cases compacts
          obtain ⟨faults, admitted, rfl⟩ := answer.2
          rw [faultless] at admitted
          cases admitted
          exact retains.compact
      have moved : ∀ first second, Site.Moves surroundings first second →
          Retains slotOf store codec identity datasource.replayWindow.slots (some loop.processedState) first →
          Retains slotOf store codec identity datasource.replayWindow.slots (some loop.processedState)
            second := fun _ _ moves kept => moves.retains streaming faultless kept
      have kept := rest.keeps_events answered moved now
      exact kept

end Retention

/-! ### Turns -/

/-- The saved cursors are behind the processed ones, and these behind the live
ones, which are behind what the endpoint has shown. -/
structure Leads (store : CheckpointStore) (saved : Option (CheckpointSnapshot Signature))
    (loop : PollingLoop Signature) (observed : Slot) : Prop where
  identity : loop.checkpoint.identity = store.identity
  bounded : loop.state.Bounded
  processedBounded : loop.processedState.Bounded
  within : Within observed loop.state.cursors
  processed : Behind loop.processedState.cursors loop.state.cursors
  saved : ∀ snapshot ∈ saved, Behind snapshot.cursors loop.processedState.cursors

section Turns

variable {store : CheckpointStore} {identity : Identity}
  {saved : Option (CheckpointSnapshot Signature)} {before after : Watched Signature}
  {refreshed next : PollingLoop Signature} {observed : Slot}

omit [SignatureText Signature] in
theorem Leads.refresh (leads : Leads store saved loop observed) (refreshes : Refreshes loop trace refreshed) :
    Leads store saved refreshed observed := by
  rcases refreshes.drained with rfl | ⟨rfl, _⟩
  · exact leads
  · exact {
      identity := leads.identity
      bounded := leads.bounded
      processedBounded := bounded_snapshot leads.bounded
      within := leads.within
      processed := .refl
      saved := fun snapshot known => (leads.saved snapshot known).trans leads.processed }

omit [SignatureText Signature] in
/-- Saving the processed state keeps the saved cursors behind it. -/
theorem Leads.save {later : Option (CheckpointSnapshot Signature)}
    (leads : Leads store saved loop observed)
    (written : later = saved ∨ later = some loop.processedState) : Leads store later loop observed := by
  rcases written with rfl | rfl
  · exact leads
  · refine { leads with saved := ?_ }
    rintro snapshot ⟨⟩
    exact .refl

omit [SignatureText Signature] in
theorem Leads.saved_within (leads : Leads store saved loop observed) :
    ∀ snapshot ∈ saved, Within observed snapshot.cursors :=
  fun snapshot known => ((leads.saved snapshot known).trans leads.processed).within leads.within

variable (streaming : surroundings.streaming = false) (faultless : surroundings.faults = {noFaults})

include streaming faultless

/-- Wherever a turn stops, the files keep what they have to. -/
theorem turn_retains {control : Task Signature (Consumption Signature ⊕ Stopped)}
    (leads : Leads store saved loop before.observed)
    (reached : Program.Advances (pollingTurn codec datasource addresses pages loop) trace control)
    (execution : Program.Executes (watchedEnvironment slotOf surroundings) before trace after)
    (retains : Retains slotOf store codec identity datasource.replayWindow.slots saved before.site) :
    ∃ later, (∀ snapshot ∈ later, Within after.observed snapshot.cursors) ∧
      Retains slotOf store codec identity datasource.replayWindow.slots later after.site := by
  have sends := pollingTurn_sends reached (executes_shows execution).consistent
  have le := executes_observed execution
  have execution := executes_site execution
  rcases pollingTurn_cases reached with ⟨transient, _, _⟩ |
    ⟨started, checked, tail, refreshed, rfl, refreshes, stage⟩
  · exact ⟨saved, fun snapshot known => (leads.saved_within snapshot known).mono le,
      retains.transient streaming faultless transient sends execution⟩
  obtain ⟨middle, checks, execution⟩ := execution.split
  have refreshedLeads := leads.refresh refreshes
  have checkedRetains := retains.transient streaming faultless refreshes.transient
    (fun event member => sends event (List.mem_append_left _ member)) checks
  rcases stage with ⟨control, saves, _⟩ | ⟨saving, polling, finished, rfl, saves, polls⟩
  · obtain ⟨later, written, kept⟩ := checkedRetains.saving streaming faultless refreshedLeads.identity
      refreshedLeads.processedBounded refreshedLeads.saved saves execution
    exact ⟨later, fun snapshot known => ((refreshedLeads.save written).saved_within snapshot known).mono le,
      kept⟩
  · obtain ⟨ready, savesIn, pollsIn⟩ := execution.split
    obtain ⟨later, written, kept⟩ := checkedRetains.saving streaming faultless refreshedLeads.identity
      refreshedLeads.processedBounded refreshedLeads.saved saves savesIn
    have transient := (pollAndConclude_transient.advances polls (by simp [Program.Allowed])).1
    exact ⟨later, fun snapshot known => ((refreshedLeads.save written).saved_within snapshot known).mono le,
      kept.transient streaming faultless transient
        (fun event member => sends event (by simp [member])) pollsIn⟩

/-- A complete turn moves the cursors on. -/
theorem turn_leads (leads : Leads store saved loop before.observed)
    (run : Program.Run (pollingTurn codec datasource addresses pages loop) trace (.inl (.polling next)))
    (execution : Program.Executes (watchedEnvironment slotOf surroundings) before trace after)
    (retains : Retains slotOf store codec identity datasource.replayWindow.slots saved before.site) :
    ∃ later, Leads store later next after.observed ∧
      Retains slotOf store codec identity datasource.replayWindow.slots later after.site := by
  have sends := pollingTurn_sends run (executes_shows execution).consistent
  obtain ⟨result, _, same, completes⟩ := pollingTurn_completes run
  cases same
  obtain ⟨checked, saving, polled, concluding, refreshed, finished, pages, state, rfl, refreshes,
    saves, ends, rfl, idle⟩ := completes.parts
  obtain ⟨middle, checks, execution⟩ := execution.split
  obtain ⟨ready, savesIn, execution⟩ := execution.split
  obtain ⟨final, polls, concludes⟩ := execution.split
  have refreshedLeads := leads.refresh refreshes
  obtain ⟨later, written, kept⟩ := (retains.transient streaming faultless refreshes.transient
    (fun event member => sends event (by simp [member])) (executes_site checks)).saving streaming faultless
      refreshedLeads.identity refreshedLeads.processedBounded refreshedLeads.saved saves (executes_site savesIn)
  have polledRetains := kept.transient streaming faultless
    (poll_transient.ends ends (by simp [Program.Allowed]))
    (fun event member => sends event (by simp [member])) (executes_site polls)
  have moved : ∀ first second, Site.Moves surroundings first second →
      Retains slotOf store codec identity datasource.replayWindow.slots later first →
      Retains slotOf store codec identity datasource.replayWindow.slots later second :=
    fun _ _ moves kept => moves.retains streaming faultless kept
  refine ⟨later, ?_, keeps_idle moved idle (executes_site concludes) polledRetains⟩
  have savedLeads := refreshedLeads.save written
  obtain ⟨lastWriteCompletedAt, rfl⟩ := saveCheckpoint_keeps saves
  have answered := executes_answered (executes_site polls)
  have within : Within ready.observed refreshed.state.cursors :=
    savedLeads.within.mono ((executes_observed checks).trans (executes_observed savesIn))
  obtain ⟨stateWithin, stateBehind⟩ := poll_advances ends answered (executes_shows polls)
    (executes_observed polls) within
  have recorded : (recordPoll { refreshed with
        checkpoint := { refreshed.checkpoint with lastWriteCompletedAt } } (result, state)).2.state = state ∧
      (recordPoll { refreshed with
        checkpoint := { refreshed.checkpoint with lastWriteCompletedAt } } (result, state)).2.checkpoint =
        { refreshed.checkpoint with lastWriteCompletedAt } ∧
      (recordPoll { refreshed with
        checkpoint := { refreshed.checkpoint with lastWriteCompletedAt } } (result, state)).2.processedState =
        refreshed.processedState := recordPoll_keeps
  obtain ⟨sameState, sameCheckpoint, sameProcessed⟩ := recorded
  constructor
  · rw [sameCheckpoint]
    exact savedLeads.identity
  · rw [sameState]
    exact poll_keeps_bounded ends answered savedLeads.bounded
  · rw [sameProcessed]
    exact savedLeads.processedBounded
  · rw [sameState]
    exact stateWithin.mono (executes_observed concludes)
  · rw [sameState, sameProcessed]
    exact savedLeads.processed.trans stateBehind
  · rw [sameProcessed]
    exact savedLeads.saved

end Turns

/-! ### From its start to its end -/

/-- The loop of a process, in any environment, begins once it has read the
genesis hash. -/
theorem consume_rounds_cases {World : Type} {environment : Program.Environment (@Call.Response Signature) World}
    {admits : Consumption Signature → List (CallEvent Signature) → Consumption Signature → Prop}
    {initial world : World} {control : Consumption Signature}
    (rounds : Program.Rounds environment (consume codec datasource addresses pages) admits
      .readingGenesisHash initial control world) :
    control = .readingGenesisHash ∨ ∃ waiting trace begun started loop,
      Program.Rounds environment (consume codec datasource addresses pages) admits
        .readingGenesisHash initial .readingGenesisHash waiting ∧
      Program.Run (readGenesisHash codec datasource addresses) trace (.inl (.polling begun)) ∧
      Program.Executes environment waiting trace started ∧ control = .polling loop ∧
      Program.Rounds environment (consume codec datasource addresses pages) admits
        (.polling begun) started (.polling loop) world := by
  induction rounds with
  | start => exact .inl rfl
  | @next control next earlierWorld world trace earlier run execution admitted ih =>
      rcases ih with rfl | ⟨waiting, startTrace, begun, started, loop, waited, starts, startsIn, rfl, rounds⟩
      · rcases readGenesisHash_cases run with ⟨genesisHash, rest, rfl, startsUp⟩ | ⟨rfl, _⟩
        · obtain ⟨_, _, _, state, _, _, _, rfl⟩ := startUp_cases startsUp
          exact .inr ⟨earlierWorld, _, _, world, _, earlier, run, execution, rfl, .start⟩
        · exact .inl rfl
      · obtain ⟨_, later, rfl, _⟩ := pollingTurn_completes run
        exact .inr ⟨waiting, startTrace, begun, started, later, waited, starts, startsIn, rfl,
          .next rounds run execution admitted⟩

/-- Nothing is in the pipeline, and the files are left alone. -/
structure Site.Untouched (first second : Site Signature) : Prop where
  alone : second.Alone
  sent : second.pipeline.sent = []
  shipped : second.shipped = []
  checkpoint : second.checkpoint = first.checkpoint
  replacements : second.replacements = first.replacements
  journal : second.journal = first.journal

section Start

variable {first before after : Site Signature} {watched final : Watched Signature}
  (streaming : surroundings.streaming = false)

include streaming in
theorem Site.Moves.untouched (moves : Site.Moves surroundings before after)
    (untouched : first.Untouched before) : first.Untouched after := by
  cases moves with
  | relay update streams =>
      rw [streaming] at streams
      contradiction
  | deliver relayed =>
      rw [untouched.alone.relayed] at relayed
      contradiction
  | register => exact { untouched with alone := ⟨untouched.alone.relayed, untouched.alone.deliveries⟩ }
  | dequeue => exact { untouched with alone := ⟨untouched.alone.relayed, untouched.alone.deliveries⟩ }
  | finish => exact { untouched with alone := ⟨untouched.alone.relayed, untouched.alone.deliveries⟩ }
  | ship busy =>
      have member := Pipeline.mem_of_inFlight busy
      rw [untouched.sent] at member
      contradiction

omit [SignatureText Signature] in
theorem untouched_boot {checkpoint : Option Bytes} {file : Option (List Char)} :
    (Site.boot checkpoint file : Site Signature).Untouched (.boot checkpoint file) :=
  ⟨⟨rfl, rfl⟩, rfl, rfl, rfl, rfl, rfl⟩

include streaming in
theorem drifts_untouched (drifts : (siteEnvironment surroundings).Drifts before after)
    (untouched : first.Untouched before) : first.Untouched after := by
  induction drifts with
  | refl => exact untouched
  | tail _ moves ih => exact Site.Moves.untouched streaming moves ih

theorem watched_starts {waiting started : Watched Signature} {begun : PollingLoop Signature}
    (waited : Program.Rounds (watchedEnvironment slotOf surroundings)
      (consume codec datasource addresses pages) (fun _ _ _ => True) .readingGenesisHash watched
      .readingGenesisHash waiting)
    (starts : Program.Run (readGenesisHash codec datasource addresses) trace (.inl (.polling begun)))
    (startsIn : Program.Executes (watchedEnvironment slotOf surroundings) waiting trace started) :
    Starts surroundings codec datasource addresses pages watched.site begun started.site :=
  ⟨waiting.site, trace, waited.map Watched.site fun _ _ _ => executes_site, starts, executes_site startsIn⟩

end Start

/-- The name of a target, as its journal carries it. -/
def NamesTarget.identity (names : NamesTarget surroundings datasource addresses) : Identity where
  text := surroundings.identity datasource addresses
  oneLine := identity_oneLine names

section Processes

variable (names : NamesTarget surroundings datasource addresses)
  (streaming : surroundings.streaming = false) (faultless : surroundings.faults = {noFaults})

include streaming faultless in
theorem drifts_retains {saved : Option (CheckpointSnapshot Signature)} {before after : Site Signature}
    {store : CheckpointStore} {identity : Identity} {window : Slot}
    (drifts : (siteEnvironment surroundings).Drifts before after)
    (retains : Retains slotOf store codec identity window saved before) :
    Retains slotOf store codec identity window saved after := by
  induction drifts with
  | refl => exact retains
  | tail _ moves ih => exact Site.Moves.retains streaming faultless moves ih

include streaming faultless in
/-- A process that finds no checkpoint begins with nothing to keep. -/
theorem Starts.retains {file : Option (List Char)} {begun : PollingLoop Signature} {started : Site Signature}
    {observed : Slot}
    (starts : Starts surroundings codec datasource addresses pages (.boot none file) begun started) :
    Leads (surroundings.store datasource addresses) none begun observed ∧
      Retains slotOf (surroundings.store datasource addresses) codec names.identity
        datasource.replayWindow.slots none started := by
  obtain ⟨ready, discarded, faults, admitted, drifts, rfl, later, rfl⟩ := starts.missing rfl
  rw [faultless] at admitted
  cases admitted
  have untouched := drifts_untouched streaming drifts untouched_boot
  have nothing : ∀ (address : Address) (cursor : AddressCursor),
      ({} : PollingState Signature).cursors[address]? ≠ some cursor := by simp
  have unlisted : ∀ (signature : Signature) (slot : Slot),
      ({} : PollingState Signature).recentSignatures[signature]? ≠ some slot := by simp
  have bounded : ({} : PollingState Signature).Bounded :=
    ⟨fun address cursor present => absurd present (nothing address cursor),
      fun signature slot present => absurd present (unlisted signature slot)⟩
  refine ⟨?_, drifts_retains streaming faultless later ?_⟩
  · exact {
      identity := rfl
      bounded
      processedBounded := bounded_snapshot bounded
      within := fun address cursor present => absurd present (nothing address cursor)
      processed := .refl
      saved := by simp }
  · exact {
      alone := ⟨untouched.alone.relayed, untouched.alone.deliveries⟩
      checkpoint := untouched.checkpoint
      unsaved := fun _ => untouched.replacements
      sound := by simp
      sent := by
        intro update member
        rw [show ready.pipeline.sent = [] from untouched.sent] at member
        contradiction
      journal := by
        refine ⟨[], Journal.Agrees.discard ready.journal, by simp, fun entry member => ?_⟩
        rw [show ready.shipped = [] from untouched.shipped] at member
        contradiction }

include streaming faultless in
/-- Wherever a process that found no checkpoint is killed, once it has saved
one the files keep what they have to. -/
theorem reaches_retains {file : Option (List Char)} {observed : Slot} {crashed : Watched Signature}
    {control : Task Signature (Consumption Signature ⊕ Stopped)}
    (reaches : Program.Reaches (watchedEnvironment slotOf surroundings)
      (consume codec datasource addresses pages) (fun _ _ _ => True) .readingGenesisHash
      ⟨.boot none file, observed⟩ control crashed) (written : crashed.site.replacements ≠ 0) :
    ∃ snapshot, Within crashed.observed snapshot.cursors ∧
      Retains slotOf (surroundings.store datasource addresses) codec names.identity
        datasource.replayWindow.slots (some snapshot) crashed.site := by
  obtain ⟨current, earlier, trace, rounds, reached, execution⟩ := reaches
  rcases consume_rounds_cases rounds with
    rfl | ⟨waiting, startTrace, begun, started, loop, waited, starts, startsIn, rfl, turns⟩
  · have siteRounds := rounds.map Watched.site fun _ _ _ => executes_site
    exact absurd (keeps_unwritten siteRounds reached (executes_site execution)) written
  obtain ⟨leads, retains⟩ : Leads (surroundings.store datasource addresses) none begun started.observed ∧
      Retains slotOf (surroundings.store datasource addresses) codec names.identity
        datasource.replayWindow.slots none started.site :=
    Starts.retains names streaming faultless (watched_starts waited starts startsIn)
  have kept : ∀ (current : Consumption Signature) (earlier : Watched Signature),
      Program.Rounds (watchedEnvironment slotOf surroundings) (consume codec datasource addresses pages)
        (fun _ _ _ => True) (.polling begun) started current earlier →
      ∃ (loop : PollingLoop Signature) (saved : Option (CheckpointSnapshot Signature)),
        current = .polling loop ∧
        Leads (surroundings.store datasource addresses) saved loop earlier.observed ∧
        Retains slotOf (surroundings.store datasource addresses) codec names.identity
          datasource.replayWindow.slots saved earlier.site := by
    intro current earlier turns
    induction turns with
    | start => exact ⟨begun, none, rfl, leads, retains⟩
    | next _ run execution _ ih =>
        obtain ⟨loop, saved, rfl, leads, retains⟩ := ih
        obtain ⟨_, next, rfl, _⟩ := pollingTurn_completes run
        obtain ⟨later, leads, retains⟩ := turn_leads streaming faultless leads run execution retains
        exact ⟨next, later, rfl, leads, retains⟩
  obtain ⟨_, saved, same, leads, retains⟩ := kept _ _ turns
  cases same
  obtain ⟨later, within, retains⟩ := turn_retains streaming faultless leads reached execution retains
  cases later with
  | none => exact absurd (retains.unsaved rfl) written
  | some snapshot => exact ⟨snapshot, within snapshot rfl, retains⟩

end Processes

end Microscope.Polling
