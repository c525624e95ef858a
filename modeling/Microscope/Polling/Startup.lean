import Microscope.Polling.Deployment
import Microscope.Polling.Durability

namespace Microscope.Polling

open Std Microscope.Data Microscope.Shipped

/-! # The start-up of a process

Until its loop begins, a process reads the genesis hash and the checkpoint
file, each until it succeeds, and then restores or discards the journal.
-/

variable {Signature : Type} [LinearOrder Signature] [SignatureText Signature]
  {surroundings : Surroundings} {codec : JsonCodec} {datasource : RpcPollingDatasource}
  {addresses : List Address} {pages : Nat} {before after waiting site : Site Signature}
  {loop : PollingLoop Signature} {trace : List (CallEvent Signature)}

/-- The loop of a process begins, after any number of attempts at the genesis
hash. -/
structure Starts (surroundings : Surroundings) (codec : JsonCodec)
    (datasource : RpcPollingDatasource) (addresses : List Address) (pages : Nat)
    (before : Site Signature) (loop : PollingLoop Signature) (after : Site Signature) : Prop where
  starts : ∃ waiting trace,
    Program.Rounds (siteEnvironment surroundings) (consume codec datasource addresses pages)
      (fun _ _ _ => True) .readingGenesisHash before .readingGenesisHash waiting ∧
    Program.Run (readGenesisHash codec datasource addresses) trace (.inl (.polling loop)) ∧
    Program.Executes (siteEnvironment surroundings) waiting trace after

/-! ## Commands that change nothing -/

/-- A command that leaves the site as it is. -/
def Call.Idle : Call Signature → Prop
  | .drainDelivered => False
  | .stopDelivered => False
  | .send _ => False
  | .installCheckpoint _ => False
  | .moveCorruptCheckpoint => False
  | .restoreShipped _ => False
  | .discardShipped _ => False
  | .compactShipped _ => False
  | _ => True

theorem Site.Answers.idle {call : Call Signature} {response : call.Response} (idle : call.Idle)
    (answers : before.Answers surroundings after call response) : after = before := by
  cases call with
  | rpc call =>
      cases call with
      | getGenesisHash =>
          cases response with
          | error error => exact answers
          | ok genesisHash => exact answers.2
      | _ => exact answers
  | readCheckpoint =>
      cases response with
      | error error => exact answers
      | ok content => exact answers.2
  | channelEmpty => exact answers.2
  | counter name => exact answers.2
  | now => exact answers
  | receivedCounterFirst => exact answers
  | countCorruptCheckpoints => exact answers
  | cancelled => exact answers
  | sleep delay => exact answers
  | awaitCancellation => exact answers
  | _ => exact idle.elim

/-- What every move keeps is kept while only idle commands are answered. -/
theorem keeps_idle {assertion : Site Signature → Prop}
    (moved : ∀ first second, Site.Moves surroundings first second → assertion first → assertion second)
    (idle : ∀ event ∈ trace, event.1.Idle)
    (execution : Program.Executes (siteEnvironment surroundings) before trace after)
    (holds : assertion before) : assertion after := by
  refine execution.keeps_events ?_ moved holds
  intro first event second member answers kept
  rw [answers.2.idle (idle event member)]
  exact kept

/-! ## Reading the genesis hash -/

theorem startUp_cases {genesisHash : String} {control : Consumption Signature}
    (run : Program.Run (startUp codec datasource addresses genesisHash) trace (.inl control)) :
    ∃ loading restoring loaded state, trace = loading ++ restoring ∧
      Program.Run (loadCheckpoint codec datasource (journalIdentity datasource addresses genesisHash)
        (datasource.checkpointStore datasource.checkpointPath genesisHash addresses)
        checkpointLoadAttempts) loading (.inl loaded) ∧
      Program.Run (restoreState (journalIdentity datasource addresses genesisHash) loaded) restoring
        state ∧
      control = .polling (beginPolling
        (datasource.checkpointStore datasource.checkpointPath genesisHash addresses) state) := by
  obtain ⟨loading, rest, result, rfl, loads, later⟩ := Program.run_bind_iff.mp run
  cases result with
  | inr stopped =>
      obtain ⟨_, impossible⟩ := Program.run_done_iff.mp later
      contradiction
  | inl loaded =>
      obtain ⟨restoring, last, state, rfl, restores, finished⟩ := Program.run_bind_iff.mp later
      obtain ⟨rfl, same⟩ := Program.run_done_iff.mp finished
      refine ⟨loading, restoring, loaded, state, by simp, loads, restores, ?_⟩
      exact Sum.inl.inj same

/-- An attempt at the genesis hash succeeds and starts up, or it waits. -/
theorem readGenesisHash_cases {control : Consumption Signature}
    (run : Program.Run (readGenesisHash codec datasource addresses) trace (.inl control)) :
    (∃ genesisHash rest, trace = ⟨.rpc .getGenesisHash, .ok genesisHash⟩ :: rest ∧
      Program.Run (startUp codec datasource addresses genesisHash) rest (.inl control)) ∨
    control = .readingGenesisHash ∧ ∀ event ∈ trace, event.1.Idle := by
  obtain ⟨response, rest, rfl, afterRead⟩ := Program.run_call_iff.mp run
  cases response with
  | ok genesisHash => exact .inl ⟨genesisHash, rest, rfl, afterRead⟩
  | error error =>
      obtain ⟨cancelled, last, rfl, afterSleep⟩ := Program.run_call_iff.mp afterRead
      cases cancelled with
      | true =>
          obtain ⟨_, impossible⟩ := Program.run_done_iff.mp afterSleep
          contradiction
      | false =>
          obtain ⟨rfl, same⟩ := Program.run_done_iff.mp afterSleep
          exact .inr ⟨Sum.inl.inj same, by simp [Call.Idle]⟩

/-! ## Complete turns -/

/-- What a turn that goes on with the loop has done, and how its poll ended. -/
structure Completes (codec : JsonCodec) (datasource : RpcPollingDatasource) (addresses : List Address)
    (loop : PollingLoop Signature) (trace : List (CallEvent Signature))
    (result : Except (PollError Signature) PollOutcome) (next : PollingLoop Signature) : Prop where
  parts : ∃ checked saving polled concluding refreshed saved pages state,
    trace = checked ++ (saving ++ (polled ++ concluding)) ∧ Refreshes loop checked refreshed ∧
    Program.Run (saveCheckpoint codec datasource refreshed) saving saved ∧
    Action.Ends (poll pages datasource addresses) saved.state polled result state ∧
    next = (recordPoll saved (result, state)).2 ∧ ∀ event ∈ concluding, event.1.Idle

omit [SignatureText Signature] in
theorem concludePoll_goesOn {started : Instant} {disabled : Bool} {control : Consumption Signature}
    (run : Program.Run (concludePoll datasource started disabled loop) trace (.inl control)) :
    control = .polling loop ∧ ∀ event ∈ trace, event.1.Idle := by
  cases disabled with
  | true =>
      obtain ⟨_, _, _, _, _, finished⟩ := Program.run_bind_iff.mp run
      obtain ⟨_, impossible⟩ := Program.run_done_iff.mp finished
      contradiction
  | false =>
      obtain ⟨finished, rest, rfl, afterClock⟩ := Program.run_call_iff.mp run
      obtain ⟨cancelled, last, rfl, afterSleep⟩ := Program.run_call_iff.mp afterClock
      cases cancelled with
      | true =>
          obtain ⟨_, impossible⟩ := Program.run_done_iff.mp afterSleep
          contradiction
      | false =>
          obtain ⟨rfl, same⟩ := Program.run_done_iff.mp afterSleep
          exact ⟨Sum.inl.inj same, by simp [Call.Idle]⟩

/-- A turn that goes on with a loop has polled. -/
theorem pollingTurn_completes {control : Consumption Signature}
    (run : Program.Run (pollingTurn codec datasource addresses pages loop) trace (.inl control)) :
    ∃ result next, control = .polling next ∧
      Completes codec datasource addresses loop trace result next := by
  rcases pollingTurn_cases run with ⟨_, _, unfinished⟩ |
    ⟨started, checked, tail, refreshed, rfl, refreshes, reached⟩
  · exact absurd rfl (unfinished control)
  have polls : ∃ saving polling saved, tail = saving ++ polling ∧
      Program.Run (saveCheckpoint codec datasource refreshed) saving saved ∧
      Program.Run (pollAndConclude datasource addresses pages started saved) polling (.inl control) := by
    rcases reached with ⟨middle, advanced, remains⟩ | ⟨saving, polling, saved, rfl, saves, polls⟩
    · cases middle with
      | call command next => simp at remains
      | done saved =>
          rw [Program.done_bind] at remains
          exact ⟨tail, [], saved, by simp, advanced, by rw [← remains]; exact .start _⟩
    · exact ⟨saving, polling, saved, rfl, saves, polls⟩
  obtain ⟨saving, polling, saved, rfl, saves, polls⟩ := polls
  obtain ⟨polled, concluding, ⟨result, state⟩, rfl, ends, concludes⟩ := Program.run_bind_iff.mp polls
  obtain ⟨rfl, idle⟩ := concludePoll_goesOn concludes
  exact ⟨result, _, rfl, ⟨checked, saving, polled, concluding, refreshed, saved, pages, state, rfl,
    refreshes, saves, ends, rfl, idle⟩⟩

/-- Saving changes when the last write was completed, and nothing else of the
loop. -/
theorem saveCheckpoint_keeps {saved : PollingLoop Signature}
    (run : Program.Run (saveCheckpoint codec datasource loop) trace saved) :
    ∃ lastWriteCompletedAt,
      saved = { loop with checkpoint := { loop.checkpoint with lastWriteCompletedAt } } := by
  obtain ⟨first, rest, ⟨written, checkpoint⟩, rfl, saving, finishing⟩ := Program.run_bind_iff.mp run
  have kept : ∃ lastWriteCompletedAt,
      checkpoint = { loop.checkpoint with lastWriteCompletedAt } := by
    unfold CheckpointStore.saveIfDue at saving
    split at saving
    · obtain ⟨_, same⟩ := Program.run_done_iff.mp saving
      exact ⟨_, (Prod.mk.inj same).2⟩
    · obtain ⟨_, _, due, _, _, afterDue⟩ := Program.run_bind_iff.mp saving
      cases due with
      | false =>
          obtain ⟨_, same⟩ := Program.run_done_iff.mp afterDue
          exact ⟨_, (Prod.mk.inj same).2⟩
      | true =>
          obtain ⟨installed, _, _, afterInstall⟩ := Program.run_call_iff.mp afterDue
          cases installed with
          | error error =>
              obtain ⟨_, same⟩ := Program.run_done_iff.mp afterInstall
              exact ⟨_, (Prod.mk.inj same).2⟩
          | ok _ =>
              obtain ⟨savedAt, _, _, afterClock⟩ := Program.run_call_iff.mp afterInstall
              obtain ⟨_, same⟩ := Program.run_done_iff.mp afterClock
              exact ⟨_, (Prod.mk.inj same).2⟩
  obtain ⟨lastWriteCompletedAt, rfl⟩ := kept
  dsimp only at finishing
  split at finishing
  · obtain ⟨_, _, _, finished⟩ := Program.run_call_iff.mp finishing
    exact ⟨lastWriteCompletedAt, (Program.run_done_iff.mp finished).2⟩
  · exact ⟨lastWriteCompletedAt, (Program.run_done_iff.mp finishing).2⟩

omit [SignatureText Signature] in
/-- The end of a poll leaves the checkpoint store and the snapshot alone. -/
theorem recordPoll_keeps {result : Except (PollError Signature) PollOutcome}
    {state : PollingState Signature} :
    (recordPoll loop (result, state)).2.state = state ∧
      (recordPoll loop (result, state)).2.checkpoint = loop.checkpoint ∧
      (recordPoll loop (result, state)).2.processedState = loop.processedState := by
  cases result with
  | ok outcome => exact ⟨rfl, rfl, rfl⟩
  | error failure => cases failure <;> exact ⟨rfl, rfl, rfl⟩

theorem executes_answered
    (execution : Program.Executes (siteEnvironment surroundings) before trace after) :
    Program.Allowed Call.Answered trace := by
  intro event member
  obtain ⟨_, _, _, _, _, _, answer, _⟩ := execution.at_event member
  exact answer.1

/-! ## Turns that are cut short -/

theorem Call.Transient.saves {store : CheckpointStore} {snapshot : CheckpointSnapshot Signature}
    {call : Call Signature} (transient : call.Transient) : call.Saves store codec snapshot := by
  cases call <;> first | exact transient | exact transient.elim

/-- However far a turn has come, it has checked whether the pipeline has
drained before it issued any command that concerns the two files. -/
theorem pollingTurn_saves {control : Task Signature (Consumption Signature ⊕ Stopped)}
    (reached : Program.Advances (pollingTurn codec datasource addresses pages loop) trace control) :
    (∀ event ∈ trace, event.1.Transient) ∨ ∃ checked tail refreshed, trace = checked ++ tail ∧
      Refreshes loop checked refreshed ∧
      ∀ event ∈ tail, event.1.Saves refreshed.checkpoint codec refreshed.processedState := by
  rcases pollingTurn_cases reached with ⟨transient, _, _⟩ |
    ⟨started, checked, tail, refreshed, rfl, refreshes, later⟩
  · exact .inl transient
  refine .inr ⟨checked, tail, refreshed, rfl, refreshes, ?_⟩
  rcases later with ⟨middle, advanced, _⟩ | ⟨saving, polling, saved, rfl, saves, polls⟩
  · exact (saveCheckpoint_saves.advances advanced (by simp [Program.Allowed])).1
  · intro event member
    rcases List.mem_append.mp member with member | member
    · exact (saveCheckpoint_saves.advances saves (by simp [Program.Allowed])).1 event member
    · exact ((pollAndConclude_transient.advances polls (by simp [Program.Allowed])).1 event member).saves

/-- A saving command leaves the file as it is, or replaces it by the snapshot. -/
theorem Site.Answers.saves {store : CheckpointStore} {snapshot : CheckpointSnapshot Signature}
    {call : Call Signature} {response : call.Response} (saves : call.Saves store codec snapshot)
    (answers : before.Answers surroundings after call response) :
    after.checkpoint = before.checkpoint ∧ after.replacements = before.replacements ∨
      snapshot.cursors.keys = store.identity.addresses ∧
        after = before.install (store.encode codec snapshot) := by
  by_cases transient : call.Transient
  · have same := answers.sameFiles transient
    exact .inl ⟨same.checkpoint, same.replacements⟩
  · cases call with
    | installCheckpoint encoded =>
        obtain ⟨complete, rfl⟩ := saves
        cases response with
        | error error =>
            rcases answers with rfl | rfl
            · exact .inl ⟨rfl, rfl⟩
            · exact .inr ⟨complete, rfl⟩
        | ok _ => exact .inr ⟨complete, answers⟩
    | compactShipped minimumSlot =>
        obtain ⟨_, _, rfl⟩ := answers
        exact .inl ⟨rfl, rfl⟩
    | _ => first | exact absurd trivial transient | exact saves.elim

/-! ## Waiting -/

/-- Until the genesis hash has been read, only the other parties move. -/
theorem keeps_waiting {assertion : Site Signature → Prop}
    (moved : ∀ first second, Site.Moves surroundings first second → assertion first → assertion second)
    (rounds : Program.Rounds (siteEnvironment surroundings) (consume codec datasource addresses pages)
      (fun _ _ _ => True) .readingGenesisHash before .readingGenesisHash waiting)
    (holds : assertion before) : assertion waiting := by
  have waits : ∀ control site, Program.Rounds (siteEnvironment surroundings)
      (consume codec datasource addresses pages) (fun _ _ _ => True) .readingGenesisHash before
      control site → control = .readingGenesisHash → assertion site := by
    intro control site rounds
    induction rounds with
    | start => exact fun _ => holds
    | @next control next earlierSite site trace earlier run execution _ ih =>
        intro same
        subst same
        cases control with
        | polling loop =>
            obtain ⟨_, _, impossible, _⟩ := pollingTurn_completes run
            contradiction
        | readingGenesisHash =>
            rcases readGenesisHash_cases run with ⟨genesisHash, rest, _, starts⟩ | ⟨_, idle⟩
            · obtain ⟨_, _, _, _, _, _, _, impossible⟩ := startUp_cases starts
              contradiction
            · exact keeps_idle moved idle execution (ih rfl)
  exact waits _ _ rounds rfl

/-! ## Loading -/

/-- The relay and Carbon leave the checkpoint file alone. -/
theorem Site.Moves.checkpoint (moves : Site.Moves surroundings before after) :
    after.checkpoint = before.checkpoint := by
  cases moves <;> rfl

theorem keeps_checkpoint (idle : ∀ event ∈ trace, event.1.Idle)
    (execution : Program.Executes (siteEnvironment surroundings) before trace after) :
    after.checkpoint = before.checkpoint := by
  have kept : ∀ first second : Site Signature, Site.Moves surroundings first second →
      first.checkpoint = before.checkpoint → second.checkpoint = before.checkpoint :=
    fun _ _ moves same => moves.checkpoint.trans same
  exact keeps_idle kept idle execution rfl

/-- A file that holds a valid checkpoint or none is read as that, or cannot be
read. -/
theorem load_found {store : CheckpointStore} {outcome : CheckpointLoadOutcome Signature}
    {result : Except CheckpointLoadError (CheckpointLoadOutcome Signature)}
    (found : LoadsFrom store codec before.checkpoint outcome)
    (run : Program.Run (store.load pollingFile codec) trace result)
    (execution : Program.Executes (siteEnvironment surroundings) before trace after) :
    (result = .ok outcome ∨ ∃ error, result = .error (.io error)) ∧
      ∀ event ∈ trace, event.1.Idle := by
  obtain ⟨response, rest, rfl, afterRead⟩ := Program.run_call_iff.mp run
  cases execution with
  | @step _ ready answered _ _ _ _ drift answer later =>
  cases response with
  | error error =>
      obtain ⟨rfl, rfl⟩ := Program.run_done_iff.mp afterRead
      exact ⟨.inr ⟨error, rfl⟩, by simp [Call.Idle]⟩
  | ok content =>
      have unmoved : ready.checkpoint = before.checkpoint :=
        keeps_checkpoint (by simp) (.idle drift)
      have same : content = before.checkpoint := answer.2.1.trans unmoved
      rw [← same] at found
      cases content with
      | none =>
          obtain ⟨rfl, rfl⟩ := Program.run_done_iff.mp afterRead
          exact ⟨.inl (congrArg _ (show outcome = .missing from found).symm), by simp [Call.Idle]⟩
      | some raw =>
          obtain ⟨snapshot, rfl, interpreted⟩ := found
          have loads : rest = [] ∧ result = .ok (.loaded snapshot) := by
            refine Program.run_done_iff.mp ?_
            simpa [Program.bind, interpreted] using afterRead
          obtain ⟨rfl, rfl⟩ := loads
          exact ⟨.inl rfl, by simp [Call.Idle]⟩

/-- Then a start-up that gets past the load has loaded just that, and has
changed nothing. -/
theorem loadCheckpoint_found {store : CheckpointStore} {identity : String} {attempts : Nat}
    {outcome loaded : CheckpointLoadOutcome Signature}
    (found : LoadsFrom store codec before.checkpoint outcome)
    (run : Program.Run (loadCheckpoint codec datasource identity store attempts) trace (.inl loaded))
    (execution : Program.Executes (siteEnvironment surroundings) before trace after) :
    loaded = outcome ∧ ∀ event ∈ trace, event.1.Idle := by
  induction attempts generalizing before trace with
  | zero =>
      obtain ⟨_, impossible⟩ := Program.run_done_iff.mp run
      contradiction
  | succ attempts ih =>
      obtain ⟨loading, rest, result, rfl, loads, afterLoad⟩ := Program.run_bind_iff.mp run
      obtain ⟨middle, first, second⟩ := execution.split
      obtain ⟨rfl | ⟨error, rfl⟩, idle⟩ := load_found found loads first
      · obtain ⟨rfl, same⟩ := Program.run_done_iff.mp afterLoad
        exact ⟨Sum.inl.inj same, by simpa using idle⟩
      · dsimp only at afterLoad
        split at afterLoad
        · obtain ⟨_, _, _, _, _, finished⟩ := Program.run_bind_iff.mp afterLoad
          obtain ⟨_, impossible⟩ := Program.run_done_iff.mp finished
          contradiction
        · obtain ⟨cancelled, last, rfl, afterSleep⟩ := Program.run_call_iff.mp afterLoad
          cases cancelled with
          | true =>
              obtain ⟨_, impossible⟩ := Program.run_done_iff.mp afterSleep
              contradiction
          | false =>
              have unmoved := keeps_checkpoint idle first
              have retried : Program.Executes (siteEnvironment surroundings) middle
                  (⟨.sleep datasource.pollInterval, false⟩ :: last) after := second
              cases retried with
              | @step _ ready answered _ _ _ _ drift answer later =>
                  have sleeps : (Call.sleep datasource.pollInterval : Call Signature).Idle := trivial
                  have slept : answered.checkpoint = before.checkpoint := by
                    rw [answer.2.idle sleeps, keeps_checkpoint (by simp) (.idle drift), unmoved]
                  obtain ⟨same, idleRest⟩ := ih (slept ▸ found) afterSleep later
                  refine ⟨same, fun event member => ?_⟩
                  rcases List.mem_append.mp member with member | member
                  · exact idle event member
                  · rcases List.mem_cons.mp member with rfl | member
                    · exact trivial
                    · exact idleRest event member

/-! ## From the start-up to the loop -/

theorem Starts.begins
    (starts : Starts surroundings codec datasource addresses pages before loop after) :
    ∃ genesisHash state, loop = beginPolling
      (datasource.checkpointStore datasource.checkpointPath genesisHash addresses) state := by
  obtain ⟨_, _, _, run, _⟩ := starts.starts
  rcases readGenesisHash_cases run with ⟨genesisHash, _, _, startsUp⟩ | ⟨impossible, _⟩
  · obtain ⟨_, _, _, state, _, _, _, same⟩ := startUp_cases startsUp
    cases same
    exact ⟨genesisHash, state, rfl⟩
  · contradiction

/-- A process that has gone through complete rounds is waiting for the genesis
hash, or has started up. -/
theorem rounds_cases {control : Consumption Signature}
    {admits : Consumption Signature → List (CallEvent Signature) → Consumption Signature → Prop}
    (rounds : Program.Rounds (siteEnvironment surroundings) (consume codec datasource addresses pages)
      admits .readingGenesisHash before control after) :
    control = .readingGenesisHash ∨ ∃ begun started loop,
      Starts surroundings codec datasource addresses pages before begun started ∧
      control = .polling loop ∧
      Program.Rounds (siteEnvironment surroundings) (consume codec datasource addresses pages)
        admits (.polling begun) started (.polling loop) after := by
  induction rounds with
  | start => exact .inl rfl
  | @next control next earlierSite site trace earlier run execution admitted ih =>
      rcases ih with rfl | ⟨begun, started, loop, starts, rfl, rounds⟩
      · rcases readGenesisHash_cases run with ⟨genesisHash, rest, rfl, startsUp⟩ | ⟨rfl, _⟩
        · obtain ⟨_, _, _, state, _, _, _, rfl⟩ := startUp_cases startsUp
          have waited := earlier.mono fun _ _ _ _ => trivial
          exact .inr ⟨_, site, _, ⟨earlierSite, _, waited, run, execution⟩, rfl, .start⟩
        · exact .inl rfl
      · obtain ⟨_, later, rfl, _⟩ := pollingTurn_completes run
        exact .inr ⟨begun, started, later, starts, rfl, .next rounds run execution admitted⟩

/-- A command that a start-up issues while it waits or reads. -/
def Call.Standby : Call Signature → Prop
  | .rpc .getGenesisHash => True
  | .readCheckpoint => True
  | .sleep _ => True
  | .awaitCancellation => True
  | _ => False

omit [LinearOrder Signature] [SignatureText Signature] in
theorem Call.Standby.idle {call : Call Signature} (standby : call.Standby) : call.Idle := by
  cases call <;> first | exact trivial | exact standby.elim

/-- What a start-up issues.  It moves the file aside when its content is
corrupt. -/
theorem readGenesisHash_issues
    {allowed : (call : Call Signature) → call.Response → Prop} {permitted : Call Signature → Prop}
    (standby : ∀ call : Call Signature, call.Standby → permitted call) (stops : permitted .stopDelivered)
    (restores : ∀ genesisHash, allowed (.rpc .getGenesisHash) (.ok genesisHash) →
      permitted (.restoreShipped (journalIdentity datasource addresses genesisHash)))
    (discards : ∀ genesisHash, allowed (.rpc .getGenesisHash) (.ok genesisHash) →
      permitted (.discardShipped (journalIdentity datasource addresses genesisHash)))
    (moves : ∀ genesisHash raw reason, allowed (.rpc .getGenesisHash) (.ok genesisHash) →
      allowed .readCheckpoint (.ok (some raw)) →
      ((datasource.checkpointStore datasource.checkpointPath genesisHash addresses).interpret codec raw :
        Except _ (CheckpointReading Signature)) = .ok (.corrupt reason) →
      permitted .moveCorruptCheckpoint) :
    Program.Obeys allowed permitted
      (readGenesisHash codec datasource addresses :
        Task Signature (Consumption Signature ⊕ Stopped)) := by
  have disabled : Program.Obeys allowed permitted
      (waitWithRecoveryDisabled datasource : Task Signature Stopped) := by
    have awaits : permitted .awaitCancellation := standby _ trivial
    unfold waitWithRecoveryDisabled
    split <;> simp [Program.Obeys, stops, awaits]
  refine ⟨standby _ trivial, fun response read => ?_⟩
  cases response with
  | error error =>
      refine ⟨standby _ trivial, fun cancelled _ => ?_⟩
      cases cancelled <;> exact trivial
  | ok genesisHash =>
      let store := datasource.checkpointStore datasource.checkpointPath genesisHash addresses
      have load : Program.Obeys allowed permitted (store.load pollingFile codec :
          Task Signature (Except CheckpointLoadError (CheckpointLoadOutcome Signature))) := by
        refine ⟨standby _ trivial, fun response found => ?_⟩
        cases response with
        | error error => exact trivial
        | ok content =>
            cases content with
            | none => exact trivial
            | some raw =>
                cases interpreted : (store.interpret codec raw : Except _ (CheckpointReading Signature)) with
                | error mismatch => simp [Program.bind, interpreted, Program.Obeys]
                | ok reading =>
                    cases reading with
                    | loaded snapshot => simp [Program.bind, interpreted, Program.Obeys]
                    | corrupt reason =>
                        simp only [Program.bind, interpreted]
                        refine ⟨moves genesisHash raw reason read found interpreted, fun moved _ => ?_⟩
                        cases moved <;> exact trivial
      have loads : ∀ attempts, Program.Obeys allowed permitted
          (loadCheckpoint codec datasource (journalIdentity datasource addresses genesisHash) store
            attempts : Task Signature (CheckpointLoadOutcome Signature ⊕ Stopped)) := by
        intro attempts
        induction attempts with
        | zero => exact trivial
        | succ attempts ih =>
            refine load.bind fun _ result _ _ => ?_
            cases result with
            | ok loaded => exact trivial
            | error failure =>
                cases failure with
                | mismatch error =>
                    exact ⟨discards genesisHash read, fun _ _ => disabled.bind fun _ _ _ _ => trivial⟩
                | io error =>
                    dsimp only
                    split
                    · exact disabled.bind fun _ _ _ _ => trivial
                    · refine ⟨standby _ trivial, fun cancelled _ => ?_⟩
                      cases cancelled with
                      | true => exact trivial
                      | false => exact ih
      refine (loads _).bind fun _ result _ _ => ?_
      cases result with
      | inr stopped => exact trivial
      | inl loaded =>
          cases loaded with
          | loaded snapshot => exact ⟨restores genesisHash read, fun _ _ => trivial⟩
          | _ => exact ⟨discards genesisHash read, fun _ _ => trivial⟩

theorem readGenesisHash_obeys
    {allowed : (call : Call Signature) → call.Response → Prop} {permitted : Call Signature → Prop}
    (idle : ∀ call : Call Signature, call.Idle → permitted call) (stops : permitted .stopDelivered)
    (restores : ∀ genesisHash, allowed (.rpc .getGenesisHash) (.ok genesisHash) →
      permitted (.restoreShipped (journalIdentity datasource addresses genesisHash)))
    (discards : ∀ genesisHash, allowed (.rpc .getGenesisHash) (.ok genesisHash) →
      permitted (.discardShipped (journalIdentity datasource addresses genesisHash)))
    (moves : ∀ genesisHash raw reason, allowed (.rpc .getGenesisHash) (.ok genesisHash) →
      allowed .readCheckpoint (.ok (some raw)) →
      ((datasource.checkpointStore datasource.checkpointPath genesisHash addresses).interpret codec raw :
        Except _ (CheckpointReading Signature)) = .ok (.corrupt reason) →
      permitted .moveCorruptCheckpoint) :
    Program.Obeys allowed permitted
      (readGenesisHash codec datasource addresses :
        Task Signature (Consumption Signature ⊕ Stopped)) :=
  readGenesisHash_issues (fun call standby => idle call standby.idle) stops restores discards moves

/-- A command that does not write the checkpoint file. -/
def Call.Unwriting : Call Signature → Prop
  | .installCheckpoint _ => False
  | _ => True

omit [LinearOrder Signature] [SignatureText Signature] in
theorem Call.Idle.unwriting {call : Call Signature} (idle : call.Idle) : call.Unwriting := by
  cases call <;> first | exact trivial | exact idle.elim

/-- A start-up writes no checkpoint. -/
theorem readGenesisHash_unwriting : Program.Obeys (fun _ _ => True) Call.Unwriting
    (readGenesisHash codec datasource addresses :
      Task Signature (Consumption Signature ⊕ Stopped)) :=
  readGenesisHash_obeys (fun _ => Call.Idle.unwriting) trivial (fun _ _ => trivial)
    (fun _ _ => trivial) fun _ _ _ _ _ _ => trivial

theorem Site.Answers.unwriting {call : Call Signature} {response : call.Response}
    (unwriting : call.Unwriting) (answers : before.Answers surroundings after call response) :
    after.replacements = before.replacements := by
  by_cases transient : call.Transient
  · exact (answers.sameFiles transient).replacements
  · cases call with
    | readCheckpoint =>
        have idle : (Call.readCheckpoint : Call Signature).Idle := trivial
        rw [answers.idle idle]
    | moveCorruptCheckpoint =>
        cases response with
        | error error => rcases answers with rfl | rfl <;> rfl
        | ok _ =>
            obtain rfl := answers
            rfl
    | restoreShipped identity =>
        obtain ⟨_, _, _, rfl⟩ := answers
        rfl
    | discardShipped identity =>
        obtain ⟨_, _, rfl⟩ := answers
        rfl
    | compactShipped minimumSlot =>
        obtain ⟨_, _, rfl⟩ := answers
        rfl
    | installCheckpoint encoded => exact unwriting.elim
    | _ => exact absurd trivial transient

theorem Site.Moves.replacements (moves : Site.Moves surroundings before after) :
    after.replacements = before.replacements := by
  cases moves <;> rfl

/-- As long as a process starts up, the file is not replaced. -/
theorem keeps_unwritten {control : Task Signature (Consumption Signature ⊕ Stopped)}
    (rounds : Program.Rounds (siteEnvironment surroundings) (consume codec datasource addresses pages)
      (fun _ _ _ => True) .readingGenesisHash before .readingGenesisHash waiting)
    (reached : Program.Advances (readGenesisHash codec datasource addresses) trace control)
    (execution : Program.Executes (siteEnvironment surroundings) waiting trace after) :
    after.replacements = before.replacements := by
  have moved : ∀ first second : Site Signature, Site.Moves surroundings first second →
      first.replacements = before.replacements → second.replacements = before.replacements :=
    fun _ _ moves same => moves.replacements.trans same
  have unwriting : ∀ event ∈ trace, event.1.Unwriting :=
    (readGenesisHash_unwriting.advances reached (by simp [Program.Allowed])).1
  have answered : ∀ first event second, event ∈ trace →
      (siteEnvironment surroundings).answers first event.1 event.2 second →
      first.replacements = before.replacements → second.replacements = before.replacements :=
    fun _ event _ member answer same => (answer.2.unwriting (unwriting event member)).trans same
  have waited := keeps_waiting moved rounds rfl
  have kept := execution.keeps_events answered moved waited
  exact kept

/-! ## What a start-up restores -/

/-- The checkpoint store of a process in these surroundings. -/
def Surroundings.store (surroundings : Surroundings) (datasource : RpcPollingDatasource)
    (addresses : List Address) : CheckpointStore :=
  datasource.checkpointStore datasource.checkpointPath surroundings.genesisHash addresses

/-- The name a process in these surroundings gives its journal. -/
def Surroundings.identity (surroundings : Surroundings) (datasource : RpcPollingDatasource)
    (addresses : List Address) : String :=
  journalIdentity datasource addresses surroundings.genesisHash

/-- Only the other parties have moved when a start-up acts on what it loaded. -/
theorem Starts.found {outcome : CheckpointLoadOutcome Signature}
    (starts : Starts surroundings codec datasource addresses pages before loop after)
    (found : LoadsFrom (surroundings.store datasource addresses) codec before.checkpoint outcome) :
    ∃ ready restoring state, (siteEnvironment surroundings).Drifts before ready ∧
      Program.Run (restoreState (surroundings.identity datasource addresses) outcome) restoring state ∧
      Program.Executes (siteEnvironment surroundings) ready restoring after ∧
      loop = beginPolling (surroundings.store datasource addresses) state := by
  obtain ⟨waiting, trace, rounds, run, execution⟩ := starts.starts
  have drifts : ∀ first second, Site.Moves surroundings first second →
      (siteEnvironment surroundings).Drifts before first →
      (siteEnvironment surroundings).Drifts before second := fun _ _ moves earlier => earlier.tail moves
  have waited : (siteEnvironment surroundings).Drifts before waiting :=
    keeps_waiting drifts rounds .refl
  rcases readGenesisHash_cases run with ⟨genesisHash, rest, rfl, startsUp⟩ | ⟨impossible, _⟩
  · cases execution with
    | @step _ _ answered _ _ _ _ drift answer later =>
        obtain ⟨rfl, rfl⟩ := answer.2
        obtain ⟨loading, restoring, loaded, state, rfl, loads, restores, same⟩ := startUp_cases startsUp
        cases same
        obtain ⟨ready, loadsIn, restoresIn⟩ := later.split
        have earlier := waited.trans drift
        have unmoved : answered.checkpoint = before.checkpoint :=
          keeps_checkpoint (by simp) (.idle earlier)
        rw [← unmoved] at found
        obtain ⟨rfl, idle⟩ := loadCheckpoint_found found loads loadsIn
        exact ⟨ready, restoring, state, keeps_idle drifts idle loadsIn earlier, restores, restoresIn, rfl⟩
  · contradiction

/-- Without a checkpoint the journal is discarded and the state is empty. -/
theorem Starts.missing
    (starts : Starts surroundings codec datasource addresses pages before loop after)
    (missing : before.checkpoint = none) :
    ∃ ready discarded, ∃ faults ∈ surroundings.faults, (siteEnvironment surroundings).Drifts before ready ∧
      discarded = { ready with
        journal := ready.journal.discard faults (surroundings.identity datasource addresses) } ∧
      (siteEnvironment surroundings).Drifts discarded after ∧
      loop = beginPolling (surroundings.store datasource addresses) {} := by
  have found : LoadsFrom (surroundings.store datasource addresses) codec before.checkpoint
      (.missing : CheckpointLoadOutcome Signature) := by
    rw [missing]
    rfl
  obtain ⟨ready, restoring, state, drifts, restores, execution, rfl⟩ := starts.found found
  obtain ⟨_, rest, rfl, finished⟩ := Program.run_call_iff.mp restores
  obtain ⟨rfl, rfl⟩ := Program.run_done_iff.mp finished
  cases execution with
  | step drift answer idle =>
      obtain ⟨faults, admitted, rfl⟩ := answer.2
      cases idle with
      | idle later => exact ⟨_, _, faults, admitted, drifts.trans drift, rfl, later, rfl⟩

/-- A valid checkpoint is resumed together with the journal. -/
theorem Starts.loaded {snapshot : CheckpointSnapshot Signature}
    (starts : Starts surroundings codec datasource addresses pages before loop after)
    (found : LoadsFrom (surroundings.store datasource addresses) codec before.checkpoint
      (.loaded snapshot)) :
    ∃ ready entries restored, ∃ faults ∈ surroundings.faults,
      (siteEnvironment surroundings).Drifts before ready ∧
      ready.journal.restore faults (surroundings.identity datasource addresses) = (entries, restored) ∧
      (siteEnvironment surroundings).Drifts { ready with journal := restored } after ∧
      loop = beginPolling (surroundings.store datasource addresses)
        (snapshot.resume.recordRecentSignatures entries) := by
  obtain ⟨ready, restoring, state, drifts, restores, execution, rfl⟩ := starts.found found
  obtain ⟨entries, rest, rfl, finished⟩ := Program.run_call_iff.mp restores
  obtain ⟨rfl, rfl⟩ := Program.run_done_iff.mp finished
  cases execution with
  | step drift answer idle =>
      obtain ⟨faults, admitted, rfl, rfl⟩ := answer.2
      cases idle with
      | idle later => exact ⟨_, _, _, faults, admitted, drifts.trans drift, rfl, later, rfl⟩

/-! ## Files that are not corrupt -/

/-- A command that neither writes the checkpoint file nor moves it. -/
def Call.Preserving : Call Signature → Prop
  | .installCheckpoint _ => False
  | .moveCorruptCheckpoint => False
  | _ => True

theorem Site.Answers.preserving {call : Call Signature} {response : call.Response}
    (preserving : call.Preserving) (answers : before.Answers surroundings after call response) :
    after.checkpoint = before.checkpoint := by
  by_cases transient : call.Transient
  · exact (answers.sameFiles transient).checkpoint
  · cases call with
    | readCheckpoint =>
        have idle : (Call.readCheckpoint : Call Signature).Idle := trivial
        rw [answers.idle idle]
    | restoreShipped identity =>
        obtain ⟨_, _, _, rfl⟩ := answers
        rfl
    | discardShipped identity =>
        obtain ⟨_, _, rfl⟩ := answers
        rfl
    | compactShipped minimumSlot =>
        obtain ⟨_, _, rfl⟩ := answers
        rfl
    | installCheckpoint encoded => exact preserving.elim
    | moveCorruptCheckpoint => exact preserving.elim
    | _ => exact absurd trivial transient

/-- What a process is answered as long as the file has this content. -/
def Surroundings.Finds (surroundings : Surroundings) (raw : Bytes) :
    (call : Call Signature) → call.Response → Prop
  | .rpc .getGenesisHash, .ok genesisHash => genesisHash = surroundings.genesisHash
  | .readCheckpoint, .ok content => content = some raw
  | _, _ => True

theorem Site.Answers.finds {raw : Bytes} {call : Call Signature} {response : call.Response}
    (answers : before.Answers surroundings after call response) (content : before.checkpoint = some raw) :
    surroundings.Finds raw call response := by
  cases call with
  | rpc call =>
      cases call with
      | getGenesisHash =>
          cases response with
          | error error => trivial
          | ok genesisHash => exact answers.1
      | _ => trivial
  | readCheckpoint =>
      cases response with
      | error error => trivial
      | ok found => exact answers.1.trans content
  | _ => trivial

/-- However far a start-up has come, a file that is not corrupt is still
there. -/
theorem keeps_file {raw : Bytes} {control : Task Signature (Consumption Signature ⊕ Stopped)}
    (sound : ∀ reason, ((surroundings.store datasource addresses).interpret codec raw :
      Except _ (CheckpointReading Signature)) ≠ .ok (.corrupt reason))
    (rounds : Program.Rounds (siteEnvironment surroundings) (consume codec datasource addresses pages)
      (fun _ _ _ => True) .readingGenesisHash before .readingGenesisHash waiting)
    (reached : Program.Advances (readGenesisHash codec datasource addresses) trace control)
    (execution : Program.Executes (siteEnvironment surroundings) waiting trace after)
    (content : before.checkpoint = some raw) :
    Program.Allowed (surroundings.Finds raw) trace ∧ after.checkpoint = some raw := by
  have moved : ∀ first second : Site Signature, Site.Moves surroundings first second →
      first.checkpoint = some raw → second.checkpoint = some raw :=
    fun _ _ moves same => moves.checkpoint.trans same
  have preserves : Program.Obeys (surroundings.Finds raw) Call.Preserving
      (readGenesisHash codec datasource addresses : Task Signature (Consumption Signature ⊕ Stopped)) := by
    refine readGenesisHash_obeys ?_ trivial (fun _ _ => trivial) (fun _ _ => trivial) ?_
    · intro call idle
      cases call <;> first | exact trivial | exact idle.elim
    · intro genesisHash other reason read found interpreted
      cases read
      cases found
      exact absurd interpreted (sound reason)
  have answered : ∀ first (call : Call Signature) (response : call.Response) second, call.Preserving →
      (siteEnvironment surroundings).answers first call response second →
      first.checkpoint = some raw → surroundings.Finds raw call response ∧
        second.checkpoint = some raw :=
    fun _ _ _ _ preserving answer same =>
      ⟨answer.2.finds same, (answer.2.preserving preserving).trans same⟩
  have waited := keeps_waiting moved rounds content
  have kept := Program.Executes.guards preserves answered moved reached execution waited
  exact kept

end Microscope.Polling
