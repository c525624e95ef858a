import Microscope.Polling.Quarantine
import Microscope.Polling.Rehearsal

namespace Microscope.Polling

open Std Microscope.Data Microscope.Shipped

/-! # Checkpoints hold processed work only

The poller, the relay and Carbon's consumer interleave in any way.  What a
written checkpoint lists as recent, Carbon has finished processing, unless it
was restored at the start or is quarantined.
-/

variable {Signature : Type} [LinearOrder Signature] [SignatureText Signature]
  {surroundings : Surroundings} {codec : JsonCodec} {datasource : RpcPollingDatasource}
  {addresses : List Address} {pages : Nat} {before middle after started site : Site Signature}
  {loop next begun refreshed : PollingLoop Signature} {trace : List (CallEvent Signature)}
  {signature : Signature}

/-! ## The pipeline only grows -/

theorem Site.Answers.grows {call : Call Signature} {response : call.Response}
    (answers : before.Answers surroundings after call response) :
    Pipeline.Grows before.pipeline after.pipeline := by
  rcases answers.changes.pipeline with same | ⟨update, _, sent⟩
  · rw [same]
    exact .refl
  · rw [sent]
    exact Pipeline.grows_send

theorem Site.Moves.grows (moves : Site.Moves surroundings before after) :
    Pipeline.Grows before.pipeline after.pipeline := by
  cases moves with
  | relay => exact Pipeline.grows_send
  | deliver => exact .refl
  | register => exact Pipeline.grows_register
  | dequeue waiting => exact Pipeline.grows_dequeue waiting
  | ship => exact .refl
  | finish busy => exact Pipeline.grows_finish busy

theorem executes_grows
    (execution : Program.Executes (siteEnvironment surroundings) before trace after) :
    Pipeline.Grows before.pipeline after.pipeline := by
  have answered : ∀ {first second : Site Signature} {call : Call Signature} {response : call.Response},
      (siteEnvironment surroundings).answers first call response second →
        Pipeline.Grows first.pipeline second.pipeline := fun answer => answer.2.grows
  exact execution.follows (fun first second => Pipeline.Grows first.pipeline second.pipeline)
    (fun _ => .refl) Pipeline.Grows.trans answered Site.Moves.grows

/-- An update with this signature has been sent. -/
def Pipeline.Sent (pipeline : Pipeline Signature) (signature : Signature) : Prop :=
  ∃ update ∈ pipeline.sent, ∃ slot, update.delivery = some (signature, slot)

/-- Carbon has finished processing an update with this signature. -/
def Pipeline.Finished (pipeline : Pipeline Signature) (signature : Signature) : Prop :=
  ∃ update ∈ pipeline.finished, ∃ slot, update.delivery = some (signature, slot)

section Growth

variable {first second : Pipeline Signature}

omit [LinearOrder Signature] [SignatureText Signature] in
theorem Pipeline.Sent.grow (sent : first.Sent signature) (grows : Pipeline.Grows first second) :
    second.Sent signature := by
  obtain ⟨update, member, carries⟩ := sent
  exact ⟨update, grows.sent.subset member, carries⟩

omit [LinearOrder Signature] [SignatureText Signature] in
theorem Pipeline.Finished.grow (finished : first.Finished signature)
    (grows : Pipeline.Grows first second) : second.Finished signature := by
  obtain ⟨update, member, carries⟩ := finished
  exact ⟨update, grows.mem_finished member, carries⟩

end Growth

/-! ## Deliveries -/

/-- What the relay records as delivered has been sent. -/
structure HandedOver (site : Site Signature) : Prop where
  relayed : ∀ delivery ∈ site.relayed, site.pipeline.Sent delivery.1
  deliveries : ∀ delivery ∈ site.deliveries, site.pipeline.Sent delivery.1

theorem Site.Answers.handedOver {call : Call Signature} {response : call.Response}
    (answers : before.Answers surroundings after call response) (handedOver : HandedOver before) :
    HandedOver after where
  relayed := by
    intro delivery member
    rw [answers.changes.relayed] at member
    exact (handedOver.relayed delivery member).grow answers.grows
  deliveries := by
    intro delivery member
    rcases answers.changes.deliveries with same | none
    · rw [same] at member
      exact (handedOver.deliveries delivery member).grow answers.grows
    · rw [none] at member
      contradiction

theorem Site.Moves.handedOver (moves : Site.Moves surroundings before after)
    (handedOver : HandedOver before) : HandedOver after := by
  have grows := moves.grows
  cases moves with
  | relay update streaming recorded =>
      refine ⟨fun delivery carried => ?_, fun delivery member =>
        (handedOver.deliveries delivery member).grow grows⟩
      exact ⟨update, List.mem_append_right _ (List.mem_singleton.mpr rfl), delivery.2, carried⟩
  | @deliver delivery relayed =>
      refine ⟨by simp [Site.recordDelivery], fun other member => ?_⟩
      have known : other ∈ before.deliveries ∨ other = delivery := by
        simp only [Site.recordDelivery] at member
        split at member
        · simpa using member
        · exact .inl member
      rcases known with member | rfl
      · exact handedOver.deliveries other member
      · exact handedOver.relayed other relayed
  | register => exact ⟨handedOver.relayed, handedOver.deliveries⟩
  | dequeue => exact ⟨handedOver.relayed, handedOver.deliveries⟩
  | ship => exact ⟨handedOver.relayed, handedOver.deliveries⟩
  | finish => exact ⟨handedOver.relayed, handedOver.deliveries⟩

theorem executes_handedOver
    (execution : Program.Executes (siteEnvironment surroundings) before trace after)
    (handedOver : HandedOver before) : HandedOver after := by
  have answered : ∀ {first second : Site Signature} {call : Call Signature} {response : call.Response},
      (siteEnvironment surroundings).answers first call response second →
        HandedOver first → HandedOver second := fun answer => answer.2.handedOver
  exact execution.keeps answered Site.Moves.handedOver handedOver

/-- What a poll queues or absorbs has been sent. -/
theorem sent_of_trace
    (execution : Program.Executes (siteEnvironment surroundings) before trace after)
    (handedOver : HandedOver before)
    (mentioned : (∃ slot, (signature, slot) ∈ delivered trace) ∨ signature ∈ queued trace) :
    after.pipeline.Sent signature := by
  rcases mentioned with ⟨slot, absorbed⟩ | sent
  · obtain ⟨⟨command, response⟩, member, handed⟩ := List.mem_flatMap.mp absorbed
    obtain ⟨first, rest, ready, answered, rfl, earlier, answer, later⟩ := execution.at_event member
    cases command with
    | drainDelivered =>
        have drained : response = ready.deliveries := answer.2.1
        rw [deliveriesOf, drained] at handed
        have known := (executes_handedOver earlier handedOver).deliveries _ handed
        exact (known.grow answer.2.grows).grow (executes_grows later)
    | _ => simp [deliveriesOf] at handed
  · obtain ⟨⟨command, response⟩, member, handed⟩ := List.mem_flatMap.mp sent
    obtain ⟨first, rest, ready, answered, rfl, earlier, answer, later⟩ := execution.at_event member
    cases command with
    | send update =>
        cases update with
        | other => simp [queuedBy] at handed
        | transaction update =>
            cases response with
            | error closed => simp [queuedBy] at handed
            | ok _ =>
                obtain rfl : signature = update.signature := by simpa [queuedBy] using handed
                have pushed : answered = ready.send (.transaction update) := answer.2
                have now : answered.pipeline.Sent update.signature := by
                  rw [pushed]
                  exact ⟨.transaction update, List.mem_append_right _ (List.mem_singleton.mpr rfl),
                    update.slot, rfl⟩
                exact now.grow (executes_grows later)
    | _ => simp [queuedBy] at handed

/-! ## The drained test -/

/-- A counter is read in some moment of the execution. -/
theorem counter_read {name : CarbonCounter} {count : Option Nat} {rest : List (CallEvent Signature)}
    (execution : Program.Executes (siteEnvironment surroundings) before
      (⟨.counter name, count⟩ :: rest) after) :
    ∃ moment, Pipeline.Grows before.pipeline moment.pipeline ∧ count = moment.pipeline.counter name ∧
      Program.Executes (siteEnvironment surroundings) moment rest after := by
  cases execution with
  | @step _ moment answered _ _ _ _ drift answer later =>
      obtain ⟨read, rfl⟩ := answer.2
      exact ⟨answered, executes_grows (.idle drift), read, later⟩

theorem counters_read {received processed : Option Nat}
    (counting : Program.Run readCounters trace (received, processed))
    (execution : Program.Executes (siteEnvironment surroundings) before trace after) :
    ∃ atReceived atProcessed : Pipeline Signature, Pipeline.Grows before.pipeline atReceived ∧
      Pipeline.Grows before.pipeline atProcessed ∧ Pipeline.Grows atProcessed after.pipeline ∧
      received = atReceived.counter .updatesReceived ∧
      processed = atProcessed.counter .updatesProcessed := by
  obtain ⟨receivedFirst, rest, rfl, reads⟩ := Program.run_call_iff.mp counting
  cases execution with
  | @step _ ready answered _ _ _ _ drift answer later =>
  have opening : Pipeline.Grows before.pipeline answered.pipeline :=
    (executes_grows (.idle drift)).trans answer.2.grows
  cases receivedFirst with
  | true =>
      obtain ⟨_, _, rfl, afterFirst⟩ := Program.run_call_iff.mp reads
      obtain ⟨_, _, rfl, afterSecond⟩ := Program.run_call_iff.mp afterFirst
      obtain ⟨rfl, same⟩ := Program.run_done_iff.mp afterSecond
      cases same
      obtain ⟨first, growsFirst, readFirst, later⟩ := counter_read later
      obtain ⟨second, growsSecond, readSecond, later⟩ := counter_read later
      exact ⟨first.pipeline, second.pipeline, opening.trans growsFirst,
        (opening.trans growsFirst).trans growsSecond, executes_grows later, readFirst, readSecond⟩
  | false =>
      obtain ⟨_, _, rfl, afterFirst⟩ := Program.run_call_iff.mp reads
      obtain ⟨_, _, rfl, afterSecond⟩ := Program.run_call_iff.mp afterFirst
      obtain ⟨rfl, same⟩ := Program.run_done_iff.mp afterSecond
      cases same
      obtain ⟨first, growsFirst, readFirst, later⟩ := counter_read later
      obtain ⟨second, growsSecond, readSecond, later⟩ := counter_read later
      exact ⟨second.pipeline, first.pipeline, (opening.trans growsFirst).trans growsSecond,
        opening.trans growsFirst, growsSecond.trans (executes_grows later), readSecond, readFirst⟩

/-- When the counters were found equal, everything sent before the channel was
found empty has been processed. -/
theorem drains_finished (drains : Drains trace)
    (execution : Program.Executes (siteEnvironment surroundings) before trace after)
    (sent : before.pipeline.Sent signature) : after.pipeline.Finished signature := by
  obtain ⟨first, counted, received, processed, rfl, counting, drained⟩ := drains
  obtain ⟨middle, opening, later⟩ := execution.split
  cases later with
  | @step _ ready answered _ _ _ _ drift answer counts =>
  obtain ⟨empty, rfl⟩ := answer.2
  obtain ⟨atReceived, atProcessed, growsReceived, growsProcessed, later, rfl, rfl⟩ :=
    counters_read counting counts
  have earlier : Pipeline.Grows before.pipeline answered.pipeline :=
    (executes_grows opening).trans (executes_grows (.idle drift))
  obtain ⟨update, member, carries⟩ := sent.grow earlier
  exact ⟨update, Pipeline.sent_finished empty.symm growsReceived growsProcessed later drained member,
    carries⟩

/-! ## The loop -/

/-- What the loop's two states list as recent.  The live one may list whatever
has been sent, the processed one only what has been processed. -/
structure Vouches (begun loop : PollingLoop Signature) (site : Site Signature) : Prop where
  identity : loop.checkpoint.identity = begun.checkpoint.identity
  handedOver : HandedOver site
  live : ∀ signature ∈ loop.state.recentSignatures, signature ∈ begun.state.recentSignatures ∨
    signature ∈ loop.state.quarantinedSignatures ∨ site.pipeline.Sent signature
  processed : ∀ signature ∈ loop.processedState.recentSignatures,
    signature ∈ begun.state.recentSignatures ∨
      signature ∈ loop.processedState.quarantinedSignatures ∨ site.pipeline.Finished signature

theorem Vouches.execute (vouches : Vouches begun loop before)
    (execution : Program.Executes (siteEnvironment surroundings) before trace after) :
    Vouches begun loop after where
  identity := vouches.identity
  handedOver := executes_handedOver execution vouches.handedOver
  live := fun signature member => (vouches.live signature member).imp_right fun known =>
    known.imp_right fun sent => sent.grow (executes_grows execution)
  processed := fun signature member => (vouches.processed signature member).imp_right fun known =>
    known.imp_right fun finished => finished.grow (executes_grows execution)

/-- The snapshot taken when the pipeline has drained lists processed work. -/
theorem Vouches.refresh (vouches : Vouches begun loop before) (refreshes : Refreshes loop trace refreshed)
    (execution : Program.Executes (siteEnvironment surroundings) before trace after) :
    Vouches begun refreshed after := by
  rcases refreshes.drained with rfl | ⟨rfl, drains⟩
  · exact vouches.execute execution
  · refine { vouches.execute execution with processed := fun signature member => ?_ }
    rcases vouches.live signature member with restored | quarantined | sent
    · exact .inl restored
    · exact .inr (.inl quarantined)
    · exact .inr (.inr (drains_finished drains execution sent))

/-- What is recent and quarantined stays quarantined. -/
theorem poll_keeps_quarantined {state reached : PollingState Signature}
    {result : Except (PollError Signature) PollOutcome}
    (ends : Action.Ends (poll pages datasource addresses) state trace result reached)
    (answered : Program.Allowed Call.Answered trace) (recent : signature ∈ state.recentSignatures)
    (quarantined : signature ∈ state.quarantinedSignatures) :
    signature ∈ reached.quarantinedSignatures := by
  obtain ⟨stopped, recorded, effect, ending⟩ := poll_cases ends answered
  have unselected : signature ∉ selected trace :=
    fun chosen => (effect.selected signature chosen).1 recent
  have kept := (effect.untouched signature unselected).mpr quarantined
  rcases ending with ⟨_, rfl⟩ | ⟨_, _, _, completed⟩
  · exact kept
  · rwa [completed.quarantinedSignatures_eq]

theorem Vouches.poll {state : PollingState Signature}
    {result : Except (PollError Signature) PollOutcome} (vouches : Vouches begun loop before)
    (ends : Action.Ends (poll pages datasource addresses) loop.state trace result state)
    (execution : Program.Executes (siteEnvironment surroundings) before trace after) :
    Vouches begun (recordPoll loop (result, state)).2 after := by
  have executed := vouches.execute execution
  have answered := executes_answered execution
  have kept : (recordPoll loop (result, state)).2.state = state ∧
      (recordPoll loop (result, state)).2.checkpoint = loop.checkpoint ∧
      (recordPoll loop (result, state)).2.processedState = loop.processedState := recordPoll_keeps
  obtain ⟨sameState, sameCheckpoint, sameProcessed⟩ := kept
  refine ⟨sameCheckpoint ▸ vouches.identity, executed.handedOver, ?_, sameProcessed ▸ executed.processed⟩
  rw [sameState]
  intro signature present
  rcases poll_enters ends answered signature present with earlier | mentioned | quarantined
  · rcases vouches.live signature earlier with restored | quarantined | sent
    · exact .inl restored
    · exact .inr (.inl (poll_keeps_quarantined ends answered earlier quarantined))
    · exact .inr (.inr (sent.grow (executes_grows execution)))
  · exact .inr (.inr (sent_of_trace execution vouches.handedOver mentioned))
  · exact .inr (.inl quarantined)

theorem Vouches.completes {result : Except (PollError Signature) PollOutcome}
    (vouches : Vouches begun loop before)
    (completes : Completes codec datasource addresses loop trace result next)
    (execution : Program.Executes (siteEnvironment surroundings) before trace after) :
    Vouches begun next after := by
  obtain ⟨checked, saving, polled, concluding, refreshed, saved, pages, state, rfl, refreshes,
    saves, ends, rfl, idle⟩ := completes.parts
  obtain ⟨_, checks, execution⟩ := execution.split
  obtain ⟨_, savesIn, execution⟩ := execution.split
  obtain ⟨_, polls, concludes⟩ := execution.split
  have refreshedVouches := vouches.refresh refreshes checks
  obtain ⟨lastWriteCompletedAt, rfl⟩ := saveCheckpoint_keeps saves
  have savedVouches := refreshedVouches.execute savesIn
  have resaved : Vouches begun { refreshed with
      checkpoint := { refreshed.checkpoint with lastWriteCompletedAt } } _ :=
    ⟨savedVouches.identity, savedVouches.handedOver, savedVouches.live, savedVouches.processed⟩
  exact (resaved.poll ends polls).execute concludes

/-! ## The file -/

/-- The file has not been replaced, or it holds a checkpoint that lists, besides
what was restored and what it quarantines, processed work only. -/
def HoldsProcessed (codec : JsonCodec) (begun : PollingLoop Signature) (site : Site Signature) : Prop :=
  site.replacements = 0 ∨ ∃ snapshot : CheckpointSnapshot Signature,
    site.checkpoint = some (begun.checkpoint.encode codec snapshot) ∧
    ∀ signature ∈ snapshot.recentSignatures, signature ∈ begun.state.recentSignatures ∨
      signature ∈ snapshot.quarantinedSignatures ∨ site.pipeline.Finished signature

theorem HoldsProcessed.grow (holds : HoldsProcessed codec begun before)
    (sameFile : after.checkpoint = before.checkpoint)
    (sameCount : after.replacements = before.replacements)
    (grows : Pipeline.Grows before.pipeline after.pipeline) : HoldsProcessed codec begun after := by
  rcases holds with unwritten | ⟨snapshot, written, listed⟩
  · exact .inl (sameCount.trans unwritten)
  · exact .inr ⟨snapshot, sameFile.trans written, fun signature member =>
      (listed signature member).imp_right fun known => known.imp_right fun finished => finished.grow grows⟩

/-- Commands that leave the two files alone keep what the file holds. -/
theorem HoldsProcessed.transient (transient : ∀ event ∈ trace, event.1.Transient)
    (execution : Program.Executes (siteEnvironment surroundings) before trace after)
    (holds : HoldsProcessed codec begun before) : HoldsProcessed codec begun after := by
  refine execution.keeps_events ?_ ?_ holds
  · intro first event second member answer holds
    have same := answer.2.sameFiles (transient event member)
    exact holds.grow same.checkpoint same.replacements answer.2.grows
  · intro first second moves holds
    exact holds.grow moves.checkpoint moves.replacements moves.grows

/-- Saving a snapshot of the loop keeps what the file holds. -/
theorem HoldsProcessed.saves (vouches : Vouches begun loop before)
    (saves : ∀ event ∈ trace, event.1.Saves loop.checkpoint codec loop.processedState)
    (execution : Program.Executes (siteEnvironment surroundings) before trace after)
    (holds : HoldsProcessed codec begun before) : HoldsProcessed codec begun after := by
  have answered : ∀ first event second, event ∈ trace →
      (siteEnvironment surroundings).answers first event.1 event.2 second →
      HoldsProcessed codec begun first ∧ Vouches begun loop first →
      HoldsProcessed codec begun second ∧ Vouches begun loop second := by
    rintro first event second member answer ⟨holds, vouches⟩
    have later : Vouches begun loop second := vouches.execute (.step .refl answer (.idle .refl))
    refine ⟨?_, later⟩
    rcases answer.2.saves (saves event member) with ⟨sameFile, sameCount⟩ | ⟨_, installed⟩
    · exact holds.grow sameFile sameCount answer.2.grows
    · refine .inr ⟨loop.processedState, ?_, later.processed⟩
      rw [installed, CheckpointStore.encode_congr vouches.identity.symm]
      rfl
  have moved : ∀ first second, Site.Moves surroundings first second →
      HoldsProcessed codec begun first ∧ Vouches begun loop first →
      HoldsProcessed codec begun second ∧ Vouches begun loop second := by
    rintro first second moves ⟨holds, vouches⟩
    exact ⟨holds.grow moves.checkpoint moves.replacements moves.grows,
      vouches.execute (.idle (.single moves))⟩
  have kept := execution.keeps_events answered moved ⟨holds, vouches⟩
  exact kept.1

theorem HoldsProcessed.turn {control : Task Signature (Consumption Signature ⊕ Stopped)}
    (vouches : Vouches begun loop before)
    (reached : Program.Advances (pollingTurn codec datasource addresses pages loop) trace control)
    (execution : Program.Executes (siteEnvironment surroundings) before trace after)
    (holds : HoldsProcessed codec begun before) : HoldsProcessed codec begun after := by
  rcases pollingTurn_saves reached with transient | ⟨checked, tail, refreshed, rfl, refreshes, saves⟩
  · exact holds.transient transient execution
  · obtain ⟨_, checks, later⟩ := execution.split
    exact (holds.transient refreshes.transient checks).saves (vouches.refresh refreshes checks) saves later

/-! ## Whole processes -/

omit [SignatureText Signature] in
/-- A process that finds these files hands nothing over before it starts. -/
theorem handedOver_boot {checkpoint : Option Bytes} {file : Option (List Char)} :
    HandedOver (Site.boot checkpoint file : Site Signature) :=
  ⟨by simp [Site.boot], by simp [Site.boot]⟩

/-- The first states of the loop list what was restored. -/
theorem Starts.vouches {checkpoint : Option Bytes} {file : Option (List Char)}
    (starts : Starts surroundings codec datasource addresses pages (.boot checkpoint file) begun
      started) : Vouches begun begun started := by
  obtain ⟨waiting, _, rounds, _, execution⟩ := starts.starts
  obtain ⟨_, state, rfl⟩ := starts.begins
  have waited : HandedOver waiting := keeps_waiting (fun _ _ => Site.Moves.handedOver) rounds handedOver_boot
  exact ⟨rfl, executes_handedOver execution waited, fun signature => .inl, fun signature => .inl⟩

theorem Starts.unwritten {checkpoint : Option Bytes} {file : Option (List Char)}
    (starts : Starts surroundings codec datasource addresses pages (.boot checkpoint file) begun
      started) : started.replacements = 0 := by
  obtain ⟨_, _, rounds, run, execution⟩ := starts.starts
  exact keeps_unwritten rounds run execution

/-- From this start on, the file holds processed work. -/
theorem Starts.holdsProcessed {checkpoint : Option Bytes} {file : Option (List Char)}
    {control : Task Signature (Consumption Signature ⊕ Stopped)}
    (starts : Starts surroundings codec datasource addresses pages (.boot checkpoint file) begun started)
    (reaches : Program.Reaches (siteEnvironment surroundings) (consume codec datasource addresses pages)
      (fun _ _ _ => True) (.polling begun) started control site) : HoldsProcessed codec begun site := by
  obtain ⟨current, earlier, trace, turns, reached, execution⟩ := reaches
  have kept : ∀ (current : Consumption Signature) (earlier : Site Signature),
      Program.Rounds (siteEnvironment surroundings) (consume codec datasource addresses pages)
        (fun _ _ _ => True) (.polling begun) started current earlier →
      ∃ loop : PollingLoop Signature, current = .polling loop ∧ Vouches begun loop earlier ∧
        HoldsProcessed codec begun earlier := by
    intro current earlier turns
    induction turns with
    | start => exact ⟨begun, rfl, starts.vouches, .inl starts.unwritten⟩
    | next _ run execution _ ih =>
        obtain ⟨loop, rfl, vouches, holds⟩ := ih
        obtain ⟨_, next, rfl, completes⟩ := pollingTurn_completes run
        exact ⟨next, rfl, vouches.completes completes execution, holds.turn vouches run execution⟩
  obtain ⟨_, rfl, vouches, holds⟩ := kept _ _ turns
  exact holds.turn vouches reached execution

/-- However the poller, the relay and Carbon interleave, and wherever the
process is killed: unless it has written no checkpoint, it has come there from a
start, and from whichever start it has come, the file lists as recent only what
that start restored, what the file quarantines, and what Carbon has finished
processing. -/
theorem checkpoint_lists_processed {checkpoint : Option Bytes} {file : Option (List Char)}
    {control : Task Signature (Consumption Signature ⊕ Stopped)}
    (reaches : Program.Reaches (siteEnvironment surroundings) (consume codec datasource addresses pages)
      (fun _ _ _ => True) .readingGenesisHash (.boot checkpoint file) control site) :
    (site.replacements = 0 ∨ ∃ (begun : PollingLoop Signature) (started : Site Signature),
      Starts surroundings codec datasource addresses pages (.boot checkpoint file) begun started ∧
      Program.Reaches (siteEnvironment surroundings) (consume codec datasource addresses pages)
        (fun _ _ _ => True) (.polling begun) started control site) ∧
    ∀ (begun : PollingLoop Signature) (started : Site Signature),
      Starts surroundings codec datasource addresses pages (.boot checkpoint file) begun started →
      Program.Reaches (siteEnvironment surroundings) (consume codec datasource addresses pages)
        (fun _ _ _ => True) (.polling begun) started control site →
      site.replacements = 0 ∨ ∃ snapshot : CheckpointSnapshot Signature,
        site.checkpoint = some (begun.checkpoint.encode codec snapshot) ∧
        ∀ signature ∈ snapshot.recentSignatures, signature ∈ begun.state.recentSignatures ∨
          signature ∈ snapshot.quarantinedSignatures ∨ site.pipeline.Finished signature := by
  refine ⟨?_, fun begun started starts later => starts.holdsProcessed later⟩
  obtain ⟨current, earlier, trace, rounds, reached, execution⟩ := reaches
  rcases rounds_cases rounds with rfl | ⟨begun, started, loop, starts, rfl, turns⟩
  · exact .inl (keeps_unwritten rounds reached execution)
  · exact .inr ⟨begun, started, starts, .polling loop, earlier, trace, turns, reached, execution⟩

/-! A process without files queues one transaction, which Carbon processes while
the poller sleeps; the turn after that writes the first checkpoint. -/

theorem drainingSlot_le : 95 ≤ u64Max := by decide

def drainingScene : Scene (Fin 58) where
  headSlot := 100
  firstAvailableBlock := 0
  entries := [({ signature := 1, slot := 95 }, ["program"])]
  contextOf := fun _ => 100
  outcome := fun _ => .ok (convertible 95 drainingSlot_le)
  delivered := []

def drainingRounds : Option (Consumption (Fin 58) × Site (Fin 58)) :=
  runsIn "genesis" durableCodec sampleDatasource ["program"]
    [drainingScene, drainingScene, drainingScene] .readingGenesisHash (.boot none none)

theorem drainingRounds_reaches {control : Consumption (Fin 58)} {site : Site (Fin 58)}
    (reached : drainingRounds = some (control, site)) :
    Program.Reaches (siteEnvironment (undisturbed "genesis"))
      (consume durableCodec sampleDatasource ["program"] 1) (fun _ _ _ => True) .readingGenesisHash
      (.boot none none) (consume durableCodec sampleDatasource ["program"] 1 control) site := by
  have typed : drainingScene.Typed := ⟨by decide, by decide, by simp [drainingScene]⟩
  have scenes : ∀ scene ∈ [drainingScene, drainingScene, drainingScene], scene.Typed := by
    simp [typed]
  have quiet : (Site.boot none none : Site (Fin 58)).Quiet := rfl
  exact ⟨control, site, [], rounds_runsIn scenes quiet .start reached, .start _, .idle .refl⟩

theorem checkpoint_lists_processed_written : ∃ site : Site (Fin 58), site.replacements = 1 ∧
    ∃ (begun : PollingLoop (Fin 58)) (started : Site (Fin 58)) (control : Task (Fin 58) _),
      Starts (undisturbed "genesis") durableCodec sampleDatasource ["program"] 1 (.boot none none) begun
        started ∧
      Program.Reaches (siteEnvironment (undisturbed "genesis"))
        (consume durableCodec sampleDatasource ["program"] 1) (fun _ _ _ => True) (.polling begun) started
        control site ∧
      ∃ snapshot : CheckpointSnapshot (Fin 58),
        site.checkpoint = some (begun.checkpoint.encode durableCodec snapshot) ∧
        ∀ signature ∈ snapshot.recentSignatures, signature ∈ begun.state.recentSignatures ∨
          signature ∈ snapshot.quarantinedSignatures ∨ site.pipeline.Finished signature := by
  have writes : drainingRounds.any (fun reached => reached.2.replacements = 1) = true := by
    decide +kernel
  obtain ⟨⟨control, site⟩, found, counted⟩ := (Option.any_eq_true _ _).mp writes
  have written : site.replacements = 1 := of_decide_eq_true counted
  have replaced : site.replacements ≠ 0 := written.symm ▸ Nat.one_ne_zero
  obtain ⟨begins, lists⟩ := checkpoint_lists_processed (drainingRounds_reaches found)
  obtain ⟨begun, started, starts, later⟩ := begins.resolve_left replaced
  have listed := (lists begun started starts later).resolve_left replaced
  exact ⟨site, written, begun, started, _, starts, later, listed⟩

end Microscope.Polling
