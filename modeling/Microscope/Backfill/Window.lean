import Microscope.Backfill.Run

namespace Microscope.Backfill

open Microscope.Data SignatureText

/-! # Backfills push complete windows

The invariant of a run says what each task has done of what its events show.
-/

variable {Signature : Type} {account other : Address} {trace : List (BackfillEvent Signature)}
  {events : List (CrawlEvent Signature)} {state next : BackfillState Signature}

/-! ## Events of one step -/

theorem crawlEvents_append {newer : List (BackfillEvent Signature)} :
    crawlEvents account (trace ++ newer) = crawlEvents account trace ++ crawlEvents account newer :=
  List.filterMap_append

theorem crawlEvents_own : crawlEvents account (events.map (.crawl account)) = events := by
  rw [crawlEvents, List.filterMap_map]
  simp [Function.comp_def, BackfillEvent.crawlOf]

theorem crawlEvents_other (different : other ≠ account) :
    crawlEvents account (events.map (.crawl other)) = [] := by
  rw [crawlEvents, List.filterMap_map, List.filterMap_eq_nil_iff]
  intro event member
  simp [BackfillEvent.crawlOf, different]

theorem capturedRecords_crawl : capturedRecords (events.map (.crawl account)) = [] := by
  rw [capturedRecords, List.flatMap_map]
  simp [BackfillEvent.records]

theorem sentBatches_crawl : sentBatches (events.map (.crawl account)) = [] := by
  rw [sentBatches, List.filterMap_map, List.filterMap_eq_nil_iff]
  intro event member
  rfl

/-! ## The records on their way -/

def Pusher.pushes : Pusher → Bool
  | .pushing _ _ _ | .ended _ => true
  | .receiving _ _ | .aborted => false

theorem LokiPush.Holds.unsent {loki : LokiPush} {received : List String} {sent : Sent} {pusher : Pusher}
    (holds : loki.Holds received sent pusher) (quiet : pusher.pushes = false) : sent = [] := by
  cases pusher with
  | receiving => exact holds.2.2
  | aborted => exact holds
  | pushing => cases quiet
  | ended => cases quiet

/-- The captured records were received or wait in the channel, which the end
marker closes. -/
inductive Relay (loki : LokiPush) (captured : List String) (sent : Sent) (records : List (Option String))
    (pusher : Pusher) (approved : Bool) : Prop where
  | unmarked (received pending : List String) (waits : approved = false)
      (split : captured = received ++ pending) (channel : records = pending.map some)
      (holds : loki.Holds received sent pusher) (quiet : pusher.pushes = false)
  | marked (received pending : List String) (marker : approved = true)
      (split : captured = received ++ pending) (channel : records = pending.map some ++ [none])
      (holds : loki.Holds received sent pusher) (quiet : pusher.pushes = false)
  | closed (marker : approved = true) (channel : records = [])
      (holds : loki.Holds captured sent pusher) (pushes : pusher.pushes = true)

namespace Relay

variable {loki : LokiPush} {captured : List String} {sent : Sent} {records rest : List (Option String)}
  {pusher : Pusher} {approved : Bool} {buffered batch : List (Int × String)} {line : String}
  {batches : List (List (Int × String))} {skipped attempt pushed : Nat}

theorem process (relay : Relay loki captured sent records pusher false) (newer : List String) :
    Relay loki (captured ++ newer) sent (records ++ newer.map some) pusher false := by
  cases relay with
  | unmarked received pending waits split channel holds quiet =>
      refine .unmarked received (pending ++ newer) rfl ?_ ?_ holds quiet
      · rw [split, List.append_assoc]
      · rw [channel, List.map_append]
  | marked _ _ marker => cases marker
  | closed marker => cases marker

theorem mark (relay : Relay loki captured sent records pusher false) :
    Relay loki captured sent (records ++ [none]) pusher true := by
  cases relay with
  | unmarked received pending waits split channel holds quiet =>
      exact .marked received pending rfl split (by rw [channel]) holds quiet
  | marked _ _ marker => cases marker
  | closed marker => cases marker

theorem receive (relay : Relay loki captured sent (some line :: rest) (.receiving buffered skipped) approved) :
    Relay loki captured sent rest (loki.receive buffered skipped line) approved := by
  have quiet : (loki.receive buffered skipped line).pushes = false := by
    unfold LokiPush.receive
    cases loki.blockTimeOf line <;> rfl
  cases relay with
  | unmarked received pending waits split channel holds =>
      cases pending with
      | nil => cases channel
      | cons first pending =>
          cases channel
          refine .unmarked (received ++ [line]) pending waits ?_ rfl (holds.receive line) quiet
          rw [split, List.append_assoc]
          rfl
  | marked received pending marker split channel holds =>
      cases pending with
      | nil => cases channel
      | cons first pending =>
          cases channel
          refine .marked (received ++ [line]) pending marker ?_ rfl (holds.receive line) quiet
          rw [split, List.append_assoc]
          rfl
  | closed _ channel => cases channel

theorem close_pushes : (LokiPush.close buffered skipped).pushes = true := by
  unfold LokiPush.close
  split <;> rfl

theorem endMarker (relay : Relay loki captured sent (none :: rest) (.receiving buffered skipped) approved) :
    Relay loki captured sent rest (LokiPush.close buffered skipped) approved := by
  cases relay with
  | unmarked received pending waits split channel =>
      cases pending with
      | nil => cases channel
      | cons first pending => cases channel
  | marked received pending marker split channel holds =>
      cases pending with
      | nil =>
          cases channel
          rw [List.append_nil] at split
          exact .closed marker rfl (split ▸ holds.close) close_pushes
      | cons first pending => cases channel
  | closed _ channel => cases channel

theorem push (relay : Relay loki captured sent records (.pushing (batch :: batches) attempt pushed) approved)
    (response : PushResponse) : Relay loki captured (sent ++ [(loki.request batch, response)]) records
      (loki.flush batch batches attempt pushed response) approved := by
  have pushes : (loki.flush batch batches attempt pushed response).pushes = true := by
    cases response with
    | unsent error => rfl
    | status code shown body =>
        rw [LokiPush.flush]
        split
        · rfl
        · split <;> rfl
  cases relay with
  | unmarked _ _ _ _ _ _ quiet => cases quiet
  | marked _ _ _ _ _ _ quiet => cases quiet
  | closed marker channel holds => exact .closed marker channel (holds.flush response) pushes

theorem finish (relay : Relay loki captured sent records (.pushing [] attempt pushed) approved) :
    Relay loki captured sent records (.ended (.ok pushed)) approved := by
  cases relay with
  | unmarked _ _ _ _ _ _ quiet => cases quiet
  | marked _ _ _ _ _ _ quiet => cases quiet
  | closed marker channel holds => exact .closed marker channel holds.finish rfl

theorem quiet (relay : Relay loki captured sent records pusher false) : pusher.pushes = false := by
  cases relay with
  | unmarked _ _ _ _ _ _ quiet => exact quiet
  | marked _ _ marker => cases marker
  | closed marker => cases marker

/-- Nothing is sent before the end marker is received. -/
theorem pushes (relay : Relay loki captured sent records pusher approved) (some : sent ≠ []) :
    pusher.pushes = true := by
  cases relay with
  | unmarked _ _ _ _ _ holds quiet => exact absurd (holds.unsent quiet) some
  | marked _ _ _ _ _ holds quiet => exact absurd (holds.unsent quiet) some
  | closed _ _ _ pushes => exact pushes

theorem abort (relay : Relay loki captured sent records pusher false) :
    Relay loki captured sent records .aborted false := by
  cases relay with
  | unmarked received pending waits split channel holds quiet =>
      exact .unmarked received pending rfl split channel (holds.unsent quiet) rfl
  | marked _ _ marker => cases marker
  | closed marker => cases marker

end Relay

/-! ## The invariant -/

variable [SignatureText Signature] {setup : BackfillSetup Signature}

structure Window (setup : BackfillSetup Signature) (trace : List (BackfillEvent Signature))
    (state : BackfillState Signature) : Prop where
  crawls : ∀ account, (state.crawls account).Accounts (setup.histories account) setup.cutoffUnix
    state.cancelled (crawlEvents account trace)
  failures : state.crawlFailures = trace.countP BackfillEvent.counted % 2 ^ 32
  failedUpdates : state.failedUpdates = trace.countP BackfillEvent.failedUpdate
  cancelled : .cancelled ∈ trace → state.cancelled = true
  queued : ∀ account update, .crawl account (.queued update) ∈ trace →
    (account, update) ∈ state.updates ∨ ∃ records failed, .processed account update records failed ∈ trace
  unqueued : ∀ account update, .crawl account (.unqueued update) ∈ trace →
    state.cancelled = true ∨ ∃ error, state.pipeline = .returned (.error error)
  closing : state.pipeline = .closing → state.cancelled = true
  drained : state.pipeline = .returned (.ok ()) → state.cancelled = true ∨
    state.updates = [] ∧ ∀ account ∈ setup.accounts, (state.crawls account).ended = true
  waiting : state.main = .running → ∃ buffered skipped, state.pusher = .receiving buffered skipped
  approved : state.main.approved = true → state.pipeline = .returned (.ok ()) ∧
    state.cancelled = false ∧ state.crawlFailures = 0 ∧ state.failedUpdates = 0
  relay : Relay setup.loki (capturedRecords trace) (sentBatches trace) state.records state.pusher
    state.main.approved

theorem CrawlStep.ended [DecidableEq Signature] {datasource : BackfillDatasource}
    {history : History Signature} {around : Surroundings} {crawl after : Crawl Signature}
    (step : CrawlStep datasource history around crawl events after) : crawl.ended = false := by
  cases step <;> rfl

/-- A crawl only fails to queue an update when the pipeline gave up. -/
theorem CrawlStep.closed [DecidableEq Signature] {datasource : BackfillDatasource}
    {history : History Signature} {around : Surroundings} {crawl after : Crawl Signature}
    {update : TransactionUpdate Signature} (step : CrawlStep datasource history around crawl events after)
    (unqueued : .unqueued update ∈ events) : around.receives = false := by
  cases step with
  | unqueued closed => exact closed
  | _ => simp at unqueued

namespace Window

theorem start : Window setup [] {} where
  crawls := fun account => .inr (.inr ⟨[], .start, fun signature member => by cases member⟩)
  failures := rfl
  failedUpdates := rfl
  cancelled := fun member => by cases member
  queued := fun _ _ member => by cases member
  unqueued := fun _ _ member => by cases member
  closing := fun closing => by cases closing
  drained := fun returned => by cases returned
  waiting := fun _ => ⟨[], 0, rfl⟩
  approved := fun approved => by cases approved
  relay := .unmarked [] [] rfl rfl rfl ⟨rfl, rfl, rfl⟩ rfl

/-! Events of the other tasks leave what the crawls did as it is. -/

variable {newer : List (BackfillEvent Signature)}

theorem crawls_other (window : Window setup trace state) (foreign : crawlEvents account newer = []) :
    (state.crawls account).Accounts (setup.histories account) setup.cutoffUnix state.cancelled
      (crawlEvents account (trace ++ newer)) := by
  rw [crawlEvents_append, foreign, List.append_nil]
  exact window.crawls account

theorem queued_other (window : Window setup trace state)
    {updates : List (Address × TransactionUpdate Signature)}
    (foreign : ∀ account event, .crawl account event ∉ newer)
    (kept : ∀ entry ∈ state.updates, entry ∈ updates ∨
      ∃ records failed, .processed entry.1 entry.2 records failed ∈ newer)
    (account : Address) (update : TransactionUpdate Signature)
    (member : .crawl account (.queued update) ∈ trace ++ newer) : (account, update) ∈ updates ∨
      ∃ records failed, .processed account update records failed ∈ trace ++ newer := by
  rcases List.mem_append.mp member with earlier | newer
  · rcases window.queued account update earlier with waits | ⟨records, failed, processed⟩
    · rcases kept _ waits with waits | ⟨records, failed, processed⟩
      · exact .inl waits
      · exact .inr ⟨records, failed, List.mem_append_right _ processed⟩
    · exact .inr ⟨records, failed, List.mem_append_left _ processed⟩
  · exact absurd newer (foreign _ _)

theorem unqueued_other (window : Window setup trace state)
    (foreign : ∀ account event, .crawl account event ∉ newer) (account : Address)
    (update : TransactionUpdate Signature) (member : .crawl account (.unqueued update) ∈ trace ++ newer) :
    state.cancelled = true ∨ ∃ error, state.pipeline = .returned (.error error) := by
  rcases List.mem_append.mp member with earlier | newer
  · exact window.unqueued account update earlier
  · exact absurd newer (foreign _ _)

theorem crawl [DecidableEq Signature] (window : Window setup trace state) {after : Crawl Signature}
    (monitored : account ∈ setup.accounts)
    (step : CrawlStep (setup.datasource account) (setup.histories account)
      (state.around setup.updateChannelSize) (state.crawls account) events after) :
    Window setup (trace ++ events.map (.crawl account)) (state.crawled account events after) := by
  have working : ¬(state.pipeline = .returned (.ok ()) ∧ state.cancelled = false) := by
    intro ⟨returned, running⟩
    rcases window.drained returned with cancelled | ⟨_, ended⟩
    · rw [running] at cancelled
      cases cancelled
    · have stopped := ended account monitored
      rw [step.ended] at stopped
      cases stopped
  have unapproved : state.main.approved = false := by
    cases approved : state.main.approved with
    | false => rfl
    | true =>
        obtain ⟨returned, running, _⟩ := window.approved approved
        exact absurd ⟨returned, running⟩ working
  exact {
    crawls := by
      intro other
      rw [crawlEvents_append]
      by_cases same : account = other
      · subst same
        rw [crawlEvents_own]
        have accounts : after.Accounts (setup.histories account) setup.cutoffUnix state.cancelled
            (crawlEvents account trace ++ events) := step.accounts (window.crawls account)
        simpa [BackfillState.crawled] using accounts
      · rw [crawlEvents_other same, List.append_nil]
        have kept := window.crawls other
        simpa [BackfillState.crawled, Function.update_of_ne (Ne.symm same)] using kept
    failures := by
      have counted : (events.map (BackfillEvent.crawl account)).countP BackfillEvent.counted =
          events.countP CrawlEvent.counted := List.countP_map
      rw [List.countP_append, counted, Nat.add_mod, ← window.failures]
      exact (Nat.add_mod_mod _ _ _).symm
    failedUpdates := by
      have none : (events.map (BackfillEvent.crawl account)).countP BackfillEvent.failedUpdate = 0 := by
        rw [List.countP_map]
        exact List.countP_eq_zero.mpr fun event _ => Bool.false_ne_true
      rw [List.countP_append, none, Nat.add_zero]
      exact window.failedUpdates
    cancelled := by
      intro member
      rcases List.mem_append.mp member with earlier | newer
      · exact window.cancelled earlier
      · simp at newer
    queued := by
      intro queuedAccount update member
      rcases List.mem_append.mp member with earlier | newer
      · rcases window.queued queuedAccount update earlier with waits | ⟨records, failed, processed⟩
        · exact .inl (List.mem_append_left _ waits)
        · exact .inr ⟨records, failed, List.mem_append_left _ processed⟩
      · obtain ⟨event, listed, same⟩ := List.mem_map.mp newer
        cases same
        exact .inl (List.mem_append_right _ (List.mem_map_of_mem (List.mem_filterMap.mpr ⟨_, listed, rfl⟩)))
    unqueued := by
      intro lostAccount update member
      rcases List.mem_append.mp member with earlier | newer
      · exact window.unqueued lostAccount update earlier
      · obtain ⟨event, listed, same⟩ := List.mem_map.mp newer
        cases same
        have closed : state.pipeline.receives = false := step.closed listed
        show state.cancelled = true ∨ ∃ error, state.pipeline = .returned (.error error)
        cases cancelled : state.cancelled with
        | true => exact .inl rfl
        | false =>
            right
            cases found : state.pipeline with
            | running =>
                rw [found] at closed
                cases closed
            | closing =>
                have stops := window.closing found
                rw [cancelled] at stops
                cases stops
            | returned result =>
                cases result with
                | error error => exact ⟨error, rfl⟩
                | ok => exact absurd ⟨found, cancelled⟩ working
    closing := window.closing
    drained := by
      intro returned
      rcases window.drained returned with cancelled | drained
      · exact .inl cancelled
      · cases cancelled : state.cancelled with
        | true => exact .inl cancelled
        | false => exact absurd ⟨returned, cancelled⟩ working
    waiting := window.waiting
    approved := by
      intro approved
      have stays : state.main.approved = true := approved
      rw [unapproved] at stays
      cases stays
    relay := by
      have captured : capturedRecords (trace ++ events.map (.crawl account)) = capturedRecords trace := by
        rw [capturedRecords, List.flatMap_append]
        exact (congrArg _ capturedRecords_crawl).trans (List.append_nil _)
      have sent : sentBatches (trace ++ events.map (.crawl account)) = sentBatches trace := by
        rw [sentBatches, List.filterMap_append]
        exact (congrArg _ sentBatches_crawl).trans (List.append_nil _)
      rw [captured, sent]
      exact window.relay }

theorem unapproved (window : Window setup trace state) (working : state.pipeline.hasReturned = false) :
    state.main.approved = false := by
  cases approved : state.main.approved with
  | false => rfl
  | true =>
      rw [(window.approved approved).1] at working
      cases working

theorem process (window : Window setup trace state) {update : TransactionUpdate Signature}
    {rest : List (Address × TransactionUpdate Signature)} (records : List String) (failed : Bool)
    (working : state.pipeline.hasReturned = false) (first : state.updates = (account, update) :: rest) :
    Window setup (trace ++ [.processed account update records failed])
      (state.processed rest records failed) := by
  have unapproved := window.unapproved working
  exact {
    crawls := fun other => window.crawls_other rfl
    failures := by
      rw [List.countP_append]
      exact window.failures
    failedUpdates := by
      rw [List.countP_append, List.countP_singleton]
      exact congrArg (· + _) window.failedUpdates
    cancelled := by
      intro member
      rcases List.mem_append.mp member with earlier | newer
      · exact window.cancelled earlier
      · simp at newer
    queued := by
      apply window.queued_other (by simp)
      intro entry waits
      rw [first] at waits
      rcases List.mem_cons.mp waits with rfl | waits
      · exact .inr ⟨records, failed, List.mem_cons_self⟩
      · exact .inl waits
    unqueued := window.unqueued_other (by simp)
    closing := window.closing
    drained := by
      intro returned
      have same : state.pipeline = .returned (.ok ()) := returned
      rw [same] at working
      cases working
    waiting := window.waiting
    approved := by
      intro approved
      have stays : state.main.approved = true := approved
      rw [unapproved] at stays
      cases stays
    relay := by
      have relay := window.relay
      rw [unapproved] at relay
      have captured : capturedRecords (trace ++ [.processed account update records failed]) =
          capturedRecords trace ++ records := by
        simp [capturedRecords, BackfillEvent.records]
      have sent : sentBatches (trace ++ [.processed account update records failed]) = sentBatches trace := by
        simp [sentBatches, BackfillEvent.exchange]
      rw [captured, sent]
      have processed := relay.process records
      show Relay setup.loki _ _ (state.records ++ records.map some) state.pusher state.main.approved
      rw [unapproved]
      exact processed }

theorem cancel (window : Window setup trace state) (working : state.pipeline.hasReturned = false) :
    Window setup (trace ++ [.cancelled]) { state with cancelled := true } := by
  have unapproved := window.unapproved working
  exact {
    crawls := fun _ => .inl rfl
    failures := by
      rw [List.countP_append]
      exact window.failures
    failedUpdates := by
      rw [List.countP_append]
      exact window.failedUpdates
    cancelled := fun _ => rfl
    queued := window.queued_other (by simp) fun _ waits => .inl waits
    unqueued := fun _ _ _ => .inl rfl
    closing := fun _ => rfl
    drained := fun _ => .inl rfl
    waiting := window.waiting
    approved := by
      intro approved
      have stays : state.main.approved = true := approved
      rw [unapproved] at stays
      cases stays
    relay := by
      have captured : capturedRecords (trace ++ [.cancelled]) = capturedRecords trace := by
        simp [capturedRecords, BackfillEvent.records]
      have sent : sentBatches (trace ++ [.cancelled]) = sentBatches trace := by
        simp [sentBatches, BackfillEvent.exchange]
      rw [captured, sent]
      exact window.relay }

/-- The pipeline goes on to another stage. -/
theorem stage (window : Window setup trace state) {pipeline : Pipeline}
    (working : state.pipeline.hasReturned = false)
    (closing : pipeline = .closing → state.cancelled = true)
    (drained : pipeline = .returned (.ok ()) → state.cancelled = true ∨
      state.updates = [] ∧ ∀ account ∈ setup.accounts, (state.crawls account).ended = true) :
    Window setup trace { state with pipeline } := by
  have unapproved := window.unapproved working
  exact { window with
    closing, drained
    unqueued := by
      intro lostAccount update member
      rcases window.unqueued lostAccount update member with cancelled | ⟨error, returned⟩
      · exact .inl cancelled
      · rw [returned] at working
        cases working
    approved := by
      intro approved
      have stays : state.main.approved = true := approved
      rw [unapproved] at stays
      cases stays }

theorem judge_eq_none {cancelled : Bool} {result : Except String Unit} {failedCrawls failedUpdates : Nat}
    (pushes : judge cancelled result failedCrawls failedUpdates = none) :
    cancelled = false ∧ result = .ok () ∧ failedCrawls = 0 ∧ failedUpdates = 0 := by
  unfold judge at pushes
  split at pushes
  · cases pushes
  · rename_i running
    cases result with
    | error error => cases pushes
    | ok =>
        dsimp only at pushes
        split at pushes
        · cases pushes
        · refine ⟨by simpa using running, rfl, ?_, ?_⟩ <;> omega

theorem judge (window : Window setup trace state) {result : Except String Unit}
    (waits : state.main = .running) (returned : state.pipeline = .returned result) :
    Window setup trace (state.judged result) := by
  unfold BackfillState.judged
  have relay := window.relay
  rw [waits] at relay
  cases verdict : Backfill.judge state.cancelled result state.crawlFailures state.failedUpdates with
  | some refusal =>
      exact { window with
        waiting := fun waiting => by cases waiting
        approved := fun approved => by cases approved
        relay := relay }
  | none =>
      obtain ⟨running, rfl, noFailures, noFailedUpdates⟩ := judge_eq_none verdict
      exact { window with
        waiting := fun waiting => by cases waiting
        approved := fun _ => ⟨returned, running, noFailures, noFailedUpdates⟩
        relay := relay.mark }

/-- The pusher goes on to another stage, and the records with it. -/
theorem pusher (window : Window setup trace state) {pusher : Pusher} {records : List (Option String)}
    (waiting : state.main = .running → ∃ buffered skipped, pusher = .receiving buffered skipped)
    (relay : Relay setup.loki (capturedRecords trace) (sentBatches trace) records pusher
      state.main.approved) : Window setup trace { state with records, pusher } :=
  { window with waiting, relay }

theorem push (window : Window setup trace state) {batch : List (Int × String)}
    {batches : List (List (Int × String))} {attempt pushed : Nat} (response : PushResponse)
    (pushing : state.pusher = .pushing (batch :: batches) attempt pushed) :
    Window setup (trace ++ [.pushed (setup.loki.request batch) response])
      { state with pusher := setup.loki.flush batch batches attempt pushed response } := by
  have started : state.main ≠ .running := by
    intro waits
    obtain ⟨_, _, receiving⟩ := window.waiting waits
    rw [pushing] at receiving
    cases receiving
  exact { window with
    crawls := fun other => window.crawls_other rfl
    failures := by
      rw [List.countP_append]
      exact window.failures
    failedUpdates := by
      rw [List.countP_append]
      exact window.failedUpdates
    cancelled := by
      intro member
      rcases List.mem_append.mp member with earlier | newer
      · exact window.cancelled earlier
      · simp at newer
    queued := window.queued_other (by simp) fun _ waits => .inl waits
    unqueued := window.unqueued_other (by simp)
    waiting := fun waits => absurd waits started
    relay := by
      have relay := window.relay
      rw [pushing] at relay
      have captured : capturedRecords (trace ++ [.pushed (setup.loki.request batch) response]) =
          capturedRecords trace := by
        simp [capturedRecords, BackfillEvent.records]
      have sent : sentBatches (trace ++ [.pushed (setup.loki.request batch) response]) =
          sentBatches trace ++ [(setup.loki.request batch, response)] := by
        simp [sentBatches, BackfillEvent.exchange]
      rw [captured, sent]
      exact relay.push response }

theorem step [DecidableEq Signature] (window : Window setup trace state)
    (step : setup.Step state newer next) : Window setup (trace ++ newer) next := by
  cases step with
  | crawl monitored step => exact window.crawl monitored step
  | cancel working => exact window.cancel working
  | close working cancelled =>
      rw [List.append_nil]
      exact window.stage working (fun _ => cancelled) (fun returned => by cases returned)
  | process records failed working first => exact window.process records failed working first
  | drain running ended drained =>
      rw [List.append_nil]
      exact window.stage (by rw [running]; rfl) (fun closing => by cases closing)
        (fun _ => .inr ⟨drained, ended⟩)
  | interrupt working cancelled =>
      rw [List.append_nil]
      exact window.stage working (fun closing => by cases closing) (fun _ => .inl cancelled)
  | fail error working =>
      rw [List.append_nil]
      exact window.stage working (fun closing => by cases closing) (fun returned => by cases returned)
  | judge waits returned =>
      rw [List.append_nil]
      exact window.judge waits returned
  | @receive line rest buffered skipped first receives =>
      rw [List.append_nil]
      have relay := window.relay
      rw [first, receives] at relay
      refine window.pusher (fun _ => ?_) relay.receive
      unfold LokiPush.receive
      cases setup.loki.blockTimeOf line with
      | none => exact ⟨_, _, rfl⟩
      | some blockTime => exact ⟨_, _, rfl⟩
  | endMarker first receives =>
      rw [List.append_nil]
      have relay := window.relay
      rw [first, receives] at relay
      have closed := relay.endMarker
      refine window.pusher (fun waits => ?_) closed
      rw [waits] at closed
      have quiet := closed.quiet
      rw [Relay.close_pushes] at quiet
      cases quiet
  | push response pushing => exact window.push response pushing
  | finish pushing =>
      rw [List.append_nil]
      have relay := window.relay
      rw [pushing] at relay
      refine window.pusher (fun waits => ?_) relay.finish
      obtain ⟨_, _, receiving⟩ := window.waiting waits
      rw [pushing] at receiving
      cases receiving
  | abort refused =>
      rw [List.append_nil]
      have relay := window.relay
      rw [refused] at relay
      refine window.pusher (fun waits => ?_) ?_
      · rw [refused] at waits
        cases waits
      · rw [refused]
        exact relay.abort
  | @conclude result waits ended =>
      rw [List.append_nil]
      have relay := window.relay
      have approved := window.approved
      rw [waits] at relay approved
      unfold BackfillState.concluded
      cases result with
      | ok pushed => exact { window with waiting := fun waits => (by cases waits), approved, relay }
      | error error => exact { window with waiting := fun waits => (by cases waits), approved, relay }

theorem run [DecidableEq Signature] (run : Runs setup.Step {} trace state) : Window setup trace state :=
  run.invariant start fun window taken => window.step taken

end Window

/-! ## What was pushed -/

/-- The listed signature was fetched, converted, queued and processed. -/
def Backfilled (trace : List (BackfillEvent Signature)) (account : Address)
    (info : Listed) : Prop :=
  ∃ signature transaction update records, fromText info.signature = some signature ∧
    .crawl account (.fetched signature transaction) ∈ trace ∧
    transactionUpdate signature transaction = some update ∧
    .crawl account (.queued update) ∈ trace ∧ .processed account update records false ∈ trace

/-- Nothing failed, and everything listed before the cutoff was processed. -/
structure CompleteWindow (setup : BackfillSetup Signature) (trace : List (BackfillEvent Signature)) :
    Prop where
  clean : ∀ event ∈ trace, event.isFailure setup.loki = false
  covered : ∀ account ∈ setup.accounts, ∀ info ∈ (setup.histories account).due setup.cutoffUnix,
    Backfilled trace account info

/-- The counters, which wrap around, do not read zero after failures. -/
structure CountersFit (setup : BackfillSetup Signature) (trace : List (BackfillEvent Signature)) : Prop where
  failures : 2 ^ 32 ∣ trace.countP BackfillEvent.counted → trace.countP BackfillEvent.counted = 0
  missing : 2 ^ 64 ∣ setup.loki.missingBlockTimes (capturedRecords trace) →
    setup.loki.missingBlockTimes (capturedRecords trace) = 0

namespace Window

theorem clean (window : Window setup trace state) (approved : state.main.approved = true)
    (failures : trace.countP BackfillEvent.counted = 0)
    (missing : setup.loki.missingBlockTimes (capturedRecords trace) = 0) :
    ∀ event ∈ trace, event.isFailure setup.loki = false := by
  obtain ⟨returned, running, _, noFailedUpdates⟩ := window.approved approved
  intro event member
  cases event with
  | crawl account event =>
      have uncounted := List.countP_eq_zero.mp failures _ member
      cases event with
      | unqueued update =>
          rcases window.unqueued account update member with cancelled | ⟨error, broken⟩
          · rw [running] at cancelled
            cases cancelled
          · rw [returned] at broken
            cases broken
      | fetched => rfl
      | queued => rfl
      | pageFailed => exact absurd rfl uncounted
      | invalidSignature => exact absurd rfl uncounted
      | fetchFailed => exact absurd rfl uncounted
      | unconverted => exact absurd rfl uncounted
  | cancelled =>
      have cancelled := window.cancelled member
      rw [running] at cancelled
      cases cancelled
  | processed account update records failed =>
      have processedWell : failed = false := by
        have counted := window.failedUpdates
        rw [noFailedUpdates] at counted
        have succeeded := List.countP_eq_zero.mp counted.symm _ member
        simpa [BackfillEvent.failedUpdate] using succeeded
      have timed : ∀ line ∈ records, (setup.loki.blockTimeOf line).isNone = false := by
        intro line listed
        have captured : line ∈ capturedRecords trace := List.mem_flatMap.mpr ⟨_, member, listed⟩
        exact Bool.eq_false_of_not_eq_true (List.countP_eq_zero.mp missing line captured)
      rw [BackfillEvent.isFailure, processedWell, Bool.false_or, List.any_eq_false]
      intro line listed
      rw [timed line listed]
      exact Bool.false_ne_true
  | pushed => rfl

theorem covered (window : Window setup trace state) (approved : state.main.approved = true)
    (clean : ∀ event ∈ trace, event.isFailure setup.loki = false) (monitored : account ∈ setup.accounts)
    {info : Listed} (due : info ∈ (setup.histories account).due setup.cutoffUnix) :
    Backfilled trace account info := by
  obtain ⟨returned, running, _, _⟩ := window.approved approved
  have happened : ∀ {event : CrawlEvent Signature}, event ∈ crawlEvents account trace →
      .crawl account event ∈ trace := by
    intro event member
    obtain ⟨crawled, listed, same⟩ := List.mem_filterMap.mp member
    cases crawled with
    | crawl other crawlEvent =>
        simp only [BackfillEvent.crawlOf] at same
        split at same
        · rename_i own
          cases same
          exact own ▸ listed
        · cases same
    | cancelled => cases same
    | processed => cases same
    | pushed => cases same
  obtain ⟨drained, ended⟩ : state.updates = [] ∧
      ∀ account ∈ setup.accounts, (state.crawls account).ended = true := by
    rcases window.drained returned with cancelled | drained
    · rw [running] at cancelled
      cases cancelled
    · exact drained
  rcases window.crawls account with cancelled | ⟨event, member, failure⟩ | finished
  · rw [running] at cancelled
    cases cancelled
  · have succeeded := clean _ (happened member)
    rw [BackfillEvent.isFailure, failure] at succeeded
    cases succeeded
  · have ended := ended account monitored
    cases crawl : state.crawls account with
    | finished =>
        rw [crawl] at finished
        obtain ⟨passed, allDue, queued⟩ := finished
        obtain ⟨signature, member, parsed⟩ := allDue info due
        obtain ⟨transaction, update, fetched, converted, sent⟩ := queued signature member
        rcases window.queued account update (happened sent) with waits | ⟨records, failed, processed⟩
        · rw [drained] at waits
          cases waits
        · have succeeded := clean _ processed
          rw [BackfillEvent.isFailure, Bool.or_eq_false_iff] at succeeded
          rw [succeeded.1] at processed
          exact ⟨signature, transaction, update, records, parsed, happened fetched, converted,
            happened sent, processed⟩
    | failed error =>
        rw [crawl] at finished
        cases finished
    | checking before =>
        rw [crawl] at ended
        cases ended
    | requesting before =>
        rw [crawl] at ended
        cases ended
    | fetching fetches =>
        rw [crawl] at ended
        cases ended

/-- The window is complete once the pusher pushes. -/
theorem complete (window : Window setup trace state) (fits : CountersFit setup trace)
    (pushes : state.pusher.pushes = true)
    (counted : ∀ received, setup.loki.Holds received (sentBatches trace) state.pusher →
      setup.loki.missingBlockTimes received % 2 ^ 64 = 0) :
    CompleteWindow setup trace ∧ setup.loki.missingBlockTimes (capturedRecords trace) = 0 ∧
      setup.loki.Holds (capturedRecords trace) (sentBatches trace) state.pusher := by
  cases window.relay with
  | unmarked _ _ _ _ _ _ quiet =>
      rw [quiet] at pushes
      cases pushes
  | marked _ _ _ _ _ _ quiet =>
      rw [quiet] at pushes
      cases pushes
  | closed approved channel holds =>
      have missing := fits.missing (Nat.dvd_of_mod_eq_zero (counted _ holds))
      obtain ⟨_, _, noFailures, _⟩ := window.approved approved
      have wrapped := window.failures
      rw [noFailures] at wrapped
      have failures := fits.failures (Nat.dvd_of_mod_eq_zero wrapped.symm)
      have clean := window.clean approved failures missing
      exact ⟨⟨clean, fun account monitored info due => window.covered approved clean monitored due⟩,
        missing, holds⟩

end Window

/-- A batch is only sent when nothing failed and the whole window was
processed, and a push without an error sends the captured records in the order
of their block times. -/
theorem pushes_complete_window [DecidableEq Signature] (run : Runs setup.Step {} trace state)
    (fits : CountersFit setup trace) :
    (∀ request response, .pushed request response ∈ trace → CompleteWindow setup trace) ∧
      ∀ count, state.pusher = .ended (.ok count) → CompleteWindow setup trace ∧
        ∃ records : List (Int × String), accepted (sentBatches trace) = records.map LokiPush.entry ∧
          (records.map Prod.snd).Perm (capturedRecords trace) ∧
          (∀ record ∈ records, setup.loki.blockTimeOf record.2 = some record.1) ∧
          (records.Pairwise fun first second => first.1 ≤ second.1) ∧ count = records.length := by
  have window := Window.run run
  constructor
  · intro request response member
    have sent : sentBatches trace ≠ [] :=
      List.ne_nil_of_mem (List.mem_filterMap.mpr ⟨_, member, rfl⟩)
    exact (window.complete fits (window.relay.pushes sent) fun received holds => holds.counted sent).1
  · intro count ended
    have pushes : state.pusher.pushes = true := by
      rw [ended]
      rfl
    obtain ⟨complete, missing, holds⟩ := window.complete fits pushes fun received holds => by
      rw [ended] at holds
      exact holds.1
    rw [ended] at holds
    obtain ⟨permuted, timed, sorted⟩ := LokiPush.ordered_records missing
    refine ⟨complete, setup.loki.ordered (capturedRecords trace), holds.2.1, permuted, timed, sorted, ?_⟩
    rw [holds.2.2, holds.2.1, List.length_map]

end Microscope.Backfill
