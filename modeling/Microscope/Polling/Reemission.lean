import Microscope.Polling.Retention

namespace Microscope.Polling

open Std Microscope.Data Microscope.Shipped

/-! # What a crash re-emits

A checkpoint rewinds by one replay window on load, and discovery by another.
The journal keeps every shipped transaction above that, so the next process
queues none of them again.
-/

variable {Signature : Type} [LinearOrder Signature] [SignatureText Signature]
  {slotOf : Signature → Slot} {surroundings : Surroundings} {codec : JsonCodec}
  {datasource : RpcPollingDatasource} {addresses : List Address} {pages : Nat}
  {loop : PollingLoop Signature} {trace : List (CallEvent Signature)} {signature : Signature}

/-! ## Hidden transactions -/

/-- The transaction is a recent one, or below every listing. -/
structure Hides (slotOf : Signature → Slot) (window : Slot) (addresses : List Address)
    (signature : Signature) (state : PollingState Signature) : Prop where
  complete : ∀ address ∈ addresses, ∃ cursor, state.cursors[address]? = some cursor
  hidden : state.recentSignatures[signature]? = some (slotOf signature) ∨
    ∀ (address : Address) (cursor : AddressCursor), state.cursors[address]? = some cursor →
      slotOf signature ≤ cursor.scannedSlot - window

section Hiding

variable {window lower upper : Slot} {state reached final : PollingState Signature}
  {result : Except (PollError Signature) PollOutcome}

theorem Hides.cursors_eq {recorded : List (Signature × Slot)}
    (hides : Hides slotOf window addresses signature state)
    (effect : Effect window addresses state trace reached recorded) (address : Address) :
    reached.cursors[address]? = state.cursors[address]? := by
  rcases effect.cursors with same | ⟨_, _, _, prepares⟩
  · rw [same]
  · rw [prepares address]
    split
    · rename_i monitored
      obtain ⟨cursor, present⟩ := hides.complete address monitored
      rw [present, Option.some_or]
    · exact Option.or_none

theorem Hides.unselected {recorded : List (Signature × Slot)}
    (hides : Hides slotOf window addresses signature state)
    (effect : Effect window addresses state trace reached recorded) (reports : Reports slotOf trace) :
    signature ∉ selected trace := by
  intro chosen
  obtain ⟨unrecorded, _, address, _, cursor, slot, present, above, listed⟩ := effect.selected signature chosen
  rw [hides.cursors_eq effect] at present
  rcases hides.hidden with known | low
  · exact unrecorded (OrderedMap.mem_iff_getElem?.mpr ⟨_, known⟩)
  · have same : slot = slotOf signature := reports.listed address _ listed
    rw [same] at above
    exact absurd (low address cursor present) (Nat.not_le_of_lt above)

/-- Only what is selected is fetched, and only what is fetched is queued. -/
theorem selected_of_queued {recorded : List (Signature × Slot)}
    (effect : Effect window addresses state trace reached recorded)
    (answered : Program.Allowed Call.Answered trace) (undelivered : delivered trace = [])
    (sent : signature ∈ queued trace) : signature ∈ selected trace := by
  have of_fetched : ∀ outcome, (signature, outcome) ∈ fetchOutcomes trace → signature ∈ selected trace := by
    intro outcome fetched
    obtain ⟨⟨command, response⟩, event, handed⟩ := List.mem_flatMap.mp fetched
    have complete := answered ⟨command, response⟩ event
    cases command with
    | rpc call =>
        cases call with
        | fetchTransactions signatures =>
            have chosen : signature ∈ signatures :=
              (List.Perm.mem_iff complete).mp (List.mem_map_of_mem handed)
            exact List.mem_flatMap.mpr ⟨_, event, chosen⟩
        | _ => simp [outcomesOf] at handed
    | _ => simp [outcomesOf] at handed
  obtain ⟨slot, member⟩ := effect.complete signature (.inr (.inl sent))
  cases effect.justified signature slot member with
  | absorbed handed =>
      rw [undelivered] at handed
      contradiction
  | queued _ fetched => exact of_fetched _ fetched
  | quarantined fetched => exact of_fetched _ fetched

/-- At a consistent endpoint a poll does not queue what is hidden. -/
theorem Hides.unqueued (hides : Hides slotOf datasource.replayWindow.slots addresses signature state)
    (ends : Action.Ends (poll pages datasource addresses) state trace result final)
    (answered : Program.Allowed Call.Answered trace) (reports : Reports slotOf trace)
    (undelivered : delivered trace = []) : signature ∉ queued trace := by
  obtain ⟨reached, recorded, effect, _⟩ := poll_cases ends answered
  exact fun sent => hides.unselected effect reports (selected_of_queued effect answered undelivered sent)

/-- It stays hidden, whether retention drops it or not. -/
theorem Hides.poll (hides : Hides slotOf datasource.replayWindow.slots addresses signature state)
    (ends : Action.Ends (poll pages datasource addresses) state trace result final)
    (answered : Program.Allowed Call.Answered trace) (reports : Reports slotOf trace)
    (behind : Behind state.cursors final.cursors) :
    Hides slotOf datasource.replayWindow.slots addresses signature final := by
  obtain ⟨reached, recorded, effect, ending⟩ := poll_cases ends answered
  have known : ∀ (address : Address) (cursor : AddressCursor), final.cursors[address]? = some cursor →
      ∃ earlier, state.cursors[address]? = some earlier ∧ earlier.scannedSlot ≤ cursor.scannedSlot := by
    intro address cursor present
    have there : state.cursors[address]?.isSome := by
      rw [← hides.cursors_eq effect]
      rcases ending with ⟨_, rfl⟩ | ⟨_, _, _, completed⟩
      · rw [present]
        rfl
      · rw [← completed.isSome_cursor, present]
        rfl
    obtain ⟨earlier, found⟩ := Option.isSome_iff_exists.mp there
    obtain ⟨next, nextPresent, le⟩ := behind address earlier found
    rw [present] at nextPresent
    cases nextPresent
    exact ⟨earlier, found, le⟩
  constructor
  · intro address monitored
    obtain ⟨cursor, present⟩ := hides.complete address monitored
    obtain ⟨next, nextPresent, _⟩ := behind address cursor present
    exact ⟨next, nextPresent⟩
  rcases hides.hidden with listed | low
  · have kept : reached.recentSignatures[signature]? = some (slotOf signature) := by
      have member : signature ∈ reached.recentSignatures := by
        rw [effect.recentSignatures, OrderedMap.mem_insertAll]
        exact .inl (OrderedMap.mem_iff_getElem?.mpr ⟨_, listed⟩)
      obtain ⟨slot, found⟩ := OrderedMap.mem_iff_getElem?.mp member
      rw [found]
      rw [effect.recentSignatures] at found
      rcases OrderedMap.getElem?_insertAll found with recorded | unchanged
      · rw [(effect.justified signature slot recorded).slot_eq reports]
      · rwa [← unchanged]
    rcases ending with ⟨_, rfl⟩ | ⟨_, record, _, completed⟩
    · exact .inl kept
    by_cases above : slotOf signature > retentionBound record.headSlot datasource.replayWindow.slots final
    · refine .inl ?_
      rw [completed.recentSignatures_getElem?, kept]
      simpa using above
    · refine .inr fun address cursor present => ?_
      cases least : final.minimumScannedSlot with
      | none =>
          have absent := OrderedMap.least_eq_none_iff.mp least address
          rw [present] at absent
          contradiction
      | some minimum =>
          have dropped : slotOf signature ≤ minimum - 2 * datasource.replayWindow.slots := by
            simpa [retentionBound, unreachableBelow, least] using above
          have below : ∀ slot minimum cursor window : Nat, slot ≤ minimum - 2 * window → minimum ≤ cursor →
              slot ≤ cursor - window := by omega
          exact below _ _ _ _ dropped (PollingState.minimumScannedSlot_le least present)
  · refine .inr fun address cursor present => ?_
    obtain ⟨earlier, found, le⟩ := known address cursor present
    exact (low address earlier found).trans (Nat.sub_le_sub_right le _)

end Hiding

/-! ### Polls that are cut short -/

/-- The endpoint and the channel refuse. -/
def refusal : (call : Call Signature) → call.Response
  | .rpc .getGenesisHash => .error "refused"
  | .rpc .getSlot => .error "refused"
  | .rpc .getFirstAvailableBlock => .error "refused"
  | .rpc (.getSignaturesForAddress _ _ _ _) => .error "refused"
  | .rpc (.fetchTransactions signatures) =>
      signatures.map fun signature => (signature, .error ⟨false, "refused"⟩)
  | .now => 0
  | .drainDelivered => []
  | .stopDelivered => ()
  | .send _ => .error ⟨⟩
  | .channelEmpty => false
  | .receivedCounterFirst => false
  | .counter _ => none
  | .readCheckpoint => .ok none
  | .installCheckpoint _ => .ok ()
  | .moveCorruptCheckpoint => .ok ()
  | .countCorruptCheckpoints => .ok 0
  | .restoreShipped _ => []
  | .discardShipped _ => ()
  | .compactShipped _ => ()
  | .cancelled => false
  | .sleep _ => false
  | .awaitCancellation => ()

section Refusing

variable {more : List (CallEvent Signature)} (refused : ∀ event ∈ more, event.2 = refusal event.1)

include refused

omit [LinearOrder Signature] [SignatureText Signature] in
theorem refusal_answered : Program.Allowed Call.Answered more := by
  rintro ⟨call, response⟩ member
  obtain rfl : response = refusal call := refused _ member
  cases call with
  | rpc call =>
      cases call with
      | fetchTransactions signatures => simp [Call.Answered, refusal, Function.comp_def]
      | _ => trivial
  | _ => simp [Call.Answered, refusal]

omit [LinearOrder Signature] in
theorem refusal_shows {lower upper : Slot} : Shows slotOf lower upper more := by
  constructor
  · rintro ⟨call, response⟩ member
    obtain rfl : response = refusal call := refused _ member
    cases call with
    | rpc call =>
        cases call with
        | fetchTransactions signatures => simp [Call.Consistent, refusal]
        | _ => trivial
    | _ => trivial
  · rintro ⟨call, response⟩ member slot shown
    obtain rfl : response = refusal call := refused _ member
    cases call with
    | rpc call => cases call <;> simp [shownBy, refusal] at shown
    | _ => simp [shownBy] at shown

omit [LinearOrder Signature] [SignatureText Signature] in
theorem refusal_undelivered : delivered more = [] := by
  refine List.flatMap_eq_nil_iff.mpr ?_
  rintro ⟨call, response⟩ member
  obtain rfl : response = refusal call := refused _ member
  cases call <;> simp [deliveriesOf, refusal]

end Refusing

/-- Nor does a poll that is cut short queue what is hidden. -/
theorem Hides.unqueued_partial {lower upper : Slot} {state : PollingState Signature}
    {middle : Program (@Call.Response Signature)
      (Except (PollError Signature) PollOutcome × PollingState Signature)}
    (hides : Hides slotOf datasource.replayWindow.slots addresses signature state)
    (reached : Program.Advances (Polling.poll pages datasource addresses state) trace middle)
    (answered : Program.Allowed Call.Answered trace) (shows : Shows slotOf lower upper trace)
    (undelivered : delivered trace = []) : signature ∉ queued trace := by
  obtain ⟨more, ⟨result, final⟩, ends, refused⟩ := reached.completes refusal
  have unqueued : signature ∉ queued (trace ++ more) := by
    refine hides.unqueued ends ?_ ((shows.append (refusal_shows refused)).reports ?_) ?_
    · exact Program.allowed_append.mpr ⟨answered, refusal_answered refused⟩
    · simp [undelivered, refusal_undelivered refused]
    · simp [undelivered, refusal_undelivered refused]
  rw [queued_append] at unqueued
  exact fun sent => unqueued (List.mem_append_left _ sent)

/-! ## Transactions that are not sent -/

/-- No transaction of this signature is in the pipeline. -/
def Unsent (signature : Signature) (site : Site Signature) : Prop :=
  ∀ update, .transaction update ∈ site.pipeline.sent → update.signature ≠ signature

section Unsent

variable {before after : Site Signature} (streaming : surroundings.streaming = false)

include streaming in
theorem Site.Moves.alone (moves : Site.Moves surroundings before after) (alone : before.Alone) :
    after.Alone := by
  cases moves with
  | relay update streams =>
      rw [streaming] at streams
      contradiction
  | deliver relayed =>
      rw [alone.relayed] at relayed
      contradiction
  | _ => exact ⟨alone.relayed, alone.deliveries⟩

theorem Site.Answers.alone {call : Call Signature} {response : call.Response}
    (answers : before.Answers surroundings after call response) (alone : before.Alone) : after.Alone := by
  have changes := answers.changes
  refine ⟨changes.relayed.trans alone.relayed, ?_⟩
  rcases changes.deliveries with same | same
  · exact same.trans alone.deliveries
  · exact same

include streaming in
theorem executes_alone (execution : Program.Executes (siteEnvironment surroundings) before trace after)
    (alone : before.Alone) : after.Alone := by
  have answered : ∀ first event second, event ∈ trace →
      (siteEnvironment surroundings).answers first event.1 event.2 second →
      first.Alone → second.Alone := fun _ _ _ _ answer alone => answer.2.alone alone
  have moved : ∀ first second : Site Signature, Site.Moves surroundings first second →
      first.Alone → second.Alone :=
    fun _ _ moves alone => moves.alone streaming alone
  have kept := execution.keeps_events answered moved alone
  exact kept

include streaming in
/-- Nothing is drained where nothing is handed over. -/
theorem Site.Alone.undelivered (alone : before.Alone)
    (execution : Program.Executes (siteEnvironment surroundings) before trace after) :
    delivered trace = [] := by
  refine List.flatMap_eq_nil_iff.mpr ?_
  rintro ⟨call, response⟩ member
  obtain ⟨_, _, ready, _, _, earlier, answer, _⟩ := execution.at_event member
  cases call with
  | drainDelivered =>
      have drained : response = ready.deliveries := answer.2.1
      exact drained.trans (executes_alone streaming earlier alone).deliveries
  | _ => rfl

include streaming in
theorem Site.Moves.unsent (moves : Site.Moves surroundings before after) (unsent : Unsent signature before) :
    Unsent signature after := by
  cases moves with
  | relay update streams =>
      rw [streaming] at streams
      contradiction
  | _ => exact unsent

theorem Site.Answers.unsent {call : Call Signature} {response : call.Response}
    (unqueued : signature ∉ queuedBy ⟨call, response⟩)
    (answers : before.Answers surroundings after call response) (unsent : Unsent signature before) :
    Unsent signature after := by
  intro update member
  rcases answers.changes.pipeline with same | ⟨pushed, rfl, same⟩
  · rw [same] at member
    exact unsent update member
  · cases response with
    | error closed =>
        obtain rfl := answers
        exact unsent update member
    | ok _ =>
        rw [same] at member
        rcases List.mem_append.mp member with member | member
        · exact unsent update member
        · cases List.mem_singleton.mp member
          intro equal
          exact unqueued (by simp [queuedBy, equal])

include streaming in
/-- What no command queues stays out of the pipeline. -/
theorem Unsent.execute (unqueued : signature ∉ queued trace)
    (execution : Program.Executes (siteEnvironment surroundings) before trace after)
    (unsent : Unsent signature before) : Unsent signature after := by
  have answered : ∀ first event second, event ∈ trace →
      (siteEnvironment surroundings).answers first event.1 event.2 second →
      Unsent signature first → Unsent signature second := by
    rintro first ⟨call, response⟩ second member answer unsent
    refine answer.2.unsent (fun sent => unqueued ?_) unsent
    exact List.mem_flatMap.mpr ⟨⟨call, response⟩, member, sent⟩
  have moved : ∀ first second, Site.Moves surroundings first second →
      Unsent signature first → Unsent signature second :=
    fun _ _ moves unsent => moves.unsent streaming unsent
  have kept := execution.keeps_events answered moved unsent
  exact kept

end Unsent

omit [LinearOrder Signature] [SignatureText Signature] in
theorem queued_outside (outside : ∀ event ∈ trace, event.1.Outside) : queued trace = [] := by
  refine List.flatMap_eq_nil_iff.mpr ?_
  rintro ⟨call, response⟩ member
  cases call with
  | send update => exact (outside _ member).elim
  | _ => rfl

/-! ## Turns of the second process -/

section Turns

variable {before after : Watched Signature} {next : PollingLoop Signature}
  (streaming : surroundings.streaming = false)

include streaming

/-- Wherever a turn stops, it has not queued what is hidden. -/
theorem Hides.unqueued_turn {control : Task Signature (Consumption Signature ⊕ Stopped)}
    (hides : Hides slotOf datasource.replayWindow.slots addresses signature loop.state)
    (reached : Program.Advances (pollingTurn codec datasource addresses pages loop) trace control)
    (execution : Program.Executes (watchedEnvironment slotOf surroundings) before trace after)
    (alone : before.site.Alone) : signature ∉ queued trace := by
  rcases pollingTurn_stages reached with
    ⟨outside, _⟩ | ⟨started, checked, polling, saved, rfl, run, outside, later⟩
  · simp [queued_outside outside]
  obtain ⟨ready, opens, polls⟩ : ∃ ready, Program.Executes (watchedEnvironment slotOf surroundings) before
      (⟨.cancelled, false⟩ :: ⟨.now, started⟩ :: checked) ready ∧
      Program.Executes (watchedEnvironment slotOf surroundings) ready polling after := execution.split
  have readyAlone := executes_alone streaming (executes_site opens) alone
  have opening : queued (⟨.cancelled, false⟩ :: ⟨.now, started⟩ :: (checked ++ polling)) = queued polling := by
    have none := queued_outside outside
    simpa [queued, queuedBy] using none
  rw [opening]
  rw [← beforePoll_state run] at hides
  rcases later.bind_cases with ⟨middle, advanced, _⟩ | ⟨polled, concluding, ⟨result, final⟩, rfl, ends, concludes⟩
  · exact hides.unqueued_partial advanced (executes_answered (executes_site polls)) (executes_shows polls)
      (readyAlone.undelivered streaming (executes_site polls))
  · obtain ⟨_, polledIn, _⟩ := polls.split
    have undelivered := readyAlone.undelivered streaming (executes_site polledIn)
    have unsent : ∀ event ∈ concluding, event.1.Outside :=
      (concludePoll_outside.advances concludes (by simp [Program.Allowed])).1
    rw [queued_append, queued_outside unsent, List.append_nil]
    exact hides.unqueued ends (executes_answered (executes_site polledIn))
      ((executes_shows polledIn).reports undelivered) undelivered

/-- After a turn it is still hidden. -/
theorem Hides.completes {result : Except (PollError Signature) PollOutcome}
    (hides : Hides slotOf datasource.replayWindow.slots addresses signature loop.state)
    (within : Within before.observed loop.state.cursors)
    (completes : Completes codec datasource addresses loop trace result next)
    (execution : Program.Executes (watchedEnvironment slotOf surroundings) before trace after)
    (alone : before.site.Alone) :
    Hides slotOf datasource.replayWindow.slots addresses signature next.state ∧
      Within after.observed next.state.cursors := by
  obtain ⟨checked, saving, polled, concluding, refreshed, saved, pages, state, rfl, refreshes,
    saves, ends, rfl, _⟩ := completes.parts
  obtain ⟨_, checks, execution⟩ := execution.split
  obtain ⟨ready, savesIn, execution⟩ := execution.split
  obtain ⟨_, polls, concludes⟩ := execution.split
  have readyAlone := executes_alone streaming (executes_site savesIn)
    (executes_alone streaming (executes_site checks) alone)
  have sameState : saved.state = loop.state := by
    obtain ⟨_, rfl⟩ := saveCheckpoint_keeps saves
    rcases refreshes.drained with rfl | ⟨rfl, _⟩ <;> rfl
  have answered := executes_answered (executes_site polls)
  have recorded : (recordPoll saved (result, state)).2.state = state := recordPoll_keeps.1
  rw [sameState] at ends
  rw [recorded]
  have readyWithin : Within ready.observed loop.state.cursors :=
    within.mono ((executes_observed checks).trans (executes_observed savesIn))
  obtain ⟨stateWithin, behind⟩ := poll_advances ends answered (executes_shows polls)
    (executes_observed polls) readyWithin
  have reports := (executes_shows polls).reports (readyAlone.undelivered streaming (executes_site polls))
  exact ⟨hides.poll ends answered reports behind, stateWithin.mono (executes_observed concludes)⟩

end Turns

/-! ## The second process -/

theorem restore_reopened {journal : Journal Signature} {faults : Faults} {name : String} :
    (({ file := journal.file } : Journal Signature).restore faults name).1 =
      (journal.restore faults name).1 := by
  unfold Journal.restore
  cases found : (readJournal faults journal.file : Except FileStep (Option String × List (Signature × Slot))) with
  | error step => rfl
  | ok read =>
      obtain ⟨header, entries⟩ := read
      by_cases same : header = some name
      · simp only [same, if_true]
      · simp only [same, if_false]

theorem rounds_observed {control final : Consumption Signature} {before after : Watched Signature}
    (rounds : Program.Rounds (watchedEnvironment slotOf surroundings)
      (consume codec datasource addresses pages) (fun _ _ _ => True) control before final after) :
    before.observed ≤ after.observed := by
  induction rounds with
  | start => exact Nat.le_refl _
  | next _ _ execution _ ih => exact ih.trans (executes_observed execution)

section Processes

variable (names : NamesTarget surroundings datasource addresses)
  (streaming : surroundings.streaming = false) (faultless : surroundings.faults = {noFaults})
  {snapshot : CheckpointSnapshot Signature} {crashed : Watched Signature}

include streaming faultless in
/-- The next process resumes the rewound checkpoint, and what its files retain
hides every shipped transaction. -/
theorem Retains.resumes {begun : PollingLoop Signature} {started : Site Signature} {entry : Signature × Slot}
    (retains : Retains slotOf (surroundings.store datasource addresses) codec names.identity
      datasource.replayWindow.slots (some snapshot) crashed.site)
    (starts : Starts surroundings codec datasource addresses pages crashed.site.restart begun started)
    (shipped : entry ∈ crashed.site.shipped) :
    Behind begun.state.cursors snapshot.cursors ∧
      Hides slotOf datasource.replayWindow.slots addresses entry.1 begun.state := by
  obtain ⟨bounded, complete⟩ := retains.sound snapshot rfl
  obtain ⟨entries, agrees, slots, kept⟩ := retains.journal
  have found : LoadsFrom (surroundings.store datasource addresses) codec crashed.site.restart.checkpoint
      (.loaded (snapshot.rewind datasource.replayWindow.slots)) := by
    rw [show crashed.site.restart.checkpoint = _ from retains.checkpoint]
    exact loadsFrom_encode ⟨bounded, complete⟩ rfl
  obtain ⟨ready, restored, reopened, faults, admitted, drifts, restores, _, rfl⟩ := starts.loaded found
  rw [faultless] at admitted
  cases admitted
  have untouched := drifts_untouched streaming drifts untouched_boot
  have same : restored = entries := by
    have listed := congrArg Prod.fst restores
    rw [show ready.journal = { file := crashed.site.journal.file } from untouched.journal,
      restore_reopened] at listed
    exact listed.symm.trans agrees.restored
  let begun := beginPolling (surroundings.store datasource addresses)
    ((snapshot.rewind datasource.replayWindow.slots).resume.recordRecentSignatures restored)
  have cursors : ∀ address : Address, begun.state.cursors[address]? = snapshot.cursors[address]?.map
      fun cursor => ⟨cursor.scannedSlot - datasource.replayWindow.slots⟩ := by
    intro address
    dsimp only [begun, beginPolling]
    rw [recordRecentSignatures_cursors, resume_cursors, rewind_getElem?]
  have rewound : ∀ (address : Address) (cursor : AddressCursor), begun.state.cursors[address]? = some cursor →
      ∃ earlier, snapshot.cursors[address]? = some earlier ∧
        cursor.scannedSlot = earlier.scannedSlot - datasource.replayWindow.slots := by
    intro address cursor present
    rw [cursors address] at present
    obtain ⟨earlier, there, rfl⟩ := Option.map_eq_some_iff.mp present
    exact ⟨earlier, there, rfl⟩
  refine ⟨fun address cursor present => ?_, fun address monitored => ?_, ?_⟩
  · obtain ⟨earlier, there, same⟩ := rewound address cursor present
    exact ⟨earlier, there, same ▸ Nat.sub_le _ _⟩
  · have listed : address ∈ snapshot.cursors := by
      rw [← ExtTreeMap.mem_keys, complete]
      exact List.mem_dedup.mpr ((List.mem_insertionSort (· ≤ ·)).mpr monitored)
    obtain ⟨cursor, present⟩ := OrderedMap.mem_iff_getElem?.mp listed
    exact ⟨_, (cursors address).trans (by rw [present]; rfl)⟩
  rcases kept entry shipped with member | ⟨_, ⟨⟩, outOfReach⟩
  · obtain ⟨⟨_, slot⟩, inside, named⟩ := List.mem_map.mp member
    cases named
    obtain ⟨value, recent, listed⟩ := OrderedMap.getElem?_insertAll_of_mem inside
    refine .inl ?_
    dsimp only [begun, beginPolling]
    rw [same, recordRecentSignatures_recentSignatures]
    exact recent.trans (congrArg some (slots _ listed))
  · refine .inr fun address cursor present => ?_
    obtain ⟨earlier, there, same⟩ := rewound address cursor present
    have twice : ∀ slot cursor window : Nat, slot ≤ cursor - 2 * window →
        slot ≤ cursor - window - window := by omega
    rw [same]
    exact twice _ _ _ (outOfReach address earlier there)

section Hidden

variable {initial : Watched Signature} (alone : initial.site.Alone) (empty : initial.site.pipeline.sent = [])
  (hidden : ∀ (begun : PollingLoop Signature) (started : Watched Signature),
    initial.observed ≤ started.observed →
    Starts surroundings codec datasource addresses pages initial.site begun started.site →
    Within started.observed begun.state.cursors ∧
      Hides slotOf datasource.replayWindow.slots addresses signature begun.state)

include streaming alone empty in
/-- Nothing is sent as long as a process starts up. -/
theorem starting_unsent {waiting stopped : Watched Signature}
    {control : Task Signature (Consumption Signature ⊕ Stopped)}
    (waited : Program.Rounds (watchedEnvironment slotOf surroundings)
      (consume codec datasource addresses pages) (fun _ _ _ => True) .readingGenesisHash initial
      .readingGenesisHash waiting)
    (reads : Program.Advances (readGenesisHash codec datasource addresses) trace control)
    (execution : Program.Executes (watchedEnvironment slotOf surroundings) waiting trace stopped) :
    stopped.site.Alone ∧ Unsent signature stopped.site := by
  have fresh : Unsent signature initial.site := by
    intro update member
    rw [empty] at member
    contradiction
  have moved : ∀ first second : Site Signature, Site.Moves surroundings first second →
      first.Alone ∧ Unsent signature first → second.Alone ∧ Unsent signature second :=
    fun _ _ moves kept => ⟨moves.alone streaming kept.1, moves.unsent streaming kept.2⟩
  have kept : waiting.site.Alone ∧ Unsent signature waiting.site :=
    keeps_waiting moved (waited.map Watched.site fun _ _ _ => executes_site) ⟨alone, fresh⟩
  have outside := (readGenesisHash_outside.advances reads (by simp [Program.Allowed])).1
  refine ⟨executes_alone streaming (executes_site execution) kept.1, ?_⟩
  refine kept.2.execute streaming ?_ (executes_site execution)
  simp [queued_outside outside]

include streaming alone empty hidden in
/-- What the checkpoint hides is hidden before every turn. -/
theorem turns_hide {turning : Watched Signature} {control : Consumption Signature}
    (rounds : Program.Rounds (watchedEnvironment slotOf surroundings)
      (consume codec datasource addresses pages) (fun _ _ _ => True) .readingGenesisHash initial control
      turning) :
    control = .readingGenesisHash ∨ ∃ loop : PollingLoop Signature, control = .polling loop ∧
      Hides slotOf datasource.replayWindow.slots addresses signature loop.state ∧
      Within turning.observed loop.state.cursors ∧ turning.site.Alone ∧ Unsent signature turning.site := by
  rcases consume_rounds_cases rounds with
    rfl | ⟨waiting, startTrace, begun, started, loop, waited, starts, startsIn, rfl, turns⟩
  · exact .inl rfl
  refine .inr ?_
  obtain ⟨startedAlone, startedUnsent⟩ := starting_unsent streaming alone empty waited starts startsIn
  obtain ⟨within, hides⟩ := hidden begun started
    ((rounds_observed waited).trans (executes_observed startsIn)) (watched_starts waited starts startsIn)
  have kept : ∀ (current : Consumption Signature) (earlier : Watched Signature),
      Program.Rounds (watchedEnvironment slotOf surroundings) (consume codec datasource addresses pages)
        (fun _ _ _ => True) (.polling begun) started current earlier →
      ∃ loop : PollingLoop Signature, current = .polling loop ∧
        Hides slotOf datasource.replayWindow.slots addresses signature loop.state ∧
        Within earlier.observed loop.state.cursors ∧ earlier.site.Alone ∧ Unsent signature earlier.site := by
    intro current earlier turns
    induction turns with
    | start => exact ⟨begun, rfl, hides, within, startedAlone, startedUnsent⟩
    | next _ run execution _ ih =>
        obtain ⟨loop, rfl, hides, within, alone, unsent⟩ := ih
        obtain ⟨_, next, rfl, completes⟩ := pollingTurn_completes run
        obtain ⟨nextHides, nextWithin⟩ := hides.completes streaming within completes execution alone
        exact ⟨next, rfl, nextHides, nextWithin, executes_alone streaming (executes_site execution) alone,
          unsent.execute streaming (hides.unqueued_turn streaming run execution alone)
            (executes_site execution)⟩
  exact kept _ _ turns

include streaming alone empty hidden in
/-- A process whose checkpoint hides a transaction never queues it. -/
theorem reaches_unsent {final : Watched Signature}
    {control : Task Signature (Consumption Signature ⊕ Stopped)}
    (reaches : Program.Reaches (watchedEnvironment slotOf surroundings)
      (consume codec datasource addresses pages) (fun _ _ _ => True) .readingGenesisHash initial control
      final) : Unsent signature final.site := by
  obtain ⟨current, earlier, trace, rounds, reached, execution⟩ := reaches
  rcases turns_hide streaming alone empty hidden rounds with
    rfl | ⟨loop, rfl, hides, _, turningAlone, unsent⟩
  · exact (starting_unsent streaming alone empty rounds reached execution).2
  · exact unsent.execute streaming (hides.unqueued_turn streaming reached execution turningAlone)
      (executes_site execution)

end Hidden

include streaming faultless in
/-- What the first process shipped is hidden from the next one at its start. -/
theorem Retains.hidden {begun : PollingLoop Signature} {started : Watched Signature} {entry : Signature × Slot}
    (retains : Retains slotOf (surroundings.store datasource addresses) codec names.identity
      datasource.replayWindow.slots (some snapshot) crashed.site)
    (within : Within crashed.observed snapshot.cursors) (le : crashed.observed ≤ started.observed)
    (starts : Starts surroundings codec datasource addresses pages crashed.site.restart begun started.site)
    (shipped : entry ∈ crashed.site.shipped) :
    Within started.observed begun.state.cursors ∧
      Hides slotOf datasource.replayWindow.slots addresses entry.1 begun.state := by
  obtain ⟨behind, hides⟩ := retains.resumes names streaming faultless starts shipped
  exact ⟨(behind.within within).mono le, hides⟩

include names streaming faultless in
/-- At a consistent endpoint, wherever a process without a checkpoint is killed
after it has saved one, the next process queues none of the transactions that
the first one shipped. -/
theorem crash_reemits_nothing {file : Option (List Char)} {observed : Slot} {final : Watched Signature}
    {control next : Task Signature (Consumption Signature ⊕ Stopped)}
    (reaches : Program.Reaches (watchedEnvironment slotOf surroundings)
      (consume codec datasource addresses pages) (fun _ _ _ => True) .readingGenesisHash
      ⟨.boot none file, observed⟩ control crashed) (written : crashed.site.replacements ≠ 0)
    (restarts : Program.Reaches (watchedEnvironment slotOf surroundings)
      (consume codec datasource addresses pages) (fun _ _ _ => True) .readingGenesisHash
      ⟨crashed.site.restart, crashed.observed⟩ next final) :
    ∀ entry ∈ crashed.site.shipped, ∀ update, .transaction update ∈ final.site.pipeline.sent →
      update.signature ≠ entry.1 := by
  obtain ⟨snapshot, within, retains⟩ := reaches_retains names streaming faultless reaches written
  intro entry shipped
  have booted : (⟨crashed.site.restart, crashed.observed⟩ : Watched Signature).site.Alone := ⟨rfl, rfl⟩
  exact reaches_unsent streaming booted rfl (fun begun started le starts =>
    retains.hidden names streaming faultless within le starts shipped) restarts

include names streaming faultless in
/-- Nor does any retention cost the next process a transaction it can list: with
the poller as the only datasource, whatever was shipped before the crash is never
queued again, and before every later turn it is a recent one or below every
listing. -/
theorem retention_covers_restart {file : Option (List Char)} {observed : Slot}
    {control : Task Signature (Consumption Signature ⊕ Stopped)}
    (reaches : Program.Reaches (watchedEnvironment slotOf surroundings)
      (consume codec datasource addresses pages) (fun _ _ _ => True) .readingGenesisHash
      ⟨.boot none file, observed⟩ control crashed) (written : crashed.site.replacements ≠ 0) :
    ∀ entry ∈ crashed.site.shipped,
      (∀ (next : Task Signature (Consumption Signature ⊕ Stopped)) (final : Watched Signature),
        Program.Reaches (watchedEnvironment slotOf surroundings) (consume codec datasource addresses pages)
          (fun _ _ _ => True) .readingGenesisHash ⟨crashed.site.restart, crashed.observed⟩ next final →
        ∀ update, .transaction update ∈ final.site.pipeline.sent → update.signature ≠ entry.1) ∧
      ∀ (loop : PollingLoop Signature) (turning : Watched Signature),
        Program.Rounds (watchedEnvironment slotOf surroundings) (consume codec datasource addresses pages)
          (fun _ _ _ => True) .readingGenesisHash ⟨crashed.site.restart, crashed.observed⟩ (.polling loop)
          turning →
        entry.1 ∈ loop.state.recentSignatures ∨
          ∀ (address : Address) (cursor : AddressCursor), loop.state.cursors[address]? = some cursor →
            slotOf entry.1 ≤ cursor.scannedSlot - datasource.replayWindow.slots := by
  obtain ⟨snapshot, within, retains⟩ := reaches_retains names streaming faultless reaches written
  intro entry shipped
  have booted : (⟨crashed.site.restart, crashed.observed⟩ : Watched Signature).site.Alone := ⟨rfl, rfl⟩
  have hidden : ∀ (begun : PollingLoop Signature) (started : Watched Signature),
      crashed.observed ≤ started.observed →
      Starts surroundings codec datasource addresses pages crashed.site.restart begun started.site →
      Within started.observed begun.state.cursors ∧
        Hides slotOf datasource.replayWindow.slots addresses entry.1 begun.state :=
    fun begun started le starts => retains.hidden names streaming faultless within le starts shipped
  refine ⟨fun next final restarts => reaches_unsent streaming booted rfl hidden restarts, ?_⟩
  intro loop turning rounds
  rcases turns_hide streaming booted rfl hidden rounds with impossible | ⟨_, same, hides, _⟩
  · contradiction
  · cases same
    refine hides.hidden.imp_left fun known => ?_
    exact OrderedMap.mem_iff_getElem?.mpr ⟨_, known⟩

end Processes

/-! ## Scenes whose head stands -/

section Standing

variable {scene : Scene Signature} {genesisHash : String} {head : Slot}

/-- The scene shows this head, and no transaction above it. -/
structure Scene.Stands (scene : Scene Signature) (slotOf : Signature → Slot) (head : Slot) : Prop where
  typed : scene.Typed
  consistent : scene.Consistent slotOf
  headSlot : scene.headSlot = head
  entries : ∀ entry ∈ scene.entries, entry.1.slot ≤ head

theorem Scene.Stands.standing (stands : scene.Stands slotOf head) (site : Site Signature)
    (call : Call Signature) : call.Standing slotOf head (scene.perform genesisHash site call).1 := by
  cases call with
  | rpc call =>
      cases call with
      | getSlot =>
          have shows : scene.headSlot = head := stands.headSlot
          exact ⟨Nat.le_of_eq shows.symm, fun slot member => (List.mem_singleton.mp member).trans shows |>.le⟩
      | getSignaturesForAddress address before limit minimumContext =>
          have listed : ∀ info ∈ pageOf (listedEntries scene.entries address (scene.contextOf address))
              before limit, ∃ entry ∈ scene.entries, info = infoOf entry.1 := by
            intro info member
            obtain ⟨discovered, taken, rfl⟩ := List.mem_map.mp member
            obtain ⟨entry, inside, rfl⟩ := List.mem_map.mp (mem_of_mem_older (List.mem_of_mem_take taken))
            exact ⟨entry, (List.mem_filter.mp inside).1, rfl⟩
          constructor
          · intro info member signature parsed
            obtain ⟨entry, inside, rfl⟩ := listed info member
            have same := parsed.symm.trans (SignatureText.fromText_toText entry.1.signature)
            cases same
            exact stands.consistent.entries entry inside
          · intro slot member
            obtain ⟨info, inPage, rfl⟩ := List.mem_map.mp member
            obtain ⟨entry, inside, rfl⟩ := listed info inPage
            exact stands.entries entry inside
      | fetchTransactions signatures =>
          refine ⟨fun signature transaction member => ?_, fun slot member => by cases member⟩
          obtain ⟨fetched, _, same⟩ := List.mem_map.mp member
          obtain ⟨rfl, outcome⟩ := Prod.mk.inj same
          exact stands.consistent.outcome fetched transaction outcome
      | _ => exact ⟨trivial, fun slot member => by cases member⟩
  | _ => exact ⟨trivial, fun slot member => by cases member⟩

theorem Scene.round_watched {site after : Site Signature} {control : Consumption Signature} {observed : Slot}
    {result : Consumption Signature ⊕ Stopped} (stands : scene.Stands slotOf head) (quiet : site.Quiet)
    (le : observed ≤ head)
    (rounds : scene.round genesisHash codec datasource addresses site control = (trace, result, after)) :
    Program.Run (consume codec datasource addresses 1 control) trace result ∧ after.Quiet ∧
      ∃ later ≤ head, Program.Executes (watchedEnvironment slotOf (undisturbed genesisHash))
        ⟨site, observed⟩ trace ⟨after, later⟩ := by
  obtain ⟨run, execution, stillQuiet⟩ := scene.round_spec stands.typed quiet rounds
  have stood : ∀ (site : Site Signature) (call : Call Signature),
      call.Standing slotOf head (scene.perform genesisHash site call).1 := stands.standing
  have standing := Program.runWith_allowed stood site (consume codec datasource addresses 1 control)
  unfold Scene.round at rounds
  rw [rounds] at standing
  exact ⟨run, stillQuiet, executes_watched execution standing le⟩

theorem watched_runsIn {scenes : List (Scene Signature)} {start control final : Consumption Signature}
    {initial : Watched Signature} {site after : Site Signature} {observed : Slot}
    (stand : ∀ scene ∈ scenes, scene.Stands slotOf head) (quiet : site.Quiet) (le : observed ≤ head)
    (earlier : Program.Rounds (watchedEnvironment slotOf (undisturbed genesisHash))
      (consume codec datasource addresses 1) (fun _ _ _ => True) start initial control ⟨site, observed⟩)
    (reached : runsIn genesisHash codec datasource addresses scenes control site = some (final, after)) :
    ∃ later ≤ head, Program.Rounds (watchedEnvironment slotOf (undisturbed genesisHash))
      (consume codec datasource addresses 1) (fun _ _ _ => True) start initial final ⟨after, later⟩ := by
  induction scenes generalizing control site observed with
  | nil =>
      cases reached
      exact ⟨observed, le, earlier⟩
  | cons scene scenes ih =>
      unfold runsIn at reached
      cases rounds : scene.round genesisHash codec datasource addresses site control with
      | mk trace outcome =>
          obtain ⟨result, next⟩ := outcome
          rw [rounds] at reached
          obtain ⟨run, stillQuiet, later, laterLe, execution⟩ :=
            scene.round_watched (stand scene List.mem_cons_self) quiet le rounds
          cases result with
          | inr stopped => cases reached
          | inl further =>
              have others := fun other member => stand other (List.mem_cons_of_mem _ member)
              exact ih others stillQuiet laterLe (.next earlier run execution trivial) reached

end Standing

/-! The first process of the sample program ships signature 1, and the next one
finds a newer transaction too. -/

def reemissionSlotOf (signature : Fin 58) : Slot := if signature = 2 then 98 else 95

theorem reemissionSlot_le (signature : Fin 58) : reemissionSlotOf signature ≤ u64Max := by
  revert signature
  decide

def reemissionScene (listed : List (Fin 58)) : Scene (Fin 58) where
  headSlot := 100
  firstAvailableBlock := 0
  entries := listed.map fun signature => ({ signature, slot := reemissionSlotOf signature }, ["program"])
  contextOf := fun _ => 100
  outcome := fun signature => .ok (convertible (reemissionSlotOf signature) (reemissionSlot_le signature))
  delivered := []

theorem reemissionScene_stands {listed : List (Fin 58)} :
    (reemissionScene listed).Stands reemissionSlotOf 100 where
  typed := ⟨by simp [reemissionScene, u64Max], by simp [reemissionScene, reemissionSlot_le],
    by simp [reemissionScene]⟩
  consistent := by
    refine ⟨by simp [reemissionScene], by simp [reemissionScene], ?_⟩
    rintro signature transaction ⟨⟩
    rfl
  headSlot := rfl
  entries := by
    intro entry member
    have within : ∀ signature : Fin 58, reemissionSlotOf signature ≤ 100 := by decide
    obtain ⟨signature, _, rfl⟩ := List.mem_map.mp member
    exact within signature

def reemissionRounds : Option (Consumption (Fin 58) × Site (Fin 58)) :=
  runsIn "genesis" durableCodec sampleDatasource ["program"]
    [reemissionScene [1], reemissionScene [1], reemissionScene [1]] .readingGenesisHash (.boot none none)

/-- The first process up to its crash, and the next one through its first turn. -/
theorem reemission_runs : ∃ crashed final : Watched (Fin 58),
    ∃ control : Task (Fin 58) (Consumption (Fin 58) ⊕ Stopped),
    (1, 95) ∈ crashed.site.shipped ∧ crashed.site.replacements ≠ 0 ∧
    Program.Reaches (watchedEnvironment reemissionSlotOf (undisturbed "genesis"))
      (consume durableCodec sampleDatasource ["program"] 1) (fun _ _ _ => True) .readingGenesisHash
      ⟨.boot none none, 0⟩ control crashed ∧
    ∃ started loop startTrace trace result,
      Program.Run (readGenesisHash durableCodec sampleDatasource ["program"]) startTrace
        (.inl (.polling loop)) ∧
      Program.Executes (watchedEnvironment reemissionSlotOf (undisturbed "genesis"))
        ⟨crashed.site.restart, crashed.observed⟩ startTrace started ∧
      Program.Run (pollingTurn durableCodec sampleDatasource ["program"] 1 loop) trace result ∧
      Program.Executes (watchedEnvironment reemissionSlotOf (undisturbed "genesis")) started trace final := by
  have ships : reemissionRounds.any (fun reached => reached.2.replacements = 1 ∧
      (1, 95) ∈ reached.2.shipped) = true := by decide +kernel
  obtain ⟨⟨control, site⟩, found, counted⟩ := (Option.any_eq_true _ _).mp ships
  obtain ⟨written, shipped⟩ := of_decide_eq_true counted
  have unwritten : site.replacements ≠ 0 := by
    rw [written]
    exact Nat.one_ne_zero
  have booted : (Site.boot none none : Site (Fin 58)).Quiet := rfl
  -- The first process, up to its crash.
  obtain ⟨observed, le, rounds⟩ : ∃ later ≤ 100,
      Program.Rounds (watchedEnvironment reemissionSlotOf (undisturbed "genesis"))
        (consume durableCodec sampleDatasource ["program"] 1) (fun _ _ _ => True) .readingGenesisHash
        ⟨.boot none none, 0⟩ control ⟨site, later⟩ :=
    watched_runsIn (by simp [reemissionScene_stands]) booted (Nat.zero_le 100) .start found
  have reaches : Program.Reaches (watchedEnvironment reemissionSlotOf (undisturbed "genesis"))
      (consume durableCodec sampleDatasource ["program"] 1) (fun _ _ _ => True) .readingGenesisHash
      ⟨.boot none none, 0⟩ (consume durableCodec sampleDatasource ["program"] 1 control) ⟨site, observed⟩ :=
    ⟨control, _, [], rounds, .start _, .idle .refl⟩
  obtain ⟨snapshot, _, retains⟩ := reaches_retains sample_namesTarget rfl rfl reaches unwritten
  obtain ⟨bounded, complete⟩ := retains.sound snapshot rfl
  -- The next process starts, and goes through one turn.
  have admitted : noFaults ∈ (undisturbed "genesis").faults := rfl
  have loads : ((undisturbed "genesis").store sampleDatasource ["program"]).interpret durableCodec
      (((undisturbed "genesis").store sampleDatasource ["program"]).encode durableCodec snapshot) =
        .ok (.loaded (snapshot.rewind 10)) := CheckpointStore.interpret_encode bounded rfl complete
  have content : site.restart.checkpoint =
    some (((undisturbed "genesis").store sampleDatasource ["program"]).encode durableCodec snapshot) :=
      retains.checkpoint
  obtain ⟨restored, loop, started, run, execution⟩ := loads_begins admitted content loads
  have quiet : started.Quiet := by
    have alone : site.restart.Alone := ⟨rfl, rfl⟩
    exact (executes_alone rfl execution alone).deliveries
  obtain ⟨begunAt, begunLe, begins⟩ : ∃ later ≤ 100, Program.Executes
      (watchedEnvironment reemissionSlotOf (undisturbed "genesis")) ⟨site.restart, observed⟩ _
      ⟨started, later⟩ := executes_watched execution (by
    intro event member
    simp only [List.mem_cons, List.not_mem_nil, or_false] at member
    rcases member with rfl | rfl | rfl <;> exact ⟨trivial, fun slot shown => by cases shown⟩) le
  cases turn : (reemissionScene [2, 1]).round "genesis" durableCodec sampleDatasource ["program"] started
      (.polling loop) with
  | mk trace outcome =>
  obtain ⟨result, ended⟩ := outcome
  obtain ⟨turns, _, endedAt, _, turnsIn⟩ :=
    Scene.round_watched reemissionScene_stands quiet begunLe turn
  exact ⟨⟨site, observed⟩, ⟨ended, endedAt⟩, _, shipped, unwritten, reaches, ⟨started, begunAt⟩, loop, _,
    trace, result, run, begins, turns, turnsIn⟩

/-- However the first turn of the next process ends, it has not queued signature
1 again. -/
theorem crash_reemits_nothing_again : ∃ crashed final : Watched (Fin 58),
    (1, 95) ∈ crashed.site.shipped ∧
    (∃ started loop trace result,
      Starts (undisturbed "genesis") durableCodec sampleDatasource ["program"] 1 crashed.site.restart loop
        started.site ∧
      Program.Run (pollingTurn durableCodec sampleDatasource ["program"] 1 loop) trace result ∧
      Program.Executes (watchedEnvironment reemissionSlotOf (undisturbed "genesis")) started trace final) ∧
    ∀ update, .transaction update ∈ final.site.pipeline.sent → update.signature ≠ (1 : Fin 58) := by
  obtain ⟨crashed, final, control, shipped, written, reaches, started, loop, startTrace, trace, result, run,
    begins, turns, turnsIn⟩ := reemission_runs
  have restarts : Program.Reaches (watchedEnvironment reemissionSlotOf (undisturbed "genesis"))
      (consume durableCodec sampleDatasource ["program"] 1) (fun _ _ _ => True) .readingGenesisHash
      ⟨crashed.site.restart, crashed.observed⟩ (.done result) final :=
    ⟨.polling loop, _, trace, .next .start run begins trivial, turns, turnsIn⟩
  refine ⟨crashed, final, shipped, ⟨started, loop, trace, result, ?_, turns, turnsIn⟩, ?_⟩
  · exact ⟨crashed.site.restart, _, .start, run, executes_site begins⟩
  · exact crash_reemits_nothing sample_namesTarget rfl rfl reaches written restarts (1, 95) shipped

/-- Signature 1 is recent, or below every listing, when the next process begins
its first turn. -/
theorem retention_covers_restart_again : ∃ crashed turning : Watched (Fin 58),
    ∃ loop : PollingLoop (Fin 58), (1, 95) ∈ crashed.site.shipped ∧
    Program.Rounds (watchedEnvironment reemissionSlotOf (undisturbed "genesis"))
      (consume durableCodec sampleDatasource ["program"] 1) (fun _ _ _ => True) .readingGenesisHash
      ⟨crashed.site.restart, crashed.observed⟩ (.polling loop) turning ∧
    (∀ (next : Task (Fin 58) (Consumption (Fin 58) ⊕ Stopped)) (final : Watched (Fin 58)),
      Program.Reaches (watchedEnvironment reemissionSlotOf (undisturbed "genesis"))
        (consume durableCodec sampleDatasource ["program"] 1) (fun _ _ _ => True) .readingGenesisHash
        ⟨crashed.site.restart, crashed.observed⟩ next final →
      ∀ update, .transaction update ∈ final.site.pipeline.sent → update.signature ≠ (1 : Fin 58)) ∧
    ((1 : Fin 58) ∈ loop.state.recentSignatures ∨ ∀ (address : Address) (cursor : AddressCursor),
      loop.state.cursors[address]? = some cursor → 95 ≤ cursor.scannedSlot - 10) := by
  obtain ⟨crashed, _, control, shipped, written, reaches, started, loop, _, _, _, run, begins, _⟩ :=
    reemission_runs
  have rounds : Program.Rounds (watchedEnvironment reemissionSlotOf (undisturbed "genesis"))
      (consume durableCodec sampleDatasource ["program"] 1) (fun _ _ _ => True) .readingGenesisHash
      ⟨crashed.site.restart, crashed.observed⟩ (.polling loop) started := .next .start run begins trivial
  obtain ⟨unqueued, covered⟩ :=
    retention_covers_restart sample_namesTarget rfl rfl reaches written (1, 95) shipped
  exact ⟨crashed, started, loop, shipped, rounds, unqueued, covered loop started rounds⟩

end Microscope.Polling
