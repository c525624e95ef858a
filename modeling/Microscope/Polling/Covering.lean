import Microscope.Polling.Availability
import Microscope.Polling.Coverage
import Microscope.Polling.Draining
import Microscope.Polling.Retention

namespace Microscope.Shipped

open Std Microscope.Data

/-! # What a process covers

Whatever a process has not passed on is quarantined or within reach of its live
state, and whatever has not been processed is quarantined or within reach of its
processed state.  Every turn keeps this, however its poll ends.
-/

variable {Signature : Type} [LinearOrder Signature] [SignatureText Signature]
  {journal : Journal Signature} {known more : Set Signature}

/-- The file is a journal without broken lines, and lists only what is known. -/
def Journal.Lists (known : Set Signature) (journal : Journal Signature) : Prop :=
  ∃ contents, journal.Contains contents ∧ ∀ entry ∈ (contents.getD {}).entries, entry.1 ∈ known

namespace Journal.Lists

theorem mono (inside : known ⊆ more) (lists : journal.Lists known) : journal.Lists more := by
  obtain ⟨contents, contains, listed⟩ := lists
  exact ⟨contents, contains, fun entry member => inside (listed entry member)⟩

theorem record {signature : Signature} {slot : Slot} (small : slot ≤ u64Max) (member : signature ∈ known)
    (lists : journal.Lists known) : (journal.record noFaults signature slot).Lists known := by
  unfold Journal.record
  split
  · exact lists
  obtain ⟨contents, contains, listed⟩ := lists
  have marked : (journal.mark signature).Contains contents :=
    ⟨contains.file, contains.typed, contains.identity⟩
  obtain ⟨next, appended, _, holds⟩ := marked.append small
  rw [appended]
  refine ⟨_, holds, fun entry inside => ?_⟩
  rcases List.mem_append.mp inside with inside | inside
  · exact listed entry inside
  · cases List.mem_singleton.mp inside
    exact member

theorem restore {name : String} {entries : List (Signature × Slot)} {next : Journal Signature}
    (oneLine : OneLine name.toList) (restored : journal.restore noFaults name = (entries, next))
    (lists : journal.Lists known) : next.Lists known ∧ ∀ entry ∈ entries, entry.1 ∈ known := by
  obtain ⟨contents, contains, listed⟩ := lists
  obtain ⟨_, _, ⟨_, rfl, _, holds⟩ | ⟨_, rfl, _, holds⟩⟩ := contains.restore oneLine restored
  · exact ⟨⟨contents, holds, listed⟩, listed⟩
  · exact ⟨⟨none, holds, by simp⟩, by simp⟩

theorem discard (journal : Journal Signature) {name : String} (oneLine : OneLine name.toList) :
    (journal.discard noFaults name).Lists known := by
  refine ⟨none, ⟨?_, by simp, ?_⟩, by simp⟩
  · simp [Journal.discard, purge_noFaults]
  · rintro identity ⟨⟩
    exact oneLine

theorem compact (minimumSlot : Slot) (lists : journal.Lists known) :
    (journal.compact noFaults minimumSlot).Lists known := by
  obtain ⟨contents, contains, listed⟩ := lists
  refine ⟨_, (contains.compact minimumSlot).1, fun entry inside => ?_⟩
  cases contents with
  | none => exact listed entry inside
  | some written => exact listed entry (List.mem_filter.mp inside).1

/-- The next process finds the same file. -/
theorem reopened (lists : journal.Lists known) :
    ({ file := journal.file } : Journal Signature).Lists known := by
  obtain ⟨contents, contains, listed⟩ := lists
  exact ⟨contents, ⟨contains.file, contains.typed, by simp⟩, listed⟩

end Journal.Lists

end Microscope.Shipped

namespace Microscope.Polling

open Std Microscope.Data Microscope.Shipped

variable {Signature : Type} [LinearOrder Signature] [SignatureText Signature]
  {ledger : Ledger Signature} {surroundings : Surroundings} {codec : JsonCodec}
  {datasource : RpcPollingDatasource} {addresses : List Address} {pages : Nat}
  {loop : PollingLoop Signature} {trace : List (CallEvent Signature)} {signature : Signature}
  {address : Address} {known : Set Signature}

/-! ## Polls -/

section Polls

variable {window : Slot} {floors : Address → Option Slot} {contextOf : Address → Slot}
  {state reached final : PollingState Signature} {result : Except (PollError Signature) PollOutcome}

omit [SignatureText Signature] in
theorem Covers.mono {more : Set Signature} {cursors : ExtTreeMap Address AddressCursor}
    {recentSignatures : ExtTreeMap Signature Slot} (inside : known ⊆ more)
    (covers : Covers ledger window addresses floors known cursors recentSignatures) :
    Covers ledger window addresses floors more cursors recentSignatures where
  recorded := fun signature recent => inside (covers.recorded signature recent)
  reachable := fun signature address monitored floor mentioned first above =>
    (covers.reachable signature address monitored floor mentioned first above).imp_left fun known =>
      inside known

theorem Replicas.mentions {discovered : DiscoveredSignature Signature}
    (replicas : Replicas ledger contextOf trace) (listed : ListedIn trace address discovered) :
    ledger.mentions discovered.signature address ∧ discovered.slot = ledger.slotOf discovered.signature := by
  obtain ⟨before, limit, context, page, info, event, member, parses⟩ := listed
  obtain ⟨_, rfl⟩ := replicas address before limit context page event
  obtain ⟨older, taken, rfl⟩ := List.mem_map.mp member
  rw [parses_infoOf parses]
  have inside := mem_of_mem_older (List.mem_of_mem_take taken)
  obtain ⟨mentions, slot, _⟩ := (ledger.mem_listing _ _ _).mp inside
  exact ⟨mentions, slot⟩

/-- What is quarantined and selected again was within reach. -/
theorem reachable_of_selected {recorded : List (Signature × Slot)}
    (effect : Effect window addresses state trace reached recorded)
    (replicas : Replicas ledger contextOf trace) (chosen : signature ∈ selected trace) :
    Reachable ledger window addresses reached.cursors signature := by
  obtain ⟨_, _, address, monitored, cursor, slot, present, above, listed⟩ := effect.selected signature chosen
  obtain ⟨mentions, same⟩ := replicas.mentions listed
  have same : slot = ledger.slotOf signature := same
  exact ⟨address, monitored, mentions, cursor, present, same ▸ above⟩

/-- The poll has absorbed or queued it. -/
def HandsOver (trace : List (CallEvent Signature)) (signature : Signature) : Prop :=
  (∃ slot, (signature, slot) ∈ delivered trace) ∨ signature ∈ queued trace

/-- However a poll ends, everything above the floors is known, handed over,
quarantined, or within reach. -/
theorem poll_covers (distinct : addresses.Nodup)
    (ends : Action.Ends (poll pages datasource addresses) state trace result final)
    (answered : Program.Allowed Call.Answered trace) (replicas : Replicas ledger contextOf trace)
    (covers : Covers ledger datasource.replayWindow.slots addresses floors
      (known ∪ { signature | signature ∈ state.quarantinedSignatures }) state.cursors
      state.recentSignatures) :
    Covers ledger datasource.replayWindow.slots addresses
      (firstFloors datasource.replayWindow.slots state.cursors final.cursors (headReading trace) floors)
      (known ∪ { signature | HandsOver trace signature } ∪
        { signature | signature ∈ final.quarantinedSignatures }) final.cursors final.recentSignatures := by
  obtain ⟨reached, recorded, effect, ending⟩ := poll_cases ends answered
  have handled : ∀ signature, Handles trace final signature →
      HandsOver trace signature ∨ signature ∈ final.quarantinedSignatures := by
    rintro signature (absorbed | sent | ⟨_, _, _, quarantined⟩)
    · exact .inl (.inl absorbed)
    · exact .inl (.inr sent)
    · exact .inr quarantined
  constructor
  · intro signature recent
    rcases poll_enters ends answered signature recent with earlier | mentioned | quarantined
    · rcases covers.recorded signature earlier with known | quarantined
      · exact .inl (.inl known)
      · exact .inr (poll_keeps_quarantined ends answered earlier quarantined)
    · exact .inl (.inr mentioned)
    · exact .inr quarantined
  · intro signature address monitored floor mentioned first above
    -- A quarantined signature that was selected is judged by what it was fetched with.
    have selectedAgain : signature ∈ selected trace →
        HandsOver trace signature ∨ signature ∈ final.quarantinedSignatures ∨
          Reachable ledger datasource.replayWindow.slots addresses final.cursors signature := by
      intro chosen
      have reachable := reachable_of_selected effect replicas chosen
      rcases ending with ⟨_, rfl⟩ | ⟨_, record, _, completed⟩
      · exact .inr (.inr reachable)
      rw [completed.unmoved] at reachable
      rcases completed.keeps_reachable distinct replicas reachable with recent | handles | reachable
      · rw [completed.recentSignatures, OrderedMap.mem_insertAll] at recent
        obtain ⟨unrecorded, undelivered, _⟩ := effect.selected signature chosen
        rcases recent with recent | ⟨slot, absorbed⟩
        · exact absurd recent unrecorded
        · exact absurd absorbed (undelivered slot)
      · exact (handled signature handles).imp_right .inl
      · exact .inr (.inr reachable)
    have unselected : signature ∉ selected trace → signature ∈ state.quarantinedSignatures →
        signature ∈ final.quarantinedSignatures := by
      intro unchosen quarantined
      have kept := (effect.untouched signature unchosen).mpr quarantined
      rcases ending with ⟨_, rfl⟩ | ⟨_, _, _, completed⟩
      · exact kept
      · rwa [completed.quarantinedSignatures_eq]
    have covered : signature ∈ (known ∪ { signature | signature ∈ state.quarantinedSignatures }) ∪
          { signature | Handles trace final signature } ∨
        Reachable ledger datasource.replayWindow.slots addresses final.cursors signature := by
      rcases ending with ⟨_, rfl⟩ | ⟨_, record, _, completed⟩
      · exact (effect.covers covers).reachable signature address monitored floor mentioned first above
      · exact (completed.covers effect distinct replicas covers).reachable signature address monitored floor
          mentioned first above
    rcases covered with ((before | quarantined) | handles) | reachable
    · exact .inl (.inl (.inl before))
    · by_cases chosen : signature ∈ selected trace
      · rcases selectedAgain chosen with handed | quarantined | reachable
        · exact .inl (.inl (.inr handed))
        · exact .inl (.inr quarantined)
        · exact .inr reachable
      · exact .inl (.inr (unselected chosen quarantined))
    · rcases handled signature handles with handed | quarantined
      · exact .inl (.inl (.inr handed))
      · exact .inl (.inr quarantined)
    · exact .inr reachable

omit [SignatureText Signature] in
theorem advanceReadyCursors_isSome {batches : List (AddressBatch Signature)} {retrying : List Signature}
    (present : state.cursors[address]?.isSome) :
    (advanceReadyCursors state batches retrying).1.cursors[address]?.isSome := by
  have moves : (advanceReadyCursors state batches retrying).1.cursors[address]? = state.cursors[address]? ∨
      ∃ batch : AddressBatch Signature,
        (advanceReadyCursors state batches retrying).1.cursors[address]? = some batch.nextCursor :=
    (advanceReadyCursors_cases address).imp (fun same => same.1) fun ⟨batch, _, _, _, replaced⟩ =>
      ⟨batch, replaced⟩
  rcases moves with same | ⟨batch, replaced⟩
  · rw [same]
    exact present
  · rw [replaced]
    rfl

/-- A poll that has read a head gives every address a cursor, if there was
none. -/
theorem poll_installs {headSlot : Slot}
    (ends : Action.Ends (poll pages datasource addresses) state trace result final)
    (reading : headReading trace = some headSlot)
    (bare : ∀ (address : Address) (cursor : AddressCursor), state.cursors[address]? ≠ some cursor)
    (monitored : address ∈ addresses) : final.cursors[address]?.isSome := by
  rw [poll_eq] at ends
  rcases Action.ends_bind_iff.mp ends with
    ⟨_, _, failed⟩ | ⟨_, headTail, _, absorbed, rfl, absorbing, headEnds⟩
  · obtain ⟨_, _, impossible, _⟩ := absorbDeliveredSignatures_cases failed
    contradiction
  obtain ⟨deliveries, absorbSaid, _, rfl⟩ := absorbDeliveredSignatures_cases absorbing
  rcases Action.ends_bind_iff.mp headEnds with
    ⟨_, _, failed⟩ | ⟨headTrace, _, head, _, rfl, headRead, refuseEnds⟩
  · obtain ⟨_, ⟨_, _, headSaid⟩ | ⟨_, impossible, _⟩⟩ := readSlot_cases failed
    · rw [(absorbSaid.append headSaid).headReading] at reading
      contradiction
    · contradiction
  obtain ⟨rfl, _⟩ := readSlot_cases headRead
  rcases Action.ends_bind_iff.mp refuseEnds with
    ⟨_, _, refused⟩ | ⟨_, _, _, _, rfl, accepted, installEnds⟩
  · have tolerated : cursorAheadOfHead (state.recordRecentSignatures deliveries).cursors head
        datasource.replayWindow.slots = none := by
      rw [recordRecentSignatures_cursors, cursorAheadOfHead_eq_none_iff]
      exact fun address cursor present => absurd present (bare address cursor)
    have refused := Action.ends_read_bind_iff.mp refused
    rw [tolerated] at refused
    obtain ⟨_, impossible, _⟩ := Action.ends_pure_iff.mp refused
    contradiction
  obtain ⟨_, rfl, _⟩ := refuseCursorAheadOfHead_cases accepted
  rcases Action.ends_bind_iff.mp installEnds with
    ⟨_, _, failed⟩ | ⟨_, _, initialized, installed, rfl, installing, verifyEnds⟩
  · obtain ⟨_, ⟨_, impossible⟩, _⟩ := installCursors_cases failed
    contradiction
  have present : installed.cursors[address]?.isSome := by
    rw [(installCursors_cases installing).2.2.cursors address, if_pos monitored]
    cases (state.recordRecentSignatures deliveries).cursors[address]? <;> rfl
  rcases Action.ends_bind_iff.mp verifyEnds with
    ⟨_, _, failed⟩ | ⟨_, _, verified, prepared, rfl, verifying, surveyEnds⟩
  · rw [(verifyHistoryBoundary_cases failed).2.1]
    exact present
  rw [← (verifyHistoryBoundary_cases verifying).2.1] at present
  rcases Action.ends_bind_iff.mp surveyEnds with
    ⟨_, _, failed⟩ | ⟨_, _, survey, _, rfl, surveying, fetchEnds⟩
  · rw [(surveyAddresses_cases failed).1]
    exact present
  rw [(surveyAddresses_cases surveying).1] at fetchEnds
  obtain ⟨_, _, _, _, reached, rfl, _, _, _, rfl, ending⟩ := fetchAndAdvance_cases fetchEnds
  have kept : ∀ (fetched : List (Signature × FetchOutcome)) (sent : List (FetchedUpdate Signature)),
      ((settleOutcomes survey.contexts prepared fetched).state.recordRecentSignatures
      (recordsOf sent)).cursors[address]?.isSome := by
    intro fetched sent
    rw [recordRecentSignatures_cursors, settleOutcomes_cursors]
    exact present
  rcases ending with ⟨_, rfl⟩ | ⟨_, _, rfl⟩
  · exact kept _ _
  · rw [advanceAndRetain_cursors]
    exact advanceReadyCursors_isSome (kept _ _)

end Polls

/-! ## Heads -/

/-- A site together with the first head that was read since it had no
checkpoint. -/
structure Headed (Signature : Type) [LinearOrder Signature] where
  site : Site Signature
  head : Option Slot

def headedEnvironment (surroundings : Surroundings) :
    Program.Environment (@Call.Response Signature) (Headed Signature) where
  answers before call response after :=
    (siteEnvironment surroundings).answers before.site call response after.site ∧
      after.head = before.head.or (headOf ⟨call, response⟩)
  interferes before after := Site.Moves surroundings before.site after.site ∧ after.head = before.head

variable {before after started : Headed Signature}

theorem executes_unheaded (execution : Program.Executes (headedEnvironment surroundings) before trace after) :
    Program.Executes (siteEnvironment surroundings) before.site trace after.site :=
  Program.Executes.map Headed.site (fun _ _ _ _ answer => And.left answer) (fun _ _ moves => And.left moves)
    execution

theorem executes_head (execution : Program.Executes (headedEnvironment surroundings) before trace after) :
    after.head = before.head.or (headReading trace) := by
  have drifts : ∀ {first second : Headed Signature}, (headedEnvironment surroundings).Drifts first second →
      second.head = first.head := by
    intro first second drift
    induction drift with
    | refl => rfl
    | tail _ moves ih => exact moves.2.trans ih
  induction execution with
  | idle drift => simp [drifts drift, headReading]
  | @step _ _ _ _ command response _ drift answer _ ih =>
      rw [ih, answer.2, drifts drift]
      cases first : headOf ⟨command, response⟩ with
      | none => simp [headReading, first]
      | some head => simp [headReading, first]

omit [LinearOrder Signature] [SignatureText Signature] in
theorem headReading_outside (outside : ∀ event ∈ trace, event.1.Outside) : headReading trace = none := by
  refine List.findSome?_eq_none_iff.mpr ?_
  rintro ⟨call, response⟩ member
  cases call with
  | rpc call =>
      cases call with
      | getSlot => exact (outside _ member).elim
      | _ => rfl
  | _ => rfl

/-! ## What a process has processed -/

/-- Carbon has finished the transaction, or has passed it to the journal. -/
def Processed (site : Site Signature) : Set Signature :=
  { signature | site.pipeline.Finished signature ∨ signature ∈ site.shipped.map Prod.fst }

/-- What is in the pipeline, besides what is processed. -/
def Passed (site : Site Signature) : Set Signature :=
  { signature | site.pipeline.Sent signature } ∪ Processed site

section Sites

variable {first second : Site Signature} {identity : String}

theorem executes_processed (execution : Program.Executes (siteEnvironment surroundings) first trace second) :
    Processed first ⊆ Processed second := by
  have grows : ∀ {first second : Site Signature}, Pipeline.Grows first.pipeline second.pipeline →
      (∀ entry ∈ first.shipped, entry ∈ second.shipped) → Processed first ⊆ Processed second := by
    rintro first second grows kept signature (finished | shipped)
    · exact .inl (finished.grow grows)
    · obtain ⟨entry, member, rfl⟩ := List.mem_map.mp shipped
      exact .inr (List.mem_map_of_mem (kept entry member))
  have answered : ∀ {first second : Site Signature} {call : Call Signature} {response : call.Response},
      (siteEnvironment surroundings).answers first call response second →
        Processed first ⊆ Processed second := by
    intro first second call response answer
    refine grows answer.2.grows ?_
    rw [answer.2.changes.shipped]
    exact fun _ member => member
  have moved : ∀ {first second : Site Signature}, Site.Moves surroundings first second →
      Processed first ⊆ Processed second := by
    intro first second moves
    refine grows moves.grows ?_
    cases moves with
    | ship => exact fun _ member => List.mem_append_left _ member
    | _ => exact fun _ member => member
  exact execution.follows (fun first second => Processed first ⊆ Processed second)
    (fun site => subset_rfl) (fun earlier later => earlier.trans later) answered moved

theorem executes_passed (execution : Program.Executes (siteEnvironment surroundings) first trace second) :
    Passed first ⊆ Passed second := by
  rintro signature (sent | processed)
  · exact .inl (sent.grow (executes_grows execution))
  · exact .inr (executes_processed execution processed)

/-- Deliveries have been sent, and the journal lists only what is known or has
been processed. -/
structure Accounted (known : Set Signature) (site : Site Signature) : Prop where
  handedOver : HandedOver site
  journal : site.journal.Lists (known ∪ Processed site)

/-- The journal is restored and discarded under this name. -/
def Call.Naming (identity : String) : Call Signature → Prop
  | .restoreShipped name => name = identity
  | .discardShipped name => name = identity
  | _ => True

omit [LinearOrder Signature] [SignatureText Signature] in
theorem Call.Owning.naming {call : Call Signature} (owning : call.Owning identity) :
    call.Naming identity := by
  cases call <;> first | exact trivial | exact owning

omit [LinearOrder Signature] [SignatureText Signature] in
theorem Call.Transient.naming {call : Call Signature} (transient : call.Transient) :
    call.Naming identity := by
  cases call <;> first | exact trivial | exact transient.elim

theorem Call.Saves.naming {store : CheckpointStore} {snapshot : CheckpointSnapshot Signature}
    {call : Call Signature} (saves : call.Saves store codec snapshot) : call.Naming identity := by
  cases call <;> first | exact trivial | exact saves.elim

section Accounted

variable (faultless : surroundings.faults = {noFaults})

include faultless

theorem Site.Moves.accounted (moves : Site.Moves surroundings first second)
    (accounted : Accounted known first) : Accounted known second := by
  have processed : Processed first ⊆ Processed second := executes_processed (.idle (.single moves))
  refine ⟨moves.handedOver accounted.handedOver, ?_⟩
  have kept := accounted.journal.mono (Set.union_subset_union_right known processed)
  cases moves with
  | @ship update faults busy admitted =>
      rw [faultless] at admitted
      cases admitted
      have shipped : update.signature ∈ (first.shipped ++ [(update.signature, update.slot)]).map Prod.fst := by
        simp
      exact kept.record update.slot_lt (.inr (.inr shipped))
  | _ => exact kept

theorem Site.Answers.accounted {call : Call Signature} {response : call.Response}
    (oneLine : OneLine identity.toList) (naming : call.Naming identity)
    (answers : (siteEnvironment surroundings).answers first call response second)
    (accounted : Accounted known first) : Accounted known second := by
  have processed : Processed first ⊆ Processed second :=
    executes_processed (.step .refl answers (.idle .refl))
  refine ⟨answers.2.handedOver accounted.handedOver, ?_⟩
  have kept := accounted.journal.mono (Set.union_subset_union_right known processed)
  by_cases transient : call.Transient
  · rw [(answers.2.sameFiles transient).journal]
    exact kept
  · cases call with
    | readCheckpoint =>
        have idle : (Call.readCheckpoint : Call Signature).Idle := trivial
        rw [answers.2.idle idle] at kept ⊢
        exact kept
    | installCheckpoint encoded =>
        cases response with
        | error error => rcases answers.2 with rfl | rfl <;> exact kept
        | ok _ =>
            obtain rfl := answers.2
            exact kept
    | moveCorruptCheckpoint =>
        cases response with
        | error error => rcases answers.2 with rfl | rfl <;> exact kept
        | ok _ =>
            obtain rfl := answers.2
            exact kept
    | restoreShipped name =>
        cases naming
        obtain ⟨faults, admitted, _, rfl⟩ := answers.2
        rw [faultless] at admitted
        cases admitted
        exact (kept.restore oneLine rfl).1
    | discardShipped name =>
        cases naming
        obtain ⟨faults, admitted, rfl⟩ := answers.2
        rw [faultless] at admitted
        cases admitted
        exact .discard _ oneLine
    | compactShipped minimumSlot =>
        obtain ⟨faults, admitted, rfl⟩ := answers.2
        rw [faultless] at admitted
        cases admitted
        exact kept.compact minimumSlot
    | _ => exact absurd trivial transient

theorem executes_accounted (oneLine : OneLine identity.toList)
    (naming : ∀ event ∈ trace, event.1.Naming identity)
    (execution : Program.Executes (siteEnvironment surroundings) first trace second)
    (accounted : Accounted known first) : Accounted known second := by
  have answered : ∀ first event second, event ∈ trace →
      (siteEnvironment surroundings).answers first event.1 event.2 second →
      Accounted known first → Accounted known second :=
    fun _ event _ member answer accounted =>
      Site.Answers.accounted faultless oneLine (naming event member) answer accounted
  have moved : ∀ first second, Site.Moves surroundings first second →
      Accounted known first → Accounted known second :=
    fun _ _ moves accounted => moves.accounted faultless accounted
  have kept := execution.keeps_events answered moved accounted
  exact kept

end Accounted

end Sites

/-! ## Turns -/

omit [SignatureText Signature] in
theorem Refreshes.prepend {opening : List (CallEvent Signature)} {refreshed : PollingLoop Signature}
    (transient : ∀ event ∈ opening, event.1.Transient) (refreshes : Refreshes loop trace refreshed) :
    Refreshes loop (opening ++ trace) refreshed where
  transient := by
    intro event member
    rcases List.mem_append.mp member with member | member
    · exact transient event member
    · exact refreshes.transient event member
  drained := by
    refine refreshes.drained.imp_right fun ⟨same, first, counted, received, processed, found, rest⟩ => ?_
    exact ⟨same, opening ++ first, counted, received, processed, by rw [found, List.append_assoc], rest⟩

/-- What comes before the poll refreshes the processed state, and saves it. -/
theorem beforePoll_parts {saved : PollingLoop Signature}
    (run : Program.Run (beforePoll codec datasource loop) trace saved) :
    ∃ checked saving refreshed, trace = checked ++ saving ∧ Refreshes loop checked refreshed ∧
      Program.Run (saveCheckpoint codec datasource refreshed) saving saved := by
  obtain ⟨files, rest, rfl, later⟩ := Program.run_call_iff.mp run
  replace later : Program.Run (refreshProcessedState loop >>= fun refreshed =>
      saveCheckpoint codec datasource refreshed) rest saved := later
  obtain ⟨refreshing, saving, refreshed, rfl, refreshes, saves⟩ := Program.run_bind_iff.mp later
  have transient := (refreshProcessedState_transient.advances refreshes (by simp [Program.Allowed])).1
  have opening : ∀ event ∈ ([⟨.countCorruptCheckpoints, files⟩] : List (CallEvent Signature)),
      event.1.Transient := by simp [Call.Transient]
  exact ⟨_, saving, refreshed, rfl,
    Refreshes.prepend opening ⟨transient, refreshProcessedState_cases refreshes⟩, saves⟩

/-- The parts of a turn that goes on, with what is issued outside its poll. -/
theorem pollingTurn_parts {next : PollingLoop Signature}
    (run : Program.Run (pollingTurn codec datasource addresses pages loop) trace (.inl (.polling next))) :
    ∃ checked saving polled concluding refreshed saved result state,
      trace = checked ++ (saving ++ (polled ++ concluding)) ∧ Refreshes loop checked refreshed ∧
      Program.Run (saveCheckpoint codec datasource refreshed) saving saved ∧
      Action.Ends (poll pages datasource addresses) saved.state polled result state ∧
      next = (recordPoll saved (result, state)).2 ∧ (∀ event ∈ concluding, event.1.Idle) ∧
      (∀ event ∈ checked, event.1.Outside) ∧ (∀ event ∈ saving, event.1.Outside) ∧
      ∀ event ∈ concluding, event.1.Outside := by
  rcases pollingTurn_stages run with ⟨_, unfinished⟩ | ⟨started, before, polling, saved, rfl, checks, outside, polls⟩
  · exact absurd rfl (unfinished (.polling next))
  obtain ⟨polled, concluding, ⟨result, state⟩, rfl, ends, concludes⟩ := Program.run_bind_iff.mp polls
  obtain ⟨same, idle⟩ := concludePoll_goesOn concludes
  cases same
  have concluded := (concludePoll_outside.advances concludes (by simp [Program.Allowed])).1
  obtain ⟨checked, saving, refreshed, rfl, refreshes, saves⟩ := beforePoll_parts checks
  have opening : ∀ event ∈ ([⟨.cancelled, false⟩, ⟨.now, started⟩] : List (CallEvent Signature)),
      event.1.Transient ∧ event.1.Outside := by simp [Call.Transient, Call.Outside]
  refine ⟨_, saving, polled, concluding, refreshed, saved, result, state, by simp,
    Refreshes.prepend (fun event member => (opening event member).1) refreshes, saves, ends, rfl, idle,
    fun event member => ?_, fun event member => outside event (List.mem_append_right _ member), concluded⟩
  rcases List.mem_append.mp member with member | member
  · exact (opening event member).2
  · exact outside event (List.mem_append_left _ member)

/-- Wherever a turn stops, it has saved nothing but what it had refreshed. -/
theorem pollingTurn_saving {control : Task Signature (Consumption Signature ⊕ Stopped)}
    (reached : Program.Advances (pollingTurn codec datasource addresses pages loop) trace control) :
    (∀ event ∈ trace, event.1.Transient) ∨ ∃ checked saving polling refreshed,
      trace = checked ++ (saving ++ polling) ∧ Refreshes loop checked refreshed ∧
      (∀ event ∈ checked, event.1.Outside) ∧ (∀ event ∈ saving, event.1.Outside) ∧
      (∀ event ∈ saving, event.1.Saves refreshed.checkpoint codec refreshed.processedState) ∧
      ∀ event ∈ polling, event.1.Transient := by
  rcases pollingTurn_stages reached with ⟨outside, _⟩ | ⟨started, before, polling, saved, rfl, checks, outside, polls⟩
  · refine (pollingTurn_saves reached).imp_right ?_
    rintro ⟨checked, saving, refreshed, rfl, refreshes, saves⟩
    exact ⟨checked, saving, [], refreshed, by simp, refreshes,
      fun event member => outside event (List.mem_append_left _ member),
      fun event member => outside event (List.mem_append_right _ member), saves, by simp⟩
  · obtain ⟨checked, saving, refreshed, rfl, refreshes, run⟩ := beforePoll_parts checks
    have opening : ∀ event ∈ ([⟨.cancelled, false⟩, ⟨.now, started⟩] : List (CallEvent Signature)),
        event.1.Transient ∧ event.1.Outside := by simp [Call.Transient, Call.Outside]
    refine .inr ⟨_, saving, polling, refreshed, by simp,
      Refreshes.prepend (fun event member => (opening event member).1) refreshes, fun event member => ?_,
      fun event member => outside event (List.mem_append_right _ member),
      (saveCheckpoint_saves.advances run (by simp [Program.Allowed])).1,
      (pollAndConclude_transient.advances polls (by simp [Program.Allowed])).1⟩
    rcases List.mem_append.mp member with member | member
    · exact (opening event member).2
    · exact outside event (List.mem_append_left _ member)

/-- The first floor of an address that has a cursor. -/
def floorsAt (window : Slot) (cursors : ExtTreeMap Address AddressCursor) (head : Option Slot)
    (address : Address) : Option Slot :=
  if cursors[address]?.isSome then head.map fun headSlot => headSlot - window - window else none

/-- The live state covers what the process has not passed on, and the processed
one what it has not processed. -/
structure Covering (ledger : Ledger Signature) (store : CheckpointStore) (window : Slot)
    (addresses : List Address) (known : Set Signature) (loop : PollingLoop Signature)
    (world : Headed Signature) : Prop where
  identity : loop.checkpoint.identity = store.identity
  accounted : Accounted known world.site
  bounded : loop.state.Bounded
  processedBounded : loop.processedState.Bounded
  monitored : ∀ (address : Address) (cursor : AddressCursor), loop.state.cursors[address]? = some cursor →
    address ∈ addresses
  headed : ∀ address ∈ addresses, loop.state.cursors[address]?.isSome = world.head.isSome
  processedHeaded : ∀ address ∈ addresses, loop.processedState.cursors[address]?.isSome → world.head.isSome
  live : Covers ledger window addresses (floorsAt window loop.state.cursors world.head)
    (known ∪ Passed world.site ∪ { signature | signature ∈ loop.state.quarantinedSignatures })
    loop.state.cursors loop.state.recentSignatures
  processed : Covers ledger window addresses (floorsAt window loop.processedState.cursors world.head)
    (known ∪ Processed world.site ∪
      { signature | signature ∈ loop.processedState.quarantinedSignatures })
    loop.processedState.cursors loop.processedState.recentSignatures

section Turns

variable {store : CheckpointStore} {window : Slot} {identity : String} {refreshed next : PollingLoop Signature}
  (faultless : surroundings.faults = {noFaults}) (oneLine : OneLine identity.toList)

include faultless oneLine

theorem Covering.execute (naming : ∀ event ∈ trace, event.1.Naming identity)
    (outside : ∀ event ∈ trace, event.1.Outside)
    (execution : Program.Executes (headedEnvironment surroundings) before trace after)
    (covering : Covering ledger store window addresses known loop before) :
    Covering ledger store window addresses known loop after := by
  have head : after.head = before.head := by
    rw [executes_head execution, headReading_outside outside, Option.or_none]
  have onSite := executes_unheaded execution
  refine { covering with
    accounted := executes_accounted faultless oneLine naming onSite covering.accounted
    headed := ?_
    processedHeaded := ?_
    live := ?_
    processed := ?_ }
  · rw [head]
    exact covering.headed
  · rw [head]
    exact covering.processedHeaded
  · rw [head]
    refine covering.live.mono (Set.union_subset_union_left _ ?_)
    exact Set.union_subset_union_right _ (executes_passed onSite)
  · rw [head]
    refine covering.processed.mono (Set.union_subset_union_left _ ?_)
    exact Set.union_subset_union_right _ (executes_processed onSite)

/-- Once the pipeline has drained, what was passed on is processed. -/
theorem Covering.refresh (outside : ∀ event ∈ trace, event.1.Outside)
    (refreshes : Refreshes loop trace refreshed)
    (execution : Program.Executes (headedEnvironment surroundings) before trace after)
    (covering : Covering ledger store window addresses known loop before) :
    Covering ledger store window addresses known refreshed after := by
  have naming : ∀ event ∈ trace, event.1.Naming identity :=
    fun event member => (refreshes.transient event member).naming
  have executed := covering.execute faultless oneLine naming outside execution
  rcases refreshes.drained with rfl | ⟨rfl, drains⟩
  · exact executed
  have onSite := executes_unheaded execution
  have head : after.head = before.head := by
    rw [executes_head execution, headReading_outside outside, Option.or_none]
  have passed : Passed before.site ⊆ Processed after.site := by
    rintro signature (sent | processed)
    · exact .inl (drains_finished drains onSite sent)
    · exact executes_processed onSite processed
  refine { executed with
    processedBounded := bounded_snapshot covering.bounded
    processedHeaded := fun address monitored present => ?_
    processed := ?_ }
  · rw [← executed.headed address monitored]
    exact present
  · rw [head]
    refine covering.live.mono (Set.union_subset_union_left _ ?_)
    exact Set.union_subset_union_right _ passed

omit faultless oneLine in
/-- The floors are those of the first head that was read. -/
theorem firstFloors_headed {floors : Address → Option Slot} {state final : ExtTreeMap Address AddressCursor}
    {head reading : Option Slot} (kept : state[address]?.isSome → final[address]?.isSome)
    (headed : state[address]?.isSome = head.isSome) (same : floors address = floorsAt window state head address) :
    floorsAt window final (head.or reading) address =
      firstFloors window state final reading floors address := by
  unfold firstFloors floorsAt at *
  cases earlier : state[address]? with
  | some cursor =>
      rw [earlier] at kept headed same
      have later : final[address]?.isSome := kept rfl
      have first : head.isSome := headed.symm
      obtain ⟨headSlot, rfl⟩ := Option.isSome_iff_exists.mp first
      simp [later, same]
  | none =>
      rw [earlier] at headed same
      have unread : head = none := by simpa using headed.symm
      subst unread
      cases later : final[address]? with
      | none => simp [same]
      | some cursor => simp

/-- However a poll ends, the live state still covers what is not passed on. -/
theorem Covering.poll {contextOf : Address → Slot} {result : Except (PollError Signature) PollOutcome}
    {state : PollingState Signature} (distinct : addresses.Nodup)
    (ends : Action.Ends (Polling.poll pages datasource addresses) loop.state trace result state)
    (replicas : Replicas ledger contextOf trace)
    (execution : Program.Executes (headedEnvironment surroundings) before trace after)
    (covering : Covering ledger store datasource.replayWindow.slots addresses known loop before) :
    Covering ledger store datasource.replayWindow.slots addresses known (recordPoll loop (result, state)).2
      after := by
  have onSite := executes_unheaded execution
  have answered := executes_answered onSite
  have head := executes_head execution
  have recorded : (recordPoll loop (result, state)).2.state = state ∧
      (recordPoll loop (result, state)).2.checkpoint = loop.checkpoint ∧
      (recordPoll loop (result, state)).2.processedState = loop.processedState := recordPoll_keeps
  obtain ⟨sameState, sameCheckpoint, sameProcessed⟩ := recorded
  have naming : ∀ event ∈ trace, event.1.Naming identity := fun event member =>
    (poll_transient.ends ends (by simp [Program.Allowed]) event member).naming
  obtain ⟨reached, records, effect, ending⟩ := poll_cases ends answered
  have reachedSome : ∀ address : Address, state.cursors[address]?.isSome = reached.cursors[address]?.isSome := by
    intro address
    rcases ending with ⟨_, rfl⟩ | ⟨_, _, _, completed⟩
    · rfl
    · exact completed.isSome_cursor address
  have kept : ∀ address : Address, loop.state.cursors[address]?.isSome → state.cursors[address]?.isSome := by
    intro address there
    obtain ⟨cursor, present⟩ := Option.isSome_iff_exists.mp there
    rw [reachedSome, effect.cursor_present present]
    rfl
  have monitored : ∀ (address : Address) (cursor : AddressCursor), state.cursors[address]? = some cursor →
      address ∈ addresses := by
    intro address cursor present
    have there : reached.cursors[address]?.isSome := by
      rw [← reachedSome, present]
      rfl
    obtain ⟨earlier, found⟩ := Option.isSome_iff_exists.mp there
    rcases effect.cursors with same | ⟨_, _, _, prepares⟩
    · rw [same] at found
      exact covering.monitored address earlier found
    · rw [prepares address] at found
      cases first : loop.state.cursors[address]? with
      | some known => exact covering.monitored address known first
      | none =>
          rw [first, Option.none_or] at found
          split at found
          · assumption
          · contradiction
  have headed : ∀ address ∈ addresses, state.cursors[address]?.isSome = after.head.isSome := by
    intro address inside
    rw [head]
    cases first : before.head with
    | some headSlot =>
        have present : loop.state.cursors[address]?.isSome := by
          rw [covering.headed address inside, first]
          rfl
        simp [kept address present]
    | none =>
        have bare : ∀ (other : Address) (cursor : AddressCursor), loop.state.cursors[other]? ≠ some cursor := by
          intro other cursor present
          have headed := covering.headed other (covering.monitored other cursor present)
          rw [present, first] at headed
          contradiction
        rw [Option.none_or]
        cases reading : headReading trace with
        | some headSlot => exact poll_installs ends reading bare inside
        | none =>
            rcases effect.cursors with same | ⟨_, impossible, _⟩
            · rw [reachedSome, same]
              cases found : loop.state.cursors[address]? with
              | none => rfl
              | some cursor => exact absurd found (bare address cursor)
            · rw [reading] at impossible
              contradiction
  have covers := poll_covers distinct ends answered replicas covering.live
  constructor
  · rw [sameCheckpoint]
    exact covering.identity
  · exact executes_accounted faultless oneLine naming onSite covering.accounted
  · rw [sameState]
    exact poll_keeps_bounded ends answered covering.bounded
  · rw [sameProcessed]
    exact covering.processedBounded
  · rw [sameState]
    exact monitored
  · rw [sameState]
    exact headed
  · rw [sameProcessed]
    intro address inside present
    rw [head]
    have first := covering.processedHeaded address inside present
    obtain ⟨headSlot, same⟩ := Option.isSome_iff_exists.mp first
    simp [same]
  · rw [sameState]
    have floors : ∀ address ∈ addresses, floorsAt datasource.replayWindow.slots state.cursors after.head address =
        firstFloors datasource.replayWindow.slots loop.state.cursors state.cursors (headReading trace)
          (floorsAt datasource.replayWindow.slots loop.state.cursors before.head) address := by
      intro address inside
      rw [head]
      exact firstFloors_headed (kept address) (covering.headed address inside) rfl
    refine (covers.congr_floors floors).mono ?_
    rintro signature (((earlier | passed) | mentioned) | quarantined)
    · exact .inl (.inl earlier)
    · exact .inl (.inr (executes_passed onSite passed))
    · exact .inl (.inr (.inl (sent_of_trace onSite covering.accounted.handedOver mentioned)))
    · exact .inr quarantined
  · rw [sameProcessed]
    have floors : ∀ address ∈ addresses,
        floorsAt datasource.replayWindow.slots loop.processedState.cursors after.head address =
          floorsAt datasource.replayWindow.slots loop.processedState.cursors before.head address := by
      intro address inside
      unfold floorsAt
      split
      · rename_i present
        obtain ⟨headSlot, same⟩ :=
          Option.isSome_iff_exists.mp (covering.processedHeaded address inside present)
        simp [head, same]
      · rfl
    refine (covering.processed.congr_floors floors).mono (Set.union_subset_union_left _ ?_)
    exact Set.union_subset_union_right _ (executes_processed onSite)

/-- A turn that goes on keeps what is covered. -/
theorem Covering.turn {contextOf : Address → Slot} (distinct : addresses.Nodup)
    (run : Program.Run (pollingTurn codec datasource addresses pages loop) trace (.inl (.polling next)))
    (replicas : Replicas ledger contextOf trace)
    (execution : Program.Executes (headedEnvironment surroundings) before trace after)
    (covering : Covering ledger store datasource.replayWindow.slots addresses known loop before) :
    Covering ledger store datasource.replayWindow.slots addresses known next after := by
  obtain ⟨checked, saving, polled, concluding, refreshed, saved, result, state, rfl, refreshes, saves, ends,
    rfl, idle, checkedOutside, savingOutside, concludingOutside⟩ := pollingTurn_parts run
  obtain ⟨_, checks, execution⟩ := execution.split
  obtain ⟨_, savesIn, execution⟩ := execution.split
  obtain ⟨_, polls, concludes⟩ := execution.split
  have naming : ∀ event ∈ saving, event.1.Naming identity := fun event member =>
    ((saveCheckpoint_saves.advances saves (by simp [Program.Allowed])).1 event member).naming
  have saved := (covering.refresh faultless oneLine checkedOutside refreshes checks).execute faultless oneLine
    naming savingOutside savesIn
  obtain ⟨lastWriteCompletedAt, rfl⟩ := saveCheckpoint_keeps saves
  have resaved : Covering ledger store datasource.replayWindow.slots addresses known { refreshed with
      checkpoint := { refreshed.checkpoint with lastWriteCompletedAt } } _ := { saved with }
  have answers : Replicas ledger contextOf polled := replicas.mono fun event member => by simp [member]
  exact (resaved.poll faultless oneLine distinct ends answers polls).execute faultless oneLine
    (fun event member => (idle event member).owning.naming) concludingOutside concludes

end Turns

end Microscope.Polling
