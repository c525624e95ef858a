import Microscope.Polling.Startup
import Microscope.Polling.Suppression

namespace Microscope.Polling

open Std Microscope.Data

/-! # Consistent endpoints

An endpoint is consistent when no head falls behind a slot that was shown
before, and every transaction is reported at one slot.  At such an endpoint the
cursors of a process only move forwards.
-/

variable {Signature : Type} [SignatureText Signature] {slotOf : Signature → Slot}
  {trace more : List (CallEvent Signature)} {lower upper : Slot}

/-! ## What the endpoint shows -/

/-- The slots that an answer shows. -/
def shownBy : (call : Call Signature) → call.Response → List Slot
  | .rpc .getSlot, .ok headSlot => [headSlot]
  | .rpc (.getSignaturesForAddress _ _ _ _), .ok page => page.map SignatureInfo.slot
  | _, _ => []

/-- The latest slot that was shown. -/
def latest (observed : Slot) (shown : List Slot) : Slot := shown.foldl max observed

/-- No head is behind the latest slot, and every transaction has its slot. -/
def Call.Consistent (slotOf : Signature → Slot) (observed : Slot) :
    (call : Call Signature) → call.Response → Prop
  | .rpc .getSlot, .ok headSlot => observed ≤ headSlot
  | .rpc (.getSignaturesForAddress _ _ _ _), .ok page => ∀ info ∈ page, ∀ signature : Signature,
      SignatureText.fromText info.signature = some signature → info.slot = slotOf signature
  | .rpc (.fetchTransactions _), outcomes => ∀ (signature : Signature) (transaction : EncodedTransaction),
      (signature, .ok transaction) ∈ outcomes → transaction.slot = slotOf signature
  | _, _ => True

theorem le_latest {observed : Slot} {shown : List Slot} : observed ≤ latest observed shown := by
  induction shown generalizing observed with
  | nil => exact Nat.le_refl observed
  | cons slot rest ih => exact (Nat.le_max_left observed slot).trans ih

theorem mem_le_latest {observed slot : Slot} {shown : List Slot} (member : slot ∈ shown) :
    slot ≤ latest observed shown := by
  induction shown generalizing observed with
  | nil => contradiction
  | cons first rest ih =>
      rcases List.mem_cons.mp member with rfl | member
      · exact (Nat.le_max_right observed slot).trans le_latest
      · exact ih member

theorem Call.Consistent.mono {observed earlier : Slot} {call : Call Signature}
    {response : call.Response} (consistent : call.Consistent slotOf observed response)
    (le : earlier ≤ observed) : call.Consistent slotOf earlier response := by
  cases call with
  | rpc call =>
      cases call with
      | getSlot =>
          cases response with
          | error error => trivial
          | ok headSlot => exact le.trans consistent
      | getSignaturesForAddress =>
          cases response with
          | error error => trivial
          | ok page => exact consistent
      | fetchTransactions => exact consistent
      | _ => trivial
  | _ => trivial

/-- The heads and listings of a trace lie between these slots, and every
transaction has its slot. -/
structure Shows (slotOf : Signature → Slot) (lower upper : Slot) (trace : List (CallEvent Signature)) :
    Prop where
  consistent : Program.Allowed (Call.Consistent slotOf lower) trace
  shown : ∀ event ∈ trace, ∀ slot ∈ shownBy event.1 event.2, slot ≤ upper

namespace Shows

theorem listed {address : Address} {discovered : DiscoveredSignature Signature}
    (shows : Shows slotOf lower upper trace) (listed : ListedIn trace address discovered) :
    discovered.slot = slotOf discovered.signature ∧ discovered.slot ≤ upper := by
  obtain ⟨earlier, limit, context, page, info, event, member, slot, parsed⟩ := listed
  rw [← slot]
  refine ⟨shows.consistent _ event info member _ parsed, shows.shown _ event _ ?_⟩
  exact List.mem_map_of_mem member

theorem fetched {signature : Signature} {transaction : EncodedTransaction}
    (shows : Shows slotOf lower upper trace) (fetched : (signature, .ok transaction) ∈ fetchOutcomes trace) :
    transaction.slot = slotOf signature := by
  obtain ⟨⟨command, response⟩, event, handed⟩ := List.mem_flatMap.mp fetched
  have consistent := shows.consistent ⟨command, response⟩ event
  cases command with
  | rpc call =>
      cases call with
      | fetchTransactions signatures => exact consistent signature transaction handed
      | _ => simp [outcomesOf] at handed
  | _ => simp [outcomesOf] at handed

theorem head {headSlot : Slot} (shows : Shows slotOf lower upper trace)
    (reading : headReading trace = some headSlot) : lower ≤ headSlot ∧ headSlot ≤ upper := by
  obtain ⟨⟨command, response⟩, event, handed⟩ := List.exists_of_findSome?_eq_some reading
  have consistent := shows.consistent ⟨command, response⟩ event
  have shown := shows.shown ⟨command, response⟩ event
  cases command with
  | rpc call =>
      cases call with
      | getSlot =>
          cases response with
          | ok head =>
              cases handed
              exact ⟨consistent, shown headSlot (List.mem_singleton.mpr rfl)⟩
          | error error => simp [headOf] at handed
      | _ => simp [headOf] at handed
  | _ => simp [headOf] at handed

theorem reports (shows : Shows slotOf lower upper trace) (undelivered : delivered trace = []) :
    Reports slotOf trace where
  delivered := by simp [undelivered]
  fetched := fun _ _ => shows.fetched
  listed := fun _ _ listed => (shows.listed listed).1

theorem append (first : Shows slotOf lower upper trace) (second : Shows slotOf lower upper more) :
    Shows slotOf lower upper (trace ++ more) where
  consistent := by
    intro event member
    rcases List.mem_append.mp member with member | member
    · exact first.consistent event member
    · exact second.consistent event member
  shown := by
    intro event member
    rcases List.mem_append.mp member with member | member
    · exact first.shown event member
    · exact second.shown event member

end Shows

/-! ## Watched sites -/

variable [LinearOrder Signature]

/-- A site together with the latest slot its endpoint has shown. -/
structure Watched (Signature : Type) [LinearOrder Signature] where
  site : Site Signature
  observed : Slot

def watchedEnvironment (slotOf : Signature → Slot) (surroundings : Surroundings) :
    Program.Environment (@Call.Response Signature) (Watched Signature) where
  answers before call response after :=
    (siteEnvironment surroundings).answers before.site call response after.site ∧
      call.Consistent slotOf before.observed response ∧
      after.observed = latest before.observed (shownBy call response)
  interferes before after :=
    Site.Moves surroundings before.site after.site ∧ after.observed = before.observed

variable {surroundings : Surroundings} {before after : Watched Signature}
  {datasource : RpcPollingDatasource} {addresses : List Address} {pages : Nat}

theorem executes_site
    (execution : Program.Executes (watchedEnvironment slotOf surroundings) before trace after) :
    Program.Executes (siteEnvironment surroundings) before.site trace after.site :=
  Program.Executes.map Watched.site (fun _ _ _ _ answer => And.left answer) (fun _ _ moves => And.left moves)
    execution

theorem executes_observed
    (execution : Program.Executes (watchedEnvironment slotOf surroundings) before trace after) :
    before.observed ≤ after.observed := by
  have answered : ∀ {first second : Watched Signature} {call : Call Signature} {response : call.Response},
      (watchedEnvironment slotOf surroundings).answers first call response second →
        first.observed ≤ second.observed := by
    intro first second call response answer
    rw [answer.2.2]
    exact le_latest
  have moved : ∀ {first second : Watched Signature},
      (watchedEnvironment slotOf surroundings).interferes first second →
        first.observed ≤ second.observed := fun moves => Nat.le_of_eq moves.2.symm
  exact execution.follows (fun first second => first.observed ≤ second.observed)
    (fun world => Nat.le_refl world.observed) Nat.le_trans answered moved

theorem executes_shows
    (execution : Program.Executes (watchedEnvironment slotOf surroundings) before trace after) :
    Shows slotOf before.observed after.observed trace where
  consistent := by
    intro event member
    obtain ⟨_, _, ready, _, _, earlier, answer, _⟩ := execution.at_event member
    exact answer.2.1.mono (executes_observed earlier)
  shown := by
    intro event member slot shown
    obtain ⟨_, _, ready, answered, _, _, answer, later⟩ := execution.at_event member
    have now : slot ≤ answered.observed := by
      rw [answer.2.2]
      exact mem_le_latest shown
    exact now.trans (executes_observed later)

/-- An answer of an endpoint whose head stands at this slot. -/
structure Call.Standing (slotOf : Signature → Slot) (head : Slot) (call : Call Signature)
    (response : call.Response) : Prop where
  consistent : call.Consistent slotOf head response
  shown : ∀ slot ∈ shownBy call response, slot ≤ head

theorem latest_le {observed head : Slot} {shown : List Slot} (le : observed ≤ head)
    (within : ∀ slot ∈ shown, slot ≤ head) : latest observed shown ≤ head := by
  induction shown generalizing observed with
  | nil => exact le
  | cons slot rest ih =>
      have first := within slot List.mem_cons_self
      exact ih (max_le le first) fun other member => within other (List.mem_cons_of_mem _ member)

/-- While the head stands, every execution is one of a consistent endpoint. -/
theorem executes_watched {first last : Site Signature} {observed head : Slot}
    (execution : Program.Executes (siteEnvironment surroundings) first trace last)
    (standing : Program.Allowed (Call.Standing slotOf head) trace) (le : observed ≤ head) :
    ∃ later ≤ head, Program.Executes (watchedEnvironment slotOf surroundings) ⟨first, observed⟩ trace
      ⟨last, later⟩ := by
  have drifts : ∀ {first last : Site Signature} {observed : Slot},
      (siteEnvironment surroundings).Drifts first last →
      (watchedEnvironment slotOf surroundings).Drifts ⟨first, observed⟩ ⟨last, observed⟩ := by
    intro first last observed drift
    induction drift with
    | refl => exact .refl
    | tail _ moves ih => exact ih.tail ⟨moves, rfl⟩
  induction execution generalizing observed with
  | idle drift => exact ⟨observed, le, .idle (drifts drift)⟩
  | step drift answer _ ih =>
      obtain ⟨now, rest⟩ := Program.allowed_cons.mp standing
      obtain ⟨later, laterLe, execution⟩ := ih rest (latest_le le now.shown)
      exact ⟨later, laterLe, .step (drifts drift) ⟨answer, now.consistent.mono le, rfl⟩ execution⟩

/-! ## Cursors -/

/-- No cursor is ahead of this slot. -/
def Within (observed : Slot) (cursors : ExtTreeMap Address AddressCursor) : Prop :=
  ∀ (address : Address) (cursor : AddressCursor), cursors[address]? = some cursor →
    cursor.scannedSlot ≤ observed

/-- Every cursor is still there, and none has moved back. -/
def Behind (earlier later : ExtTreeMap Address AddressCursor) : Prop :=
  ∀ (address : Address) (cursor : AddressCursor), earlier[address]? = some cursor →
    ∃ next, later[address]? = some next ∧ cursor.scannedSlot ≤ next.scannedSlot

section Cursors

variable {first second third : ExtTreeMap Address AddressCursor} {observed : Slot}

theorem Within.mono (within : Within lower first) (le : lower ≤ upper) : Within upper first :=
  fun address cursor present => (within address cursor present).trans le

theorem Behind.refl : Behind first first := fun _ cursor present => ⟨cursor, present, Nat.le_refl _⟩

theorem Behind.trans (earlier : Behind first second) (later : Behind second third) : Behind first third := by
  intro address cursor present
  obtain ⟨next, nextPresent, le⟩ := earlier address cursor present
  obtain ⟨last, lastPresent, nextLe⟩ := later address next nextPresent
  exact ⟨last, lastPresent, le.trans nextLe⟩

theorem Behind.within (behind : Behind first second) (within : Within observed second) :
    Within observed first := by
  intro address cursor present
  obtain ⟨next, nextPresent, le⟩ := behind address cursor present
  exact le.trans (within address next nextPresent)

end Cursors

variable {state reached final : PollingState Signature}

/-- Before it advances, a poll adds cursors behind the head. -/
theorem Effect.within {recorded : List (Signature × Slot)} {window : Slot}
    (effect : Effect window addresses state trace reached recorded)
    (shows : Shows slotOf lower upper trace) (le : lower ≤ upper) (within : Within lower state.cursors) :
    Within upper reached.cursors ∧ Behind state.cursors reached.cursors := by
  have kept : Behind state.cursors reached.cursors :=
    fun address cursor present => ⟨cursor, effect.cursor_present present, Nat.le_refl _⟩
  rcases effect.cursors with same | ⟨headSlot, reading, _, prepares⟩
  · rw [same]
    exact ⟨within.mono le, .refl⟩
  refine ⟨fun address cursor present => ?_, kept⟩
  rw [prepares address] at present
  cases earlier : state.cursors[address]? with
  | some known =>
      rw [earlier, Option.some_or] at present
      cases present
      exact (within address _ earlier).trans le
  | none =>
      rw [earlier, Option.none_or] at present
      split at present
      · cases present
        exact (Nat.sub_le _ _).trans (shows.head reading).2
      · contradiction

/-- At a consistent endpoint no poll moves a cursor back, or past what the
endpoint has shown. -/
theorem poll_advances {result : Except (PollError Signature) PollOutcome}
    (ends : Action.Ends (poll pages datasource addresses) state trace result final)
    (answered : Program.Allowed Call.Answered trace) (shows : Shows slotOf lower upper trace)
    (le : lower ≤ upper) (within : Within lower state.cursors) :
    Within upper final.cursors ∧ Behind state.cursors final.cursors := by
  obtain ⟨reached, recorded, effect, ending⟩ := poll_cases ends answered
  obtain ⟨reachedWithin, kept⟩ := effect.within shows le within
  rcases ending with ⟨_, rfl⟩ | ⟨_, record, _, completed⟩
  · exact ⟨reachedWithin, kept⟩
  obtain ⟨headLower, headUpper⟩ := shows.head completed.head
  have advanced : ∀ batch ∈ record.survey.batches, lower ≤ batch.nextCursor.scannedSlot ∧
      batch.nextCursor.scannedSlot ≤ upper := by
    intro batch member
    obtain ⟨cursor, listing, batched⟩ := completed.batches.2 batch member
    rw [batched.nextCursor_eq]
    refine ⟨headLower.trans (Nat.le_max_left _ _), max_le headUpper ?_⟩
    cases first : batch.signatures.head? with
    | none =>
        have present := batched.present
        rw [← completed.unmoved] at present
        exact reachedWithin _ cursor present
    | some newest => exact (shows.listed (batched.above newest (List.mem_of_mem_head? first)).2).2
  constructor
  · intro address cursor present
    rcases completed.cursor_cases address with ⟨same, _⟩ | ⟨batch, member, rfl, _, replaced⟩
    · rw [same, ← completed.unmoved] at present
      exact reachedWithin address cursor present
    · rw [replaced] at present
      cases present
      exact (advanced batch member).2
  · intro address cursor present
    rcases completed.cursor_cases address with ⟨same, _⟩ | ⟨batch, member, rfl, _, replaced⟩
    · refine ⟨cursor, ?_, Nat.le_refl _⟩
      rw [same, ← completed.unmoved]
      exact effect.cursor_present present
    · exact ⟨batch.nextCursor, replaced, (within _ cursor present).trans (advanced batch member).1⟩

end Microscope.Polling
