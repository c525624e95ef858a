import Microscope.Polling.Listing
import Microscope.Polling.Poll

namespace Microscope.Polling

open Std Microscope.Data

/-! # What a survey of the addresses contains

One batch for every address in order, and a context for every listed signature
that names exactly the addresses whose batch contains it.
-/

variable {Signature : Type}

/-! ## Contexts -/

abbrev Mentions (Signature : Type) := List (Address × DiscoveredSignature Signature)

def mentionsOf (batch : AddressBatch Signature) : Mentions Signature :=
  batch.signatures.map fun discovered => (batch.address, discovered)

theorem mem_mentions {batches : List (AddressBatch Signature)} {address : Address}
    {discovered : DiscoveredSignature Signature} :
    (address, discovered) ∈ batches.flatMap mentionsOf ↔
      ∃ batch ∈ batches, batch.address = address ∧ discovered ∈ batch.signatures := by
  simp only [List.mem_flatMap, mentionsOf, List.mem_map, Prod.mk.injEq]
  constructor
  · rintro ⟨batch, member, _, listed, addressed, rfl⟩
    exact ⟨batch, member, addressed, listed⟩
  · rintro ⟨batch, member, addressed, listed⟩
    exact ⟨batch, member, discovered, listed, addressed, rfl⟩

variable [LinearOrder Signature]

/-- The contexts name exactly the mentions, each signature at one slot. -/
structure Indexes (mentions : Mentions Signature) (contexts : SignatureContexts Signature) :
    Prop where
  listed : ∀ address discovered, (address, discovered) ∈ mentions →
    ∃ context, contexts[discovered.signature]? = some context ∧
      context.slot = discovered.slot ∧ address ∈ context.addresses
  justified : ∀ signature context, contexts[signature]? = some context →
    context.addresses ≠ [] ∧ ∀ address ∈ context.addresses,
      (address, { signature, slot := context.slot }) ∈ mentions

variable {mentions : Mentions Signature} {contexts final : SignatureContexts Signature}
  {address : Address}

theorem indexes_nil : Indexes ([] : Mentions Signature) ∅ where
  listed := by simp
  justified := by simp

theorem Indexes.addContext {discovered : DiscoveredSignature Signature}
    (indexes : Indexes mentions contexts)
    (added : addContext address contexts discovered = .ok final) :
    Indexes (mentions ++ [(address, discovered)]) final := by
  have inserted : ∃ earlier, (earlier = [] ∧ contexts[discovered.signature]? = none ∨
      contexts[discovered.signature]? = some ⟨discovered.slot, earlier⟩) ∧
      final = contexts.insert discovered.signature ⟨discovered.slot, address :: earlier⟩ := by
    unfold Microscope.Polling.addContext at added
    split at added
    · rename_i context found
      split at added
      · contradiction
      rename_i same
      cases added
      obtain ⟨slot, addresses⟩ := context
      cases Decidable.not_not.mp same
      exact ⟨addresses, .inr found, rfl⟩
    · rename_i absent
      cases added
      exact ⟨[], .inl ⟨rfl, absent⟩, rfl⟩
  obtain ⟨earlier, found, rfl⟩ := inserted
  constructor
  · intro other mentioned member
    rw [OrderedMap.getElem?_insert]
    split
    · rename_i same
      refine ⟨_, rfl, ?_⟩
      rcases List.mem_append.mp member with member | member
      · obtain ⟨context, present, slot, listed⟩ := indexes.listed other mentioned member
        rw [← same] at present
        rcases found with ⟨_, absent⟩ | found
        · rw [absent] at present
          contradiction
        · rw [found] at present
          cases present
          exact ⟨slot, List.mem_cons_of_mem _ listed⟩
      · obtain ⟨rfl, rfl⟩ := Prod.mk.injEq .. ▸ List.mem_singleton.mp member
        simp
    · rename_i different
      rcases List.mem_append.mp member with member | member
      · exact indexes.listed other mentioned member
      · obtain ⟨rfl, rfl⟩ := Prod.mk.injEq .. ▸ List.mem_singleton.mp member
        contradiction
  · intro signature context present
    rw [OrderedMap.getElem?_insert] at present
    split at present
    · rename_i same
      subst same
      cases present
      refine ⟨by simp, fun other listed => ?_⟩
      rcases List.mem_cons.mp listed with rfl | listed
      · simp
      rcases found with ⟨rfl, _⟩ | found
      · contradiction
      · exact List.mem_append_left _ ((indexes.justified _ _ found).2 other listed)
    · obtain ⟨nonempty, justified⟩ := indexes.justified signature context present
      exact ⟨nonempty, fun other listed => List.mem_append_left _ (justified other listed)⟩

theorem Indexes.addContexts {signatures : List (DiscoveredSignature Signature)}
    (indexes : Indexes mentions contexts)
    (added : addContexts address contexts signatures = .ok final) :
    Indexes (mentions ++ signatures.map fun discovered => (address, discovered)) final := by
  induction signatures generalizing mentions contexts with
  | nil =>
      cases added
      simpa using indexes
  | cons discovered rest ih =>
      unfold Microscope.Polling.addContexts at added
      rw [List.foldlM_cons] at added
      cases first : Microscope.Polling.addContext address contexts discovered with
      | error failure => simp [first, bind, Except.bind] at added
      | ok middle =>
          have addedRest : Microscope.Polling.addContexts address middle rest = .ok final := by
            simpa [Microscope.Polling.addContexts, first, bind, Except.bind] using added
          simpa using ih (indexes.addContext first) addedRest

/-! ## Surveys -/

variable {headSlot replayWindowSlots : Slot} {cursors : ExtTreeMap Address AddressCursor}
  {trace : List (CallEvent Signature)} {survey surveyed : Survey Signature}
  {addresses : List Address} {pages : Nat} {state after : PollingState Signature}
  {cursor : AddressCursor}

/-- The boundary check of one address: the boundary is the one already read in
this poll, or it is read now. -/
inductive Checks : Option Slot → List (CallEvent Signature) → Slot → Prop where
  | known {boundary : Slot} : Checks (some boundary) [] boundary
  | read {boundary : Slot} :
      Checks none [⟨.rpc .getFirstAvailableBlock, .ok boundary⟩] boundary

theorem readFirstAvailableBlock_cases {result : Except (PollError Signature) Slot}
    (ends : Action.Ends readFirstAvailableBlock state trace result after) :
    after = state ∧ ∀ boundary, result = .ok boundary →
      trace = [⟨.rpc .getFirstAvailableBlock, .ok boundary⟩] := by
  obtain ⟨response, later, rfl, answered⟩ := Action.ends_request_bind_iff.mp ends
  cases response with
  | error error =>
      obtain ⟨rfl, rfl, rfl⟩ := Action.ends_fail_iff.mp answered
      exact ⟨rfl, by simp⟩
  | ok boundary =>
      obtain ⟨rfl, rfl, rfl⟩ := Action.ends_pure_iff.mp answered
      exact ⟨rfl, fun _ same => by rw [Except.ok.inj same]⟩

theorem readFirstAvailableBlock_obeys {permitted : Call Signature → Prop}
    (may : permitted (.rpc .getFirstAvailableBlock)) :
    Action.Obeys (fun _ _ => True) permitted
      (readFirstAvailableBlock : PollAction Signature Slot) state := by
  refine Action.Obeys.bind (Action.obeys_request.mpr may) fun _ response _ _ _ => ?_
  cases response with
  | error error => exact Action.obeys_fail
  | ok boundary => exact Action.obeys_pure

theorem readFirstAvailableBlock_quiet :
    Action.Obeys (fun _ _ => True) Call.Quiet (readFirstAvailableBlock : PollAction Signature Slot)
      state :=
  readFirstAvailableBlock_obeys trivial

theorem historyBoundary_cases {result : Except (PollError Signature) Slot}
    (ends : Action.Ends (historyBoundary survey) state trace result after) :
    after = state ∧ ∀ boundary, result = .ok boundary →
      Checks survey.firstAvailableSlot trace boundary := by
  unfold historyBoundary at ends
  cases known : survey.firstAvailableSlot with
  | some boundary =>
      simp only [known] at ends
      obtain ⟨rfl, rfl, rfl⟩ := Action.ends_pure_iff.mp ends
      exact ⟨rfl, fun _ same => by rw [Except.ok.inj same]; exact .known⟩
  | none =>
      simp only [known] at ends
      obtain ⟨same, answered⟩ := readFirstAvailableBlock_cases ends
      exact ⟨same, fun boundary ok => by rw [answered boundary ok]; exact .read⟩

theorem checkAddressHistory_cases {result : Except (PollError Signature) (Survey Signature)}
    (ends : Action.Ends (checkAddressHistory survey cursor) state trace result after) :
    after = state ∧ ∀ checked, result = .ok checked → ∃ boundary,
      Checks survey.firstAvailableSlot trace boundary ∧
      boundary ≤ saturatingAdd cursor.scannedSlot 1 ∧
      checked = { survey with
        firstAvailableSlot := some boundary, historyBoundaryVerified := true } := by
  rcases Action.ends_bind_iff.mp ends with
    ⟨failure, rfl, failed⟩ | ⟨first, second, boundary, middle, rfl, boundaryRead, compared⟩
  · exact ⟨(historyBoundary_cases failed).1, by simp⟩
  obtain ⟨rfl, checks⟩ := historyBoundary_cases boundaryRead
  split at compared
  · obtain ⟨rfl, rfl, rfl⟩ := Action.ends_fail_iff.mp compared
    exact ⟨rfl, by simp⟩
  · rename_i intact
    obtain ⟨rfl, rfl, rfl⟩ := Action.ends_pure_iff.mp compared
    refine ⟨rfl, fun checked same => ⟨boundary, ?_, Nat.le_of_not_gt intact, ?_⟩⟩
    · rw [List.append_nil]
      exact checks boundary rfl
    · exact (Except.ok.inj same).symm

theorem checkAddressHistory_quiet :
    Action.Obeys (fun _ _ => True) Call.Quiet (checkAddressHistory survey cursor) state := by
  refine Action.Obeys.bind ?_ fun _ boundary _ _ _ => ?_
  · unfold historyBoundary
    split
    · exact Action.obeys_pure
    · exact readFirstAvailableBlock_quiet
  · split
    · exact Action.obeys_fail
    · exact Action.obeys_pure

variable [SignatureText Signature]

/-- The successful runs of the address loop. -/
inductive Surveys (headSlot replayWindowSlots : Slot) (cursors : ExtTreeMap Address AddressCursor) :
    List Address → Survey Signature → List (CallEvent Signature) → Survey Signature → Prop where
  | done {survey : Survey Signature} :
      Surveys headSlot replayWindowSlots cursors [] survey [] survey
  | reached {address : Address} {addresses : List Address} {survey final : Survey Signature}
      {cursor : AddressCursor} {listing : Listing Signature} {contexts : SignatureContexts Signature}
      {listed trace : List (CallEvent Signature)}
      (present : cursors[address]? = some cursor)
      (pages : Pages address (cursor.scannedSlot - replayWindowSlots)
        (minContextSlot headSlot replayWindowSlots) none {} listed listing true)
      (added : addContexts address survey.contexts listing.signatures = .ok contexts)
      (rest : Surveys headSlot replayWindowSlots cursors addresses
        { survey with
          batches := survey.batches ++ [batchOf headSlot address cursor listing true], contexts }
        trace final) :
      Surveys headSlot replayWindowSlots cursors (address :: addresses) survey (listed ++ trace) final
  | checked {address : Address} {addresses : List Address} {survey final : Survey Signature}
      {cursor : AddressCursor} {listing : Listing Signature} {contexts : SignatureContexts Signature}
      {listed checks trace : List (CallEvent Signature)} {boundary : Slot}
      (present : cursors[address]? = some cursor)
      (pages : Pages address (cursor.scannedSlot - replayWindowSlots)
        (minContextSlot headSlot replayWindowSlots) none {} listed listing false)
      (check : Checks survey.firstAvailableSlot checks boundary)
      (intact : boundary ≤ saturatingAdd cursor.scannedSlot 1)
      (added : addContexts address survey.contexts listing.signatures = .ok contexts)
      (rest : Surveys headSlot replayWindowSlots cursors addresses
        { batches := survey.batches ++ [batchOf headSlot address cursor listing false], contexts
          firstAvailableSlot := some boundary, historyBoundaryVerified := true }
        trace final) :
      Surveys headSlot replayWindowSlots cursors (address :: addresses) survey
        (listed ++ checks ++ trace) final

theorem surveyAddresses_cases {result : Except (PollError Signature) (Survey Signature)}
    (ends : Action.Ends (surveyAddresses pages headSlot replayWindowSlots addresses survey) state
      trace result after) :
    after = state ∧ ∀ surveyed, result = .ok surveyed →
      Surveys headSlot replayWindowSlots state.cursors addresses survey trace surveyed := by
  induction addresses generalizing survey trace with
  | nil =>
      obtain ⟨rfl, rfl, rfl⟩ := Action.ends_pure_iff.mp ends
      exact ⟨rfl, fun surveyed same => by cases same; exact .done⟩
  | cons address addresses ih =>
      have ends := Action.ends_read_bind_iff.mp ends
      cases present : state.cursors[address]? with
      | none =>
          rw [present] at ends
          obtain ⟨rfl, rfl, rfl⟩ := Action.ends_fail_iff.mp ends
          exact ⟨rfl, by simp⟩
      | some cursor =>
          rw [present] at ends
          rcases Action.ends_bind_iff.mp ends with
            ⟨failure, rfl, failed⟩ | ⟨listed, later, batch, middle, rfl, discovered, batchEnds⟩
          · exact ⟨(discoverSignatures_cases failed).1, by simp⟩
          obtain ⟨rfl, batches⟩ := discoverSignatures_cases discovered
          obtain ⟨listing, reached, pages, rfl⟩ := batches batch rfl
          cases reached with
          | true =>
              change Action.Ends
                (Action.ofExcept (addContexts address survey.contexts listing.signatures) >>= _)
                _ _ _ _ at batchEnds
              rcases Action.ends_ofExcept_bind_iff.mp batchEnds with
                ⟨_, _, rfl, rfl, rfl⟩ | ⟨contexts, added, rest⟩
              · exact ⟨rfl, by simp⟩
              obtain ⟨same, surveys⟩ := ih rest
              exact ⟨same, fun surveyed ok => .reached present pages added (surveys surveyed ok)⟩
          | false =>
              rcases Action.ends_bind_iff.mp batchEnds with
                ⟨failure, rfl, failed⟩ | ⟨checks, final, checked, _, rfl, boundary, checkedEnds⟩
              · exact ⟨(checkAddressHistory_cases failed).1, by simp⟩
              obtain ⟨rfl, checks⟩ := checkAddressHistory_cases boundary
              obtain ⟨boundary, check, intact, rfl⟩ := checks checked rfl
              rcases Action.ends_ofExcept_bind_iff.mp checkedEnds with
                ⟨_, _, rfl, rfl, rfl⟩ | ⟨contexts, added, rest⟩
              · exact ⟨rfl, by simp⟩
              obtain ⟨same, surveys⟩ := ih rest
              refine ⟨same, fun surveyed ok => ?_⟩
              rw [← List.append_assoc]
              exact .checked present pages check intact added (surveys surveyed ok)

theorem surveyAddresses_quiet :
    Action.Obeys (fun _ _ => True) Call.Quiet
      (surveyAddresses pages headSlot replayWindowSlots addresses survey) state := by
  induction addresses generalizing survey state with
  | nil => exact Action.obeys_pure
  | cons address addresses ih =>
      refine Action.Obeys.bind Action.obeys_read fun _ current middle _ _ => ?_
      split
      · exact Action.obeys_fail
      refine discoverSignatures_quiet.bind fun _ batch middle _ _ => ?_
      change Action.Obeys _ _ (if batch.reachedReplayFloor then _ else _) _
      split
      · change Action.Obeys _ _
          (Action.ofExcept (addContexts address survey.contexts batch.signatures) >>= _) _
        exact Action.Obeys.bind Action.obeys_ofExcept fun _ _ _ _ _ => ih
      · exact checkAddressHistory_quiet.bind fun _ _ _ _ _ =>
          Action.Obeys.bind Action.obeys_ofExcept fun _ _ _ _ _ => ih

/-- One batch for every address in order, and contexts for exactly what the
batches mention. -/
theorem Surveys.batched
    (surveys : Surveys headSlot replayWindowSlots cursors addresses survey trace surveyed) :
    ∃ more, surveyed.batches = survey.batches ++ more ∧ more.map AddressBatch.address = addresses ∧
      ∀ batch ∈ more, ∃ cursor listing,
        Batched headSlot replayWindowSlots cursors trace batch cursor listing := by
  induction surveys with
  | done => exact ⟨[], by simp, rfl, by simp⟩
  | @reached address addresses survey final cursor listing contexts listed trace present pages added rest ih =>
      obtain ⟨more, batches, addressed, batched⟩ := ih
      refine ⟨batchOf headSlot address cursor listing true :: more, by simp [batches],
        by simp [addressed, batchOf], ?_⟩
      intro batch member
      rcases List.mem_cons.mp member with rfl | member
      · exact ⟨cursor, listing, present, rfl, [], listed, trace, rfl, pages⟩
      · obtain ⟨cursor, listing, later⟩ := batched batch member
        exact ⟨cursor, listing, by simpa using later.extend listed []⟩
  | @checked address addresses survey final cursor listing contexts listed checks trace boundary present pages
      check intact added rest ih =>
      obtain ⟨more, batches, addressed, batched⟩ := ih
      refine ⟨batchOf headSlot address cursor listing false :: more, by simp [batches],
        by simp [addressed, batchOf], ?_⟩
      intro batch member
      rcases List.mem_cons.mp member with rfl | member
      · exact ⟨cursor, listing, present, rfl, [], listed, checks ++ trace, by simp, pages⟩
      · obtain ⟨cursor, listing, later⟩ := batched batch member
        exact ⟨cursor, listing, by simpa using later.extend (listed ++ checks) []⟩

theorem Surveys.indexes
    (surveys : Surveys headSlot replayWindowSlots cursors addresses survey trace surveyed)
    (indexes : Indexes (survey.batches.flatMap mentionsOf) survey.contexts) :
    Indexes (surveyed.batches.flatMap mentionsOf) surveyed.contexts := by
  induction surveys with
  | done => exact indexes
  | reached _ _ added _ ih =>
      apply ih
      simpa [mentionsOf, batchOf] using indexes.addContexts added
  | checked _ _ _ _ added _ ih =>
      apply ih
      simpa [mentionsOf, batchOf] using indexes.addContexts added

/-- A signature with a context was listed for one of the addresses, above the
replay floor of its cursor. -/
theorem Surveys.mentioned {verified : Bool} {signature : Signature} {context : SignatureContext}
    (surveys : Surveys headSlot replayWindowSlots cursors addresses
      { historyBoundaryVerified := verified } trace surveyed)
    (present : surveyed.contexts[signature]? = some context) :
    ∃ address ∈ addresses, ∃ cursor, cursors[address]? = some cursor ∧
      cursor.scannedSlot - replayWindowSlots < context.slot ∧
      ListedIn trace address { signature, slot := context.slot } := by
  obtain ⟨nonempty, justified⟩ := (surveys.indexes indexes_nil).justified signature context present
  obtain ⟨address, listed⟩ := List.exists_mem_of_ne_nil _ nonempty
  obtain ⟨batch, member, rfl, discovered⟩ := mem_mentions.mp (justified address listed)
  obtain ⟨more, batches, addressed, batched⟩ := surveys.batched
  rw [batches, List.nil_append] at member
  obtain ⟨cursor, listing, batched⟩ := batched batch member
  obtain ⟨above, inTrace⟩ := batched.above _ discovered
  refine ⟨batch.address, ?_, cursor, batched.present, above, inTrace⟩
  rw [← addressed]
  exact List.mem_map_of_mem member

end Microscope.Polling
