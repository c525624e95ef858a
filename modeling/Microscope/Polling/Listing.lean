import Microscope.Polling.Signatures

namespace Microscope.Polling

open Std Microscope.Data

/-! # What a listing contains

A discovered signature stands for one entry of one page, above the floor. A
page either is taken whole or stops at its first entry at or below the floor.
-/

variable {Signature : Type} [SignatureText Signature]
  {floor minimumContext : Slot} {address : Address} {trace : List (CallEvent Signature)}
  {listing final : Listing Signature} {reached : Bool}

/-- A discovered signature is the parsed form of a listed entry. -/
def Parses (info : SignatureInfo) (discovered : DiscoveredSignature Signature) : Prop :=
  info.slot = discovered.slot ∧ SignatureText.fromText info.signature = some discovered.signature

theorem parsed_from {infos : List SignatureInfo} {parsed : List (DiscoveredSignature Signature)}
    {discovered : DiscoveredSignature Signature} (parses : List.Forall₂ Parses infos parsed)
    (member : discovered ∈ parsed) : ∃ info ∈ infos, Parses info discovered := by
  induction parses with
  | nil => contradiction
  | cons parses _ ih =>
      rcases List.mem_cons.mp member with rfl | member
      · exact ⟨_, by simp, parses⟩
      · obtain ⟨info, member, parses⟩ := ih member
        exact ⟨info, by simp [member], parses⟩

/-- The entry was listed for `address` by some page of the trace. -/
def ListedIn (trace : List (CallEvent Signature)) (address : Address)
    (discovered : DiscoveredSignature Signature) : Prop :=
  ∃ before limit context page info,
    ⟨.rpc (.getSignaturesForAddress address before limit context), .ok page⟩ ∈ trace ∧
    info ∈ page ∧ Parses info discovered

theorem ListedIn.mono {more : List (CallEvent Signature)} {discovered : DiscoveredSignature Signature}
    (listed : ListedIn trace address discovered) (inside : ∀ event ∈ trace, event ∈ more) :
    ListedIn more address discovered := by
  obtain ⟨before, limit, context, page, info, event, member, parses⟩ := listed
  exact ⟨before, limit, context, page, info, inside _ event, member, parses⟩

theorem ListedIn.bounded {address : Address} {discovered : DiscoveredSignature Signature}
    (answered : Program.Allowed Call.Answered trace) (listed : ListedIn trace address discovered) :
    discovered.slot ≤ u64Max := by
  obtain ⟨_, _, _, page, info, event, member, slot, _⟩ := listed
  rw [← slot]
  exact answered _ event info member

/-- The surroundings give each signature one slot. -/
structure Reports (slotOf : Signature → Slot) (trace : List (CallEvent Signature)) : Prop where
  delivered : ∀ delivery ∈ delivered trace, delivery.2 = slotOf delivery.1
  fetched : ∀ signature transaction, (signature, .ok transaction) ∈ fetchOutcomes trace →
    transaction.slot = slotOf signature
  listed : ∀ address discovered, ListedIn trace address discovered →
    discovered.slot = slotOf discovered.signature

theorem appendSignaturePage_spec {page : List SignatureInfo}
    (appended : appendSignaturePage floor page listing = .ok (final, reached)) :
    ∃ taken rest more, page = taken ++ rest ∧ List.Forall₂ Parses taken more ∧
      (∀ discovered ∈ more, floor < discovered.slot) ∧
      final.signatures = listing.signatures ++ more ∧
      final.newestSlot = listing.newestSlot.or (more.head?.map DiscoveredSignature.slot) ∧
      (reached = true → ∃ info tail, rest = info :: tail ∧ info.slot ≤ floor) ∧
      (reached = false → rest = []) := by
  induction page generalizing listing with
  | nil =>
      cases appended
      exact ⟨[], [], [], rfl, .nil, by simp, by simp, by simp, by simp, by simp⟩
  | cons info page ih =>
      rw [appendSignaturePage] at appended
      by_cases low : info.slot ≤ floor
      · rw [if_pos low] at appended
        cases appended
        exact ⟨[], info :: page, [], rfl, .nil, by simp, by simp, by simp,
          fun _ => ⟨info, page, rfl, low⟩, by simp⟩
      · rw [if_neg low] at appended
        cases parsed : (SignatureText.fromText info.signature : Option Signature) with
        | none => simp [parsed] at appended
        | some signature =>
            simp only [parsed] at appended
            obtain ⟨taken, rest, more, split, parses, above, signatures, newest, floorReached, whole⟩ :=
              ih appended
            refine ⟨info :: taken, rest, { signature, slot := info.slot } :: more,
              by rw [split]; rfl, .cons ⟨rfl, parsed⟩ parses, ?_, ?_, ?_, floorReached, whole⟩
            · intro discovered member
              rcases List.mem_cons.mp member with rfl | member
              · exact Nat.lt_of_not_le low
              · exact above discovered member
            · rw [signatures]
              simp
            · rw [newest]
              cases listing.newestSlot <;> simp

/-- A nonempty page above the floor leaves a last signature to continue from. -/
theorem appendSignaturePage_ends {page : List SignatureInfo}
    (appended : appendSignaturePage floor page listing = .ok (final, false)) (nonempty : page ≠ []) :
    final.signatures.getLast? ≠ none := by
  obtain ⟨taken, rest, more, split, parses, _, signatures, _, _, whole⟩ :=
    appendSignaturePage_spec appended
  rw [whole rfl, List.append_nil] at split
  subst split
  cases parses with
  | nil => contradiction
  | cons _ _ => simp [signatures]

/-- The event of one answered page request. -/
def pageEvent (address : Address) (before : Option Signature) (minimumContext : Slot)
    (page : List SignatureInfo) : CallEvent Signature :=
  ⟨.rpc (.getSignaturesForAddress address before signaturePageLimit minimumContext), .ok page⟩

/-- The successful runs of the page loop, one constructor for each way a page
is handled. -/
inductive Pages (address : Address) (floor minimumContext : Slot) :
    Option Signature → Listing Signature → List (CallEvent Signature) →
    Listing Signature → Bool → Prop where
  | exhausted {before : Option Signature} {listing : Listing Signature} :
      Pages address floor minimumContext before listing
        [pageEvent address before minimumContext []] listing false
  | floor {before : Option Signature} {listing final : Listing Signature} {page : List SignatureInfo}
      (appended : appendSignaturePage floor page listing = .ok (final, true)) :
      Pages address floor minimumContext before listing
        [pageEvent address before minimumContext page] final true
  | last {before : Option Signature} {listing final : Listing Signature} {page : List SignatureInfo}
      (nonempty : page ≠ []) (appended : appendSignaturePage floor page listing = .ok (final, false))
      (short : page.length < signaturePageLimit) :
      Pages address floor minimumContext before listing
        [pageEvent address before minimumContext page] final false
  | more {before : Option Signature} {listing middle final : Listing Signature}
      {page : List SignatureInfo} {pageEnd : DiscoveredSignature Signature}
      {trace : List (CallEvent Signature)} {reached : Bool}
      (appended : appendSignaturePage floor page listing = .ok (middle, false))
      (full : signaturePageLimit ≤ page.length)
      (ending : middle.signatures.getLast? = some pageEnd)
      (rest : Pages address floor minimumContext (some pageEnd.signature) middle trace final reached) :
      Pages address floor minimumContext before listing
        (pageEvent address before minimumContext page :: trace) final reached

section Pages

variable {before : Option Signature}

/-- The loop reads at least one page. -/
theorem Pages.requested
    (run : Pages address floor minimumContext before listing trace final reached) :
    ∃ before page, pageEvent address before minimumContext page ∈ trace := by
  cases run with
  | exhausted => exact ⟨_, _, List.mem_singleton.mpr rfl⟩
  | floor => exact ⟨_, _, List.mem_singleton.mpr rfl⟩
  | last => exact ⟨_, _, List.mem_singleton.mpr rfl⟩
  | more => exact ⟨_, _, List.mem_cons_self⟩

/-- What the loop adds lies above the floor and was listed by its trace. -/
theorem Pages.listed (run : Pages address floor minimumContext before listing trace final reached) :
    ∃ more, final.signatures = listing.signatures ++ more ∧
      ∀ discovered ∈ more, floor < discovered.slot ∧ ListedIn trace address discovered := by
  have page_listed : ∀ (before : Option Signature) {page listing final reached},
      appendSignaturePage floor page listing = .ok (final, reached) →
      ∃ more, final.signatures = listing.signatures ++ more ∧
        ∀ discovered ∈ more, floor < discovered.slot ∧
          ListedIn [pageEvent address before minimumContext page] address discovered := by
    intro before page listing final reached appended
    obtain ⟨taken, rest, more, split, parses, above, signatures, _⟩ :=
      appendSignaturePage_spec appended
    refine ⟨more, signatures, fun discovered member => ⟨above discovered member, ?_⟩⟩
    obtain ⟨info, taken, parsed⟩ := parsed_from parses member
    exact ⟨before, _, _, page, info, List.mem_singleton.mpr rfl, by simp [split, taken], parsed⟩
  induction run with
  | exhausted => exact ⟨[], by simp, by simp⟩
  | floor appended => exact page_listed _ appended
  | last _ appended _ => exact page_listed _ appended
  | @more before listing middle final page pageEnd trace reached appended _ _ _ ih =>
      obtain ⟨first, middleSignatures, firstListed⟩ := page_listed before appended
      obtain ⟨second, finalSignatures, secondListed⟩ := ih
      refine ⟨first ++ second, by rw [finalSignatures, middleSignatures, List.append_assoc], ?_⟩
      intro discovered member
      rcases List.mem_append.mp member with member | member
      · obtain ⟨above, listed⟩ := firstListed discovered member
        exact ⟨above, listed.mono (by simp)⟩
      · obtain ⟨above, listed⟩ := secondListed discovered member
        exact ⟨above, listed.mono (by simp +contextual)⟩

/-- The newest slot is that of the first signature. -/
theorem Pages.newest (run : Pages address floor minimumContext before listing trace final reached)
    (first : listing.newestSlot = listing.signatures.head?.map DiscoveredSignature.slot) :
    final.newestSlot = final.signatures.head?.map DiscoveredSignature.slot := by
  have page_newest : ∀ {page} {listing final : Listing Signature} {reached},
      appendSignaturePage floor page listing = .ok (final, reached) →
      listing.newestSlot = listing.signatures.head?.map DiscoveredSignature.slot →
      final.newestSlot = final.signatures.head?.map DiscoveredSignature.slot := by
    intro page listing final reached appended first
    obtain ⟨_, _, more, _, _, _, signatures, newest, _⟩ := appendSignaturePage_spec appended
    rw [newest, signatures, first]
    cases listing.signatures <;> simp
  induction run with
  | exhausted => exact first
  | floor appended => exact page_newest appended first
  | last _ appended _ => exact page_newest appended first
  | more appended _ _ _ ih => exact ih (page_newest appended first)

end Pages

/-! ## Batches -/

/-- The batch `discover_signatures` makes of a listing. -/
def batchOf (headSlot : Slot) (address : Address) (cursor : AddressCursor)
    (listing : Listing Signature) (reached : Bool) : AddressBatch Signature where
  address := address
  signatures := listing.signatures
  nextCursor := { scannedSlot := max headSlot (listing.newestSlot.getD cursor.scannedSlot) }
  reachedReplayFloor := reached

/-- The batch was made from a segment of the trace that lists its address down
to the replay floor of its cursor. -/
structure Batched (headSlot replayWindowSlots : Slot) (cursors : ExtTreeMap Address AddressCursor)
    (trace : List (CallEvent Signature)) (batch : AddressBatch Signature) (cursor : AddressCursor)
    (listing : Listing Signature) : Prop where
  present : cursors[batch.address]? = some cursor
  made : batch = batchOf headSlot batch.address cursor listing batch.reachedReplayFloor
  listed : ∃ before segment after, trace = before ++ segment ++ after ∧
    Pages batch.address (cursor.scannedSlot - replayWindowSlots)
      (minContextSlot headSlot replayWindowSlots) none {} segment listing batch.reachedReplayFloor

variable {batch : AddressBatch Signature} {headSlot replayWindowSlots : Slot} {cursors : ExtTreeMap Address AddressCursor}
  {cursor : AddressCursor}

theorem Batched.extend (before later : List (CallEvent Signature))
    (batched : Batched headSlot replayWindowSlots cursors trace batch cursor listing) :
    Batched headSlot replayWindowSlots cursors (before ++ trace ++ later) batch cursor listing := by
  obtain ⟨present, made, first, segment, last, split, pages⟩ := batched
  exact ⟨present, made, before ++ first, segment, last ++ later,
    by simp only [split, List.append_assoc], pages⟩

theorem Batched.signatures_eq
    (batched : Batched headSlot replayWindowSlots cursors trace batch cursor listing) :
    batch.signatures = listing.signatures := by
  rw [batched.made]
  rfl

/-- Every signature of a batch was listed for its address above the floor. -/
theorem Batched.above
    (batched : Batched headSlot replayWindowSlots cursors trace batch cursor listing) :
    ∀ discovered ∈ batch.signatures, cursor.scannedSlot - replayWindowSlots < discovered.slot ∧
      ListedIn trace batch.address discovered := by
  intro discovered member
  obtain ⟨first, segment, last, rfl, pages⟩ := batched.listed
  obtain ⟨more, signatures, listed⟩ := pages.listed
  rw [batched.signatures_eq, signatures] at member
  obtain ⟨above, listed⟩ := listed discovered (by simpa using member)
  exact ⟨above, listed.mono (by simp +contextual)⟩

/-- The next cursor is the head, the newest listed slot if there is one, or
else the cursor itself, whichever is greater. -/
theorem Batched.nextCursor_eq
    (batched : Batched headSlot replayWindowSlots cursors trace batch cursor listing) :
    batch.nextCursor.scannedSlot =
      max headSlot ((batch.signatures.head?.map DiscoveredSignature.slot).getD cursor.scannedSlot) := by
  obtain ⟨first, segment, last, rfl, pages⟩ := batched.listed
  have newest := pages.newest rfl
  rw [batched.made]
  simp only [batchOf, newest]

/-! ## The page loop -/

variable [LinearOrder Signature] {pages : Nat} {state after : PollingState Signature}

theorem listSignatures_quiet {before : Option Signature} :
    Action.Obeys (fun _ _ => True) Call.Quiet
      (listSignatures address floor minimumContext pages before listing) state := by
  induction pages generalizing before listing state with
  | zero => exact Action.obeys_fail
  | succ pages ih =>
      refine Action.Obeys.bind (Action.obeys_request.mpr trivial) fun trace response middle ends _ => ?_
      cases response with
      | error error => exact Action.obeys_fail
      | ok page =>
          change Action.Obeys _ _ (if page.isEmpty then _ else _) _
          split
          · exact Action.obeys_pure
          refine Action.Obeys.bind Action.obeys_ofExcept fun _ appended middle _ _ => ?_
          obtain ⟨appended, reached⟩ := appended
          change Action.Obeys _ _ (if reached then _ else _) _
          split
          · exact Action.obeys_pure
          change Action.Obeys _ _ (if page.length < signaturePageLimit then _ else _) _
          split
          · exact Action.obeys_pure
          split
          · exact Action.obeys_pure
          · exact ih

/-- The page loop leaves the state alone, and what it lists is given by
`Pages`. -/
theorem listSignatures_cases {before : Option Signature}
    {result : Except (PollError Signature) (Listing Signature × Bool)}
    (ends : Action.Ends (listSignatures address floor minimumContext pages before listing) state
      trace result after) :
    after = state ∧ ∀ final reached, result = .ok (final, reached) →
      Pages address floor minimumContext before listing trace final reached := by
  induction pages generalizing before listing trace with
  | zero =>
      obtain ⟨_, rfl, rfl⟩ := Action.ends_fail_iff.mp ends
      exact ⟨rfl, by simp⟩
  | succ pages ih =>
      obtain ⟨response, later, rfl, pageEnds⟩ := Action.ends_request_bind_iff.mp ends
      cases response with
      | error error =>
          obtain ⟨_, rfl, rfl⟩ := Action.ends_fail_iff.mp pageEnds
          exact ⟨rfl, by simp⟩
      | ok page =>
          change Action.Ends (if page.isEmpty then _ else _) _ _ _ _ at pageEnds
          split at pageEnds
          · rename_i empty
            obtain ⟨rfl, rfl, rfl⟩ := Action.ends_pure_iff.mp pageEnds
            refine ⟨rfl, fun final reached same => ?_⟩
            cases same
            rw [List.isEmpty_iff.mp empty]
            exact .exhausted
          rename_i nonempty
          rcases Action.ends_ofExcept_bind_iff.mp pageEnds with
            ⟨_, _, rfl, rfl, rfl⟩ | ⟨⟨appended, reachedFloor⟩, append, appendedEnds⟩
          · exact ⟨rfl, by simp⟩
          change Action.Ends (if reachedFloor then _ else _) _ _ _ _ at appendedEnds
          split at appendedEnds
          · rename_i floorReached
            obtain ⟨rfl, rfl, rfl⟩ := Action.ends_pure_iff.mp appendedEnds
            refine ⟨rfl, fun final reached same => ?_⟩
            cases same
            rw [floorReached] at append
            exact .floor append
          rename_i notReached
          rw [Bool.eq_false_iff.mpr notReached] at append
          change Action.Ends (if page.length < signaturePageLimit then _ else _) _ _ _ _
            at appendedEnds
          split at appendedEnds
          · rename_i short
            obtain ⟨rfl, rfl, rfl⟩ := Action.ends_pure_iff.mp appendedEnds
            refine ⟨rfl, fun final reached same => ?_⟩
            cases same
            exact .last (by simpa [List.isEmpty_iff] using nonempty) append short
          rename_i full
          split at appendedEnds
          · rename_i unended
            exact absurd unended (appendSignaturePage_ends append
              (by simpa [List.isEmpty_iff] using nonempty))
          · rename_i pageEnd ending
            obtain ⟨same, listed⟩ := ih appendedEnds
            exact ⟨same, fun final reached ok =>
              .more append (Nat.le_of_not_lt full) ending (listed final reached ok)⟩

/-- `discover_signatures` leaves the state alone and lists down to the replay
floor. -/
theorem discoverSignatures_cases {result : Except (PollError Signature) (AddressBatch Signature)}
    (ends : Action.Ends (discoverSignatures pages address cursor headSlot replayWindowSlots) state
      trace result after) :
    after = state ∧ ∀ batch, result = .ok batch → ∃ listing reached,
      Pages address (cursor.scannedSlot - replayWindowSlots)
        (minContextSlot headSlot replayWindowSlots) none {} trace listing reached ∧
      batch = batchOf headSlot address cursor listing reached := by
  rcases Action.ends_bind_iff.mp ends with
    ⟨failure, rfl, failed⟩ | ⟨first, second, ⟨listing, reached⟩, middle, rfl, listed, rest⟩
  · exact ⟨(listSignatures_cases failed).1, by simp⟩
  · obtain ⟨rfl, run⟩ := listSignatures_cases listed
    obtain ⟨rfl, rfl, rfl⟩ := Action.ends_pure_iff.mp rest
    refine ⟨rfl, fun batch same => ⟨listing, reached, ?_, (Except.ok.inj same).symm⟩⟩
    rw [List.append_nil]
    exact run listing reached rfl

theorem discoverSignatures_quiet :
    Action.Obeys (fun _ _ => True) Call.Quiet
      (discoverSignatures pages address cursor headSlot replayWindowSlots) state :=
  Action.Obeys.bind listSignatures_quiet fun _ _ _ _ _ => Action.obeys_pure

end Microscope.Polling
