import Microscope.Polling.Effects

namespace Microscope.Polling

open Std Microscope.Data

/-! # What a successful poll leaves behind -/

variable {Signature : Type} [LinearOrder Signature] {replayWindowSlots : Slot}
  {before reached after : PollingState Signature} {address : Address} {signature : Signature}

theorem advanceAndRetain_cursors {headSlot : Slot} {batches : List (AddressBatch Signature)}
    {retrying : List Signature} :
    (advanceAndRetain headSlot replayWindowSlots batches retrying reached).1.cursors =
      (advanceReadyCursors reached batches retrying).1.cursors := rfl

/-- The slot below which a successful poll forgets what it recorded. -/
def retentionBound (headSlot replayWindowSlots : Slot) (after : PollingState Signature) : Slot :=
  unreachableBelow (after.minimumScannedSlot.getD headSlot) replayWindowSlots

theorem advanceAndRetain_recentSignatures {headSlot : Slot} {batches : List (AddressBatch Signature)}
    {retrying : List Signature} :
    let final := (advanceAndRetain headSlot replayWindowSlots batches retrying reached).1
    final.recentSignatures[signature]? = reached.recentSignatures[signature]?.filter
      fun slot => slot > retentionBound headSlot replayWindowSlots final := by
  simp only [advanceAndRetain, PollingState.retainSignaturesAfter_getElem?,
    advanceReadyCursors_recentSignatures]
  rfl

variable [SignatureText Signature] {record : PollRecord Signature}
  {trace : List (CallEvent Signature)} {addresses : List Address}

namespace Completed

/-- A cursor is replaced by the batch of its address unless that is held. -/
theorem cursor_cases
    (completed : Completed replayWindowSlots addresses before trace reached after record)
    (address : Address) :
    (after.cursors[address]? = record.prepared.cursors[address]? ∧
      ∀ batch ∈ record.survey.batches, batch.address = address →
        Held record.settled.retrying batch) ∨
    ∃ batch ∈ record.survey.batches, batch.address = address ∧
      ¬Held record.settled.retrying batch ∧ after.cursors[address]? = some batch.nextCursor := by
  rw [completed.advanced, advanceAndRetain_cursors, ← completed.unmoved]
  exact advanceReadyCursors_cases address

theorem recentSignatures_getElem?
    (completed : Completed replayWindowSlots addresses before trace reached after record) :
    after.recentSignatures[signature]? = reached.recentSignatures[signature]?.filter
      fun slot => slot > retentionBound record.headSlot replayWindowSlots after := by
  rw [completed.advanced]
  exact advanceAndRetain_recentSignatures

theorem quarantinedSignatures_eq
    (completed : Completed replayWindowSlots addresses before trace reached after record) :
    after.quarantinedSignatures = reached.quarantinedSignatures := by
  rw [completed.advanced]
  exact quarantinedSignatures_congr advanceReadyCursors_poisonFailures

theorem settled_quarantinedSignatures
    (completed : Completed replayWindowSlots addresses before trace reached after record) :
    after.quarantinedSignatures = record.settled.state.quarantinedSignatures := by
  rw [completed.quarantinedSignatures_eq]
  exact quarantinedSignatures_congr completed.poisonFailures

/-- Every address has one batch, made from the listing of that address. -/
theorem batches
    (completed : Completed replayWindowSlots addresses before trace reached after record) :
    record.survey.batches.map AddressBatch.address = addresses ∧
      ∀ batch ∈ record.survey.batches, ∃ cursor listing,
        Batched record.headSlot replayWindowSlots record.prepared.cursors trace batch cursor listing := by
  obtain ⟨earlier, listed, later, verified, rfl, _, _, surveys⟩ := completed.surveyed
  obtain ⟨more, batches, addressed, batched⟩ := surveys.batched
  rw [List.nil_append] at batches
  rw [batches]
  refine ⟨addressed, fun batch member => ?_⟩
  obtain ⟨cursor, listing, made⟩ := batched batch member
  exact ⟨cursor, listing, made.extend earlier later⟩

theorem exists_batch
    (completed : Completed replayWindowSlots addresses before trace reached after record)
    (monitored : address ∈ addresses) :
    ∃ batch ∈ record.survey.batches, batch.address = address := by
  rw [← completed.batches.1] at monitored
  obtain ⟨batch, member, addressed⟩ := List.mem_map.mp monitored
  exact ⟨batch, member, addressed⟩

theorem batch_address_mem {batch : AddressBatch Signature}
    (completed : Completed replayWindowSlots addresses before trace reached after record)
    (member : batch ∈ record.survey.batches) : batch.address ∈ addresses := by
  rw [← completed.batches.1]
  exact List.mem_map_of_mem member

theorem indexes
    (completed : Completed replayWindowSlots addresses before trace reached after record) :
    Indexes (record.survey.batches.flatMap mentionsOf) record.survey.contexts := by
  obtain ⟨_, _, _, _, _, _, _, surveys⟩ := completed.surveyed
  exact surveys.indexes indexes_nil

/-- With distinct addresses, a batch is determined by its address. -/
theorem batch_eq {first second : AddressBatch Signature}
    (completed : Completed replayWindowSlots addresses before trace reached after record)
    (distinct : addresses.Nodup) (firstMember : first ∈ record.survey.batches)
    (secondMember : second ∈ record.survey.batches) (same : first.address = second.address) :
    first = second := by
  rw [← completed.batches.1] at distinct
  exact List.inj_on_of_nodup_map distinct firstMember secondMember same

theorem bounded
    (completed : Completed replayWindowSlots addresses before trace reached after record)
    (bounded : reached.Bounded) (answered : Program.Allowed Call.Answered trace) : after.Bounded where
  cursors := by
    intro address cursor found
    rcases completed.cursor_cases address with ⟨same, _⟩ | ⟨batch, member, rfl, _, replaced⟩
    · rw [same, ← completed.unmoved] at found
      exact bounded.cursors address cursor found
    · rw [replaced] at found
      cases found
      obtain ⟨cursor, listing, batched⟩ := completed.batches.2 batch member
      rw [batched.nextCursor_eq]
      refine max_le (headReading_bounded answered completed.head) ?_
      cases first : batch.signatures.head? with
      | none =>
          have present := batched.present
          rw [← completed.unmoved] at present
          exact bounded.cursors _ cursor present
      | some newest =>
          exact ((batched.above newest (List.mem_of_mem_head? first)).2).bounded answered
  recentSignatures := by
    intro signature slot found
    rw [completed.recentSignatures_getElem?] at found
    exact bounded.recentSignatures signature slot (Option.filter_eq_some_iff.mp found).1

/-- Advancing neither adds nor removes a cursor. -/
theorem isSome_cursor
    (completed : Completed replayWindowSlots addresses before trace reached after record)
    (address : Address) : after.cursors[address]?.isSome = reached.cursors[address]?.isSome := by
  rcases completed.cursor_cases address with ⟨same, _⟩ | ⟨batch, member, rfl, _, replaced⟩
  · rw [same, completed.unmoved]
  · obtain ⟨cursor, listing, batched⟩ := completed.batches.2 batch member
    rw [replaced, completed.unmoved, batched.present]
    rfl

end Completed

/-- Before a poll advances, cursors are only added. -/
theorem Effect.cursor_present {recorded : List (Signature × Slot)} {cursor : AddressCursor}
    (effect : Effect replayWindowSlots addresses before trace reached recorded)
    (present : before.cursors[address]? = some cursor) : reached.cursors[address]? = some cursor := by
  rcases effect.cursors with same | ⟨_, _, _, prepares⟩
  · rw [same, present]
  · rw [prepares address, present, Option.some_or]

end Microscope.Polling
