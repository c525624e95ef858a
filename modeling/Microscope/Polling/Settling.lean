import Microscope.Polling.Poll

namespace Microscope.Polling

open Std Microscope.Data

/-! # How fetched transactions are settled

Every fetched signature ends up converted, retrying or quarantined.  The
quarantined ones are recorded as recent signatures; nothing else is recorded
here.
-/

variable {Signature : Type} [LinearOrder Signature] {contexts : SignatureContexts Signature}
  {before : PollingState Signature} {settled : Settled Signature} {signature : Signature}
  {outcome : FetchOutcome} {fetched : List (Signature × FetchOutcome)}
  {caught : List (Signature × Slot)}

/-- The outcome counts as a failure of the transaction itself. -/
def Poisons (signature : Signature) : FetchOutcome → Prop
  | .ok transaction => transactionUpdate signature transaction = none
  | .error failure => failure.permanent = true

/-- What the outcomes of a poll amount to.  `caught` lists the signatures
quarantined by them, with the slots they are recorded at. -/
structure SettledFrom (contexts : SignatureContexts Signature) (before : PollingState Signature)
    (fetched : List (Signature × FetchOutcome)) (settled : Settled Signature)
    (caught : List (Signature × Slot)) : Prop where
  cursors : settled.state.cursors = before.cursors
  recentSignatures : settled.state.recentSignatures =
    OrderedMap.insertAll before.recentSignatures caught
  successful : ∀ update ∈ settled.successful, ∃ transaction,
    (update.signature, .ok transaction) ∈ fetched ∧
    transactionUpdate update.signature transaction = some update.update ∧
    update.slot = transaction.slot
  retrying : ∀ signature ∈ settled.retrying, signature ∈ fetched.map Prod.fst
  quarantined : ∀ signature slot, (signature, slot) ∈ caught →
    (∃ outcome, (signature, outcome) ∈ fetched ∧ Poisons signature outcome) ∧
    signature ∈ settled.state.quarantinedSignatures ∧
    ∃ context, contexts[signature]? = some context ∧ context.slot = slot
  complete : ∀ signature ∈ fetched.map Prod.fst, signature ∈ settled.retrying ∨
    (∃ slot, (signature, slot) ∈ caught) ∨
    ∃ update ∈ settled.successful, update.signature = signature
  recorded : ∀ signature outcome, (signature, outcome) ∈ fetched → Poisons signature outcome →
    signature ∈ settled.state.quarantinedSignatures → ∃ slot, (signature, slot) ∈ caught
  elsewhere : ∀ signature, signature ∉ fetched.map Prod.fst →
    (signature ∈ settled.state.quarantinedSignatures ↔ signature ∈ before.quarantinedSignatures)

theorem settledFrom_nil : SettledFrom contexts before [] { state := before } [] where
  cursors := rfl
  recentSignatures := rfl
  successful := by simp
  retrying := by simp
  quarantined := by simp
  complete := by simp
  recorded := by simp
  elsewhere := by simp

/-- The outcomes settled first, and those settled from there. -/
def Settled.append (first second : Settled Signature) : Settled Signature where
  state := second.state
  successful := first.successful ++ second.successful
  retrying := first.retrying ++ second.retrying

theorem SettledFrom.append {first second : Settled Signature}
    {more : List (Signature × FetchOutcome)} {caughtLater : List (Signature × Slot)}
    (earlier : SettledFrom contexts before fetched first caught)
    (later : SettledFrom contexts first.state more second caughtLater)
    (disjoint : ∀ signature ∈ fetched.map Prod.fst, signature ∉ more.map Prod.fst) :
    SettledFrom contexts before (fetched ++ more) (first.append second) (caught ++ caughtLater) where
  cursors := later.cursors.trans earlier.cursors
  recentSignatures := by
    rw [OrderedMap.insertAll_append, ← earlier.recentSignatures]
    exact later.recentSignatures
  successful := by
    intro update member
    rcases List.mem_append.mp member with member | member
    · obtain ⟨transaction, present, rest⟩ := earlier.successful update member
      exact ⟨transaction, List.mem_append_left _ present, rest⟩
    · obtain ⟨transaction, present, rest⟩ := later.successful update member
      exact ⟨transaction, List.mem_append_right _ present, rest⟩
  retrying := by
    intro signature member
    rw [List.map_append]
    exact List.mem_append.mpr
      ((List.mem_append.mp member).imp (earlier.retrying signature) (later.retrying signature))
  quarantined := by
    intro signature slot member
    rcases List.mem_append.mp member with member | member
    · obtain ⟨⟨outcome, present, poisons⟩, quarantined, context⟩ :=
        earlier.quarantined signature slot member
      have untouched := later.elsewhere signature (disjoint _ (List.mem_map_of_mem present))
      exact ⟨⟨outcome, List.mem_append_left _ present, poisons⟩, untouched.mpr quarantined, context⟩
    · obtain ⟨⟨outcome, present, poisons⟩, rest⟩ := later.quarantined signature slot member
      exact ⟨⟨outcome, List.mem_append_right _ present, poisons⟩, rest⟩
  complete := by
    intro signature member
    rw [List.map_append] at member
    simp only [Settled.append, List.mem_append]
    rcases List.mem_append.mp member with member | member
    · rcases earlier.complete signature member with retrying | ⟨slot, caught⟩ | ⟨update, ready, same⟩
      · exact .inl (.inl retrying)
      · exact .inr (.inl ⟨slot, .inl caught⟩)
      · exact .inr (.inr ⟨update, .inl ready, same⟩)
    · rcases later.complete signature member with retrying | ⟨slot, caught⟩ | ⟨update, ready, same⟩
      · exact .inl (.inr retrying)
      · exact .inr (.inl ⟨slot, .inr caught⟩)
      · exact .inr (.inr ⟨update, .inr ready, same⟩)
  recorded := by
    intro signature outcome member poisons quarantined
    rcases List.mem_append.mp member with member | member
    · have untouched := later.elsewhere signature (disjoint _ (List.mem_map_of_mem member))
      obtain ⟨slot, caught⟩ :=
        earlier.recorded signature outcome member poisons (untouched.mp quarantined)
      exact ⟨slot, List.mem_append_left _ caught⟩
    · obtain ⟨slot, caught⟩ := later.recorded signature outcome member poisons quarantined
      exact ⟨slot, List.mem_append_right _ caught⟩
  elsewhere := by
    intro signature absent
    rw [List.map_append, List.mem_append, not_or] at absent
    exact (later.elsewhere signature absent.2).trans (earlier.elsewhere signature absent.1)

/-- Fetched updates carry the signature they were fetched for. -/
theorem SettledFrom.update_signature {update : FetchedUpdate Signature}
    (settledFrom : SettledFrom contexts before fetched settled caught)
    (member : update ∈ settled.successful) : update.update.signature = update.signature := by
  obtain ⟨_, _, converted, _⟩ := settledFrom.successful update member
  exact (transactionUpdate_some converted).1

/-! ## One outcome -/

variable [SignatureText Signature]

theorem settleOutcome_poisoned (error : RpcError) {context : SignatureContext}
    (poisons : Poisons signature outcome)
    (processed : processFetchedTransaction before signature outcome = poisoned before signature error)
    (present : contexts[signature]? = some context) :
    ∃ caught, SettledFrom contexts before [(signature, outcome)]
      (settleOutcome contexts { state := before } (signature, outcome)) caught := by
  have elsewhere : ∀ other, other ∉ [(signature, outcome)].map Prod.fst →
      (other ∈ (before.recordPoisonFailure signature
          maxTransactionFailureAttempts).2.quarantinedSignatures ↔
        other ∈ before.quarantinedSignatures) := by
    intro other different
    rw [PollingState.mem_quarantined_recordPoisonFailure, if_neg]
    rintro rfl
    simp at different
  have now : signature ∈ (before.recordPoisonFailure signature
      maxTransactionFailureAttempts).2.quarantinedSignatures ↔
      (before.recordPoisonFailure signature maxTransactionFailureAttempts).1.quarantined = true := by
    rw [PollingState.mem_quarantined_recordPoisonFailure, if_pos rfl]
  simp only [settleOutcome, processed, poisoned, present]
  cases caught : (before.recordPoisonFailure signature maxTransactionFailureAttempts).1.quarantined with
  | true =>
      refine ⟨[(signature, context.slot)], ?_⟩
      simp only [if_true]
      exact {
        cursors := rfl
        recentSignatures := rfl
        successful := by simp
        retrying := by simp
        quarantined := by
          intro other slot member
          obtain ⟨rfl, rfl⟩ := Prod.mk.injEq .. ▸ List.mem_singleton.mp member
          exact ⟨⟨outcome, by simp, poisons⟩, now.mpr caught, context, present, rfl⟩
        complete := by simp
        recorded := by simp
        elsewhere }
  | false =>
      refine ⟨[], ?_⟩
      simp only [Bool.false_eq_true, if_false]
      exact {
        cursors := rfl
        recentSignatures := rfl
        successful := by simp
        retrying := by simp
        quarantined := by simp
        complete := by simp
        recorded := by
          intro other fetched member _ quarantined
          obtain ⟨rfl, rfl⟩ := Prod.mk.injEq .. ▸ List.mem_singleton.mp member
          rw [now.mp quarantined] at caught
          contradiction
        elsewhere }

theorem settleOutcome_settledFrom (before : PollingState Signature) (outcome : FetchOutcome)
    {context : SignatureContext}
    (present : contexts[signature]? = some context) :
    ∃ caught, SettledFrom contexts before [(signature, outcome)]
      (settleOutcome contexts { state := before } (signature, outcome)) caught := by
  cases outcome with
  | ok transaction =>
      cases converted : transactionUpdate signature transaction with
      | none =>
          exact settleOutcome_poisoned
            ("transaction " ++ SignatureText.toText signature ++ " could not be converted") converted
            (by simp only [processFetchedTransaction, converted]) present
      | some update =>
          simp only [settleOutcome, processFetchedTransaction, converted]
          refine ⟨[], ?_⟩
          exact {
            cursors := rfl
            recentSignatures := rfl
            successful := by simpa using converted
            retrying := by simp
            quarantined := by simp
            complete := by simp
            recorded := by
              intro other fetched member poisons
              obtain ⟨rfl, rfl⟩ := Prod.mk.injEq .. ▸ List.mem_singleton.mp member
              rw [Poisons, converted] at poisons
              contradiction
            elsewhere := by
              intro other different
              rw [PollingState.mem_quarantined_clearPoisonFailure]
              simp_all [Ne.symm] }
  | error failure =>
      obtain ⟨permanent, error⟩ := failure
      cases permanent with
      | true => exact settleOutcome_poisoned _ rfl rfl present
      | false =>
          refine ⟨[], ?_⟩
          exact {
            cursors := rfl
            recentSignatures := rfl
            successful := by simp [settleOutcome, processFetchedTransaction]
            retrying := by simp [settleOutcome, processFetchedTransaction]
            quarantined := by simp
            complete := by simp [settleOutcome, processFetchedTransaction]
            recorded := by
              intro other fetched member poisons
              obtain ⟨rfl, rfl⟩ := Prod.mk.injEq .. ▸ List.mem_singleton.mp member
              contradiction
            elsewhere := fun _ _ => Iff.rfl }

/-! ## All outcomes -/

theorem settleOutcome_append {entry : Signature × FetchOutcome} :
    settleOutcome contexts settled entry =
      settled.append (settleOutcome contexts { state := settled.state } entry) := by
  unfold settleOutcome
  cases processFetchedTransaction settled.state entry.1 entry.2 with
  | mk outcome state =>
      cases outcome with
      | ready slot update => simp [Settled.append]
      | transientFailure error => simp [Settled.append]
      | poisoned error disposition =>
          cases quarantined : disposition.quarantined with
          | false => simp [Settled.append, quarantined]
          | true => cases present : contexts[entry.1]? <;> simp [Settled.append, quarantined]

theorem foldl_settleOutcome :
    fetched.foldl (settleOutcome contexts) settled =
      settled.append (settleOutcomes contexts settled.state fetched) := by
  induction fetched generalizing settled with
  | nil => simp [settleOutcomes, Settled.append]
  | cons entry rest ih =>
      rw [settleOutcomes, List.foldl_cons, List.foldl_cons, ih, ih, settleOutcome_append]
      simp [Settled.append]

/-- Fetching every selected signature once settles each of them. -/
theorem settleOutcomes_settledFrom (before : PollingState Signature) (nodup : (fetched.map Prod.fst).Nodup)
    (known : ∀ signature ∈ fetched.map Prod.fst, ∃ context, contexts[signature]? = some context) :
    ∃ caught, SettledFrom contexts before fetched (settleOutcomes contexts before fetched) caught := by
  induction fetched generalizing before with
  | nil => exact ⟨[], settledFrom_nil⟩
  | cons entry rest ih =>
      obtain ⟨signature, outcome⟩ := entry
      rw [List.map_cons, List.nodup_cons] at nodup
      obtain ⟨context, present⟩ := known signature (by simp)
      obtain ⟨first, settledFirst⟩ := settleOutcome_settledFrom before outcome present
      obtain ⟨second, settledRest⟩ := ih
        (settleOutcome contexts { state := before } (signature, outcome)).state nodup.2
        fun other member => known other (by simp [member])
      refine ⟨first ++ second, ?_⟩
      rw [settleOutcomes, List.foldl_cons, foldl_settleOutcome]
      refine settledFirst.append settledRest ?_
      intro other member
      simp only [List.map_cons, List.map_nil, List.mem_singleton] at member
      rw [member]
      exact nodup.1

end Microscope.Polling
