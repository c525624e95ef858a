import Microscope.Rpc

namespace Microscope.Polling

open Std Microscope.Data

/-! # Polling state

The cursors, the recently recorded signatures and the failing transactions the
poller keeps between polls.
-/

def maxTransactionFailureAttempts : Nat := 5

structure AddressCursor where
  scannedSlot : Slot
deriving DecidableEq, Repr

structure PoisonFailure where
  attempts : Nat
  quarantined : Bool
deriving DecidableEq, Repr

structure FailureDisposition where
  attempts : Nat
  quarantined : Bool
  newlyQuarantined : Bool
deriving DecidableEq, Repr

structure DiscoveredSignature (Signature : Type) where
  signature : Signature
  slot : Slot
deriving DecidableEq, Repr

structure AddressBatch (Signature : Type) where
  address : Address
  signatures : List (DiscoveredSignature Signature)
  nextCursor : AddressCursor
  reachedReplayFloor : Bool
deriving DecidableEq, Repr

structure SignatureContext where
  slot : Slot
  addresses : List Address
deriving DecidableEq, Repr

variable {Signature : Type} [LinearOrder Signature]

structure PollingState (Signature : Type) [LinearOrder Signature] where
  cursors : ExtTreeMap Address AddressCursor := ∅
  recentSignatures : ExtTreeMap Signature Slot := ∅
  poisonFailures : ExtTreeMap Signature PoisonFailure := ∅
  lastHistoryBoundaryCheck : Option Instant := none

abbrev SignatureContexts (Signature : Type) [LinearOrder Signature] :=
  ExtTreeMap Signature SignatureContext

namespace PollingState

variable (state : PollingState Signature)

def hasRecentSignature (signature : Signature) : Bool :=
  state.recentSignatures.contains signature

def recordRecentSignature (signature : Signature) (slot : Slot) : PollingState Signature :=
  { state with recentSignatures := state.recentSignatures.insert signature slot }

def retainSignaturesAfter (minimumSlot : Slot) : PollingState Signature :=
  { state with recentSignatures := state.recentSignatures.filter fun _ slot => slot > minimumSlot }

def historyBoundaryCheckDue (now : Instant) (interval : Nat) : Bool :=
  match state.lastHistoryBoundaryCheck with
  | none => true
  | some lastCheck => now - lastCheck ≥ interval

def recordHistoryBoundaryCheck (checkedAt : Instant) : PollingState Signature :=
  { state with lastHistoryBoundaryCheck := some checkedAt }

def recordPoisonFailure (signature : Signature) (maximumAttempts : Nat) :
    FailureDisposition × PollingState Signature :=
  let failure := state.poisonFailures[signature]?.getD { attempts := 0, quarantined := false }
  let counted : PoisonFailure :=
    if failure.quarantined then failure
    else
      let attempts := min (failure.attempts + 1) u32Max
      { attempts, quarantined := attempts ≥ maximumAttempts }
  ({ attempts := counted.attempts, quarantined := counted.quarantined,
     newlyQuarantined := !failure.quarantined && counted.quarantined },
   { state with poisonFailures := state.poisonFailures.insert signature counted })

def clearPoisonFailure (signature : Signature) : PollingState Signature :=
  { state with poisonFailures := state.poisonFailures.erase signature }

def quarantinedSignatures : ExtTreeSet Signature :=
  ExtTreeSet.ofList
    ((state.poisonFailures.toList.filter fun entry => entry.2.quarantined).map fun entry => entry.1)

def restoreQuarantined (signatures : ExtTreeSet Signature) : PollingState Signature :=
  let restored : PoisonFailure := { attempts := u32Max, quarantined := true }
  { state with
    poisonFailures := OrderedMap.insertAll state.poisonFailures
      (signatures.toList.map fun signature => (signature, restored)) }

/-- The least cursor over all addresses. -/
def minimumScannedSlot : Option Slot :=
  OrderedMap.least state.cursors AddressCursor.scannedSlot

variable {state} {signature other : Signature} {slot minimumSlot : Slot}

@[simp] theorem recordRecentSignature_cursors :
    (state.recordRecentSignature signature slot).cursors = state.cursors := rfl

@[simp] theorem recordRecentSignature_poisonFailures :
    (state.recordRecentSignature signature slot).poisonFailures = state.poisonFailures := rfl

@[simp] theorem retainSignaturesAfter_cursors :
    (state.retainSignaturesAfter minimumSlot).cursors = state.cursors := rfl

@[simp] theorem retainSignaturesAfter_poisonFailures :
    (state.retainSignaturesAfter minimumSlot).poisonFailures = state.poisonFailures := rfl

@[simp] theorem recordHistoryBoundaryCheck_cursors {checkedAt : Instant} :
    (state.recordHistoryBoundaryCheck checkedAt).cursors = state.cursors := rfl

@[simp] theorem recordHistoryBoundaryCheck_recentSignatures {checkedAt : Instant} :
    (state.recordHistoryBoundaryCheck checkedAt).recentSignatures = state.recentSignatures := rfl

@[simp] theorem recordHistoryBoundaryCheck_poisonFailures {checkedAt : Instant} :
    (state.recordHistoryBoundaryCheck checkedAt).poisonFailures = state.poisonFailures := rfl

@[simp] theorem recordPoisonFailure_cursors {maximumAttempts : Nat} :
    (state.recordPoisonFailure signature maximumAttempts).2.cursors = state.cursors := rfl

@[simp] theorem recordPoisonFailure_recentSignatures {maximumAttempts : Nat} :
    (state.recordPoisonFailure signature maximumAttempts).2.recentSignatures =
      state.recentSignatures := rfl

@[simp] theorem clearPoisonFailure_cursors :
    (state.clearPoisonFailure signature).cursors = state.cursors := rfl

@[simp] theorem clearPoisonFailure_recentSignatures :
    (state.clearPoisonFailure signature).recentSignatures = state.recentSignatures := rfl

@[simp] theorem restoreQuarantined_cursors {signatures : ExtTreeSet Signature} :
    (state.restoreQuarantined signatures).cursors = state.cursors := rfl

@[simp] theorem restoreQuarantined_recentSignatures {signatures : ExtTreeSet Signature} :
    (state.restoreQuarantined signatures).recentSignatures = state.recentSignatures := rfl

@[simp] theorem hasRecentSignature_iff :
    state.hasRecentSignature signature = true ↔ signature ∈ state.recentSignatures := by
  simp [hasRecentSignature]

theorem retainSignaturesAfter_getElem? :
    (state.retainSignaturesAfter minimumSlot).recentSignatures[other]? =
      state.recentSignatures[other]?.filter fun slot => slot > minimumSlot :=
  OrderedMap.getElem?_filter

theorem mem_quarantinedSignatures :
    signature ∈ state.quarantinedSignatures ↔
      ∃ failure, state.poisonFailures[signature]? = some failure ∧ failure.quarantined = true := by
  simp [quarantinedSignatures, ExtTreeSet.mem_ofList, ExtTreeMap.mem_toList_iff_getElem?_eq_some]

theorem minimumScannedSlot_le {minimum : Slot} {address : Address} {cursor : AddressCursor}
    (found : state.minimumScannedSlot = some minimum)
    (present : state.cursors[address]? = some cursor) : minimum ≤ cursor.scannedSlot :=
  OrderedMap.least_le found present

/-- Only the failing transaction's own entry changes, and it is quarantined
exactly when the disposition says so. -/
theorem mem_quarantined_recordPoisonFailure {maximumAttempts : Nat} :
    other ∈ (state.recordPoisonFailure signature maximumAttempts).2.quarantinedSignatures ↔
      if signature = other then
        (state.recordPoisonFailure signature maximumAttempts).1.quarantined = true
      else other ∈ state.quarantinedSignatures := by
  simp only [mem_quarantinedSignatures, recordPoisonFailure, OrderedMap.getElem?_insert]
  split <;> simp

theorem mem_quarantined_clearPoisonFailure :
    other ∈ (state.clearPoisonFailure signature).quarantinedSignatures ↔
      signature ≠ other ∧ other ∈ state.quarantinedSignatures := by
  simp only [mem_quarantinedSignatures, clearPoisonFailure, ExtTreeMap.getElem?_erase,
    Std.compare_eq_iff_eq]
  split <;> simp_all

theorem mem_quarantined_restoreQuarantined {signatures : ExtTreeSet Signature}
    (fresh : state.poisonFailures = ∅) :
    signature ∈ (state.restoreQuarantined signatures).quarantinedSignatures ↔
      signature ∈ signatures := by
  simp only [mem_quarantinedSignatures, restoreQuarantined, fresh,
    OrderedMap.getElem?_insertAll_const, ExtTreeSet.mem_toList]
  split <;> simp_all

end PollingState

/-! ## Readiness and advancement -/

def signatureIsReady (signature : Signature) (contexts : SignatureContexts Signature)
    (blockedAddresses : List Address) : Bool :=
  match contexts[signature]? with
  | none => false
  | some context => context.addresses.all fun address => !blockedAddresses.contains address

/-- One batch of `advance_ready_cursors`. -/
def advanceReadyCursor (retryingSignatures : List Signature)
    (progress : PollingState Signature × Bool) (batch : AddressBatch Signature) :
    PollingState Signature × Bool :=
  if batch.signatures.any fun discovered => retryingSignatures.contains discovered.signature then
    progress
  else
    ({ progress.1 with cursors := progress.1.cursors.insert batch.address batch.nextCursor },
     progress.2 || !batch.signatures.isEmpty)

def advanceReadyCursors (state : PollingState Signature) (batches : List (AddressBatch Signature))
    (retryingSignatures : List Signature) : PollingState Signature × Bool :=
  batches.foldl (advanceReadyCursor retryingSignatures) (state, false)

end Microscope.Polling
