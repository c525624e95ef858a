import Microscope.Polling.Signatures

namespace Microscope.Polling

open Std Microscope.Data

/-! # One poll

`poll` is the source function of that name.  Its stages are the blocks of the
source in their order: absorb what Yellowstone delivered, read the head, check
it against the cursors, install missing cursors, check the history boundary,
list every address, fetch, settle the outcomes, queue what is ready, and
advance.
-/

def historyBoundaryCheckInterval : Nat := 60000

/-- `datasource.replay_window_slots`, which `Config::validate` bounds. -/
structure ReplayWindow where
  slots : Slot
  positive : 1 ≤ slots
  bounded : slots ≤ 100000
deriving DecidableEq, Repr

structure RpcPollingDatasource where
  programId : Address
  multisigStateAddress : Option Address
  pollInterval : Nat
  replayWindow : ReplayWindow
  checkpointPath : String
  /-- Whether a Yellowstone stream hands its deliveries over. -/
  delivered : Bool
deriving DecidableEq, Repr

/-- The checkpoint store of a deployment. -/
def RpcPollingDatasource.checkpointStore (datasource : RpcPollingDatasource)
    (path genesisHash : String) (addresses : List Address) : CheckpointStore :=
  .new path genesisHash datasource.programId addresses datasource.replayWindow.slots

structure PollOutcome where
  queuedTransactions : Nat
  checkpointUrgent : Bool
  historyBoundaryVerified : Bool
deriving DecidableEq, Repr

variable {Signature : Type} [LinearOrder Signature] [SignatureText Signature]

/-! ## Heads and cursors -/

def PollingState.recordRecentSignatures (state : PollingState Signature)
    (deliveries : List (Signature × Slot)) : PollingState Signature :=
  deliveries.foldl (fun state delivery => state.recordRecentSignature delivery.1 delivery.2) state

def absorbDeliveredSignatures (datasource : RpcPollingDatasource) : PollAction Signature Unit :=
  if datasource.delivered then do
    let deliveries ← ask .drainDelivered
    .modify fun state => state.recordRecentSignatures deliveries
  else
    pure ()

def readSlot : PollAction Signature Slot := do
  let response ← ask (.rpc .getSlot)
  match response with
  | .error error => .fail (.readSlot error)
  | .ok headSlot => return headSlot

def readFirstAvailableBlock : PollAction Signature Slot := do
  let response ← ask (.rpc .getFirstAvailableBlock)
  match response with
  | .error error => .fail (.readHistoryBoundary error)
  | .ok firstAvailableSlot => return firstAvailableSlot

def cursorAheadOfHead (cursors : ExtTreeMap Address AddressCursor)
    (headSlot replayWindowSlots : Slot) : Option CursorAheadOfHead :=
  let implausibleBeyond := saturatingAdd headSlot replayWindowSlots
  (cursors.toList.find? fun entry => entry.2.scannedSlot > implausibleBeyond).map fun entry =>
    { address := entry.1, cursorSlot := entry.2.scannedSlot, headSlot }

def refuseCursorAheadOfHead (headSlot replayWindowSlots : Slot) : PollAction Signature Unit := do
  let state ← Action.read
  match cursorAheadOfHead state.cursors headSlot replayWindowSlots with
  | some ahead => .fail (.cursorAheadOfHead ahead)
  | none => return ()

/-- Give one address a cursor if it has none; the flag says whether any did. -/
def installCursor (replaySlot : Slot) (progress : PollingState Signature × Bool)
    (address : Address) : PollingState Signature × Bool :=
  if progress.1.cursors.contains address then progress
  else
    ({ progress.1 with
       cursors := progress.1.cursors.insert address { scannedSlot := replaySlot } }, true)

def installCursors (addresses : List Address) (headSlot replayWindowSlots : Slot) :
    PollAction Signature Bool := do
  let state ← Action.read
  let (installed, initialized) :=
    addresses.foldl (installCursor (headSlot - replayWindowSlots)) (state, false)
  .modify fun _ => installed
  return initialized

/-! ## History boundary -/

def historyGap (firstAvailableSlot checkpointSlot : Slot) : PollError Signature :=
  .historyUnavailable { firstAvailableSlot, checkpointSlot }

/-- The periodic check of the least cursor; the answer says whether the
boundary was read and found intact. -/
def verifyHistoryBoundary : PollAction Signature Bool := do
  let checkedAt ← ask .now
  let state ← Action.read
  if state.historyBoundaryCheckDue checkedAt historyBoundaryCheckInterval then
    match state.minimumScannedSlot with
    | none => return false
    | some minimumScannedSlot =>
        let firstAvailableSlot ← readFirstAvailableBlock
        .modify fun state => state.recordHistoryBoundaryCheck checkedAt
        if firstAvailableSlot > saturatingAdd minimumScannedSlot 1 then
          .fail (historyGap firstAvailableSlot minimumScannedSlot)
        else
          return true
  else
    return false

/-! ## Listing every address -/

/-- What the address loop of `poll` accumulates. -/
structure Survey (Signature : Type) [LinearOrder Signature] where
  batches : List (AddressBatch Signature) := []
  contexts : SignatureContexts Signature := ∅
  firstAvailableSlot : Option Slot := none
  historyBoundaryVerified : Bool := false

/-- The boundary of this poll, which is read when the first address needs it. -/
def historyBoundary (survey : Survey Signature) : PollAction Signature Slot :=
  match survey.firstAvailableSlot with
  | some boundary => return boundary
  | none => readFirstAvailableBlock

/-- A listing that stopped above the replay floor is complete only if the
history still reaches the cursor. -/
def checkAddressHistory (survey : Survey Signature) (cursor : AddressCursor) :
    PollAction Signature (Survey Signature) := do
  let boundary ← historyBoundary survey
  if boundary > saturatingAdd cursor.scannedSlot 1 then
    .fail (historyGap boundary cursor.scannedSlot)
  else
    return { survey with firstAvailableSlot := some boundary, historyBoundaryVerified := true }

def addContext (address : Address) (contexts : SignatureContexts Signature)
    (discovered : DiscoveredSignature Signature) :
    Except (PollError Signature) (SignatureContexts Signature) :=
  match contexts[discovered.signature]? with
  | some context =>
      if context.slot ≠ discovered.slot then
        .error (.conflictingSlots discovered.signature context.slot discovered.slot)
      else
        .ok (contexts.insert discovered.signature
          { context with addresses := address :: context.addresses })
  | none =>
      .ok (contexts.insert discovered.signature
        { slot := discovered.slot, addresses := [address] })

def addContexts (address : Address) (contexts : SignatureContexts Signature)
    (signatures : List (DiscoveredSignature Signature)) :
    Except (PollError Signature) (SignatureContexts Signature) :=
  signatures.foldlM (addContext address) contexts

def surveyAddresses (pages : Nat) (headSlot replayWindowSlots : Slot) :
    List Address → Survey Signature → PollAction Signature (Survey Signature)
  | [], survey => return survey
  | address :: addresses, survey => do
      let state ← Action.read
      match state.cursors[address]? with
      | none => .fail (.missingCursor address)
      | some cursor =>
          let batch ← discoverSignatures pages address cursor headSlot replayWindowSlots
          let survey ←
            if batch.reachedReplayFloor then pure survey else checkAddressHistory survey cursor
          let contexts ← .ofExcept (addContexts address survey.contexts batch.signatures)
          surveyAddresses pages headSlot replayWindowSlots addresses
            { survey with batches := survey.batches ++ [batch], contexts }

/-! ## Fetching -/

def signaturesToFetch (contexts : SignatureContexts Signature) (state : PollingState Signature) :
    List Signature :=
  contexts.keys.filter fun signature => !state.hasRecentSignature signature

inductive TransactionPollOutcome (Signature : Type) where
  | ready (slot : Slot) (update : TransactionUpdate Signature)
  | transientFailure (error : RpcError)
  | poisoned (error : RpcError) (disposition : FailureDisposition)
deriving DecidableEq, Repr

def poisoned (state : PollingState Signature) (signature : Signature) (error : RpcError) :
    TransactionPollOutcome Signature × PollingState Signature :=
  let (disposition, state) := state.recordPoisonFailure signature maxTransactionFailureAttempts
  (.poisoned error disposition, state)

def processFetchedTransaction (state : PollingState Signature) (signature : Signature) :
    FetchOutcome → TransactionPollOutcome Signature × PollingState Signature
  | .ok transaction =>
      match transactionUpdate signature transaction with
      | some update => (.ready transaction.slot update, state.clearPoisonFailure signature)
      | none => poisoned state signature
          ("transaction " ++ SignatureText.toText signature ++ " could not be converted")
  | .error failure =>
      if failure.permanent then poisoned state signature failure.error
      else (.transientFailure failure.error, state)

/-- An update that was fetched and converted. -/
structure FetchedUpdate (Signature : Type) where
  signature : Signature
  slot : Slot
  update : TransactionUpdate Signature
deriving DecidableEq, Repr

/-- What the outcome loop of `poll` accumulates. -/
structure Settled (Signature : Type) [LinearOrder Signature] where
  state : PollingState Signature
  successful : List (FetchedUpdate Signature) := []
  retrying : List Signature := []

/-- One outcome. Indexing the contexts panics in the source when the signature
is not there; only selected signatures are fetched. -/
def settleOutcome (contexts : SignatureContexts Signature) (settled : Settled Signature)
    (fetched : Signature × FetchOutcome) : Settled Signature :=
  let (outcome, state) := processFetchedTransaction settled.state fetched.1 fetched.2
  match outcome with
  | .ready slot update =>
      { settled with
        state, successful := settled.successful ++ [{ signature := fetched.1, slot, update }] }
  | .transientFailure _ => { settled with state, retrying := settled.retrying ++ [fetched.1] }
  | .poisoned _ disposition =>
      if disposition.quarantined then
        match contexts[fetched.1]? with
        | none => { settled with state }
        | some context => { settled with state := state.recordRecentSignature fetched.1 context.slot }
      else
        { settled with state, retrying := settled.retrying ++ [fetched.1] }

def settleOutcomes (contexts : SignatureContexts Signature) (state : PollingState Signature)
    (fetched : List (Signature × FetchOutcome)) : Settled Signature :=
  fetched.foldl (settleOutcome contexts) { state }

def fetchTransactions (contexts : SignatureContexts Signature) :
    PollAction Signature (Settled Signature) := do
  let state ← Action.read
  let fetched ← ask (.rpc (.fetchTransactions (signaturesToFetch contexts state)))
  let settled := settleOutcomes contexts state fetched
  .modify fun _ => settled.state
  return settled

/-! ## Queueing and advancing -/

def blockedAddresses (contexts : SignatureContexts Signature) (retrying : List Signature) :
    List Address :=
  retrying.flatMap fun signature =>
    match contexts[signature]? with
    | none => []
    | some context => context.addresses

/-- The updates to queue, oldest slot first. The sort is stable. -/
def readyUpdates (contexts : SignatureContexts Signature) (settled : Settled Signature) :
    List (FetchedUpdate Signature) :=
  let blocked := blockedAddresses contexts settled.retrying
  (settled.successful.filter fun fetched =>
    signatureIsReady fetched.signature contexts blocked).insertionSort
      fun left right => left.slot ≤ right.slot

def queueUpdates : List (FetchedUpdate Signature) → PollAction Signature Unit
  | [] => return ()
  | fetched :: updates => do
      let response ← ask (.send (.transaction fetched.update))
      match response with
      | .error _ => .fail .channelClosed
      | .ok _ =>
          .modify fun state => state.recordRecentSignature fetched.signature fetched.slot
          queueUpdates updates

/-- Everything at or below this slot is out of reach of a restart, which
rewinds once on load and once in discovery. -/
def unreachableBelow (slot replayWindowSlots : Slot) : Slot := slot - 2 * replayWindowSlots

def advanceAndRetain (headSlot replayWindowSlots : Slot) (batches : List (AddressBatch Signature))
    (retrying : List Signature) (state : PollingState Signature) : PollingState Signature × Bool :=
  let (advanced, activity) := advanceReadyCursors state batches retrying
  let minimumScannedSlot := advanced.minimumScannedSlot.getD headSlot
  (advanced.retainSignaturesAfter (unreachableBelow minimumScannedSlot replayWindowSlots), activity)

/-- `RpcPollingDatasource::poll`; `pages` bounds each listing of the model. -/
def poll (pages : Nat) (datasource : RpcPollingDatasource) (addresses : List Address) :
    PollAction Signature PollOutcome := do
  let replayWindowSlots := datasource.replayWindow.slots
  absorbDeliveredSignatures datasource
  let headSlot ← readSlot
  refuseCursorAheadOfHead headSlot replayWindowSlots
  let initialized ← installCursors addresses headSlot replayWindowSlots
  let verified ← verifyHistoryBoundary
  let survey ← surveyAddresses pages headSlot replayWindowSlots addresses
    { historyBoundaryVerified := verified }
  let settled ← fetchTransactions survey.contexts
  let ready := readyUpdates survey.contexts settled
  queueUpdates ready
  let state ← Action.read
  let (final, activity) :=
    advanceAndRetain headSlot replayWindowSlots survey.batches settled.retrying state
  .modify fun _ => final
  return {
    queuedTransactions := ready.length
    checkpointUrgent := initialized || activity
    historyBoundaryVerified := survey.historyBoundaryVerified }

end Microscope.Polling
