import Microscope.Polling.Poll

namespace Microscope.Polling

open Std Microscope.Data

/-! # The poller task

`consume` is the source function of that name: it reads the genesis hash, loads
the checkpoint, and then saves and polls in a loop.  A round of the model is
one attempt at the genesis hash, with the start-up that follows a successful
one, or one turn of the polling loop.
-/

def checkpointLoadAttempts : Nat := 3

def recoveryDisableAfterConsecutive : Nat := 3

structure HistoryGapTracker where
  consecutive : Nat := 0
deriving DecidableEq, Repr

namespace HistoryGapTracker

/-- The answer says whether recovery disables itself. -/
def recordGap (tracker : HistoryGapTracker) : Bool × HistoryGapTracker :=
  let consecutive := tracker.consecutive + 1
  (consecutive ≥ recoveryDisableAfterConsecutive, { consecutive })

def recordRecovered (_ : HistoryGapTracker) : HistoryGapTracker := { consecutive := 0 }

end HistoryGapTracker

variable {Signature : Type} [LinearOrder Signature] [SignatureText Signature]

/-- The variables of the polling loop. -/
structure PollingLoop (Signature : Type) [LinearOrder Signature] where
  checkpoint : CheckpointStore
  state : PollingState Signature
  checkpointUrgent : Bool := false
  historyGaps : HistoryGapTracker := {}
  cursorsAhead : HistoryGapTracker := {}
  processedState : CheckpointSnapshot Signature

inductive Consumption (Signature : Type) [LinearOrder Signature] where
  | readingGenesisHash
  | polling (loop : PollingLoop Signature)

/-- What a task that leaves its round early returns. -/
inductive Stopped where
  | cancelled
  | recoveryDisabled
deriving DecidableEq, Repr

abbrev Task (Signature : Type) (α : Type) := Program (@Call.Response Signature) α

abbrev issue (call : Call Signature) : Task Signature call.Response := Program.request call

def waitWithRecoveryDisabled (datasource : RpcPollingDatasource) : Task Signature Stopped := do
  if datasource.delivered then
    issue .stopDelivered
  issue .awaitCancellation
  return .recoveryDisabled

/-! ## Start -/

/-- The name the shipped journal is stamped with. -/
def journalIdentity (datasource : RpcPollingDatasource) (addresses : List Address)
    (genesisHash : String) : String :=
  genesisHash ++ " " ++ datasource.programId ++ " " ++
    String.intercalate "," (addresses.insertionSort (· ≤ ·))

/-- The checkpoint file of the running process. -/
def pollingFile : CheckpointFile (@Call.Response Signature) where
  now := issue .now
  read := issue .readCheckpoint
  install encoded := issue (.installCheckpoint encoded)
  moveAside := issue .moveCorruptCheckpoint

/-- Load the checkpoint, in at most `attempts` attempts. -/
def loadCheckpoint (codec : JsonCodec) (datasource : RpcPollingDatasource) (identity : String)
    (checkpoint : CheckpointStore) : Nat → Task Signature (CheckpointLoadOutcome Signature ⊕ Stopped)
  | 0 => return .inr .recoveryDisabled
  | attempts + 1 => do
      match ← checkpoint.load pollingFile codec with
      | .ok loaded => return .inl loaded
      | .error (.mismatch _) =>
          issue (.discardShipped identity)
          return .inr (← waitWithRecoveryDisabled datasource)
      | .error (.io _) =>
          if attempts = 0 then
            return .inr (← waitWithRecoveryDisabled datasource)
          if ← issue (.sleep datasource.pollInterval) then
            return .inr .cancelled
          loadCheckpoint codec datasource identity checkpoint attempts

/-- The state the loop begins with. -/
def restoreState (identity : String) :
    CheckpointLoadOutcome Signature → Task Signature (PollingState Signature)
  | .missing => do
      issue (.discardShipped identity)
      return {}
  | .corrupt _ => do
      issue (.discardShipped identity)
      return {}
  | .loaded snapshot => do
      let shipped ← issue (.restoreShipped identity)
      return snapshot.resume.recordRecentSignatures shipped

def beginPolling (checkpoint : CheckpointStore) (state : PollingState Signature) :
    PollingLoop Signature where
  checkpoint := checkpoint
  state := state
  processedState := state.snapshot

variable (codec : JsonCodec) (datasource : RpcPollingDatasource) (addresses : List Address)

def startUp (genesisHash : String) : Task Signature (Consumption Signature ⊕ Stopped) := do
  let identity := journalIdentity datasource addresses genesisHash
  let checkpoint := datasource.checkpointStore datasource.checkpointPath genesisHash addresses
  match ← loadCheckpoint codec datasource identity checkpoint checkpointLoadAttempts with
  | .inr stopped => return .inr stopped
  | .inl loaded =>
      let state ← restoreState identity loaded
      return .inl (.polling (beginPolling checkpoint state))

/-- One attempt at the genesis hash. -/
def readGenesisHash : Task Signature (Consumption Signature ⊕ Stopped) := do
  match ← issue (.rpc .getGenesisHash) with
  | .ok genesisHash => startUp codec datasource addresses genesisHash
  | .error _ =>
      if ← issue (.sleep datasource.pollInterval) then
        return .inr .cancelled
      return .inl .readingGenesisHash

/-! ## One turn of the loop -/

/-- The two Carbon counters of a metrics snapshot. -/
def readCounters : Task Signature (Option Nat × Option Nat) := do
  if ← issue .receivedCounterFirst then
    let received ← issue (.counter .updatesReceived)
    let processed ← issue (.counter .updatesProcessed)
    return (received, processed)
  else
    let processed ← issue (.counter .updatesProcessed)
    let received ← issue (.counter .updatesReceived)
    return (received, processed)

def pipelineDrained (channelEmpty : Bool) (received processed : Option Nat) : Bool :=
  if !channelEmpty then false
  else
    match received, processed with
    | some received, some processed => received == processed
    | _, _ => true

/-- Take a snapshot of the live state when the pipeline has drained. -/
def refreshProcessedState (loop : PollingLoop Signature) : Task Signature (PollingLoop Signature) := do
  let channelEmpty ← issue .channelEmpty
  let (received, processed) ← readCounters
  if pipelineDrained channelEmpty received processed then
    return { loop with processedState := loop.state.snapshot }
  else
    return loop

/-- The least durable slot of a snapshot. -/
def CheckpointSnapshot.checkpointSlot (snapshot : CheckpointSnapshot Signature) : Slot :=
  (OrderedMap.least snapshot.cursors AddressCursor.scannedSlot).getD 0

def saveCheckpoint (loop : PollingLoop Signature) : Task Signature (PollingLoop Signature) := do
  let (saved, checkpoint) ←
    loop.checkpoint.saveIfDue pollingFile codec loop.processedState loop.checkpointUrgent
  match saved with
  | .ok true =>
      issue (.compactShipped
        (unreachableBelow loop.processedState.checkpointSlot datasource.replayWindow.slots))
      return { loop with checkpoint }
  | _ => return { loop with checkpoint }

/-- What the end of a poll does to the loop; the flag says whether recovery
disables itself. -/
def recordPoll (loop : PollingLoop Signature) :
    Except (PollError Signature) PollOutcome × PollingState Signature → Bool × PollingLoop Signature
  | (.ok outcome, state) =>
      (false, { loop with
        state
        checkpointUrgent := outcome.checkpointUrgent
        cursorsAhead := loop.cursorsAhead.recordRecovered
        historyGaps := if outcome.historyBoundaryVerified then loop.historyGaps.recordRecovered
          else loop.historyGaps })
  | (.error (.cursorAheadOfHead _), state) =>
      let (disabled, cursorsAhead) := loop.cursorsAhead.recordGap
      (disabled, { loop with state, cursorsAhead })
  | (.error (.historyUnavailable _), state) =>
      let (disabled, historyGaps) := loop.historyGaps.recordGap
      (disabled, { loop with state, historyGaps })
  | (.error _, state) => (false, { loop with state })

/-- Disable recovery, or sleep for the rest of the poll interval. -/
def concludePoll (started : Instant) (disabled : Bool) (loop : PollingLoop Signature) :
    Task Signature (Consumption Signature ⊕ Stopped) := do
  if disabled then
    return .inr (← waitWithRecoveryDisabled datasource)
  let finished ← issue .now
  if ← issue (.sleep (datasource.pollInterval - (finished - started))) then
    return .inr .cancelled
  return .inl (.polling loop)

/-- The part of a turn before its poll. -/
def beforePoll (loop : PollingLoop Signature) : Task Signature (PollingLoop Signature) := do
  let _ ← issue .countCorruptCheckpoints
  let loop ← refreshProcessedState loop
  saveCheckpoint codec datasource loop

variable (pages : Nat)

def pollAndConclude (started : Instant) (loop : PollingLoop Signature) :
    Task Signature (Consumption Signature ⊕ Stopped) := do
  let polled ← poll pages datasource addresses loop.state
  let (disabled, loop) := recordPoll loop polled
  concludePoll datasource started disabled loop

def pollingTurn (loop : PollingLoop Signature) : Task Signature (Consumption Signature ⊕ Stopped) := do
  if ← issue .cancelled then
    return .inr .cancelled
  let started ← issue .now
  let loop ← beforePoll codec datasource loop
  pollAndConclude datasource addresses pages started loop

/-- `RpcPollingDatasource::consume`, one round at a time. -/
def consume : Consumption Signature → Task Signature (Consumption Signature ⊕ Stopped)
  | .readingGenesisHash => readGenesisHash codec datasource addresses
  | .polling loop => pollingTurn codec datasource addresses pages loop

end Microscope.Polling
