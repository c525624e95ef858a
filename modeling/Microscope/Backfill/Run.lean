import Microscope.Backfill.Push
import Microscope.Data.Transitions
import Mathlib.Logic.Function.Basic

namespace Microscope.Backfill

open Microscope.Data SignatureText

/-! # A backfill run

The crawls queue updates, the pipeline processes them and captures records,
and the pusher receives the records while `run_backfill` waits for the
pipeline.  The tasks take their steps in any order.

Of the pipeline it is assumed that it gives up the receiver of the updates
only when it is cancelled or returns, that it counts the updates that failed,
and that without a cancellation it returns `Ok` only when the crawls have
ended and everything queued is processed.
-/

inductive Pipeline where
  | running
  /-- Cancelled: it no longer holds the receiver of the updates. -/
  | closing
  | returned (result : Except String Unit)

def Pipeline.hasReturned : Pipeline → Bool
  | .returned _ => true
  | _ => false

def Pipeline.receives : Pipeline → Bool
  | .running => true
  | _ => false

/-- How `run_backfill` ends when nothing is to be pushed. -/
inductive Refusal where
  | panicked (message : String)
  | failed (error : String)
deriving DecidableEq, Repr

inductive RunBackfill where
  | running
  | refused (refusal : Refusal)
  /-- The end marker is sent. -/
  | pushing
  | pushed (records : Nat)
  | pushFailed (message : String)

/-- The end marker was sent. -/
def RunBackfill.approved : RunBackfill → Bool
  | .running | .refused _ => false
  | .pushing | .pushed _ | .pushFailed _ => true

/-- Whether nothing is pushed, once the pipeline has returned. -/
def judge (cancelled : Bool) (pipelineResult : Except String Unit) (failedCrawls failedUpdates : Nat) :
    Option Refusal :=
  if cancelled then
    some (.panicked ("backfill interrupted before reaching the cutoff; nothing was pushed to Loki, " ++
      "rerun to completion"))
  else
    match pipelineResult with
    | .error error => some (.failed error)
    | .ok () =>
        if failedCrawls > 0 ∨ failedUpdates > 0 then
          some (.panicked ("backfill incomplete: " ++ toString failedCrawls ++
            " transaction(s) failed to fetch or convert and " ++ toString failedUpdates ++
            " update(s) failed during processing; nothing was pushed to Loki, rerun once the RPC endpoint " ++
            "recovers or check the logged errors if failures persist"))
        else none

structure BackfillSetup (Signature : Type) [SignatureText Signature] where
  accounts : List Address
  histories : Address → History Signature
  cutoffUnix : Int
  loki : LokiPush
  updateChannelSize : Nat

structure BackfillState (Signature : Type) where
  crawls : Address → Crawl Signature := fun _ => .checking none
  /-- An atomic `u32`, which wraps around. -/
  crawlFailures : Nat := 0
  cancelled : Bool := false
  updates : List (Address × TransactionUpdate Signature) := []
  pipeline : Pipeline := .running
  failedUpdates : Nat := 0
  records : List (Option String) := []
  pusher : Pusher := .receiving [] 0
  main : RunBackfill := .running

inductive BackfillEvent (Signature : Type) where
  | crawl (account : Address) (event : CrawlEvent Signature)
  | cancelled
  | processed (account : Address) (update : TransactionUpdate Signature) (records : List String) (failed : Bool)
  | pushed (request : PushRequest) (response : PushResponse)

variable {Signature : Type}

/-! ## What a trace shows -/

namespace BackfillEvent

def crawlOf (account : Address) : BackfillEvent Signature → Option (CrawlEvent Signature)
  | .crawl other event => if other = account then some event else none
  | _ => none

def counted : BackfillEvent Signature → Bool
  | .crawl _ event => event.counted
  | _ => false

def failedUpdate : BackfillEvent Signature → Bool
  | .processed _ _ _ failed => failed
  | _ => false

def records : BackfillEvent Signature → List String
  | .processed _ _ records _ => records
  | _ => []

def exchange : BackfillEvent Signature → Option (PushRequest × PushResponse)
  | .pushed request response => some (request, response)
  | _ => none

/-- A record without a block time is a failure as well. -/
def isFailure (loki : LokiPush) : BackfillEvent Signature → Bool
  | .crawl _ event => event.isFailure
  | .cancelled => true
  | .processed _ _ records failed => failed || records.any fun line => (loki.blockTimeOf line).isNone
  | .pushed _ _ => false

end BackfillEvent

def crawlEvents (account : Address) (trace : List (BackfillEvent Signature)) : List (CrawlEvent Signature) :=
  trace.filterMap (BackfillEvent.crawlOf account)

def capturedRecords (trace : List (BackfillEvent Signature)) : List String :=
  trace.flatMap BackfillEvent.records

def sentBatches (trace : List (BackfillEvent Signature)) : Sent :=
  trace.filterMap BackfillEvent.exchange

/-! ## The tasks -/

namespace BackfillState

variable (state : BackfillState Signature)

def around (updateChannelSize : Nat) : Surroundings where
  cancelled := state.cancelled
  receives := state.pipeline.receives
  room := state.updates.length < updateChannelSize

/-- A crawl has taken a step. -/
def crawled (account : Address) (events : List (CrawlEvent Signature)) (after : Crawl Signature) :
    BackfillState Signature :=
  { state with
    crawls := Function.update state.crawls account after
    crawlFailures := (state.crawlFailures + events.countP CrawlEvent.counted) % 2 ^ 32
    updates := state.updates ++ (events.filterMap CrawlEvent.update).map fun update => (account, update) }

/-- The pipeline has processed the first update. -/
def processed (rest : List (Address × TransactionUpdate Signature)) (captured : List String)
    (failed : Bool) : BackfillState Signature :=
  { state with
    updates := rest
    failedUpdates := state.failedUpdates + if failed then 1 else 0
    records := state.records ++ captured.map some }

/-- `run_backfill` goes on after the pipeline has returned. -/
def judged (result : Except String Unit) : BackfillState Signature :=
  match judge state.cancelled result state.crawlFailures state.failedUpdates with
  | some refusal => { state with main := .refused refusal }
  | none => { state with main := .pushing, records := state.records ++ [none] }

/-- `run_backfill` goes on after the pusher has ended. -/
def concluded (result : Except String Nat) : BackfillState Signature :=
  match result with
  | .ok pushed => { state with main := .pushed pushed }
  | .error error => { state with main := .pushFailed ("failed to push records to Loki: " ++ error) }

end BackfillState

namespace BackfillSetup

variable [DecidableEq Signature] [SignatureText Signature]

def datasource (setup : BackfillSetup Signature) (account : Address) : BackfillDatasource where
  account := account
  cutoffUnix := setup.cutoffUnix

inductive Step (setup : BackfillSetup Signature) :
    BackfillState Signature → List (BackfillEvent Signature) → BackfillState Signature → Prop where
  | crawl {state : BackfillState Signature} {account : Address} {events : List (CrawlEvent Signature)}
      {after : Crawl Signature} (monitored : account ∈ setup.accounts)
      (step : CrawlStep (setup.datasource account) (setup.histories account)
        (state.around setup.updateChannelSize) (state.crawls account) events after) :
      Step setup state (events.map (.crawl account)) (state.crawled account events after)
  | cancel {state : BackfillState Signature} (working : state.pipeline.hasReturned = false) :
      Step setup state [.cancelled] { state with cancelled := true }
  | close {state : BackfillState Signature} (working : state.pipeline.hasReturned = false)
      (cancelled : state.cancelled = true) : Step setup state [] { state with pipeline := .closing }
  | process {state : BackfillState Signature} {account : Address} {update : TransactionUpdate Signature}
      {rest : List (Address × TransactionUpdate Signature)} (records : List String) (failed : Bool)
      (working : state.pipeline.hasReturned = false) (first : state.updates = (account, update) :: rest) :
      Step setup state [.processed account update records failed] (state.processed rest records failed)
  | drain {state : BackfillState Signature} (running : state.pipeline = .running)
      (ended : ∀ account ∈ setup.accounts, (state.crawls account).ended = true)
      (drained : state.updates = []) : Step setup state [] { state with pipeline := .returned (.ok ()) }
  | interrupt {state : BackfillState Signature} (working : state.pipeline.hasReturned = false)
      (cancelled : state.cancelled = true) :
      Step setup state [] { state with pipeline := .returned (.ok ()) }
  | fail {state : BackfillState Signature} (error : String) (working : state.pipeline.hasReturned = false) :
      Step setup state [] { state with pipeline := .returned (.error error) }
  | judge {state : BackfillState Signature} {result : Except String Unit} (waiting : state.main = .running)
      (returned : state.pipeline = .returned result) : Step setup state [] (state.judged result)
  | receive {state : BackfillState Signature} {line : String} {rest : List (Option String)}
      {buffered : List (Int × String)} {skipped : Nat} (first : state.records = some line :: rest)
      (receives : state.pusher = .receiving buffered skipped) :
      Step setup state [] { state with
        records := rest, pusher := setup.loki.receive buffered skipped line }
  | endMarker {state : BackfillState Signature} {rest : List (Option String)}
      {buffered : List (Int × String)} {skipped : Nat} (first : state.records = none :: rest)
      (receives : state.pusher = .receiving buffered skipped) :
      Step setup state [] { state with records := rest, pusher := LokiPush.close buffered skipped }
  | push {state : BackfillState Signature} {batch : List (Int × String)} {batches : List (List (Int × String))}
      {attempt pushed : Nat} (response : PushResponse)
      (pushing : state.pusher = .pushing (batch :: batches) attempt pushed) :
      Step setup state [.pushed (setup.loki.request batch) response] { state with
        pusher := setup.loki.flush batch batches attempt pushed response }
  | finish {state : BackfillState Signature} {attempt pushed : Nat}
      (pushing : state.pusher = .pushing [] attempt pushed) :
      Step setup state [] { state with pusher := .ended (.ok pushed) }
  | abort {state : BackfillState Signature} {refusal : Refusal} (refused : state.main = .refused refusal) :
      Step setup state [] { state with pusher := .aborted }
  | conclude {state : BackfillState Signature} {result : Except String Nat} (waits : state.main = .pushing)
      (ended : state.pusher = .ended result) : Step setup state [] (state.concluded result)

end BackfillSetup

end Microscope.Backfill
