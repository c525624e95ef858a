import Microscope.Backfill.Crawl
import Microscope.Data.Json
import Microscope.Data.Lines

namespace Microscope.Backfill

open Microscope.Data

/-! # Pushing the captured records

The pusher buffers the records until the end marker, sorts them by block time
and sends them to Loki in batches.  The definitions follow `push_records`,
`block_time_of` and `flush` of `backfill.rs`.
-/

def pushBatchLimit : Nat := 500

def pushRateLimitAttempts : Nat := 10

def lokiStreamLabel : String := "microscope-indexer"

def i64Max : Nat := 2 ^ 63 - 1

/-- `Value::as_i64`. -/
def toI64 : Json → Option Int
  | .number value => if value ≤ i64Max then some value else none
  | .otherNumber text =>
      match text.toList with
      | '-' :: digits =>
          (parseUnsigned (i64Max + 1) digits).bind fun value => if value = 0 then none else some (-value)
      | _ => none
  | _ => none

/-- Where the records go.  `serde_json` reads the text of a record. -/
structure LokiPush where
  lokiUrl : String
  runLabel : String
  fromStr : String → Option Json

/-- `str::trim_end_matches`. -/
def trimEndMatches (character : Char) (text : String) : String :=
  String.ofList (text.toList.reverse.dropWhile (· = character)).reverse

structure PushRequest where
  pushUrl : String
  serviceName : String
  backfillRun : String
  values : List (String × String)
deriving DecidableEq, Repr

inductive PushResponse where
  | unsent (error : String)
  /-- The status with its text, and the body. -/
  | status (code : Nat) (shown body : String)
deriving DecidableEq, Repr

def PushResponse.isSuccess : PushResponse → Bool
  | .status code _ _ => 200 ≤ code && code < 300
  | .unsent _ => false

/-- `slice::chunks`. -/
def chunksFrom {α : Type} (size : Nat) : Nat → List α → List (List α)
  | 0, _ => []
  | _ + 1, [] => []
  | count + 1, items => items.take size :: chunksFrom size count (items.drop size)

def chunks {α : Type} (size : Nat) (items : List α) : List (List α) :=
  chunksFrom size items.length items

inductive Pusher where
  | receiving (buffered : List (Int × String)) (skippedWithoutBlockTime : Nat)
  | pushing (batches : List (List (Int × String))) (attempt pushed : Nat)
  | ended (result : Except String Nat)
  | aborted

abbrev Sent := List (PushRequest × PushResponse)

/-- The records of the batches that Loki accepted. -/
def accepted (sent : Sent) : List (String × String) :=
  (sent.filter fun exchange => exchange.2.isSuccess).flatMap fun exchange => exchange.1.values

namespace LokiPush

variable (loki : LokiPush)

def pushUrl : String := trimEndMatches '/' loki.lokiUrl ++ "/loki/api/v1/push"

def blockTimeOf (line : String) : Option Int :=
  (loki.fromStr line).bind fun value => toI64 (value.field "block_time")

def stamped (line : String) : Option (Int × String) :=
  (loki.blockTimeOf line).map fun blockTime => (blockTime, line)

/-- The timestamps are nanoseconds. -/
def entry (record : Int × String) : String × String :=
  (toString (record.1 * 1000000000), record.2)

def request (batch : List (Int × String)) : PushRequest where
  pushUrl := loki.pushUrl
  serviceName := lokiStreamLabel
  backfillRun := loki.runLabel
  values := batch.map entry

/-- One record is received.  The count of those that are skipped is a `u64`,
which a release build does not check. -/
def receive (buffered : List (Int × String)) (skippedWithoutBlockTime : Nat) (line : String) : Pusher :=
  match loki.blockTimeOf line with
  | some blockTime => .receiving (buffered ++ [(blockTime, line)]) skippedWithoutBlockTime
  | none => .receiving buffered ((skippedWithoutBlockTime + 1) % 2 ^ 64)

def sortByBlockTime (buffered : List (Int × String)) : List (Int × String) :=
  buffered.mergeSort fun first second => first.1 ≤ second.1

/-- The end marker is received. -/
def close (buffered : List (Int × String)) (skippedWithoutBlockTime : Nat) : Pusher :=
  if skippedWithoutBlockTime > 0 then
    .ended (.error ("backfill incomplete: " ++ toString skippedWithoutBlockTime ++
      " record(s) lack a block time; nothing was pushed to Loki, rerun against an RPC endpoint with " ++
      "complete block data"))
  else .pushing (chunks pushBatchLimit (sortByBlockTime buffered)) 1 0

/-- `flush` got a response to one batch. -/
def flush (batch : List (Int × String)) (rest : List (List (Int × String))) (attempt pushed : Nat) :
    PushResponse → Pusher
  | .unsent error =>
      .ended (.error ("failed to push " ++ toString batch.length ++ " records to " ++ loki.pushUrl ++
        ": " ++ error))
  | .status code shown body =>
      if (PushResponse.status code shown body).isSuccess then .pushing rest 1 (pushed + batch.length)
      else if code ≠ 429 ∨ attempt = pushRateLimitAttempts then
        .ended (.error ("Loki rejected a push of " ++ toString batch.length ++ " records: " ++ shown ++
          " " ++ body))
      else .pushing (batch :: rest) (attempt + 1) pushed

/-! ## What is sent -/

theorem chunksFrom_flatten {α : Type} {size count : Nat} {items : List α} (positive : 0 < size)
    (enough : items.length ≤ count) : (chunksFrom size count items).flatten = items := by
  induction count generalizing items with
  | zero =>
      have empty : items = [] := List.length_eq_zero_iff.mp (Nat.le_zero.mp enough)
      rw [empty]
      rfl
  | succ count ih =>
      cases items with
      | nil => rfl
      | cons item items =>
          have shorter : ((item :: items).drop size).length ≤ count := by
            rw [List.length_drop]
            rw [List.length_cons] at enough ⊢
            omega
          rw [chunksFrom, List.flatten_cons, ih shorter, List.take_append_drop]
          exact List.cons_ne_nil _ _

theorem chunks_flatten {α : Type} {size : Nat} {items : List α} (positive : 0 < size) :
    (chunks size items).flatten = items :=
  chunksFrom_flatten positive (Nat.le_refl _)

def missingBlockTimes (received : List String) : Nat :=
  received.countP fun line => (loki.blockTimeOf line).isNone

/-- What is to be sent of the records. -/
def ordered (received : List String) : List (Int × String) :=
  sortByBlockTime (received.filterMap loki.stamped)

/-- What the pusher holds, from the records that it received and the batches
that it sent. -/
def Holds (received : List String) (sent : Sent) : Pusher → Prop
  | .receiving buffered skipped =>
      buffered = received.filterMap loki.stamped ∧ skipped = loki.missingBlockTimes received % 2 ^ 64 ∧
        sent = []
  | .pushing batches _ pushed =>
      loki.missingBlockTimes received % 2 ^ 64 = 0 ∧
        accepted sent ++ batches.flatten.map entry = (loki.ordered received).map entry ∧
        pushed = (accepted sent).length
  | .ended (.ok pushed) =>
      loki.missingBlockTimes received % 2 ^ 64 = 0 ∧
        accepted sent = (loki.ordered received).map entry ∧ pushed = (accepted sent).length
  | .ended (.error _) => sent = [] ∨ loki.missingBlockTimes received % 2 ^ 64 = 0
  | .aborted => sent = []

variable {loki : LokiPush} {received : List String} {sent : Sent} {buffered batch : List (Int × String)}
  {batches : List (List (Int × String))} {skipped attempt pushed : Nat}

/-- Nothing is sent before all records have a block time, up to the count. -/
theorem Holds.counted {pusher : Pusher} (holds : loki.Holds received sent pusher) (some : sent ≠ []) :
    loki.missingBlockTimes received % 2 ^ 64 = 0 := by
  cases pusher with
  | receiving buffered skipped => exact absurd holds.2.2 some
  | pushing batches attempt pushed => exact holds.1
  | ended result =>
      cases result with
      | error message => exact holds.resolve_left some
      | ok pushed => exact holds.1
  | aborted => exact absurd holds some

theorem Holds.receive (holds : loki.Holds received sent (.receiving buffered skipped)) (line : String) :
    loki.Holds (received ++ [line]) sent (loki.receive buffered skipped line) := by
  obtain ⟨rfl, rfl, nothing⟩ := holds
  unfold LokiPush.receive
  cases time : loki.blockTimeOf line with
  | none =>
      have skips : loki.stamped line = none := by rw [stamped, time]; rfl
      refine ⟨by simp [skips], ?_, nothing⟩
      simp [missingBlockTimes, List.countP_append, time]
  | some blockTime =>
      have keeps : loki.stamped line = some (blockTime, line) := by rw [stamped, time]; rfl
      refine ⟨by simp [keeps], ?_, nothing⟩
      simp [missingBlockTimes, List.countP_append, time]

theorem Holds.close (holds : loki.Holds received sent (.receiving buffered skipped)) :
    loki.Holds received sent (close buffered skipped) := by
  obtain ⟨rfl, rfl, rfl⟩ := holds
  unfold LokiPush.close
  split
  · exact .inl rfl
  · rename_i none
    refine ⟨Nat.eq_zero_of_not_pos none, ?_, rfl⟩
    rw [chunks_flatten (by decide)]
    rfl

theorem accepted_append {request : PushRequest} {response : PushResponse} :
    accepted (sent ++ [(request, response)]) =
      accepted sent ++ if response.isSuccess then request.values else [] := by
  cases success : response.isSuccess <;> simp [accepted, List.filter_append, success]

theorem Holds.flush (holds : loki.Holds received sent (.pushing (batch :: batches) attempt pushed))
    (response : PushResponse) :
    loki.Holds received (sent ++ [(loki.request batch, response)])
      (loki.flush batch batches attempt pushed response) := by
  obtain ⟨counted, split, rfl⟩ := holds
  cases response with
  | unsent error => exact .inr counted
  | status code shown body =>
      rw [LokiPush.flush]
      by_cases success : (PushResponse.status code shown body).isSuccess = true
      · rw [if_pos success]
        refine ⟨counted, ?_, ?_⟩
        · rw [accepted_append, if_pos success, ← split]
          simp [request]
        · rw [accepted_append, if_pos success]
          simp [request]
      · rw [if_neg success]
        by_cases gives : code ≠ 429 ∨ attempt = pushRateLimitAttempts
        · rw [if_pos gives]
          exact .inr counted
        · rw [if_neg gives]
          refine ⟨counted, ?_, ?_⟩
          · rw [accepted_append, if_neg success, List.append_nil, split]
          · rw [accepted_append, if_neg success, List.append_nil]

theorem Holds.finish (holds : loki.Holds received sent (.pushing [] attempt pushed)) :
    loki.Holds received sent (.ended (.ok pushed)) := by
  obtain ⟨counted, split, rfl⟩ := holds
  exact ⟨counted, by simpa using split, rfl⟩

/-! ## The order of the records -/

/-- With no block time missing, the records themselves are sent, in the order
of their block times. -/
theorem ordered_records (complete : loki.missingBlockTimes received = 0) :
    ((loki.ordered received).map Prod.snd).Perm received ∧
      (∀ record ∈ loki.ordered received, loki.blockTimeOf record.2 = some record.1) ∧
      (loki.ordered received).Pairwise fun first second => first.1 ≤ second.1 := by
  have order : ((loki.ordered received)).Perm (received.filterMap loki.stamped) := List.mergeSort_perm _ _
  have stamps : ∀ line ∈ received, (loki.stamped line).map Prod.snd = some line := by
    intro line member
    have timed := List.countP_eq_zero.mp complete line member
    cases time : loki.blockTimeOf line with
    | none => simp [time] at timed
    | some blockTime => simp [stamped, time]
  refine ⟨?_, ?_, ?_⟩
  · have texts : (received.filterMap loki.stamped).map Prod.snd = received := by
      rw [List.map_filterMap]
      have same := List.filterMap_congr stamps
      simpa using same
    exact (order.map Prod.snd).trans (.of_eq texts)
  · intro record member
    obtain ⟨line, _, stamp⟩ := List.mem_filterMap.mp (order.mem_iff.mp member)
    rw [stamped, Option.map_eq_some_iff] at stamp
    obtain ⟨blockTime, time, rfl⟩ := stamp
    exact time
  · have sorted : (loki.ordered received).Pairwise fun first second => decide (first.1 ≤ second.1) = true := by
      apply List.pairwise_mergeSort
      · intro first second third
        simp only [decide_eq_true_eq]
        exact Int.le_trans
      · intro first second
        simp only [Bool.or_eq_true, decide_eq_true_eq]
        exact Int.le_total _ _
    exact sorted.imp fun before => by simpa using before

end LokiPush

end Microscope.Backfill
