import Microscope.Rpc

namespace Microscope.Backfill

open SignatureText

/-! # Crawling the history of one account

A crawl reads the listed signatures of an account in pages, newest first,
until a block time is below the cutoff, and queues an update for each.  The
definitions follow `BackfillDatasource::consume` and `select_signatures` of
`backfill.rs`.
-/

def signaturePageLimit : Nat := 1000

def concurrentTransactionFetches : Nat := 5

/-- What the crawl reads of a listed signature. -/
structure Listed where
  blockTime : Option Int
  signature : String
deriving DecidableEq, Repr

variable {Signature : Type} [SignatureText Signature]

structure BackfillDatasource where
  account : Address
  cutoffUnix : Int

/-- The signatures of an account, newest first.  None is listed twice. -/
structure History (Signature : Type) [SignatureText Signature] where
  listed : List Listed
  distinct : (listed.filterMap fun info => (fromText info.signature : Option Signature)).Nodup

/-- What is listed before, in time, the given signature. -/
def listedBefore [DecidableEq Signature] (before : Option Signature) (listed : List Listed) : List Listed :=
  match before with
  | none => listed
  | some signature => (listed.dropWhile fun info => fromText info.signature ≠ some signature).tail

def History.page [DecidableEq Signature] (history : History Signature) (before : Option Signature) : List Listed :=
  (listedBefore before history.listed).take signaturePageLimit

def belowCutoff (cutoffUnix : Int) (info : Listed) : Bool :=
  info.blockTime.any fun time => time < cutoffUnix

/-- The signatures of a page, and whether the cutoff is reached.  The reason
that the parser gives is left out of the error. -/
def selectSignatures (cutoffUnix : Int) : List Listed → Except String (List Signature × Bool)
  | [] => .ok ([], false)
  | info :: page =>
      if belowCutoff cutoffUnix info then .ok ([], true)
      else
        match fromText info.signature with
        | none => .error ("RPC returned invalid signature " ++ info.signature)
        | some signature =>
            (selectSignatures cutoffUnix page).map fun (signatures, reachedCutoff) =>
              (signature :: signatures, reachedCutoff)

/-- The cursor of the next page, if the loop goes on. -/
def nextBefore (page : List Listed) (signatures : List Signature) (reachedCutoff : Bool) : Option Signature :=
  if reachedCutoff ∨ page.length < signaturePageLimit then none else signatures.getLast?

/-- The fetches of one page: those that wait for a place in the buffer, those
in it, and the update that `send` waits to queue. -/
structure Fetching (Signature : Type) where
  waiting : List Signature
  inFlight : List Signature := []
  sending : Option (TransactionUpdate Signature) := none
  next : Option Signature

inductive Crawl (Signature : Type) where
  /-- At the head of the loop. -/
  | checking (before : Option Signature)
  | requesting (before : Option Signature)
  | fetching (fetches : Fetching Signature)
  | finished
  | failed (error : String)

def Crawl.ended : Crawl Signature → Bool
  | .finished | .failed _ => true
  | _ => false

inductive CrawlEvent (Signature : Type) where
  | pageFailed (error : RpcError)
  | invalidSignature (error : String)
  | fetchFailed (signature : Signature) (error : FetchError)
  | fetched (signature : Signature) (transaction : EncodedTransaction)
  | unconverted (signature : Signature) (transaction : EncodedTransaction)
  | queued (update : TransactionUpdate Signature)
  | unqueued (update : TransactionUpdate Signature)

namespace CrawlEvent

/-- `crawl_failures` is incremented. -/
def counted : CrawlEvent Signature → Bool
  | .pageFailed _ | .invalidSignature _ | .fetchFailed _ _ | .unconverted _ _ => true
  | .fetched _ _ | .queued _ | .unqueued _ => false

def isFailure : CrawlEvent Signature → Bool
  | .pageFailed _ | .invalidSignature _ | .fetchFailed _ _ | .unconverted _ _ | .unqueued _ => true
  | .fetched _ _ | .queued _ => false

def update : CrawlEvent Signature → Option (TransactionUpdate Signature)
  | .queued update => some update
  | _ => none

end CrawlEvent

/-- What a crawl sees of the rest of the program. -/
structure Surroundings where
  cancelled : Bool
  /-- The pipeline holds the receiver of the updates. -/
  receives : Bool
  /-- The channel of the updates is not full. -/
  room : Bool

/-- One step of a crawl.  What the RPC endpoint answers is not determined,
except that it serves pages of the history. -/
inductive CrawlStep [DecidableEq Signature] (datasource : BackfillDatasource) (history : History Signature)
    (around : Surroundings) :
    Crawl Signature → List (CrawlEvent Signature) → Crawl Signature → Prop where
  | stop {before : Option Signature} (cancelled : around.cancelled = true) :
      CrawlStep datasource history around (.checking before) [] .finished
  | request {before : Option Signature} (running : around.cancelled = false) :
      CrawlStep datasource history around (.checking before) [] (.requesting before)
  | pageFailed {before : Option Signature} (error : RpcError) :
      CrawlStep datasource history around (.requesting before) [.pageFailed error]
        (.failed ("failed to fetch signatures for " ++ datasource.account ++ ": " ++ error))
  | noPage {before : Option Signature} (empty : history.page before = []) :
      CrawlStep datasource history around (.requesting before) [] .finished
  | invalidSignature {before : Option Signature} {error : String}
      (invalid : (selectSignatures datasource.cutoffUnix (history.page before) :
        Except String (List Signature × Bool)) = .error error) :
      CrawlStep datasource history around (.requesting before) [.invalidSignature error] (.failed error)
  | page {before : Option Signature} {signatures : List Signature} {reachedCutoff : Bool}
      (filled : history.page before ≠ [])
      (selected : selectSignatures datasource.cutoffUnix (history.page before) = .ok (signatures, reachedCutoff)) :
      CrawlStep datasource history around (.requesting before) []
        (.fetching {
          waiting := signatures, next := nextBefore (history.page before) signatures reachedCutoff })
  | fetch {signature : Signature} {waiting inFlight : List Signature} {next : Option Signature}
      (room : inFlight.length < concurrentTransactionFetches) :
      CrawlStep datasource history around
        (.fetching { waiting := signature :: waiting, inFlight, next }) []
        (.fetching { waiting, inFlight := inFlight ++ [signature], next })
  | fetchFailed {signature : Signature} {waiting inFlight : List Signature} {next : Option Signature}
      (member : signature ∈ inFlight) (error : FetchError) :
      CrawlStep datasource history around (.fetching { waiting, inFlight, next })
        [.fetchFailed signature error] (.fetching { waiting, inFlight := inFlight.erase signature, next })
  | unconverted {signature : Signature} {waiting inFlight : List Signature} {next : Option Signature}
      {transaction : EncodedTransaction} (member : signature ∈ inFlight)
      (refused : transactionUpdate signature transaction = none) :
      CrawlStep datasource history around (.fetching { waiting, inFlight, next })
        [.unconverted signature transaction]
        (.fetching { waiting, inFlight := inFlight.erase signature, next })
  | fetched {signature : Signature} {waiting inFlight : List Signature} {next : Option Signature}
      {transaction : EncodedTransaction} {update : TransactionUpdate Signature} (member : signature ∈ inFlight)
      (converted : transactionUpdate signature transaction = some update) :
      CrawlStep datasource history around (.fetching { waiting, inFlight, next })
        [.fetched signature transaction]
        (.fetching { waiting, inFlight := inFlight.erase signature, sending := some update, next })
  | queue {update : TransactionUpdate Signature} {waiting inFlight : List Signature}
      {next : Option Signature} (receives : around.receives = true) (room : around.room = true) :
      CrawlStep datasource history around
        (.fetching { waiting, inFlight, sending := some update, next }) [.queued update]
        (.fetching { waiting, inFlight, next })
  | unqueued {update : TransactionUpdate Signature} {waiting inFlight : List Signature}
      {next : Option Signature} (closed : around.receives = false) :
      CrawlStep datasource history around
        (.fetching { waiting, inFlight, sending := some update, next }) [.unqueued update]
        (.fetching { waiting, inFlight, next })
  | leave : CrawlStep datasource history around (.fetching { waiting := [], next := none }) [] .finished
  | next {signature : Signature} :
      CrawlStep datasource history around (.fetching { waiting := [], next := some signature }) []
        (.checking (some signature))

/-! ## What the pages cover -/

variable {cutoffUnix : Int} {infos more first rest : List Listed}
  {signatures passed others : List Signature} {history : History Signature}
  {datasource : BackfillDatasource} {around : Surroundings} {crawl after : Crawl Signature}
  {before : Option Signature} {events newer : List (CrawlEvent Signature)} {signature : Signature}

/-- The signatures of these entries, none of which is below the cutoff. -/
structure Reads (cutoffUnix : Int) (infos : List Listed) (signatures : List Signature) : Prop where
  signatures : infos.map (fun info => fromText info.signature) = signatures.map some
  above : ∀ info ∈ infos, belowCutoff cutoffUnix info = false

theorem Reads.append (reads : Reads cutoffUnix infos signatures) (others : Reads cutoffUnix more passed) :
    Reads cutoffUnix (infos ++ more) (signatures ++ passed) where
  signatures := by rw [List.map_append, List.map_append, reads.signatures, others.signatures]
  above := fun info member => (List.mem_append.mp member).elim (reads.above info) (others.above info)

theorem selectSignatures_ok {page : List Listed} {reachedCutoff : Bool}
    (selected : selectSignatures cutoffUnix page = .ok (signatures, reachedCutoff)) :
    ∃ taken left, page = taken ++ left ∧ Reads cutoffUnix taken signatures ∧
      (if reachedCutoff then ∃ info tail, left = info :: tail ∧ belowCutoff cutoffUnix info = true
        else left = []) := by
  induction page generalizing signatures with
  | nil =>
      cases selected
      exact ⟨[], [], rfl, ⟨rfl, fun info member => (by cases member)⟩, rfl⟩
  | cons info page ih =>
      rw [selectSignatures] at selected
      cases below : belowCutoff cutoffUnix info with
      | true =>
          rw [below] at selected
          cases selected
          exact ⟨[], info :: page, rfl, ⟨rfl, fun info member => (by cases member)⟩, info, page, rfl, below⟩
      | false =>
          rw [below, if_neg Bool.false_ne_true] at selected
          cases parsed : (fromText info.signature : Option Signature) with
          | none =>
              rw [parsed] at selected
              cases selected
          | some signature =>
              rw [parsed] at selected
              cases rest : (selectSignatures cutoffUnix page : Except String (List Signature × Bool)) with
              | error error =>
                  rw [rest] at selected
                  cases selected
              | ok result =>
                  rw [rest] at selected
                  cases selected
                  obtain ⟨taken, left, rfl, reads, ends⟩ := ih rest
                  have one : Reads cutoffUnix [info] [signature] :=
                    ⟨by simp [parsed], by simpa using below⟩
                  exact ⟨info :: taken, left, rfl, one.append reads, ends⟩

/-- The entries before the first one that is below the cutoff. -/
def History.due (history : History Signature) (cutoffUnix : Int) : List Listed :=
  history.listed.takeWhile fun info => !belowCutoff cutoffUnix info

theorem due_eq (split : history.listed = first ++ rest) (reads : Reads cutoffUnix first passed)
    (ends : ∀ info ∈ rest.head?, belowCutoff cutoffUnix info = true) : history.due cutoffUnix = first := by
  have above : ∀ info ∈ first, (!belowCutoff cutoffUnix info) = true := fun info member => by
    rw [reads.above info member]
    rfl
  rw [History.due, split, List.takeWhile_append_of_pos above]
  cases rest with
  | nil => simp
  | cons info rest => simp [ends info rfl]

/-! ## What a crawl accounts for -/

/-- The transaction was fetched, converted and queued. -/
def Queued (events : List (CrawlEvent Signature)) (signature : Signature) : Prop :=
  ∃ transaction update, .fetched signature transaction ∈ events ∧
    transactionUpdate signature transaction = some update ∧ .queued update ∈ events

/-- The pages passed these signatures, and the next one follows the cursor. -/
def Covered (history : History Signature) (cutoffUnix : Int) (before : Option Signature)
    (passed : List Signature) : Prop :=
  ∃ first rest, history.listed = first ++ rest ∧ Reads cutoffUnix first passed ∧ before = passed.getLast?

def AllDue (history : History Signature) (cutoffUnix : Int) (passed : List Signature) : Prop :=
  ∀ info ∈ history.due cutoffUnix, ∃ signature ∈ passed, fromText info.signature = some signature

/-- Where a crawl is that neither failed nor was stopped. -/
def Crawl.Clean (history : History Signature) (cutoffUnix : Int) (events : List (CrawlEvent Signature)) :
    Crawl Signature → Prop
  | .checking before | .requesting before =>
      ∃ passed, Covered history cutoffUnix before passed ∧ ∀ signature ∈ passed, Queued events signature
  | .fetching fetches =>
      ∃ passed, (if fetches.next.isSome then Covered history cutoffUnix fetches.next passed
          else AllDue history cutoffUnix passed) ∧
        ∀ signature ∈ passed, signature ∈ fetches.waiting ∨ signature ∈ fetches.inFlight ∨
          (∃ transaction update, fetches.sending = some update ∧ .fetched signature transaction ∈ events ∧
            transactionUpdate signature transaction = some update) ∨ Queued events signature
  | .finished => ∃ passed, AllDue history cutoffUnix passed ∧ ∀ signature ∈ passed, Queued events signature
  | .failed _ => False

omit [SignatureText Signature] in
theorem Queued.append (queued : Queued events signature) : Queued (events ++ newer) signature := by
  obtain ⟨transaction, update, fetched, converted, sent⟩ := queued
  exact ⟨transaction, update, List.mem_append_left _ fetched, converted, List.mem_append_left _ sent⟩

theorem allDue_of_reads (split : history.listed = first ++ rest) (reads : Reads cutoffUnix first passed)
    (ends : ∀ info ∈ rest.head?, belowCutoff cutoffUnix info = true) : AllDue history cutoffUnix passed := by
  intro info member
  rw [due_eq split reads ends] at member
  have read : (fromText info.signature : Option Signature) ∈ passed.map some := by
    rw [← reads.signatures]
    exact List.mem_map_of_mem member
  obtain ⟨signature, member, same⟩ := List.mem_map.mp read
  exact ⟨signature, member, same.symm⟩

theorem Covered.start : Covered history cutoffUnix none [] :=
  ⟨[], history.listed, rfl, ⟨rfl, fun info member => (by cases member)⟩, rfl⟩

/-! ## Pages -/

variable [DecidableEq Signature]

/-- The cursor is the last of the signatures that were passed. -/
theorem listedBefore_eq (split : history.listed = first ++ rest) (reads : Reads cutoffUnix first passed) :
    listedBefore passed.getLast? history.listed = rest := by
  rw [split]
  rcases List.eq_nil_or_concat passed with rfl | ⟨earlier, last, rfl⟩
  · have empty : first = [] := by simpa using reads.signatures
    rw [empty]
    rfl
  · rcases List.eq_nil_or_concat first with rfl | ⟨others, info, rfl⟩
    · have impossible := reads.signatures
      simp at impossible
    · have signatures := reads.signatures
      simp only [List.concat_eq_append, List.map_append, List.map_cons, List.map_nil] at signatures
      obtain ⟨_, lastSignature⟩ := List.append_inj' signatures rfl
      have parsed : fromText info.signature = some last := by simpa using lastSignature
      have distinct := history.distinct
      have one : [info].filterMap (fun info => (fromText info.signature : Option Signature)) = [last] := by
        simp [parsed]
      simp only [split, List.concat_eq_append, List.filterMap_append, one] at distinct
      have earlierOnes := (List.nodup_append.mp (List.nodup_append.mp distinct).1).2.2
      have different : ∀ other ∈ others, decide (fromText other.signature ≠ some last) = true := by
        intro other member
        apply decide_eq_true
        intro same
        exact earlierOnes last (List.mem_filterMap.mpr ⟨other, member, same⟩) last List.mem_cons_self rfl
      simp only [List.concat_eq_append, List.getLast?_append, List.getLast?_singleton, Option.some_or,
        listedBefore, List.append_assoc]
      rw [List.dropWhile_append_of_pos different]
      simp [parsed]

/-- A page goes on where the pages before it ended. -/
theorem Covered.page (covered : Covered history cutoffUnix before passed) {reachedCutoff : Bool}
    (filled : history.page before ≠ [])
    (selected : selectSignatures cutoffUnix (history.page before) = .ok (signatures, reachedCutoff)) :
    if (nextBefore (history.page before) signatures reachedCutoff).isSome then
      Covered history cutoffUnix (nextBefore (history.page before) signatures reachedCutoff)
        (passed ++ signatures)
    else AllDue history cutoffUnix (passed ++ signatures) := by
  obtain ⟨first, rest, split, reads, rfl⟩ := covered
  have served : history.page passed.getLast? = rest.take signaturePageLimit := by
    rw [History.page, listedBefore_eq split reads]
  obtain ⟨taken, left, pageSplit, pageReads, ends⟩ := selectSignatures_ok selected
  have whole : history.listed = (first ++ taken) ++ (left ++ rest.drop signaturePageLimit) := by
    have restSplit : rest = (taken ++ left) ++ rest.drop signaturePageLimit := by
      rw [← pageSplit, served, List.take_append_drop]
    rw [split]
    simpa using restSplit
  have allReads := reads.append pageReads
  unfold nextBefore
  cases reachedCutoff with
  | true =>
      obtain ⟨info, tail, rfl, below⟩ := ends
      simp only [true_or, if_true, Option.isSome_none, Bool.false_eq_true, if_false]
      exact allDue_of_reads whole allReads (by simpa using below)
  | false =>
      have nothing : left = [] := ends
      rw [nothing, List.append_nil] at pageSplit
      by_cases short : (history.page passed.getLast?).length < signaturePageLimit
      · have last : rest.drop signaturePageLimit = [] := by
          rw [served, List.length_take] at short
          apply List.drop_eq_nil_of_le
          omega
        simp only [short, or_true, if_true, Option.isSome_none, Bool.false_eq_true, if_false]
        exact allDue_of_reads whole allReads (by simp [nothing, last])
      · simp only [short, Bool.false_eq_true, or_self, if_false]
        have several : signatures ≠ [] := by
          intro empty
          have none := pageReads.signatures
          rw [empty] at none
          rw [pageSplit] at filled
          exact filled (by simpa using none)
        have last : signatures.getLast?.isSome = true := by simpa using several
        rw [if_pos last]
        refine ⟨_, _, whole, allReads, ?_⟩
        cases found : signatures.getLast? with
        | none => simp [found] at last
        | some cursor => simp [List.getLast?_append, found]

/-- Nothing is left when a page is empty. -/
theorem Covered.allDue (covered : Covered history cutoffUnix before passed)
    (empty : history.page before = []) : AllDue history cutoffUnix passed := by
  obtain ⟨first, rest, split, reads, rfl⟩ := covered
  rw [History.page, listedBefore_eq split reads] at empty
  have nothing : rest = [] := by
    cases rest with
    | nil => rfl
    | cons info rest => simp [signaturePageLimit] at empty
  exact allDue_of_reads split reads (by simp [nothing])

/-! ## What a step keeps -/

/-- A crawl that was not stopped and did not fail accounts for what it passed. -/
def Crawl.Accounts (history : History Signature) (cutoffUnix : Int) (cancelled : Bool)
    (events : List (CrawlEvent Signature)) (crawl : Crawl Signature) : Prop :=
  cancelled = true ∨ (∃ event ∈ events, event.isFailure = true) ∨ crawl.Clean history cutoffUnix events

theorem CrawlStep.clean (step : CrawlStep datasource history around crawl newer after)
    (clean : crawl.Clean history datasource.cutoffUnix events) :
    after.Accounts history datasource.cutoffUnix around.cancelled (events ++ newer) := by
  have failed : ∀ {event : CrawlEvent Signature}, event ∈ newer → event.isFailure = true →
      after.Accounts history datasource.cutoffUnix around.cancelled (events ++ newer) :=
    fun member failure => .inr (.inl ⟨_, List.mem_append_right _ member, failure⟩)
  cases step with
  | stop cancelled => exact .inl cancelled
  | request running =>
      rw [List.append_nil]
      exact .inr (.inr clean)
  | pageFailed error => exact failed List.mem_cons_self rfl
  | noPage empty =>
      obtain ⟨passed, covered, queued⟩ := clean
      rw [List.append_nil]
      exact .inr (.inr ⟨passed, covered.allDue empty, queued⟩)
  | invalidSignature invalid => exact failed List.mem_cons_self rfl
  | page filled selected =>
      obtain ⟨passed, covered, queued⟩ := clean
      rw [List.append_nil]
      refine .inr (.inr ⟨_, covered.page filled selected, fun signature member => ?_⟩)
      rcases List.mem_append.mp member with earlier | waits
      · exact .inr (.inr (.inr (queued signature earlier)))
      · exact .inl waits
  | fetch room =>
      obtain ⟨passed, leads, accounted⟩ := clean
      rw [List.append_nil]
      refine .inr (.inr ⟨passed, leads, fun signature member => ?_⟩)
      rcases accounted signature member with waits | flies | later
      · rcases List.mem_cons.mp waits with rfl | waits
        · exact .inr (.inl (List.mem_append_right _ List.mem_cons_self))
        · exact .inl waits
      · exact .inr (.inl (List.mem_append_left _ flies))
      · exact .inr (.inr later)
  | fetchFailed member error => exact failed List.mem_cons_self rfl
  | unconverted member refused => exact failed List.mem_cons_self rfl
  | @fetched arrived waiting inFlight next transaction update member converted =>
      obtain ⟨passed, leads, accounted⟩ := clean
      refine .inr (.inr ⟨passed, leads, fun signature member => ?_⟩)
      rcases accounted signature member with waits | flies | ⟨_, _, nothing, _⟩ | queued
      · exact .inl waits
      · by_cases same : signature = arrived
        · rw [same]
          exact .inr (.inr (.inl ⟨transaction, update, rfl,
            List.mem_append_right _ List.mem_cons_self, converted⟩))
        · exact .inr (.inl ((List.mem_erase_of_ne same).mpr flies))
      · cases nothing
      · exact .inr (.inr (.inr queued.append))
  | queue receives room =>
      obtain ⟨passed, leads, accounted⟩ := clean
      refine .inr (.inr ⟨passed, leads, fun signature member => ?_⟩)
      rcases accounted signature member with waits | flies | ⟨transaction, _, same, fetched, converted⟩ | queued
      · exact .inl waits
      · exact .inr (.inl flies)
      · cases same
        exact .inr (.inr (.inr ⟨transaction, _, List.mem_append_left _ fetched, converted,
          List.mem_append_right _ List.mem_cons_self⟩))
      · exact .inr (.inr (.inr queued.append))
  | unqueued closed => exact failed List.mem_cons_self rfl
  | leave =>
      obtain ⟨passed, due, accounted⟩ := clean
      rw [List.append_nil]
      refine .inr (.inr ⟨passed, due, fun signature member => ?_⟩)
      rcases accounted signature member with nothing | nothing | ⟨_, _, nothing, _⟩ | queued
      · cases nothing
      · cases nothing
      · cases nothing
      · exact queued
  | next =>
      obtain ⟨passed, covered, accounted⟩ := clean
      rw [List.append_nil]
      refine .inr (.inr ⟨passed, covered, fun signature member => ?_⟩)
      rcases accounted signature member with nothing | nothing | ⟨_, _, nothing, _⟩ | queued
      · cases nothing
      · cases nothing
      · cases nothing
      · exact queued

theorem CrawlStep.accounts (step : CrawlStep datasource history around crawl newer after)
    (accounts : crawl.Accounts history datasource.cutoffUnix around.cancelled events) :
    after.Accounts history datasource.cutoffUnix around.cancelled (events ++ newer) := by
  rcases accounts with cancelled | ⟨event, member, failure⟩ | clean
  · exact .inl cancelled
  · exact .inr (.inl ⟨event, List.mem_append_left _ member, failure⟩)
  · exact step.clean clean

end Microscope.Backfill
