import Microscope.Backfill.Window

namespace Microscope.Backfill

open Microscope.Data SignatureText

/-! # The failures of a crawl

Every fetch of a crawl may fail, and the crawl goes on.  The failures are
counted in 32 bits, which is too few for the longest histories.
-/

variable {Signature : Type} [SignatureText Signature] {cutoffUnix : Int}
  {infos : List Listed} {signatures : List Signature} {history : History Signature}
  {datasource : BackfillDatasource} {around : Surroundings}

theorem Reads.select (reads : Reads cutoffUnix infos signatures) :
    selectSignatures cutoffUnix infos = .ok (signatures, false) := by
  induction infos generalizing signatures with
  | nil =>
      have none : signatures = [] := by simpa using reads.signatures.symm
      rw [none]
      rfl
  | cons info infos ih =>
      cases signatures with
      | nil =>
          have impossible := reads.signatures
          simp at impossible
      | cons signature signatures =>
          obtain ⟨parsed, later⟩ := List.cons.inj reads.signatures
          dsimp only at parsed
          have tail : Reads cutoffUnix infos signatures :=
            ⟨later, fun info member => reads.above info (List.mem_cons_of_mem _ member)⟩
          rw [selectSignatures, reads.above info List.mem_cons_self, if_neg Bool.false_ne_true, parsed]
          dsimp only
          rw [ih tail]
          rfl

theorem Reads.take (reads : Reads cutoffUnix infos signatures) (count : Nat) :
    Reads cutoffUnix (infos.take count) (signatures.take count) where
  signatures := by rw [List.map_take, List.map_take, reads.signatures]
  above := fun info member => reads.above info (List.mem_of_mem_take member)

theorem Reads.drop (reads : Reads cutoffUnix infos signatures) (count : Nat) :
    Reads cutoffUnix (infos.drop count) (signatures.drop count) where
  signatures := by rw [List.map_drop, List.map_drop, reads.signatures]
  above := fun info member => reads.above info (List.mem_of_mem_drop member)

theorem Reads.length (reads : Reads cutoffUnix infos signatures) : infos.length = signatures.length := by
  have lengths := congrArg List.length reads.signatures
  rwa [List.length_map, List.length_map] at lengths

variable [DecidableEq Signature]

theorem page_fails (error : FetchError) (next : Option Signature) (signatures : List Signature) :
    Runs (CrawlStep datasource history around) (.fetching { waiting := signatures, next })
      (signatures.map fun signature => .fetchFailed signature error)
      (.fetching { waiting := [], next }) := by
  induction signatures with
  | nil => exact .refl
  | cons signature signatures ih =>
      have room : ([] : List Signature).length < concurrentTransactionFetches := Nat.zero_lt_succ 4
      have fetched : CrawlStep datasource history around
          (.fetching { waiting := signature :: signatures, next }) []
          (.fetching { waiting := signatures, inFlight := [signature], next }) := .fetch room
      have fails : CrawlStep datasource history around
          (.fetching { waiting := signatures, inFlight := [signature], next })
          [.fetchFailed signature error]
          (.fetching { waiting := signatures, inFlight := [signature].erase signature, next }) :=
        .fetchFailed List.mem_cons_self error
      rw [List.erase_cons_head] at fails
      exact Runs.cons fetched (Runs.cons fails ih)

/-- The crawl of a history goes on to its end although every fetch fails. -/
theorem crawl_fails {first rest : List Listed} {passed signatures : List Signature} (error : FetchError)
    (running : around.cancelled = false) (split : history.listed = first ++ rest)
    (earlier : Reads datasource.cutoffUnix first passed)
    (later : Reads datasource.cutoffUnix rest signatures) :
    Runs (CrawlStep datasource history around) (.checking passed.getLast?)
      (signatures.map fun signature => .fetchFailed signature error) .finished := by
  have served : history.page passed.getLast? = rest.take signaturePageLimit := by
    rw [History.page, listedBefore_eq split earlier]
  have requested : CrawlStep datasource history around (.checking passed.getLast?) []
      (.requesting passed.getLast?) := .request running
  by_cases empty : rest = []
  · have none : signatures = [] := by
      have lengths := later.length
      rw [empty] at lengths
      exact List.length_eq_zero_iff.mp lengths.symm
    have ends : CrawlStep datasource history around (.requesting passed.getLast?) [] .finished :=
      .noPage (by rw [served, empty]; rfl)
    rw [none]
    exact Runs.cons requested (Runs.single ends)
  · have filled : history.page passed.getLast? ≠ [] := by
      rw [served]
      intro nothing
      rcases List.take_eq_nil_iff.mp nothing with limit | nothing
      · cases limit
      · exact empty nothing
    have pageReads := later.take signaturePageLimit
    have selected : selectSignatures datasource.cutoffUnix (history.page passed.getLast?) =
        .ok (signatures.take signaturePageLimit, false) := by
      rw [served]
      exact pageReads.select
    have paged : CrawlStep datasource history around (.requesting passed.getLast?) [] _ :=
      .page filled selected
    have fails : Runs (CrawlStep datasource history around) _ _ _ :=
      page_fails error (nextBefore (history.page passed.getLast?) (signatures.take signaturePageLimit) false)
        (signatures.take signaturePageLimit)
    have paging := Runs.cons requested (Runs.cons paged fails)
    by_cases short : rest.length < signaturePageLimit
    · have whole : signatures.take signaturePageLimit = signatures := by
        apply List.take_of_length_le
        rw [← later.length]
        omega
      have none : nextBefore (history.page passed.getLast?) (signatures.take signaturePageLimit) false = none := by
        have shortPage : (history.page passed.getLast?).length < signaturePageLimit := by
          rw [served, List.length_take]
          omega
        exact if_pos (.inr shortPage)
      rw [none, whole] at paging
      simpa using paging.snoc .leave
    · have enough : signatures.take signaturePageLimit ≠ [] := by
        intro nothing
        have lengths := pageReads.length
        rw [nothing, List.length_take, List.length_nil] at lengths
        rw [Nat.min_eq_left (Nat.le_of_not_lt short)] at lengths
        cases lengths
      obtain ⟨cursor, last⟩ : ∃ cursor, (signatures.take signaturePageLimit).getLast? = some cursor :=
        ⟨_, List.getLast?_eq_some_getLast enough⟩
      have next : nextBefore (history.page passed.getLast?) (signatures.take signaturePageLimit) false =
          some cursor := by
        have fullPage : ¬(history.page passed.getLast?).length < signaturePageLimit := by
          rw [served, List.length_take]
          omega
        rw [nextBefore, if_neg (by simp [fullPage]), last]
      have followed : (passed ++ signatures.take signaturePageLimit).getLast? = some cursor := by
        rw [List.getLast?_append, last]
        rfl
      have shorter : (rest.drop signaturePageLimit).length < rest.length := by
        have positive : 0 < signaturePageLimit := by decide
        have filledRest := List.length_pos_iff.mpr empty
        rw [List.length_drop]
        omega
      have remaining : history.listed =
          (first ++ rest.take signaturePageLimit) ++ rest.drop signaturePageLimit := by
        rw [List.append_assoc, List.take_append_drop]
        exact split
      have continues : Runs (CrawlStep datasource history around)
          (.checking (passed ++ signatures.take signaturePageLimit).getLast?) _ .finished :=
        crawl_fails error running remaining (earlier.append pageReads) (later.drop signaturePageLimit)
      rw [next] at paging
      rw [followed] at continues
      have run := (paging.snoc .next).trans continues
      rw [List.append_nil] at run
      have events : signatures = signatures.take signaturePageLimit ++ signatures.drop signaturePageLimit :=
        (List.take_append_drop _ _).symm
      rw [events, List.map_append]
      exact run
termination_by rest.length
decreasing_by exact shorter

/-! ## Runs of one task -/

variable {setup : BackfillSetup Signature} {state : BackfillState Signature} {account : Address}
  {events newer : List (CrawlEvent Signature)} {middle after : Crawl Signature}

omit [SignatureText Signature] [DecidableEq Signature] in
theorem crawled_crawled : (state.crawled account events middle).crawled account newer after =
    state.crawled account (events ++ newer) after := by
  simp only [BackfillState.crawled, Function.update_idem, List.countP_append, List.filterMap_append,
    List.map_append, List.append_assoc, Nat.mod_add_mod, Nat.add_assoc]

/-- A run of one crawl is a run of the program, while there is room for its
updates. -/
theorem crawl_runs (monitored : account ∈ setup.accounts) (running : state.pipeline = .running)
    (counter : state.crawlFailures < 2 ^ 32)
    (run : Runs (CrawlStep (setup.datasource account) (setup.histories account)
      { cancelled := state.cancelled, receives := true, room := true }) (state.crawls account) events after)
    (room : state.updates.length + (events.filterMap CrawlEvent.update).length < setup.updateChannelSize) :
    Runs setup.Step state (events.map (.crawl account)) (state.crawled account events after) := by
  induction run with
  | refl =>
      have unchanged : state.crawled account [] (state.crawls account) = state := by
        have reduced : state.crawlFailures % 2 ^ 32 = state.crawlFailures := Nat.mod_eq_of_lt counter
        simp only [BackfillState.crawled, List.countP_nil, Nat.add_zero, reduced, Function.update_eq_self,
          List.filterMap_nil, List.map_nil, List.append_nil]
      rw [unchanged]
      exact .refl
  | @snoc events newer middle after earlier last ih =>
      rw [List.filterMap_append, List.length_append] at room
      have earlierRun := ih (by omega)
      have around : (state.crawled account events middle).around setup.updateChannelSize =
          { cancelled := state.cancelled, receives := true, room := true } := by
        have few : state.updates.length + (events.filterMap CrawlEvent.update).length <
            setup.updateChannelSize := by omega
        simp [BackfillState.around, BackfillState.crawled, running, Pipeline.receives, few]
      have step : setup.Step (state.crawled account events middle) (newer.map (.crawl account))
          ((state.crawled account events middle).crawled account newer after) := by
        apply BackfillSetup.Step.crawl monitored
        rw [around]
        simpa [BackfillState.crawled] using last
      rw [List.map_append, ← crawled_crawled]
      exact earlierRun.snoc step

/-- The pipeline processes the last update, and one record is pushed. -/
theorem pushes_record {update : TransactionUpdate Signature} {line : String} {blockTime : Int}
    (ended : ∀ account ∈ setup.accounts, (state.crawls account).ended = true)
    (uncounted : state.crawlFailures = 0) (running : state.cancelled = false)
    (queued : state.updates = [(account, update)]) (processing : state.pipeline = .running)
    (noFailedUpdates : state.failedUpdates = 0) (noRecords : state.records = [])
    (receiving : state.pusher = .receiving [] 0) (waits : state.main = .running)
    (timed : setup.loki.blockTimeOf line = some blockTime) :
    ∃ final, Runs setup.Step state
        [.processed account update [line] false,
          .pushed (setup.loki.request [(blockTime, line)]) (.status 204 "204 No Content" "")] final ∧
      final.pusher = .ended (.ok 1) := by
  obtain ⟨crawls, crawlFailures, cancelled, updates, pipeline, failedUpdates, records, pusher, main⟩ := state
  dsimp only at ended uncounted running queued processing noFailedUpdates noRecords receiving waits
  subst uncounted running queued processing noFailedUpdates noRecords receiving waits
  have process : setup.Step { crawls, updates := [(account, update)] }
      [.processed account update [line] false] { crawls, records := [some line] } :=
    .process [line] false rfl rfl
  have drain : setup.Step { crawls, records := [some line] } [] _ := .drain rfl ended rfl
  have approves : BackfillState.judged { crawls, records := [some line], pipeline := .returned (.ok ()) }
      (.ok ()) =
        { crawls, records := [some line, none], pipeline := .returned (.ok ()), main := .pushing } := rfl
  have judged : setup.Step { crawls, records := [some line], pipeline := .returned (.ok ()) } [] _ :=
    .judge rfl rfl
  rw [approves] at judged
  have received : setup.Step
      { crawls, records := [some line, none], pipeline := .returned (.ok ()), main := .pushing } [] _ :=
    .receive rfl rfl
  rw [LokiPush.receive, timed] at received
  have marked : setup.Step {
      crawls, records := [none], pusher := .receiving [(blockTime, line)] 0
      pipeline := .returned (.ok ()), main := .pushing } [] _ := .endMarker rfl rfl
  have batches : LokiPush.close [(blockTime, line)] 0 = .pushing [[(blockTime, line)]] 1 0 := by
    simp [LokiPush.close, LokiPush.sortByBlockTime, chunks, chunksFrom, pushBatchLimit]
  rw [batches] at marked
  have sent : setup.Step {
      crawls, pusher := .pushing [[(blockTime, line)]] 1 0
      pipeline := .returned (.ok ()), main := .pushing } _ _ := .push (.status 204 "204 No Content" "") rfl
  have accepts : setup.loki.flush [(blockTime, line)] [] 1 0 (.status 204 "204 No Content" "") =
      .pushing [] 1 1 := rfl
  rw [accepts] at sent
  have finished : setup.Step
      { crawls, pusher := .pushing [] 1 1, pipeline := .returned (.ok ()), main := .pushing } [] _ :=
    .finish rfl
  exact ⟨_, Runs.cons process (Runs.cons drain (Runs.cons judged (Runs.cons received
    (Runs.cons marked (Runs.cons sent (Runs.single finished)))))), rfl⟩

/-! ## Histories of given signatures -/

omit [DecidableEq Signature] in
theorem filterMap_fromText (blockTime : Int) (signatures : List Signature) :
    (signatures.map fun signature => (⟨some blockTime, toText signature⟩ : Listed)).filterMap
      (fun info => (fromText info.signature : Option Signature)) = signatures := by
  rw [List.filterMap_map]
  simp [fromText_toText]

def historyOf (blockTime : Int) (signatures : List Signature) (distinct : signatures.Nodup) :
    History Signature where
  listed := signatures.map fun signature => ⟨some blockTime, toText signature⟩
  distinct := by rwa [filterMap_fromText]

omit [DecidableEq Signature] in
theorem historyOf_reads {blockTime : Int} (distinct : signatures.Nodup) (recent : cutoffUnix ≤ blockTime) :
    Reads cutoffUnix (historyOf blockTime signatures distinct).listed signatures where
  signatures := by
    simp [historyOf, Function.comp_def, fromText_toText]
  above := by
    intro info member
    obtain ⟨signature, _, rfl⟩ := List.mem_map.mp member
    simpa [belowCutoff] using recent

/-- The crawl of one transaction. -/
theorem crawl_one {signature : Signature} {transaction : EncodedTransaction}
    {update : TransactionUpdate Signature} (running : around.cancelled = false)
    (receives : around.receives = true) (room : around.room = true)
    (one : Reads datasource.cutoffUnix history.listed [signature])
    (converted : transactionUpdate signature transaction = some update) :
    Runs (CrawlStep datasource history around) (.checking none)
      [.fetched signature transaction, .queued update] .finished := by
  have requested : CrawlStep datasource history around (.checking none) [] (.requesting none) :=
    .request running
  have length : history.listed.length = 1 := one.length
  have served : history.page none = history.listed := by
    apply List.take_of_length_le
    rw [listedBefore, length]
    decide
  have filled : history.page none ≠ [] := by
    rw [served]
    exact List.ne_nil_of_length_eq_add_one length
  have selected : selectSignatures datasource.cutoffUnix (history.page none) = .ok ([signature], false) := by
    rw [served]
    exact one.select
  have paged : CrawlStep datasource history around (.requesting none) [] _ := .page filled selected
  have last : nextBefore (history.page none) [signature] false = none := by
    have short : (history.page none).length < signaturePageLimit := by
      rw [served, length]
      decide
    exact if_pos (.inr short)
  rw [last] at paged
  have fetching : CrawlStep datasource history around (.fetching { waiting := [signature], next := none }) []
      (.fetching { waiting := [], inFlight := [signature], next := none }) := .fetch (Nat.zero_lt_succ 4)
  have fetched : CrawlStep datasource history around
      (.fetching { waiting := [], inFlight := [signature], next := none }) [.fetched signature transaction]
      (.fetching { waiting := [], inFlight := [signature].erase signature, sending := some update, next := none }) :=
    .fetched List.mem_cons_self converted
  rw [List.erase_cons_head] at fetched
  have queued : CrawlStep datasource history around
      (.fetching { waiting := [], sending := some update, next := none }) [.queued update]
      (.fetching { waiting := [], next := none }) := .queue receives room
  exact Runs.cons requested (Runs.cons paged (Runs.cons fetching (Runs.cons fetched
    (Runs.cons queued (Runs.single .leave)))))

/-! ## Numbered signatures -/

/-- The base58 text of a 64-byte value below `58 ^ 6`. -/
def numberText (number : Nat) : String :=
  String.ofList (List.replicate 64 '1' ++
    (List.range 6).map fun place => base58Alphabet[Fin.ofNat 58 (number / 58 ^ place)])

theorem numberText_injective {left right : Nat} (leftSmall : left < 58 ^ 6) (rightSmall : right < 58 ^ 6)
    (same : numberText left = numberText right) : left = right := by
  have characters := List.append_cancel_left (String.ofList_injective same)
  have digits : ∀ place < 6, left / 58 ^ place % 58 = right / 58 ^ place % 58 := by
    intro place below
    have digit := List.map_inj_left.mp characters place (List.mem_range.mpr below)
    simpa using congrArg Fin.val (base58Alphabet_injective digit)
  have ones := digits 0 (by decide)
  have second := digits 1 (by decide)
  have third := digits 2 (by decide)
  have fourth := digits 3 (by decide)
  have fifth := digits 4 (by decide)
  have sixth := digits 5 (by decide)
  omega

structure NumberedSignature where
  number : Nat
  small : number < 58 ^ 6
deriving DecidableEq

def NumberedSignature.ofNat (number : Nat) : NumberedSignature :=
  ⟨number % 58 ^ 6, Nat.mod_lt _ (by decide)⟩

theorem NumberedSignature.ofNat_number (signature : NumberedSignature) : ofNat signature.number = signature := by
  cases signature with
  | mk number small =>
      rw [ofNat, NumberedSignature.mk.injEq]
      exact Nat.mod_eq_of_lt small

def NumberedSignature.toText (signature : NumberedSignature) : String := numberText signature.number

def NumberedSignature.fromText (text : String) : Option NumberedSignature :=
  ((List.range (58 ^ 6)).find? fun number => numberText number = text).map .ofNat

theorem NumberedSignature.fromText_toText (signature : NumberedSignature) :
    fromText signature.toText = some signature := by
  rw [fromText, toText]
  cases found : (List.range (58 ^ 6)).find? fun number => numberText number = numberText signature.number with
  | none =>
      have absent := List.find?_eq_none.mp found signature.number (List.mem_range.mpr signature.small)
      simp at absent
  | some number =>
      have below := List.mem_range.mp (List.mem_of_find?_eq_some found)
      have same : numberText number = numberText signature.number := by simpa using List.find?_some found
      rw [numberText_injective below signature.small same]
      exact congrArg some signature.ofNat_number

theorem NumberedSignature.toText_base58 (signature : NumberedSignature) :
    signature.toText.toList.all isBase58 = true := by
  have valid : ∀ digit : Fin 58, isBase58 base58Alphabet[digit] = true := by decide +kernel
  have leading : (List.replicate 64 '1').all isBase58 = true := by decide +kernel
  rw [toText, numberText, String.toList_ofList, List.all_append, leading, List.all_map, Bool.true_and,
    List.all_eq_true]
  intro place _
  exact valid (Fin.ofNat 58 (signature.number / 58 ^ place))

theorem NumberedSignature.toText_length (signature : NumberedSignature) : 64 ≤ signature.toText.toList.length := by
  rw [toText, numberText, String.toList_ofList, List.length_append, List.length_replicate]
  omega

instance : SignatureText NumberedSignature where
  toText := NumberedSignature.toText
  fromText := NumberedSignature.fromText
  fromText_toText := NumberedSignature.fromText_toText
  toText_base58 := NumberedSignature.toText_base58
  toText_length := NumberedSignature.toText_length

def someSignature : NumberedSignature := .ofNat 0

def firstSignatures (count : Nat) : List NumberedSignature := (List.range count).map .ofNat

theorem firstSignatures_nodup {count : Nat} (possible : count ≤ 58 ^ 6) : (firstSignatures count).Nodup := by
  refine List.Nodup.map_on ?_ List.nodup_range
  intro left leftMember right rightMember same
  have leftSmall := Nat.lt_of_lt_of_le (List.mem_range.mp leftMember) possible
  have rightSmall := Nat.lt_of_lt_of_le (List.mem_range.mp rightMember) possible
  have numbers : left % 58 ^ 6 = right % 58 ^ 6 := congrArg NumberedSignature.number same
  rwa [Nat.mod_eq_of_lt leftSmall, Nat.mod_eq_of_lt rightSmall] at numbers

/-! A history of which every fetch fails, next to one transaction that is
backfilled. -/

def recordLine : String := "\x7b\"block_time\":200\x7d"

def wrappingLoki : LokiPush where
  lokiUrl := "http://loki:3100"
  runLabel := "300"
  fromStr line := if line = recordLine then some (.object [("block_time", .number 200)]) else none

def wrappingSetup (count : Nat) (possible : count ≤ 58 ^ 6) : BackfillSetup NumberedSignature where
  accounts := ["multisig", "program"]
  histories := fun account =>
    if account = "program" then historyOf 200 [someSignature] (List.nodup_singleton _)
    else historyOf 200 (firstSignatures count) (firstSignatures_nodup possible)
  cutoffUnix := 100
  loki := wrappingLoki
  updateChannelSize := 1000

def wrappingTransaction : EncodedTransaction where
  slot := 7
  blockTime := some 200
  hasMeta := true
  decodes := true
  hasInnerInstructions := true
  hasLogMessages := true
  metaConverts := true
  slot_lt := by decide

def wrappingUpdate : TransactionUpdate NumberedSignature where
  signature := someSignature
  slot := 7
  blockTime := some 200
  slot_lt := by decide

theorem wrappingLoki_blockTimeOf : wrappingLoki.blockTimeOf recordLine = some 200 := by
  have read : wrappingLoki.fromStr recordLine = some (.object [("block_time", .number 200)]) := by
    simp [wrappingLoki]
  rw [LokiPush.blockTimeOf, read]
  decide

theorem fetchFailed_counted {error : FetchError} (signatures : List NumberedSignature) :
    (signatures.map fun signature => CrawlEvent.fetchFailed signature error).countP CrawlEvent.counted =
      signatures.length := by
  rw [List.countP_map, List.countP_eq_length]
  intro signature _
  rfl

theorem fetchFailed_updates {error : FetchError} (signatures : List NumberedSignature) :
    (signatures.map fun signature => CrawlEvent.fetchFailed signature error).filterMap CrawlEvent.update = [] := by
  rw [List.filterMap_map, List.filterMap_eq_nil_iff]
  intro signature _
  rfl

def programEvents : List (CrawlEvent NumberedSignature) :=
  [.fetched someSignature wrappingTransaction, .queued wrappingUpdate]

def multisigEvents (count : Nat) : List (CrawlEvent NumberedSignature) :=
  (firstSignatures count).map fun signature => .fetchFailed signature ⟨false, "service unavailable"⟩

/-- The state after the crawl of the program. -/
def programCrawled : BackfillState NumberedSignature :=
  ({} : BackfillState NumberedSignature).crawled "program" programEvents .finished

/-- The failures go unnoticed when their number is a multiple of `2 ^ 32`. -/
theorem wrapping_pushes (count : Nat) (possible : count ≤ 58 ^ 6) (wraps : 2 ^ 32 ∣ count) :
    ∃ trace state, Runs (wrappingSetup count possible).Step {} trace state ∧
      (∃ request response, .pushed request response ∈ trace) ∧ state.pusher = .ended (.ok 1) ∧
      trace.countP BackfillEvent.counted = count ∧ capturedRecords trace = [recordLine] := by
  have recent : (100 : Int) ≤ 200 := by decide
  have programReads : Reads ((wrappingSetup count possible).datasource "program").cutoffUnix
      ((wrappingSetup count possible).histories "program").listed [someSignature] :=
    historyOf_reads (List.nodup_singleton _) recent
  have multisigReads : Reads ((wrappingSetup count possible).datasource "multisig").cutoffUnix
      ((wrappingSetup count possible).histories "multisig").listed (firstSignatures count) :=
    historyOf_reads (firstSignatures_nodup possible) recent
  have converted : transactionUpdate someSignature wrappingTransaction = some wrappingUpdate := rfl
  have program : Runs (wrappingSetup count possible).Step {} (programEvents.map (.crawl "program"))
      programCrawled := by
    apply crawl_runs
    · simp [wrappingSetup]
    · rfl
    · decide
    · exact crawl_one rfl rfl rfl programReads converted
    · show 0 + 1 < 1000
      decide
  have nothing : Reads ((wrappingSetup count possible).datasource "multisig").cutoffUnix []
      ([] : List NumberedSignature) := ⟨rfl, fun info member => by cases member⟩
  have multisig : Runs (wrappingSetup count possible).Step programCrawled
      ((multisigEvents count).map (.crawl "multisig"))
      (programCrawled.crawled "multisig" (multisigEvents count) .finished) := by
    apply crawl_runs
    · simp [wrappingSetup]
    · rfl
    · decide
    · have fails : Runs (CrawlStep ((wrappingSetup count possible).datasource "multisig")
          ((wrappingSetup count possible).histories "multisig")
          { cancelled := false, receives := true, room := true }) _ _ _ :=
        crawl_fails ⟨false, "service unavailable"⟩ rfl rfl nothing multisigReads
      exact fails
    · rw [multisigEvents, fetchFailed_updates]
      show 1 + 0 < 1000
      decide
  have counted : (multisigEvents count).countP CrawlEvent.counted = count := by
    rw [multisigEvents, fetchFailed_counted, firstSignatures, List.length_map, List.length_range]
  have ended : ∀ account ∈ (wrappingSetup count possible).accounts,
      ((programCrawled.crawled "multisig" (multisigEvents count) .finished).crawls account).ended = true := by
    intro account monitored
    simp only [wrappingSetup, List.mem_cons, List.not_mem_nil, or_false] at monitored
    rcases monitored with rfl | rfl <;> rfl
  have uncounted : (programCrawled.crawled "multisig" (multisigEvents count) .finished).crawlFailures = 0 := by
    have none : programCrawled.crawlFailures = 0 := rfl
    rw [BackfillState.crawled, none, counted, Nat.zero_add]
    exact Nat.mod_eq_zero_of_dvd wraps
  have queued : (programCrawled.crawled "multisig" (multisigEvents count) .finished).updates =
      [("program", wrappingUpdate)] := by
    rw [BackfillState.crawled, multisigEvents, fetchFailed_updates]
    rfl
  have pushing : ∃ final, Runs (wrappingSetup count possible).Step _ _ final ∧ final.pusher = .ended (.ok 1) :=
    pushes_record ended uncounted rfl queued rfl rfl rfl rfl rfl wrappingLoki_blockTimeOf
  obtain ⟨final, pushes, finished⟩ := pushing
  refine ⟨_, final, (program.trans multisig).trans pushes, ⟨_, _, List.mem_append_right _
    (List.mem_cons_of_mem _ List.mem_cons_self)⟩, finished, ?_, ?_⟩
  · have multisigCounted : ((multisigEvents count).map (BackfillEvent.crawl "multisig")).countP
        BackfillEvent.counted = count := by
      rw [List.countP_map]
      exact counted
    rw [List.countP_append, List.countP_append, multisigCounted]
    simp [programEvents, BackfillEvent.counted, CrawlEvent.counted]
  · rw [capturedRecords, List.flatMap_append, List.flatMap_append]
    have program : (programEvents.map (BackfillEvent.crawl "program")).flatMap BackfillEvent.records = [] :=
      capturedRecords_crawl
    have multisig : ((multisigEvents count).map (BackfillEvent.crawl "multisig")).flatMap
        BackfillEvent.records = [] := capturedRecords_crawl
    rw [program, multisig]
    rfl

/-- A run without failures. -/
theorem pushes_complete_window_one : ∃ trace state,
    Runs (wrappingSetup 0 (by decide)).Step {} trace state ∧ CompleteWindow (wrappingSetup 0 (by decide)) trace ∧
      ∃ records : List (Int × String), accepted (sentBatches trace) = records.map LokiPush.entry ∧
        (records.map Prod.snd).Perm [recordLine] := by
  obtain ⟨trace, state, run, _, ended, counted, captured⟩ :=
    wrapping_pushes 0 (by decide) (Nat.dvd_zero _)
  have missing : (wrappingSetup 0 (by decide)).loki.missingBlockTimes [recordLine] = 0 := by
    have timed := wrappingLoki_blockTimeOf
    simp [LokiPush.missingBlockTimes, wrappingSetup, timed]
  have fits : CountersFit (wrappingSetup 0 (by decide)) trace :=
    ⟨fun _ => counted, fun _ => captured ▸ missing⟩
  obtain ⟨complete, records, sent, permuted, _⟩ := (pushes_complete_window run fits).2 1 ended
  rw [captured] at permuted
  exact ⟨trace, state, run, complete, records, sent, permuted⟩

/-- With `2 ^ 32` failed fetches the counter reads zero, and a batch is sent. -/
theorem pushes_incomplete_window : ∃ trace state,
    Runs (wrappingSetup (2 ^ 32) (by decide)).Step {} trace state ∧
      (∃ request response, .pushed request response ∈ trace) ∧
      ∃ event ∈ trace, event.isFailure (wrappingSetup (2 ^ 32) (by decide)).loki = true := by
  obtain ⟨trace, state, run, pushed, _, counted, _⟩ :=
    wrapping_pushes (2 ^ 32) (by decide) (Nat.dvd_refl _)
  have several : 0 < trace.countP BackfillEvent.counted := by
    rw [counted]
    decide
  obtain ⟨event, member, failure⟩ := List.countP_pos_iff.mp several
  refine ⟨trace, state, run, pushed, event, member, ?_⟩
  cases event with
  | crawl account event => cases event <;> first | rfl | cases failure
  | cancelled => rfl
  | processed => cases failure
  | pushed => cases failure

end Microscope.Backfill
