import Microscope.Polling.Completion
import Microscope.Polling.Scene

namespace Microscope.Polling

open Std Microscope.Data

/-! # The history boundary

The endpoint prunes its history while a poll lists it.  A listing that stops
above the replay floor is only complete if nothing behind the cursor has been
pruned, which `poll` decides by the boundary it reads after the first such
listing; it keeps that boundary for the addresses that follow.
-/

variable {Signature : Type}

/-! ## An endpoint that prunes -/

structure Endpoint (Signature : Type) where
  /-- Slots below it are pruned. -/
  boundary : Slot
  /-- Everything that ever mentioned an address, newest first. -/
  history : Address → List (DiscoveredSignature Signature)

namespace Endpoint

variable (endpoint : Endpoint Signature)

def unpruned (address : Address) : List (DiscoveredSignature Signature) :=
  (endpoint.history address).filter fun discovered => endpoint.boundary ≤ discovered.slot

/-- What may happen between two calls. -/
inductive Moves : Endpoint Signature → Endpoint Signature → Prop where
  | prune {endpoint : Endpoint Signature} {boundary : Slot} (raised : endpoint.boundary ≤ boundary) :
      Moves endpoint { endpoint with boundary }
  | grow {endpoint : Endpoint Signature} (newer : Address → List (DiscoveredSignature Signature)) :
      Moves endpoint
        { endpoint with history := fun address => newer address ++ endpoint.history address }

variable [DecidableEq Signature] [SignatureText Signature]

/-- A request fails, or it is answered from the endpoint as it is. -/
def Answers : (call : Call Signature) → call.Response → Prop
  | .rpc .getFirstAvailableBlock, .ok slot => slot = endpoint.boundary
  | .rpc (.getSignaturesForAddress address before limit _), .ok page =>
      page = pageOf (endpoint.unpruned address) before limit
  | _, _ => True

end Endpoint

/-- The endpoint prunes and grows between the calls of a poll. -/
def endpointEnvironment [DecidableEq Signature] [SignatureText Signature] :
    Program.Environment (@Call.Response Signature) (Endpoint Signature) where
  answers endpoint call response answered := endpoint.Answers call response ∧ answered = endpoint
  interferes := Endpoint.Moves

/-! ## Moments of a poll -/

/-- An event and the endpoint that answered it. -/
abbrev Moment (Signature : Type) := CallEvent Signature × Endpoint Signature

/-- The address a page was asked for. -/
def pageAddress : CallEvent Signature → Option Address
  | ⟨.rpc (.getSignaturesForAddress address _ _ _), _⟩ => some address
  | _ => none

def readsBoundary : CallEvent Signature → Bool
  | ⟨.rpc .getFirstAvailableBlock, _⟩ => true
  | _ => false

/-- The endpoint when the last page of an address was fetched. -/
def lastPage (address : Address) (moments : List (Moment Signature)) : Option (Endpoint Signature) :=
  (moments.filter fun moment => pageAddress moment.1 = some address).getLast?.map Prod.snd

/-- The endpoint when its boundary was first read. -/
def firstRead (moments : List (Moment Signature)) : Option (Endpoint Signature) :=
  (moments.find? fun moment => readsBoundary moment.1).map Prod.snd

/-- The endpoint when its boundary was read for the listings, which is not
before the first page was fetched. -/
def boundaryRead (moments : List (Moment Signature)) : Option (Endpoint Signature) :=
  firstRead (moments.dropWhile fun moment => (pageAddress moment.1).isNone)

/-- No slot above the cursor, up to the head, is pruned. -/
def Endpoint.Reaches (endpoint : Endpoint Signature) (cursor headSlot : Slot) : Prop :=
  ∀ slot, cursor < slot → slot ≤ headSlot → endpoint.boundary ≤ slot

theorem reaches_iff {endpoint : Endpoint Signature} {cursor headSlot : Slot} :
    endpoint.Reaches cursor headSlot ↔ (cursor < headSlot → endpoint.boundary ≤ cursor + 1) := by
  constructor
  · exact fun reaches behind => reaches (cursor + 1) (Nat.lt_succ_self _) behind
  · exact fun intact slot above below => (intact (above.trans_le below)).trans above

/-- Between the boundary read and the last page of the address, pruning passes
the slot after a cursor that is behind the head. -/
def PrunedSinceRead (moments : List (Moment Signature)) (address : Address)
    (cursor headSlot : Slot) : Prop :=
  cursor < headSlot ∧ ∃ read last, boundaryRead moments = some read ∧
    lastPage address moments = some last ∧ read.boundary ≤ cursor + 1 ∧ cursor + 1 < last.boundary

section Moments

variable {moments more : List (Moment Signature)} {address : Address} {event : CallEvent Signature}
  {endpoint : Endpoint Signature}

theorem lastPage_append :
    lastPage address (moments ++ more) = (lastPage address more).or (lastPage address moments) := by
  simp only [lastPage, List.filter_append, List.getLast?_append, Option.map_or]

theorem firstRead_append : firstRead (moments ++ more) = (firstRead moments).or (firstRead more) := by
  simp only [firstRead, List.find?_append, Option.map_or]

theorem lastPage_singleton (page : pageAddress event = some address) :
    lastPage address [(event, endpoint)] = some endpoint := by
  simp [lastPage, page]

theorem firstRead_of_reads (reads : readsBoundary event = true) :
    firstRead ((event, endpoint) :: moments) = some endpoint := by
  simp [firstRead, reads]

theorem lastPage_eq_none (pages : ∀ event ∈ moments.map Prod.fst, pageAddress event ≠ some address) :
    lastPage address moments = none := by
  have nothing : (moments.filter fun moment => pageAddress moment.1 = some address) = [] := by
    simpa [List.filter_eq_nil_iff] using pages
  rw [lastPage, nothing]
  rfl

theorem firstRead_eq_none (reads : ∀ event ∈ moments.map Prod.fst, readsBoundary event = false) :
    firstRead moments = none := by
  have nothing : (moments.find? fun moment => readsBoundary moment.1) = none := by
    simpa [List.find?_eq_none] using reads
  rw [firstRead, nothing]
  rfl

end Moments

section Environment

variable [DecidableEq Signature] [SignatureText Signature] {start final : Endpoint Signature}
  {moments : List (Moment Signature)} {address : Address}

/-- A page lists nothing that is pruned when it is fetched. -/
theorem unpruned_of_page (chronicle : Program.Chronicle endpointEnvironment start moments final)
    {endpoint : Endpoint Signature} {before : Option Signature} {minimumContext : Slot}
    {page : List SignatureInfo} {info : SignatureInfo}
    (fetched : (pageEvent address before minimumContext page, endpoint) ∈ moments)
    (listed : info ∈ page) : endpoint.boundary ≤ info.slot := by
  obtain ⟨_, answer, _⟩ := chronicle.answered _ fetched
  have honest : page = pageOf (endpoint.unpruned address) before signaturePageLimit := answer
  rw [honest] at listed
  obtain ⟨discovered, taken, rfl⟩ := List.mem_map.mp listed
  have kept := mem_of_mem_older (List.mem_of_mem_take taken)
  exact of_decide_eq_true (List.mem_filter.mp kept).2

end Environment

/-! ## Surveys of a pruning endpoint -/

theorem Checks.cases {known : Option Slot} {checks : List (CallEvent Signature)} {boundary : Slot}
    (check : Checks known checks boundary) :
    known = some boundary ∧ checks = [] ∨
      known = none ∧ checks = [⟨.rpc .getFirstAvailableBlock, .ok boundary⟩] := by
  cases check with
  | known => exact .inl ⟨rfl, rfl⟩
  | read => exact .inr ⟨rfl, rfl⟩

theorem Checks.noPage {known : Option Slot} {checks : List (CallEvent Signature)} {boundary : Slot}
    (check : Checks known checks boundary) : ∀ event ∈ checks, pageAddress event = none := by
  rcases check.cases with ⟨_, rfl⟩ | ⟨_, rfl⟩
  · simp
  · simp [pageAddress]

theorem preparing_noPage {event : CallEvent Signature} (preparing : event.1.Preparing) :
    pageAddress event = none := by
  obtain ⟨command, response⟩ := event
  cases command with
  | rpc call => cases call <;> first | rfl | exact preparing.elim
  | _ => rfl

theorem fetching_silent {event : CallEvent Signature} (fetching : event.1.Fetching) :
    pageAddress event = none ∧ readsBoundary event = false := by
  obtain ⟨command, response⟩ := event
  cases command with
  | rpc call => cases call <;> first | exact ⟨rfl, rfl⟩ | exact fetching.elim
  | _ => exact ⟨rfl, rfl⟩

section Bounded

variable [LinearOrder Signature] {survey : Survey Signature}

/-- When the last page of an address was fetched, the boundary had not passed
its cursor, or the boundary that was read had not. -/
def Bounded (survey : Survey Signature) (moments : List (Moment Signature)) (cursor : AddressCursor)
    (last : Endpoint Signature) : Prop :=
  last.boundary ≤ cursor.scannedSlot + 1 ∨
    ∃ read, survey.firstAvailableSlot.or ((firstRead moments).map Endpoint.boundary) = some read ∧
      read ≤ cursor.scannedSlot + 1

theorem Bounded.later {next : Survey Signature} {earlier later : List (Moment Signature)}
    {cursor : AddressCursor} {last : Endpoint Signature}
    (known : next.firstAvailableSlot.or ((firstRead later).map Endpoint.boundary) =
      survey.firstAvailableSlot.or ((firstRead (earlier ++ later)).map Endpoint.boundary))
    (bounded : Bounded next later cursor last) : Bounded survey (earlier ++ later) cursor last := by
  rcases bounded with direct | read
  · exact .inl direct
  · rw [known] at read
    exact .inr read

end Bounded

variable [SignatureText Signature] {headSlot replayWindowSlots floor minimumContext : Slot}
  {address : Address} {trace : List (CallEvent Signature)}

section Pages

variable {before : Option Signature} {listing final : Listing Signature} {reached : Bool}

/-- Every event of a listing is a page of its address. -/
theorem Pages.pageAddress
    (run : Pages address floor minimumContext before listing trace final reached) :
    ∀ event ∈ trace, pageAddress event = some address ∧ readsBoundary event = false := by
  induction run with
  | exhausted => simp [pageEvent, Polling.pageAddress, readsBoundary]
  | floor => simp [pageEvent, Polling.pageAddress, readsBoundary]
  | last => simp [pageEvent, Polling.pageAddress, readsBoundary]
  | more _ _ _ _ ih =>
      intro event member
      rcases List.mem_cons.mp member with rfl | member
      · exact ⟨rfl, rfl⟩
      · exact ih event member

/-- A listing starts with a page. -/
theorem Pages.firstEvent
    (run : Pages address floor minimumContext before listing trace final reached) :
    ∃ event later, trace = event :: later ∧ Polling.pageAddress event = some address := by
  cases run with
  | exhausted => exact ⟨_, _, rfl, rfl⟩
  | floor => exact ⟨_, _, rfl, rfl⟩
  | last => exact ⟨_, _, rfl, rfl⟩
  | more => exact ⟨_, _, rfl, rfl⟩

/-- A listing ends with a page; one that reached the floor lists a slot there. -/
theorem Pages.lastEvent
    (run : Pages address floor minimumContext before listing trace final reached) :
    ∃ earlier before page, trace = earlier ++ [pageEvent address before minimumContext page] ∧
      (reached = true → ∃ info ∈ page, info.slot ≤ floor) := by
  induction run with
  | @exhausted before => exact ⟨[], before, [], rfl, by simp⟩
  | @floor before listing final page appended =>
      obtain ⟨_, _, _, split, _, _, _, _, floorReached, _⟩ := appendSignaturePage_spec appended
      obtain ⟨info, tail, rfl, low⟩ := floorReached rfl
      exact ⟨[], before, page, rfl, fun _ => ⟨info, by simp [split], low⟩⟩
  | @last before _ _ page => exact ⟨[], before, page, rfl, by simp⟩
  | @more before _ _ _ page _ trace _ _ _ _ _ ih =>
      obtain ⟨earlier, latest, lastPage, rfl, low⟩ := ih
      exact ⟨pageEvent address before minimumContext page :: earlier, latest, lastPage, rfl, low⟩

end Pages

section Surveys

variable [LinearOrder Signature] {cursors : ExtTreeMap Address AddressCursor}
  {addresses : List Address} {survey surveyed : Survey Signature} {start final : Endpoint Signature}
  {moments : List (Moment Signature)}

/-- The pages of a survey are those of its addresses. -/
theorem Surveys.pageAddress
    (surveys : Surveys headSlot replayWindowSlots cursors addresses survey trace surveyed) :
    ∀ event ∈ trace, ∀ address, pageAddress event = some address → address ∈ addresses := by
  induction surveys with
  | done => simp
  | reached _ pages _ _ ih =>
      intro event member other page
      rcases List.mem_append.mp member with member | member
      · rw [(pages.pageAddress event member).1] at page
        cases page
        exact List.mem_cons_self
      · exact List.mem_cons_of_mem _ (ih event member other page)
  | checked _ pages check _ _ _ ih =>
      intro event member other page
      simp only [List.mem_append] at member
      rcases member with (member | member) | member
      · rw [(pages.pageAddress event member).1] at page
        cases page
        exact List.mem_cons_self
      · rw [check.noPage event member] at page
        contradiction
      · exact List.mem_cons_of_mem _ (ih event member other page)

theorem Surveys.firstEvent
    (surveys : Surveys headSlot replayWindowSlots cursors addresses survey trace surveyed)
    (monitored : address ∈ addresses) :
    ∃ event later, trace = event :: later ∧ (Polling.pageAddress event).isSome := by
  cases surveys with
  | done => contradiction
  | reached _ pages =>
      obtain ⟨event, later, rfl, page⟩ := pages.firstEvent
      exact ⟨event, _, rfl, by rw [page]; rfl⟩
  | checked _ pages =>
      obtain ⟨event, later, rfl, page⟩ := pages.firstEvent
      exact ⟨event, _, rfl, by rw [page]; rfl⟩

/-- The segment of one address ends with its last page. -/
theorem lastPage_of_pages {before : Option Signature} {listing ended : Listing Signature}
    {reached : Bool}
    (pages : Pages address floor minimumContext before listing (moments.map Prod.fst) ended reached)
    (chronicle : Program.Chronicle endpointEnvironment start moments final) :
    ∃ last, lastPage address moments = some last ∧
      (reached = true → last.boundary ≤ floor) := by
  obtain ⟨earlier, latest, page, split, low⟩ := pages.lastEvent
  obtain ⟨first, rest, rfl, _, single⟩ := List.map_eq_append_iff.mp split
  obtain ⟨⟨event, last⟩, tail, rfl, same, nothing⟩ := List.map_eq_cons_iff.mp single
  cases List.map_eq_nil_iff.mp nothing
  have same : event = pageEvent address latest minimumContext page := same
  subst same
  refine ⟨last, ?_, fun floorReached => ?_⟩
  · rw [lastPage_append, lastPage_singleton rfl, Option.some_or]
  · obtain ⟨info, listed, atFloor⟩ := low floorReached
    exact (unpruned_of_page chronicle (List.mem_append_right _ (List.mem_singleton.mpr rfl))
      listed).trans atFloor

theorem Surveys.bounded
    (surveys : Surveys headSlot replayWindowSlots cursors addresses survey trace surveyed)
    (recorded : moments.map Prod.fst = trace)
    (chronicle : Program.Chronicle endpointEnvironment start moments final) :
    ∀ address ∈ addresses, ∃ cursor last, cursors[address]? = some cursor ∧
      lastPage address moments = some last ∧ Bounded survey moments cursor last := by
  induction surveys generalizing moments start with
  | done => simp
  | @reached address addresses survey surveyed cursor listing contexts listed trace present pages added
      rest ih =>
      obtain ⟨earlier, later, rfl, rfl, rfl⟩ := List.map_eq_append_iff.mp recorded
      obtain ⟨middle, listingChronicle, restChronicle⟩ := chronicle.split
      have unread : firstRead earlier = none :=
        firstRead_eq_none fun event member => (pages.pageAddress event member).2
      intro other member
      by_cases again : other ∈ addresses
      · obtain ⟨cursor, last, found, lastly, bounded⟩ := ih rfl restChronicle other again
        refine ⟨cursor, last, found, ?_, bounded.later ?_⟩
        · rw [lastPage_append, lastly, Option.some_or]
        · rw [firstRead_append, unread, Option.none_or]
      · have first : other = address := (List.mem_cons.mp member).resolve_right again
        subst first
        obtain ⟨last, lastly, low⟩ := lastPage_of_pages pages listingChronicle
        have nowhereElse : lastPage other later = none :=
          lastPage_eq_none fun event inside page => again (rest.pageAddress event inside other page)
        refine ⟨cursor, last, present, ?_, .inl ?_⟩
        · rw [lastPage_append, nowhereElse, Option.none_or, lastly]
        · exact (low rfl).trans ((Nat.sub_le _ _).trans (Nat.le_succ _))
  | @checked address addresses survey surveyed cursor listing contexts listed checks trace boundary present
      pages check intact added rest ih =>
      obtain ⟨segment, later, rfl, split, rfl⟩ := List.map_eq_append_iff.mp recorded
      obtain ⟨earlier, checking, rfl, rfl, rfl⟩ := List.map_eq_append_iff.mp split
      obtain ⟨middle, segmentChronicle, restChronicle⟩ := chronicle.split
      obtain ⟨_, listingChronicle, checkChronicle⟩ := segmentChronicle.split
      have unread : firstRead earlier = none :=
        firstRead_eq_none fun event member => (pages.pageAddress event member).2
      have known : survey.firstAvailableSlot.or
          ((firstRead (earlier ++ checking ++ later)).map Endpoint.boundary) = some boundary := by
        rcases check.cases with ⟨known, _⟩ | ⟨unknown, single⟩
        · rw [known, Option.some_or]
        · obtain ⟨⟨event, read⟩, tail, rfl, same, _⟩ := List.map_eq_cons_iff.mp single
          have same : event = ⟨.rpc .getFirstAvailableBlock, .ok boundary⟩ := same
          subst same
          obtain ⟨_, answer, _⟩ := checkChronicle.answered _ List.mem_cons_self
          have honest : boundary = read.boundary := answer
          rw [unknown, Option.none_or, List.append_assoc, firstRead_append, unread, Option.none_or,
            List.cons_append, firstRead_of_reads rfl, honest]
          rfl
      intro other member
      by_cases again : other ∈ addresses
      · obtain ⟨cursor, last, found, lastly, bounded⟩ := ih rfl restChronicle other again
        refine ⟨cursor, last, found, ?_, bounded.later ?_⟩
        · rw [lastPage_append, lastly, Option.some_or]
        · rw [known, Option.some_or]
      · have first : other = address := (List.mem_cons.mp member).resolve_right again
        subst first
        obtain ⟨last, lastly, _⟩ := lastPage_of_pages pages listingChronicle
        have nowhereElse : lastPage other later = none :=
          lastPage_eq_none fun event inside page => again (rest.pageAddress event inside other page)
        have noCheck : lastPage other checking = none :=
          lastPage_eq_none fun event inside page => by simp [check.noPage event inside] at page
        refine ⟨cursor, last, present, ?_, .inr ⟨boundary, known, ?_⟩⟩
        · rw [lastPage_append, lastPage_append, nowhereElse, noCheck, Option.none_or, Option.none_or, lastly]
        · exact intact.trans (saturatingAdd_le _ _)

end Surveys

/-! ## Whole polls -/

variable [LinearOrder Signature] {datasource : RpcPollingDatasource} {addresses : List Address}
  {pages : Nat} {before after : PollingState Signature} {outcome : PollOutcome}
  {start final : Endpoint Signature} {moments : List (Moment Signature)}

/-- The cursor a poll scans an address from. -/
def oldCursor (before : PollingState Signature) (headSlot replayWindowSlots : Slot)
    (address : Address) : Slot :=
  (before.cursors[address]?.getD { scannedSlot := headSlot - replayWindowSlots }).scannedSlot

/-- The poll replaced the cursor of the address. -/
def CursorReplaced (before after : PollingState Signature) (headSlot replayWindowSlots : Slot)
    (address : Address) : Prop :=
  after.cursors[address]? ≠ some { scannedSlot := oldCursor before headSlot replayWindowSlots address }

instance {address : Address} : Decidable (CursorReplaced before after headSlot replayWindowSlots address) :=
  inferInstanceAs (Decidable (_ ≠ _))

/-- A successful poll has listed every address, and either the boundary had
not passed its cursor at its last page, or the boundary that was read had not. -/
theorem poll_bounded (ends : Action.Ends (poll pages datasource addresses) before
      (moments.map Prod.fst) (.ok outcome) after)
    (answered : Program.Allowed Call.Answered (moments.map Prod.fst))
    (chronicle : Program.Chronicle endpointEnvironment start moments final)
    (reading : headReading (moments.map Prod.fst) = some headSlot) (monitored : address ∈ addresses) :
    ∃ last, lastPage address moments = some last ∧
      (last.boundary ≤ oldCursor before headSlot datasource.replayWindow.slots address + 1 ∨
        ∃ read, boundaryRead moments = some read ∧
          read.boundary ≤ oldCursor before headSlot datasource.replayWindow.slots address + 1) := by
  obtain ⟨reached, recorded, _, ⟨⟨_, impossible⟩, _⟩ | ⟨_, record, _, completed⟩⟩ :=
    poll_cases ends answered
  · contradiction
  obtain ⟨earlier, listed, later, verified, split, preparing, fetching, surveys⟩ := completed.surveyed
  obtain ⟨upTo, fetches, rfl, upToSplit, rfl⟩ := List.map_eq_append_iff.mp split
  obtain ⟨prepares, lists, rfl, rfl, rfl⟩ := List.map_eq_append_iff.mp upToSplit
  obtain ⟨_, upToChronicle, _⟩ := chronicle.split
  obtain ⟨_, _, listsChronicle⟩ := upToChronicle.split
  obtain ⟨cursor, last, present, lastly, bounded⟩ :=
    surveys.bounded rfl listsChronicle address monitored
  have sameHead : record.headSlot = headSlot := Option.some.inj (completed.head.symm.trans reading)
  have old : oldCursor before headSlot datasource.replayWindow.slots address = cursor.scannedSlot := by
    have installed := completed.installed address
    rw [present, if_pos monitored, sameHead] at installed
    cases found : before.cursors[address]? with
    | some earlier =>
        rw [found, Option.some_or] at installed
        simp [oldCursor, found, Option.some.inj installed]
    | none =>
        rw [found, Option.none_or] at installed
        simp [oldCursor, found, Option.some.inj installed]
  have noLaterPage : lastPage address fetches = none :=
    lastPage_eq_none fun event member page => by simp [(fetching_silent (fetching event member)).1] at page
  refine ⟨last, ?_, ?_⟩
  · rw [lastPage_append, lastPage_append, noLaterPage, Option.none_or, lastly, Option.some_or]
  rw [old]
  rcases bounded with direct | ⟨boundary, known, intact⟩
  · exact .inl direct
  have noLaterRead : firstRead fetches = none :=
    firstRead_eq_none fun event member => (fetching_silent (fetching event member)).2
  have reads : boundaryRead (prepares ++ lists ++ fetches) = firstRead lists := by
    obtain ⟨event, rest, starts, page⟩ := surveys.firstEvent monitored
    obtain ⟨first, others, rfl, rfl, _⟩ := List.map_eq_cons_iff.mp starts
    have skipped : ∀ moment ∈ prepares, (pageAddress moment.1).isNone = true := by
      intro moment member
      rw [preparing_noPage (preparing moment.1 (List.mem_map_of_mem member))]
      rfl
    rw [boundaryRead, List.append_assoc, List.dropWhile_append_of_pos skipped, List.cons_append,
      List.dropWhile_cons_of_neg (by simpa [Option.isSome_iff_ne_none] using page), ← List.cons_append, firstRead_append,
      noLaterRead, Option.or_none]
  obtain ⟨read, first, rfl⟩ := Option.map_eq_some_iff.mp (by simpa using known)
  exact .inr ⟨read, reads.trans first, intact⟩

/-- In a successful poll, an address whose cursor is replaced has lost nothing
between its cursor and the head exactly when pruning did not pass the cursor
after the boundary was read. -/
theorem gap_not_crossed_iff (ends : Action.Ends (poll pages datasource addresses) before
      (moments.map Prod.fst) (.ok outcome) after)
    (answered : Program.Allowed Call.Answered (moments.map Prod.fst))
    (chronicle : Program.Chronicle endpointEnvironment start moments final)
    (reading : headReading (moments.map Prod.fst) = some headSlot) :
    (∀ address ∈ addresses, CursorReplaced before after headSlot datasource.replayWindow.slots address →
      ∃ last, lastPage address moments = some last ∧
        last.Reaches (oldCursor before headSlot datasource.replayWindow.slots address) headSlot) ↔
    ∀ address ∈ addresses, CursorReplaced before after headSlot datasource.replayWindow.slots address →
      ¬PrunedSinceRead moments address
        (oldCursor before headSlot datasource.replayWindow.slots address) headSlot := by
  constructor
  · intro reaches address monitored replaced
    obtain ⟨last, lastly, intact⟩ := reaches address monitored replaced
    rintro ⟨behind, _, other, _, otherwise, _, passed⟩
    rw [lastly] at otherwise
    cases otherwise
    exact absurd (reaches_iff.mp intact behind) (Nat.not_le_of_lt passed)
  · intro unpassed address monitored replaced
    obtain ⟨last, lastly, bounded⟩ := poll_bounded ends answered chronicle reading monitored
    refine ⟨last, lastly, reaches_iff.mpr fun behind => ?_⟩
    rcases bounded with direct | ⟨read, first, intact⟩
    · exact direct
    · by_contra passed
      exact unpassed address monitored replaced
        ⟨behind, read, last, first, lastly, intact, Nat.lt_of_not_le passed⟩

/-! Two addresses of one poll, with a prune step between their listings. -/

section Pruning

variable (scene : Scene Signature) (raise : Slot)

/-- The endpoint answers as it is, and prunes right after a boundary read. -/
def pruningAnswer (endpoint : Endpoint Signature) :
    (call : Call Signature) → call.Response × Endpoint Signature
  | .rpc .getFirstAvailableBlock =>
      (.ok endpoint.boundary, { endpoint with boundary := max endpoint.boundary raise })
  | .rpc (.getSignaturesForAddress address before limit _) =>
      (.ok (pageOf (endpoint.unpruned address) before limit), endpoint)
  | call => (scene.answer call, endpoint)

variable {scene raise}

theorem pruningAnswer_honest (endpoint : Endpoint Signature) (call : Call Signature) :
    ∃ answered, endpointEnvironment.answers endpoint call (pruningAnswer scene raise endpoint call).1
      answered ∧ endpointEnvironment.Drifts answered (pruningAnswer scene raise endpoint call).2 := by
  refine ⟨endpoint, ?_⟩
  cases call with
  | rpc call =>
      cases call with
      | getFirstAvailableBlock =>
          exact ⟨⟨rfl, rfl⟩, .single (.prune (Nat.le_max_left _ _))⟩
      | _ => exact ⟨⟨by first | exact rfl | exact trivial, rfl⟩, .refl⟩
  | _ => exact ⟨⟨trivial, rfl⟩, .refl⟩

/-- The slots of the history are `u64` values. -/
def Endpoint.Typed (endpoint : Endpoint Signature) : Prop :=
  ∀ address, ∀ discovered ∈ endpoint.history address, discovered.slot ≤ u64Max

theorem pruningAnswer_answered (typed : scene.Typed) (endpoint : Endpoint Signature)
    (call : Call Signature) (small : endpoint.Typed) :
    Call.Answered call (pruningAnswer scene raise endpoint call).1 ∧
      (pruningAnswer scene raise endpoint call).2.Typed := by
  have elsewhere := scene.answer_answered typed call
  cases call with
  | rpc call =>
      cases call with
      | getSignaturesForAddress address before limit minimumContext =>
          refine ⟨fun info member => ?_, small⟩
          obtain ⟨discovered, taken, rfl⟩ := List.mem_map.mp member
          have listed := mem_of_mem_older (List.mem_of_mem_take taken)
          exact small address discovered (List.mem_filter.mp listed).1
      | getFirstAvailableBlock => exact ⟨trivial, small⟩
      | _ => exact ⟨elsewhere, small⟩
  | _ => exact ⟨elsewhere, small⟩

end Pruning

def pruningScene : Scene (Fin 58) where
  headSlot := 120
  firstAvailableBlock := 0
  entries := []
  contextOf := fun _ => 0
  outcome := fun _ => .ok (convertible 105 (by decide))
  delivered := []

def pruningEndpoint : Endpoint (Fin 58) where
  boundary := 0
  history address := if address = "program" then [{ signature := 1, slot := 105 }] else []

def pruningState : PollingState (Fin 58) where
  cursors := OrderedMap.insertAll ∅ [("multisig", ⟨100⟩), ("program", ⟨100⟩)]
  lastHistoryBoundaryCheck := some 0

/-- The poll of both addresses, with the boundary raised after it is read. -/
def pruningRun (raise : Slot) : List (Moment (Fin 58)) ×
    (Except (PollError (Fin 58)) PollOutcome × PollingState (Fin 58)) × Endpoint (Fin 58) :=
  Program.runStamped (pruningAnswer pruningScene raise) pruningEndpoint
    (poll 1 sampleDatasource ["multisig", "program"] pruningState)

theorem pruningRun_ends {raise : Slot} {outcome : PollOutcome}
    (succeeds : (pruningRun raise).2.1.1 = .ok outcome) :
    Action.Ends (poll 1 sampleDatasource ["multisig", "program"]) pruningState
      ((pruningRun raise).1.map Prod.fst) (.ok outcome) (pruningRun raise).2.1.2 := by
  rw [← succeeds]
  exact Program.run_runStamped _ _ _

theorem pruningRun_chronicle {raise : Slot} : Program.Chronicle endpointEnvironment pruningEndpoint
    (pruningRun raise).1 (pruningRun raise).2.2 :=
  Program.chronicle_runStamped pruningAnswer_honest _ _

theorem pruningRun_answered {raise : Slot} :
    Program.Allowed Call.Answered ((pruningRun raise).1.map Prod.fst) := by
  have small : pruningEndpoint.Typed := by
    intro address discovered member
    simp only [pruningEndpoint] at member
    split at member
    · rw [List.mem_singleton.mp member]
      decide
    · contradiction
  rw [pruningRun, Program.runStamped_trace]
  have typed : pruningScene.Typed := ⟨by decide, by simp [pruningScene], by simp [pruningScene]⟩
  exact Program.runWith_allowed_of_invariant (pruningAnswer_answered typed) small _

theorem pruningRun_succeeds (raise : Slot)
    (succeeds : (pruningRun raise).2.1.1.toOption.isSome) :
    ∃ outcome, (pruningRun raise).2.1.1 = .ok outcome := by
  cases result : (pruningRun raise).2.1.1 with
  | error failure => simp [result, Except.toOption] at succeeds
  | ok outcome => exact ⟨outcome, rfl⟩

/-- Without pruning, nothing behind the new cursor of the second address was
lost. -/
theorem gap_not_crossed_unpruned : ∃ last, lastPage "program" (pruningRun 0).1 = some last ∧
    last.Reaches (oldCursor pruningState 120 10 "program") 120 := by
  obtain ⟨outcome, succeeds⟩ := pruningRun_succeeds 0 (by decide +kernel)
  refine (gap_not_crossed_iff (pruningRun_ends succeeds) pruningRun_answered pruningRun_chronicle
    (by decide +kernel)).mpr ?_ "program" (by simp) (by decide +kernel)
  rintro address _ _ ⟨_, read, last, _, lastly, _, passed⟩
  have raised : ∀ moment ∈ (pruningRun 0).1, moment.2.boundary ≤ 0 := by decide +kernel
  obtain ⟨moment, found, rfl⟩ := Option.map_eq_some_iff.mp lastly
  have kept := raised moment (List.mem_filter.mp (List.mem_of_getLast? found)).1
  exact absurd (passed.trans_le kept) (Nat.not_lt_zero _)

/-- The boundary is read after the first address and found intact, then slots
up to 109 are pruned.  The second address lists nothing, its signature at slot
105 being gone, and its cursor moves from 100 to 120. -/
theorem gap_crossed : ∃ outcome,
    Action.Ends (poll 1 sampleDatasource ["multisig", "program"]) pruningState
      ((pruningRun 110).1.map Prod.fst) (.ok outcome) (pruningRun 110).2.1.2 ∧
    Program.Chronicle endpointEnvironment pruningEndpoint (pruningRun 110).1 (pruningRun 110).2.2 ∧
    headReading ((pruningRun 110).1.map Prod.fst) = some 120 ∧
    CursorReplaced pruningState (pruningRun 110).2.1.2 120 10 "program" ∧
    ∀ last, lastPage "program" (pruningRun 110).1 = some last →
      ¬last.Reaches (oldCursor pruningState 120 10 "program") 120 := by
  obtain ⟨outcome, succeeds⟩ := pruningRun_succeeds 110 (by decide +kernel)
  refine ⟨outcome, pruningRun_ends succeeds, pruningRun_chronicle, by decide +kernel,
    by decide +kernel, fun last lastly reaches => ?_⟩
  have passed : (lastPage "program" (pruningRun 110).1).map Endpoint.boundary = some 110 := by
    decide +kernel
  have old : oldCursor pruningState 120 10 "program" = 100 := by decide +kernel
  rw [lastly, Option.map_some, Option.some.injEq] at passed
  rw [old, reaches_iff, passed] at reaches
  exact absurd (reaches (by decide)) (by decide)

end Microscope.Polling
