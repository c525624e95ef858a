import Microscope.Polling.Scene

namespace Microscope.Polling

open Std Microscope.Data

/-! # Discovery over a whole history

An endpoint that serves one history page by page, newest first, is listed
exactly down to the replay floor, in as many requests as there are full pages
and one more.
-/

variable {Signature : Type}

abbrev History (Signature : Type) := List (DiscoveredSignature Signature)

/-- Slots do not increase; several signatures may share one. -/
def NewestFirst (history : History Signature) : Prop :=
  history.Pairwise fun newer older => older.slot ≤ newer.slot

instance {history : History Signature} : Decidable (NewestFirst history) :=
  inferInstanceAs (Decidable (List.Pairwise _ history))

/-- The part of a history above a floor. -/
def aboveFloor (floor : Slot) (history : History Signature) : History Signature :=
  history.filter fun discovered => floor < discovered.slot

def reachesFloor (floor : Slot) (history : History Signature) : Bool :=
  history.any fun discovered => discovered.slot ≤ floor

variable {floor minimumContext : Slot} {history first second : History Signature}

@[simp] theorem aboveFloor_append :
    aboveFloor floor (first ++ second) = aboveFloor floor first ++ aboveFloor floor second :=
  List.filter_append ..

@[simp] theorem reachesFloor_append :
    reachesFloor floor (first ++ second) = (reachesFloor floor first || reachesFloor floor second) :=
  List.any_append

theorem reachesFloor_iff :
    reachesFloor floor history = true ↔ ∃ discovered ∈ history, discovered.slot ≤ floor := by
  simp [reachesFloor]

theorem aboveFloor_eq_self (unreached : reachesFloor floor history = false) :
    aboveFloor floor history = history := by
  refine List.filter_eq_self.mpr fun discovered member => ?_
  have high := List.any_eq_false.mp unreached discovered member
  simpa using high

/-- Nothing older than an entry at the floor lies above it. -/
theorem aboveFloor_eq_nil (newestFirst : NewestFirst (first ++ second))
    (reached : reachesFloor floor first = true) : aboveFloor floor second = [] := by
  obtain ⟨lowest, member, low⟩ := reachesFloor_iff.mp reached
  refine List.filter_eq_nil_iff.mpr fun discovered older => ?_
  have ordered := (List.pairwise_append.mp newestFirst).2.2 lowest member discovered older
  have below : discovered.slot ≤ floor := ordered.trans low
  simpa using below

/-- What a listing becomes when entries are appended to it. -/
def Listing.extend (listing : Listing Signature) (more : History Signature) : Listing Signature where
  signatures := listing.signatures ++ more
  newestSlot := listing.newestSlot.or (more.head?.map DiscoveredSignature.slot)

variable {listing : Listing Signature}

@[simp] theorem Listing.extend_nil : listing.extend [] = listing := by
  simp [Listing.extend]

theorem Listing.extend_extend :
    (listing.extend first).extend second = listing.extend (first ++ second) := by
  cases first <;> simp [Listing.extend]

variable [SignatureText Signature]

/-- A page of a history is taken down to the floor. -/
theorem appendSignaturePage_newestFirst (newestFirst : NewestFirst history) :
    appendSignaturePage floor (history.map infoOf) listing =
      .ok (listing.extend (aboveFloor floor history), reachesFloor floor history) := by
  induction history generalizing listing with
  | nil => simp [appendSignaturePage, aboveFloor, reachesFloor]
  | cons discovered rest ih =>
      have older := List.pairwise_cons.mp newestFirst
      rw [List.map_cons, appendSignaturePage]
      by_cases low : (infoOf discovered).slot ≤ floor
      · have low : discovered.slot ≤ floor := low
        have none : aboveFloor floor (discovered :: rest) = [] := by
          refine List.filter_eq_nil_iff.mpr fun other member => ?_
          rcases List.mem_cons.mp member with same | member
          · simpa [same] using low
          · have below := (older.1 other member).trans low
            simpa using below
        rw [if_pos (show (infoOf discovered).slot ≤ floor from low), none]
        simp [reachesFloor, low]
      · have high : floor < discovered.slot := Nat.lt_of_not_le low
        rw [if_neg low]
        have parsed : (SignatureText.fromText (infoOf discovered).signature : Option Signature) =
            some discovered.signature := SignatureText.fromText_toText _
        simp only [parsed, ih older.2]
        have single : listing.extend [discovered] = {
            signatures := listing.signatures ++
              [{ signature := discovered.signature, slot := (infoOf discovered).slot }]
            newestSlot := some (listing.newestSlot.getD (infoOf discovered).slot) } := by
          cases newest : listing.newestSlot <;> simp [Listing.extend, infoOf, newest]
        rw [← single, Listing.extend_extend]
        simp [aboveFloor, reachesFloor, high]

/-! ## The page loop -/

variable [LinearOrder Signature] {address : Address} {before : Option Signature} {pages : Nat}
  {state after : PollingState Signature} {trace : List (CallEvent Signature)} {rest : History Signature}

/-- Every page request for the address is answered with the entries of the
history that follow `before`, at most `limit` of them. -/
def Serves (history : History Signature) (address : Address) (trace : List (CallEvent Signature)) :
    Prop :=
  ∀ before limit minimumContext response,
    (⟨.rpc (.getSignaturesForAddress address before limit minimumContext), response⟩ :
      CallEvent Signature) ∈ trace → response = .ok (pageOf history before limit)

theorem listSignatures_exact {result : Except (PollError Signature) (Listing Signature × Bool)}
    (ends : Action.Ends (listSignatures address floor minimumContext pages before listing) state
      trace result after)
    (serves : Serves history address trace) (newestFirst : NewestFirst history)
    (distinct : (history.map DiscoveredSignature.signature).Nodup)
    (split : history = listing.signatures ++ rest) (resumes : olderThan before history = rest)
    (enough : rest.length / signaturePageLimit < pages) :
    after = state ∧ trace.length ≤ rest.length / signaturePageLimit + 1 ∧
      result = .ok (listing.extend (aboveFloor floor rest), reachesFloor floor rest) := by
  induction pages generalizing before listing trace rest with
  | zero => exact absurd enough (Nat.not_lt_zero _)
  | succ pages ih =>
      have whole := List.take_append_drop signaturePageLimit rest
      have restOrdered : NewestFirst rest := by
        rw [split] at newestFirst
        exact (List.pairwise_append.mp newestFirst).2.1
      have pageOrdered : NewestFirst (rest.take signaturePageLimit) :=
        restOrdered.sublist (List.take_sublist _ _)
      obtain ⟨response, later, rfl, pageEnds⟩ := Action.ends_request_bind_iff.mp ends
      cases serves before signaturePageLimit minimumContext response List.mem_cons_self
      rw [pageOf, resumes] at pageEnds
      change Action.Ends (if ((rest.take signaturePageLimit).map infoOf).isEmpty then _ else _)
        _ _ _ _ at pageEnds
      split at pageEnds
      · rename_i empty
        obtain ⟨rfl, rfl, rfl⟩ := Action.ends_pure_iff.mp pageEnds
        have none : rest = [] := by simpa [signaturePageLimit] using empty
        subst none
        simp [aboveFloor, reachesFloor]
      rename_i nonempty
      rw [appendSignaturePage_newestFirst pageOrdered] at pageEnds
      rcases Action.ends_ofExcept_bind_iff.mp pageEnds with
        ⟨_, impossible, _⟩ | ⟨appended, same, appendedEnds⟩
      · contradiction
      cases same
      change Action.Ends (if reachesFloor floor (rest.take signaturePageLimit) = true then _ else _)
        _ _ _ _ at appendedEnds
      split at appendedEnds
      · rename_i reached
        obtain ⟨rfl, rfl, rfl⟩ := Action.ends_pure_iff.mp appendedEnds
        -- what the page leaves out is older than an entry at the floor
        rw [← whole] at restOrdered
        have nothing := aboveFloor_eq_nil restOrdered reached
        have kept : aboveFloor floor rest = aboveFloor floor (rest.take signaturePageLimit) := by
          rw [← whole, aboveFloor_append, nothing, List.append_nil, whole]
        have reachedRest : reachesFloor floor rest = true := by
          rw [← whole, reachesFloor_append, reached, Bool.true_or]
        rw [kept, reachedRest]
        exact ⟨rfl, by simp, rfl⟩
      rename_i unreached
      have unreached : reachesFloor floor (rest.take signaturePageLimit) = false :=
        Bool.eq_false_iff.mpr unreached
      have taken := aboveFloor_eq_self unreached
      rw [taken] at appendedEnds
      change Action.Ends (if ((rest.take signaturePageLimit).map infoOf).length < signaturePageLimit
        then _ else _) _ _ _ _ at appendedEnds
      split at appendedEnds
      · rename_i short
        obtain ⟨rfl, rfl, rfl⟩ := Action.ends_pure_iff.mp appendedEnds
        have fits : rest.length ≤ signaturePageLimit := by
          rw [List.length_map, List.length_take] at short
          omega
        rw [List.take_of_length_le fits] at unreached taken ⊢
        rw [taken, unreached]
        exact ⟨rfl, by simp, rfl⟩
      · rename_i full
        have full : signaturePageLimit ≤ rest.length := by
          rw [List.length_map, List.length_take] at full
          omega
        have positive : 0 < signaturePageLimit := by decide
        cases ending : (listing.extend (rest.take signaturePageLimit)).signatures.getLast? with
        | none =>
            have impossible : listing.signatures ++ rest.take signaturePageLimit = [] :=
              List.getLast?_eq_none_iff.mp ending
            have lengths := congrArg List.length impossible
            rw [List.length_append, List.length_take, List.length_nil] at lengths
            omega
        | some pageEnd =>
            rw [ending] at appendedEnds
            have remaining : history = (listing.extend (rest.take signaturePageLimit)).signatures ++
                rest.drop signaturePageLimit := by
              rw [Listing.extend, List.append_assoc, whole, split]
            have continued : olderThan (some pageEnd.signature) history =
                rest.drop signaturePageLimit := by
              obtain ⟨earlier, same⟩ := List.getLast?_eq_some_iff.mp ending
              rw [remaining, same, List.append_assoc, List.singleton_append] at distinct ⊢
              exact olderThan_append distinct
            have fewer : (rest.drop signaturePageLimit).length / signaturePageLimit + 1 =
                rest.length / signaturePageLimit := by
              rw [List.length_drop]
              exact (Nat.div_eq_sub_div positive full).symm
            obtain ⟨same, requests, listed⟩ := ih appendedEnds
              (fun before limit context response member =>
                serves before limit context response (List.mem_cons_of_mem _ member))
              remaining continued (by omega)
            refine ⟨same, ?_, ?_⟩
            · rw [List.length_cons]
              omega
            · rw [listed, Listing.extend_extend]
              have kept : aboveFloor floor rest = rest.take signaturePageLimit ++
                  aboveFloor floor (rest.drop signaturePageLimit) := by
                conv_lhs => rw [← whole]
                rw [aboveFloor_append, taken]
              have reachedLater : reachesFloor floor rest =
                  reachesFloor floor (rest.drop signaturePageLimit) := by
                conv_lhs => rw [← whole]
                rw [reachesFloor_append, unreached, Bool.false_or]
              rw [kept, reachedLater]

/-- The batch of a whole history. -/
def historyBatch (history : History Signature) (address : Address) (cursor : AddressCursor)
    (headSlot replayWindowSlots : Slot) : AddressBatch Signature :=
  let floor := cursor.scannedSlot - replayWindowSlots
  let newer := aboveFloor floor history
  { address
    signatures := newer
    nextCursor := {
      scannedSlot := match newer with
        | [] => max headSlot cursor.scannedSlot
        | newest :: _ => max headSlot newest.slot }
    reachedReplayFloor := reachesFloor floor history }

/-- Discovery over a history ends after a bounded number of requests and
returns the history above the floor. -/
theorem discovery_exact {cursor : AddressCursor} {headSlot replayWindowSlots : Slot}
    (endpoint : (call : Call Signature) → call.Response)
    (serves : ∀ before limit minimumContext,
      endpoint (.rpc (.getSignaturesForAddress address before limit minimumContext)) =
        .ok (pageOf history before limit))
    (newestFirst : NewestFirst history)
    (distinct : (history.map DiscoveredSignature.signature).Nodup)
    (enough : history.length / signaturePageLimit < pages) :
    let run := Program.runWith (fun _ call => (endpoint call, ())) ()
      (discoverSignatures pages address cursor headSlot replayWindowSlots state)
    run.1.length ≤ history.length / signaturePageLimit + 1 ∧
      run.2.1 = (.ok (historyBatch history address cursor headSlot replayWindowSlots), state) := by
  intro run
  have honest : Program.Allowed (fun call response => response = endpoint call) run.1 :=
    Program.runWith_allowed (fun _ _ => rfl) _ _
  have served : Serves history address run.1 := by
    intro before limit minimumContext response member
    exact (honest _ member).trans (serves before limit minimumContext)
  have ends : Action.Ends (discoverSignatures pages address cursor headSlot replayWindowSlots) state
      run.1 run.2.1.1 run.2.1.2 := Program.run_runWith _ _ _
  generalize run.1 = trace at ends served ⊢
  generalize run.2.1 = outcome at ends ⊢
  obtain ⟨result, after⟩ := outcome
  rcases Action.ends_bind_iff.mp ends with
    ⟨failure, _, failed⟩ | ⟨first, second, listed, middle, split, listing, rest⟩
  · obtain ⟨_, _, impossible⟩ :=
      listSignatures_exact failed served newestFirst distinct rfl rfl enough
    contradiction
  · obtain ⟨nothing, finished, unchanged⟩ := Action.ends_pure_iff.mp rest
    subst nothing
    rw [List.append_nil] at split
    subst split
    obtain ⟨same, requests, listedEq⟩ :=
      listSignatures_exact listing served newestFirst distinct rfl rfl enough
    refine ⟨requests, ?_⟩
    cases listedEq
    rw [show after = state from unchanged.trans same, show result = _ from finished]
    cases newer : aboveFloor (cursor.scannedSlot - replayWindowSlots) history <;>
      simp [Listing.extend, historyBatch, newer]

/-! Two signatures share the newest slot; the oldest one lies on the floor. -/

def discoveryScene : Scene (Fin 58) where
  headSlot := 100
  firstAvailableBlock := 0
  entries := [({ signature := 3, slot := 101 }, ["program"]), ({ signature := 2, slot := 101 }, ["program"]),
    ({ signature := 1, slot := 90 }, ["program"])]
  contextOf := fun _ => 101
  outcome := fun _ => .ok (convertible 90 (by decide))
  delivered := []

def discoveryHistory : History (Fin 58) := listedEntries discoveryScene.entries "program" 101

theorem discovery_exact_shared_slot :
    let run := Program.runWith (fun _ call => (discoveryScene.answer call, ())) ()
      (discoverSignatures 1 "program" { scannedSlot := 100 } 100 10 ({} : PollingState (Fin 58)))
    run.1.length ≤ discoveryHistory.length / signaturePageLimit + 1 ∧
      run.2.1 = (.ok (historyBatch discoveryHistory "program" { scannedSlot := 100 } 100 10), {}) :=
  discovery_exact discoveryScene.answer (fun _ _ _ => rfl) (by decide) (by decide) (by decide)

example : historyBatch discoveryHistory "program" { scannedSlot := 100 } 100 10 = {
    address := "program"
    signatures := [{ signature := 3, slot := 101 }, { signature := 2, slot := 101 }]
    nextCursor := { scannedSlot := 101 }
    reachedReplayFloor := true } := by decide

end Microscope.Polling
