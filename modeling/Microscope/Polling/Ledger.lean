import Microscope.Polling.Listing

namespace Microscope.Polling

open Std Microscope.Data

/-! # The ledger behind the listings

Replicas of the endpoint list one ledger, each up to a slot of its own.
-/

/-- The transactions of the cluster as the endpoint reports them. -/
structure Ledger (Signature : Type) where
  slotOf : Signature → Slot
  mentions : Signature → Address → Prop
  /-- What a replica that has reached a slot lists for an address. -/
  listing : Address → Slot → List (DiscoveredSignature Signature)
  mem_listing : ∀ address context discovered, discovered ∈ listing address context ↔
    mentions discovered.signature address ∧ discovered.slot = slotOf discovered.signature ∧
      discovered.slot ≤ context
  newestFirst : ∀ address context,
    (listing address context).Pairwise fun newer older => older.slot ≤ newer.slot
  distinct : ∀ address context,
    ((listing address context).map DiscoveredSignature.signature).Nodup

variable {Signature : Type}

section Older

variable [DecidableEq Signature]

/-- What follows a signature in a listing. -/
def olderThan (before : Option Signature) (listing : List (DiscoveredSignature Signature)) :
    List (DiscoveredSignature Signature) :=
  match before with
  | none => listing
  | some signature =>
      (listing.dropWhile fun discovered => discovered.signature ≠ signature).tail

theorem olderThan_append {earlier later : List (DiscoveredSignature Signature)}
    {last : DiscoveredSignature Signature}
    (distinct : ((earlier ++ last :: later).map DiscoveredSignature.signature).Nodup) :
    olderThan (some last.signature) (earlier ++ last :: later) = later := by
  induction earlier with
  | nil => simp [olderThan]
  | cons discovered rest ih =>
      have different : discovered.signature ≠ last.signature := by
        intro same
        simp [same] at distinct
      have distinctRest : ((rest ++ last :: later).map DiscoveredSignature.signature).Nodup :=
        (List.nodup_cons.mp distinct).2
      simpa [olderThan, different] using ih distinctRest

theorem mem_of_mem_older {listing : List (DiscoveredSignature Signature)}
    {discovered : DiscoveredSignature Signature} {before : Option Signature}
    (inside : discovered ∈ olderThan before listing) : discovered ∈ listing := by
  cases before with
  | none => exact inside
  | some signature => exact (List.dropWhile_suffix _).subset (List.mem_of_mem_tail inside)

end Older

variable [SignatureText Signature]

def infoOf (discovered : DiscoveredSignature Signature) : SignatureInfo where
  slot := discovered.slot
  signature := SignatureText.toText discovered.signature

variable {floor minimumContext : Slot} {listing final : Listing Signature} {reached : Bool}

theorem parses_infoOf {discovered parsed : DiscoveredSignature Signature}
    (parses : Parses (infoOf discovered) parsed) : parsed = discovered := by
  obtain ⟨slot, signature⟩ := parses
  cases discovered
  cases parsed
  simp_all [infoOf, SignatureText.fromText_toText]

theorem forall₂_parses_infoOf {listed parsed : List (DiscoveredSignature Signature)}
    (parses : List.Forall₂ Parses (listed.map infoOf) parsed) : parsed = listed := by
  induction listed generalizing parsed with
  | nil =>
      cases parses
      rfl
  | cons discovered rest ih =>
      cases parses with
      | cons first others => rw [ih others, parses_infoOf first]

/-- Appending a page of ledger entries takes those above the floor. -/
theorem appendSignaturePage_infoOf {entries : List (DiscoveredSignature Signature)}
    (appended : appendSignaturePage floor (entries.map infoOf) listing = .ok (final, reached)) :
    ∃ taken later, entries = taken ++ later ∧ final.signatures = listing.signatures ++ taken ∧
      (reached = true → ∃ discovered tail, later = discovered :: tail ∧ discovered.slot ≤ floor) ∧
      (reached = false → later = []) := by
  obtain ⟨taken, rest, more, split, parses, _, signatures, _, floorReached, whole⟩ :=
    appendSignaturePage_spec appended
  obtain ⟨first, second, rfl, rfl, rfl⟩ := List.map_eq_append_iff.mp split
  rw [forall₂_parses_infoOf parses] at signatures
  refine ⟨first, second, rfl, signatures, fun reachedFloor => ?_, fun notReached => ?_⟩
  · obtain ⟨info, tail, same, low⟩ := floorReached reachedFloor
    obtain ⟨discovered, others, rfl, rfl, rfl⟩ := List.map_eq_cons_iff.mp same
    exact ⟨discovered, others, rfl, low⟩
  · exact List.map_eq_nil_iff.mp (whole notReached)

variable [DecidableEq Signature]

/-- The next entries after `before`, at most `limit` of them. -/
def pageOf (listing : List (DiscoveredSignature Signature)) (before : Option Signature)
    (limit : Nat) : List SignatureInfo :=
  ((olderThan before listing).take limit).map infoOf

/-- Every page for an address comes from one replica, which has reached at
least the slot the request asks for. -/
def Replicas (ledger : Ledger Signature) (contextOf : Address → Slot)
    (trace : List (CallEvent Signature)) : Prop :=
  ∀ address before limit minimumContext page,
    (⟨.rpc (.getSignaturesForAddress address before limit minimumContext), .ok page⟩ :
      CallEvent Signature) ∈ trace →
    minimumContext ≤ contextOf address ∧
      page = pageOf (ledger.listing address (contextOf address)) before limit

variable {ledger : Ledger Signature} {contextOf : Address → Slot}
  {trace more : List (CallEvent Signature)} {address : Address} {before : Option Signature}

theorem Replicas.mono (replicas : Replicas ledger contextOf more)
    (inside : ∀ event ∈ trace, event ∈ more) : Replicas ledger contextOf trace :=
  fun address before limit minimumContext page event =>
    replicas address before limit minimumContext page (inside _ event)

/-! ## A finite ledger -/

/-- A transaction and the addresses it mentions. -/
abbrev LedgerEntry (Signature : Type) := DiscoveredSignature Signature × List Address

def listedEntries (entries : List (LedgerEntry Signature)) (address : Address) (context : Slot) :
    List (DiscoveredSignature Signature) :=
  (entries.filter fun entry => entry.2.contains address && decide (entry.1.slot ≤ context)).map Prod.fst

/-- The ledger with these transactions, newest first. -/
def Ledger.ofEntries (entries : List (LedgerEntry Signature))
    (sorted : entries.Pairwise fun newer older => older.1.slot ≤ newer.1.slot)
    (apart : (entries.map fun entry => entry.1.signature).Nodup) : Ledger Signature where
  slotOf signature :=
    ((entries.find? fun entry => entry.1.signature = signature).map fun entry => entry.1.slot).getD 0
  mentions signature address := ∃ entry ∈ entries, entry.1.signature = signature ∧ address ∈ entry.2
  listing := listedEntries entries
  mem_listing := by
    intro address context discovered
    have slot_eq : ∀ entry ∈ entries,
        ((entries.find? fun other => other.1.signature = entry.1.signature).map
          fun other => other.1.slot).getD 0 = entry.1.slot := by
      intro entry member
      cases found : entries.find? (fun other => other.1.signature = entry.1.signature) with
      | none => simpa using List.find?_eq_none.mp found entry member
      | some other =>
          have same : other.1.signature = entry.1.signature := by simpa using List.find?_some found
          rw [List.inj_on_of_nodup_map apart (List.mem_of_find?_eq_some found) member same]
          rfl
    simp only [listedEntries, List.mem_map, List.mem_filter, Bool.and_eq_true, List.contains_iff_mem,
      decide_eq_true_eq]
    constructor
    · rintro ⟨entry, ⟨member, mentioned, seen⟩, rfl⟩
      exact ⟨⟨entry, member, rfl, mentioned⟩, (slot_eq entry member).symm, seen⟩
    · rintro ⟨⟨entry, member, same, mentioned⟩, slot, seen⟩
      have equal : entry.1 = discovered := by
        rw [← same, slot_eq entry member] at slot
        obtain ⟨⟨entrySignature, entrySlot⟩, others⟩ := entry
        obtain ⟨signature, discoveredSlot⟩ := discovered
        simp_all
      exact ⟨entry, ⟨member, mentioned, equal ▸ seen⟩, equal⟩
  newestFirst := fun address context => List.pairwise_map.mpr (sorted.filter _)
  distinct := by
    intro address context
    rw [listedEntries, List.map_map]
    exact apart.sublist (List.filter_sublist.map _)

/-! ## What listings find -/

/-- The page loop lists the ledger down to the floor. -/
theorem Pages.complete {rest : List (DiscoveredSignature Signature)}
    (run : Pages address floor minimumContext before listing trace final reached)
    (replicas : Replicas ledger contextOf trace)
    (split : ledger.listing address (contextOf address) = listing.signatures ++ rest)
    (resumes : olderThan before (ledger.listing address (contextOf address)) = rest) :
    ∃ older, ledger.listing address (contextOf address) = final.signatures ++ older ∧
      ∀ discovered ∈ older, discovered.slot ≤ floor := by
  have page_eq : ∀ {before : Option Signature} {page : List SignatureInfo}
      {trace : List (CallEvent Signature)} {rest : List (DiscoveredSignature Signature)},
      Replicas ledger contextOf trace → pageEvent address before minimumContext page ∈ trace →
      olderThan before (ledger.listing address (contextOf address)) = rest →
      page = (rest.take signaturePageLimit).map infoOf := by
    intro before page trace rest replicas event resumes
    rw [(replicas address before signaturePageLimit minimumContext page event).2, pageOf, resumes]
  induction run generalizing rest with
  | exhausted =>
      have page := page_eq replicas (List.mem_singleton.mpr rfl) resumes
      have empty : rest = [] := by simpa [signaturePageLimit] using page.symm
      exact ⟨[], by rw [split, empty], by simp⟩
  | @floor before listing final page appended =>
      rw [page_eq replicas (List.mem_singleton.mpr rfl) resumes] at appended
      obtain ⟨taken, later, entries, signatures, floorReached, _⟩ :=
        appendSignaturePage_infoOf appended
      obtain ⟨lowest, tail, rfl, low⟩ := floorReached rfl
      have cut : rest = taken ++ lowest :: tail ++ rest.drop signaturePageLimit := by
        rw [← entries, List.take_append_drop]
      have whole : ledger.listing address (contextOf address) =
          final.signatures ++ lowest :: (tail ++ rest.drop signaturePageLimit) := by
        rw [split, signatures]
        conv_lhs => rw [cut]
        simp
      refine ⟨_, whole, fun discovered member => ?_⟩
      have sorted := ledger.newestFirst address (contextOf address)
      rw [whole] at sorted
      have older := (List.pairwise_cons.mp (List.pairwise_append.mp sorted).2.1).1
      rcases List.mem_cons.mp member with rfl | member
      · exact low
      · exact (older discovered member).trans low
  | last nonempty appended short =>
      rw [page_eq replicas (List.mem_singleton.mpr rfl) resumes] at appended short
      obtain ⟨taken, later, entries, signatures, _, whole⟩ := appendSignaturePage_infoOf appended
      rw [whole rfl, List.append_nil] at entries
      have short : rest.length < signaturePageLimit := by simpa using short
      rw [List.take_of_length_le (Nat.le_of_lt short)] at entries
      exact ⟨[], by rw [split, signatures, entries, List.append_nil], by simp⟩
  | @more before listing middle final page pageEnd trace reached appended full ending restPages ih =>
      rw [page_eq replicas List.mem_cons_self resumes] at appended
      obtain ⟨taken, later, entries, signatures, _, whole⟩ := appendSignaturePage_infoOf appended
      rw [whole rfl, List.append_nil] at entries
      have remaining : ledger.listing address (contextOf address) =
          middle.signatures ++ rest.drop signaturePageLimit := by
        rw [split, signatures, ← entries, List.append_assoc, List.take_append_drop]
      refine ih (replicas.mono (by simp +contextual)) remaining ?_
      obtain ⟨earlier, same⟩ := List.getLast?_eq_some_iff.mp ending
      have distinct := ledger.distinct address (contextOf address)
      rw [remaining, same, List.append_assoc, List.singleton_append] at distinct ⊢
      exact olderThan_append distinct

/-- A batch contains every transaction of its address between the floor and
the slot its replica has reached. -/
theorem Batched.complete {headSlot replayWindowSlots : Slot}
    {cursors : ExtTreeMap Address AddressCursor} {batch : AddressBatch Signature}
    {cursor : AddressCursor} {listing : Listing Signature} {signature : Signature}
    (batched : Batched headSlot replayWindowSlots cursors trace batch cursor listing)
    (replicas : Replicas ledger contextOf trace)
    (mentioned : ledger.mentions signature batch.address)
    (seen : ledger.slotOf signature ≤ contextOf batch.address)
    (above : cursor.scannedSlot - replayWindowSlots < ledger.slotOf signature) :
    { signature, slot := ledger.slotOf signature } ∈ batch.signatures := by
  obtain ⟨first, segment, last, rfl, pages⟩ := batched.listed
  obtain ⟨older, split, low⟩ := pages.complete (replicas.mono (by simp +contextual)) rfl rfl
  have member := (ledger.mem_listing batch.address (contextOf batch.address)
    { signature, slot := ledger.slotOf signature }).mpr ⟨mentioned, rfl, seen⟩
  rw [split] at member
  rw [batched.signatures_eq]
  rcases List.mem_append.mp member with member | member
  · exact member
  · exact absurd (low _ member) (Nat.not_le_of_lt above)

/-- What a batch contains is on the ledger, and its replica has seen it. -/
theorem Batched.sound {headSlot replayWindowSlots : Slot}
    {cursors : ExtTreeMap Address AddressCursor} {batch : AddressBatch Signature}
    {cursor : AddressCursor} {listing : Listing Signature}
    {discovered : DiscoveredSignature Signature}
    (batched : Batched headSlot replayWindowSlots cursors trace batch cursor listing)
    (replicas : Replicas ledger contextOf trace) (member : discovered ∈ batch.signatures) :
    ledger.mentions discovered.signature batch.address ∧
      discovered.slot = ledger.slotOf discovered.signature ∧
      discovered.slot ≤ contextOf batch.address := by
  obtain ⟨first, segment, last, rfl, pages⟩ := batched.listed
  obtain ⟨older, split, _⟩ := pages.complete (replicas.mono (by simp +contextual)) rfl rfl
  rw [batched.signatures_eq] at member
  rw [← ledger.mem_listing, split]
  exact List.mem_append_left _ member

/-- The replica of a listed address has reached the slot its request asked for. -/
theorem Batched.minimumContext_le {headSlot replayWindowSlots : Slot}
    {cursors : ExtTreeMap Address AddressCursor} {batch : AddressBatch Signature}
    {cursor : AddressCursor} {listing : Listing Signature}
    (batched : Batched headSlot replayWindowSlots cursors trace batch cursor listing)
    (replicas : Replicas ledger contextOf trace) :
    minContextSlot headSlot replayWindowSlots ≤ contextOf batch.address := by
  obtain ⟨first, segment, last, rfl, pages⟩ := batched.listed
  obtain ⟨before, page, member⟩ := pages.requested
  refine (replicas batch.address before signaturePageLimit _ page ?_).1
  exact List.mem_append_left _ (List.mem_append_right _ member)

end Microscope.Polling
