import Microscope.Shipped.Contents

namespace Microscope.Shipped

open Std Microscope.Data

/-! # Processes that share a journal

One process after another works on the journal file, each for the deployment
target it is configured for.  A process records transactions before it knows
its identity, and may end before it does.
-/

/-- The text that names the cluster, the program and the addresses. -/
structure Identity where
  text : String
  oneLine : OneLine text.toList
deriving DecidableEq

/-- What a process does with the journal; it passes its own identity. -/
inductive Operation (Signature : Type) where
  | record (signature : Signature) (slot : Slot) (slot_le : slot ≤ u64Max)
  | restore
  | discard
  | compact (minimumSlot : Slot)

structure Lifetime (Signature : Type) where
  identity : Identity
  operations : List (Operation Signature)

variable {Signature : Type}

/-- The identity is known from here on. -/
def Operation.learns : Operation Signature → Bool
  | .restore => true
  | .discard => true
  | _ => false

def RecordsIn (operations : List (Operation Signature)) (entry : Signature × Slot) : Prop :=
  ∃ slot_le, .record entry.1 entry.2 slot_le ∈ operations

/-- One of these processes recorded the entry for the identity. -/
def RecordedFor (lifetimes : List (Lifetime Signature)) (identity : String) (entry : Signature × Slot) :
    Prop :=
  ∃ lifetime ∈ lifetimes, lifetime.identity.text = identity ∧ RecordsIn lifetime.operations entry

/-- The entry was recorded for the identity before, or by the current process. -/
def Known (lifetimes : List (Lifetime Signature)) (identity : String)
    (done : List (Operation Signature)) (entry : Signature × Slot) : Prop :=
  RecordedFor lifetimes identity entry ∨ RecordsIn done entry

variable {lifetimes : List (Lifetime Signature)} {identity : Identity} {header : Option String}
  {done : List (Operation Signature)} {operation : Operation Signature} {entry : Signature × Slot}

theorem Known.append {name : String} {later : List (Operation Signature)}
    (known : Known lifetimes name done entry) : Known lifetimes name (done ++ later) entry :=
  known.imp_right fun ⟨slot_le, member⟩ => ⟨slot_le, List.mem_append_left _ member⟩

theorem Known.last {name : String} (records : RecordsIn [operation] entry) :
    Known lifetimes name (done ++ [operation]) entry :=
  let ⟨slot_le, member⟩ := records
  .inr ⟨slot_le, List.mem_append_right _ member⟩

theorem Known.recordedFor {lifetime : Lifetime Signature}
    (known : Known lifetimes lifetime.identity.text lifetime.operations entry) :
    RecordedFor (lifetimes ++ [lifetime]) lifetime.identity.text entry := by
  rcases known with ⟨earlier, member, named, records⟩ | records
  · exact ⟨earlier, List.mem_append_left _ member, named, records⟩
  · exact ⟨lifetime, by simp, rfl, records⟩

/-! ## Before and after the identity is known -/

variable [LinearOrder Signature] {journal next : Journal Signature}

/-- A process that does not know its identity has left the header alone, and
appended its own entries under it. -/
structure Unnamed (lifetimes : List (Lifetime Signature)) (header : Option String)
    (done : List (Operation Signature)) (journal : Journal Signature) (contents : Contents Signature) :
    Prop where
  unknown : journal.state.identity = none
  unlearned : ∀ operation ∈ done, operation.learns = false
  kept : contents.header = header
  entries : ∀ name ∈ header, ∀ entry ∈ contents.entries, Known lifetimes name done entry

/-- A process that knows its identity keeps entries of that identity only. -/
structure Named (lifetimes : List (Lifetime Signature)) (identity : Identity)
    (done : List (Operation Signature)) (journal : Journal Signature)
    (contents : Option (Contents Signature)) : Prop where
  known : journal.state.identity = some identity.text
  stamped : ∀ written ∈ contents, written.header = some identity.text
  opened : journal.state.isOpen = true → contents.isSome
  entries : ∀ written ∈ contents, ∀ entry ∈ written.entries, Known lifetimes identity.text done entry

theorem Unnamed.step {written later : Contents Signature}
    (unnamed : Unnamed lifetimes header done journal written) (quiet : operation.learns = false)
    (unknown : next.state.identity = journal.state.identity) (kept : later.header = written.header)
    (entries : ∀ entry ∈ later.entries, entry ∈ written.entries ∨ RecordsIn [operation] entry) :
    Unnamed lifetimes header (done ++ [operation]) next later where
  unknown := unknown.trans unnamed.unknown
  unlearned := by
    intro other member
    rcases List.mem_append.mp member with member | member
    · exact unnamed.unlearned other member
    · rwa [List.mem_singleton.mp member]
  kept := kept.trans unnamed.kept
  entries := by
    intro name named entry member
    rcases entries entry member with member | records
    · exact (unnamed.entries name named entry member).append
    · exact .last records

theorem Named.step {contents later : Option (Contents Signature)}
    (named : Named lifetimes identity done journal contents)
    (known : next.state.identity = journal.state.identity)
    (stamped : ∀ written ∈ later, written.header = some identity.text)
    (opened : next.state.isOpen = true → later.isSome)
    (entries : ∀ written ∈ later, ∀ entry ∈ written.entries,
      (∃ earlier ∈ contents, entry ∈ earlier.entries) ∨ RecordsIn [operation] entry) :
    Named lifetimes identity (done ++ [operation]) next later where
  known := known.trans named.known
  stamped := stamped
  opened := opened
  entries := by
    intro written found entry member
    rcases entries written found entry member with ⟨earlier, existed, member⟩ | records
    · exact (named.entries earlier existed entry member).append
    · exact .last records

/-- A process that purged the journal has learned its identity. -/
theorem named_none (known : next.state.identity = some identity.text)
    (closed : next.state.isOpen = false) : Named lifetimes identity done next none where
  known := known
  stamped := by simp
  opened := by simp [closed]
  entries := by simp

/-- Whichever state the process was in, the entries under its own name are its
target's. -/
theorem entries_known {written : Contents Signature}
    (state : Unnamed lifetimes header done journal written ∨
      Named lifetimes identity done journal (some written))
    (named : written.header = some identity.text) (member : entry ∈ written.entries) :
    Known lifetimes identity.text done entry := by
  rcases state with unnamed | known
  · exact unnamed.entries _ (unnamed.kept.symm.trans named) entry member
  · exact known.entries written rfl entry member

/-! ## Running a process -/

variable [SignatureText Signature]

/-- One operation of a process, and the entries a restore returns. -/
def Journal.perform (identity : Identity) (journal : Journal Signature) :
    Operation Signature → Option (List (Signature × Slot)) × Journal Signature
  | .record signature slot _ => (none, journal.record noFaults signature slot)
  | .restore =>
      let (entries, journal) := journal.restore noFaults identity.text
      (some entries, journal)
  | .discard => (none, journal.discard noFaults identity.text)
  | .compact minimumSlot => (none, journal.compact noFaults minimumSlot)

/-- The entries returned by the restores among the operations, and the journal
they end with. -/
def Journal.performAll (identity : Identity) :
    Journal Signature → List (Operation Signature) → List (List (Signature × Slot)) × Journal Signature
  | journal, [] => ([], journal)
  | journal, operation :: rest =>
      let (returned, middle) := journal.perform identity operation
      let (later, final) := middle.performAll identity rest
      (returned.toList ++ later, final)

/-- A process starts with the file as the one before left it. -/
def Lifetime.run (lifetime : Lifetime Signature) (file : Option (List Char)) :
    List (List (Signature × Slot)) × Journal Signature :=
  ({ file } : Journal Signature).performAll lifetime.identity lifetime.operations

/-- The file after these processes, the first of which found none. -/
def fileAfter (lifetimes : List (Lifetime Signature)) : Option (List Char) :=
  lifetimes.foldl (fun file lifetime => (lifetime.run file).2.file) none

variable {contents : Option (Contents Signature)}

/-- A signature is appended unless it is known to be written. -/
theorem record_cases (contains : journal.Contains contents) {signature : Signature} {slot : Slot}
    (small : slot ≤ u64Max) : journal.record noFaults signature slot = journal ∨
    ((journal.record noFaults signature slot).Contains (some ((contents.getD {}).append
        journal.state.isOpen journal.state.identity (signature, slot))) ∧
      (journal.record noFaults signature slot).state.identity = journal.state.identity) := by
  unfold Journal.record
  split
  · exact .inl rfl
  · have marked : (journal.mark signature).Contains contents :=
      ⟨contains.file, contains.typed, contains.identity⟩
    have appending : ∃ next, (journal.mark signature).append noFaults signature slot = (.ok (), next) ∧
        next.state = { (journal.mark signature).state with isOpen := true } ∧
        next.Contains (some ((contents.getD {}).append journal.state.isOpen journal.state.identity
          (signature, slot))) := marked.append small
    obtain ⟨next, appended, state, holds⟩ := appending
    rw [appended]
    exact .inr ⟨holds, by rw [state]; rfl⟩

/-- What holds while a process runs. -/
def Within (lifetimes : List (Lifetime Signature)) (identity : Identity) (header : Option String)
    (done : List (Operation Signature)) (journal : Journal Signature) : Prop :=
  ∃ contents, journal.Contains contents ∧
    (Unnamed lifetimes header done journal (contents.getD {}) ∨
      Named lifetimes identity done journal contents)

theorem Within.record {signature : Signature} {slot : Slot} {slot_le : slot ≤ u64Max}
    (within : Within lifetimes identity header done journal) :
    Within lifetimes identity header (done ++ [.record signature slot slot_le])
      (journal.record noFaults signature slot) := by
  obtain ⟨contents, contains, state⟩ := within
  have recorded : RecordsIn [.record signature slot slot_le] (signature, slot) :=
    ⟨slot_le, List.mem_singleton.mpr rfl⟩
  rcases record_cases contains slot_le with same | ⟨appended, sameIdentity⟩
  · rw [same]
    refine ⟨contents, contains, ?_⟩
    rcases state with unnamed | named
    · exact .inl (unnamed.step rfl rfl rfl fun entry member => .inl member)
    · exact .inr (named.step rfl named.stamped named.opened
        fun written found entry member => .inl ⟨written, found, member⟩)
  · refine ⟨_, appended, ?_⟩
    rcases state with unnamed | named
    · refine .inl (unnamed.step rfl sameIdentity ?_ ?_)
      · simp only [Option.getD_some, Contents.append, unnamed.unknown]
        split
        · rename_i empty
          simp only [Bool.and_eq_true, Option.isNone_iff_eq_none] at empty
          exact empty.1.2.symm
        · rfl
      · intro entry member
        rcases List.mem_append.mp member with member | member
        · exact .inl member
        · rw [List.mem_singleton.mp member]
          exact .inr recorded
    · refine .inr (named.step sameIdentity ?_ (fun _ => rfl) ?_)
      · intro written found
        cases found
        cases existing : contents with
        | none =>
            have closed : journal.state.isOpen = false := by
              have opened := named.opened
              cases isOpen : journal.state.isOpen with
              | false => rfl
              | true => simp [existing, isOpen] at opened
            simp [Contents.append, closed, named.known]
        | some written => simp [Contents.append, named.stamped written existing]
      · intro written found entry member
        cases found
        rcases List.mem_append.mp member with member | member
        · cases existing : contents with
          | none => simp [existing] at member
          | some earlier =>
              rw [existing] at member
              exact .inl ⟨earlier, rfl, member⟩
        · rw [List.mem_singleton.mp member]
          exact .inr recorded

theorem Within.restore {entries : List (Signature × Slot)}
    (within : Within lifetimes identity header done journal)
    (restored : journal.restore noFaults identity.text = (entries, next)) :
    (∀ entry ∈ entries, Known lifetimes identity.text done entry) ∧
      Within lifetimes identity header (done ++ [.restore]) next := by
  obtain ⟨contents, contains, state⟩ := within
  obtain ⟨known, _, kept | dropped⟩ := contains.restore identity.oneLine restored
  · obtain ⟨same, rfl, isOpen, holds⟩ := kept
    cases contents with
    | none => simp at same
    | some written =>
        have mine : ∀ entry ∈ written.entries, Known lifetimes identity.text done entry :=
          fun entry member => entries_known state same member
        refine ⟨mine, some written, holds, .inr ⟨known, ?_, fun _ => rfl, ?_⟩⟩
        · intro other found
          cases found
          exact same
        · intro other found entry member
          cases found
          exact (mine entry member).append
  · obtain ⟨_, rfl, closed, holds⟩ := dropped
    exact ⟨by simp, none, holds, .inr (named_none known closed)⟩

theorem Within.discard (within : Within lifetimes identity header done journal) :
    Within lifetimes identity header (done ++ [.discard]) (journal.discard noFaults identity.text) := by
  obtain ⟨contents, contains, _⟩ := within
  obtain ⟨holds, state⟩ := contains.discard identity.oneLine
  exact ⟨none, holds, .inr (named_none (by rw [state]) (by rw [state]))⟩

theorem Within.compact {minimumSlot : Slot} (within : Within lifetimes identity header done journal) :
    Within lifetimes identity header (done ++ [.compact minimumSlot])
      (journal.compact noFaults minimumSlot) := by
  obtain ⟨contents, contains, state⟩ := within
  obtain ⟨holds, sameIdentity, opened⟩ := contains.compact minimumSlot
  refine ⟨_, holds, ?_⟩
  rcases state with unnamed | named
  · refine .inl (unnamed.step rfl sameIdentity ?_ ?_)
    · cases contents <;> rfl
    · intro entry member
      cases contents with
      | none => exact .inl member
      | some written => exact .inl (List.mem_filter.mp member).1
  · refine .inr (named.step sameIdentity ?_ ?_ ?_)
    · intro later found
      obtain ⟨written, existed, rfl⟩ := Option.map_eq_some_iff.mp found
      exact named.stamped written existed
    · intro isOpen
      rw [Option.isSome_map]
      exact named.opened (opened isOpen)
    · intro later found entry member
      obtain ⟨written, existed, rfl⟩ := Option.map_eq_some_iff.mp found
      exact .inl ⟨written, existed, (List.mem_filter.mp member).1⟩

/-- One operation returns entries of the process's target only, and keeps what
holds while the process runs. -/
theorem Within.perform (within : Within lifetimes identity header done journal)
    (operation : Operation Signature) :
    (∀ entries ∈ (journal.perform identity operation).1, ∀ entry ∈ entries,
      Known lifetimes identity.text done entry) ∧
    Within lifetimes identity header (done ++ [operation]) (journal.perform identity operation).2 := by
  cases operation with
  | record signature slot slot_le => exact ⟨by simp [Journal.perform], within.record⟩
  | restore =>
      obtain ⟨known, later⟩ := within.restore rfl
      refine ⟨?_, later⟩
      intro entries returned
      cases returned
      exact known
  | discard => exact ⟨by simp [Journal.perform], within.discard⟩
  | compact minimumSlot => exact ⟨by simp [Journal.perform], within.compact⟩

theorem Within.performAll (within : Within lifetimes identity header done journal)
    (operations : List (Operation Signature)) :
    (∀ entries ∈ (journal.performAll identity operations).1, ∀ entry ∈ entries,
      Known lifetimes identity.text (done ++ operations) entry) ∧
    Within lifetimes identity header (done ++ operations)
      (journal.performAll identity operations).2 := by
  induction operations generalizing journal done with
  | nil =>
      rw [List.append_nil]
      exact ⟨by simp [Journal.performAll], within⟩
  | cons operation rest ih =>
      obtain ⟨returned, stepped⟩ := within.perform operation
      obtain ⟨later, final⟩ := ih stepped
      rw [List.append_assoc, List.singleton_append] at later final
      refine ⟨?_, final⟩
      intro entries member entry found
      rcases List.mem_append.mp member with member | member
      · exact (returned entries (Option.mem_toList.mp member) entry found).append
      · exact later entries member entry found

/-! ## From one process to the next -/

/-- The process learns its identity, records nothing, or finds a journal that
carries no name or its own. -/
def Lifetime.Settles (lifetime : Lifetime Signature) (file : Option (List Char)) : Prop :=
  (∃ operation ∈ lifetime.operations, operation.learns = true) ∨
    (∀ entry, ¬RecordsIn lifetime.operations entry) ∨
    headerOf file = none ∨ headerOf file = some lifetime.identity.text

/-- The entries under a name were recorded for it. -/
def Owned (lifetimes : List (Lifetime Signature)) (file : Option (List Char)) : Prop :=
  ∃ contents, ({ file } : Journal Signature).Contains contents ∧
    ∀ written ∈ contents, ∀ name ∈ written.header, ∀ entry ∈ written.entries,
      RecordedFor lifetimes name entry

variable {file : Option (List Char)} {lifetime : Lifetime Signature}

theorem Owned.within (owned : Owned lifetimes file) :
    Within lifetimes identity (headerOf file) [] ({ file } : Journal Signature) := by
  obtain ⟨contents, contains, recorded⟩ := owned
  have header : headerOf file = (contents.getD {}).header := contains.headerOf_eq
  refine ⟨contents, contains, .inl ⟨rfl, by simp, header.symm, ?_⟩⟩
  intro name named entry member
  cases contents with
  | none => simp at member
  | some written => exact .inl (recorded written rfl name (header.symm.trans named) entry member)

theorem Owned.run (owned : Owned lifetimes file) (settles : lifetime.Settles file) :
    Owned (lifetimes ++ [lifetime]) (lifetime.run file).2.file := by
  have within : Within lifetimes lifetime.identity (headerOf file) [] { file } := owned.within
  obtain ⟨_, contents, contains, state⟩ := within.performAll lifetime.operations
  rw [List.nil_append] at state
  refine ⟨contents, ⟨contains.file, contains.typed, by simp⟩, ?_⟩
  rintro written rfl name named entry member
  rcases state with unnamed | mine
  · have header : headerOf file = some name := unnamed.kept.symm.trans named
    rcases unnamed.entries name header entry member with recorded | records
    · obtain ⟨earlier, member, recorded⟩ := recorded
      exact ⟨earlier, List.mem_append_left _ member, recorded⟩
    · rcases settles with ⟨operation, performed, learns⟩ | silent | nameless | same
      · have unlearned := unnamed.unlearned operation performed
        rw [learns] at unlearned
        contradiction
      · exact absurd records (silent entry)
      · rw [nameless] at header
        contradiction
      · obtain rfl : lifetime.identity.text = name := Option.some.inj (same.symm.trans header)
        exact ⟨lifetime, by simp, rfl, records⟩
  · have same : lifetime.identity.text = name :=
      Option.some.inj ((mine.stamped written rfl).symm.trans named)
    subst same
    exact (mine.entries written rfl entry member).recordedFor

/-- Each process settles what it does with the journal it finds. -/
def AllSettle (lifetimes : List (Lifetime Signature)) : Prop :=
  ∀ earlier lifetime later, lifetimes = earlier ++ lifetime :: later →
    lifetime.Settles (fileAfter earlier)

theorem AllSettle.owned (settled : AllSettle lifetimes) : Owned lifetimes (fileAfter lifetimes) := by
  induction lifetimes using List.reverseRecOn with
  | nil => exact ⟨none, ⟨rfl, by simp, by simp⟩, by simp⟩
  | append_singleton earlier lifetime ih =>
      have before : AllSettle earlier := by
        intro first middle last split
        exact settled first middle (last ++ [lifetime]) (by simp [split])
      rw [fileAfter, List.foldl_append]
      exact (ih before).run (settled earlier lifetime [] rfl)

/-- The journal suppresses for a target only what was recorded for it, when no
process of another target that never learns its identity records below a name. -/
theorem restored_were_recorded_for (settled : AllSettle lifetimes) :
    ∀ entries ∈ (lifetime.run (fileAfter lifetimes)).1, ∀ entry ∈ entries,
      RecordedFor (lifetimes ++ [lifetime]) lifetime.identity.text entry := by
  intro entries returned entry member
  have within : Within lifetimes lifetime.identity (headerOf (fileAfter lifetimes)) []
    { file := fileAfter lifetimes } := settled.owned.within
  obtain ⟨known, _⟩ := within.performAll lifetime.operations
  rw [List.nil_append] at known
  exact (known entries returned entry member).recordedFor

/-! ## Two targets -/

def mainnet : Identity := ⟨"mainnet program address", by decide⟩

def devnet : Identity := ⟨"devnet program address", by decide⟩

/-- The first start of a target: no checkpoint vouches for the journal. -/
def firstStart : Lifetime (Fin 58) where
  identity := mainnet
  operations := [.discard, .record 1 100 (by decide)]

/-- A start of another target, which never learns the genesis hash. -/
def unidentified : Lifetime (Fin 58) where
  identity := devnet
  operations := [.record 2 200 (by decide)]

def restarted : Lifetime (Fin 58) where
  identity := mainnet
  operations := [.record 3 300 (by decide), .restore]

theorem restored_were_recorded_for_restart :
    (restarted.run (fileAfter [firstStart])).1 = [[(1, 100), (3, 300)]] ∧
      ∀ entries ∈ (restarted.run (fileAfter [firstStart])).1, ∀ entry ∈ entries,
        RecordedFor [firstStart, restarted] mainnet.text entry := by
  refine ⟨by decide +kernel, restored_were_recorded_for ?_⟩
  intro earlier lifetime later split
  cases earlier with
  | nil =>
      cases split
      exact .inl ⟨.discard, by simp [firstStart], rfl⟩
  | cons first rest => simp at split

/-- The entry of the process that never learned its identity is restored for
the target whose name the journal carries. -/
theorem restored_for_another_target :
    ∃ entries ∈ (restarted.run (fileAfter [firstStart, unidentified])).1, ∃ entry ∈ entries,
      ¬RecordedFor [firstStart, unidentified, restarted] restarted.identity.text entry := by
  refine ⟨[(1, 100), (2, 200), (3, 300)], by decide +kernel, (2, 200), by decide, ?_⟩
  rintro ⟨lifetime, member, named, slot_le, records⟩
  have cases : lifetime = firstStart ∨ lifetime = unidentified ∨ lifetime = restarted := by
    simpa using member
  rcases cases with rfl | rfl | rfl
  · simp [firstStart] at records
  · exact absurd named (by decide +kernel)
  · simp [restarted] at records

end Microscope.Shipped
