import Mathlib.Data.Finset.Card
import Mathlib.Data.List.DropRight

namespace Microscope.Events

/-! # The recent transactions

`EventProcessor` counts a transaction once, by its last `RECENT_SIGNATURE_CAPACITY`
signatures.
-/

/-! ## The last elements of a list -/

section LastElements

variable {α : Type} {list : List α} {count : Nat} {element : α}

theorem length_rtake : (list.rtake count).length = min count list.length := by
  rw [List.rtake, List.length_drop]
  omega

/-- Appending an element to a list appends it to the last ones, and drops the
first of these where they are too many. -/
theorem rtake_concat : (list ++ [element]).rtake count =
    (list.rtake count ++ [element]).drop ((list.rtake count).length + 1 - count) := by
  have length := @length_rtake _ list count
  have room : list.length - (list.length - count) = min count list.length := by omega
  rw [length, List.rtake, List.rtake, List.length_append, List.length_singleton]
  by_cases full : count ≤ list.length
  · cases count with
    | zero => simp
    | succ count =>
        have start : list.length + 1 - (count + 1) = list.length - (count + 1) + 1 := by omega
        have one : min (count + 1) list.length + 1 - (count + 1) = 1 := by omega
        rw [one, List.drop_append_of_le_length (by omega), start,
          List.drop_append_of_le_length (by rw [List.length_drop]; omega), List.drop_drop]
  · have start : list.length + 1 - count = 0 := by omega
    have before : list.length - count = 0 := by omega
    have none : min count list.length + 1 - count = 0 := by omega
    rw [start, before, none, List.drop_zero, List.drop_zero, List.drop_zero]

end LastElements

/-! ## Remembering -/

def recentSignatureCapacity : Nat := 4096

structure EventProcessor (Signature : Type) where
  recentSignatures : Finset Signature := ∅
  signatureOrder : List Signature := []

namespace EventProcessor

section Remembering

variable {Signature : Type} {capacity : Nat} {processor : EventProcessor Signature} {accepted : List Signature}
  {signature : Signature}

/-- The order lists the last accepted signatures, each once, and the set has
the same. -/
structure Window (capacity : Nat) (processor : EventProcessor Signature) (accepted : List Signature) : Prop where
  order : processor.signatureOrder = accepted.rtake capacity
  distinct : processor.signatureOrder.Nodup
  members : ∀ signature, signature ∈ processor.recentSignatures ↔ signature ∈ processor.signatureOrder

theorem Window.fresh : Window capacity ({} : EventProcessor Signature) [] where
  order := List.rtake_nil capacity |>.symm
  distinct := List.nodup_nil
  members := by simp

theorem Window.length_le (window : Window capacity processor accepted) :
    processor.signatureOrder.length ≤ capacity := by
  have length := @length_rtake _ accepted capacity
  rw [window.order, length]
  omega

variable [DecidableEq Signature]

/-- `remember_transaction`, with `capacity` as its `RECENT_SIGNATURE_CAPACITY`. -/
def rememberTransaction (capacity : Nat) (processor : EventProcessor Signature) (signature : Signature) :
    Bool × EventProcessor Signature :=
  if signature ∈ processor.recentSignatures then (false, processor)
  else
    let recentSignatures := insert signature processor.recentSignatures
    let signatureOrder := processor.signatureOrder ++ [signature]
    if signatureOrder.length > capacity then
      match signatureOrder with
      | expired :: remaining =>
          (true, { recentSignatures := recentSignatures.erase expired, signatureOrder := remaining })
      | [] => (true, { recentSignatures, signatureOrder })
    else (true, { recentSignatures, signatureOrder })

/-- The processor after a sequence of calls, and the signatures for which a call
returned true. -/
def remember (capacity : Nat) (run : EventProcessor Signature × List Signature) (signature : Signature) :
    EventProcessor Signature × List Signature :=
  match rememberTransaction capacity run.1 signature with
  | (true, processor) => (processor, run.2 ++ [signature])
  | (false, processor) => (processor, run.2)

def rememberAll (capacity : Nat) (signatures : List Signature) : EventProcessor Signature × List Signature :=
  signatures.foldl (remember capacity) ({}, [])

theorem rememberTransaction_known (known : signature ∈ processor.recentSignatures) :
    rememberTransaction capacity processor signature = (false, processor) := by
  rw [rememberTransaction, if_pos known]

/-- A call that accepts the signature slides the window by it. -/
theorem Window.accept (window : Window capacity processor accepted)
    (unknown : signature ∉ processor.recentSignatures) :
    (rememberTransaction capacity processor signature).1 = true ∧
      Window capacity (rememberTransaction capacity processor signature).2 (accepted ++ [signature]) := by
  have absent : signature ∉ processor.signatureOrder := fun member =>
    unknown ((window.members signature).mpr member)
  have distinct : (processor.signatureOrder ++ [signature]).Nodup := by
    rw [List.nodup_append_comm]
    exact List.nodup_cons.mpr ⟨absent, window.distinct⟩
  have slid : (accepted ++ [signature]).rtake capacity =
      (processor.signatureOrder ++ [signature]).drop (processor.signatureOrder.length + 1 - capacity) := by
    rw [rtake_concat, ← window.order]
  have bound := window.length_le
  rw [rememberTransaction, if_neg unknown]
  dsimp only
  split
  · rename_i exceeds
    rw [List.length_append, List.length_singleton] at exceeds
    have one : processor.signatureOrder.length + 1 - capacity = 1 := by omega
    rw [one] at slid
    cases order : processor.signatureOrder ++ [signature] with
    | nil => simp at order
    | cons expired remaining =>
        rw [order] at distinct slid
        have gone := (List.nodup_cons.mp distinct).1
        exact ⟨rfl, {
          order := slid.symm
          distinct := (List.nodup_cons.mp distinct).2
          members := by
            intro other
            have member : other ∈ processor.signatureOrder ++ [signature] ↔ other ∈ expired :: remaining := by
              rw [order]
            rw [List.mem_append, List.mem_singleton, List.mem_cons] at member
            rw [Finset.mem_erase, Finset.mem_insert, window.members]
            grind }⟩
  · rename_i within
    rw [List.length_append, List.length_singleton] at within
    have none : processor.signatureOrder.length + 1 - capacity = 0 := by omega
    rw [none] at slid
    exact ⟨rfl, {
      order := slid.symm
      distinct := distinct
      members := by
        intro other
        rw [Finset.mem_insert, window.members, List.mem_append, List.mem_singleton]
        exact or_comm }⟩

theorem Window.remember {run : EventProcessor Signature × List Signature} (window : Window capacity run.1 run.2)
    (signature : Signature) :
    Window capacity (EventProcessor.remember capacity run signature).1
      (EventProcessor.remember capacity run signature).2 := by
  unfold EventProcessor.remember
  by_cases known : signature ∈ run.1.recentSignatures
  · rw [rememberTransaction_known known]
    exact window
  · obtain ⟨answered, slid⟩ := window.accept known
    cases call : rememberTransaction capacity run.1 signature with
    | mk answer processor =>
        rw [call] at answered slid
        cases answered
        exact slid

theorem rememberAll_window (capacity : Nat) (signatures : List Signature) :
    Window capacity (rememberAll capacity signatures).1 (rememberAll capacity signatures).2 := by
  induction signatures using List.reverseRecOn with
  | nil => exact Window.fresh
  | append_singleton signatures signature window =>
      rw [rememberAll, List.foldl_append, List.foldl_cons, List.foldl_nil]
      exact window.remember signature

/-- A call accepts a signature exactly when it is not among the last accepted
ones, and these are what the processor keeps after every call. -/
theorem recent_window_exact (capacity : Nat) (earlier : List Signature) (signature : Signature) :
    let processor := (rememberAll capacity earlier).1
    let accepted := (rememberAll capacity earlier).2
    ((rememberTransaction capacity processor signature).1 = true ↔ signature ∉ accepted.rtake capacity) ∧
      processor.signatureOrder.Nodup ∧ processor.signatureOrder.length ≤ capacity ∧
        processor.signatureOrder = accepted.rtake capacity ∧
          ∀ other, other ∈ processor.recentSignatures ↔ other ∈ accepted.rtake capacity := by
  intro processor accepted
  have window : Window capacity processor accepted := rememberAll_window capacity earlier
  have members : ∀ other, other ∈ processor.recentSignatures ↔ other ∈ accepted.rtake capacity := by
    intro other
    rw [window.members, window.order]
  have answer : (rememberTransaction capacity processor signature).1 = true ↔
      signature ∉ processor.recentSignatures := by
    constructor
    · intro accepts known
      rw [rememberTransaction_known known] at accepts
      contradiction
    · intro unknown
      exact (window.accept unknown).1
  exact ⟨answer.trans (not_congr (members signature)), window.distinct, window.length_le, window.order, members⟩

theorem remember_accepted {run : EventProcessor Signature × List Signature}
    (window : Window capacity run.1 run.2) (signature : Signature) :
    (remember capacity run signature).2 =
      if signature ∈ run.2.rtake capacity then run.2 else run.2 ++ [signature] := by
  rw [← window.order, EventProcessor.remember]
  by_cases known : signature ∈ run.1.recentSignatures
  · rw [rememberTransaction_known known, if_pos ((window.members signature).mp known)]
  · obtain ⟨answered, _⟩ := window.accept known
    rw [if_neg fun member => known ((window.members signature).mpr member)]
    cases call : rememberTransaction capacity run.1 signature with
    | mk answer processor =>
        rw [call] at answered
        cases answered
        rfl

/-- Of no more transactions than the processor remembers, each is counted once. -/
theorem transactions_counted_once (signatures : List Signature)
    (few : signatures.toFinset.card ≤ recentSignatureCapacity) :
    (rememberAll recentSignatureCapacity signatures).2.Nodup ∧
      ∀ signature, signature ∈ (rememberAll recentSignatureCapacity signatures).2 ↔ signature ∈ signatures := by
  induction signatures using List.reverseRecOn with
  | nil => exact ⟨List.nodup_nil, fun _ => Iff.rfl⟩
  | append_singleton signatures signature ih =>
      have fewer : signatures.toFinset ⊆ (signatures ++ [signature]).toFinset := by
        rw [List.toFinset_append]
        exact Finset.subset_union_left
      obtain ⟨distinct, members⟩ := ih ((Finset.card_le_card fewer).trans few)
      have window := rememberAll_window recentSignatureCapacity signatures
      have same : (rememberAll recentSignatureCapacity signatures).2.toFinset = signatures.toFinset := by
        ext other
        rw [List.mem_toFinset, List.mem_toFinset, members]
      have length := List.toFinset_card_of_nodup distinct
      have bound := (Finset.card_le_card fewer).trans few
      have whole : (rememberAll recentSignatureCapacity signatures).2.rtake recentSignatureCapacity =
          (rememberAll recentSignatureCapacity signatures).2 := by
        rw [same] at length
        have start : (rememberAll recentSignatureCapacity signatures).2.length - recentSignatureCapacity = 0 := by
          omega
        rw [List.rtake, start, List.drop_zero]
      rw [rememberAll, List.foldl_append, List.foldl_cons, List.foldl_nil, ← rememberAll,
        remember_accepted window, whole]
      split
      · rename_i known
        refine ⟨distinct, fun other => ?_⟩
        rw [members, List.mem_append, List.mem_singleton]
        have listed := (members signature).mp known
        grind
      · rename_i unknown
        have apart : (signature :: (rememberAll recentSignatureCapacity signatures).2).Nodup :=
          List.nodup_cons.mpr ⟨unknown, distinct⟩
        refine ⟨List.nodup_append_comm.mp apart, fun other => ?_⟩
        rw [List.mem_append, List.mem_append, members]

end Remembering

end EventProcessor

end Microscope.Events
