import Mathlib

namespace Microscope.Data

/-! # Ordered maps

Facts about `Std.ExtTreeMap` and `Std.ExtTreeSet` in the form the development
reads them: lookups after an update, and the least value of a map.
-/

open Std

/-- The keys of maps are compared by their linear orders. -/
instance compareTrans {κ : Type} [LinearOrder κ] : TransCmp (compare : κ → κ → Ordering) := inferInstance

namespace OrderedMap

variable {κ ν : Type} [Ord κ] [TransOrd κ] {map : ExtTreeMap κ ν} {key other : κ} {value : ν}

theorem mem_iff_getElem? : key ∈ map ↔ ∃ value, map[key]? = some value := by
  rw [← ExtTreeMap.isSome_getElem?_iff_mem, Option.isSome_iff_exists]

/-- Insert the entries of a list from left to right. -/
def insertAll (map : ExtTreeMap κ ν) (entries : List (κ × ν)) : ExtTreeMap κ ν :=
  entries.foldl (fun map entry => map.insert entry.1 entry.2) map

@[simp] theorem insertAll_nil : insertAll map [] = map := rfl

@[simp] theorem insertAll_cons {entry : κ × ν} {rest : List (κ × ν)} :
    insertAll map (entry :: rest) = insertAll (map.insert entry.1 entry.2) rest := rfl

theorem insertAll_append {entries more : List (κ × ν)} :
    insertAll map (entries ++ more) = insertAll (insertAll map entries) more := List.foldl_append

variable [LawfulEqOrd κ]

theorem getElem?_insert [DecidableEq κ] :
    (map.insert key value)[other]? = if key = other then some value else map[other]? := by
  grind

theorem getElem?_filter {keep : κ → ν → Bool} :
    (map.filter keep)[key]? = map[key]?.filter (keep key) := by
  grind

/-- The least measure of a value of the map. -/
def least (map : ExtTreeMap κ ν) (measure : ν → Nat) : Option Nat :=
  (map.toList.map fun entry => measure entry.2).min?

variable {measure : ν → Nat} {bound : Nat}

theorem least_eq_some_iff :
    least map measure = some bound ↔
      (∃ (key : κ) (value : ν), map[key]? = some value ∧ measure value = bound) ∧
      ∀ (key : κ) (value : ν), map[key]? = some value → bound ≤ measure value := by
  simp only [least, List.min?_eq_some_iff, List.mem_map, Prod.exists,
    ExtTreeMap.mem_toList_iff_getElem?_eq_some]
  constructor
  · rintro ⟨found, lower⟩
    exact ⟨found, fun key value present => lower _ ⟨key, value, present, rfl⟩⟩
  · rintro ⟨found, lower⟩
    refine ⟨found, ?_⟩
    rintro _ ⟨key, value, present, rfl⟩
    exact lower key value present

theorem least_le (found : least map measure = some bound) (present : map[key]? = some value) :
    bound ≤ measure value :=
  (least_eq_some_iff.mp found).2 key value present

theorem least_eq_none_iff : least map measure = none ↔ ∀ key : κ, map[key]? = none := by
  simp only [least, List.min?_eq_none_iff, List.map_eq_nil_iff]
  constructor
  · intro empty key
    cases found : map[key]? with
    | none => rfl
    | some value =>
        have member := ExtTreeMap.mem_toList_iff_getElem?_eq_some.mpr found
        simp [empty] at member
  · intro absent
    rw [List.eq_nil_iff_forall_not_mem]
    rintro ⟨key, value⟩ member
    have found := ExtTreeMap.mem_toList_iff_getElem?_eq_some.mp member
    simp [absent key] at found

theorem mem_insertAll {entries : List (κ × ν)} :
    key ∈ insertAll map entries ↔ key ∈ map ∨ ∃ value, (key, value) ∈ entries := by
  induction entries generalizing map with
  | nil => simp
  | cons entry rest ih =>
      rw [insertAll_cons, ih, ExtTreeMap.mem_insert, Std.compare_eq_iff_eq]
      constructor
      · rintro ((rfl | present) | ⟨value, member⟩)
        · exact .inr ⟨entry.2, by simp⟩
        · exact .inl present
        · exact .inr ⟨value, by simp [member]⟩
      · rintro (present | ⟨value, member⟩)
        · exact .inl (.inr present)
        · rcases List.mem_cons.mp member with same | member
          · exact .inl (.inl (by rw [← same]))
          · exact .inr ⟨value, member⟩

/-- A value found after inserting a list was inserted or was there before. -/
theorem getElem?_insertAll {entries : List (κ × ν)}
    (found : (insertAll map entries)[key]? = some value) :
    (key, value) ∈ entries ∨ map[key]? = some value := by
  induction entries generalizing map with
  | nil => exact .inr found
  | cons entry rest ih =>
      rcases ih found with member | present
      · exact .inl (by simp [member])
      · rw [ExtTreeMap.getElem?_insert] at present
        split at present
        · rename_i same
          have same := Std.compare_eq_iff_eq.mp same
          cases present
          exact .inl (by rw [← same]; simp)
        · exact .inr present

/-- A key that is inserted is found with a value inserted for it. -/
theorem getElem?_insertAll_of_mem {entries : List (κ × ν)} {inserted : ν}
    (member : (key, inserted) ∈ entries) :
    ∃ value, (insertAll map entries)[key]? = some value ∧ (key, value) ∈ entries := by
  induction entries using List.reverseRecOn with
  | nil => contradiction
  | append_singleton entries entry ih =>
      rw [insertAll_append, insertAll_cons, insertAll_nil, ExtTreeMap.getElem?_insert]
      split
      · rename_i same
        have same := Std.compare_eq_iff_eq.mp same
        exact ⟨entry.2, rfl, by simp [← same]⟩
      · rename_i different
        rcases List.mem_append.mp member with member | member
        · obtain ⟨value, found, earlier⟩ := ih member
          exact ⟨value, found, List.mem_append_left _ earlier⟩
        · rw [← List.mem_singleton.mp member, ReflOrd.compare_self] at different
          contradiction

/-- The last value inserted for a key is the one found. -/
theorem getElem?_insertAll_lookup [DecidableEq κ] {entries : List (κ × ν)} :
    (insertAll map entries)[key]? = (entries.reverse.lookup key).or map[key]? := by
  induction entries using List.reverseRecOn with
  | nil => simp
  | append_singleton entries entry ih =>
      rw [insertAll_append, insertAll_cons, insertAll_nil, getElem?_insert, ih, List.reverse_append]
      by_cases same : entry.1 = key
      · subst same
        simp [List.lookup]
      · have different : (key == entry.1) = false := by simpa using Ne.symm same
        simp [List.lookup, different, same]

theorem getElem?_insertAll_const [DecidableEq κ] {keys : List κ} :
    (insertAll map (keys.map fun key => (key, value)))[other]? =
      if other ∈ keys then some value else map[other]? := by
  induction keys generalizing map with
  | nil => simp
  | cons key rest ih =>
      rw [List.map_cons, insertAll_cons, ih, getElem?_insert]
      by_cases same : key = other
      · simp [same]
      · simp [same, Ne.symm same]

/-- With distinct keys the inserted entries are exactly the entries found. -/
theorem getElem?_insertAll_iff {entries : List (κ × ν)} (nodup : (entries.map Prod.fst).Nodup) :
    (insertAll (∅ : ExtTreeMap κ ν) entries)[key]? = some value ↔ (key, value) ∈ entries := by
  induction entries using List.reverseRecOn with
  | nil => simp
  | append_singleton entries entry ih =>
      rw [List.map_append, List.nodup_append] at nodup
      obtain ⟨earlier, _, fresh⟩ := nodup
      rw [insertAll_append, insertAll_cons, insertAll_nil, ExtTreeMap.getElem?_insert]
      simp only [List.mem_append, List.mem_singleton]
      split
      · rename_i same
        have same := Std.compare_eq_iff_eq.mp same
        constructor
        · intro found
          exact .inr (by rw [← same, ← Option.some.inj found])
        · rintro (member | member)
          · exact absurd same.symm (fresh key (List.mem_map_of_mem member) entry.1 (by simp))
          · rw [← member]
      · rename_i different
        rw [ih earlier]
        constructor
        · exact .inl
        · rintro (member | member)
          · exact member
          · exact absurd (by rw [← member, ReflOrd.compare_self]) different

theorem insertAll_toList : insertAll ∅ map.toList = map := by
  refine ExtTreeMap.ext_getElem? fun key => Option.ext fun value => ?_
  rw [getElem?_insertAll_iff (by rw [ExtTreeMap.map_fst_toList_eq_keys]; exact ExtTreeMap.nodup_keys),
    ExtTreeMap.mem_toList_iff_getElem?_eq_some]

variable {κ' : Type} [Ord κ'] [TransOrd κ'] [LawfulEqOrd κ']

/-- The map with its keys renamed. -/
def mapKeys (rename : κ → κ') (map : ExtTreeMap κ ν) : ExtTreeMap κ' ν :=
  insertAll ∅ (map.toList.map fun entry => (rename entry.1, entry.2))

theorem getElem?_mapKeys_iff {rename : κ → κ'} (injective : Function.Injective rename) {key : κ'} :
    (mapKeys rename map)[key]? = some value ↔ ∃ source, rename source = key ∧ map[source]? = some value := by
  have nodup : ((map.toList.map fun entry => (rename entry.1, entry.2)).map Prod.fst).Nodup := by
    rw [List.map_map, show (Prod.fst ∘ fun entry : κ × ν => (rename entry.1, entry.2)) =
      rename ∘ Prod.fst from rfl, ← List.map_map, ExtTreeMap.map_fst_toList_eq_keys]
    exact ExtTreeMap.nodup_keys.map injective
  rw [mapKeys, getElem?_insertAll_iff nodup]
  simp only [List.mem_map, Prod.mk.injEq, Prod.exists, ExtTreeMap.mem_toList_iff_getElem?_eq_some]
  constructor
  · rintro ⟨source, _, found, same, rfl⟩
    exact ⟨source, same, found⟩
  · rintro ⟨source, same, found⟩
    exact ⟨source, value, found, same, rfl⟩

end OrderedMap

end Microscope.Data
