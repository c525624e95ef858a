import Mathlib.Data.List.Basic

namespace Microscope.Data

/-! # JSON values -/

abbrev Bytes := List UInt8

inductive Json where
  | null
  | bool (value : Bool)
  | number (value : Nat)
  /-- A negative number or one with a fraction or an exponent. -/
  | otherNumber (text : String)
  | string (value : String)
  | array (elements : List Json)
  | object (entries : List (String × Json))

namespace Json

def ofStrings (values : List String) : Json :=
  .array (values.map .string)

/-- An unsigned integer of at most the given value. -/
def toUnsigned (maximum : Nat) : Json → Option Nat
  | .number value => if value ≤ maximum then some value else none
  | _ => none

def isNumber : Json → Bool
  | .number _ | .otherNumber _ => true
  | _ => false

def toText : Json → Option String
  | .string value => some value
  | _ => none

def toArray : Json → Option (List Json)
  | .array elements => some elements
  | _ => none

def toStrings : Json → Option (List String)
  | .array elements => elements.mapM toText
  | _ => none

/-- The field of an object, null where there is none. -/
def field (value : Json) (name : String) : Json :=
  match value with
  | .object entries => (entries.lookup name).getD .null
  | _ => .null

/-- The elements of an array, none where it is no array. -/
def elements (value : Json) : List Json := value.toArray.getD []

/-- Set the field of an object. -/
def set (value : Json) (name : String) (entry : Json) : Json :=
  match value with
  | .object entries => .object (entries.filter (·.1 ≠ name) ++ [(name, entry)])
  | other => other

end Json

theorem mem_of_lookup {α β : Type} [DecidableEq α] {entries : List (α × β)} {name : α} {value : β}
    (found : entries.lookup name = some value) : (name, value) ∈ entries := by
  obtain ⟨_, _, split, _⟩ := List.lookup_eq_some_iff.mp found
  rw [split]
  simp

/-- An association list with distinct names has every entry. -/
theorem lookup_of_mem {α β : Type} [DecidableEq α] {entries : List (α × β)} {entry : α × β}
    (distinct : (entries.map Prod.fst).Nodup) (listed : entry ∈ entries) :
    entries.lookup entry.1 = some entry.2 := by
  induction entries with
  | nil => contradiction
  | cons first rest ih =>
      obtain ⟨fresh, others⟩ := List.nodup_cons.mp distinct
      rw [List.lookup_cons]
      rcases List.mem_cons.mp listed with rfl | listed
      · simp
      · have different : (entry.1 == first.1) = false := by
          rw [beq_eq_false_iff_ne]
          intro same
          exact fresh (same ▸ List.mem_map_of_mem listed)
        rw [different]
        exact ih others listed

theorem field_set_self (entries : List (String × Json)) (name : String) (entry : Json) :
    ((Json.object entries).set name entry).field name = entry := by
  have absent : (entries.filter (·.1 ≠ name)).lookup name = none := by
    rw [List.lookup_eq_none_iff]
    intro other listed
    have different := (List.mem_filter.mp listed).2
    rw [bne_iff_ne]
    exact fun same => (of_decide_eq_true different) same.symm
  simp only [Json.set, Json.field, List.lookup_append, absent]
  simp

theorem field_set_of_ne (value : Json) {name other : String} (entry : Json) (different : other ≠ name) :
    (value.set name entry).field other = value.field other := by
  cases value with
  | object entries =>
      have kept : (entries.filter (·.1 ≠ name)).lookup other = entries.lookup other := by
        induction entries with
        | nil => rfl
        | cons first rest ih =>
            by_cases same : first.1 = name
            · have apart : (other == first.1) = false := by
                rw [beq_eq_false_iff_ne, same]
                exact different
              rw [List.filter_cons_of_neg (by simpa using same), ih, List.lookup_cons, apart]
            · rw [List.filter_cons_of_pos (by simpa using same), List.lookup_cons, List.lookup_cons, ih]
      have apart : (other == name) = false := beq_eq_false_iff_ne.mpr different
      simp only [Json.set, Json.field, List.lookup_append, kept]
      simp [List.lookup_cons, apart]
  | _ => rfl

theorem toStrings_ofStrings (values : List String) : (Json.ofStrings values).toStrings = some values := by
  simp only [Json.ofStrings, Json.toStrings]
  induction values with
  | nil => rfl
  | cons value rest ih => simp [List.mapM_cons, Json.toText, ih]

end Microscope.Data
