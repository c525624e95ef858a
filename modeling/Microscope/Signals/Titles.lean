import Microscope.Signals.Emission

namespace Microscope.Signals

/-! # Title case

`str::to_title_case` of `heck`, on ASCII text.
-/

def titleWord : List Char → List Char
  | [] => []
  | character :: rest => character.toUpper :: rest.map Char.toLower

/-- `str::to_title_case`. -/
def toTitleCase (text : String) : String :=
  String.ofList (List.intercalate [' '] ((words asciiTables text.toList).map titleWord))

example : ["amount", "feePayer", "HTTPServer2x", "old_authority", "__"].map toTitleCase =
    ["Amount", "Fee Payer", "Http Server2x", "Old Authority", ""] := by decide +kernel

section Titles

variable {character : Char} {word rest text : List Char} {mode : WordMode}

theorem of_mem_splitOnP {separates : Char → Bool} {segment : List Char}
    (listed : segment ∈ text.splitOnP separates) (member : character ∈ segment) :
    separates character = false := by
  induction text generalizing segment with
  | nil =>
      rw [List.splitOnP_nil, List.mem_singleton] at listed
      rw [listed] at member
      contradiction
  | cons first text ih =>
      rw [List.splitOnP_cons_eq_if_modifyHead] at listed
      split at listed
      · rcases List.mem_cons.mp listed with rfl | listed
        · contradiction
        · exact ih listed member
      · rename_i apart
        cases segments : text.splitOnP separates with
        | nil => simp [segments] at listed
        | cons head tail =>
            rw [segments, List.modifyHead_cons] at listed
            rcases List.mem_cons.mp listed with rfl | listed
            · rcases List.mem_cons.mp member with rfl | member
              · exact Bool.not_eq_true _ ▸ apart
              · exact ih (segments ▸ List.mem_cons_self) member
            · exact ih (segments ▸ List.mem_cons_of_mem _ listed) member

/-- Words have no other characters than their segment. -/
theorem mem_segment {segment : List Char} (listed : word ∈ splitWords asciiTables .boundary [] segment)
    (member : character ∈ word) : character ∈ segment := by
  cases segment with
  | nil => contradiction
  | cons first segment =>
      have flat := splitWords_flatten asciiTables .boundary [] (List.cons_ne_nil first segment)
      rw [List.nil_append] at flat
      rw [← flat]
      exact List.mem_flatten.mpr ⟨word, listed, member⟩

theorem words_alphanum (listed : word ∈ words asciiTables text) (member : character ∈ word) :
    character.isAlphanum = true := by
  obtain ⟨segment, segments, inside⟩ := List.mem_flatMap.mp listed
  have apart := of_mem_splitOnP segments (mem_segment inside member)
  simpa [asciiTables] using apart

theorem toLower_alphanum (alphanumeric : character.isAlphanum = true) :
    character.toLower.isAlphanum = true := by
  by_cases upper : character.isUpper = true
  · have lower : character.toLower.isLower = true := by simp [Char.isAlpha, upper]
    simp [Char.isAlphanum, Char.isAlpha, lower]
  · rwa [Char.toLower_eq_of_not_isUpper upper]

theorem titleWord_alphanum (alphanumeric : ∀ character ∈ word, character.isAlphanum = true) :
    ∀ character ∈ titleWord word, character.isAlphanum = true := by
  intro character member
  cases word with
  | nil => exact absurd member List.not_mem_nil
  | cons first rest =>
      rcases List.mem_cons.mp member with rfl | member
      · exact toUpper_alphanum (alphanumeric first List.mem_cons_self)
      · obtain ⟨other, listed, rfl⟩ := List.mem_map.mp member
        exact toLower_alphanum (alphanumeric other (List.mem_cons_of_mem _ listed))

theorem titleWord_titleWord (word : List Char) : titleWord (titleWord word) = titleWord word := by
  cases word with
  | nil => rfl
  | cons first rest => simp [titleWord]

/-- A segment without capitals after its first character is one word. -/
theorem splitWords_uncapitalised (nonempty : rest ≠ []) (small : ∀ other ∈ rest, other.isUpper = false) :
    splitWords asciiTables mode word rest = [word ++ rest] := by
  induction rest generalizing mode word with
  | nil => contradiction
  | cons character rest ih =>
      cases rest with
      | nil => rfl
      | cons next rest =>
          have first : asciiTables.isUppercase character = false := small character List.mem_cons_self
          have second : asciiTables.isUppercase next = false :=
            small next (List.mem_cons_of_mem _ List.mem_cons_self)
          rw [splitWords, if_neg (by simp [second]), if_neg (by simp [first]), ih (List.cons_ne_nil _ _)]
          · simp
          · exact fun other member => small other (List.mem_cons_of_mem _ member)

/-- A title word is one word. -/
theorem words_titleWord (alphanumeric : ∀ character ∈ word, character.isAlphanum = true) (nonempty : word ≠ []) :
    words asciiTables (titleWord word) = [titleWord word] := by
  have whole : (titleWord word).splitOnP (fun character => !asciiTables.isAlphanumeric character) =
      [titleWord word] := by
    refine List.splitOnP_eq_singleton ?_
    intro character member
    have letter := titleWord_alphanum alphanumeric character member
    simp [asciiTables, letter]
  rw [words, whole, List.flatMap_cons, List.flatMap_nil, List.append_nil]
  cases word with
  | nil => exact absurd rfl nonempty
  | cons first rest =>
      cases rest with
      | nil => rfl
      | cons next rest =>
          have small : ∀ other ∈ (next :: rest).map Char.toLower, other.isUpper = false := by
            intro other member
            obtain ⟨letter, _, rfl⟩ := List.mem_map.mp member
            simp
          have second : asciiTables.isUppercase next.toLower = false := small _ List.mem_cons_self
          rw [titleWord, List.map_cons, splitWords, if_neg (by simp [second]), if_neg (by simp)]
          exact splitWords_uncapitalised (List.cons_ne_nil _ _) small

/-! ## Titles of names -/

theorem toTitleCase_toList (name : String) :
    (toTitleCase name).toList = List.intercalate [' '] ((words asciiTables name.toList).map titleWord) := by
  rw [toTitleCase, String.toList_ofList]

theorem mem_intercalate {separator : List Char} {segments : List (List Char)}
    (member : character ∈ List.intercalate separator segments) :
    character ∈ separator ∨ ∃ segment ∈ segments, character ∈ segment := by
  induction segments with
  | nil => exact absurd member List.not_mem_nil
  | cons segment segments ih =>
      cases segments with
      | nil =>
          rw [List.intercalate_singleton] at member
          exact .inr ⟨segment, List.mem_cons_self, member⟩
      | cons next segments =>
          rw [intercalate_cons (List.cons_ne_nil _ _), List.mem_append, List.mem_append] at member
          rcases member with (inside | between) | later
          · exact .inr ⟨segment, List.mem_cons_self, inside⟩
          · exact .inl between
          · rcases ih later with between | ⟨other, listed, inside⟩
            · exact .inl between
            · exact .inr ⟨other, List.mem_cons_of_mem _ listed, inside⟩

theorem mem_toTitleCase {name : String} (member : character ∈ (toTitleCase name).toList) :
    character = ' ' ∨ character.isAlphanum = true := by
  rw [toTitleCase_toList] at member
  rcases mem_intercalate member with space | ⟨segment, titles, inside⟩
  · exact .inl (List.mem_singleton.mp space)
  · obtain ⟨word, listed, rfl⟩ := List.mem_map.mp titles
    exact .inr (titleWord_alphanum (fun _ member => words_alphanum listed member) character inside)

theorem intercalate_space (segment : List Char) (others : List (List Char)) : ∃ rest,
    List.intercalate [' '] (segment :: others) = segment ++ rest ∧ (∀ character ∈ rest.head?, character = ' ') ∧
      (others ≠ [] → ' ' ∈ rest) := by
  cases others with
  | nil => exact ⟨[], by simp, by simp, fun nonempty => absurd rfl nonempty⟩
  | cons next others =>
      refine ⟨' ' :: List.intercalate [' '] (next :: others), ?_, by simp, fun _ => List.mem_cons_self⟩
      rw [intercalate_cons (List.cons_ne_nil _ _), List.append_assoc]
      rfl

/-- A title does not begin with a small letter. -/
theorem toTitleCase_capitalised (name : String) :
    ∀ character ∈ (toTitleCase name).toList.head?, character.isLower = false := by
  intro character first
  rw [toTitleCase_toList] at first
  cases found : words asciiTables name.toList with
  | nil =>
      rw [found] at first
      contradiction
  | cons word others =>
      obtain ⟨rest, parts, space, _⟩ := intercalate_space (titleWord word) (others.map titleWord)
      rw [found, List.map_cons, parts] at first
      cases word with
      | nil =>
          rw [space character first]
          rfl
      | cons letter word =>
          cases first
          simp

/-- A title of one word is its own title. -/
theorem toTitleCase_oneWord {name : String} (oneWord : ' ' ∉ (toTitleCase name).toList) :
    toTitleCase (toTitleCase name) = toTitleCase name := by
  have titles := toTitleCase_toList name
  have empty : toTitleCase "" = "" := by decide +kernel
  cases found : words asciiTables name.toList with
  | nil =>
      rw [found] at titles
      rw [String.toList_eq_nil_iff.mp titles, empty]
  | cons word others =>
      obtain ⟨rest, parts, _, spaced⟩ := intercalate_space (titleWord word) (others.map titleWord)
      rw [found, List.map_cons] at titles
      have alone : others = [] := by
        by_contra more
        rw [titles, parts] at oneWord
        exact oneWord (List.mem_append_right _ (spaced (by simpa using more)))
      rw [alone, List.map_nil, List.intercalate_singleton] at titles
      have alphanumeric : ∀ character ∈ word, character.isAlphanum = true := by
        intro character member
        have listed : word ∈ words asciiTables name.toList := found ▸ List.mem_cons_self
        exact words_alphanum listed member
      cases word with
      | nil => rw [String.toList_eq_nil_iff.mp titles, empty]
      | cons first word =>
          apply String.toList_inj.mp
          rw [toTitleCase_toList, titles, words_titleWord alphanumeric (List.cons_ne_nil _ _), List.map_cons,
            List.map_nil, List.intercalate_singleton, titleWord_titleWord]

end Titles

end Microscope.Signals
