import Mathlib.Data.List.Basic

namespace Microscope.Signals

/-! # Snake case

The word splitting of `heck`, and a form of it that decides each boundary from
the last letter before it and the two characters after it.
-/

/-- The character properties of the standard library, and `str::to_lowercase`. -/
structure CaseTables where
  isAlphanumeric : Char → Bool
  isLowercase : Char → Bool
  isUppercase : Char → Bool
  toLowercase : List Char → List Char

inductive WordMode where
  | boundary
  | lowercase
  | uppercase
deriving DecidableEq, Repr

section Splitting

variable (tables : CaseTables)

/-- The mode after a character that is no word boundary. -/
def nextMode (mode : WordMode) (character : Char) : WordMode :=
  if tables.isLowercase character then .lowercase
  else if tables.isUppercase character then .uppercase
  else mode

/-- The scan of one alphanumeric segment; `word` has been read since the last
boundary. -/
def splitWords (mode : WordMode) (word : List Char) : List Char → List (List Char)
  | [] => []
  | [character] => [word ++ [character]]
  | character :: next :: rest =>
      if nextMode tables mode character = .lowercase ∧ tables.isUppercase next then
        (word ++ [character]) :: splitWords .boundary [] (next :: rest)
      else if mode = .uppercase ∧ tables.isUppercase character ∧ tables.isLowercase next then
        word :: splitWords .boundary [character] (next :: rest)
      else splitWords (nextMode tables mode character) (word ++ [character]) (next :: rest)

def words (name : List Char) : List (List Char) :=
  (name.splitOnP fun character => !tables.isAlphanumeric character).flatMap (splitWords tables .boundary [])

/-- `str::to_snake_case`. -/
def toSnakeCase (name : String) : String :=
  String.ofList (List.intercalate ['_'] ((words tables name.toList).map tables.toLowercase))

end Splitting

/-! ## The standard tables on ASCII -/

def asciiTables : CaseTables where
  isAlphanumeric := Char.isAlphanum
  isLowercase := Char.isLower
  isUppercase := Char.isUpper
  toLowercase := List.map Char.toLower

def IsAscii (name : List Char) : Prop := ∀ character ∈ name, character.toNat < 128

structure CaseTables.Ascii (tables : CaseTables) : Prop where
  alphanumeric : ∀ character : Char, character.toNat < 128 →
    tables.isAlphanumeric character = character.isAlphanum
  lowercase : ∀ character : Char, character.toNat < 128 →
    tables.isLowercase character = character.isLower
  uppercase : ∀ character : Char, character.toNat < 128 →
    tables.isUppercase character = character.isUpper
  toLowercase : ∀ word, IsAscii word → tables.toLowercase word = word.map Char.toLower

example : ["getAB", "aB", "HTTPServer", "ABC123DEf456", "get_2fa"].map (toSnakeCase asciiTables) =
    ["get_ab", "a_b", "http_server", "abc123d_ef456", "get_2fa"] := by decide +kernel

section Ascii

variable {tables : CaseTables} {mode : WordMode} {word rest : List Char} {character : Char}

theorem asciiTables_ascii : asciiTables.Ascii where
  alphanumeric _ _ := rfl
  lowercase _ _ := rfl
  uppercase _ _ := rfl
  toLowercase _ _ := rfl

theorem isAscii_cons : IsAscii (character :: rest) ↔ character.toNat < 128 ∧ IsAscii rest :=
  List.forall_mem_cons

theorem nextMode_ascii (ascii : tables.Ascii) (small : character.toNat < 128) :
    nextMode tables mode character = nextMode asciiTables mode character := by
  simp only [nextMode, ascii.lowercase character small, ascii.uppercase character small]
  rfl

theorem splitWords_ascii (ascii : tables.Ascii) (small : IsAscii rest) :
    splitWords tables mode word rest = splitWords asciiTables mode word rest := by
  induction rest generalizing mode word with
  | nil => rfl
  | cons character rest ih =>
      cases rest with
      | nil => rfl
      | cons next rest =>
          obtain ⟨smallCharacter, smallRest⟩ := isAscii_cons.mp small
          have smallNext := (isAscii_cons.mp smallRest).1
          have upper := ascii.uppercase _ smallCharacter
          have upperNext := ascii.uppercase _ smallNext
          have lowerNext := ascii.lowercase _ smallNext
          simp only [splitWords, nextMode_ascii ascii smallCharacter, upper, upperNext, lowerNext,
            ih smallRest]
          rfl

theorem splitWords_flatten (tables : CaseTables) (mode : WordMode) (word : List Char)
    (nonempty : rest ≠ []) :
    (splitWords tables mode word rest).flatten = word ++ rest := by
  induction rest generalizing mode word with
  | nil => exact absurd rfl nonempty
  | cons character rest ih =>
      cases rest with
      | nil => simp [splitWords]
      | cons next rest =>
          rw [splitWords]
          split
          · simp [ih]
          · split
            · simp [ih]
            · simp [ih]

theorem mem_of_mem_splitOnP {separates : Char → Bool} {segment : List Char}
    (listed : segment ∈ rest.splitOnP separates) (member : character ∈ segment) : character ∈ rest := by
  induction rest generalizing segment with
  | nil =>
      rw [List.splitOnP_nil, List.mem_singleton] at listed
      rwa [listed] at member
  | cons first rest ih =>
      rw [List.splitOnP_cons_eq_if_modifyHead] at listed
      split at listed
      · rcases List.mem_cons.mp listed with rfl | listed
        · contradiction
        · exact List.mem_cons_of_mem _ (ih listed member)
      · cases segments : rest.splitOnP separates with
        | nil => simp [segments] at listed
        | cons head tail =>
            rw [segments, List.modifyHead_cons] at listed
            rcases List.mem_cons.mp listed with rfl | listed
            · rcases List.mem_cons.mp member with rfl | member
              · exact List.mem_cons_self
              · exact List.mem_cons_of_mem _ (ih (segments ▸ List.mem_cons_self) member)
            · exact List.mem_cons_of_mem _ (ih (segments ▸ List.mem_cons_of_mem _ listed) member)

theorem words_ascii (ascii : tables.Ascii) (small : IsAscii rest) :
    words tables rest = words asciiTables rest := by
  have segments : rest.splitOnP (fun character => !tables.isAlphanumeric character) =
      rest.splitOnP fun character => !asciiTables.isAlphanumeric character := by
    induction rest with
    | nil => rfl
    | cons character rest ih =>
        obtain ⟨smallCharacter, smallRest⟩ := isAscii_cons.mp small
        rw [List.splitOnP_cons_eq_if_modifyHead, List.splitOnP_cons_eq_if_modifyHead, ih smallRest,
          ascii.alphanumeric character smallCharacter]
        rfl
  rw [words, words, segments, List.flatMap_def, List.flatMap_def]
  congr 1
  refine List.map_congr_left fun segment listed => splitWords_ascii ascii ?_
  exact fun character member => small character (mem_of_mem_splitOnP listed member)

theorem isAscii_of_mem_words (small : IsAscii rest) (listed : word ∈ words tables rest) : IsAscii word := by
  obtain ⟨segment, segments, inside⟩ := List.mem_flatMap.mp listed
  intro character member
  cases segment with
  | nil => contradiction
  | cons first segment =>
      have flat := splitWords_flatten tables .boundary [] (List.cons_ne_nil first segment)
      refine small character (mem_of_mem_splitOnP segments ?_)
      rw [List.nil_append] at flat
      rw [← flat]
      exact List.mem_flatten.mpr ⟨word, inside, member⟩

/-- On ASCII names all tables give the same snake case. -/
theorem toSnakeCase_ascii {name : String} (ascii : tables.Ascii) (small : IsAscii name.toList) :
    toSnakeCase tables name = toSnakeCase asciiTables name := by
  have lowered : (words asciiTables name.toList).map tables.toLowercase =
      (words asciiTables name.toList).map asciiTables.toLowercase :=
    List.map_congr_left fun word listed => ascii.toLowercase word (isAscii_of_mem_words small listed)
  rw [toSnakeCase, toSnakeCase, words_ascii ascii small, lowered]

end Ascii

end Microscope.Signals
