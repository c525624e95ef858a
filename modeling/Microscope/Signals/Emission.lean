import Mathlib
import Microscope.Data.Json
import Microscope.Signals.Casing

namespace Microscope.Signals

open Std Microscope.Data

/-! # Declared and emitted names

The configuration takes the snake case of the names in the IDL, the processor
that of the variants the decoder generator derives from them.
-/

/-- `declared_names`. -/
def declaredNames (tables : CaseTables) (program : Json) (signals : String) : ExtTreeSet String :=
  ExtTreeSet.ofList (((program.field signals).elements.filterMap fun entry =>
    (entry.field "name").toText).map (toSnakeCase tables))

structure IdlSignalNames where
  instructions : ExtTreeSet String
  events : ExtTreeSet String

/-- `IdlSignalNames::read`, of a parsed file. -/
def IdlSignalNames.read (tables : CaseTables) (idl : Json) : IdlSignalNames :=
  let program :=
    match idl with
    | .object entries => (entries.lookup "program").getD idl
    | _ => idl
  { instructions := declaredNames tables program "instructions"
    events := declaredNames tables program "events" }

/-! ## Variants -/

/-- The words of a part of a name, each but the first from its capital on. -/
def splitCapitals (word : List Char) : List Char → List (List Char)
  | [] => [word]
  | character :: rest =>
      if character.isUpper then word :: splitCapitals [character] rest
      else splitCapitals (word ++ [character]) rest

def capitalise : List Char → List Char
  | [] => []
  | character :: rest => character.toUpper :: rest

/-- The parts of a name between its underscores. -/
def parts (name : List Char) : List (List Char) :=
  (name.splitOnP fun character => character == '_').filter fun part => !part.isEmpty

/-- The enum variant that the decoder generator derives from a name. -/
def variantName (name : String) : String :=
  String.ofList (((parts name.toList).flatMap fun part => splitCapitals [] part).flatMap capitalise)

/-- The name in the record, which has the variant as its type. -/
def emittedName (tables : CaseTables) (name : String) : String := toSnakeCase tables (variantName name)

/-! ## Where the words begin -/

def startsLower : List Char → Bool
  | [] => false
  | character :: _ => character.isLower

/-- The character begins a word, if it is not the first of its segment. -/
def opensWord (mode : WordMode) (character : Char) (rest : List Char) : Bool :=
  character.isUpper && (mode = .lowercase || mode = .uppercase && startsLower rest)

def snakeText (mode : WordMode) : List Char → List Char
  | [] => []
  | character :: rest =>
      (if opensWord mode character rest then ['_'] else []) ++
        character :: snakeText (nextMode asciiTables mode character) rest

section Words

variable {mode : WordMode} {character : Char} {word rest more part : List Char}

theorem nextMode_lower (lower : character.isLower = true) :
    nextMode asciiTables mode character = .lowercase := by
  simp [nextMode, asciiTables, lower]

theorem nextMode_upper (upper : character.isUpper = true) :
    nextMode asciiTables mode character = .uppercase := by
  have lower : character.isLower = false := by simpa using Char.not_isLower_of_isUpper upper
  simp [nextMode, asciiTables, lower, upper]

theorem nextMode_digit (digit : character.isAlpha = false) : nextMode asciiTables mode character = mode := by
  have cases : character.isUpper = false ∧ character.isLower = false := by simpa [Char.isAlpha] using digit
  simp [nextMode, asciiTables, cases]

theorem opensWord_boundary : opensWord .boundary character rest = false := by
  simp [opensWord]

theorem intercalate_cons {separator : List Char} {others : List (List Char)} (nonempty : others ≠ []) :
    List.intercalate separator (word :: others) = word ++ separator ++ List.intercalate separator others := by
  cases others with
  | nil => contradiction
  | cons other others => exact List.intercalate_cons_cons

theorem splitWords_ne_nil : splitWords asciiTables mode word (character :: rest) ≠ [] := by
  intro none
  have flat := splitWords_flatten asciiTables mode word (List.cons_ne_nil character rest)
  simp [none] at flat

/-- The scan looks ahead; the text it leads to is that of the other form. -/
theorem intercalate_splitWords (word : List Char)
    (pending : ¬(mode = .lowercase ∧ character.isUpper = true)) :
    List.intercalate ['_'] (splitWords asciiTables mode word (character :: rest)) =
      word ++ snakeText mode (character :: rest) := by
  induction rest generalizing mode word character with
  | nil =>
      have closed : opensWord mode character [] = false := by
        simp only [opensWord, startsLower, Bool.and_false, Bool.or_false]
        by_contra opens
        exact pending (by simpa [and_comm] using opens)
      simp [splitWords, snakeText, closed]
  | cons next rest ih =>
      rw [splitWords]
      split
      · rename_i early
        obtain ⟨current, nextUpper⟩ := early
        have notUpper : character.isUpper = false := by
          by_contra upper
          rw [nextMode_upper (by simpa using upper)] at current
          contradiction
        have closed : opensWord mode character (next :: rest) = false := by simp [opensWord, notUpper]
        have opens : opensWord .lowercase next rest = true := by
          simp [opensWord, show next.isUpper = true from nextUpper]
        rw [intercalate_cons splitWords_ne_nil, ih [] (by simp)]
        simp [snakeText, closed, current, opens, opensWord_boundary, nextMode_upper nextUpper]
      · split
        · rename_i acronym
          obtain ⟨rfl, upper, nextLower⟩ := acronym
          have notUpper : next.isUpper = false := by simpa using Char.not_isUpper_of_isLower nextLower
          have opens : opensWord .uppercase character (next :: rest) = true := by
            simp [opensWord, startsLower, show character.isUpper = true from upper,
              show next.isLower = true from nextLower]
          have closed : opensWord .uppercase next rest = false := by simp [opensWord, notUpper]
          rw [intercalate_cons splitWords_ne_nil, ih [character] (by simp)]
          simp [snakeText, opens, closed, opensWord_boundary, nextMode_upper upper,
            nextMode_lower nextLower]
        · rename_i notEarly notAcronym
          have closed : opensWord mode character (next :: rest) = false := by
            by_contra opens
            simp only [opensWord, startsLower, Bool.not_eq_false, Bool.and_eq_true, Bool.or_eq_true,
              decide_eq_true_eq] at opens
            obtain ⟨upper, lower | ⟨rfl, nextLower⟩⟩ := opens
            · exact pending ⟨lower, upper⟩
            · exact notAcronym ⟨rfl, upper, nextLower⟩
          rw [ih (word ++ [character]) notEarly]
          simp [snakeText, closed]

theorem intercalate_append {separator : List Char} {first second : List (List Char)}
    (nonemptyFirst : first ≠ []) (nonemptySecond : second ≠ []) :
    List.intercalate separator (first ++ second) =
      List.intercalate separator first ++ separator ++ List.intercalate separator second := by
  induction first with
  | nil => contradiction
  | cons word others ih =>
      cases others with
      | nil => simpa using intercalate_cons nonemptySecond
      | cons other others =>
          rw [List.cons_append, intercalate_cons (by simp), intercalate_cons (List.cons_ne_nil _ _),
            ih (List.cons_ne_nil _ _)]
          simp

theorem intercalate_flatMap {segments : List (List Char)} {split : List Char → List (List Char)}
    (nonempty : ∀ segment ∈ segments, split segment ≠ []) (separator : List Char) :
    List.intercalate separator (segments.flatMap split) =
      List.intercalate separator (segments.map fun segment => List.intercalate separator (split segment)) := by
  induction segments with
  | nil => rfl
  | cons segment others ih =>
      have rest := ih fun other member => nonempty other (List.mem_cons_of_mem _ member)
      cases others with
      | nil => simp
      | cons other others =>
          have first := nonempty segment List.mem_cons_self
          have second : (other :: others).flatMap split ≠ [] := by
            have headed := nonempty other (by simp)
            simp [headed]
          rw [List.flatMap_cons, intercalate_append first second, rest, List.map_cons, List.map_cons,
            List.map_cons, List.intercalate_cons_cons]

theorem map_intercalate (convert : Char → Char) (separator : List Char) (segments : List (List Char)) :
    List.intercalate (separator.map convert) (segments.map (List.map convert)) =
      (List.intercalate separator segments).map convert := by
  induction segments with
  | nil => rfl
  | cons segment others ih =>
      cases others with
      | nil => simp
      | cons other others =>
          rw [List.map_cons, List.map_cons, List.intercalate_cons_cons, ← List.map_cons, ih,
            List.intercalate_cons_cons, List.map_append, List.map_append]

end Words

/-! ## Identifiers -/

/-- An ASCII identifier. -/
def IsIdentifier (name : List Char) : Prop :=
  ∀ character ∈ name, character.isAlphanum = true ∨ character = '_'

section Identifiers

variable {name part rest : List Char} {character : Char}

theorem isAscii_of_alphanum (alphanumeric : character.isAlphanum = true) : character.toNat < 128 := by
  simp only [Char.isAlphanum, Char.isAlpha, Char.isUpper, Char.isLower, Char.isDigit, Bool.or_eq_true,
    Bool.and_eq_true, decide_eq_true_eq, UInt32.le_iff_toNat_le, ge_iff_le] at alphanumeric
  have value : character.toNat = character.val.toNat := rfl
  have digit : '9'.val.toNat = 57 := rfl
  have upper : 'Z'.val.toNat = 90 := rfl
  have lower : 'z'.val.toNat = 122 := rfl
  omega

theorem IsIdentifier.ascii (identifier : IsIdentifier name) : IsAscii name := by
  intro character member
  rcases identifier character member with alphanumeric | rfl
  · exact isAscii_of_alphanum alphanumeric
  · decide

theorem not_mem_of_mem_splitOnP {separator : Char}
    (listed : part ∈ name.splitOnP fun character => character == separator) : separator ∉ part := by
  induction name generalizing part with
  | nil => simp_all
  | cons first rest ih =>
      rw [List.splitOnP_cons_eq_if_modifyHead] at listed
      split at listed
      · rcases List.mem_cons.mp listed with rfl | listed
        · simp
        · exact ih listed
      · rename_i different
        cases segments : rest.splitOnP fun character => character == separator with
        | nil => simp [segments] at listed
        | cons head tail =>
            rw [segments, List.modifyHead_cons] at listed
            rcases List.mem_cons.mp listed with rfl | listed
            · have absent : separator ∉ head := ih (segments ▸ List.mem_cons_self)
              intro member
              rcases List.mem_cons.mp member with rfl | member
              · simp at different
              · exact absent member
            · exact ih (segments ▸ List.mem_cons_of_mem _ listed)

/-- The nonempty parts of an identifier have letters and digits only. -/
theorem parts_alphanum (identifier : IsIdentifier name) (listed : part ∈ parts name) :
    part ≠ [] ∧ ∀ character ∈ part, character.isAlphanum = true := by
  obtain ⟨segment, nonempty⟩ := List.mem_filter.mp listed
  refine ⟨by simpa using nonempty, fun character member => ?_⟩
  rcases identifier character (mem_of_mem_splitOnP segment member) with alphanumeric | rfl
  · exact alphanumeric
  · exact absurd member (not_mem_of_mem_splitOnP segment)

theorem alphanumeric_ne (alphanumeric : character.isAlphanum = true) : character ≠ '_' := by
  rintro rfl
  contradiction

theorem words_eq_parts (identifier : IsIdentifier name) :
    words asciiTables name = (parts name).flatMap (splitWords asciiTables .boundary []) := by
  have segments : name.splitOnP (fun character => !asciiTables.isAlphanumeric character) =
      name.splitOnP fun character => character == '_' := by
    induction name with
    | nil => rfl
    | cons character rest ih =>
        have same : (!asciiTables.isAlphanumeric character) = (character == '_') := by
          rcases identifier character List.mem_cons_self with alphanumeric | rfl
          · have different := alphanumeric_ne alphanumeric
            simp [asciiTables, alphanumeric, different]
          · rfl
        rw [List.splitOnP_cons_eq_if_modifyHead, List.splitOnP_cons_eq_if_modifyHead, same,
          ih fun other member => identifier other (List.mem_cons_of_mem _ member)]
  rw [words, segments, parts]
  induction name.splitOnP fun character => character == '_' with
  | nil => rfl
  | cons segment others ih =>
      cases segment with
      | nil => simpa [splitWords] using ih
      | cons character rest => simp [ih]

/-- The snake case of an identifier: each of its parts is scanned by itself. -/
theorem toSnakeCase_identifier {name : String} (identifier : IsIdentifier name.toList) :
    toSnakeCase asciiTables name = String.ofList
      ((List.intercalate ['_'] ((parts name.toList).map (snakeText .boundary))).map Char.toLower) := by
  have scanned : ∀ part ∈ parts name.toList,
      List.intercalate ['_'] (splitWords asciiTables .boundary [] part) = snakeText .boundary part := by
    intro part listed
    obtain ⟨nonempty, _⟩ := parts_alphanum identifier listed
    cases part with
    | nil => contradiction
    | cons character rest => simpa using intercalate_splitWords [] (by simp)
  have split : ∀ part ∈ parts name.toList, splitWords asciiTables .boundary [] part ≠ [] := by
    intro part listed
    obtain ⟨nonempty, _⟩ := parts_alphanum identifier listed
    cases part with
    | nil => contradiction
    | cons character rest => exact splitWords_ne_nil
  have lowered := map_intercalate Char.toLower ['_'] (words asciiTables name.toList)
  rw [words_eq_parts identifier, intercalate_flatMap split, List.map_congr_left scanned] at lowered
  rw [toSnakeCase, words_eq_parts identifier]
  exact congrArg String.ofList lowered

/-- The variant has the capitalised parts. -/
theorem variantName_eq (name : String) :
    variantName name = String.ofList ((parts name.toList).flatMap capitalise) := by
  have kept : ∀ (word rest : List Char), word ≠ [] →
      (splitCapitals word rest).flatMap capitalise = capitalise word ++ rest := by
    intro word rest nonempty
    induction rest generalizing word with
    | nil => simp [splitCapitals]
    | cons character rest ih =>
        rw [splitCapitals]
        split
        · rename_i upper
          have lower : ¬character.isLower = true := Char.not_isLower_of_isUpper upper
          rw [List.flatMap_cons, ih [character] (List.cons_ne_nil _ _)]
          simp [capitalise, Char.toUpper_eq_of_not_isLower lower]
        · rw [ih (word ++ [character]) (by simp)]
          cases word with
          | nil => contradiction
          | cons first word => simp [capitalise]
  have part : ∀ part : List Char, (splitCapitals [] part).flatMap capitalise = capitalise part := by
    intro part
    cases part with
    | nil => rfl
    | cons character rest =>
        rw [splitCapitals]
        split
        · rw [List.flatMap_cons, kept [character] rest (List.cons_ne_nil _ _)]
          rfl
        · exact kept [character] rest (List.cons_ne_nil _ _)
  rw [variantName, List.flatMap_assoc]
  simp only [part]

theorem toUpper_alphanum (alphanumeric : character.isAlphanum = true) :
    character.toUpper.isAlphanum = true := by
  by_cases lower : character.isLower = true
  · have upper : character.toUpper.isUpper = true := by simp [Char.isAlpha, lower]
    simp [Char.isAlphanum, Char.isAlpha, upper]
  · rwa [Char.toUpper_eq_of_not_isLower lower]

theorem variant_alphanum (identifier : IsIdentifier name) :
    ∀ character ∈ (parts name).flatMap capitalise, character.isAlphanum = true := by
  intro character member
  obtain ⟨part, listed, inside⟩ := List.mem_flatMap.mp member
  obtain ⟨_, alphanumeric⟩ := parts_alphanum identifier listed
  cases part with
  | nil => contradiction
  | cons first rest =>
      rcases List.mem_cons.mp inside with rfl | inside
      · exact toUpper_alphanum (alphanumeric first List.mem_cons_self)
      · exact alphanumeric character (List.mem_cons_of_mem _ inside)

/-- The emitted name: the capitalised parts are scanned as one. -/
theorem emittedName_identifier {name : String} (identifier : IsIdentifier name.toList) :
    emittedName asciiTables name = String.ofList
      ((snakeText .boundary ((parts name.toList).flatMap capitalise)).map Char.toLower) := by
  have alphanumeric := variant_alphanum identifier
  have variant : IsIdentifier (variantName name).toList := by
    rw [variantName_eq, String.toList_ofList]
    exact fun character member => .inl (alphanumeric character member)
  have single : (variantName name).toList.splitOnP (fun character => character == '_') =
      [(parts name.toList).flatMap capitalise] := by
    rw [variantName_eq, String.toList_ofList]
    refine List.splitOnP_eq_singleton fun character member => ?_
    have different := alphanumeric_ne (alphanumeric character member)
    simpa using different
  rw [emittedName, toSnakeCase_identifier variant, parts, single]
  cases combined : (parts name.toList).flatMap capitalise with
  | nil => rfl
  | cons character rest => simp

end Identifiers

/-! ## Names that keep their words -/

/-- Whether a capital that follows the digits is followed by lower case. -/
def keepsAfter (rest : List Char) : Bool :=
  match rest.dropWhile Char.isDigit with
  | [] => true
  | next :: more => !next.isUpper || startsLower more

/-- A lower case letter at the start of a part meets no capital that would
join it once both are capitals. -/
def keepsCapitals : List Char → Bool
  | [] => true
  | first :: rest => !first.isLower || keepsAfter rest

/-- The case of the last letter of a part, once its first letter is a capital. -/
def lastCase (part : List Char) : WordMode := (capitalise part).foldl (nextMode asciiTables) .boundary

/-- The part begins with a letter that begins a word once it is a capital. -/
def opensPart (mode : WordMode) : List Char → Bool
  | [] => false
  | character :: rest => opensWord mode character.toUpper rest

/-- The boundary between the parts is kept. -/
def joins (first second : List Char) : Bool := opensPart (lastCase first) second

/-- Every word of the name is also a word of its variant. -/
structure KeepsWords (name : List Char) : Prop where
  capitals : ∀ part ∈ parts name, keepsCapitals part = true
  boundaries : (parts name).IsChain fun first second => joins first second = true

instance (name : List Char) : Decidable (KeepsWords name) :=
  decidable_of_iff ((∀ part ∈ parts name, keepsCapitals part = true) ∧
      (parts name).IsChain fun first second => joins first second = true)
    ⟨fun both => ⟨both.1, both.2⟩, fun keeps => ⟨keeps.capitals, keeps.boundaries⟩⟩

example : ["getAB", "subscription_created", "HTTPServer", "get_a_bc"].map
    (fun name => decide (KeepsWords name.toList)) = [true, true, true, true] := by decide +kernel

example : ["get_a_b", "aB", "HTTP_s", "get_2fa", "a1_b"].map
    (fun name => decide (KeepsWords name.toList)) = [false, false, false, false, false] := by decide +kernel

section Words

variable {mode : WordMode} {character : Char} {text rest more part : List Char}

def lowered (text : List Char) : List Char := text.map Char.toLower

@[simp] theorem lowered_cons : lowered (character :: rest) = character.toLower :: lowered rest := rfl

@[simp] theorem lowered_append : lowered (rest ++ more) = lowered rest ++ lowered more :=
  List.map_append

theorem digit_of_not_alpha (alphanumeric : character.isAlphanum = true)
    (digit : character.isAlpha = false) : character.isDigit = true := by
  simpa [Char.isAlphanum, digit] using alphanumeric

theorem alpha_not_digit (letter : character.isAlpha = true) : character.isDigit = false := by
  by_contra digit
  simp only [Char.isAlpha, Char.isUpper, Char.isLower, Char.isDigit, Bool.or_eq_true, Bool.and_eq_true,
    decide_eq_true_eq, UInt32.le_iff_toNat_le, ge_iff_le, Bool.not_eq_false] at letter digit
  have nine : '9'.val.toNat = 57 := rfl
  have upper : 'A'.val.toNat = 65 := rfl
  have lower : 'a'.val.toNat = 97 := rfl
  omega

/-- The scan after a capital and that after a small letter part at the first
capital, if at all. -/
theorem snakeText_modes_iff (alphanumeric : ∀ character ∈ rest, character.isAlphanum = true) :
    lowered (snakeText .uppercase rest) = lowered (snakeText .lowercase rest) ↔ keepsAfter rest = true := by
  induction rest with
  | nil => simp [snakeText, keepsAfter]
  | cons character rest ih =>
      have known := alphanumeric character List.mem_cons_self
      have recursive := ih fun other member => alphanumeric other (List.mem_cons_of_mem _ member)
      by_cases letter : character.isAlpha = true
      · have stop : keepsAfter (character :: rest) = (!character.isUpper || startsLower rest) := by
          simp [keepsAfter, alpha_not_digit letter]
        rw [stop]
        by_cases upper : character.isUpper = true
        · by_cases follows : startsLower rest = true
          · simp [snakeText, opensWord, upper, follows, nextMode_upper upper]
          · simp [snakeText, opensWord, upper, follows, nextMode_upper upper]
        · have lower : character.isLower = true := by
            simpa [Char.isAlpha, upper] using letter
          simp [snakeText, opensWord, upper, nextMode_lower lower]
      · have digit : character.isAlpha = false := by simpa using letter
        have notUpper : character.isUpper = false := by
          have cases : character.isUpper = false ∧ character.isLower = false := by
            simpa [Char.isAlpha] using digit
          exact cases.1
        have skip : keepsAfter (character :: rest) = keepsAfter rest := by
          simp [keepsAfter, digit_of_not_alpha known digit]
        rw [skip, ← recursive]
        simp [snakeText, opensWord, notUpper, nextMode_digit digit]

theorem toLower_ne (alphanumeric : character.isAlphanum = true) : character.toLower ≠ '_' := by
  by_cases upper : character.isUpper = true
  · have letter : character.toLower.isLower = true := by simp [Char.isAlpha, upper]
    intro same
    rw [same] at letter
    contradiction
  · rw [Char.toLower_eq_of_not_isUpper upper]
    exact alphanumeric_ne alphanumeric

/-- A first part: nothing precedes its first word. -/
theorem snakeText_capitalise_iff (alphanumeric : ∀ character ∈ part, character.isAlphanum = true) :
    lowered (snakeText .boundary (capitalise part)) = lowered (snakeText .boundary part) ↔
      keepsCapitals part = true := by
  cases part with
  | nil => simp [capitalise, keepsCapitals]
  | cons first rest =>
      have known := alphanumeric first List.mem_cons_self
      by_cases lower : first.isLower = true
      · have upper : first.toUpper.isUpper = true := by simp [Char.isAlpha, lower]
        have same := snakeText_modes_iff fun other member =>
          alphanumeric other (List.mem_cons_of_mem first member)
        simp [capitalise, snakeText, opensWord_boundary, keepsCapitals, lower, nextMode_lower lower,
          nextMode_upper upper, same]
      · simp [capitalise, keepsCapitals, lower, Char.toUpper_eq_of_not_isLower lower]

/-- A later part: its first word must begin with an underscore. -/
theorem snakeText_later_iff (alphanumeric : ∀ character ∈ part, character.isAlphanum = true)
    (nonempty : part ≠ []) :
    lowered (snakeText mode (capitalise part)) = '_' :: lowered (snakeText .boundary part) ↔
      opensPart mode part = true ∧ keepsCapitals part = true := by
  cases part with
  | nil => exact absurd rfl nonempty
  | cons first rest =>
      have known := alphanumeric first List.mem_cons_self
      have different := toLower_ne known
      by_cases opens : opensWord mode first.toUpper rest = true
      · have upper : first.toUpper.isUpper = true := by
          simp only [opensWord, Bool.and_eq_true] at opens
          exact opens.1
        by_cases lower : first.isLower = true
        · have same := snakeText_modes_iff fun other member =>
            alphanumeric other (List.mem_cons_of_mem first member)
          simp [capitalise, snakeText, opensPart, opens, opensWord_boundary, keepsCapitals, lower,
            nextMode_lower lower, nextMode_upper upper, same]
        · rw [Char.toUpper_eq_of_not_isLower lower] at upper opens
          have capitalised : capitalise (first :: rest) = first :: rest := by
            rw [capitalise, Char.toUpper_eq_of_not_isLower lower]
          rw [capitalised, snakeText, snakeText, opens, opensWord_boundary, nextMode_upper upper,
            nextMode_upper upper]
          simp [opensPart, Char.toUpper_eq_of_not_isLower lower, opens, keepsCapitals, lower]
      · simp [capitalise, snakeText, opensPart, opens, different]

/-- Two texts with the same number of letters that end with letters are the
same if what follows makes them the same. -/
theorem aligned {first second more other : List Char}
    (counts : (first.filter (· != '_')).length = (second.filter (· != '_')).length)
    (firstEnds : first.getLast? ≠ some '_') (secondEnds : second.getLast? ≠ some '_') :
    first ++ more = second ++ other ↔ first = second ∧ more = other := by
  constructor
  · intro same
    have empty : ∀ {short long extra : List Char}, long = short ++ extra →
        (short.filter (· != '_')).length = (long.filter (· != '_')).length →
        long.getLast? ≠ some '_' → extra = [] := by
      intro short long extra split equal ends
      rw [split, List.filter_append, List.length_append] at equal
      have none : extra.filter (· != '_') = [] := List.eq_nil_of_length_eq_zero (by omega)
      rw [List.filter_eq_nil_iff] at none
      cases last : extra.getLast? with
      | none => exact List.getLast?_eq_none_iff.mp last
      | some character =>
          have underscore : character = '_' := by
            simpa using none character (List.mem_of_getLast? last)
          refine absurd ?_ ends
          rw [split, List.getLast?_append, last, underscore]
          rfl
    rcases List.append_eq_append_iff.mp same with ⟨extra, split, rest⟩ | ⟨extra, split, rest⟩
    · have none := empty split counts secondEnds
      subst none
      exact ⟨by simpa using split.symm, by simpa using rest⟩
    · have none := empty split counts.symm firstEnds
      subst none
      exact ⟨by simpa using split, by simpa using rest.symm⟩
  · rintro ⟨rfl, rfl⟩
    rfl

/-- At most one underscore stands before a letter. -/
theorem snakeText_cons (mode : WordMode) (character : Char) (rest : List Char) :
    ∃ underscores, (underscores = [] ∨ underscores = ['_']) ∧
      lowered (snakeText mode (character :: rest)) = underscores ++
        character.toLower :: lowered (snakeText (nextMode asciiTables mode character) rest) := by
  by_cases opens : opensWord mode character rest = true
  · exact ⟨['_'], .inr rfl, by simp [snakeText, opens]⟩
  · exact ⟨[], .inl rfl, by simp [snakeText, opens]⟩

theorem snakeText_letters (mode : WordMode)
    (alphanumeric : ∀ character ∈ rest, character.isAlphanum = true) :
    (lowered (snakeText mode rest)).filter (· != '_') = lowered rest := by
  induction rest generalizing mode with
  | nil => rfl
  | cons character rest ih =>
      have known := toLower_ne (alphanumeric character List.mem_cons_self)
      have recursive := ih (nextMode asciiTables mode character)
        fun other member => alphanumeric other (List.mem_cons_of_mem _ member)
      obtain ⟨underscores, rfl | rfl, text⟩ := snakeText_cons mode character rest
      · simp [text, known, recursive]
      · simp [text, known, recursive]

theorem snakeText_ends (mode : WordMode) (alphanumeric : ∀ character ∈ rest, character.isAlphanum = true) :
    (lowered (snakeText mode rest)).getLast? ≠ some '_' := by
  induction rest generalizing mode with
  | nil => simp [snakeText, lowered]
  | cons character rest ih =>
      have known := toLower_ne (alphanumeric character List.mem_cons_self)
      have ends := ih (nextMode asciiTables mode character)
        fun other member => alphanumeric other (List.mem_cons_of_mem _ member)
      obtain ⟨underscores, _, text⟩ := snakeText_cons mode character rest
      rw [text, List.getLast?_append, List.getLast?_cons]
      cases last : (lowered (snakeText (nextMode asciiTables mode character) rest)).getLast? with
      | none => simpa using known
      | some other =>
          rw [last] at ends
          simpa using ends

theorem snakeText_append (more : List Char) (apart : startsLower more = false) :
    snakeText mode (rest ++ more) =
      snakeText mode rest ++ snakeText (rest.foldl (nextMode asciiTables) mode) more := by
  induction rest generalizing mode with
  | nil => rfl
  | cons character rest ih =>
      have ahead : startsLower (rest ++ more) = startsLower rest := by
        cases rest with
        | nil => simpa [startsLower] using apart
        | cons next rest => rfl
      simp [snakeText, opensWord, ahead, ih]

theorem startsLower_variant (segments : List (List Char)) :
    startsLower (segments.flatMap capitalise) = false := by
  induction segments with
  | nil => rfl
  | cons segment others ih =>
      cases segment with
      | nil => simpa [capitalise] using ih
      | cons first rest => simp [capitalise, startsLower]

theorem capitalise_alphanum (alphanumeric : ∀ character ∈ part, character.isAlphanum = true) :
    ∀ character ∈ capitalise part, character.isAlphanum = true := by
  cases part with
  | nil => simp [capitalise]
  | cons first rest =>
      have capital := toUpper_alphanum (alphanumeric first List.mem_cons_self)
      simp_all [capitalise]

theorem lowered_capitalise : lowered (capitalise part) = lowered part := by
  cases part with
  | nil => rfl
  | cons first rest => simp [capitalise]

/-- A part that opens with a word hides what came before it. -/
theorem lastCase_opens (opens : opensPart mode part = true) :
    (capitalise part).foldl (nextMode asciiTables) mode = lastCase part := by
  cases part with
  | nil => contradiction
  | cons first rest =>
      have upper : first.toUpper.isUpper = true := by
        simp only [opensPart, opensWord, Bool.and_eq_true] at opens
        exact opens.1
      simp [lastCase, capitalise, nextMode_upper upper]

/-- The later parts of a name, after the part before them. -/
theorem later_parts_iff {others : List (List Char)} (before : List Char)
    (wellFormed : ∀ part ∈ others, part ≠ [] ∧ ∀ character ∈ part, character.isAlphanum = true) :
    lowered (snakeText (lastCase before) (others.flatMap capitalise)) =
        lowered (others.flatMap fun part => '_' :: snakeText .boundary part) ↔
      (before :: others).IsChain (fun first second => joins first second = true) ∧
        ∀ part ∈ others, keepsCapitals part = true := by
  induction others generalizing before with
  | nil => simp [snakeText, lowered]
  | cons part others ih =>
      obtain ⟨nonempty, alphanumeric⟩ := wellFormed part List.mem_cons_self
      have later := ih part fun other member => wellFormed other (List.mem_cons_of_mem _ member)
      have capitalised := capitalise_alphanum alphanumeric
      have counts : ((lowered (snakeText (lastCase before) (capitalise part))).filter (· != '_')).length =
          (('_' :: lowered (snakeText .boundary part)).filter (· != '_')).length := by
        have letters := snakeText_letters .boundary alphanumeric
        rw [snakeText_letters _ capitalised, lowered_capitalise, ← letters]
        rfl
      have ends : ('_' :: lowered (snakeText .boundary part)).getLast? ≠ some '_' := by
        have letters := snakeText_letters .boundary alphanumeric
        have last := snakeText_ends .boundary alphanumeric
        cases text : lowered (snakeText .boundary part) with
        | nil =>
            rw [text] at letters
            exact absurd (List.map_eq_nil_iff.mp letters.symm) nonempty
        | cons first rest => rwa [text] at last
      rw [List.flatMap_cons, snakeText_append _ (startsLower_variant others), lowered_append,
        List.flatMap_cons, lowered_append, lowered_cons,
        show Char.toLower '_' = '_' from rfl, aligned counts (snakeText_ends _ capitalised) ends,
        snakeText_later_iff alphanumeric nonempty, List.isChain_cons_cons, List.forall_mem_cons]
      constructor
      · rintro ⟨⟨opens, keeps⟩, rest⟩
        rw [lastCase_opens opens, later] at rest
        exact ⟨⟨opens, rest.1⟩, keeps, rest.2⟩
      · rintro ⟨⟨opens, boundaries⟩, keeps, capitals⟩
        refine ⟨⟨opens, keeps⟩, ?_⟩
        rw [lastCase_opens opens, later]
        exact ⟨boundaries, capitals⟩

theorem intercalate_parts (first : List Char) (others : List (List Char)) :
    List.intercalate ['_'] ((first :: others).map (snakeText .boundary)) =
      snakeText .boundary first ++ others.flatMap fun part => '_' :: snakeText .boundary part := by
  induction others generalizing first with
  | nil => simp
  | cons other others ih =>
      rw [List.map_cons, List.map_cons, List.intercalate_cons_cons, ← List.map_cons, ih]
      simp

end Words

theorem keepsWords_iff {name : List Char} : KeepsWords name ↔
    (parts name).IsChain (fun first second => joins first second = true) ∧
      ∀ part ∈ parts name, keepsCapitals part = true :=
  ⟨fun keeps => ⟨keeps.boundaries, keeps.capitals⟩, fun both => ⟨both.2, both.1⟩⟩

/-- A name is accepted as it is emitted exactly if it keeps its words. -/
theorem emittedName_eq_iff {name : String} (identifier : IsIdentifier name.toList) :
    emittedName asciiTables name = toSnakeCase asciiTables name ↔ KeepsWords name.toList := by
  rw [emittedName_identifier identifier, toSnakeCase_identifier identifier, String.ofList_inj, keepsWords_iff]
  have wellFormed : ∀ part ∈ parts name.toList,
      part ≠ [] ∧ ∀ character ∈ part, character.isAlphanum = true :=
    fun part listed => parts_alphanum identifier listed
  generalize parts name.toList = segments at wellFormed ⊢
  cases segments with
  | nil => simp [snakeText]
  | cons first others =>
      obtain ⟨_, alphanumeric⟩ := wellFormed first List.mem_cons_self
      have capitalised := capitalise_alphanum alphanumeric
      have later := later_parts_iff first fun other member => wellFormed other (List.mem_cons_of_mem _ member)
      have counts : ((lowered (snakeText .boundary (capitalise first))).filter (· != '_')).length =
          ((lowered (snakeText .boundary first)).filter (· != '_')).length := by
        rw [snakeText_letters _ capitalised, snakeText_letters _ alphanumeric, lowered_capitalise]
      change lowered (snakeText .boundary ((first :: others).flatMap capitalise)) =
        lowered (List.intercalate ['_'] ((first :: others).map (snakeText .boundary))) ↔ _
      rw [intercalate_parts, List.flatMap_cons, snakeText_append _ (startsLower_variant others),
        lowered_append, lowered_append,
        aligned counts (snakeText_ends _ capitalised) (snakeText_ends _ alphanumeric),
        snakeText_capitalise_iff alphanumeric, List.forall_mem_cons]
      change _ ∧ lowered (snakeText (lastCase first) _) = _ ↔ _
      rw [later]
      constructor
      · rintro ⟨keeps, boundaries, capitals⟩
        exact ⟨boundaries, keeps, capitals⟩
      · rintro ⟨boundaries, keeps, capitals⟩
        exact ⟨keeps, boundaries, capitals⟩

/-! ## Sections of the IDL -/

/-- The names of the section. -/
def sectionNames (program : Json) (signals : String) : List String :=
  (program.field signals).elements.filterMap fun entry => (entry.field "name").toText

/-- The names in the records of the section's signals. -/
def emittedNames (tables : CaseTables) (program : Json) (signals : String) : ExtTreeSet String :=
  ExtTreeSet.ofList ((sectionNames program signals).map (emittedName tables))

/-- The letters and digits of a name. -/
def letters (name : String) : List Char := lowered (name.toList.filter (· != '_'))

theorem lowered_lowered (text : List Char) : lowered (lowered text) = lowered text := by
  simp [lowered]

theorem letters_ofList {text source : List Char}
    (same : (lowered text).filter (· != '_') = lowered source) :
    letters (String.ofList (lowered text)) = lowered source := by
  rw [letters, String.toList_ofList, same, lowered_lowered]

theorem parts_flatten (name : List Char) : (parts name).flatten = name.filter (· != '_') := by
  rw [parts, List.flatten_filter_not_isEmpty]
  induction name with
  | nil => rfl
  | cons character rest ih =>
      rw [List.splitOnP_cons_eq_if_modifyHead]
      split
      · rename_i underscore
        have skipped : (character != '_') = false := by simpa using underscore
        rw [List.flatten_cons, List.nil_append, ih, List.filter_cons, skipped]
        rfl
      · rename_i letter
        have kept : (character != '_') = true := by simpa using letter
        cases segments : rest.splitOnP fun character => character == '_' with
        | nil => exact absurd segments (List.splitOnP_ne_nil _ _)
        | cons head tail =>
            rw [segments] at ih
            rw [List.modifyHead_cons, List.flatten_cons, List.filter_cons, kept, if_pos rfl, ← ih]
            rfl

theorem letters_intercalate {segments : List (List Char)}
    (alphanumeric : ∀ part ∈ segments, ∀ character ∈ part, character.isAlphanum = true) :
    (lowered (List.intercalate ['_'] (segments.map (snakeText .boundary)))).filter (· != '_') =
      lowered segments.flatten := by
  induction segments with
  | nil => rfl
  | cons part others ih =>
      have rest := ih fun other member => alphanumeric other (List.mem_cons_of_mem _ member)
      have first := snakeText_letters .boundary (alphanumeric part List.mem_cons_self)
      cases others with
      | nil => simpa using first
      | cons other others =>
          rw [List.map_cons, List.map_cons, List.intercalate_cons_cons, ← List.map_cons, lowered_append,
            List.filter_append, rest, lowered_append, List.filter_append, first]
          simp [lowered]

theorem letters_toSnakeCase {name : String} (identifier : IsIdentifier name.toList) :
    letters (toSnakeCase asciiTables name) = letters name := by
  have wellFormed : ∀ part ∈ parts name.toList, ∀ character ∈ part, character.isAlphanum = true :=
    fun part listed => (parts_alphanum identifier listed).2
  rw [toSnakeCase_identifier identifier]
  refine (letters_ofList (letters_intercalate wellFormed)).trans ?_
  rw [parts_flatten, letters]

theorem letters_emittedName {name : String} (identifier : IsIdentifier name.toList) :
    letters (emittedName asciiTables name) = letters name := by
  have capitals : ∀ segments : List (List Char),
      lowered (segments.flatMap capitalise) = lowered segments.flatten := by
    intro segments
    induction segments with
    | nil => rfl
    | cons part others ih =>
        rw [List.flatMap_cons, lowered_append, ih, lowered_capitalise, ← lowered_append]
        rfl
  have scanned := snakeText_letters .boundary (variant_alphanum identifier)
  rw [emittedName_identifier identifier]
  refine (letters_ofList scanned).trans ?_
  rw [capitals, parts_flatten, letters]

/-- No two names of the section have the same letters. -/
def SpelledApart (program : Json) (signals : String) : Prop :=
  ∀ name ∈ sectionNames program signals, ∀ other ∈ sectionNames program signals,
    letters name = letters other → name = other

variable {tables : CaseTables} {program : Json} {signals : String}

theorem emittedName_ascii {name : String} (ascii : tables.Ascii) (identifier : IsIdentifier name.toList) :
    emittedName tables name = emittedName asciiTables name := by
  refine toSnakeCase_ascii ascii fun character member => ?_
  rw [variantName_eq, String.toList_ofList] at member
  exact isAscii_of_alphanum (variant_alphanum identifier character member)

/-- The accepted names are the emitted ones if every name of the section keeps
its words; and only then, unless names with the same letters make up for one
another. -/
theorem declared_eq_emitted_iff (ascii : tables.Ascii)
    (identifiers : ∀ name ∈ sectionNames program signals, IsIdentifier name.toList) :
    ((∀ name ∈ sectionNames program signals, KeepsWords name.toList) →
      declaredNames tables program signals = emittedNames tables program signals) ∧
    (SpelledApart program signals →
      declaredNames tables program signals = emittedNames tables program signals →
      ∀ name ∈ sectionNames program signals, KeepsWords name.toList) := by
  have declared : ∀ name ∈ sectionNames program signals,
      toSnakeCase tables name = toSnakeCase asciiTables name :=
    fun name listed => toSnakeCase_ascii ascii (identifiers name listed).ascii
  have emitted : ∀ name ∈ sectionNames program signals,
      emittedName tables name = emittedName asciiTables name :=
    fun name listed => emittedName_ascii ascii (identifiers name listed)
  constructor
  · intro keeps
    have lists : (sectionNames program signals).map (toSnakeCase tables) =
        (sectionNames program signals).map (emittedName tables) := by
      refine List.map_congr_left fun name listed => ?_
      rw [declared name listed, emitted name listed]
      exact ((emittedName_eq_iff (identifiers name listed)).mpr (keeps name listed)).symm
    change ExtTreeSet.ofList ((sectionNames program signals).map (toSnakeCase tables)) = _
    rw [lists, emittedNames]
  · intro apart same name listed
    have present : emittedName tables name ∈ declaredNames tables program signals := by
      rw [same, emittedNames, ExtTreeSet.mem_ofList, List.contains_iff_mem]
      exact List.mem_map_of_mem listed
    rw [declaredNames, ExtTreeSet.mem_ofList, List.contains_iff_mem] at present
    obtain ⟨other, otherListed, spelled⟩ := List.mem_map.mp present
    rw [declared other otherListed, emitted name listed] at spelled
    have sameLetters : letters other = letters name := by
      rw [← letters_toSnakeCase (identifiers other otherListed), spelled,
        letters_emittedName (identifiers name listed)]
    have equal := apart other otherListed name listed sameLetters
    subst equal
    exact (emittedName_eq_iff (identifiers other listed)).mp spelled.symm

/-! An instruction with two words of one letter each. -/

def instructionsNamed (names : List String) : Json :=
  .object [("instructions", .array (names.map fun name => .object [("name", .string name)]))]

theorem one_letter_words_never_fire :
    "get_a_b" ∈ declaredNames asciiTables (instructionsNamed ["get_a_b"]) "instructions" ∧
    "get_a_b" ∉ emittedNames asciiTables (instructionsNamed ["get_a_b"]) "instructions" ∧
    "get_ab" ∈ emittedNames asciiTables (instructionsNamed ["get_a_b"]) "instructions" ∧
    "get_ab" ∉ declaredNames asciiTables (instructionsNamed ["get_a_b"]) "instructions" := by
  decide +kernel

theorem declared_eq_emitted_transfer :
    declaredNames asciiTables (instructionsNamed ["transfer_sol", "getAccount"]) "instructions" =
      emittedNames asciiTables (instructionsNamed ["transfer_sol", "getAccount"]) "instructions" := by
  have cases : ∀ name ∈ sectionNames (instructionsNamed ["transfer_sol", "getAccount"]) "instructions",
      name = "transfer_sol" ∨ name = "getAccount" := by
    intro name listed
    rwa [show sectionNames (instructionsNamed ["transfer_sol", "getAccount"]) "instructions" =
      ["transfer_sol", "getAccount"] by decide +kernel, List.mem_cons, List.mem_singleton] at listed
  refine (declared_eq_emitted_iff asciiTables_ascii fun name listed => ?_).1 fun name listed => ?_
  · rcases cases name listed with rfl | rfl
    · simp [IsIdentifier]
    · simp [IsIdentifier]
  · rcases cases name listed with rfl | rfl
    · decide +kernel
    · decide +kernel

end Microscope.Signals
