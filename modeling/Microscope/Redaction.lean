import Microscope.Backfill.Duration
import Microscope.Data.Searching

namespace Microscope.Redaction

open Microscope.Data Microscope.Backfill

/-! # Redacted log lines

The queries of URLs are taken out of every line that is not a structured record:
an endpoint carries its API key there.
-/

/-! ## Redaction -/

def schemeSeparator : List Char := [':', '/', '/']

def redactedQuery : List Char := "?<redacted>".toList

def cannotAppearInUrl (character : Char) : Bool :=
  isWhitespace character || ['\"', '<', '>', '\\', '^', '\x60', '\x7b', '|', '\x7d'].contains character

/-- The loop of `redact_url_queries`. -/
def redactFrom (redacted rest : List Char) : List Char :=
  match _found : findText schemeSeparator rest with
  | none => redacted ++ rest
  | some schemeAt =>
      let authorityAt := schemeAt + schemeSeparator.length
      let urlEnd := ((rest.drop authorityAt).findIdx? cannotAppearInUrl).elim rest.length (authorityAt + ·)
      let pushed :=
        match ((rest.take urlEnd).drop authorityAt).findIdx? (· = '?') with
        | some queryAt => rest.take (authorityAt + queryAt) ++ redactedQuery
        | none => rest.take urlEnd
      redactFrom (redacted ++ pushed) (rest.drop urlEnd)
termination_by rest.length
decreasing_by
  have within := findText_le _found
  have three : schemeSeparator.length = 3 := rfl
  have later : 0 < ((rest.drop (schemeAt + schemeSeparator.length)).findIdx? cannotAppearInUrl).elim
      rest.length (schemeAt + schemeSeparator.length + ·) := by
    cases (rest.drop (schemeAt + schemeSeparator.length)).findIdx? cannotAppearInUrl with
    | none => rw [Option.elim_none]; omega
    | some offset => rw [Option.elim_some]; omega
  rw [List.length_drop]
  omega

def redactUrlQueries (message : String) : String := String.ofList (redactFrom [] message.toList)

/-! ## Lines -/

structure LogRecord where
  timestamp : String
  level : String
  target : String
  arguments : String

inductive LogOutput where
  | line (text : String)
  | diverted (record : String)

def structuredTargetPrefix : List Char := "microscope::".toList

def isStructuredTarget (target : String) : Bool := structuredTargetPrefix.isPrefixOf target.toList

/-- What `init` does with a record, where `diverts` tells whether it was given a
sink. -/
def formatRecord (diverts : Bool) (record : LogRecord) : LogOutput :=
  if isStructuredTarget record.target then
    if diverts then .diverted record.arguments else .line record.arguments
  else
    .line (record.timestamp ++ " " ++ record.level.pushn ' ' (5 - record.level.length) ++ " [" ++
      record.target ++ "] " ++ redactUrlQueries record.arguments)

/-! ## The URLs of a message -/

/-- What a message has between the URL before, if any, and the scheme separator,
and then the run of characters that a URL may have. -/
structure Url where
  before : List Char
  run : List Char

/-- The text that the loop pushes for a run. -/
def redactRun (run : List Char) : List Char :=
  if '?' ∈ run then run.takeWhile (· ≠ '?') ++ redactedQuery else run

/-- A message of URLs and the text after the last, each run under `shown`. -/
def assemble (shown : List Char → List Char) (urls : List Url) (tail : List Char) : List Char :=
  (urls.flatMap fun url => url.before ++ schemeSeparator ++ shown url.run) ++ tail

/-- The first URL of a message and what follows it. -/
structure FirstUrl (message : List Char) (url : Url) (remaining : List Char) : Prop where
  separator : SplitsAt schemeSeparator message url.before (url.run ++ remaining)
  allowed : ∀ character ∈ url.run, cannotAppearInUrl character = false
  maximal : ∀ character ∈ remaining.head?, cannotAppearInUrl character = true

/-- The runs of a message from left to right, each found from the end of the
one before. -/
inductive Cuts : List Char → List Url → List Char → Prop where
  | done {tail : List Char} (absent : ¬schemeSeparator <:+: tail) : Cuts tail [] tail
  | url {message remaining tail : List Char} {url : Url} {urls : List Url}
      (first : FirstUrl message url remaining) (later : Cuts remaining urls tail) :
      Cuts message (url :: urls) tail

/-- Two runs that have one text up to the question mark that is the first of
both, or are the same. -/
inductive SameButQuery : List Char → List Char → Prop where
  | same {run : List Char} : SameButQuery run run
  | query {path : List Char} (plain : '?' ∉ path) (first second : List Char) :
      SameButQuery (path ++ '?' :: first) (path ++ '?' :: second)

def Url.SameButQuery (first second : Url) : Prop :=
  first.before = second.before ∧ Redaction.SameButQuery first.run second.run

section Urls

variable {message other remaining otherRemaining tail otherTail run : List Char} {url otherUrl : Url}
  {urls otherUrls : List Url}

theorem redactRun_query {path : List Char} (plain : '?' ∉ path) (query : List Char) :
    redactRun (path ++ '?' :: query) = path ++ redactedQuery := by
  have queried : '?' ∈ path ++ '?' :: query := List.mem_append_right _ List.mem_cons_self
  have shown : (path ++ '?' :: query).takeWhile (· ≠ '?') = path := by
    have allPlain : ∀ character ∈ path, decide (character ≠ '?') = true := by
      intro character listed
      have other : character ≠ '?' := fun same => plain (same ▸ listed)
      exact decide_eq_true other
    rw [List.takeWhile_append_of_pos allPlain]
    simp
  rw [redactRun, if_pos queried, shown]

theorem SameButQuery.redactRun (same : SameButQuery run other) : redactRun run = redactRun other := by
  cases same with
  | same => rfl
  | query plain first second => rw [redactRun_query plain, redactRun_query plain]

/-- The loop pushes a run up to its first question mark and the marker. -/
theorem pushed_run (start run remaining : List Char) :
    (match run.findIdx? (· = '?') with
      | some queryAt => (start ++ (run ++ remaining)).take (start.length + queryAt) ++ redactedQuery
      | none => start ++ run) = start ++ redactRun run := by
  by_cases queried : '?' ∈ run
  · obtain ⟨path, query, rfl, plain⟩ := List.eq_append_cons_of_mem queried
    have found : (path ++ '?' :: query).findIdx? (· = '?') = some path.length := by
      have missing : path.findIdx? (· = '?') = none := by
        rw [List.findIdx?_eq_none_iff]
        intro character listed
        have other : character ≠ '?' := fun same => plain (same ▸ listed)
        exact decide_eq_false other
      rw [List.findIdx?_append, missing, List.findIdx?_cons]
      simp
    rw [found, redactRun_query plain]
    dsimp only
    rw [List.take_length_add_append, List.append_assoc, List.append_assoc, List.take_left]
  · have missing : run.findIdx? (· = '?') = none := by
      rw [List.findIdx?_eq_none_iff]
      intro character listed
      have other : character ≠ '?' := fun same => queried (same ▸ listed)
      exact decide_eq_false other
    rw [missing, redactRun, if_neg queried]

theorem urlEnd_eq (start : Nat) (allowed : ∀ character ∈ run, cannotAppearInUrl character = false)
    (maximal : ∀ character ∈ remaining.head?, cannotAppearInUrl character = true) :
    ((run ++ remaining).findIdx? cannotAppearInUrl).elim (start + (run ++ remaining).length) (start + ·) =
      start + run.length := by
  have inside : run.findIdx? cannotAppearInUrl = none := List.findIdx?_eq_none_iff.mpr allowed
  rw [List.findIdx?_append, inside, Option.none_or]
  cases remaining with
  | nil => simp
  | cons stop rest =>
      have stops : cannotAppearInUrl stop = true := maximal stop rfl
      rw [List.findIdx?_cons, stops]
      simp

variable {before : List Char}

theorem redactFrom_done (absent : ¬schemeSeparator <:+: tail) : redactFrom before tail = before ++ tail := by
  rw [redactFrom]
  split
  · rfl
  · rename_i found
    rw [findText_absent absent] at found
    contradiction

theorem redactFrom_url (first : FirstUrl message url remaining) :
    redactFrom before message =
      redactFrom (before ++ (url.before ++ schemeSeparator ++ redactRun url.run)) remaining := by
  have place := findText_splitsAt first.separator
  have parts := first.separator.parts
  have startLength : (url.before ++ schemeSeparator).length = url.before.length + schemeSeparator.length :=
    List.length_append
  have authority : message.drop (url.before.length + schemeSeparator.length) = url.run ++ remaining := by
    rw [parts, ← startLength, List.drop_left]
  have whole : message.length =
      url.before.length + schemeSeparator.length + (url.run ++ remaining).length := by
    rw [parts, List.length_append, startLength]
  have upTo : message.take (url.before.length + schemeSeparator.length + url.run.length) =
      url.before ++ schemeSeparator ++ url.run := by
    rw [parts, ← startLength, ← List.append_assoc, ← List.length_append, List.take_left]
  have after : message.drop (url.before.length + schemeSeparator.length + url.run.length) = remaining := by
    rw [parts, ← startLength, ← List.append_assoc, ← List.length_append, List.drop_left]
  have run : (url.before ++ schemeSeparator ++ url.run).drop (url.before.length + schemeSeparator.length) =
      url.run := by
    rw [← startLength, List.drop_left]
  rw [redactFrom]
  split
  · rename_i missing
    rw [place] at missing
    contradiction
  · rename_i schemeAt found
    rw [place] at found
    cases found
    dsimp only
    rw [authority, whole, urlEnd_eq _ first.allowed first.maximal, after, upTo, run]
    have pushed := pushed_run (url.before ++ schemeSeparator) url.run remaining
    rw [startLength, ← parts] at pushed
    rw [pushed]

theorem Cuts.redacted (cuts : Cuts message urls tail) (before : List Char) :
    redactFrom before message = before ++ assemble redactRun urls tail := by
  induction cuts generalizing before with
  | done absent => rw [redactFrom_done absent]; rfl
  | url first later ih =>
      rw [redactFrom_url first, ih]
      simp [assemble]

theorem Cuts.message_eq (cuts : Cuts message urls tail) : message = assemble id urls tail := by
  induction cuts with
  | done absent => rfl
  | url first later ih =>
      rw [first.separator.parts, ih]
      simp [assemble]

theorem takeWhile_run (allowed : ∀ character ∈ run, cannotAppearInUrl character = false)
    (maximal : ∀ character ∈ remaining.head?, cannotAppearInUrl character = true) :
    (run ++ remaining).takeWhile (!cannotAppearInUrl ·) = run := by
  have shown : ∀ character ∈ run, (!cannotAppearInUrl character) = true := by
    intro character listed
    rw [allowed character listed]
    rfl
  rw [List.takeWhile_append_of_pos shown]
  cases remaining with
  | nil => simp
  | cons stop rest =>
      rw [List.takeWhile_cons, maximal stop rfl]
      simp

theorem FirstUrl.unique (first : FirstUrl message url remaining) (second : FirstUrl message otherUrl otherRemaining) :
    url = otherUrl ∧ remaining = otherRemaining := by
  obtain ⟨sameBefore, sameRest⟩ := first.separator.unique second.separator
  have firstRun := takeWhile_run first.allowed first.maximal
  have secondRun := takeWhile_run second.allowed second.maximal
  rw [sameRest] at firstRun
  have sameRun := firstRun.symm.trans secondRun
  rw [sameRun] at sameRest
  cases url
  cases otherUrl
  dsimp only at sameBefore sameRun
  rw [sameBefore, sameRun]
  exact ⟨rfl, List.append_cancel_left sameRest⟩

theorem FirstUrl.occurs (first : FirstUrl message url remaining) : schemeSeparator <:+: message :=
  ⟨_, _, first.separator.parts.symm⟩

theorem FirstUrl.shorter (first : FirstUrl message url remaining) : remaining.length < message.length := by
  have length := congrArg List.length first.separator.parts
  have three : schemeSeparator.length = 3 := rfl
  simp only [List.length_append] at length
  omega

theorem Cuts.unique (cuts : Cuts message urls tail) (others : Cuts message otherUrls otherTail) :
    otherUrls = urls ∧ otherTail = tail := by
  induction cuts generalizing otherUrls with
  | done absent =>
      cases others with
      | done _ => exact ⟨rfl, rfl⟩
      | url first _ => exact absurd first.occurs absent
  | url first later ih =>
      cases others with
      | done absent => exact absurd first.occurs absent
      | url second others =>
          obtain ⟨rfl, rfl⟩ := first.unique second
          obtain ⟨rfl, rfl⟩ := ih others
          exact ⟨rfl, rfl⟩

theorem exists_firstUrl (occurs : schemeSeparator <:+: message) : ∃ url remaining, FirstUrl message url remaining := by
  obtain ⟨before, authority, splits⟩ := exists_splitsAt occurs
  let url : Url := ⟨before, authority.takeWhile (!cannotAppearInUrl ·)⟩
  have allowed : ∀ character ∈ url.run, cannotAppearInUrl character = false := by
    intro character listed
    have shown := List.mem_takeWhile_imp listed
    simpa using shown
  have maximal : ∀ character ∈ (authority.dropWhile (!cannotAppearInUrl ·)).head?,
      cannotAppearInUrl character = true := by
    intro character stops
    have stopped := List.head?_dropWhile_not (!cannotAppearInUrl ·) authority
    rw [stops] at stopped
    simpa using stopped
  have joined : url.run ++ authority.dropWhile (!cannotAppearInUrl ·) = authority :=
    List.takeWhile_append_dropWhile
  have separator : SplitsAt schemeSeparator message url.before
      (url.run ++ authority.dropWhile (!cannotAppearInUrl ·)) := by
    rw [joined]
    exact splits
  exact ⟨url, _, separator, allowed, maximal⟩

theorem firstUrl_of_absent (absent : ¬schemeSeparator <:+: url.before ++ [':', '/'])
    (allowed : ∀ character ∈ url.run, cannotAppearInUrl character = false)
    (maximal : ∀ character ∈ remaining.head?, cannotAppearInUrl character = true) :
    FirstUrl (url.before ++ schemeSeparator ++ (url.run ++ remaining)) url remaining :=
  ⟨splitsAt_of_absent (by rfl) absent _, allowed, maximal⟩

/-- Every message is cut, by its first URL and what follows it. -/
theorem exists_cuts (message : List Char) : ∃ urls tail, Cuts message urls tail := by
  by_cases occurs : schemeSeparator <:+: message
  · obtain ⟨url, remaining, first⟩ := exists_firstUrl occurs
    have shorter := first.shorter
    obtain ⟨urls, tail, cuts⟩ := exists_cuts remaining
    exact ⟨url :: urls, tail, .url first cuts⟩
  · exact ⟨[], message, .done occurs⟩
termination_by message.length

theorem assemble_sameButQuery (same : List.Forall₂ Url.SameButQuery urls otherUrls) :
    assemble redactRun urls tail = assemble redactRun otherUrls tail := by
  induction same with
  | nil => rfl
  | cons alike _ ih =>
      rw [assemble, assemble, List.append_cancel_right_eq] at ih
      rw [assemble, List.flatMap_cons, alike.1, alike.2.redactRun, ih, assemble, List.flatMap_cons]

theorem redactUrlQueries_sameButQuery {first second : String} (cuts : Cuts first.toList urls tail)
    (others : Cuts second.toList otherUrls tail) (same : List.Forall₂ Url.SameButQuery urls otherUrls) :
    redactUrlQueries first = redactUrlQueries second := by
  rw [redactUrlQueries, redactUrlQueries, cuts.redacted, others.redacted, assemble_sameButQuery same]

/-- No line shows the query of a URL in it. -/
theorem formatRecord_sameButQuery (diverts : Bool) {record : LogRecord} {arguments : String}
    (plain : isStructuredTarget record.target = false) (cuts : Cuts record.arguments.toList urls tail)
    (others : Cuts arguments.toList otherUrls tail) (same : List.Forall₂ Url.SameButQuery urls otherUrls) :
    formatRecord diverts { record with arguments } = formatRecord diverts record := by
  have redacted := redactUrlQueries_sameButQuery cuts others same
  simp only [formatRecord, plain, Bool.false_eq_true, if_false, redacted]

end Urls

/-- A message is cut into URLs in one way; only the text from the first question
mark of a run to its end is replaced, and messages that differ only there are
redacted to one text. -/
theorem redaction_exact (message : String) : ∃ urls tail,
    Cuts message.toList urls tail ∧
      (∀ otherUrls otherTail, Cuts message.toList otherUrls otherTail → otherUrls = urls ∧ otherTail = tail) ∧
      message.toList = assemble id urls tail ∧
      (redactUrlQueries message).toList = assemble redactRun urls tail ∧
      ∀ other otherUrls, Cuts (String.toList other) otherUrls tail →
        List.Forall₂ Url.SameButQuery urls otherUrls → redactUrlQueries other = redactUrlQueries message := by
  obtain ⟨urls, tail, cuts⟩ := exists_cuts message.toList
  refine ⟨urls, tail, cuts, fun _ _ others => cuts.unique others, cuts.message_eq, ?_, ?_⟩
  · rw [redactUrlQueries, String.toList_ofList, cuts.redacted]
    rfl
  · intro other otherUrls others same
    exact (redactUrlQueries_sameButQuery cuts others same).symm

/-! ## An endpoint named twice -/

def endpointUrl (before : String) (key : Char) : Url := ⟨before.toList, "host/rpc?api-key=".toList ++ [key]⟩

def endpointUrls (key : Char) : List Url := [endpointUrl "error for https" key, endpointUrl " at https" key]

def endpointTail : List Char := " refused".toList

def endpointMessage (key : Char) : String := String.ofList (assemble id (endpointUrls key) endpointTail)

theorem endpoint_cuts {key : Char} (allowed : cannotAppearInUrl key = false) :
    Cuts (endpointMessage key).toList (endpointUrls key) endpointTail := by
  have run : ∀ before, ∀ character ∈ (endpointUrl before key).run, cannotAppearInUrl character = false := by
    intro before character listed
    have path : ∀ character ∈ "host/rpc?api-key=".toList, cannotAppearInUrl character = false := by
      simp [cannotAppearInUrl, isWhitespace]
    rcases List.mem_append.mp listed with first | last
    · exact path character first
    · rw [List.mem_singleton.mp last]
      exact allowed
  have stops : ∀ rest, ∀ character ∈ (' ' :: rest).head?, cannotAppearInUrl character = true := by
    intro rest character first
    cases first
    rfl
  have lastScheme : ¬schemeSeparator <:+: " at https".toList ++ [':', '/'] := by decide
  have firstScheme : ¬schemeSeparator <:+: "error for https".toList ++ [':', '/'] := by decide
  have last : FirstUrl _ (endpointUrl " at https" key) endpointTail :=
    firstUrl_of_absent lastScheme (run _) (stops _)
  have first : FirstUrl _ (endpointUrl "error for https" key)
      ((endpointUrl " at https" key).before ++ schemeSeparator ++
        ((endpointUrl " at https" key).run ++ endpointTail)) :=
    firstUrl_of_absent firstScheme (run _) (stops _)
  have message : (endpointMessage key).toList = (endpointUrl "error for https" key).before ++ schemeSeparator ++
      ((endpointUrl "error for https" key).run ++ ((endpointUrl " at https" key).before ++ schemeSeparator ++
        ((endpointUrl " at https" key).run ++ endpointTail))) := by
    simp [endpointMessage, assemble, endpointUrls]
  rw [message]
  exact .url first (.url last (.done (by decide)))

/-- An error chain that names the endpoint twice, with one key or another. -/
theorem redaction_exact_endpoint :
    redactUrlQueries (endpointMessage 'B') = redactUrlQueries (endpointMessage 'A') ∧
      endpointMessage 'B' ≠ endpointMessage 'A' := by
  obtain ⟨urls, tail, _, only, _, _, alike⟩ := redaction_exact (endpointMessage 'A')
  obtain ⟨rfl, rfl⟩ := only _ _ (endpoint_cuts (by decide))
  have same : ∀ before, Url.SameButQuery (endpointUrl before 'A') (endpointUrl before 'B') := by
    intro before
    have plain : '?' ∉ "host/rpc".toList := by decide
    exact ⟨rfl, .query plain "api-key=A".toList "api-key=B".toList⟩
  exact ⟨alike _ _ (endpoint_cuts (by decide)) (.cons (same _) (.cons (same _) .nil)), by decide⟩

end Microscope.Redaction
