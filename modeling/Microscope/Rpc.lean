import Microscope.Data.OrderedMap

namespace Microscope

/-! # The RPC endpoint as the indexer sees it

Slots are `u64` values; they are natural numbers here, and the two places
where the source saturates upwards use `saturatingAdd`.  Downward saturation
is subtraction on natural numbers.
-/

abbrev Slot := Nat

/-- The base58 text of a public key. -/
abbrev Address := String

/-- A reading of the monotonic clock, in milliseconds. -/
abbrev Instant := Nat

def u64Max : Nat := 2 ^ 64 - 1

def u32Max : Nat := 2 ^ 32 - 1

def saturatingAdd (left right : Nat) : Nat := min (left + right) u64Max

theorem saturatingAdd_le (left right : Nat) : saturatingAdd left right ≤ left + right :=
  Nat.min_le_left _ _

def base58Alphabet : Vector Char 58 := #v[
  '1', '2', '3', '4', '5', '6', '7', '8', '9', 'A', 'B', 'C', 'D', 'E', 'F', 'G', 'H', 'J', 'K', 'L',
  'M', 'N', 'P', 'Q', 'R', 'S', 'T', 'U', 'V', 'W', 'X', 'Y', 'Z', 'a', 'b', 'c', 'd', 'e', 'f', 'g',
  'h', 'i', 'j', 'k', 'm', 'n', 'o', 'p', 'q', 'r', 's', 't', 'u', 'v', 'w', 'x', 'y', 'z']

/-- The characters of base58 text. -/
def isBase58 (character : Char) : Bool := base58Alphabet.contains character

/-- `Signature::to_string` and `Signature::from_str`. -/
class SignatureText (Signature : Type) where
  toText : Signature → String
  fromText : String → Option Signature
  fromText_toText : ∀ signature, fromText (toText signature) = some signature
  toText_base58 : ∀ signature, (toText signature).toList.all isBase58 = true
  toText_length : ∀ signature, 64 ≤ (toText signature).toList.length

theorem SignatureText.toText_injective {Signature : Type} [SignatureText Signature] :
    Function.Injective (toText : Signature → String) := by
  intro left right same
  have parsed := fromText_toText left
  rw [same, fromText_toText] at parsed
  exact (Option.some.inj parsed).symm

theorem base58Alphabet_injective :
    Function.Injective fun digit : Fin 58 => base58Alphabet[digit] := by
  have apart : ∀ left right : Fin 58, base58Alphabet[left] = base58Alphabet[right] → left = right := by
    decide +kernel
  exact fun left right => apart left right

instance digitsNeZero : NeZero 58 := ⟨by decide⟩

instance (priority := high) digitsTrans : Std.TransCmp (compare : Fin 58 → Fin 58 → Ordering) := inferInstance

/-- The base58 text of a 64-byte value below 58. -/
def digitText (digit : Fin 58) : String :=
  String.ofList (List.replicate 63 '1' ++ [base58Alphabet[digit]])

theorem digitText_injective : Function.Injective digitText := by
  intro left right same
  have characters := String.ofList_injective same
  simpa using base58Alphabet_injective (by simpa using characters)

instance : SignatureText (Fin 58) where
  toText := digitText
  fromText text := (List.finRange 58).find? fun digit => digitText digit = text
  fromText_toText := by
    intro digit
    cases found : (List.finRange 58).find? (fun other => digitText other = digitText digit) with
    | none => simpa using List.find?_eq_none.mp found digit (List.mem_finRange digit)
    | some other =>
        have same : digitText other = digitText digit := by simpa using List.find?_some found
        rw [digitText_injective same]
  toText_base58 := by
    have valid : ∀ digit : Fin 58, isBase58 base58Alphabet[digit] = true := by decide +kernel
    intro digit
    simp only [digitText, String.toList_ofList, List.all_append, List.all_replicate, List.all_cons,
      valid digit]
    decide +kernel
  toText_length := by simp [digitText]

/-- The text of an RPC client error. -/
abbrev RpcError := String

/-- What `getSignaturesForAddress` reports of one transaction. -/
structure SignatureInfo where
  slot : Slot
  signature : String
deriving DecidableEq, Repr

/-- What `getTransaction` returns, with the outcome of each conversion that
`transaction_update` attempts. -/
structure EncodedTransaction where
  slot : Slot
  blockTime : Option Int
  hasMeta : Bool
  decodes : Bool
  hasInnerInstructions : Bool
  hasLogMessages : Bool
  metaConverts : Bool
  slot_lt : slot ≤ u64Max
deriving DecidableEq, Repr

/-- The transaction update a datasource sends into the pipeline. -/
structure TransactionUpdate (Signature : Type) where
  signature : Signature
  slot : Slot
  blockTime : Option Int
  slot_lt : slot ≤ u64Max
deriving DecidableEq, Repr

/-- Streams also deliver updates that carry no transaction. -/
inductive Update (Signature : Type) where
  | transaction (update : TransactionUpdate Signature)
  | other
deriving DecidableEq, Repr

def Update.delivery {Signature : Type} : Update Signature → Option (Signature × Slot)
  | .transaction update => some (update.signature, update.slot)
  | .other => none

structure FetchError where
  permanent : Bool
  error : RpcError
deriving DecidableEq, Repr

def transactionUpdate {Signature : Type} (signature : Signature) (fetched : EncodedTransaction) :
    Option (TransactionUpdate Signature) :=
  if !fetched.hasMeta then none
  else if !fetched.decodes then none
  else if !fetched.hasInnerInstructions then none
  else if !fetched.hasLogMessages then none
  else if !fetched.metaConverts then none
  else some {
    signature, slot := fetched.slot, blockTime := fetched.blockTime, slot_lt := fetched.slot_lt }

theorem transactionUpdate_some {Signature : Type} {signature : Signature}
    {fetched : EncodedTransaction} {update : TransactionUpdate Signature}
    (converted : transactionUpdate signature fetched = some update) :
    update.signature = signature ∧ update.slot = fetched.slot := by
  simp only [transactionUpdate] at converted
  repeat' split at converted
  all_goals first | contradiction | skip
  cases converted
  exact ⟨rfl, rfl⟩

inductive RpcCall (Signature : Type) where
  | getGenesisHash
  | getSlot
  | getFirstAvailableBlock
  | getSignaturesForAddress (address : Address) (before : Option Signature) (limit : Nat)
      (minContextSlot : Slot)
  /-- One `fetch_transaction` for each listed signature, a few at a time; the
  outcomes are collected in the order they complete. -/
  | fetchTransactions (signatures : List Signature)
deriving DecidableEq, Repr

abbrev FetchOutcome := Except FetchError EncodedTransaction

@[reducible] def RpcCall.Response {Signature : Type} : RpcCall Signature → Type
  | .getGenesisHash => Except RpcError String
  | .getSlot => Except RpcError Slot
  | .getFirstAvailableBlock => Except RpcError Slot
  | .getSignaturesForAddress _ _ _ _ => Except RpcError (List SignatureInfo)
  | .fetchTransactions _ => List (Signature × FetchOutcome)

end Microscope
