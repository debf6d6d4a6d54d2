import Mathlib.Data.List.Basic
import SerialShare.Proofs.Text.Numeral
import SerialShare.Proofs.Text.Utf8
import SerialShare.Query.Reply

/-!
# Listings are read in one way only

An item of a listing may be wider or narrower than the next, and may look like what separates the
items.  Still no quoted character is the beginning of another one, so the characters of a listing
can be told one after the other, and the end of the listing from a further item.

With numbers written differently when they differ, the six answers determine what is known of the
device.
-/

namespace SerialShare
namespace Query

/-! ## One item -/

/-- Take a quoted character off a listing. -/
def readItem : List Char → Option (Char × List Char)
  | '"' :: '\x27' :: '"' :: rest => some ('\x27', rest)
  | '\x27' :: '\\' :: '\\' :: '\x27' :: rest => some ('\\', rest)
  | '\x27' :: character :: '\x27' :: rest => some (character, rest)
  | _ => none

/-- A character that needs no care stands between apostrophes. -/
theorem quote_of_ne
    {character : Char}
    (apostrophe : character ≠ '\x27')
    (backslash : character ≠ '\\') :
    quote [character] = ['\x27', character, '\x27'] := by
  unfold quote
  split
  · rename_i found
    exact absurd (List.singleton_inj.mp found) apostrophe
  · rename_i found
    exact absurd (List.singleton_inj.mp found) backslash
  · rfl

/-- A quoted character is read back, whatever stands behind it. -/
theorem readItem_quote_append
    (character : Char)
    (rest : List Char) :
    readItem (quote [character] ++ rest) = some (character, rest) := by
  by_cases apostrophe : character = '\x27'
  · rw [apostrophe]
    rfl
  · by_cases backslash : character = '\\'
    · rw [backslash]
      rfl
    · rw [quote_of_ne apostrophe backslash]
      simp [readItem]

/-- Quoted characters with something behind them are the same only if the characters are. -/
theorem quote_append_inj
    {character other : Char}
    {rest otherRest : List Char}
    (same : quote [character] ++ rest = quote [other] ++ otherRest) :
    character = other ∧ rest = otherRest := by
  have read := congrArg readItem same
  rw [readItem_quote_append, readItem_quote_append] at read
  exact Prod.mk.inj (Option.some.inj read)

/-! ## All items -/

/-- What a listing of characters holds after its first item. -/
def furtherItems (characters : List Char) : List Char :=
  characters.flatMap (fun character => [',', ' '] ++ quote [character]) ++ [')']

theorem intercalate_cons_eq_append_flatMap
    {α : Type}
    (separator part : List α)
    (parts : List (List α)) :
    separator.intercalate (part :: parts) = part ++ parts.flatMap (separator ++ ·) := by
  induction parts generalizing part with
  | nil => rw [List.intercalate_singleton, List.flatMap_nil, List.append_nil]
  | cons next parts inductionHypothesis =>
      rw [List.intercalate_cons_cons, inductionHypothesis, List.flatMap_cons]
      simp only [List.append_assoc]

theorem toList_tuple_cons
    (character : Char)
    (characters : List Char) :
    (tuple ((character :: characters).map ([·]))).toList =
      '(' :: (quote [character] ++ furtherItems characters) := by
  rw [tuple, String.toList_ofList, List.map_cons, List.map_cons,
    intercalate_cons_eq_append_flatMap, List.map_map, List.flatMap_map, List.cons_append,
    List.append_assoc]
  rfl

/-- Further items are either at an end or start with a separator, and so are told apart. -/
theorem furtherItems_injective : Function.Injective furtherItems := by
  intro characters others same
  induction characters generalizing others with
  | nil =>
      cases others with
      | nil => rfl
      | cons other others => exact absurd (List.cons.inj same).1 (by decide)
  | cons character characters inductionHypothesis =>
      cases others with
      | nil => exact absurd (List.cons.inj same).1 (by decide)
      | cons other others =>
          simp only [furtherItems, List.flatMap_cons, List.append_assoc] at same
          obtain ⟨first, later⟩ := quote_append_inj (List.append_cancel_left same)
          rw [first, inductionHypothesis later]

/-- Only an empty listing reads `()`. -/
theorem tuple_cons_ne
    (character : Char)
    (characters : List Char) :
    tuple ((character :: characters).map ([·])) ≠ tuple [] := by
  intro same
  have texts := congrArg String.toList same
  rw [toList_tuple_cons] at texts
  have read := congrArg readItem (List.cons.inj texts).2
  rw [readItem_quote_append] at read
  cases read

/-- Different sequences of characters are listed differently. -/
theorem tuple_singletons_inj
    {characters others : List Char}
    (same : tuple (characters.map ([·])) = tuple (others.map ([·]))) :
    characters = others := by
  cases characters with
  | nil =>
      cases others with
      | nil => rfl
      | cons other others => exact absurd same.symm (tuple_cons_ne other others)
  | cons character characters =>
      cases others with
      | nil => exact absurd same (tuple_cons_ne character characters)
      | cons other others =>
          have texts := congrArg String.toList same
          rw [toList_tuple_cons, toList_tuple_cons] at texts
          obtain ⟨first, later⟩ := quote_append_inj (List.cons.inj texts).2
          rw [first, furtherItems_injective later]

/-! ## One answer -/

/-- Numbers that are known are the same when they are written the same. -/
theorem number_some_inj
    {value other : UInt8}
    (same : number (some value) = number (some other)) :
    value = other :=
  UInt8.toNat_inj.mp (Text.decimal_injective (String.ofList_injective same))

theorem ofUInt8_injective : Function.Injective Char.ofUInt8 := by
  intro byte other same
  have numbers := congrArg Char.toNat same
  rw [Text.toNat_ofUInt8, Text.toNat_ofUInt8] at numbers
  exact UInt8.toNat_inj.mp numbers

/-- The four symbols tell the relays. -/
theorem symbols_injective : Function.Injective OpticalRelays.symbols := by
  have all : ∀ nibble other : Fin 16,
      OpticalRelays.symbols ⟨nibble⟩ = OpticalRelays.symbols ⟨other⟩ → nibble = other := by
    decide +kernel
  intro relays other same
  exact congrArg OpticalRelays.mk (all relays.nibble other.nibble same)

/-- The characters of contacts tell the contacts. -/
theorem map_ofUInt8_injective :
    Function.Injective fun contacts : Vector UInt8 Frame.contactCount =>
      contacts.toList.map Char.ofUInt8 := by
  intro contacts others same
  exact Vector.toList_inj.mp (List.map_injective_iff.mpr ofUInt8_injective same)

theorem answer_dryContact_some (status : Status) :
    answer .dryContact (some status) =
      tuple ((status.dryContacts.toList.map Char.ofUInt8).map ([·])) := by
  rw [List.map_map]
  rfl

theorem answer_opticalRelay_inj
    {status other : Status}
    (same : answer .opticalRelay (some status) = answer .opticalRelay (some other)) :
    status.opticalRelays = other.opticalRelays :=
  symbols_injective (tuple_singletons_inj same)

theorem answer_dryContact_inj
    {status other : Status}
    (same : answer .dryContact (some status) = answer .dryContact (some other)) :
    status.dryContacts = other.dryContacts := by
  rw [answer_dryContact_some, answer_dryContact_some] at same
  exact map_ofUInt8_injective (tuple_singletons_inj same)

/-- Relays that are known are not listed as if they were not. -/
theorem answer_opticalRelay_some_ne (status : Status) :
    answer .opticalRelay (some status) ≠ answer .opticalRelay none := by
  intro same
  have symbols : status.opticalRelays.symbols = [] := tuple_singletons_inj same
  cases symbols

/-- Contacts that are known are not listed as if they were not. -/
theorem answer_dryContact_some_ne (status : Status) :
    answer .dryContact (some status) ≠ answer .dryContact none := by
  intro same
  rw [answer_dryContact_some] at same
  have none : status.dryContacts.toList.map Char.ofUInt8 = [] := tuple_singletons_inj same
  have count := congrArg List.length none
  rw [List.length_map, Vector.length_toList] at count
  cases count

/-! ## All answers -/

theorem eq_of_answers_some
    {status other : Status}
    (same : ∀ question, answer question (some status) = answer question (some other)) :
    status = other := by
  have hardwareVersion := number_some_inj (same .hardwareVersion)
  have softwareVersion := number_some_inj (same .softwareVersion)
  have selfTemperature := number_some_inj (same .selfTemperature)
  have relay := number_some_inj (same .relay)
  have opticalRelays := answer_opticalRelay_inj (same .opticalRelay)
  have dryContacts := answer_dryContact_inj (same .dryContact)
  cases status
  cases other
  simp only [Status.mk.injEq]
  exact ⟨hardwareVersion, softwareVersion, selfTemperature, relay, opticalRelays, dryContacts⟩

/-- The six answers determine what is known of the device.  Sequences alone are told apart already:
characters are listed differently when they differ, so different contacts never look alike, and
what is known never looks like what is not. -/
theorem answers_determine_snapshot :
    (∀ snapshot other : Snapshot,
      (∀ question, answer question snapshot = answer question other) ↔ snapshot = other) ∧
    (∀ characters others : List Char,
      tuple (characters.map ([·])) = tuple (others.map ([·])) ↔ characters = others) ∧
    (∀ status other : Status,
      answer .dryContact (some status) = answer .dryContact (some other) ↔
        status.dryContacts = other.dryContacts) ∧
    ∀ status : Status,
      answer .opticalRelay (some status) ≠ answer .opticalRelay none ∧
        answer .dryContact (some status) ≠ answer .dryContact none := by
  refine ⟨?_, ?_, ?_, ?_⟩
  · intro snapshot other
    refine ⟨fun same => ?_, fun same question => congrArg (answer question) same⟩
    cases snapshot with
    | none =>
        cases other with
        | none => rfl
        | some other => exact absurd (same .dryContact).symm (answer_dryContact_some_ne other)
    | some status =>
        cases other with
        | none => exact absurd (same .dryContact) (answer_dryContact_some_ne status)
        | some other => exact congrArg some (eq_of_answers_some same)
  · intro characters others
    exact ⟨tuple_singletons_inj, fun same => congrArg (fun all => tuple (all.map ([·]))) same⟩
  · intro status other
    refine ⟨answer_dryContact_inj, fun same => ?_⟩
    rw [answer_dryContact_some, answer_dryContact_some, same]
  · intro status
    exact ⟨answer_opticalRelay_some_ne status, answer_dryContact_some_ne status⟩

end Query
end SerialShare
