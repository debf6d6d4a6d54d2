import Mathlib.Data.List.Nodup
import SerialShare.Proofs.Lines.Framing
import SerialShare.Proofs.Query.Listing
import SerialShare.Proofs.Text.Ascii

/-!
# The vocabulary

Which bytes ask which question.  A line is a question only if its bytes are those of the word, with
one carriage return behind them at most: nothing that is read out of other bytes is a word.  What
is no question is answered with the listing of all words, and no question is.
-/

namespace SerialShare
namespace Query

open Lines (Splitter carriageReturn content defaultLimit lineText newline)

/-! ## Bytes that ask a question -/

/-- The bytes of a line ask a question: one byte for each character of its word, and a carriage
return or nothing behind them. -/
def Asks (line : Bytes) (question : Question) : Prop :=
  line = Text.codes question.token.toList ∨
    line = Text.codes question.token.toList ++ [carriageReturn]

instance (line : Bytes) (question : Question) : Decidable (Asks line question) :=
  inferInstanceAs (Decidable (_ ∨ _))

theorem ascii_token
    (question : Question) :
    ∀ character ∈ question.token.toList, character.toNat ≤ 0x7F := by
  have all : (question.token.toList.all fun character => character.toNat ≤ 0x7F) = true := by
    cases question <;> decide
  intro character present
  exact of_decide_eq_true (List.all_eq_true.mp all character present)

theorem getLast?_token (question : Question) :
    (Text.codes question.token.toList).getLast? ≠ some carriageReturn := by
  cases question <;> decide

theorem parse?_eq_some_iff
    (text : String)
    (question : Question) :
    Question.parse? text = some question ↔ text = question.token := by
  constructor
  · exact fun recognised => (Question.token_of_parse? recognised).symm
  · rintro rfl
    exact Question.parse?_token question

/-- What is read out of a line is the word of a question only if the bytes of the line ask it. -/
theorem parse?_lossy_content_iff
    (line : Bytes)
    (question : Question) :
    Question.parse? (Text.lossy (content line)) = some question ↔ Asks line question := by
  rw [parse?_eq_some_iff, Text.lossy_eq_iff_of_ascii (ascii_token question)]
  exact Lines.content_eq_iff (getLast?_token question) line

/-! ## Answers and the listing of words -/

/-- No number is listed as the words are. -/
theorem number_ne_help (value : Option UInt8) : number value ≠ help := by
  intro same
  have present : '(' ∈ (number value).toList := by
    rw [same]
    decide
  rw [number, String.toList_ofList] at present
  exact absurd (Text.isDigit_of_mem_decimal present) (by decide)

/-- No characters are listed as the words are: a word is no quoted character. -/
theorem tuple_singletons_ne_help (characters : List Char) :
    tuple (characters.map ([·])) ≠ help := by
  intro same
  cases characters with
  | nil => exact absurd same (by decide)
  | cons character characters =>
      have unquoted : readItem help.toList.tail = none := by decide
      rw [← same, toList_tuple_cons, List.tail_cons, readItem_quote_append] at unquoted
      cases unquoted

/-- No answer is the listing of words, whatever is known. -/
theorem answer_ne_help
    (question : Question)
    (snapshot : Snapshot) :
    answer question snapshot ≠ help := by
  cases question with
  | hardwareVersion => exact number_ne_help _
  | softwareVersion => exact number_ne_help _
  | selfTemperature => exact number_ne_help _
  | relay => exact number_ne_help _
  | opticalRelay =>
      cases snapshot with
      | none => exact tuple_singletons_ne_help []
      | some status => exact tuple_singletons_ne_help status.opticalRelays.symbols
  | dryContact =>
      cases snapshot with
      | none => exact tuple_singletons_ne_help []
      | some status =>
          rw [answer_dryContact_some]
          exact tuple_singletons_ne_help _

/-- Only what is no question is answered with the listing of words. -/
theorem reply_eq_help_iff
    (request : String)
    (snapshot : Snapshot) :
    reply request snapshot = help ↔ Question.parse? request = none := by
  unfold reply
  cases Question.parse? request with
  | some question => simp only [answer_ne_help, reduceCtorEq]
  | none => simp only

/-- There is a status about which no two questions are answered alike. -/
theorem answer_example_injective :
    Function.Injective fun question => answer question (some .example) := by
  have different : (Question.all.map fun question => answer question (some .example)).Nodup := by
    decide +kernel
  intro question other same
  exact List.inj_on_of_nodup_map different question.mem_all other.mem_all same

/-- A request is answered as a question is, whatever is known, only if it is this question. -/
theorem reply_eq_answer_iff
    (request : String)
    (question : Question) :
    (∀ snapshot, reply request snapshot = answer question snapshot) ↔
      Question.parse? request = some question := by
  unfold reply
  cases Question.parse? request with
  | some asked =>
      rw [Option.some_inj]
      refine ⟨fun same => answer_example_injective (same (some .example)), ?_⟩
      rintro rfl snapshot
      rfl
  | none =>
      refine ⟨fun same => absurd (same none).symm (answer_ne_help question none), ?_⟩
      rintro ⟨⟩

/-- Given what is known, a request is answered as a question is only if it asks one that has the
same answer. -/
theorem reply_eq_answer_at_iff
    (request : String)
    (question : Question)
    (snapshot : Snapshot) :
    reply request snapshot = answer question snapshot ↔
      ∃ asked, Question.parse? request = some asked ∧
        answer asked snapshot = answer question snapshot := by
  unfold reply
  cases Question.parse? request with
  | some asked =>
      simp only [Option.some_inj, exists_eq_left']
  | none =>
      refine ⟨fun same => absurd same.symm (answer_ne_help question snapshot), ?_⟩
      rintro ⟨asked, ⟨⟩, _⟩

/-! ## From the bytes of a line to the reply -/

/-- A splitter may have looked at any part of a line before its newline arrives. -/
theorem looked_of_cursor_le
    {splitter : Splitter}
    {line : Bytes}
    (unbroken : newline ∉ line)
    (inside : splitter.cursor ≤ line.length)
    (rest : Bytes) :
    splitter.Looked (line ++ newline :: rest) := by
  have whole : splitter.Looked line :=
    ⟨inside, fun present => unbroken (List.mem_of_mem_take present)⟩
  exact whole.append (newline :: rest)

/-- A line within the limit is read by a splitter, with its newline or at the end of everything, and
wherever the splitter starts to look for the newline.  The text that is read is a question exactly
if the bytes of the line ask it.  Everything else gets the listing of words, which is the answer to
no question. -/
theorem vocabulary_is_recognised_exactly
    {line : Bytes}
    (unbroken : newline ∉ line)
    (short : (content line).length ≤ 1024) :
    (∃ text,
      (∀ cursor ≤ line.length,
        (∀ rest, (⟨defaultLimit, cursor⟩ : Splitter).decode (line ++ newline :: rest) =
          ⟨.line text, .new defaultLimit, rest⟩) ∧
        (line ≠ [] → (⟨defaultLimit, cursor⟩ : Splitter).decodeEnd line =
          ⟨.line text, .new defaultLimit, []⟩)) ∧
      (∀ question, (∀ snapshot, reply text snapshot = answer question snapshot) ↔
        Asks line question) ∧
      (∀ question snapshot, reply text snapshot = answer question snapshot ↔
        ∃ asked, Asks line asked ∧ answer asked snapshot = answer question snapshot) ∧
      ∀ snapshot, reply text snapshot = help ↔ ∀ question, ¬Asks line question) ∧
    (∀ question snapshot, answer question snapshot ≠ help) ∧
    ∀ request snapshot, reply request snapshot = help ↔
      ∀ question : Question, request ≠ question.token := by
  have read : lineText defaultLimit line = .ok (Text.lossy (content line)) := if_pos short
  refine ⟨⟨Text.lossy (content line), ?_, ?_, ?_, ?_⟩, answer_ne_help, ?_⟩
  · intro cursor inside
    refine ⟨fun rest => ?_, fun present => ?_⟩
    · have looked : Splitter.Looked ⟨defaultLimit, cursor⟩ (line ++ newline :: rest) :=
        looked_of_cursor_le unbroken inside rest
      rw [Splitter.decode_append_newline looked unbroken, read]
      rfl
    · have roomy : Lines.Roomy (⟨defaultLimit, cursor⟩ : Splitter).limit := by
        change Lines.Roomy defaultLimit
        decide
      have fits : line.length ≤ defaultLimit.toNat + 1 := by
        have counted := Lines.length_le_length_content_add_one line
        have number : defaultLimit.toNat = 1024 := rfl
        omega
      rw [Splitter.decodeEnd_of_not_mem roomy unbroken fits present, read]
      rfl
  · intro question
    rw [reply_eq_answer_iff, parse?_lossy_content_iff]
  · intro question snapshot
    simp only [reply_eq_answer_at_iff, parse?_lossy_content_iff]
  · intro snapshot
    rw [reply_eq_help_iff, Option.eq_none_iff_forall_ne_some]
    simp only [ne_eq, parse?_lossy_content_iff]
  · intro request snapshot
    rw [reply_eq_help_iff, Option.eq_none_iff_forall_ne_some]
    simp only [ne_eq, parse?_eq_some_iff]

/-- One carriage return does not count, and two do.  A byte that no character starts with is not
skipped. -/
theorem vocabulary_is_recognised_exactly_up_to_a_return :
    (∃ text,
      (∀ rest, (Splitter.new defaultLimit).decode (Text.utf8 "get_hw\r" ++ newline :: rest) =
        ⟨.line text, .new defaultLimit, rest⟩) ∧
      ∀ snapshot, reply text snapshot = answer .hardwareVersion snapshot) ∧
    ∀ line ∈ [Text.utf8 "get_hw\r\r", 0xFF :: Text.utf8 "get_hw"], ∃ text,
      (∀ rest, (Splitter.new defaultLimit).decode (line ++ newline :: rest) =
        ⟨.line text, .new defaultLimit, rest⟩) ∧
      ∀ snapshot, reply text snapshot = help := by
  refine ⟨?_, ?_⟩
  · have unbroken : newline ∉ Text.utf8 "get_hw\r" := by decide
    have short : (content (Text.utf8 "get_hw\r")).length ≤ 1024 := by decide
    obtain ⟨⟨text, read, asked, _⟩, _⟩ := vocabulary_is_recognised_exactly unbroken short
    exact ⟨text, (read 0 (Nat.zero_le _)).1, (asked .hardwareVersion).mpr (by decide)⟩
  · intro line listed
    have unasked : newline ∉ line ∧ (content line).length ≤ 1024 ∧
        ∀ question ∈ Question.all, ¬Asks line question := by
      revert line
      decide
    obtain ⟨unbroken, short, unasked⟩ := unasked
    obtain ⟨⟨text, read, _, _, unknown⟩, _⟩ := vocabulary_is_recognised_exactly unbroken short
    refine ⟨text, (read 0 (Nat.zero_le _)).1, fun snapshot => (unknown snapshot).mpr ?_⟩
    exact fun question => unasked question question.mem_all

end Query
end SerialShare
