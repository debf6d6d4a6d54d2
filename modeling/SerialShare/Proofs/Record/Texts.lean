import Mathlib.Data.List.Forall2
import SerialShare.Proofs.Record.Spelling

/-!
# How texts are spelled

A text stands between quotation marks, with any of its characters written as escapes, or it stands
as it is between marks that do not occur in it.  A reader finds the text in each of these spellings,
and what is written for a text is one of them.
-/

namespace SerialShare
namespace Record

/-! ## Spellings -/

/-- The characters that can stand behind a backslash, and what they mean there. -/
def escapes : List (Char × Char) :=
  [('"', '"'), ('\\', '\\'), ('\x27', '\x27'), ('n', '\n'), ('r', '\r'), ('t', '\t'),
    ('0', '\x00')]

/-- The spellings of a character between quotation marks. -/
inductive SpellsCharacter : Char → List Char → Prop
  /-- It stands for itself. -/
  | plain {character : Char} :
      character ≠ '"' → character ≠ '\\' → SpellsCharacter character [character]
  /-- Another character stands for it behind a backslash. -/
  | escape {mark character : Char} :
      (mark, character) ∈ escapes → SpellsCharacter character ['\\', mark]
  /-- It is given by two digits. -/
  | pair {high low : Char} {first second : Nat} :
      Text.digitIn? 16 high = some first → Text.digitIn? 16 low = some second →
      SpellsCharacter (Char.ofNat (16 * first + second)) ['\\', 'x', high, low]
  /-- It is given by its code point. -/
  | codePoint {digits : List Char} {value : Nat} :
      Text.number? 16 digits = some value → digits.length ≤ 6 → value.isValidChar →
      SpellsCharacter (Char.ofNat value) (['\\', 'u', '\x7b'] ++ digits ++ ['\x7d'])

/-- The mark that ends a text without escapes. -/
def rawMark (hashes : Nat) : List Char :=
  '"' :: List.replicate hashes '#'

/-- The spellings of a text. -/
inductive SpellsText (characters : List Char) : List Char → Prop
  /-- Each of its characters is spelled between quotation marks. -/
  | quoted {pieces : List (List Char)} :
      List.Forall₂ SpellsCharacter characters pieces →
      SpellsText characters ('"' :: pieces.flatten ++ ['"'])
  /-- It stands as it is before a mark that does not occur in it. -/
  | raw {hashes : Nat} :
      ¬ rawMark hashes <:+: characters →
      SpellsText characters
        ('r' :: List.replicate hashes '#' ++ '"' :: characters ++ rawMark hashes)

/-! ## Reading -/

theorem escaped?_of_mem
    {mark character : Char}
    (listed : (mark, character) ∈ escapes) :
    escaped? mark = some character := by
  have all : (escapes.all fun entry => escaped? entry.1 == some entry.2) = true := by decide
  exact eq_of_beq (List.all_eq_true.mp all _ listed)

/-- The digits of a code point are read up to the brace, as long as there are at most six. -/
theorem quotedFrom_codePoint
    {digits : List Char}
    {value read known : Nat}
    (spelled : Text.appendDigits? 16 value digits = some read)
    (short : known + digits.length ≤ 6)
    (rest : List Char) :
    quotedFrom '"' (.codePoint known value) (digits ++ '\x7d' :: rest) =
      if known + digits.length ≠ 0 ∧ read.isValidChar then
        push (Char.ofNat read) (quotedFrom '"' .between rest)
      else none := by
  induction digits generalizing known value with
  | nil =>
      obtain rfl := Option.some.inj spelled
      rfl
  | cons digit later inductionHypothesis =>
      have isDigit := Text.isSome_digitIn?_of_mem spelled List.mem_cons_self
      obtain ⟨first, isFirst⟩ := Option.isSome_iff_exists.mp isDigit
      have noBrace : digit ≠ '\x7d' := by
        rintro rfl
        cases isFirst
      rw [Text.appendDigits?, isFirst] at spelled
      rw [List.length_cons] at short
      rw [List.cons_append, quotedFrom, if_neg noBrace, if_pos (by omega), isFirst]
      simp only
      rw [inductionHypothesis spelled (by omega), List.length_cons]
      congr 1
      grind

/-- A character is found in each of its spellings. -/
theorem quotedFrom_append
    {character : Char}
    {piece : List Char}
    (spells : SpellsCharacter character piece)
    (rest : List Char) :
    quotedFrom '"' .between (piece ++ rest) = push character (quotedFrom '"' .between rest) := by
  cases spells with
  | plain noMark noBackslash => simp [quotedFrom, noMark, noBackslash]
  | escape listed => simp [quotedFrom, escaped?_of_mem listed]
  | pair high low =>
      have noEscape : escaped? 'x' = none := rfl
      simp [quotedFrom, noEscape, high, low]
  | @codePoint digits value spelled short valid =>
      have noEscape : escaped? 'u' = none := rfl
      have some_digit : digits.length ≠ 0 := by
        rintro empty
        rw [List.length_eq_zero_iff.mp empty] at spelled
        cases spelled
      have read := quotedFrom_codePoint (Text.appendDigits?_of_number? spelled)
        ((Nat.zero_add digits.length).symm ▸ short) rest
      simpa [quotedFrom, noEscape, some_digit, valid] using read

/-- The characters of a text are found in their spellings. -/
theorem quotedFrom_flatten_append
    {characters : List Char}
    {pieces : List (List Char)}
    (spells : List.Forall₂ SpellsCharacter characters pieces)
    (rest : List Char) :
    quotedFrom '"' .between (pieces.flatten ++ '"' :: rest) = some (characters, rest) := by
  induction spells with
  | nil => rfl
  | cons first later inductionHypothesis =>
      rw [List.flatten_cons, List.append_assoc, quotedFrom_append first, inductionHypothesis]
      rfl

/-- Hashes at the beginning of a text with a quotation mark behind it are in the text. -/
theorem replicate_isPrefix_of_isPrefix_append
    {hashes : Nat}
    {text rest : List Char}
    (begins : List.replicate hashes '#' <+: text ++ '"' :: rest) :
    List.replicate hashes '#' <+: text := by
  induction hashes generalizing text with
  | zero => exact List.nil_prefix
  | succ hashes inductionHypothesis =>
      cases text with
      | nil => simp [List.replicate_succ, List.cons_prefix_cons] at begins
      | cons character text =>
          rw [List.replicate_succ, List.cons_append, List.cons_prefix_cons] at begins
          rw [List.replicate_succ, List.cons_prefix_cons]
          exact ⟨begins.1, inductionHypothesis begins.2⟩

/-- A text without escapes is read up to its mark. -/
theorem rawFrom_append
    {hashes : Nat}
    {characters : List Char}
    (absent : ¬ rawMark hashes <:+: characters)
    (rest : List Char) :
    rawFrom hashes (characters ++ rawMark hashes ++ rest) = some (characters, rest) := by
  induction characters with
  | nil =>
      have begins : (List.replicate hashes '#').isPrefixOf (List.replicate hashes '#' ++ rest) := by
        simp
      have behind : (List.replicate hashes '#' ++ rest).drop hashes = rest := by
        simp
      rw [List.nil_append, rawMark, List.cons_append, rawFrom, if_pos ⟨rfl, begins⟩, behind]
  | cons character later inductionHypothesis =>
      have absentLater : ¬ rawMark hashes <:+: later := fun inside =>
        absent (inside.trans (List.suffix_cons character later).isInfix)
      have noMark : ¬ (character = '"' ∧
          (List.replicate hashes '#').isPrefixOf (later ++ rawMark hashes ++ rest) = true) := by
        rintro ⟨rfl, begins⟩
        rw [List.isPrefixOf_iff_prefix, List.append_assoc] at begins
        have inside := replicate_isPrefix_of_isPrefix_append begins
        apply absent
        apply List.IsPrefix.isInfix
        exact List.cons_prefix_cons.mpr ⟨rfl, inside⟩
      rw [List.cons_append, List.cons_append, rawFrom, if_neg noMark,
        inductionHypothesis absentLater]
      rfl

/-- A text is found in each of its spellings. -/
theorem text?_append
    {characters text : List Char}
    (spells : SpellsText characters text)
    (rest : List Char) :
    text? (text ++ rest) = some (characters, rest) := by
  cases spells with
  | quoted pieces =>
      rw [List.append_assoc]
      exact quotedFrom_flatten_append pieces rest
  | @raw hashes absent =>
      have count (rest : List Char) :
          (List.replicate hashes '#' ++ '"' :: rest).takeWhile (· == '#') =
            List.replicate hashes '#' := by
        simp
      have behind (rest : List Char) :
          (List.replicate hashes '#' ++ '"' :: rest).drop hashes = '"' :: rest := by
        simp
      simp only [List.cons_append, List.append_assoc, text?, count, List.length_replicate, behind]
      rw [← List.append_assoc]
      exact rawFrom_append absent rest

/-- No spelling of a text begins with a blank. -/
theorem SpellsText.solid
    {characters text : List Char}
    (spells : SpellsText characters text) :
    Solid text := by
  cases spells with
  | quoted _ => exact .of_not_mem (by decide : '"' ∉ delimiters) _
  | raw _ => exact .of_not_mem (by decide : 'r' ∉ delimiters) _

/-! ## Writing -/

/-- What is written for a character spells it. -/
theorem spellsCharacter_quotation
    (character : Char) :
    SpellsCharacter character (quotation.character character) := by
  have shown (unmarked : ¬ (character = '"' ∨ character = '\\')) :
      SpellsCharacter character [character] :=
    .plain (fun mark => unmarked (Or.inl mark)) (fun backslash => unmarked (Or.inr backslash))
  unfold Text.Quotation.character
  split_ifs with zero tabulator carriageReturn newline mark apostrophe escapes hidden
  · exact zero ▸ .escape (by decide)
  · exact tabulator ▸ .escape (by decide)
  · exact carriageReturn ▸ .escape (by decide)
  · exact newline ▸ .escape (by decide)
  · obtain rfl | rfl := mark
    · exact .escape (by decide)
    · exact .escape (by decide)
  · exact apostrophe ▸ .escape (by decide)
  · exact shown mark
  · have valid : character.toNat.isValidChar := character.valid
    have short : (Text.hexadecimal character.toNat).length ≤ 6 := by
      rw [Text.hexadecimal, Nat.length_toDigits_le_iff (by decide) (by decide)]
      unfold Nat.isValidChar at valid
      omega
    have spells := SpellsCharacter.codePoint
      (Text.number?_hexadecimal character.toNat) short valid
    rwa [Char.ofNat_toNat] at spells
  · exact shown mark

/-- What is written for a text spells it. -/
theorem spellsText_textOf
    (text : String) :
    SpellsText text.toList (textOf text) := by
  apply SpellsText.quoted
  rw [List.forall₂_map_right_iff, List.forall₂_same]
  exact fun character _ => spellsCharacter_quotation character

end Record
end SerialShare
