import SerialShare.Proofs.Text.Numeral
import SerialShare.Record.Printer
import SerialShare.Proofs.Record.Blanks

/-!
# How names and numbers are spelled

A name may be marked as such, and a number can be given in four bases and with separators between
its digits.  This module says which texts spell which values, and that a reader finds the value in
each of them, as long as something follows that can be part of no name or number.  What is written
for a number is one of its spellings.
-/

namespace SerialShare
namespace Record

/-! ## What can follow -/

/-- The characters that end every name and number. -/
def delimiters : List Char :=
  [' ', '\t', '\n', '\r', '/', ',', ':', '(', ')']

/-- The input goes on with something that ends every name and number. -/
def Delimited (input : List Char) : Prop :=
  ∃ delimiter ∈ delimiters, ∃ rest, input = delimiter :: rest

/-- The input goes on with something that is no blank. -/
def Solid (input : List Char) : Prop :=
  ∃ character rest, input = character :: rest ∧ isSpace character = false ∧ character ≠ '/'

/-- No delimiter is a character of a certain kind. -/
abbrev Foreign (kind : Char → Bool) : Prop :=
  delimiters.any kind = false

theorem Foreign.eq_false
    {kind : Char → Bool}
    (foreign : Foreign kind)
    {delimiter : Char}
    (listed : delimiter ∈ delimiters) :
    kind delimiter = false :=
  Bool.eq_false_iff.mpr (List.any_eq_false.mp foreign delimiter listed)

/-- A character of such a kind is no delimiter. -/
theorem Foreign.not_mem
    {kind : Char → Bool}
    (foreign : Foreign kind)
    {character : Char}
    (ofKind : kind character = true) :
    character ∉ delimiters := by
  intro listed
  rw [foreign.eq_false listed] at ofKind
  cases ofKind

theorem Delimited.of_mem
    {delimiter : Char}
    (listed : delimiter ∈ delimiters)
    (rest : List Char) :
    Delimited (delimiter :: rest) :=
  ⟨delimiter, listed, rest, rfl⟩

theorem Solid.of_ne
    {character : Char}
    (noSpace : isSpace character = false)
    (noSlash : character ≠ '/')
    (rest : List Char) :
    Solid (character :: rest) :=
  ⟨character, rest, rfl, noSpace, noSlash⟩

theorem Delimited.startsWith_eq_false
    {input : List Char}
    (delimited : Delimited input)
    {kind : Char → Bool}
    (foreign : Foreign kind) :
    startsWith kind input = false := by
  obtain ⟨delimiter, listed, rest, rfl⟩ := delimited
  exact foreign.eq_false listed

/-- A reader that takes as much as it can stops at a delimiter. -/
theorem Delimited.takeWhile_append
    {input : List Char}
    (delimited : Delimited input)
    {kind : Char → Bool}
    (foreign : Foreign kind)
    {front : List Char}
    (inside : ∀ character ∈ front, kind character = true) :
    (front ++ input).takeWhile kind = front := by
  obtain ⟨delimiter, listed, rest, rfl⟩ := delimited
  rw [List.takeWhile_append_of_pos inside,
    List.takeWhile_cons_of_neg (by simp [foreign.eq_false listed]), List.append_nil]

theorem Delimited.dropWhile_append
    {input : List Char}
    (delimited : Delimited input)
    {kind : Char → Bool}
    (foreign : Foreign kind)
    {front : List Char}
    (inside : ∀ character ∈ front, kind character = true) :
    (front ++ input).dropWhile kind = input := by
  obtain ⟨delimiter, listed, rest, rfl⟩ := delimited
  rw [List.dropWhile_append_of_pos inside,
    List.dropWhile_cons_of_neg (by simp [foreign.eq_false listed])]

/-- What follows some characters is told apart from a character that neither is one of them nor
ends them. -/
theorem Delimited.append_ne_cons
    {input : List Char}
    (delimited : Delimited input)
    {character : Char}
    (foreign : character ∉ delimiters)
    {front : List Char}
    (absent : character ∉ front)
    (rest : List Char) :
    front ++ input ≠ character :: rest := by
  intro same
  cases front with
  | nil =>
      obtain ⟨delimiter, listed, later, rfl⟩ := delimited
      exact foreign ((List.cons.inj same).1 ▸ listed)
  | cons first later => exact absent ((List.cons.inj same).1 ▸ List.mem_cons_self)

theorem mem_delimiters_of_isSpace
    {character : Char}
    (space : isSpace character = true) :
    character ∈ delimiters := by
  simp only [isSpace, Bool.or_eq_true, beq_iff_eq] at space
  obtain ((rfl | rfl) | rfl) | rfl := space <;> decide

/-- Blanks begin with a delimiter, and so does whatever follows if there are none. -/
theorem Blanks.delimited_append
    {blanks rest : List Char}
    (isBlank : Blanks blanks)
    (delimited : Delimited rest) :
    Delimited (blanks ++ rest) := by
  cases isBlank with
  | none => exact delimited
  | space space _ => exact ⟨_, mem_delimiters_of_isSpace space, _, rfl⟩
  | line _ _ => exact ⟨'/', by decide, _, rfl⟩
  | block _ _ => exact ⟨'/', by decide, _, rfl⟩

theorem Solid.append
    {front : List Char}
    (solid : Solid front)
    (rest : List Char) :
    Solid (front ++ rest) := by
  obtain ⟨character, later, rfl, isSolid⟩ := solid
  exact ⟨character, later ++ rest, rfl, isSolid⟩

/-- Whatever begins with no delimiter is no blank. -/
theorem Solid.of_not_mem
    {character : Char}
    (foreign : character ∉ delimiters)
    (rest : List Char) :
    Solid (character :: rest) := by
  refine ⟨character, rest, rfl, ?_, ?_⟩
  · exact Bool.eq_false_iff.mpr fun space => foreign (mem_delimiters_of_isSpace space)
  · rintro rfl
    exact foreign (by decide)

/-- What is no blank is not skipped. -/
theorem Solid.skipBlanks_eq
    {input : List Char}
    (solid : Solid input) :
    skipBlanks input = some input := by
  obtain ⟨character, rest, rfl, noSpace, noSlash⟩ := solid
  simp [skipBlanks, skipFrom, noSpace, noSlash]

/-- Blanks in front of something else are skipped. -/
theorem Blanks.skipBlanks_append
    {blanks rest : List Char}
    (isBlank : Blanks blanks)
    (solid : Solid rest) :
    skipBlanks (blanks ++ rest) = some rest := by
  rw [Record.skipBlanks_append isBlank, solid.skipBlanks_eq]

theorem symbol?_self
    (symbol : Char)
    (rest : List Char) :
    symbol? symbol (symbol :: rest) = some rest :=
  if_pos rfl

theorem symbol?_of_ne
    {symbol character : Char}
    (different : character ≠ symbol)
    (rest : List Char) :
    symbol? symbol (character :: rest) = none :=
  if_neg different

/-! ## Names -/

/-- A name begins with a letter or an underscore, and goes on with these and with digits. -/
structure IsName (name : List Char) : Prop where
  /-- It begins with a letter or an underscore. -/
  start : startsWith isNameStart name = true
  /-- There is nothing else in it than letters, underscores and digits. -/
  parts : name.all isNamePart = true

/-- The spellings of a name: as it is, or marked as a name. -/
inductive SpellsName (name : List Char) : List Char → Prop
  /-- The name stands alone. -/
  | plain : SpellsName name name
  /-- The name is marked. -/
  | marked : SpellsName name ('r' :: '#' :: name)

theorem isMarkedPart_of_isNamePart
    {character : Char}
    (part : isNamePart character = true) :
    isMarkedPart character = true := by
  rw [isMarkedPart, part]
  rfl

theorem isNamePart_of_isNameStart
    {character : Char}
    (start : isNameStart character = true) :
    isNamePart character = true := by
  unfold isNameStart at start
  unfold isNamePart Char.isAlphanum
  grind

theorem IsName.exists_cons
    {name : List Char}
    (isName : IsName name) :
    ∃ first later, name = first :: later ∧ isNameStart first = true := by
  cases name with
  | nil => cases isName.start
  | cons first later => exact ⟨first, later, rfl, isName.start⟩

/-- A spelling of a name begins like a name. -/
theorem SpellsName.exists_cons
    {name text : List Char}
    (spells : SpellsName name text)
    (isName : IsName name) :
    ∃ first later, text = first :: later ∧ isNameStart first = true := by
  cases spells with
  | plain => exact isName.exists_cons
  | marked => exact ⟨'r', '#' :: name, rfl, rfl⟩

theorem foreign_isNameStart : Foreign isNameStart := by
  decide

theorem foreign_isNamePart : Foreign isNamePart := by
  decide

theorem foreign_isMarkedPart : Foreign isMarkedPart := by
  decide

theorem SpellsName.solid
    {name text : List Char}
    (spells : SpellsName name text)
    (isName : IsName name) :
    Solid text := by
  obtain ⟨first, later, rfl, start⟩ := spells.exists_cons isName
  exact .of_not_mem (foreign_isNameStart.not_mem start) later

/-- A name is found in each of its spellings. -/
theorem name?_append
    {name text rest : List Char}
    (spells : SpellsName name text)
    (isName : IsName name)
    (delimited : Delimited rest) :
    name? (text ++ rest) = some (name, rest) := by
  obtain ⟨first, later, rfl, start⟩ := isName.exists_cons
  have parts : ∀ character ∈ first :: later, isNamePart character = true :=
    List.all_eq_true.mp isName.parts
  have marked : ∀ character ∈ first :: later, isMarkedPart character = true :=
    fun character present => isMarkedPart_of_isNamePart (parts character present)
  cases spells with
  | marked =>
      have begins : startsWith isMarkedPart (first :: later ++ rest) = true :=
        marked first List.mem_cons_self
      rw [List.cons_append, List.cons_append, name?, if_pos begins,
        delimited.takeWhile_append foreign_isMarkedPart marked,
        delimited.dropWhile_append foreign_isMarkedPart marked]
  | plain =>
      -- Neither a mark of names nor that of a raw text stands behind the first letter.
      have second {mark : Char} (noDelimiter : mark ∉ delimiters)
          (noPart : isNamePart mark = false) :
          ∀ tail, first :: later ++ rest ≠ 'r' :: mark :: tail := by
        intro tail same
        refine delimited.append_ne_cons noDelimiter ?_ tail (List.cons.inj same).2
        intro present
        have part := parts mark (List.mem_cons_of_mem first present)
        rw [noPart] at part
        cases part
      unfold name?
      split
      · rename_i tail same
        exact absurd same (second (by decide) rfl tail)
      · rename_i tail same
        exact absurd same (second (by decide) rfl tail)
      · have begins : startsWith isNameStart (first :: later ++ rest) = true := start
        rw [delimited.takeWhile_append foreign_isNamePart parts,
          delimited.dropWhile_append foreign_isNamePart parts, begins,
          delimited.startsWith_eq_false foreign_isMarkedPart]
        rfl

/-! ## Numbers -/

/-- What marks the digits of each base. -/
def baseMarks : List (Nat × List Char) :=
  [(10, []), (16, ['0', 'x']), (8, ['0', 'o']), (2, ['0', 'b'])]

/-- The spellings of a number: digits of some base behind its mark, with separators anywhere behind
the first digit. -/
inductive SpellsNumber (value : Nat) : List Char → Prop
  /-- Without its separators the text is a numeral. -/
  | digits {base : Nat} {mark : List Char} {first : Char} {later : List Char} :
      (base, mark) ∈ baseMarks →
      Text.number? base (first :: later.filter (· ≠ '_')) = some value →
      SpellsNumber value (mark ++ first :: later)

theorem foreign_isDigitOrSeparator : Foreign isDigitOrSeparator := by
  decide

theorem digitIn?_separator (base : Nat) : Text.digitIn? base '_' = none := rfl

/-- A digit of any base can be part of a number. -/
theorem isDigitOrSeparator_of_digitIn?
    {base : Nat}
    {character : Char}
    (digit : (Text.digitIn? base character).isSome = true) :
    isDigitOrSeparator character = true := by
  rw [isDigitOrSeparator, Bool.or_eq_true]
  apply Or.inl
  rw [Text.digitIn?] at digit
  cases value : Text.digitValue? character with
  | none =>
      rw [value] at digit
      cases digit
  | some value => rfl

/-- A mark says which base the digits behind it have, and decimal digits are not taken for one. -/
theorem base_append
    {number : Nat}
    {mark digits : List Char}
    (marked : (number, mark) ∈ baseMarks)
    (unmarked : number = 10 →
      ∀ letter ∈ ['x', 'o', 'b'], ∀ tail, digits ≠ '0' :: letter :: tail) :
    base (mark ++ digits) = (number, digits) := by
  simp only [baseMarks, List.mem_cons, Prod.mk.injEq, List.not_mem_nil, or_false] at marked
  obtain ⟨rfl, rfl⟩ | ⟨rfl, rfl⟩ | ⟨rfl, rfl⟩ | ⟨rfl, rfl⟩ := marked
  · rw [List.nil_append]
    unfold base
    split
    · exact absurd rfl (unmarked rfl 'x' (by decide) _)
    · exact absurd rfl (unmarked rfl 'o' (by decide) _)
    · exact absurd rfl (unmarked rfl 'b' (by decide) _)
    · rfl
  · rfl
  · rfl
  · rfl

section Digits

variable {number value : Nat} {first : Char} {later : List Char}

/-- There is nothing in a spelling but separators and digits of its base. -/
theorem separator_or_digit_of_mem
    (spelled : Text.number? number (first :: later.filter (· ≠ '_')) = some value)
    {character : Char}
    (present : character ∈ first :: later) :
    character = '_' ∨ (Text.digitIn? number character).isSome = true := by
  by_cases separator : character = '_'
  · exact Or.inl separator
  · apply Or.inr
    apply Text.isSome_digitIn?_of_mem (Text.appendDigits?_of_number? spelled)
    simpa [separator] using present

theorem first_ne_separator
    (spelled : Text.number? number (first :: later.filter (· ≠ '_')) = some value) :
    first ≠ '_' := by
  rintro rfl
  have digit := Text.isSome_digitIn?_of_mem (Text.appendDigits?_of_number? spelled)
    List.mem_cons_self
  rw [digitIn?_separator] at digit
  cases digit

/-- Decimal digits do not look as if they were marked. -/
theorem unmarked_of_decimal
    (spelled : Text.number? 10 (first :: later.filter (· ≠ '_')) = some value)
    {rest : List Char}
    (delimited : Delimited rest) :
    ∀ letter ∈ ['x', 'o', 'b'], ∀ tail, first :: later ++ rest ≠ '0' :: letter :: tail := by
  intro letter isLetter tail same
  have foreign : letter ∉ delimiters ∧ letter ≠ '_' ∧ Text.digitIn? 10 letter = none := by
    simp only [List.mem_cons, List.not_mem_nil, or_false] at isLetter
    obtain rfl | rfl | rfl := isLetter <;> exact ⟨by decide, by decide, rfl⟩
  obtain ⟨noDelimiter, noSeparator, noDigit⟩ := foreign
  refine delimited.append_ne_cons noDelimiter ?_ tail (List.cons.inj same).2
  intro present
  obtain separator | digit :=
    separator_or_digit_of_mem spelled (List.mem_cons_of_mem first present)
  · exact noSeparator separator
  · rw [noDigit] at digit
    cases digit

end Digits

/-- No spelling of a number begins with a blank. -/
theorem SpellsNumber.solid
    {value : Nat}
    {text : List Char}
    (spells : SpellsNumber value text) :
    Solid text := by
  obtain @⟨base, mark, first, later, marked, spelled⟩ := spells
  simp only [baseMarks, List.mem_cons, Prod.mk.injEq, List.not_mem_nil, or_false] at marked
  have zero : '0' ∉ delimiters := by decide
  obtain ⟨rfl, rfl⟩ | ⟨rfl, rfl⟩ | ⟨rfl, rfl⟩ | ⟨rfl, rfl⟩ := marked
  · have digit := Text.isSome_digitIn?_of_mem (Text.appendDigits?_of_number? spelled)
      List.mem_cons_self
    exact .of_not_mem
      (foreign_isDigitOrSeparator.not_mem (isDigitOrSeparator_of_digitIn? digit)) later
  · exact .of_not_mem zero _
  · exact .of_not_mem zero _
  · exact .of_not_mem zero _

/-- A number is found in each of its spellings. -/
theorem natural?_append
    {value : Nat}
    {text rest : List Char}
    (spells : SpellsNumber value text)
    (delimited : Delimited rest) :
    natural? (text ++ rest) = some (value, rest) := by
  cases spells with
  | @digits number mark first later marked spelled =>
      have unmarked (decimal : number = 10) :=
        unmarked_of_decimal (decimal ▸ spelled) delimited
      have parts : ∀ character ∈ first :: later, isDigitOrSeparator character = true := by
        intro character present
        obtain rfl | digit := separator_or_digit_of_mem spelled present
        · rfl
        · exact isDigitOrSeparator_of_digitIn? digit
      have digits : (first :: later).filter (· ≠ '_') = first :: later.filter (· ≠ '_') :=
        List.filter_cons_of_pos (by simpa using first_ne_separator spelled)
      rw [natural?, List.append_assoc, base_append marked unmarked]
      simp only [delimited.takeWhile_append foreign_isDigitOrSeparator parts,
        delimited.dropWhile_append foreign_isDigitOrSeparator parts]
      split
      · rename_i empty
        cases empty
      · rename_i separator
        exact absurd (List.cons.inj separator).1 (first_ne_separator spelled)
      · rw [digits, spelled]
        rfl

theorem naturalBelow?_append
    {bound value : Nat}
    {text rest : List Char}
    (spells : SpellsNumber value text)
    (small : value < bound)
    (delimited : Delimited rest) :
    naturalBelow? bound (text ++ rest) = some (value, rest) := by
  rw [naturalBelow?, natural?_append spells delimited]
  simp [small]

/-- What is written for a number spells it. -/
theorem spellsNumber_numberOf (value : Nat) : SpellsNumber value (numberOf value) := by
  have read := Text.number?_decimal value
  have digits : ∀ digit ∈ Text.decimal value, digit ≠ '_' := by
    rintro digit present rfl
    exact absurd (Text.isDigit_of_mem_decimal present) (by decide)
  rw [numberOf]
  cases written : Text.decimal value with
  | nil => exact absurd written Nat.toDigits_ne_nil
  | cons first later =>
      rw [written] at read digits
      have separated : later.filter (· ≠ '_') = later := by
        rw [List.filter_eq_self]
        intro digit present
        simpa using digits digit (List.mem_cons_of_mem first present)
      have listed : (10, []) ∈ baseMarks := by decide
      rw [← separated] at read
      exact .digits listed read

/-! ## Truth values -/

/-- A truth value is found where it is written. -/
theorem boolean?_append
    (value : Bool)
    (rest : List Char) :
    boolean? (booleanOf value ++ rest) = some (value, rest) := by
  cases value with
  | true => rfl
  | false => rfl

theorem solid_booleanOf (value : Bool) : Solid (booleanOf value) := by
  cases value with
  | true => exact .of_not_mem (by decide : 't' ∉ delimiters) _
  | false => exact .of_not_mem (by decide : 'f' ∉ delimiters) _

end Record
end SerialShare
