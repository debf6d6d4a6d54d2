import SerialShare.Proofs.Record.Form

/-!
# What a document says

A document is a record with blanks around it and perhaps a head, in which it asks for extensions.
The extensions do not change what the record means: a reader finds all its entries.
-/

namespace SerialShare
namespace Record

/-! ## Documents -/

/-- The texts of the name of an extension, with blanks behind it. -/
inductive SpellsExtension : List Char → Prop
  /-- The name is one of those that are known. -/
  | name {extension : String} {text after : List Char} :
      extension ∈ extensions → SpellsName extension.toList text → Blanks after →
      SpellsExtension (text ++ after)

/-- The texts of some names of extensions, with commas between them and perhaps one more at the
end. -/
inductive SpellsExtensions : List Char → Prop
  /-- No comma stands behind the last one. -/
  | last {text : List Char} :
      SpellsExtension text → SpellsExtensions text
  /-- A comma stands behind the last one. -/
  | comma {text after : List Char} :
      SpellsExtension text → Blanks after → SpellsExtensions (text ++ ',' :: after)
  /-- There are more of them. -/
  | more {text after rest : List Char} :
      SpellsExtension text → Blanks after → SpellsExtensions rest →
      SpellsExtensions (text ++ ',' :: after ++ rest)

/-- The texts that ask for extensions, with blanks behind each of their parts. -/
inductive SpellsAttribute : List Char → Prop
  /-- The names of the extensions stand in brackets behind the word that enables them. -/
  | enable {hash mark square word round names inner outer : List Char} :
      Blanks hash → Blanks mark → Blanks square → Blanks word → Blanks round →
      SpellsExtensions names → Blanks inner → Blanks outer →
      SpellsAttribute ('#' :: hash ++ '!' :: mark ++ '[' :: square ++ "enable".toList ++ word ++
        '(' :: round ++ names ++ ')' :: inner ++ ']' :: outer)

/-- The heads of documents. -/
inductive SpellsHead : List Char → Prop
  /-- The document asks for nothing. -/
  | none : SpellsHead []
  /-- The document asks for some extensions and goes on. -/
  | more {text rest : List Char} :
      SpellsAttribute text → SpellsHead rest → SpellsHead (text ++ rest)

/-- The texts of a document with a record in it. -/
inductive SpellsDocument (form : Form) (said : form.Said) : List Char → Prop
  /-- The record comes after the head, and nothing comes after it. -/
  | record {before head text after : List Char} :
      Blanks before → SpellsHead head → SpellsRecord form said text → LastBlanks after →
      SpellsDocument form said (before ++ head ++ text ++ after)

/-! ## Heads -/

theorem symbolAndBlanks?_append
    (symbol : Char)
    {blanks rest : List Char}
    (isBlank : Blanks blanks)
    (solid : Solid rest) :
    symbolAndBlanks? symbol (symbol :: (blanks ++ rest)) = some rest := by
  rw [symbolAndBlanks?, symbol?_self, Option.bind_some, isBlank.skipBlanks_append solid]

theorem isName_extension
    {extension : String}
    (listed : extension ∈ extensions) :
    IsName extension.toList := by
  have all : (extensions.all fun extension =>
      startsWith isNameStart extension.toList && extension.toList.all isNamePart) = true := by
    decide
  obtain ⟨start, parts⟩ := Bool.and_eq_true_iff.mp (List.all_eq_true.mp all extension listed)
  exact ⟨start, parts⟩

theorem SpellsExtension.exists_cons
    {text : List Char}
    (spells : SpellsExtension text) :
    ∃ first later, text = first :: later ∧ isNameStart first = true := by
  obtain ⟨listed, isName, _⟩ := spells
  obtain ⟨first, later, rfl, start⟩ := isName.exists_cons (isName_extension listed)
  exact ⟨first, _, rfl, start⟩

theorem SpellsExtensions.exists_cons
    {names : List Char}
    (spells : SpellsExtensions names) :
    ∃ first later, names = first :: later ∧ isNameStart first = true := by
  cases spells with
  | last isExtension => exact isExtension.exists_cons
  | comma isExtension _ | more isExtension _ _ =>
      obtain ⟨first, later, rfl, start⟩ := isExtension.exists_cons
      exact ⟨first, _, rfl, start⟩

theorem SpellsExtensions.solid
    {names : List Char}
    (spells : SpellsExtensions names) :
    Solid names := by
  obtain ⟨first, later, rfl, start⟩ := spells.exists_cons
  exact .of_not_mem (foreign_isNameStart.not_mem start) later

/-- The name of an extension is read and recognised, and then the blanks behind it. -/
theorem name?_of_spellsExtension
    {text : List Char}
    (spells : SpellsExtension text)
    {rest : List Char}
    (delimited : Delimited rest)
    (solid : Solid rest) :
    ∃ name input, ((name? (text ++ rest)).filter fun named =>
        extensions.any fun extension => extension.toList == named.1) = some (name, input) ∧
      skipBlanks input = some rest := by
  obtain @⟨extension, text, after, listed, isName, isAfter⟩ := spells
  refine ⟨extension.toList, after ++ rest, ?_, isAfter.skipBlanks_append solid⟩
  rw [List.append_assoc, name?_append isName (isName_extension listed)
    (isAfter.delimited_append delimited)]
  apply Option.filter_some_pos
  exact List.any_eq_true.mpr ⟨extension, listed, beq_self_eq_true _⟩

/-- The names of extensions are read up to the bracket that ends them. -/
theorem extensionsWithin_append
    {names : List Char}
    (spells : SpellsExtensions names)
    {most : Nat}
    (enough : names.length ≤ most)
    (rest : List Char) :
    extensionsWithin (most + 1) (names ++ ')' :: rest) = some (')' :: rest) := by
  have solidEnd : Solid (')' :: rest) := .of_ne rfl (by decide) rest
  have noName : startsWith isNamePart (')' :: rest) = false := rfl
  induction spells generalizing most with
  | last isExtension =>
      obtain ⟨name, input, found, skipped⟩ :=
        name?_of_spellsExtension isExtension (.of_mem (by decide) rest) solidEnd
      have noComma : symbolAndBlanks? ',' (')' :: rest) = none := rfl
      simp [extensionsWithin, found, skipped, noComma, noName]
  | @comma text after isExtension isAfter =>
      have delimited : Delimited (',' :: (after ++ ')' :: rest)) := .of_mem (by decide) _
      have solid : Solid (',' :: (after ++ ')' :: rest)) := .of_ne rfl (by decide) _
      obtain ⟨name, input, found, skipped⟩ := name?_of_spellsExtension isExtension delimited solid
      simp [extensionsWithin, found, skipped, symbolAndBlanks?_append ',' isAfter solidEnd, noName]
  | @more text after later isExtension isAfter isExtensions inductionHypothesis =>
      have shorter : later.length < most := by
        simp only [List.length_append, List.length_cons] at enough
        omega
      obtain ⟨most, rfl⟩ := Nat.exists_eq_succ_of_ne_zero (Nat.ne_zero_of_lt shorter)
      have delimited : Delimited (',' :: (after ++ (later ++ ')' :: rest))) := .of_mem (by decide) _
      have solid : Solid (',' :: (after ++ (later ++ ')' :: rest))) := .of_ne rfl (by decide) _
      obtain ⟨name, input, found, skipped⟩ := name?_of_spellsExtension isExtension delimited solid
      have isMore : startsWith isNamePart (later ++ ')' :: rest) = true := by
        obtain ⟨first, later, rfl, start⟩ := isExtensions.exists_cons
        exact isNamePart_of_isNameStart start
      rw [extensionsWithin]
      simp [found, skipped,
        symbolAndBlanks?_append ',' isAfter (isExtensions.solid.append (')' :: rest)), isMore,
        inductionHypothesis (Nat.le_of_lt_succ shorter)]

/-- What asks for extensions is read up to whatever comes after it. -/
theorem attribute?_append
    {text : List Char}
    (spells : SpellsAttribute text)
    {rest : List Char}
    (solid : Solid rest) :
    attribute? (text ++ rest) = some rest := by
  obtain @⟨hash, mark, square, word, round, names, inner, outer, isHash, isMark, isSquare, isWord,
    isRound, isNames, isInner, isOuter⟩ := spells
  have solidSquare : Solid (']' :: (outer ++ rest)) := .of_ne rfl (by decide) _
  have solidNames := isNames.solid.append (')' :: (inner ++ ']' :: (outer ++ rest)))
  have solidRound : Solid ('(' :: (round ++ (names ++ ')' :: (inner ++ ']' :: (outer ++ rest))))) :=
    .of_ne rfl (by decide) _
  have solidWord : Solid ("enable".toList ++
      (word ++ '(' :: (round ++ (names ++ ')' :: (inner ++ ']' :: (outer ++ rest)))))) :=
    .of_ne rfl (by decide) _
  have enabled (rest : List Char) :
      "enable".toList.isPrefixOf? ("enable".toList ++ rest) = some rest :=
    rfl
  have enough : names.length ≤ (names ++ ')' :: (inner ++ ']' :: (outer ++ rest))).length :=
    (List.prefix_append names _).length_le
  -- The parts are read from the first to the last, and each leaves what the next one begins with.
  simp only [attribute?, List.cons_append, List.append_assoc]
  rw [symbolAndBlanks?_append '#' isHash (.of_ne rfl (by decide) _)]
  simp only [Option.bind_eq_bind, Option.bind_some]
  rw [symbolAndBlanks?_append '!' isMark (.of_ne rfl (by decide) _)]
  simp only [Option.bind_some]
  rw [symbolAndBlanks?_append '[' isSquare solidWord]
  simp only [Option.bind_some, enabled]
  rw [isWord.skipBlanks_append solidRound]
  simp only [Option.bind_some]
  rw [symbolAndBlanks?_append '(' isRound solidNames]
  simp only [Option.bind_some]
  rw [extensionsWithin_append isNames enough]
  simp only [Option.bind_some]
  rw [symbolAndBlanks?_append ')' isInner solidSquare]
  exact symbolAndBlanks?_append ']' isOuter solid

theorem SpellsAttribute.exists_cons
    {text : List Char}
    (spells : SpellsAttribute text) :
    ∃ later, text = '#' :: later := by
  obtain ⟨_, _, _, _, _, _, _, _⟩ := spells
  exact ⟨_, rfl⟩

theorem SpellsHead.solid_append
    {head rest : List Char}
    (spells : SpellsHead head)
    (solid : Solid rest) :
    Solid (head ++ rest) := by
  cases spells with
  | none => exact solid
  | more isAttribute _ =>
      obtain ⟨later, rfl⟩ := isAttribute.exists_cons
      exact .of_ne rfl (by decide) _

/-- The head of a document is read up to the record. -/
theorem headWithin_append
    {head : List Char}
    (spells : SpellsHead head)
    {most : Nat}
    (enough : head.length ≤ most)
    {rest : List Char}
    (solid : Solid rest)
    (noHash : ∀ later, rest ≠ '#' :: later) :
    headWithin (most + 1) (head ++ rest) = some rest := by
  induction spells generalizing most with
  | none =>
      rw [List.nil_append]
      unfold headWithin
      split
      · exact absurd rfl (noHash _)
      · rfl
  | @more text later isAttribute isHead inductionHypothesis =>
      have found := attribute?_append isAttribute (isHead.solid_append solid)
      obtain ⟨inner, rfl⟩ := isAttribute.exists_cons
      have shorter : later.length < most := by
        simp only [List.length_append, List.length_cons] at enough
        omega
      obtain ⟨most, rfl⟩ := Nat.exists_eq_succ_of_ne_zero (Nat.ne_zero_of_lt shorter)
      rw [List.append_assoc, List.cons_append, headWithin, ← List.cons_append, found,
        Option.bind_some, inductionHypothesis (Nat.le_of_lt_succ shorter)]

/-! ## Records with heads -/

/-- A document is read with all entries of its record. -/
theorem document?_eq_some
    {form : Form}
    {State : Type}
    {Slot : form.Field → Type}
    {store : (field : form.Field) → form.Value field → Slot field}
    {held : State → (field : form.Field) → Option (Slot field)}
    {read : State → List Char → List Char → Option (State × List Char)}
    (reads : form.ReadBy store held read)
    {said : form.Said}
    {text : List Char}
    (spells : SpellsDocument form said text)
    {state : State}
    (empty : ∀ field, held state field = none) :
    ∃ final, document? form.name read state text = some final ∧
      ∀ field, held final field = (said.value? field).map (store field) := by
  obtain @⟨before, head, text, after, isBefore, isHead, isRecord, isAfter⟩ := spells
  obtain ⟨final, found, holds⟩ := record?_append reads isRecord empty after
  refine ⟨final, ?_, holds⟩
  have solid := isRecord.solid.append after
  have skipped := isBefore.skipBlanks_append (isHead.solid_append solid)
  have noHash : ∀ later, text ++ after ≠ '#' :: later := by
    obtain ⟨first, inner, rfl, first_eq⟩ := isRecord.exists_cons
    rintro later same
    obtain rfl : first = '#' := (List.cons.inj same).1
    revert first_eq
    decide
  have enough : head.length ≤ (head ++ (text ++ after)).length :=
    (List.prefix_append head _).length_le
  have behindHead := headWithin_append isHead enough solid noHash
  rw [document?, List.append_assoc, List.append_assoc, skipped]
  simp only [Option.bind_eq_bind, Option.bind_some, behindHead, found,
    skipBlanks_of_lastBlanks isAfter]
  rfl

end Record
end SerialShare
