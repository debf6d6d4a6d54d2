import Mathlib.Data.List.Sigma
import SerialShare.Proofs.Record.Spelling
import SerialShare.Record.Skip

/-!
# What a record says

A record consists of entries with names, in any order, of which each can be there or not.  A form
says which entries its records can have and how the values of each are spelled.  This module says
which texts are records of a form, and what a reader makes of them: it finds the value of every
entry that is there and leaves the others alone.  What is written with the names of a form is such a
text.
-/

namespace SerialShare
namespace Record

/-! ## Forms -/

/-- The entries that the records of a kind can have. -/
structure Form where
  /-- The name that a record of this form may be given. -/
  name : String
  /-- The entries it can have. -/
  Field : Type
  /-- Entries can be told apart. -/
  [decidableField : DecidableEq Field]
  /-- The values of each entry. -/
  Value : Field → Type
  /-- The name of each entry. -/
  key : Field → String
  /-- The texts that spell a value. -/
  Spells : (field : Field) → Value field → List Char → Prop
  /-- The name of the form is a name. -/
  isName_name : IsName name.toList
  /-- The name of each entry is a name. -/
  isName_key : ∀ field, IsName (key field).toList
  /-- No spelling of a value begins with a blank. -/
  solid : ∀ {field : Field} {value : Value field} {text : List Char},
    Spells field value text → Solid text

attribute [instance] Form.decidableField

/-- What a record says: some of its entries with their values, in some order and each at most
once. -/
structure Form.Said (form : Form) where
  /-- The entries that are there. -/
  entries : List (Sigma form.Value)
  /-- No entry is there twice. -/
  distinct : entries.NodupKeys

/-- The value that a record gives to an entry. -/
def Form.Said.value?
    {form : Form}
    (said : form.Said)
    (field : form.Field) :
    Option (form.Value field) :=
  said.entries.dlookup field

/-- What a record says in which some entries have given values. -/
def Form.Said.ofValues
    {form : Form}
    (fields : List form.Field)
    (distinct : fields.Nodup)
    (value : (field : form.Field) → form.Value field) :
    form.Said where
  entries := fields.map fun field => ⟨field, value field⟩
  distinct := by
    rw [List.NodupKeys, List.keys, List.map_map]
    exact (List.map_id fields).symm ▸ distinct

/-- What a record says without one of its entries. -/
def Form.Said.erase
    {form : Form}
    (said : form.Said)
    (field : form.Field) :
    form.Said :=
  ⟨said.entries.kerase field, said.distinct.kerase field⟩

theorem Form.Said.value?_erase
    {form : Form}
    (said : form.Said)
    (field other : form.Field) :
    (said.erase field).value? other = if other = field then none else said.value? other := by
  split_ifs with same
  · subst same
    exact List.dlookup_kerase other said.distinct
  · exact List.dlookup_kerase_ne same

section

variable {form : Form}

/-- The texts of an entry: its name, a colon and a spelling of its value, with blanks in front of
each. -/
inductive SpellsEntry (form : Form) : Sigma form.Value → List Char → Prop
  /-- The three come one after the other. -/
  | entry {field : form.Field} {value : form.Value field}
      {before name between behind text : List Char} :
      Blanks before → SpellsName (form.key field).toList name → Blanks between →
      Blanks behind → form.Spells field value text →
      SpellsEntry form ⟨field, value⟩ (before ++ name ++ between ++ ':' :: behind ++ text)

/-- The texts of some entries, with commas between them and perhaps one more at the end. -/
inductive SpellsEntries (form : Form) : List (Sigma form.Value) → List Char → Prop
  /-- There are none. -/
  | none {blanks : List Char} : Blanks blanks → SpellsEntries form [] blanks
  /-- No comma stands behind the last one. -/
  | last {entry : Sigma form.Value} {text after : List Char} :
      SpellsEntry form entry text → Blanks after → SpellsEntries form [entry] (text ++ after)
  /-- A comma stands behind the first one. -/
  | more {entry : Sigma form.Value} {entries : List (Sigma form.Value)}
      {text after rest : List Char} :
      SpellsEntry form entry text → Blanks after → SpellsEntries form entries rest →
      SpellsEntries form (entry :: entries) (text ++ after ++ ',' :: rest)

/-- The texts of a record: its entries in brackets, with or without the name of the form. -/
inductive SpellsRecord (form : Form) (said : form.Said) : List Char → Prop
  /-- There is no name. -/
  | unnamed {text : List Char} :
      SpellsEntries form said.entries text → SpellsRecord form said ('(' :: text ++ [')'])
  /-- The name stands in front of the brackets. -/
  | named {name between text : List Char} :
      SpellsName form.name.toList name → Blanks between → SpellsEntries form said.entries text →
      SpellsRecord form said (name ++ between ++ '(' :: text ++ [')'])

/-! ## Reading -/

/-- A reader of entries follows a form: where it holds no value of an entry yet, it finds the value
in each of its spellings and holds what it stores for it. -/
def Form.ReadBy
    {State : Type}
    (form : Form)
    {Slot : form.Field → Type}
    (store : (field : form.Field) → form.Value field → Slot field)
    (held : State → (field : form.Field) → Option (Slot field))
    (read : State → List Char → List Char → Option (State × List Char)) :
    Prop :=
  ∀ {state : State} {field : form.Field} {value : form.Value field} {text rest : List Char},
    form.Spells field value text → Delimited rest → held state field = none →
      ∃ next, read state (form.key field).toList (text ++ rest) = some (next, rest) ∧
        held next = Function.update (held state) field (some (store field value))

/-- Read an entry with its name. -/
def member?
    {State : Type}
    (read : State → List Char → List Char → Option (State × List Char))
    (state : State)
    (input : List Char) :
    Option (State × List Char) := do
  let (key, input) ← name? input
  let input ← skipBlanks input
  let input ← symbolAndBlanks? ':' input
  read state key input

section Reader

variable {State : Type} {Slot : form.Field → Type}
  {store : (field : form.Field) → form.Value field → Slot field}
  {held : State → (field : form.Field) → Option (Slot field)}
  {read : State → List Char → List Char → Option (State × List Char)}

/-- An entry is read behind the blanks in front of it, where it does not look like the end of the
record. -/
theorem member?_append
    (reads : form.ReadBy store held read)
    {state : State}
    {entry : Sigma form.Value}
    {text rest : List Char}
    (spells : SpellsEntry form entry text)
    (free : held state entry.1 = none)
    (delimited : Delimited rest) :
    ∃ input next, skipBlanks (text ++ rest) = some input ∧ symbol? ')' input = none ∧
      member? read state input = some (next, rest) ∧
      held next = Function.update (held state) entry.1 (some (store entry.1 entry.2)) := by
  obtain @⟨field, value, before, name, between, behind, text, isBefore, isName, isBetween, isBehind,
    isValue⟩ := spells
  obtain ⟨next, found, holds⟩ := reads isValue delimited free
  obtain ⟨first, later, rfl, start⟩ := isName.exists_cons (form.isName_key field)
  have noDelimiter := foreign_isNameStart.not_mem start
  have colon : Delimited (':' :: (behind ++ (text ++ rest))) := .of_mem (by decide) _
  have solidColon : Solid (':' :: (behind ++ (text ++ rest))) := .of_ne rfl (by decide) _
  refine ⟨first :: later ++ (between ++ ':' :: (behind ++ (text ++ rest))), next, ?_, ?_, ?_, holds⟩
  · have skipped := isBefore.skipBlanks_append
      ((isName.solid (form.isName_key field)).append (between ++ ':' :: (behind ++ (text ++ rest))))
    simpa using skipped
  · have noEnd : first ≠ ')' := by
      rintro rfl
      exact noDelimiter (by decide)
    exact symbol?_of_ne noEnd _
  · have skipped := isBehind.skipBlanks_append ((form.solid isValue).append rest)
    rw [member?, name?_append isName (form.isName_key field) (isBetween.delimited_append colon)]
    simp [isBetween.skipBlanks_append solidColon, symbolAndBlanks?, symbol?_self, skipped, found]

/-- A reader has taken entries up: it holds the values that they give, and where they give none it
holds what it held before. -/
def HasTaken
    (store : (field : form.Field) → form.Value field → Slot field)
    (held : State → (field : form.Field) → Option (Slot field))
    (entries : List (Sigma form.Value))
    (state final : State) :
    Prop :=
  ∀ field, held final field = ((entries.dlookup field).map (store field)).or (held state field)

theorem hasTaken_nil (state : State) : HasTaken store held [] state state :=
  fun _ => rfl

/-- Entries are taken up one after the other. -/
theorem HasTaken.cons
    {entry : Sigma form.Value}
    {entries : List (Sigma form.Value)}
    (distinct : (entry :: entries).NodupKeys)
    {state next final : State}
    (holds : held next = Function.update (held state) entry.1 (some (store entry.1 entry.2)))
    (taken : HasTaken store held entries next final) :
    HasTaken store held (entry :: entries) state final := by
  intro field
  have later := taken field
  by_cases same : field = entry.1
  · subst same
    have absent : entries.dlookup entry.1 = none :=
      List.dlookup_eq_none.mpr (List.nodupKeys_cons.mp distinct).1
    rw [later, absent, holds, Function.update_self, List.dlookup_cons_eq]
    rfl
  · rw [later, holds, Function.update_of_ne same, List.dlookup_cons_ne entries entry same]

/-- The entries of a record are read one after the other up to the bracket that ends it. -/
theorem membersWithin_append
    (reads : form.ReadBy store held read)
    {entries : List (Sigma form.Value)}
    {text : List Char}
    (spells : SpellsEntries form entries text)
    (distinct : entries.NodupKeys)
    {state : State}
    (free : ∀ entry ∈ entries, held state entry.1 = none)
    {most : Nat}
    (enough : entries.length ≤ most)
    (rest : List Char) :
    ∃ final,
      membersWithin (member? read) ')' (most + 1) state (text ++ ')' :: rest) =
          some (final, rest) ∧
        HasTaken store held entries state final := by
  have solidEnd : Solid (')' :: rest) := .of_ne rfl (by decide) rest
  induction spells generalizing state most with
  | none isBlank =>
      refine ⟨state, ?_, hasTaken_nil state⟩
      simp [membersWithin, isBlank.skipBlanks_append solidEnd, symbol?_self]
  | @last entry text after isEntry isAfter =>
      have delimited : Delimited (after ++ ')' :: rest) :=
        isAfter.delimited_append (.of_mem (by decide) rest)
      obtain ⟨input, next, skipped, noEnd, found, holds⟩ :=
        member?_append reads isEntry (free entry List.mem_cons_self) delimited
      refine ⟨next, ?_, .cons distinct holds (hasTaken_nil next)⟩
      have noComma : symbol? ',' (')' :: rest) = none := symbol?_of_ne (by decide) rest
      simp [membersWithin, skipped, noEnd, found, isAfter.skipBlanks_append solidEnd, symbol?_self,
        noComma]
  | @more entry entries text after later isEntry isAfter _ inductionHypothesis =>
      obtain ⟨most, rfl⟩ := Nat.exists_eq_succ_of_ne_zero (Nat.ne_zero_of_lt enough)
      have solidComma : Solid (',' :: (later ++ ')' :: rest)) := .of_ne rfl (by decide) _
      have delimited : Delimited (after ++ ',' :: (later ++ ')' :: rest)) :=
        isAfter.delimited_append (.of_mem (by decide) _)
      obtain ⟨input, next, skipped, noEnd, found, holds⟩ :=
        member?_append reads isEntry (free entry List.mem_cons_self) delimited
      -- The entries to come have other names, so that the reader still holds nothing for them.
      have stillFree : ∀ other ∈ entries, held next other.1 = none := by
        intro other present
        have different : other.1 ≠ entry.1 := fun same =>
          (List.nodupKeys_cons.mp distinct).1 (same ▸ List.mem_keys_of_mem present)
        rw [holds, Function.update_of_ne different]
        exact free other (List.mem_cons_of_mem entry present)
      obtain ⟨final, foundLater, taken⟩ := inductionHypothesis
        (List.nodupKeys_cons.mp distinct).2 stillFree (Nat.le_of_succ_le_succ enough)
      refine ⟨final, ?_, .cons distinct holds taken⟩
      rw [membersWithin]
      simp [skipped, noEnd, found, isAfter.skipBlanks_append solidComma, symbol?_self, foundLater]

/-- Each entry takes at least the character of its colon. -/
theorem SpellsEntries.length_le
    {entries : List (Sigma form.Value)}
    {text : List Char}
    (spells : SpellsEntries form entries text) :
    entries.length ≤ text.length := by
  induction spells with
  | none _ => exact Nat.zero_le _
  | last isEntry _ =>
      cases isEntry
      simp only [List.length_append, List.length_cons, List.length_nil] at *
      omega
  | more isEntry _ _ inductionHypothesis =>
      simp only [List.length_append, List.length_cons] at *
      omega

/-! ### Records -/

/-- A record begins with a bracket or with a name. -/
theorem SpellsRecord.exists_cons
    {said : form.Said}
    {text : List Char}
    (spells : SpellsRecord form said text) :
    ∃ first later, text = first :: later ∧ (first = '(' ∨ isNameStart first = true) := by
  cases spells with
  | unnamed _ => exact ⟨'(', _, rfl, Or.inl rfl⟩
  | named isName _ _ =>
      obtain ⟨first, later, rfl, start⟩ := isName.exists_cons form.isName_name
      exact ⟨first, _, rfl, Or.inr start⟩

theorem SpellsRecord.solid
    {said : form.Said}
    {text : List Char}
    (spells : SpellsRecord form said text) :
    Solid text := by
  obtain ⟨first, later, rfl, bracket | start⟩ := spells.exists_cons
  · exact ⟨first, later, rfl, bracket ▸ rfl, bracket ▸ by decide⟩
  · exact .of_not_mem (foreign_isNameStart.not_mem start) later

/-- The brackets of a record are read with all its entries between them. -/
theorem members?_append
    (reads : form.ReadBy store held read)
    {said : form.Said}
    {text : List Char}
    (spells : SpellsEntries form said.entries text)
    {state : State}
    (empty : ∀ field, held state field = none)
    (rest : List Char) :
    ∃ final, members? (member? read) ')' state (text ++ ')' :: rest) = some (final, rest) ∧
      ∀ field, held final field = (said.value? field).map (store field) := by
  have enough : said.entries.length ≤ (text ++ ')' :: rest).length := by
    have few := spells.length_le
    rw [List.length_append]
    omega
  obtain ⟨final, found, taken⟩ := membersWithin_append reads spells said.distinct
    (fun entry _ => empty entry.1) enough rest
  refine ⟨final, found, fun field => ?_⟩
  rw [taken field, empty field, Option.or_none]
  rfl

theorem record?_eq
    (name : String)
    (state : State)
    (input : List Char) :
    record? name read state input =
      ((recordName? name input).bind skipBlanks).bind fun input =>
        (symbol? '(' input).bind (members? (member? read) ')' state) := by
  rw [Option.bind_assoc]
  rfl

/-- A record is read with all its entries, whatever comes after it. -/
theorem record?_append
    (reads : form.ReadBy store held read)
    {said : form.Said}
    {text : List Char}
    (spells : SpellsRecord form said text)
    {state : State}
    (empty : ∀ field, held state field = none)
    (rest : List Char) :
    ∃ final, record? form.name read state (text ++ rest) = some (final, rest) ∧
      ∀ field, held final field = (said.value? field).map (store field) := by
  cases spells with
  | @unnamed inner isEntries =>
      obtain ⟨final, found, holds⟩ := members?_append reads isEntries empty rest
      refine ⟨final, ?_, holds⟩
      have unnamed : recordName? form.name ('(' :: (inner ++ ')' :: rest)) =
          some ('(' :: (inner ++ ')' :: rest)) := rfl
      have solid : Solid ('(' :: (inner ++ ')' :: rest)) := .of_ne rfl (by decide) _
      simpa [record?_eq, unnamed, solid.skipBlanks_eq, symbol?_self] using found
  | @named name between inner isName isBetween isEntries =>
      obtain ⟨final, found, holds⟩ := members?_append reads isEntries empty rest
      refine ⟨final, ?_, holds⟩
      have solid : Solid ('(' :: (inner ++ ')' :: rest)) := .of_ne rfl (by decide) _
      have delimited : Delimited (between ++ '(' :: (inner ++ ')' :: rest)) :=
        isBetween.delimited_append (.of_mem (by decide) _)
      have begins : startsWith isNamePart (name ++ (between ++ '(' :: (inner ++ ')' :: rest))) := by
        obtain ⟨first, later, rfl, start⟩ := isName.exists_cons form.isName_name
        exact isNamePart_of_isNameStart start
      have named : recordName? form.name (name ++ (between ++ '(' :: (inner ++ ')' :: rest))) =
          some (between ++ '(' :: (inner ++ ')' :: rest)) := by
        rw [recordName?, if_pos begins, name?_append isName form.isName_name delimited]
        simp
      simpa [record?_eq, named, isBetween.skipBlanks_append solid, symbol?_self] using found

end Reader

/-! ## Writing -/

theorem blanks_replicate
    {character : Char}
    (space : isSpace character = true)
    (count : Nat) :
    Blanks (List.replicate count character) := by
  induction count with
  | zero => exact .none
  | succ count inductionHypothesis => exact .space space inductionHypothesis

theorem blanks_indentation (depth : Nat) : Blanks (indentation depth) :=
  blanks_replicate rfl (4 * depth)

section Writer

variable {write : Sigma form.Value → List Char}

/-- What is written for an entry of a record, with the names of its form. -/
abbrev Form.written
    (form : Form)
    (write : Sigma form.Value → List Char)
    (entry : Sigma form.Value) :
    String × List Char :=
  (form.key entry.1, write entry)

/-- Written entries are a text of these entries, with any blanks around them. -/
theorem spellsEntries_flatMap
    (depth : Nat)
    {entries : List (Sigma form.Value)}
    (writes : ∀ entry ∈ entries, form.Spells entry.1 entry.2 (write entry))
    {before after : List Char}
    (isBefore : Blanks before)
    (isAfter : Blanks after) :
    SpellsEntries form entries
      (before ++ (entries.map (form.written write)).flatMap (entryOf depth) ++ after) := by
  induction entries generalizing before with
  | nil =>
      apply SpellsEntries.none
      simpa using isBefore.append isAfter
  | cons entry entries inductionHypothesis =>
      have newline : Blanks ['\n'] := .space rfl .none
      have first : SpellsEntry form entry
          ((before ++ indentation depth) ++ (form.key entry.1).toList ++ [] ++
            ':' :: [' '] ++ write entry) :=
        .entry (isBefore.append (blanks_indentation depth)) .plain .none (.space rfl .none)
          (writes entry List.mem_cons_self)
      have later := inductionHypothesis
        (fun other present => writes other (List.mem_cons_of_mem entry present)) newline
      have together := SpellsEntries.more first .none later
      simpa [entryOf] using together

/-- What is written with the names of a form is a record of this form. -/
theorem spellsRecord_recordOf
    (depth : Nat)
    {said : form.Said}
    (writes : ∀ entry ∈ said.entries, form.Spells entry.1 entry.2 (write entry)) :
    SpellsRecord form said (recordOf depth (said.entries.map (form.written write))) := by
  have newline : Blanks ['\n'] := .space rfl .none
  have entries := spellsEntries_flatMap (depth + 1) writes newline (blanks_indentation depth)
  have record := SpellsRecord.unnamed entries
  simpa [recordOf] using record

end Writer

end

end Record
end SerialShare
