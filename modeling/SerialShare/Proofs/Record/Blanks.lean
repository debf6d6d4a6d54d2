import SerialShare.Record.Lexeme

/-!
# What separates without meaning anything

Between any two parts of a record there may be spaces and comments.  This module says which texts
consist of nothing else, without regard to how they are read, and that a reader skips exactly these:
it goes on as if they were not there.

A comment between marks is a matter of the marks inside it, read from the left: each one that opens
a further comment has to be met by one that closes it.
-/

namespace SerialShare
namespace Record

/-! ## Comments and blanks -/

/-- The rest of a comment between marks that stands inside a number of further ones, up to the mark
that closes the outermost. -/
inductive InComment : Nat → List Char → Prop
  /-- The comment ends. -/
  | close : InComment 0 ['*', '/']
  /-- A comment inside ends. -/
  | closeInner {depth : Nat} {text : List Char} :
      InComment depth text → InComment (depth + 1) ('*' :: '/' :: text)
  /-- A comment inside begins. -/
  | openInner {depth : Nat} {text : List Char} :
      InComment (depth + 1) text → InComment depth ('/' :: '*' :: text)
  /-- A character belongs to no mark. -/
  | pass {depth : Nat} {character : Char} {text : List Char} :
      (character = '*' → text.head? ≠ some '/') → (character = '/' → text.head? ≠ some '*') →
      InComment depth text → InComment depth (character :: text)

/-- A text of spaces and comments. -/
inductive Blanks : List Char → Prop
  /-- There is nothing. -/
  | none : Blanks []
  /-- There is a space, a tabulator or the end of a line. -/
  | space {character : Char} {text : List Char} :
      isSpace character = true → Blanks text → Blanks (character :: text)
  /-- There is a comment that ends with the line. -/
  | line {comment text : List Char} :
      '\n' ∉ comment → Blanks text → Blanks ('/' :: '/' :: comment ++ '\n' :: text)
  /-- There is a comment between marks. -/
  | block {comment text : List Char} :
      InComment 0 comment → Blanks text → Blanks ('/' :: '*' :: comment ++ text)

/-- Blanks at the end of a document, where the last line need not be ended. -/
def LastBlanks (text : List Char) : Prop :=
  Blanks (text ++ ['\n'])

theorem Blanks.append
    {first second : List Char}
    (isFirst : Blanks first)
    (isSecond : Blanks second) :
    Blanks (first ++ second) := by
  induction isFirst with
  | none => exact isSecond
  | space isSpace _ inductionHypothesis => exact .space isSpace inductionHypothesis
  | line single _ inductionHypothesis =>
      have appended := Blanks.line single inductionHypothesis
      simpa using appended
  | block inComment _ inductionHypothesis =>
      have appended := Blanks.block inComment inductionHypothesis
      simpa using appended

/-! ## Skipping -/

/-- A star that closes nothing is like any other character. -/
theorem skipFrom_closing_of_ne
    {depth : Nat}
    {input : List Char}
    (closes : input.head? ≠ some '/') :
    skipFrom (.closing depth) input = skipFrom (.block depth) input := by
  cases input with
  | nil => rfl
  | cons character rest =>
      have noSlash : character ≠ '/' := fun slash => closes (congrArg some slash)
      simp [skipFrom, noSlash]

/-- A slash that opens nothing is like any other character. -/
theorem skipFrom_opening_of_ne
    {depth : Nat}
    {input : List Char}
    (opens : input.head? ≠ some '*') :
    skipFrom (.opening depth) input = skipFrom (.block depth) input := by
  cases input with
  | nil => rfl
  | cons character rest =>
      have noStar : character ≠ '*' := fun star => opens (congrArg some star)
      simp [skipFrom, noStar]

theorem InComment.ne_nil
    {depth : Nat}
    {text : List Char}
    (inComment : InComment depth text) :
    text ≠ [] := by
  cases inComment <;> exact nofun

/-- A comment is read up to the mark that closes it. -/
theorem skipFrom_block
    {depth : Nat}
    {comment : List Char}
    (inComment : InComment depth comment)
    (rest : List Char) :
    skipFrom (.block depth) (comment ++ rest) = skipFrom .outside rest := by
  induction inComment with
  | close => simp [skipFrom]
  | closeInner _ inductionHypothesis => simpa [skipFrom] using inductionHypothesis
  | openInner _ inductionHypothesis => simpa [skipFrom] using inductionHypothesis
  | @pass depth character text closes opens later inductionHypothesis =>
      have next : (text ++ rest).head? = text.head? := by
        rw [List.head?_append, Option.or_of_isSome]
        exact List.isSome_head?.mpr later.ne_nil
      rw [List.cons_append, skipFrom, ← inductionHypothesis]
      split
      · rename_i slash
        exact skipFrom_opening_of_ne (next ▸ opens slash)
      · split
        · rename_i star
          exact skipFrom_closing_of_ne (next ▸ closes star)
        · rfl

/-- A comment that ends with the line is read up to the end of the line. -/
theorem skipFrom_line
    {comment : List Char}
    (single : '\n' ∉ comment)
    (rest : List Char) :
    skipFrom .line (comment ++ '\n' :: rest) = skipFrom .outside rest := by
  induction comment with
  | nil => simp [skipFrom]
  | cons character comment inductionHypothesis =>
      rw [List.mem_cons, not_or] at single
      rw [List.cons_append, skipFrom, if_neg (Ne.symm single.1), inductionHypothesis single.2]

/-- Blanks are skipped, and nothing behind them is looked at. -/
theorem skipBlanks_append
    {blanks : List Char}
    (isBlank : Blanks blanks)
    (rest : List Char) :
    skipBlanks (blanks ++ rest) = skipBlanks rest := by
  unfold skipBlanks
  induction isBlank with
  | none => rfl
  | space isSpace _ inductionHypothesis => simpa [skipFrom, isSpace] using inductionHypothesis
  | @line comment text single _ inductionHypothesis =>
      have comments := skipFrom_line single (text ++ rest)
      simpa [skipFrom, isSpace, comments] using inductionHypothesis
  | @block comment text inComment _ inductionHypothesis =>
      have comments := skipFrom_block inComment (text ++ rest)
      simpa [skipFrom, isSpace, comments] using inductionHypothesis

/-- The end of a document counts as the end of a line. -/
theorem skipFrom_of_append_newline
    {place : Blank}
    {text : List Char}
    (skipped : skipFrom place (text ++ ['\n']) = some []) :
    skipFrom place text = some [] := by
  -- Each character leads to the same place with and without the end of the line behind it.
  fun_induction skipFrom place text
  case case3 place outside line => cases place <;> simp_all [skipFrom]
  all_goals simp_all [skipFrom]

theorem skipBlanks_of_lastBlanks
    {text : List Char}
    (last : LastBlanks text) :
    skipBlanks text = some [] := by
  apply skipFrom_of_append_newline
  have skipped := skipBlanks_append last []
  rwa [List.append_nil] at skipped

end Record
end SerialShare
