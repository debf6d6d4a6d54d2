import Mathlib.Data.List.Basic
import SerialShare.Lines.Splitter

/-!
# Reading lines off a whole byte string

The reference that splitters are held against.  A byte string is cut at every newline.  Each piece
that a newline ends is a line, and what follows the last newline is one if nothing is to be added
to the byte string and it is not empty.  Lines are read in order, up to the first that is over the
limit.

No state is kept and no byte is looked at before the whole string is there, so the reference says
nothing of buffers, cursors or deliveries.
-/

namespace SerialShare
namespace Lines

/-! ## Pieces -/

/-- The pieces of a byte string that a newline ends, without it. -/
def terminated (bytes : Bytes) : List Bytes :=
  (bytes.splitOn newline).dropLast

/-- What follows the last newline of a byte string. -/
def remainder (bytes : Bytes) : Bytes :=
  (bytes.splitOn newline).getLast (List.splitOn_ne_nil newline bytes)

/-- The pieces that are lines once nothing is to be added. -/
def items (bytes : Bytes) : List Bytes :=
  terminated bytes ++ if remainder bytes = [] then [] else [remainder bytes]

theorem terminated_of_not_mem
    {bytes : Bytes}
    (absent : newline ∉ bytes) :
    terminated bytes = [] := by
  rw [terminated, List.splitOn_eq_singleton absent]
  rfl

theorem remainder_of_not_mem
    {bytes : Bytes}
    (absent : newline ∉ bytes) :
    remainder bytes = bytes := by
  simp only [remainder, List.splitOn_eq_singleton absent, List.getLast_singleton]

theorem terminated_append_newline
    {line : Bytes}
    (absent : newline ∉ line)
    (rest : Bytes) :
    terminated (line ++ newline :: rest) = line :: terminated rest := by
  rw [terminated, List.splitOn_append_cons_self_of_not_mem absent,
    List.dropLast_cons_of_ne_nil (List.splitOn_ne_nil newline rest)]
  rfl

theorem remainder_append_newline
    {line : Bytes}
    (absent : newline ∉ line)
    (rest : Bytes) :
    remainder (line ++ newline :: rest) = remainder rest := by
  simp only [remainder, List.splitOn_append_cons_self_of_not_mem absent,
    List.getLast_cons (List.splitOn_ne_nil newline rest)]

/-- A byte string holds no newline, or has a first line. -/
theorem not_mem_or_eq_append_newline (bytes : Bytes) :
    newline ∉ bytes ∨
      ∃ line rest, newline ∉ line ∧ bytes = line ++ newline :: rest := by
  by_cases present : newline ∈ bytes
  · obtain ⟨line, rest, equal, absent⟩ := List.eq_append_cons_of_mem present
    exact Or.inr ⟨line, rest, absent, equal⟩
  · exact Or.inl present

/-- Induction along the lines of a byte string. -/
@[elab_as_elim]
theorem lineInduction
    {motive : Bytes → Prop}
    (unterminated : ∀ bytes, newline ∉ bytes → motive bytes)
    (line : ∀ line rest, newline ∉ line → motive rest →
      motive (line ++ newline :: rest))
    (bytes : Bytes) : motive bytes := by
  induction size : bytes.length using Nat.strongRecOn generalizing bytes with
  | ind size inductionHypothesis =>
      obtain absent | ⟨first, rest, absent, rfl⟩ :=
        not_mem_or_eq_append_newline bytes
      · exact unterminated bytes absent
      · refine line first rest absent ?_
        refine inductionHypothesis rest.length ?_ rest rfl
        simp only [List.length_append, List.length_cons] at size
        omega

/-- Cutting loses nothing: the pieces with their newlines, and what follows the last one, are the
byte string again. -/
theorem flatMap_terminated_append_remainder (bytes : Bytes) :
    (terminated bytes).flatMap (· ++ [newline]) ++ remainder bytes = bytes := by
  induction bytes using lineInduction with
  | unterminated bytes absent =>
      rw [terminated_of_not_mem absent, remainder_of_not_mem absent]
      rfl
  | line line rest absent inductionHypothesis =>
      rw [terminated_append_newline absent, remainder_append_newline absent]
      simp only [List.flatMap_cons, List.append_assoc, inductionHypothesis]
      rfl

theorem newline_not_mem_remainder (bytes : Bytes) : newline ∉ remainder bytes := by
  induction bytes using lineInduction with
  | unterminated bytes absent =>
      rw [remainder_of_not_mem absent]
      exact absent
  | line line rest absent inductionHypothesis =>
      rw [remainder_append_newline absent]
      exact inductionHypothesis

/-- Of earlier bytes only those after their last newline are followed by later ones. -/
theorem remainder_remainder_append (bytes more : Bytes) :
    remainder (remainder bytes ++ more) = remainder (bytes ++ more) := by
  induction bytes using lineInduction with
  | unterminated bytes absent => rw [remainder_of_not_mem absent]
  | line line rest absent inductionHypothesis =>
      rw [remainder_append_newline absent, List.append_assoc, List.cons_append,
        remainder_append_newline absent, inductionHypothesis]

/-- Lines that are complete stay as they are, whatever is added. -/
theorem terminated_append (bytes more : Bytes) :
    terminated (bytes ++ more) = terminated bytes ++ terminated (remainder bytes ++ more) := by
  induction bytes using lineInduction with
  | unterminated bytes absent =>
      rw [terminated_of_not_mem absent, remainder_of_not_mem absent, List.nil_append]
  | line line rest absent inductionHypothesis =>
      rw [List.append_assoc, List.cons_append, terminated_append_newline absent,
        terminated_append_newline absent, remainder_append_newline absent, inductionHypothesis,
        List.cons_append]

/-! ## Transcripts -/

/-- What reading comes to: the lines, and the refusal it ended with, if it ended with one. -/
structure Transcript where
  /-- The lines in order. -/
  lines : List String
  /-- Why the next line was refused. -/
  refusal : Option IoFault
  deriving DecidableEq

namespace Transcript

/-- Put earlier lines in front. -/
def after (transcript : Transcript) (lines : List String) : Transcript :=
  { transcript with lines := lines ++ transcript.lines }

/-- Where nothing is read, only the earlier lines are. -/
@[simp] theorem nil_after
    (refusal : Option IoFault)
    (lines : List String) :
    (⟨[], refusal⟩ : Transcript).after lines = ⟨lines, refusal⟩ := by
  simp only [after, List.append_nil]

@[simp] theorem after_after
    (transcript : Transcript)
    (earlier lines : List String) :
    (transcript.after lines).after earlier = transcript.after (earlier ++ lines) := by
  simp only [after, List.append_assoc]

/-- Put what became of one line in front: a refusal is the end. -/
def follow (transcript : Transcript) : Except IoFault String → Transcript
  | .ok line => transcript.after [line]
  | .error fault => ⟨[], some fault⟩

end Transcript

/-- Why a line over the limit is refused. -/
def overlong (limit : Nat) : IoFault :=
  ⟨.invalidData, "Line longer than " ++ limit.repr ++ " bytes"⟩

/-- The text of one piece: without one carriage return at its end, and refused when it is over the
limit then. -/
def plainLine (limit : Nat) (piece : Bytes) : Except IoFault String :=
  let line := (piece.dropSuffix? [carriageReturn]).getD piece
  if limit < line.length then .error (overlong limit) else .ok (Text.lossy line)

/-- Read pieces in order, up to the first that is refused, and what comes after them. -/
def plainLines (limit : Nat) (last : Transcript) : List Bytes → Transcript
  | [] => last
  | piece :: later => (plainLines limit last later).follow (plainLine limit piece)

/-- Read a byte string to which nothing is to be added. -/
def plain (limit : Nat) (bytes : Bytes) : Transcript :=
  plainLines limit ⟨[], none⟩ (items bytes)

/-- Read a byte string to which more may be added.  What follows the last newline is not a line
yet, and refused already when it is over the limit by more than the one byte that a carriage return
may take. -/
def plainSoFar (limit : Nat) (bytes : Bytes) : Transcript :=
  plainLines limit
    ⟨[], if limit + 1 < (remainder bytes).length then some (overlong limit) else none⟩
    (terminated bytes)

/-- Read a byte string, knowing whether more may be added to it. -/
def reading (limit : Nat) (ended : Bool) (bytes : Bytes) : Transcript :=
  if ended then plain limit bytes else plainSoFar limit bytes

theorem eq_overlong_of_plainLine
    {limit : Nat}
    {piece : Bytes}
    {fault : IoFault}
    (refused : plainLine limit piece = .error fault) :
    fault = overlong limit := by
  simp only [plainLine] at refused
  split at refused
  · cases refused
    rfl
  · cases refused

/-- The only refusal of pieces is that one is over the limit. -/
theorem eq_overlong_of_refusal_plainLines
    {limit : Nat}
    {last : Transcript}
    {fault : IoFault}
    (lastOverlong : last.refusal = some fault → fault = overlong limit)
    {pieces : List Bytes}
    (refused : (plainLines limit last pieces).refusal = some fault) :
    fault = overlong limit := by
  induction pieces with
  | nil => exact lastOverlong refused
  | cons piece later inductionHypothesis =>
      rw [plainLines] at refused
      cases judged : plainLine limit piece with
      | error found =>
          rw [judged] at refused
          cases refused
          exact eq_overlong_of_plainLine judged
      | ok line =>
          rw [judged] at refused
          exact inductionHypothesis refused

theorem eq_overlong_of_refusal_reading
    {limit : Nat}
    {ended : Bool}
    {bytes : Bytes}
    {fault : IoFault}
    (refused : (reading limit ended bytes).refusal = some fault) :
    fault = overlong limit := by
  cases ended with
  | false =>
      refine eq_overlong_of_refusal_plainLines ?_ refused
      intro long
      split at long
      · cases long
        rfl
      · cases long
  | true =>
      refine eq_overlong_of_refusal_plainLines ?_ refused
      rintro ⟨⟩

/-! ## How a splitter's judgement of one piece agrees -/

theorem getD_dropSuffix?_singleton
    {α : Type}
    [BEq α]
    [LawfulBEq α]
    [DecidableEq α]
    (item : α)
    (items : List α) :
    (items.dropSuffix? [item]).getD items =
      if items.getLast? = some item then items.dropLast else items := by
  split
  · rename_i last
    have shape := List.dropLast_append_getLast? item last
    have dropped : items.dropSuffix? [item] = some items.dropLast :=
      List.dropSuffix?_eq_some_iff.mpr ⟨[item], shape.symm, by simp⟩
    rw [dropped]
    rfl
  · rename_i last
    have kept : items.dropSuffix? [item] = none := by
      cases found : items.dropSuffix? [item] with
      | none => rfl
      | some front =>
          obtain ⟨back, equal, same⟩ := List.dropSuffix?_eq_some_iff.mp found
          have backEqual : back = [item] := by simpa using same
          exact absurd (by simp [equal, backEqual]) last
    rw [kept]
    rfl

theorem dropSuffix?_carriageReturn (piece : Bytes) :
    (piece.dropSuffix? [carriageReturn]).getD piece = content piece :=
  getD_dropSuffix?_singleton carriageReturn piece

/-- The text of a line is the plain one. -/
theorem lineText_eq_plainLine
    (limit : UInt64)
    (piece : Bytes) :
    lineText limit piece = plainLine limit.toNat piece := by
  simp only [lineText, plainLine, dropSuffix?_carriageReturn, tooLong, overlong]
  by_cases fits : (content piece).length ≤ limit.toNat
  · rw [if_pos fits, if_neg (by omega)]
  · rw [if_neg fits, if_pos (by omega)]

/-- At most one byte of a piece does not count. -/
theorem length_le_length_content_add_one (piece : Bytes) :
    piece.length ≤ (content piece).length + 1 := by
  unfold content
  split
  · simp only [List.length_dropLast]
    omega
  · omega

/-- What does not count is a carriage return at the end. -/
theorem content_eq_iff
    {line : Bytes}
    (unreturned : line.getLast? ≠ some carriageReturn)
    (piece : Bytes) :
    content piece = line ↔ piece = line ∨ piece = line ++ [carriageReturn] := by
  unfold content
  split
  · rename_i returned
    obtain ⟨front, rfl⟩ := List.getLast?_eq_some_iff.mp returned
    rw [List.dropLast_concat, List.append_left_inj]
    refine ⟨Or.inr, ?_⟩
    rintro (whole | same)
    · exact absurd (whole ▸ returned) unreturned
    · exact same
  · rename_i kept
    refine ⟨Or.inl, ?_⟩
    rintro (same | whole)
    · exact same
    · exact absurd (whole ▸ List.getLast?_concat) kept

/-- A line is within a limit. -/
def Fits (limit : Nat) (line : Bytes) : Prop := (content line).length ≤ limit

instance (limit : Nat) (line : Bytes) : Decidable (Fits limit line) :=
  inferInstanceAs (Decidable ((content line).length ≤ limit))

/-- The text of a line without its newline. -/
def textOf (line : Bytes) : String := Text.lossy (content line)

theorem plainLine_of_fits
    {limit : Nat}
    {line : Bytes}
    (fits : Fits limit line) :
    plainLine limit line = .ok (textOf line) := by
  simp only [plainLine, dropSuffix?_carriageReturn, if_neg (Nat.not_lt.mpr fits), textOf]

theorem plainLine_of_not_fits
    {limit : Nat}
    {line : Bytes}
    (long : ¬Fits limit line) :
    plainLine limit line = .error (overlong limit) := by
  simp only [plainLine, dropSuffix?_carriageReturn, if_pos (Nat.not_le.mp long)]

/-- Lines within the limit are all read, before whatever comes after them. -/
theorem plainLines_append_of_fits
    {limit : Nat}
    {front : List Bytes}
    (fits : ∀ line ∈ front, Fits limit line)
    (last : Transcript)
    (later : List Bytes) :
    plainLines limit last (front ++ later) =
      (plainLines limit last later).after (front.map textOf) := by
  induction front with
  | nil => rfl
  | cons line front inductionHypothesis =>
      rw [List.forall_mem_cons] at fits
      rw [List.cons_append, plainLines, inductionHypothesis fits.2, plainLine_of_fits fits.1,
        Transcript.follow, Transcript.after_after]
      rfl

/-- The first lines of a byte string are read before the later ones, if they are within the
limit. -/
theorem plain_of_fits_take
    {limit : Nat}
    {bytes : Bytes}
    {count : Nat}
    (fits : ∀ line ∈ (items bytes).take count, Fits limit line) :
    plain limit bytes =
      (plainLines limit ⟨[], none⟩ ((items bytes).drop count)).after
        (((items bytes).take count).map textOf) := by
  rw [← plainLines_append_of_fits fits, List.take_append_drop]
  rfl

/-- Reading ends at the first line over the limit. -/
theorem plain_of_not_fits
    {limit : Nat}
    {bytes line : Bytes}
    {count : Nat}
    (found : (items bytes)[count]? = some line)
    (long : ¬Fits limit line)
    (fits : ∀ earlier ∈ (items bytes).take count, Fits limit earlier) :
    plain limit bytes = ⟨((items bytes).take count).map textOf, some (overlong limit)⟩ := by
  obtain ⟨inside, rfl⟩ := List.getElem?_eq_some_iff.mp found
  rw [plain_of_fits_take fits, List.drop_eq_getElem_cons inside, plainLines,
    plainLine_of_not_fits long, Transcript.follow, Transcript.nil_after]

/-- A byte string all of whose lines are within the limit is read completely. -/
theorem plain_of_fits
    {limit : Nat}
    {bytes : Bytes}
    (fits : ∀ line ∈ items bytes, Fits limit line) :
    plain limit bytes = ⟨(items bytes).map textOf, none⟩ := by
  have read := plainLines_append_of_fits fits ⟨[], none⟩ []
  rwa [List.append_nil, plainLines, Transcript.nil_after] at read

/-- A piece that is over the limit by more than one byte is refused. -/
theorem lineText_of_long
    {limit : UInt64}
    {piece : Bytes}
    (long : limit.toNat + 1 < piece.length) :
    lineText limit piece = .error (tooLong limit) := by
  have counted := length_le_length_content_add_one piece
  rw [lineText, if_neg (by omega)]

/-! ## Reading line by line -/

/-- A first line is read before everything else. -/
theorem plain_append_newline
    (limit : UInt64)
    {line : Bytes}
    (absent : newline ∉ line)
    (rest : Bytes) :
    plain limit.toNat (line ++ newline :: rest) =
      (plain limit.toNat rest).follow (lineText limit line) := by
  rw [plain, items, terminated_append_newline absent, remainder_append_newline absent,
    lineText_eq_plainLine]
  rfl

theorem plainSoFar_append_newline
    (limit : UInt64)
    {line : Bytes}
    (absent : newline ∉ line)
    (rest : Bytes) :
    plainSoFar limit.toNat (line ++ newline :: rest) =
      (plainSoFar limit.toNat rest).follow (lineText limit line) := by
  rw [plainSoFar, terminated_append_newline absent, remainder_append_newline absent,
    lineText_eq_plainLine]
  rfl

theorem reading_append_newline
    (limit : UInt64)
    (ended : Bool)
    {line : Bytes}
    (absent : newline ∉ line)
    (rest : Bytes) :
    reading limit.toNat ended (line ++ newline :: rest) =
      (reading limit.toNat ended rest).follow (lineText limit line) := by
  cases ended with
  | false => exact plainSoFar_append_newline limit absent rest
  | true => exact plain_append_newline limit absent rest

/-- What follows the last newline of a finished byte string is its last line. -/
theorem plain_of_not_mem
    (limit : UInt64)
    {bytes : Bytes}
    (absent : newline ∉ bytes)
    (present : bytes ≠ []) :
    plain limit.toNat bytes = (⟨[], none⟩ : Transcript).follow (lineText limit bytes) := by
  rw [plain, items, terminated_of_not_mem absent, remainder_of_not_mem absent, if_neg present,
    lineText_eq_plainLine]
  rfl

/-- An open byte string without a newline holds no line yet. -/
theorem plainSoFar_of_not_mem
    {limit : Nat}
    {bytes : Bytes}
    (absent : newline ∉ bytes)
    (fits : bytes.length ≤ limit + 1) :
    plainSoFar limit bytes = ⟨[], none⟩ := by
  rw [plainSoFar, terminated_of_not_mem absent, remainder_of_not_mem absent, if_neg (by omega)]
  rfl

/-- A start without a newline that no carriage return can bring within the limit is refused,
whatever is added to it. -/
theorem reading_of_long
    {limit : UInt64}
    {start : Bytes}
    (absent : newline ∉ start)
    (long : limit.toNat + 1 < start.length)
    (ended : Bool)
    (more : Bytes) :
    reading limit.toNat ended (start ++ more) = ⟨[], some (tooLong limit)⟩ := by
  obtain moreAbsent | ⟨line, rest, lineAbsent, rfl⟩ := not_mem_or_eq_append_newline more
  · have wholeAbsent : newline ∉ start ++ more := by simp [absent, moreAbsent]
    have wholeLong : limit.toNat + 1 < (start ++ more).length := by
      rw [List.length_append]
      omega
    cases ended with
    | false =>
        rw [reading, if_neg Bool.false_ne_true, plainSoFar, terminated_of_not_mem wholeAbsent,
          remainder_of_not_mem wholeAbsent, if_pos wholeLong]
        rfl
    | true =>
        have nonempty : start ++ more ≠ [] := by
          intro empty
          rw [empty] at wholeLong
          simp at wholeLong
        rw [reading, if_pos rfl, plain_of_not_mem limit wholeAbsent nonempty,
          lineText_of_long wholeLong]
        rfl
  · have firstAbsent : newline ∉ start ++ line := by simp [absent, lineAbsent]
    have firstLong : limit.toNat + 1 < (start ++ line).length := by
      rw [List.length_append]
      omega
    rw [← List.append_assoc, reading_append_newline limit ended firstAbsent,
      lineText_of_long firstLong]
    rfl

end Lines
end SerialShare
