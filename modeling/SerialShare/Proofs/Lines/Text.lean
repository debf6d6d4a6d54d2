import SerialShare.Proofs.Lines.Framing
import SerialShare.Proofs.Text.Utf8

/-!
# Lines of a text

The lines that a text shows are those that its bytes are read as: newlines and carriage returns are
no part of any other character.  So a text without newlines that does not end in a carriage return
comes back from a splitter as it was written, if it is within the limit.
-/

namespace SerialShare
namespace Lines

open Text (utf8)

/-! ## Cutting a text -/

/-- A piece of a text without one carriage return at its end. -/
def withoutReturn (piece : List Char) : List Char :=
  (piece.dropSuffix? ['\r']).getD piece

/-- The lines of a text to which a newline is still to be added: its pieces between newlines, each
without one carriage return at its end. -/
def ofRequest (request : String) : List String :=
  (request.toList.splitOn '\n').map fun piece => String.ofList (withoutReturn piece)

/-- The lines of a text: each piece that a newline ends, without one carriage return at its end. -/
def ofText (text : String) : List String :=
  (text.toList.splitOn '\n').dropLast.map fun piece => String.ofList (withoutReturn piece)

/-- The first line of a text to which a newline is still to be added. -/
def first (request : String) : String :=
  String.ofList (withoutReturn (request.toList.takeWhile (· ≠ '\n')))

/-- Texts one after the other, each with a newline at its end. -/
def joined (texts : List String) : String :=
  String.join (texts.map (· ++ "\n"))

/-- The number of newlines that texts hold themselves. -/
def newlines (texts : List String) : Nat :=
  (texts.flatMap String.toList).count '\n'

theorem withoutReturn_append_return (front : List Char) :
    withoutReturn (front ++ ['\r']) = front := by
  rw [withoutReturn, getD_dropSuffix?_singleton, if_pos List.getLast?_concat, List.dropLast_concat]

theorem withoutReturn_of_getLast?_ne
    {piece : List Char}
    (unreturned : piece.getLast? ≠ some '\r') :
    withoutReturn piece = piece := by
  rw [withoutReturn, getD_dropSuffix?_singleton, if_neg unreturned]

section Split

variable {α : Type} [DecidableEq α]

theorem splitOn_append_of_not_mem
    {separator : α}
    {front : List α}
    (absent : separator ∉ front)
    (rest : List α) :
    (front ++ rest).splitOn separator = (rest.splitOn separator).modifyHead (front ++ ·) := by
  induction front with
  | nil =>
      change rest.splitOn separator = (rest.splitOn separator).modifyHead id
      rw [List.modifyHead_id, id]
  | cons item front inductionHypothesis =>
      rw [List.mem_cons, not_or] at absent
      have different : ¬(item == separator) = true := by
        simpa using Ne.symm absent.1
      rw [List.cons_append, List.splitOn_cons_eq_if_modifyHead, if_neg different,
        inductionHypothesis absent.2, List.modifyHead_modifyHead]
      rfl

theorem length_splitOn
    (separator : α)
    (items : List α) :
    (items.splitOn separator).length = items.count separator + 1 := by
  induction items with
  | nil => rfl
  | cons item items inductionHypothesis =>
      rw [List.splitOn_cons_eq_if_modifyHead, List.count_cons]
      split
      · rw [List.length_cons, inductionHypothesis]
      · rw [List.length_modifyHead, inductionHypothesis]

theorem head?_splitOn
    (separator : α)
    (items : List α) :
    (items.splitOn separator).head? = some (items.takeWhile (· ≠ separator)) := by
  induction items with
  | nil => rfl
  | cons item items inductionHypothesis =>
      rw [List.splitOn_cons_eq_if_modifyHead]
      by_cases equal : item = separator
      · simp [equal]
      · simp [equal, inductionHypothesis]

end Split

theorem toList_joined_cons
    (text : String)
    (texts : List String) :
    (joined (text :: texts)).toList = text.toList ++ '\n' :: (joined texts).toList := by
  simp [joined, String.join_cons]

/-- The lines of joined texts are those of each text in turn. -/
theorem ofText_joined (texts : List String) :
    ofText (joined texts) = texts.flatMap ofRequest := by
  induction texts with
  | nil => rfl
  | cons text texts inductionHypothesis =>
      rw [ofText, toList_joined_cons, List.splitOn_append_cons_self,
        List.dropLast_append_of_ne_nil (List.splitOn_ne_nil _ _), List.map_append,
        List.flatMap_cons, ← inductionHypothesis]
      rfl

theorem length_ofRequest (request : String) :
    (ofRequest request).length = request.toList.count '\n' + 1 := by
  rw [ofRequest, List.length_map, length_splitOn]

theorem length_flatMap_ofRequest (requests : List String) :
    (requests.flatMap ofRequest).length = requests.length + newlines requests := by
  induction requests with
  | nil => rfl
  | cons request requests inductionHypothesis =>
      rw [List.flatMap_cons, List.length_append, inductionHypothesis, length_ofRequest, newlines,
        newlines, List.length_cons, List.flatMap_cons, List.count_append]
      omega

/-- The first line of a text stands as far behind as there are newlines in the texts before it. -/
theorem getElem?_ofText_joined
    (earlier : List String)
    (text : String)
    (later : List String) :
    (ofText (joined (earlier ++ text :: later)))[earlier.length + newlines earlier]? =
      some (first text) := by
  rw [ofText_joined, List.flatMap_append, ← length_flatMap_ofRequest,
    List.getElem?_append_right (Nat.le_refl _), Nat.sub_self, List.flatMap_cons,
    ← List.head?_eq_getElem?, List.head?_append, ofRequest, List.head?_map, head?_splitOn]
  rfl

/-! ## What the bytes say -/

/-- An ASCII character stands where its byte does. -/
theorem mem_utf8EncodeChar_iff
    {byte : UInt8}
    {character : Char}
    (ascii : character.toNat ≤ 0x7F)
    (same : byte.toNat = character.toNat)
    (other : Char) :
    byte ∈ String.utf8EncodeChar other ↔ other = character := by
  constructor
  · intro present
    have found := Text.toNat_eq_of_mem_utf8EncodeChar (by omega) present
    exact Char.toNat_inj.mp (found.trans same)
  · rintro rfl
    rw [Text.utf8EncodeChar_of_ascii ascii, ← same, UInt8.ofNat_toNat]
    exact List.mem_singleton_self byte

theorem newline_mem_flatMap_iff (characters : List Char) :
    newline ∈ characters.flatMap String.utf8EncodeChar ↔ '\n' ∈ characters := by
  simp only [List.mem_flatMap, mem_utf8EncodeChar_iff (show '\n'.toNat ≤ 0x7F by decide)
    (show newline.toNat = '\n'.toNat by decide), exists_eq_right]

theorem splitOn_flatMap_utf8EncodeChar (characters : List Char) :
    (characters.flatMap String.utf8EncodeChar).splitOn newline =
      (characters.splitOn '\n').map fun piece => piece.flatMap String.utf8EncodeChar := by
  induction characters with
  | nil => rfl
  | cons character later inductionHypothesis =>
      rw [List.flatMap_cons, List.splitOn_cons_eq_if_modifyHead]
      by_cases ends : character = '\n'
      · have encoded : String.utf8EncodeChar '\n' = [newline] := by decide
        rw [ends, encoded, List.singleton_append, List.splitOn_cons_eq_if_modifyHead,
          if_pos BEq.rfl, if_pos BEq.rfl, inductionHypothesis]
        rfl
      · have absent : newline ∉ String.utf8EncodeChar character := by
          rw [mem_utf8EncodeChar_iff (show '\n'.toNat ≤ 0x7F by decide) rfl]
          exact ends
        rw [splitOn_append_of_not_mem absent, if_neg (by simpa using ends), inductionHypothesis]
        cases later.splitOn '\n' with
        | nil => rfl
        | cons piece pieces => simp

/-- One carriage return is left off a piece as it is off its bytes. -/
theorem content_flatMap_utf8EncodeChar (piece : List Char) :
    content (piece.flatMap String.utf8EncodeChar) =
      (withoutReturn piece).flatMap String.utf8EncodeChar := by
  obtain rfl | ⟨front, character, rfl⟩ := List.eq_nil_or_concat piece
  · rfl
  · rw [List.concat_eq_append, List.flatMap_append, List.flatMap_singleton, content]
    by_cases returns : character = '\r'
    · have encoded : String.utf8EncodeChar '\r' = [carriageReturn] := by decide
      rw [returns, encoded, withoutReturn_append_return, if_pos List.getLast?_concat,
        List.dropLast_concat]
    · have absent : carriageReturn ∉ String.utf8EncodeChar character := by
        rw [mem_utf8EncodeChar_iff (show '\r'.toNat ≤ 0x7F by decide) rfl]
        exact returns
      have kept : withoutReturn (front ++ [character]) = front ++ [character] := by
        apply withoutReturn_of_getLast?_ne
        rw [List.getLast?_concat]
        simpa using returns
      have other : (front.flatMap String.utf8EncodeChar ++
          String.utf8EncodeChar character).getLast? ≠ some carriageReturn := by
        rw [List.getLast?_append_of_ne_nil _ (String.utf8EncodeChar_ne_nil)]
        intro last
        exact absent (List.mem_of_getLast? last)
      rw [if_neg other, kept, List.flatMap_append, List.flatMap_singleton]

/-- A piece of a text is judged by its line. -/
theorem lineText_flatMap_utf8EncodeChar
    (limit : UInt64)
    (piece : List Char) :
    lineText limit (piece.flatMap String.utf8EncodeChar) =
      if (utf8 (String.ofList (withoutReturn piece))).length ≤ limit.toNat then
        .ok (String.ofList (withoutReturn piece))
      else .error (tooLong limit) := by
  have bytes : content (piece.flatMap String.utf8EncodeChar) =
      utf8 (String.ofList (withoutReturn piece)) := by
    rw [content_flatMap_utf8EncodeChar, utf8, String.toList_ofList]
  rw [lineText, bytes, Text.lossy_utf8]

/-- Pieces of a text, none of whose lines is over the limit, are all read. -/
theorem plainLines_of_short
    {limit : UInt64}
    {pieces : List (List Char)}
    (short : ∀ piece ∈ pieces,
      (utf8 (String.ofList (withoutReturn piece))).length ≤ limit.toNat) :
    plainLines limit.toNat ⟨[], none⟩
        (pieces.map fun piece => piece.flatMap String.utf8EncodeChar) =
      ⟨pieces.map fun piece => String.ofList (withoutReturn piece), none⟩ := by
  induction pieces with
  | nil => rfl
  | cons piece later inductionHypothesis =>
      rw [List.forall_mem_cons] at short
      rw [List.map_cons, plainLines, inductionHypothesis short.2, ← lineText_eq_plainLine,
        lineText_flatMap_utf8EncodeChar, if_pos short.1]
      rfl

theorem utf8_joined_cons
    (text : String)
    (texts : List String) :
    utf8 (joined (text :: texts)) = encode text ++ utf8 (joined texts) := by
  have encoded : String.utf8EncodeChar '\n' = [newline] := by decide
  rw [utf8, toList_joined_cons, List.flatMap_append, List.flatMap_cons, encoded, encode,
    List.append_assoc]
  rfl

theorem utf8_joined (texts : List String) : utf8 (joined texts) = texts.flatMap encode := by
  induction texts with
  | nil => rfl
  | cons text texts inductionHypothesis =>
      rw [utf8_joined_cons, inductionHypothesis, List.flatMap_cons]

theorem remainder_utf8_joined (texts : List String) : remainder (utf8 (joined texts)) = [] := by
  induction texts with
  | nil => rfl
  | cons text texts inductionHypothesis =>
      have bytes : utf8 (joined (text :: texts)) =
          utf8 text ++ newline :: utf8 (joined texts) := by
        rw [utf8_joined_cons, encode, List.append_assoc, List.singleton_append]
      simp only [remainder, bytes, List.splitOn_append_cons_self,
        List.getLast_append_of_ne_nil _ (List.splitOn_ne_nil newline (utf8 (joined texts)))]
      exact inductionHypothesis

/-- Joined texts, none of whose lines is over the limit, are read as these lines. -/
theorem reading_utf8_joined
    {limit : UInt64}
    {texts : List String}
    (short : ∀ line ∈ ofText (joined texts), (utf8 line).length ≤ limit.toNat) :
    reading limit.toNat false (utf8 (joined texts)) = ⟨ofText (joined texts), none⟩ := by
  rw [reading, if_neg Bool.false_ne_true, plainSoFar, remainder_utf8_joined, List.length_nil,
    if_neg (Nat.not_lt_zero _), terminated, utf8, splitOn_flatMap_utf8EncodeChar,
    ← List.map_dropLast]
  apply plainLines_of_short
  intro piece listed
  exact short _ (List.mem_map_of_mem listed)

/-! ## Lines that come back -/

/-- A text that a splitter can read back. -/
structure Clean (limit : UInt64) (line : String) : Prop where
  /-- It holds no newline. -/
  unbroken : '\n' ∉ line.toList
  /-- It does not end in a carriage return. -/
  unreturned : line.toList.getLast? ≠ some '\r'
  /-- It is within the limit. -/
  short : (utf8 line).length ≤ limit.toNat

variable {limit : UInt64} {line : String}

theorem Clean.newline_not_mem (clean : Clean limit line) : newline ∉ utf8 line := by
  rw [utf8, newline_mem_flatMap_iff]
  exact clean.unbroken

theorem Clean.lineText_utf8 (clean : Clean limit line) : lineText limit (utf8 line) = .ok line := by
  rw [utf8, lineText_flatMap_utf8EncodeChar, withoutReturn_of_getLast?_ne clean.unreturned,
    String.ofList_toList, if_pos clean.short]

/-- A buffer that holds the beginning of a clean line and what comes after it holds all of the line,
or no newline and not too much. -/
theorem Clean.cases_of_append
    (clean : Clean limit line)
    {buffer more rest : Bytes}
    (arriving : buffer ++ more = encode line ++ rest) :
    (∃ left, buffer = utf8 line ++ newline :: left) ∨
      newline ∉ buffer ∧ buffer.length ≤ limit.toNat := by
  obtain absent | ⟨start, left, absent, rfl⟩ := not_mem_or_eq_append_newline buffer
  · right
    refine ⟨absent, ?_⟩
    by_contra long
    apply absent
    have reached : (encode line).length ≤ buffer.length := by
      have short := clean.short
      rw [encode, List.length_append, List.length_singleton]
      omega
    have whole : encode line <+: buffer :=
      List.prefix_of_prefix_length_le ⟨rest, arriving.symm⟩ (List.prefix_append buffer more)
        reached
    apply whole.subset
    rw [encode]
    exact List.mem_append_right _ (List.mem_singleton_self newline)
  · left
    rw [encode, List.append_assoc, List.append_assoc, List.singleton_append,
      List.cons_append] at arriving
    have first := congrArg terminated arriving
    rw [terminated_append_newline absent, terminated_append_newline clean.newline_not_mem] at first
    rw [(List.cons.inj first).1]
    exact ⟨left, rfl⟩

/-- A splitter cuts a clean line off its buffer as soon as all of it is there, and waits for it
until then. -/
theorem Clean.decode
    {splitter : Splitter}
    (clean : Clean splitter.limit line)
    (roomy : Roomy splitter.limit)
    {buffer more rest : Bytes}
    (looked : splitter.Looked buffer)
    (arriving : buffer ++ more = encode line ++ rest) :
    (∃ left, buffer = encode line ++ left ∧
      splitter.decode buffer = ⟨.line line, { splitter with cursor := 0 }, left⟩) ∨
    splitter.decode buffer = ⟨.nothing, { splitter with cursor := buffer.length }, buffer⟩ := by
  obtain ⟨left, rfl⟩ | ⟨absent, short⟩ := clean.cases_of_append arriving
  · refine Or.inl ⟨left, ?_, ?_⟩
    · rw [encode, List.append_assoc, List.singleton_append]
    · rw [Splitter.decode_append_newline looked clean.newline_not_mem, clean.lineText_utf8]
      rfl
  · right
    rw [Splitter.decode_of_not_mem roomy absent, if_neg (by omega)]

end Lines
end SerialShare
