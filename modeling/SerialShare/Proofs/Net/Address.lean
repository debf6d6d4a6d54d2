import Mathlib.Data.List.TakeWhile
import SerialShare.Net.Address
import SerialShare.Proofs.Text.Numeral

/-!
# Canonical addresses are read back

The text that is written for an address denotes that address and no other.  Octets and groups are
told apart by the characters between them, which are digits in no base.  The run of groups that is
left out of a text is where its two colons stand, because nowhere else do two of them stand side by
side, and it is as long as eight groups need it to be.
-/

namespace SerialShare
namespace Net
namespace Ip

/-! ## Octets -/

theorem octet?_decimal (octet : UInt8) : octet? (Text.decimal octet.toNat) = some octet := by
  have small := octet.toNat_lt
  have short : (Text.decimal octet.toNat).length ≤ 3 := by
    rw [Text.decimal, Nat.length_toDigits_le_iff (by decide) (by decide)]
    omega
  have leading (zero : (Text.decimal octet.toNat).head? = some '0') :
      (Text.decimal octet.toNat).length = 1 := by
    rw [(Text.numeral_decimal octet.toNat).leading zero]
    rfl
  rw [octet?, if_pos ⟨short, leading⟩, Text.number?_decimal]
  simp only [if_pos small, UInt8.ofNat_toNat]

/-- A point is no digit. -/
theorem point_not_mem_decimal (value : Nat) : '.' ∉ Text.decimal value := by
  intro present
  exact absurd (Text.isDigit_of_mem_decimal present) (by decide)

theorem octets?_dotted
    (first second third fourth : UInt8) :
    octets? (dotted first second third fourth) = some (first, second, third, fourth) := by
  have split : (dotted first second third fourth).splitOn '.' =
      [first, second, third, fourth].map fun octet => Text.decimal octet.toNat := by
    apply List.splitOn_intercalate
    · intro piece listed
      obtain ⟨octet, -, rfl⟩ := List.mem_map.mp listed
      exact point_not_mem_decimal octet.toNat
    · simp
  rw [octets?, split]
  simp only [List.map_cons, List.map_nil, octet?_decimal]
  rfl

theorem octet?_eq_none_of_colon
    {digits : List Char}
    (colon : ':' ∈ digits) :
    octet? digits = none := by
  rw [octet?, Text.number?_eq_none_of_mem colon (by decide)]
  exact ite_self none

/-- Four octets hold no colon. -/
theorem octets?_eq_none_of_colon
    {text : List Char}
    (colon : ':' ∈ text) :
    octets? text = none := by
  unfold octets?
  split
  · rename_i first second third fourth pieces
    have whole : ['.'].intercalate (text.splitOn '.') = text := List.intercalate_splitOn '.'
    rw [pieces] at whole
    -- The colon is no point, and so stands in one of the pieces.
    have inside : ':' ∈ first ∨ ':' ∈ second ∨ ':' ∈ third ∨ ':' ∈ fourth := by
      rw [← whole] at colon
      simpa [List.intercalate_cons_cons, or_assoc] using colon
    obtain inside | inside | inside | inside := inside
    · simp [octet?_eq_none_of_colon inside]
    · simp [octet?_eq_none_of_colon inside]
    · simp [octet?_eq_none_of_colon inside]
    · simp [octet?_eq_none_of_colon inside]
  · rfl

/-! ## Groups -/

theorem group?_hexadecimal (group : UInt16) :
    group? (Text.hexadecimal group.toNat) = some group := by
  have short : (Text.hexadecimal group.toNat).length ≤ 4 := by
    rw [Text.hexadecimal, Nat.length_toDigits_le_iff (by decide) (by decide)]
    exact group.toNat_lt
  rw [group?, if_pos short, Text.number?_hexadecimal, Option.map_some, UInt16.ofNat_toNat]

/-- A colon is no digit. -/
theorem colon_not_mem_hexadecimal (value : Nat) : ':' ∉ Text.hexadecimal value := by
  intro present
  have read := Text.number?_hexadecimal value
  rw [Text.number?_eq_none_of_mem present (by decide)] at read
  cases read

/-- The texts of groups, in order. -/
def groupTexts (groups : List UInt16) : List (List Char) :=
  groups.map fun group => Text.hexadecimal group.toNat

@[simp] theorem colonSeparated_singleton (group : UInt16) :
    colonSeparated [group] = Text.hexadecimal group.toNat := by
  rw [colonSeparated, List.map_cons, List.map_nil, List.intercalate_singleton]

theorem colonSeparated_cons_cons
    (first second : UInt16)
    (later : List UInt16) :
    colonSeparated (first :: second :: later) =
      Text.hexadecimal first.toNat ++ ':' :: colonSeparated (second :: later) := by
  rw [colonSeparated, List.map_cons, List.map_cons, List.intercalate_cons_cons,
    List.append_assoc]
  rfl

/-- The text of groups starts with a digit, whatever follows it. -/
theorem exists_colonSeparated_cons
    (first : UInt16)
    (later : List UInt16) :
    ∃ digit rest, colonSeparated (first :: later) = digit :: rest ∧ digit ≠ ':' := by
  have digits := colon_not_mem_hexadecimal first.toNat
  have shown : Text.hexadecimal first.toNat ≠ [] := Nat.toDigits_ne_nil
  obtain ⟨digit, rest, written⟩ := List.exists_cons_of_ne_nil shown
  rw [written, List.mem_cons, not_or] at digits
  cases later with
  | nil => exact ⟨digit, rest, by rw [colonSeparated_singleton, written], Ne.symm digits.1⟩
  | cons second later =>
      refine ⟨digit, rest ++ ':' :: colonSeparated (second :: later), ?_, Ne.symm digits.1⟩
      rw [colonSeparated_cons_cons, written, List.cons_append]

theorem pieces_colonSeparated (groups : List UInt16) :
    pieces (colonSeparated groups) = groupTexts groups := by
  cases groups with
  | nil => rfl
  | cons first later =>
      obtain ⟨digit, rest, written, -⟩ := exists_colonSeparated_cons first later
      have split : (colonSeparated (first :: later)).splitOn ':' = groupTexts (first :: later) := by
        apply List.splitOn_intercalate
        · intro piece listed
          obtain ⟨group, -, rfl⟩ := List.mem_map.mp listed
          exact colon_not_mem_hexadecimal group.toNat
        · simp
      rw [pieces, if_neg (by simp [written]), split]

theorem mapM_group?_groupTexts (groups : List UInt16) :
    (groupTexts groups).mapM group? = some groups := by
  induction groups with
  | nil => rfl
  | cons first later inductionHypothesis =>
      rw [groupTexts] at inductionHypothesis ⊢
      rw [List.map_cons, List.mapM_cons, group?_hexadecimal, inductionHypothesis]
      rfl

theorem groups?_groupTexts (groups : List UInt16) : groups? (groupTexts groups) = some groups := by
  induction groups with
  | nil => rfl
  | cons first later inductionHypothesis =>
      cases later with
      | nil => simp [groupTexts, groups?, group?_hexadecimal]
      | cons second later =>
          rw [groupTexts, List.map_cons] at inductionHypothesis ⊢
          rw [List.map_cons, groups?, group?_hexadecimal, inductionHypothesis]
          · rfl
          · simp

/-! ## The gap -/

theorem cutAtGap?_append_of_not_mem
    {front : List Char}
    (absent : ':' ∉ front)
    (rest : List Char) :
    cutAtGap? (front ++ rest) =
      (cutAtGap? rest).map fun (before, after) => (front ++ before, after) := by
  induction front with
  | nil => simp
  | cons character front inductionHypothesis =>
      rw [List.mem_cons, not_or] at absent
      rw [List.cons_append, cutAtGap?, inductionHypothesis absent.2, Option.map_map]
      · rfl
      · simp [Ne.symm absent.1]

theorem cutAtGap?_colon
    {rest : List Char}
    (single : rest.head? ≠ some ':') :
    cutAtGap? (':' :: rest) =
      (cutAtGap? rest).map fun (before, after) => (':' :: before, after) := by
  rw [cutAtGap?]
  rintro later - rfl
  exact single rfl

/-- No gap is in the text of groups, nor does it make one with what follows. -/
theorem cutAtGap?_colonSeparated_append
    (groups : List UInt16)
    (rest : List Char) :
    cutAtGap? (colonSeparated groups ++ rest) =
      (cutAtGap? rest).map fun (before, after) => (colonSeparated groups ++ before, after) := by
  induction groups with
  | nil => exact (congrFun Option.map_id (cutAtGap? rest)).symm
  | cons first later inductionHypothesis =>
      have digits := colon_not_mem_hexadecimal first.toNat
      cases later with
      | nil =>
          rw [colonSeparated_singleton]
          exact cutAtGap?_append_of_not_mem digits rest
      | cons second later =>
          obtain ⟨digit, written, isWritten, notColon⟩ := exists_colonSeparated_cons second later
          rw [colonSeparated_cons_cons, List.append_assoc, List.cons_append,
            cutAtGap?_append_of_not_mem digits, cutAtGap?_colon (by simp [isWritten, notColon]),
            inductionHypothesis, Option.map_map, Option.map_map]
          congr 1
          funext cut
          simp

/-- The longest run of zero groups is where it is said to be. -/
theorem exists_eq_append_longestZeroRun
    (groups : List UInt16) :
    ∃ before after,
      groups = before ++ List.replicate (longestZeroRun groups).2 0 ++ after ∧
        before.length = (longestZeroRun groups).1 := by
  induction groups with
  | nil => exact ⟨[], [], rfl, rfl⟩
  | cons group rest inductionHypothesis =>
      obtain ⟨before, after, whole, start⟩ := inductionHypothesis
      simp only [longestZeroRun]
      split
      · have zeros : (group :: rest).takeWhile (· == 0) =
            List.replicate (leadingZeros (group :: rest)) 0 := by
          rw [List.eq_replicate_iff]
          refine ⟨rfl, fun zero listed => ?_⟩
          simpa using List.mem_takeWhile_imp listed
        refine ⟨[], (group :: rest).dropWhile (· == 0), ?_, rfl⟩
        rw [List.nil_append, ← zeros, List.takeWhile_append_dropWhile]
      · exact ⟨group :: before, after, congrArg (group :: ·) whole, congrArg (· + 1) start⟩

/-- Groups are what comes before their longest run of zeros, the run, and what comes after it. -/
theorem take_append_longestZeroRun_append_drop (groups : List UInt16) :
    groups.take (longestZeroRun groups).1 ++ List.replicate (longestZeroRun groups).2 0 ++
      groups.drop ((longestZeroRun groups).1 + (longestZeroRun groups).2) = groups := by
  obtain ⟨before, after, whole, start⟩ := exists_eq_append_longestZeroRun groups
  generalize longestZeroRun groups = run at *
  subst whole
  have next : before.length + run.2 = (before ++ List.replicate run.2 0).length := by simp
  rw [← start, next, List.drop_left]
  simp only [List.append_assoc, List.take_left]

/-- The groups that a gap stands for are as many as are missing from eight. -/
theorem v6?_gap
    {before after : List UInt16}
    {run : Nat}
    (eight : before.length + run + after.length = 8)
    (positive : 0 < run) :
    v6? (colonSeparated before ++ [':', ':'] ++ colonSeparated after) =
      ofGroups? (before ++ List.replicate run 0 ++ after) := by
  have left : 8 - (before.length + after.length) = run := by omega
  have room : before.length + after.length ≤ 7 := by omega
  have cut : cutAtGap? (colonSeparated before ++ [':', ':'] ++ colonSeparated after) =
      some (colonSeparated before, colonSeparated after) := by
    rw [List.append_assoc, cutAtGap?_colonSeparated_append]
    simp [cutAtGap?]
  simp only [v6?, cut, pieces_colonSeparated, mapM_group?_groupTexts, groups?_groupTexts,
    Option.bind_eq_bind, Option.bind_some, if_pos room, left]

/-- Without a gap there are eight groups. -/
theorem v6?_colonSeparated (groups : List UInt16) :
    v6? (colonSeparated groups) = ofGroups? groups := by
  have cut : cutAtGap? (colonSeparated groups) = none := by
    have noGap := cutAtGap?_colonSeparated_append groups []
    rwa [List.append_nil] at noGap
  simp only [v6?, cut, pieces_colonSeparated, groups?_groupTexts, Option.bind_eq_bind,
    Option.bind_some]

/-! ## Whole addresses -/

theorem ofGroups?_toList (groups : Vector UInt16 8) :
    ofGroups? groups.toList = some (.v6 groups) := by
  have eight : groups.toList.toArray.size = 8 := by simp
  rw [ofGroups?, dif_pos eight]
  exact congrArg (some ∘ Ip.v6) (Vector.toArray_inj.mp (Array.toArray_toList ..))

/-- A group is made of its two halves. -/
theorem groupOf_halves (group : UInt16) :
    groupOf (UInt8.ofNat (group.toNat / 256)) (UInt8.ofNat (group.toNat % 256)) = group := by
  have bound := group.toNat_lt
  have high : group.toNat / 256 % 2 ^ 8 = group.toNat / 256 := Nat.mod_eq_of_lt (by omega)
  have low : group.toNat % 256 % 2 ^ 8 = group.toNat % 256 := Nat.mod_eq_of_lt (by omega)
  rw [groupOf, UInt8.toNat_ofNat', UInt8.toNat_ofNat', high, low, Nat.div_add_mod',
    UInt16.ofNat_toNat]

/-- Octets that groups stand for are the halves of the last two of them. -/
theorem eq_of_mapped?
    {groups : List UInt16}
    {first second third fourth : UInt8}
    (mapped : mapped? groups = some (first, second, third, fourth)) :
    groups = List.replicate 5 0 ++ [0xFFFF, groupOf first second, groupOf third fourth] := by
  unfold mapped? at mapped
  split at mapped
  · simp only [Option.some.injEq, Prod.mk.injEq] at mapped
    obtain ⟨rfl, rfl, rfl, rfl⟩ := mapped
    rw [groupOf_halves, groupOf_halves]
    rfl
  · cases mapped

theorem groups?_dotted
    (first second third fourth : UInt8) :
    groups? [dotted first second third fourth] =
      some [groupOf first second, groupOf third fourth] := by
  have noGroup : group? (dotted first second third fourth) = none := by
    have point : '.' ∈ dotted first second third fourth := by
      simp [dotted, List.intercalate_cons_cons]
    rw [group?, Text.number?_eq_none_of_mem point (by decide)]
    exact ite_self none
  rw [groups?, noGroup, octets?_dotted]
  rfl

/-- The text for an address that stands for four octets. -/
theorem v6?_mapped
    (first second third fourth : UInt8) :
    v6? ([':', ':', 'f', 'f', 'f', 'f', ':'] ++ dotted first second third fourth) =
      ofGroups? (List.replicate 5 0 ++ [0xFFFF, groupOf first second, groupOf third fourth]) := by
  have noColon : ':' ∉ dotted first second third fourth := by
    intro colon
    have read := octets?_dotted first second third fourth
    rw [octets?_eq_none_of_colon colon] at read
    cases read
  have split : pieces (['f', 'f', 'f', 'f', ':'] ++ dotted first second third fourth) =
      [['f', 'f', 'f', 'f'], dotted first second third fourth] := by
    have front : ':' ∉ ['f', 'f', 'f', 'f'] := by decide
    rw [pieces, if_neg (by simp)]
    exact (List.splitOn_append_cons_self_of_not_mem front _).trans
      (congrArg (_ :: ·) (List.splitOn_eq_singleton noColon))
  have tail : groups? [['f', 'f', 'f', 'f'], dotted first second third fourth] =
      some [0xFFFF, groupOf first second, groupOf third fourth] := by
    rw [groups?, groups?_dotted]
    · rfl
    · simp
  have cut : cutAtGap? ([':', ':', 'f', 'f', 'f', 'f', ':'] ++ dotted first second third fourth) =
      some ([], ['f', 'f', 'f', 'f', ':'] ++ dotted first second third fourth) := rfl
  simp only [v6?, cut]
  rw [split, tail]
  rfl

/-- The text of eight groups is read as these groups. -/
theorem v6?_groupsText
    {groups : List UInt16}
    (eight : groups.length = 8) :
    v6? (groupsText groups) = ofGroups? groups := by
  cases mapped : mapped? groups with
  | some octets =>
      obtain ⟨first, second, third, fourth⟩ := octets
      simp only [groupsText, mapped]
      rw [v6?_mapped, ← eq_of_mapped? mapped]
  | none =>
      simp only [groupsText, mapped]
      by_cases long : 2 ≤ (longestZeroRun groups).2
      · have whole := take_append_longestZeroRun_append_drop groups
        have total := congrArg List.length whole
        rw [List.length_append, List.length_append, List.length_replicate, eight] at total
        rw [if_pos long, v6?_gap total (by omega), whole]
      · rw [if_neg long, v6?_colonSeparated]

theorem colon_mem_groupsText
    {groups : List UInt16}
    (eight : groups.length = 8) :
    ':' ∈ groupsText groups := by
  cases mapped : mapped? groups with
  | some octets => simp [groupsText, mapped]
  | none =>
      simp only [groupsText, mapped]
      split
      · simp
      · obtain ⟨first, second, later, rfl⟩ :
            ∃ first second later, groups = first :: second :: later :=
          match groups, eight with
          | first :: second :: later, _ => ⟨first, second, later, rfl⟩
        simp [colonSeparated_cons_cons]

/-- The text for an address denotes it. -/
theorem ofCharacters?_characters (ip : Ip) : ofCharacters? ip.characters = some ip := by
  cases ip with
  | v4 first second third fourth => rw [characters, ofCharacters?, octets?_dotted]
  | v6 groups =>
      have eight : groups.toList.length = 8 := Vector.length_toList
      rw [characters, ofCharacters?, octets?_eq_none_of_colon (colon_mem_groupsText eight)]
      exact (v6?_groupsText eight).trans (ofGroups?_toList groups)

end Ip
end Net
end SerialShare
