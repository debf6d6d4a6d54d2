import SerialShare.Text.Quoted

/-!
# Writing records

Records are written with one entry to a line, indented by four spaces for each bracket around it.
-/

namespace SerialShare
namespace Record

/-- The quotation of texts: whatever could be mistaken for a mark is escaped. -/
def quotation : Text.Quotation := ⟨true⟩

/-- Write a text. -/
def textOf (text : String) : List Char :=
  quotation.characters text.toList

/-- Write a number. -/
def numberOf (value : Nat) : List Char :=
  Text.decimal value

/-- Write a truth value. -/
def booleanOf (value : Bool) : List Char :=
  (if value then "true" else "false").toList

/-- The spaces in front of a line. -/
def indentation (depth : Nat) : List Char :=
  List.replicate (4 * depth) ' '

/-- Write one entry on a line of its own. -/
def entryOf (depth : Nat) (entry : String × List Char) : List Char :=
  indentation depth ++ entry.1.toList ++ ":".toList ++ " ".toList ++ entry.2 ++ ",\n".toList

/-- Write a record inside a number of brackets. -/
def recordOf (depth : Nat) (entries : List (String × List Char)) : List Char :=
  "(\n".toList ++ entries.flatMap (entryOf (depth + 1)) ++ indentation depth ++ ")".toList

end Record
end SerialShare
