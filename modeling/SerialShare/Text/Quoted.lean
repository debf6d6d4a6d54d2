import SerialShare.Text.Hidden
import SerialShare.Text.Numeral

/-!
# Quoted text

A text between quotation marks, in which every character that could end the text or that does not
show on its own is written as an escape.
-/

namespace SerialShare
namespace Text

/-- Where quoted texts differ: whether an apostrophe is escaped as well. -/
structure Quotation where
  /-- Write an apostrophe after a backslash. -/
  escapesApostrophe : Bool
  deriving DecidableEq, Repr

/-- Write one character of a quoted text. -/
def Quotation.character (quotation : Quotation) (character : Char) : List Char :=
  if character = '\x00' then ['\\', '0']
  else if character = '\t' then ['\\', 't']
  else if character = '\r' then ['\\', 'r']
  else if character = '\n' then ['\\', 'n']
  else if character = '"' ∨ character = '\\' then ['\\', character]
  else if character = '\x27' then
    if quotation.escapesApostrophe then ['\\', character] else [character]
  else if isHidden character then
    ['\\', 'u', '\x7b'] ++ hexadecimal character.toNat ++ ['\x7d']
  else [character]

/-- Write the characters of a text between quotation marks, one after the other. -/
def Quotation.characters (quotation : Quotation) (text : List Char) : List Char :=
  '"' :: text.flatMap quotation.character ++ ['"']

/-- Write a text between quotation marks. -/
def Quotation.quote (quotation : Quotation) (text : String) : String :=
  String.ofList (quotation.characters text.toList)

/-- The quotation of names shown to a person. -/
def Quotation.shown : Quotation :=
  ⟨false⟩

end Text
end SerialShare
