import SerialShare.Text.Numeral

/-!
# Internet addresses

The addresses of both families, their canonical text, and the reader for every text that denotes
one.  An address of the longer family is eight groups of sixteen bits.  Its canonical text leaves
out the first of the longest runs of zero groups, if that run has at least two.
-/

namespace SerialShare
namespace Net

/-- An internet address. -/
inductive Ip where
  /-- Four octets. -/
  | v4 (first second third fourth : UInt8)
  /-- Eight groups of sixteen bits. -/
  | v6 (groups : Vector UInt16 8)
  deriving DecidableEq, Repr

/-- An address and a port. -/
structure SocketAddress where
  /-- The host's address. -/
  host : Ip
  /-- The port. -/
  port : UInt16
  /-- The number of the network that an address of the longer family belongs to, or zero. -/
  scope : UInt32 := 0
  deriving DecidableEq, Repr

namespace Ip

/-! ## Writing -/

/-- Four octets in dotted decimal. -/
def dotted (first second third fourth : UInt8) : List Char :=
  ['.'].intercalate ([first, second, third, fourth].map fun octet => Text.decimal octet.toNat)

/-- Groups in hexadecimal between colons. -/
def colonSeparated (groups : List UInt16) : List Char :=
  [':'].intercalate (groups.map fun group => Text.hexadecimal group.toNat)

/-- How many zero groups a list starts with. -/
def leadingZeros (groups : List UInt16) : Nat :=
  (groups.takeWhile (· == 0)).length

/-- Where the first of the longest runs of zero groups starts, and its length. -/
def longestZeroRun : List UInt16 → Nat × Nat
  | [] => (0, 0)
  | group :: rest =>
    let (start, length) := longestZeroRun rest
    let here := leadingZeros (group :: rest)
    if length ≤ here then (0, here) else (start + 1, length)

/-- The octets of a shorter address that a longer one stands for. -/
def mapped? : List UInt16 → Option (UInt8 × UInt8 × UInt8 × UInt8)
  | [0, 0, 0, 0, 0, 0xFFFF, high, low] =>
    some (UInt8.ofNat (high.toNat / 256), UInt8.ofNat (high.toNat % 256),
      UInt8.ofNat (low.toNat / 256), UInt8.ofNat (low.toNat % 256))
  | _ => none

/-- The canonical text of eight groups. -/
def groupsText (groups : List UInt16) : List Char :=
  match mapped? groups with
  | some (first, second, third, fourth) =>
    [':', ':', 'f', 'f', 'f', 'f', ':'] ++ dotted first second third fourth
  | none =>
    let (start, length) := longestZeroRun groups
    if 2 ≤ length then
      colonSeparated (groups.take start) ++ [':', ':'] ++
        colonSeparated (groups.drop (start + length))
    else colonSeparated groups

/-- The canonical text of an address, one character after the other. -/
def characters : Ip → List Char
  | .v4 first second third fourth => dotted first second third fourth
  | .v6 groups => groupsText groups.toList

/-- The canonical text of an address. -/
def text (ip : Ip) : String :=
  String.ofList ip.characters

/-! ## Reading -/

/-- One octet in decimal: at most three digits, and no zero before another digit. -/
def octet? (digits : List Char) : Option UInt8 :=
  if digits.length ≤ 3 ∧ (digits.head? = some '0' → digits.length = 1) then
    match Text.number? 10 digits with
    | some value => if value < 256 then some (UInt8.ofNat value) else none
    | none => none
  else none

/-- Four octets in dotted decimal. -/
def octets? (text : List Char) : Option (UInt8 × UInt8 × UInt8 × UInt8) :=
  match text.splitOn '.' with
  | [first, second, third, fourth] => do
    let first ← octet? first
    let second ← octet? second
    let third ← octet? third
    let fourth ← octet? fourth
    some (first, second, third, fourth)
  | _ => none

/-- One group in hexadecimal: at most four digits. -/
def group? (digits : List Char) : Option UInt16 :=
  if digits.length ≤ 4 then (Text.number? 16 digits).map UInt16.ofNat else none

/-- Two octets as one group. -/
def groupOf (high low : UInt8) : UInt16 :=
  UInt16.ofNat (high.toNat * 256 + low.toNat)

/-- Groups, of which the last two may be given as four octets. -/
def groups? : List (List Char) → Option (List UInt16)
  | [] => some []
  | [last] =>
    match group? last with
    | some group => some [group]
    | none =>
      (octets? last).map fun (first, second, third, fourth) =>
        [groupOf first second, groupOf third fourth]
  | piece :: rest => do
    let group ← group? piece
    let groups ← groups? rest
    some (group :: groups)

/-- Cut a text at the first place where two colons stand side by side. -/
def cutAtGap? : List Char → Option (List Char × List Char)
  | ':' :: ':' :: rest => some ([], rest)
  | character :: rest => (cutAtGap? rest).map fun (before, after) => (character :: before, after)
  | [] => none

/-- The pieces between the colons of a text, none when it is empty. -/
def pieces (text : List Char) : List (List Char) :=
  if text.isEmpty then [] else text.splitOn ':'

/-- Exactly eight groups, as an address. -/
def ofGroups? (groups : List UInt16) : Option Ip :=
  if eight : groups.toArray.size = 8 then some (.v6 ⟨groups.toArray, eight⟩) else none

/-- An address of the longer family.  The gap stands for at least one zero group, and octets may
stand at the very end only. -/
def v6? (text : List Char) : Option Ip :=
  match cutAtGap? text with
  | none => do
    let groups ← groups? (pieces text)
    ofGroups? groups
  | some (before, after) => do
    let head ← (pieces before).mapM group?
    let tail ← groups? (pieces after)
    if head.length + tail.length ≤ 7 then
      ofGroups? (head ++ List.replicate (8 - (head.length + tail.length)) 0 ++ tail)
    else none

/-- The address that characters denote, in any of the accepted spellings. -/
def ofCharacters? (text : List Char) : Option Ip :=
  match octets? text with
  | some (first, second, third, fourth) => some (.v4 first second third fourth)
  | none => v6? text

/-- The address that a text denotes, in any of the accepted spellings. -/
def parse? (text : String) : Option Ip :=
  ofCharacters? text.toList

end Ip

namespace SocketAddress

/-- A port in decimal. -/
def port? (digits : List Char) : Option UInt16 :=
  match Text.number? 10 digits with
  | some value => if value < 65536 then some (UInt16.ofNat value) else none
  | none => none

/-- The number of a network in decimal. -/
def scope? (digits : List Char) : Option UInt32 :=
  match Text.number? 10 digits with
  | some value => if value < 4294967296 then some (UInt32.ofNat value) else none
  | none => none

/-- The number of a network behind its mark, unless it is zero. -/
def scopeText (scope : UInt32) : String :=
  if scope = 0 then "" else "%" ++ String.ofList (Text.decimal scope.toNat)

/-- An address and a port, with brackets around an address that holds colons. -/
def text (address : SocketAddress) : String :=
  let port := String.ofList (Text.decimal address.port.toNat)
  match address.host with
  | .v4 .. => address.host.text ++ ":" ++ port
  | .v6 .. => "[" ++ address.host.text ++ scopeText address.scope ++ "]:" ++ port

/-- An address of the longer family, and the number of its network if that is given. -/
def scoped? (characters : List Char) : Option (Ip × UInt32) :=
  match characters.splitOn '%' with
  | [host] => (Ip.v6? host).map (·, 0)
  | [host, digits] => do
    let host ← Ip.v6? host
    let scope ← scope? digits
    some (host, scope)
  | _ => none

/-- The address and port that a text denotes. -/
def parse? (text : String) : Option SocketAddress :=
  match text.toList with
  | '[' :: rest =>
    match rest.splitOn ']' with
    | [host, ':' :: digits] => do
      let (host, scope) ← scoped? host
      let port ← port? digits
      some ⟨host, port, scope⟩
    | _ => none
  | characters =>
    match characters.splitOn ':' with
    | [host, digits] => do
      let (first, second, third, fourth) ← Ip.octets? host
      let port ← port? digits
      some ⟨.v4 first second third fourth, port, 0⟩
    | _ => none

end SocketAddress
end Net
end SerialShare
