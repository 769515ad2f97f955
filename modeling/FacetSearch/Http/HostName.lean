import FacetSearch.Http.HostLabel
import FacetSearch.Text.Split
/-!
# Host names

A host is named by labels between dots, the last of which may be empty, or by an address of eight groups
of hexadecimal digits, between brackets. Behind it a port may be given.
-/

namespace FacetSearch.HostName

/-- A dot of some script. -/
def isDot (c : Char) : Bool := c == '.' || c == '\u3002' || c == '\uff0e' || c == '\uff61'

/-- The name in ASCII, if it is one. -/
def ascii? (name : List Char) : Option (List Char) :=
  let labels := Text.splitChars '.' (name.map fun c => if isDot c then '.' else c)
  match labels.getLast? with
  | some [] =>
    if labels.length = 1 then some []
    else (labels.dropLast.mapM HostLabel.ascii?).map fun ls => ['.'].intercalate ls ++ ['.']
  | _ => (labels.mapM HostLabel.ascii?).map fun ls => ['.'].intercalate ls

/-- A number from 0 to 255, without zeros in front. -/
def isOctet (cs : List Char) : Bool :=
  match cs with
  | [] => false
  | c :: rest =>
    cs.all Char.isDigit && cs.length ≤ 3 && (rest.isEmpty || c != '0') &&
      cs.foldl (fun n d => n * 10 + (d.toNat - 48)) 0 ≤ 255

/-- Four numbers between dots. -/
def isDottedAddress (cs : List Char) : Bool :=
  let parts := Text.splitChars '.' cs
  parts.length = 4 && parts.all isOctet

/-- A hexadecimal digit. -/
def isHexDigit (c : Char) : Bool := c.isDigit || ('a' ≤ c && c ≤ 'f') || ('A' ≤ c && c ≤ 'F')

/-- One to four hexadecimal digits. -/
def isGroup (cs : List Char) : Bool := 0 < cs.length && cs.length ≤ 4 && cs.all isHexDigit

/-- The parts of an address with the dotted numbers at its end as two groups. -/
def withoutDotted (parts : List (List Char)) : Option (List (List Char)) :=
  match parts.getLast? with
  | some last =>
    if last.contains '.' then
      if isDottedAddress last then some (parts.dropLast ++ [['0'], ['0']]) else none
    else some parts
  | none => none

/-- Groups on one side of a gap; the one at the end of the address is empty if there are none. -/
def isSide (groups : List (List Char)) : Bool := groups = [[]] || groups.all isGroup

/-- The parts between colons are those of an address: eight groups, or fewer with one gap. -/
def areGroups (parts : List (List Char)) : Bool :=
  match ((parts.drop 1).dropLast).count [] with
  | 0 => parts.length = 8 && parts.all isGroup
  | 1 =>
    let before := (parts.take 1) ++ (parts.drop 1).takeWhile (· ≠ [])
    let behind := (parts.drop 1).dropWhile (· ≠ []) |>.drop 1
    let count := (before.filter (· ≠ [])).length + (behind.filter (· ≠ [])).length
    isSide before && isSide behind && count ≤ 7
  | _ => false

/-- An address of groups, with a zone behind a percent sign or without. -/
def isGroupAddress (cs : List Char) : Bool :=
  let (address, zoned) := match Text.splitFirst '%' cs with
    | some (address, zone) => (address, !zone.isEmpty && !zone.contains '%')
    | none => (cs, true)
  let parts := Text.splitChars ':' address
  zoned && 3 ≤ parts.length && ((withoutDotted parts).map areGroups).getD false

/-- A name as requests have it: letters, digits, dots and hyphens. -/
def isName (cs : List Char) : Bool :=
  !cs.isEmpty && cs.all fun c => c.isAlphanum || c == '.' || c == '-'

/-- An address between brackets as requests have it: it has a colon and no zone. -/
def isBracketed (cs : List Char) : Bool :=
  match cs with
  | '[' :: inside =>
    match inside.dropWhile isHexDigit with
    | ':' :: rest =>
      let part := fun c => isHexDigit c || c == '.' || c == ':'
      !(rest.takeWhile part).isEmpty && rest.dropWhile part == [']']
    | _ => false
  | _ => false

/-- A host without its port, and the port with its colon. -/
def splitPort (cs : List Char) : List Char × List Char :=
  match cs with
  | '[' :: _ => (cs.takeWhile (· ≠ ']') ++ (cs.dropWhile (· ≠ ']')).take 1, (cs.dropWhile (· ≠ ']')).drop 1)
  | _ => (cs.takeWhile (· ≠ ':'), cs.dropWhile (· ≠ ':'))

/-- No port, or a number that does not begin with zero. -/
def isPort (cs : List Char) : Bool :=
  match cs with
  | [] => true
  | ':' :: digits => !digits.isEmpty && digits.all Char.isDigit && digits.head? != some '0'
  | _ => false

/-- A host as requests have it, with a port or without. -/
def isHost (cs : List Char) : Bool :=
  let (name, port) := splitPort cs
  (isName name || isBracketed name) && isPort port

end FacetSearch.HostName
