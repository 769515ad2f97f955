import FacetSearch.Error
import FacetSearch.Http.HostName
import FacetSearch.Text.Percent
/-!
# Addresses

An address is split into scheme, authority, path, query and fragment, and put together again. `encoded`
writes it in ASCII: the host in lower case and its labels in Punycode, the port as a plain number, all
other bytes beyond those that may stand for themselves in percent-encoding.
-/

namespace FacetSearch.Http

/-- The parts of an address. -/
structure Address where
  scheme : List Char := []
  authority : List Char := []
  path : List Char := []
  query : List Char := []
  fragment : List Char := []
  deriving DecidableEq

namespace Address

/-- The characters without blanks and control characters in front, and without tabs and line ends
anywhere. -/
def clean (cs : List Char) : List Char :=
  (cs.dropWhile (· ≤ ' ')).filter fun c => c ≠ '\t' ∧ c ≠ '\n' ∧ c ≠ '\r'

/-- A character of a scheme. -/
def isSchemeChar (c : Char) : Bool := c.isAlphanum || c == '+' || c == '-' || c == '.'

/-- The scheme in lower case, if there is one, and what follows its colon. -/
def splitScheme (cs : List Char) : List Char × List Char :=
  match Text.splitFirst ':' cs with
  | some (c :: before, behind) =>
    if c.isAlpha && before.all isSchemeChar then ((c :: before).map Char.toLower, behind) else ([], cs)
  | _ => ([], cs)

/-- The authority behind two slashes, if there are such, and what follows it. -/
def splitAuthority : List Char → List Char × List Char
  | '/' :: '/' :: cs =>
    let inside := fun c => c != '/' && c != '?' && c != '#'
    (cs.takeWhile inside, cs.dropWhile inside)
  | cs => ([], cs)

/-- What stands before and behind the first occurrence of a character; without it there is nothing
behind. -/
def cut (sep : Char) (cs : List Char) : List Char × List Char := (Text.splitFirst sep cs).getD (cs, [])

/-- What stands before the last occurrence of a character, if there is one, and behind it. -/
def cutLast (sep : Char) (cs : List Char) : Option (List Char) × List Char :=
  match Text.splitFirst sep cs.reverse with
  | some (behind, before) => (some before.reverse, behind.reverse)
  | none => (none, cs)

/-- Characters beyond ASCII that are spelled with characters that end an authority. -/
def reserved : List Nat :=
  [8263, 8264, 8265, 8448, 8449, 8453, 8454, 10868, 65043, 65046, 65109, 65110, 65119, 65131, 65283,
    65295, 65306, 65311, 65312]

/-- A host between brackets has to be an address. -/
def checkBracketed (host : List Char) : Except AddressFault Unit :=
  match host with
  | 'v' :: version =>
    match Text.splitFirst '.' version with
    | some (number, _ :: _) =>
      if !number.isEmpty && number.all HostName.isHexDigit then .ok () else .error .futureAddress
    | _ => .error .futureAddress
  | host =>
    if HostName.isGroupAddress host then .ok ()
    else if HostName.isDottedAddress host then .error .dottedAddress
    else .error (.bracketed host)

/-- What has brackets has them around the host: nothing stands in front of them, and behind them nothing
but a port. -/
def checkBrackets (authority : List Char) : Except AddressFault Unit :=
  let place := (cutLast '@' authority).2
  match Text.splitFirst '[' place with
  | some ([], bracketed) =>
    match cut ']' bracketed with
    | (host, []) | (host, ':' :: _) => checkBracketed host
    | _ => .error .brackets
  | some _ => .error .brackets
  | none => checkBracketed (cut ':' place).1

/-- An authority has brackets only around its host, and in pairs. -/
def checkAuthority (authority : List Char) : Except AddressFault Unit := do
  let opened := authority.contains '['
  if opened != authority.contains ']' then throw .brackets
  if opened then checkBrackets authority

/-- The parts of an address. -/
def split (cs : List Char) : Except AddressFault Address := do
  let (scheme, cs) := splitScheme (clean cs)
  let (authority, cs) := splitAuthority cs
  checkAuthority authority
  let (cs, fragment) := cut '#' cs
  let (path, query) := cut '?' cs
  if authority.any fun c => reserved.contains c.toNat then throw (.reserved authority)
  return { scheme, authority, path, query, fragment }

/-- Schemes whose addresses have a place for an authority even if there is none. -/
def hierarchical : List String :=
  ["ftp", "http", "gopher", "nntp", "telnet", "imap", "wais", "file", "mms", "https", "shttp", "snews",
    "prospero", "rtsp", "rtspu", "rsync", "svn", "svn+ssh", "sftp", "nfs", "git", "git+ssh", "ws", "wss",
    "itms-services"]

/-- The path with a slash in front, unless it is empty. -/
def rooted : List Char → List Char
  | [] => []
  | '/' :: cs => '/' :: cs
  | cs => '/' :: cs

/-- The address as a whole. A path that begins with two slashes takes the place of an authority. -/
def chars (a : Address) : List Char :=
  let placed := !a.authority.isEmpty ||
    (hierarchical.contains (String.ofList a.scheme) && a.path.take 2 != ['/', '/'])
  let located := if placed then '/' :: '/' :: a.authority ++ rooted a.path else a.path
  (if a.scheme.isEmpty then [] else a.scheme ++ [':']) ++ located ++
    (if a.query.isEmpty then [] else '?' :: a.query) ++
    (if a.fragment.isEmpty then [] else '#' :: a.fragment)

/-- Who asks: a name, and a password or none behind a colon. -/
def user? (a : Address) : Option (List Char × Option (List Char)) :=
  (cutLast '@' a.authority).1.map fun user =>
    match Text.splitFirst ':' user with
    | some (name, password) => (name, some password)
    | none => (user, none)

/-- The host and the text of the port. -/
def hostAndPort (a : Address) : List Char × List Char :=
  let place := (cutLast '@' a.authority).2
  match Text.splitFirst '[' place with
  | some (_, bracketed) =>
    let (host, rest) := cut ']' bracketed
    (host, (cut ':' rest).2)
  | none => cut ':' place

/-- The host in lower case, but for a zone behind a percent sign. -/
def host (a : Address) : List Char :=
  let name := (hostAndPort a).1.takeWhile (· ≠ '%')
  (Text.lower (String.ofList name)).toList ++ (hostAndPort a).1.drop name.length

/-- The port, if there is one. -/
def port? (a : Address) : Except AddressFault (Option Nat) :=
  let text := (hostAndPort a).2
  if text.isEmpty then .ok none
  else if text.all Char.isDigit then
    let n := text.foldl (fun n d => n * 10 + (d.toNat - 48)) 0
    if n ≤ 65535 then .ok (some n) else .error .portRange
  else .error (.port text)

/-- Marks that stand for themselves in who asks. -/
def userMarks : List Char := "%!$&'()*+,;=".toList

/-- Marks that stand for themselves in a path. -/
def pathMarks : List Char := "%!$&'()*+,/:;=@".toList

/-- Marks that stand for themselves in a query. -/
def queryMarks : List Char := "%!$&'()*+,/:;=?@".toList

/-- Marks that stand for themselves in a fragment. -/
def fragmentMarks : List Char := "%!#$&'()*+,/:;=?@".toList

/-- Who asks, in ASCII, in front of the host. -/
def encodedUser : Option (List Char × Option (List Char)) → List Char
  | some (name, none) => Percent.encode userMarks name ++ ['@']
  | some (name, some password) =>
    Percent.encode userMarks name ++ ':' :: Percent.encode userMarks password ++ ['@']
  | none => []

/-- The authority in ASCII. -/
def encodedAuthority (a : Address) : Except Error (List Char) := do
  let some name := HostName.ascii? (host a) | throw (.failure .hostName)
  let name := if name.contains ':' then '[' :: name ++ [']'] else name
  match port? a with
  | .error f => throw (.value (.address f))
  | .ok n? =>
    let port := (n?.map fun n => ':' :: (toString n).toList).getD []
    if Text.hasHalf a.authority then throw (.failure .encoding)
    return encodedUser (user? a) ++ name ++ port

/-- The address as a whole in ASCII. What is no character cannot be encoded. -/
def encoded (a : Address) : Except Error (List Char) := do
  if Text.hasHalf (a.path ++ a.query ++ a.fragment) then throw (.failure .encoding)
  let authority ← encodedAuthority a
  return chars { a with
    authority
    path := Percent.encode pathMarks a.path
    query := Percent.encode queryMarks a.query
    fragment := Percent.encode fragmentMarks a.fragment }

/-- The parts of an address, which has to be one. -/
def read (cs : List Char) : Except Error Address :=
  match split cs with
  | .ok a => .ok a
  | .error f => .error (.value (.address f))

end Address

end FacetSearch.Http
