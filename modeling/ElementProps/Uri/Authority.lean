import ElementProps.Text.Quoted
import ElementProps.Uri.Address

/-!
# Authorities

The authority of a URI stands between `//` and its path. It is only checked: brackets must hold an
address, and no character may look like a delimiter.

* `Error`              what is wrong with an authority, and the words for it;
* `checkBrackets a`    the part in brackets is an address and stands where a host does;
* `checkAuthority a`   all that is asked of an authority; the first fault counts.
-/

namespace ElementProps.Uri

inductive Error where
  /-- a bracket is alone, or something stands beside the brackets -/
  | brackets
  /-- an address of a later version is malformed -/
  | futureAddress
  /-- a version 4 address stands where one of version 6 belongs -/
  | versionFour
  /-- what stands in brackets is no address -/
  | notAnAddress (host : String)
  /-- a character of the authority looks like a delimiter -/
  | lookalike (authority : String)
  deriving DecidableEq, Repr

def Error.message : Error → String
  | .brackets => "Invalid IPv6 URL"
  | .futureAddress => "IPvFuture address is invalid"
  | .versionFour => "An IPv4 address cannot be in brackets"
  | .notAnAddress host =>
    Text.quoted host ++ " does not appear to be an IPv4 or IPv6 address"
  | .lookalike authority =>
    "netloc '" ++ authority ++ "' contains invalid characters under NFKC normalization"

/-! ## brackets -/

/-- the host and port of an authority: what follows the last `@` -/
def hostAndPort (authority : Text) : Text := (authority.reverse.takeWhile (· != '@')).reverse

/-- The host of a host and port. It ends at the closing bracket when it is in brackets, and then
only a port may follow; otherwise it ends at the first colon. -/
def hostOf (t : Text) : Except Error Text :=
  match t.takeWhile (· != '['), t.dropWhile (· != '[') with
  | _, [] => .ok (t.takeWhile (· != ':'))
  | _ :: _, _ :: _ => .error .brackets
  | [], _ :: inner =>
    match (inner.dropWhile (· != ']')).tail with
    | [] | ':' :: _ => .ok (inner.takeWhile (· != ']'))
    | _ :: _ => .error .brackets

/-- a host that must be an address is one -/
def checkHost (host : Text) : Except Error Unit :=
  if host.head? = some 'v' then if isFuture host then .ok () else .error .futureAddress
  else if isV4 host then .error .versionFour
  else if isV6 host then .ok ()
  else .error (.notAnAddress (String.ofList host))

def checkBrackets (authority : Text) : Except Error Unit :=
  match authority.contains '[', authority.contains ']' with
  | false, false => .ok ()
  | true, true => (hostOf (hostAndPort authority)).bind checkHost
  | _, _ => .error .brackets

/-! ## characters that look like delimiters -/

/-- the code points of the characters above ASCII whose compatibility form holds one of `/`, `?`,
`#`, `@` and `:` -/
def lookalikes : List Nat :=
  [0x2047, 0x2048, 0x2049, 0x2100, 0x2101, 0x2105, 0x2106, 0x2A74, 0xFE13, 0xFE16, 0xFE55, 0xFE56,
   0xFE5F, 0xFE6B, 0xFF03, 0xFF0F, 0xFF1A, 0xFF1F, 0xFF20]

def isLookalike (c : Char) : Bool := lookalikes.contains c.toNat

/-! ## authorities -/

/-- all that is asked of an authority; brackets are checked first -/
def checkAuthority (authority : Text) : Except Error Unit := do
  checkBrackets authority
  if authority.any isLookalike then .error (.lookalike (String.ofList authority))

end ElementProps.Uri
