import AdAdmission.Text.Utf8
import AdAdmission.Url.Address
import AdAdmission.Url.Domain
/-! Web addresses. An address begins with a scheme. The schemes of the web need a host, other schemes
    may have one after two strokes. Whether an address is well formed is decided by its scheme, the part
    before the host, the host and the port; what comes after the port is never wrong. -/

namespace AdAdmission
namespace Url

/-- What is wrong with an address. -/
inductive ParseError where
  | emptyHost
  | invalidDomain
  | invalidPort
  | invalidAddress4
  | invalidAddress6
  | invalidHostCharacter
  | noScheme
deriving DecidableEq

/-- The wording of what is wrong with an address. -/
def ParseError.message : ParseError → String
  | emptyHost => "empty host"
  | invalidDomain => "invalid international domain name"
  | invalidPort => "invalid port number"
  | invalidAddress4 => "invalid IPv4 address"
  | invalidAddress6 => "invalid IPv6 address"
  | invalidHostCharacter => "invalid domain character"
  | noScheme => "relative URL without a base"

/-! ### Schemes -/

/-- How the part after a scheme is read. -/
inductive SchemeClass where
  /-- A scheme of the web: it always has a host. -/
  | web
  /-- The scheme of local files. -/
  | file
  /-- Any other scheme. -/
  | other
deriving DecidableEq

/-- The class of a scheme in small letters. -/
def SchemeClass.ofName (scheme : String) : SchemeClass :=
  if ["http", "https", "ws", "wss", "ftp"].contains scheme then .web
  else if scheme = "file" then .file
  else .other

/-- Splits off the scheme, in small letters, and its colon. -/
def takeScheme (cs : List Char) : Option (String × List Char) :=
  let isSchemeChar := fun c : Char => c.isAlphanum || c == '+' || c == '-' || c == '.'
  match cs with
  | [] => none
  | c :: _ =>
    if c.isAlpha then
      match cs.dropWhile isSchemeChar with
      | ':' :: rest => some (String.ofList ((cs.takeWhile isSchemeChar).map Char.toLower), rest)
      | _ => none
    else none

/-! ### Hosts -/

/-- Resolves the percent escapes of a byte sequence. A percent sign without two digits stands for
    itself. -/
def percentDecode : List UInt8 → List UInt8
  | [] => []
  | 0x25 :: a :: b :: rest =>
    match Text.hexValue? (Char.ofNat a.toNat), Text.hexValue? (Char.ofNat b.toNat) with
    | some x, some y => UInt8.ofNat (16 * x + y) :: percentDecode rest
    | _, _ => 0x25 :: percentDecode (a :: b :: rest)
  | b :: rest => b :: percentDecode rest

/-- The characters of a host with its escapes resolved, when they are text. -/
def unescape? (host : List Char) : Option (List Char) :=
  let bytes := percentDecode (String.ofList host).toUTF8.toList
  (Text.decode bytes.toByteArray).mapM fun
    | .char c => some c
    | .stray _ => none

/-- The characters that no host of another scheme holds. -/
def isForbiddenInHost (c : Char) : Bool :=
  "\x00\t\n\r #/:<>?@[\\]^|".toList.contains c

/-- A host in brackets is an address of version 6. -/
def checkBracketed (host : List Char) : Except ParseError Unit :=
  if host.getLast? = some ']' ∧ isAddress6 (host.drop 1).dropLast then .ok ()
  else .error .invalidAddress6

/-- Checks a host of a scheme of the web or of files, which is a domain name or a numeric address. -/
def checkHost (host : List Char) : Except ParseError Unit :=
  if host.head? = some '[' then checkBracketed host
  else
    match unescape? host >>= domainLabels? with
    | none => .error .invalidDomain
    | some labels =>
      if labels = [[]] then .error .emptyHost
      else if endsInNumber labels then
        if isAddress4 labels then .ok () else .error .invalidAddress4
      else .ok ()

/-- Checks a host of another scheme. -/
def checkOpaqueHost (host : List Char) : Except ParseError Unit :=
  if host.head? = some '[' then checkBracketed host
  else if host.any isForbiddenInHost then .error .invalidHostCharacter
  else .ok ()

/-! ### What comes after the scheme -/

/-- The character ends the part of an address that names the host. -/
def endsAuthority (kind : SchemeClass) (c : Char) : Bool :=
  c == '/' || c == '?' || c == '#' || (c == '\\' && kind != .other)

/-- Splits a host from what follows it. A colon within brackets belongs to the host. -/
def takeHost (kind : SchemeClass) : (inside : Bool) → List Char → List Char × List Char
  | _, [] => ([], [])
  | inside, c :: rest =>
    if (c == ':' && !inside) || endsAuthority kind c then ([], c :: rest)
    else
      let (host, tail) := takeHost kind (if c = '[' then true else if c = ']' then false else inside) rest
      (c :: host, tail)

/-- Checks a port: digits up to 65535, up to the end of the part that names the host. -/
def checkPort (port : Nat) : List Char → Except ParseError Unit
  | [] => .ok ()
  | c :: rest =>
    if c.isDigit then
      let port := 10 * port + Text.digitValue c
      if port ≤ 65535 then checkPort port rest else .error .invalidPort
    else if c == '/' || c == '\\' || c == '?' || c == '#' then .ok ()
    else .error .invalidPort

/-- Splits the part that names the host at its last at sign, into the user information before it, if
    there is an at sign, and the host with what follows. -/
def takeUser (kind : SchemeClass) (cs : List Char) : Option (List Char) × List Char :=
  let authority := cs.takeWhile (!endsAuthority kind ·)
  let host := (authority.reverse.takeWhile (· != '@')).reverse
  if host.length < authority.length then
    let before := authority.length - host.length - 1
    (some (cs.take before), cs.drop (before + 1))
  else (none, cs)

/-- Checks the part with user information, host and port. User information without a host is wrong. -/
def checkAuthority (kind : SchemeClass) (cs : List Char) : Except ParseError Unit := do
  let (user, rest) := takeUser kind cs
  match user, rest with
  | some [], c :: _ => if endsAuthority kind c then throw .emptyHost
  | _, _ => pure ()
  let (host, rest) := takeHost kind false rest
  if kind = .web then
    if host.isEmpty then throw .emptyHost
    checkHost host
  else checkOpaqueHost host
  match rest with
  | ':' :: port =>
    if host.isEmpty then throw .emptyHost
    checkPort 0 port
  | _ => pure ()
  let named := match user with
    | none => false
    | some user => user != [] && user != [':']
  if host.isEmpty && named then throw .emptyHost

/-- A drive letter and a colon or stroke: the start of a path, not a host. -/
def isDriveLetter (host : List Char) : Bool :=
  match host with
  | [c, d] => c.isAlpha && (d == ':' || d == '|')
  | _ => false

/-- Checks an address of a local file, which may name a host after two strokes. -/
def checkFile (cs : List Char) : Except ParseError Unit :=
  match cs with
  | a :: b :: rest =>
    if (a == '/' || a == '\\') && (b == '/' || b == '\\') then
      let host := rest.takeWhile (!endsAuthority .file ·)
      if host.isEmpty || isDriveLetter host then .ok () else checkHost host
    else .ok ()
  | _ => .ok ()

/-! ### Addresses -/

/-- The characters that are dropped at both ends of an address. -/
def isPadding (c : Char) : Bool := c.val ≤ 0x20

/-- The characters that are dropped anywhere in an address. -/
def isLineLayout (c : Char) : Bool := c == '\t' || c == '\n' || c == '\r'

/-- An address without the characters that are dropped from it. -/
def significant (cs : List Char) : List Char :=
  (((cs.dropWhile isPadding).reverse.dropWhile isPadding).reverse).filter (!isLineLayout ·)

/-- The scheme of a well-formed address, or what is wrong with it. -/
def scheme (text : String) : Except ParseError String :=
  match takeScheme (significant text.toList) with
  | none => .error .noScheme
  | some (name, rest) => do
    match SchemeClass.ofName name with
    | .web => checkAuthority .web (rest.dropWhile fun c => c == '/' || c == '\\')
    | .file => checkFile rest
    | .other =>
      match rest with
      | '/' :: '/' :: rest => checkAuthority .other rest
      | _ => pure ()
    return name

end Url
end AdAdmission
