import ServiceContract.Url.Address

/-!
# URLs

How a URL is read as far as its port; what follows can hold no fault. Only the scheme is kept.
-/

namespace ServiceContract.Url

/-- Why a text is no URL. -/
inductive Fault where
  | relative
  | emptyHost
  | invalidPort
  | invalidVersion4
  | invalidVersion6
  | invalidInternationalName
  | invalidDomainCharacter
deriving DecidableEq

def Fault.message : Fault → String
  | relative => "relative URL without a base"
  | emptyHost => "empty host"
  | invalidPort => "invalid port number"
  | invalidVersion4 => "invalid IPv4 address"
  | invalidVersion6 => "invalid IPv6 address"
  | invalidInternationalName => "invalid international domain name"
  | invalidDomainCharacter => "invalid domain character"

/-- How the host of a URL is read. -/
inductive SchemeKind where
  | file
  | special
  | opaqueHost
deriving DecidableEq

def SchemeKind.ofName (scheme : List Char) : SchemeKind :=
  let name := String.ofList scheme
  if name = "file" then .file
  else if name ∈ ["http", "https", "ws", "wss", "ftp"] then .special
  else .opaqueHost

/-- Whether the character separates the parts of a path. -/
def SchemeKind.isSlash (kind : SchemeKind) (c : Char) : Bool :=
  c = '/' || (kind ≠ .opaqueHost && c = '\\')

/-- The characters that count: none up to the blank at either end, and no tab or line end. -/
def significant (text : String) : List Char :=
  let isBlank (c : Char) := c.toNat ≤ 32
  let inner := ((text.toList.dropWhile isBlank).reverse.dropWhile isBlank).reverse
  inner.filter fun c => c ≠ '\t' ∧ c ≠ '\n' ∧ c ≠ '\r'

/-- The scheme in small letters, and what follows its colon. -/
def splitScheme (cs : List Char) : Option (List Char × List Char) :=
  let isSchemeChar (c : Char) := c.isAlphanum || c ∈ ['+', '-', '.']
  match cs.takeWhile isSchemeChar, cs.dropWhile isSchemeChar with
  | c :: rest, ':' :: after =>
    if c.isAlpha then some ((c :: rest).map Char.toLower, after) else none
  | _, _ => none

/-- Whether a host in square brackets, or a domain name, may stand there. An answer of `true` means
that there is no name at all. -/
def readHost (kind : SchemeKind) (host : List Char) : Except Fault Bool :=
  if host.head? = some '[' then
    if host.getLast? = some ']' && isVersion6 (host.drop 1).dropLast then .ok false
    else .error .invalidVersion6
  else if kind = .opaqueHost then
    if host.any fun c =>
        isForbidden c && c ≠ '%' && (c.toNat = 0 || 32 ≤ c.toNat) && c.toNat ≠ 127 then
      .error .invalidDomainCharacter
    else .ok host.isEmpty
  else match (unescaped? host).bind domainLabels? with
    | none => .error .invalidInternationalName
    | some labels =>
      if labels = [[]] then .error .emptyHost
      else if endsInNumber labels && !isVersion4 labels then .error .invalidVersion4
      else .ok false

/-- The host at the start of a text, and what follows it. A colon between brackets is part of
it. -/
def splitHost (kind : SchemeKind) : (inBrackets : Bool) → List Char → List Char × List Char
  | _, [] => ([], [])
  | inBrackets, c :: rest =>
    if kind.isSlash c || c = '?' || c = '#' || (c = ':' && !inBrackets) then ([], c :: rest)
    else
      let inBrackets := if c = '[' then true else if c = ']' then false else inBrackets
      let (host, after) := splitHost kind inBrackets rest
      (c :: host, after)

/-- Checks the port at the start of a text. -/
def checkPort : (port : Nat) → List Char → Except Fault Unit
  | _, [] => .ok ()
  | port, c :: rest =>
    if c.isDigit then
      let port := 10 * port + (c.toNat - 48)
      if 65535 < port then .error .invalidPort else checkPort port rest
    else if c = '/' || c = '\\' || c = '?' || c = '#' then .ok ()
    else .error .invalidPort

/-- What stands before the last `@` of an authority, if it has one, and what follows it. -/
def splitCredentials (kind : SchemeKind) (cs : List Char) : Option (List Char) × List Char :=
  let isEnd (c : Char) := kind.isSlash c || c = '?' || c = '#'
  let authority := cs.takeWhile (!isEnd ·)
  if authority.contains '@' then
    let back := authority.reverse
    (some ((back.dropWhile (· ≠ '@')).drop 1).reverse,
      (back.takeWhile (· ≠ '@')).reverse ++ cs.dropWhile (!isEnd ·))
  else (none, cs)

/-- Checks credentials, host and port at the start of a text. -/
def checkAuthority (kind : SchemeKind) (cs : List Char) : Except Fault Unit := do
  let (credentials, rest) := splitCredentials kind cs
  let (host, after) := splitHost kind false rest
  if credentials = some [] && host.isEmpty && !after.isEmpty && after.head? ≠ some ':' then
    throw .emptyHost
  if kind = .special && host.isEmpty then throw .emptyHost
  let isNameless ← readHost kind host
  match after with
  | ':' :: port =>
    if isNameless then throw .emptyHost
    checkPort 0 port
  | _ => pure ()
  let isNamed := credentials.any fun c => !c.isEmpty && c ≠ [':']
  if isNameless && isNamed then throw .emptyHost

/-- Whether the text is the letter of a drive. -/
def isDrive (cs : List Char) : Bool :=
  match cs with
  | [c, d] => c.isAlpha && (d = ':' || d = '|')
  | _ => false

def checkFileHost (cs : List Char) : Except Fault Unit := do
  let host := cs.takeWhile fun c => !(c = '/' || c = '\\' || c = '?' || c = '#')
  if !host.isEmpty && !isDrive host then
    let _ ← readHost .file host

/-- The scheme of a URL, in small letters. -/
def scheme (text : String) : Except Fault String :=
  match splitScheme (significant text) with
  | none => .error .relative
  | some (scheme, rest) =>
    let kind := SchemeKind.ofName scheme
    let outcome := match kind, rest with
      | .special, _ => checkAuthority kind (rest.dropWhile kind.isSlash)
      | .file, a :: b :: host =>
        if kind.isSlash a && kind.isSlash b then checkFileHost host else .ok ()
      | .opaqueHost, '/' :: '/' :: authority => checkAuthority kind authority
      | _, _ => .ok ()
    outcome.map fun () => String.ofList scheme

end ServiceContract.Url
