import SyncWatch.Address.Host
import SyncWatch.Text.Search
import SyncWatch.Word

/-!
# Addresses

An address names a scheme, a host with a service on it, a path, a query and a
fragment.  Reading brings it into its usual text: the scheme and the host in
small letters, without the number of the usual service, with the steps of the
path carried out and with everything escaped that has to be.
-/

namespace SyncWatch

/-- The address of something on a server. -/
structure Address where
  scheme : String
  /-- The host in its usual text, which is empty in an address without one. -/
  host : List Char := []
  /-- Whether two slashes stand in front of the host. -/
  hasAuthority : Bool := true
  /-- The number of the service, unless it is the usual one of the scheme. -/
  service : Option Nat := none
  path : List Char
  query : Option (List Char) := none
  fragment : Option (List Char) := none
  deriving DecidableEq, Repr

namespace Address

/-- The schemes with rules of their own, and the numbers of their usual services. -/
def specialSchemes : List (String × Option Nat) :=
  [("http", some 80), ("https", some 443), ("ws", some 80), ("wss", some 443),
    ("ftp", some 21), ("file", none)]

/-- Whether a scheme has rules of its own. -/
def isSpecial (scheme : String) : Bool :=
  (specialSchemes.lookup scheme).isSome

/-- The number of the usual service of a scheme. -/
def usualService (scheme : String) : Option Nat :=
  (specialSchemes.lookup scheme).join

/-- The text without the control characters and spaces at its ends and without
the line ends and tabs in it. -/
def clean (text : List Char) : List Char :=
  let isEdge (char : Char) : Bool := char.toNat ≤ 0x20
  let inner := ((text.dropWhile isEdge).reverse.dropWhile isEdge).reverse
  inner.filter fun char => char != '\t' && char != '\n' && char != '\r'

/-- The scheme of an address and what follows the colon behind it. -/
def scheme? (text : List Char) : Option (String × List Char) :=
  let (name, rest) :=
    text.span fun char => char.isAlphanum || char == '+' || char == '-' || char == '.'
  match name, rest with
  | first :: _, ':' :: rest =>
    if first.isAlpha then some (String.ofList (name.map Char.toLower), rest) else none
  | _, _ => none

/-- The texts before and after the first occurrence of a character. -/
def cut (separator : Char) (text : List Char) : List Char × Option (List Char) :=
  match text.span (· != separator) with
  | (before, _ :: after) => (before, some after)
  | (before, []) => (before, none)

/-- A step of a path without the escapes of dots. -/
def plainStep (step : List Char) : String :=
  Text.replaced "%2e" "." (String.ofList (step.map Char.toLower))

/-- Whether a step names a disk drive by a letter and a colon or a bar. -/
def isDrive : List Char → Bool
  | [letter, mark] => letter.isAlpha && (mark == ':' || mark == '|')
  | _ => false

/-- The steps without the newest one, unless it is the first and names a drive. -/
def stepBack (drives : Bool) : List (List Char) → List (List Char)
  | [first] => if drives && isDrive first then [first] else []
  | taken => taken.drop 1

/-- The usual text of a step behind others; the name of a drive ends with a colon. -/
def stepText (drives : Bool) (taken : List (List Char)) (step : List Char) : List Char :=
  if drives && taken.isEmpty && isDrive step then step.take 1 ++ [':']
  else escape isEscapedInPath step

/-- The steps of a path, in which a dot stays where it is, two dots go back one
step, and either of them at the end leaves an empty step.  The steps that were
taken stand newest first. -/
def takeSteps (drives : Bool) (taken : List (List Char)) : List (List Char) → List (List Char)
  | [] => taken.reverse
  | step :: rest =>
    let ending : List (List Char) := if rest.isEmpty then [[]] else []
    match plainStep step with
    | "." => takeSteps drives (ending ++ taken) rest
    | ".." => takeSteps drives (ending ++ stepBack drives taken) rest
    | _ => takeSteps drives (stepText drives taken step :: taken) rest

/-- The usual text of a path that begins with a slash. -/
def pathText (path : List Char) (drives : Bool := false) : List Char :=
  '/' :: List.intercalate ['/'] (takeSteps drives [] (partsAt '/' (path.drop 1)))

/-- The host and the service of an address, behind the name of a user. -/
def hostAndService? (scheme : String) (authority : List Char) :
    Option (List Char × Option Nat) := do
  let isSpecial := isSpecial scheme
  let named := (authority.reverse.takeWhile (· != '@')).reverse
  let inner := if named.head? = some '[' then named.takeWhile (· != ']') else []
  let (rest, serviceText) := cut ':' (named.drop inner.length)
  let written := inner ++ rest
  let service ←
    match serviceText with
    | none | some [] => pure none
    | some digits => do
      guard (digits.all Char.isDigit)
      let number ← Text.natOfDigits? 10 digits
      guard (Word.holds 16 number)
      pure (some number)
  guard (!written.isEmpty || (!isSpecial && serviceText.isNone && !authority.contains '@'))
  let unusual := service.filter fun number => usualService scheme ≠ some number
  return (← host? isSpecial written, unusual)

/-- Read an address that names a scheme. -/
def parse? (text : String) : Option Address := do
  let (scheme, rest) ← scheme? (clean text.toList)
  let special := isSpecial scheme
  let (rest, fragment) := cut '#' rest
  let (rest, query) := cut '?' rest
  let query := query.map (escape (isEscapedInQuery special))
  let fragment := fragment.map (escape isEscapedInFragment)
  let rest := if special then rest.map fun char => if char = '\\' then '/' else char else rest
  if scheme == "file" then
    let (host, path) :=
      if ['/', '/'].isPrefixOf rest then (rest.drop 2).span (· != '/') else ([], rest)
    let (host, path) := if isDrive host then ([], '/' :: host ++ path) else (host, path)
    let path := pathText (if path.head? = some '/' then path else '/' :: path) true
    if host.isEmpty then
      return { scheme, path, query, fragment }
    let host ← host? true host
    return { scheme, host := if String.ofList host == "localhost" then [] else host
             path, query, fragment }
  else if special || ['/', '/'].isPrefixOf rest then
    let body := if special then rest.dropWhile (· == '/') else rest.drop 2
    let (authority, path) := body.span (· != '/')
    let (host, service) ← hostAndService? scheme authority
    let path := if path.isEmpty && !special then [] else pathText path
    return { scheme, host, service, path, query, fragment }
  else
    let path := if rest.head? = some '/' then pathText rest else escape isControl rest
    return { scheme, hasAuthority := false, path, query, fragment }

/-- The usual text of an address.  A path that begins with two slashes does not
stand behind the scheme alone, where they would name a host. -/
def text (address : Address) : String :=
  let serviceText :=
    match address.service with
    | some service => ':' :: Nat.toDigits 10 service
    | none => []
  let authority :=
    if address.hasAuthority then ['/', '/'] ++ address.host ++ serviceText
    else if ['/', '/'].isPrefixOf address.path then ['/', '.']
    else []
  let part (mark : Char) : Option (List Char) → List Char
    | some part => mark :: part
    | none => []
  address.scheme ++ ":" ++
    String.ofList (authority ++ address.path ++ part '?' address.query ++ part '#' address.fragment)

/-- Whether an answer can be asked for at an address: over one of the two
schemes of the web, from a host whose name can be sent. -/
def isReachable (address : Address) : Bool :=
  (address.scheme == "http" || address.scheme == "https") && !address.host.isEmpty &&
    !address.host.any fun char => "\"\x60\x7b\x7d".toList.contains char

end Address
end SyncWatch
