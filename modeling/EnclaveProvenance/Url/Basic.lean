import EnclaveProvenance.Url.Host

/-!
URLs in their normal form: scheme and host in lowercase, the number after the host only where it is
not the usual one, a path without dot segments, and escapes for what cannot stand as it is. What a
URL says about a user is dropped.
-/

namespace EnclaveProvenance

structure Url where
  scheme : String
  host : Option String
  portNumber : Option Nat
  path : String
  query : Option String
  fragment : Option String
deriving DecidableEq, Repr

namespace Url

def usualPorts : List (String × Nat) :=
  [("http", 80), ("https", 443), ("ws", 80), ("wss", 443), ("ftp", 21)]

def isNetwork (scheme : String) : Bool := (usualPorts.lookup scheme).isSome

def isControlOrSpace (character : Char) : Bool := character.toNat ≤ 32

def clean (text : List Char) : List Char :=
  ((text.dropWhile isControlOrSpace).reverse.dropWhile isControlOrSpace).reverse.filter
    fun character => character ≠ '\t' && character ≠ '\n' && character ≠ '\r'

def scheme? (text : List Char) : Option (String × List Char) :=
  let isPart (character : Char) : Bool :=
    Punycode.isAscii character && (character.isAlphanum || "+-.".toList.contains character)
  match text.takeWhile isPart, text.dropWhile isPart with
  | first :: rest, ':' :: following =>
    if first.isAlpha then some (Text.lowercase (String.ofList (first :: rest)), following) else none
  | _, _ => none

def escape (unsafeCharacters : String) (text : List Char) : String :=
  let isPlain (octet : UInt8) : Bool :=
    32 ≤ octet && octet < 127 && !unsafeCharacters.toList.contains (Char.ofNat octet.toNat)
  let written (octet : UInt8) : List Char :=
    if isPlain octet then [Char.ofNat octet.toNat]
    else ['%', (Hex.digit (octet.toNat / 16)).toUpper, (Hex.digit (octet.toNat % 16)).toUpper]
  String.ofList ((Bytes.ofText (String.ofList text)).flatMap written)

def unsafeInFragment : String := " \"<>\x60"

def unsafeInPath : String := unsafeInFragment ++ "#?\x7b\x7d"

def unsafeInQuery (network : Bool) : String := if network then " \"#<>'" else " \"#<>"

def isDot (segment : List Char) : Bool :=
  [".", "%2e"].contains (Text.lowercase (String.ofList segment))

def isDoubleDot (segment : List Char) : Bool :=
  ["..", ".%2e", "%2e.", "%2e%2e"].contains (Text.lowercase (String.ofList segment))

/-- Resolves dot segments; `kept` holds the segments before in reverse. -/
def resolve (kept : List (List Char)) : List (List Char) → List (List Char)
  | [] => kept.reverse
  | [last] =>
    if isDoubleDot last then ([] :: kept.drop 1).reverse
    else if isDot last then ([] :: kept).reverse
    else (last :: kept).reverse
  | segment :: rest =>
    if isDoubleDot segment then resolve (kept.drop 1) rest
    else if isDot segment then resolve kept rest
    else resolve (segment :: kept) rest

def pathText (network : Bool) (text : List Char) : String :=
  let slashed := if network then text.map fun c => if c = '\\' then '/' else c else text
  "/" ++ String.intercalate "/" ((resolve [] (Text.parts '/' slashed)).map (escape unsafeInPath))

def portNumber? (usual : Option Nat) (text : List Char) : Option (Option Nat) :=
  if text.isEmpty then some none
  else match Text.digits? text with
    | some value =>
      if 65535 < value then none else some (if usual = some value then none else some value)
    | none => none

def hostPart (bracketed : Bool) : List Char → List Char
  | [] => []
  | character :: rest =>
    if character = ':' ∧ bracketed = false then []
    else character ::
      hostPart (if character = '[' then true else if character = ']' then false else bracketed) rest

def afterUser (authority : List Char) : List Char :=
  (authority.reverse.takeWhile (· ≠ '@')).reverse

def authority? (scheme : String) (text : List Char) : Option (String × Option Nat) := do
  let located := afterUser text
  let name := hostPart false located
  let number ← portNumber? (usualPorts.lookup scheme) (located.drop (name.length + 1))
  if isNetwork scheme then return (← host? name, number)
  if name.isEmpty ∨ name.any isForbidden then none
  else return (escape "" name, number)

def tail (network : Bool) (text : List Char) : Option String × Option String :=
  let isHash (character : Char) : Bool := character = '#'
  let fragment := match text.dropWhile (fun character => !isHash character) with
    | _ :: rest => some (escape unsafeInFragment rest)
    | [] => none
  match text.takeWhile (fun character => !isHash character) with
  | '?' :: query => (some (escape (unsafeInQuery network) query), fragment)
  | _ => (none, fragment)

def isSlash (network : Bool) (character : Char) : Bool :=
  character = '/' || network && character = '\\'

def endsPath (character : Char) : Bool := character = '?' || character = '#'

def assemble (scheme : String) (place : Option (String × Option Nat)) (path : String)
    (rest : List Char) : Url :=
  let (query, fragment) := tail (isNetwork scheme) rest
  ⟨scheme, place.map Prod.fst, place.bind Prod.snd, path, query, fragment⟩

def ofAuthority? (scheme : String) (text : List Char) : Option Url := do
  let network := isNetwork scheme
  let inAuthority (character : Char) : Bool := !isSlash network character && !endsPath character
  let place ← authority? scheme (text.takeWhile inAuthority)
  let following := text.dropWhile inAuthority
  let path := following.takeWhile fun character => !endsPath character
  let written := if path.isEmpty ∧ network = false then "" else pathText network (path.drop 1)
  return assemble scheme (some place) written (following.dropWhile fun c => !endsPath c)

def read? (text : String) : Option Url := do
  let (scheme, rest) ← scheme? (clean text.toList)
  if isNetwork scheme then ofAuthority? scheme (rest.dropWhile (isSlash true))
  else
    let path := rest.takeWhile fun character => !endsPath character
    let following := rest.dropWhile fun character => !endsPath character
    match path with
    | '/' :: '/' :: _ =>
      if scheme = "file" then
        some (assemble scheme (some ("", none)) (pathText false (path.drop 3)) following)
      else ofAuthority? scheme (rest.drop 2)
    | '/' :: segments => some (assemble scheme none (pathText false segments) following)
    | _ => some (assemble scheme none (escape "" path) following)

def text (url : Url) : String :=
  url.scheme ++ ":" ++ (url.host.map ("//" ++ ·)).getD "" ++
    (url.portNumber.map fun number => ":" ++ toString number).getD "" ++ url.path ++
    (url.query.map ("?" ++ ·)).getD "" ++ (url.fragment.map ("#" ++ ·)).getD ""

end Url

end EnclaveProvenance
