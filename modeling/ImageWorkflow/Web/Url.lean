import ImageWorkflow.Number.Numeral
import ImageWorkflow.Text.Digits
import ImageWorkflow.Text.LowerCase
import ImageWorkflow.Text.Quoted
import ImageWorkflow.Web.HostName
import ImageWorkflow.Web.IpAddress
import ImageWorkflow.Web.Percent

/-!
# Addresses on the web

`Url` : an address in ASCII, in parts.  Characters that a part may not hold are written by their
bytes, hosts outside ASCII as international names, and a port that goes without saying is left out.
* `Url.parse` : the address that a text is, or why it is none (`UrlFault`);
* `Url.text` : an address as text;
* `Url.target` : path and query, which is what a server is asked for;
* `Url.resolve` : the address of something below another address.
-/

namespace ImageWorkflow.Web

/-- Why a text is no address. -/
inductive UrlFault where
  | tooLong
  /-- An ASCII character that is not printable, with its place. -/
  | unprintable (c : Char) (position : Nat)
  | port (text : String)
  | shortAddress (host : String)
  | longAddress (host : String)
  | hostName (host : String)
  /-- The path behind a host starts without a slash. -/
  | unrootedPath
  /-- The path of an address without a host starts with two slashes. -/
  | doubleSlash
  /-- The path of an address without a host starts with a colon. -/
  | leadingColon
  deriving DecidableEq, Repr

/-- The wording of a fault. -/
def UrlFault.message : UrlFault → String
  | .tooLong => "URL too long"
  | .unprintable c position =>
    s!"Invalid non-printable ASCII character in URL, {Text.quote c.toString} at position " ++
      s!"{position}."
  | .port text => s!"Invalid port: {Text.quote text}"
  | .shortAddress host => s!"Invalid IPv4 address: {Text.quote host}"
  | .longAddress host => s!"Invalid IPv6 address: {Text.quote host}"
  | .hostName host => s!"Invalid IDNA hostname: {Text.quote host}"
  | .unrootedPath => "For absolute URLs, path must be empty or begin with '/'"
  | .doubleSlash => "Relative URLs cannot have a path starting with '//'"
  | .leadingColon => "Relative URLs cannot have a path starting with ':'"

/-- An address on the web. -/
structure Url where
  scheme : String := ""
  /-- A name, and perhaps a password behind a colon. -/
  user : String := ""
  host : String := ""
  port : Option Int := none
  path : String := ""
  query : Option String := none
  fragment : Option String := none
  deriving DecidableEq, Repr

namespace Url

/-! ## Characters of the parts -/

/-- Whether a character is printable ASCII. -/
def isPlain (c : Char) : Bool := 32 ≤ c.toNat && c.toNat < 127

/-- The characters that may stand for themselves in a fragment. -/
def isFragmentSafe (c : Char) : Bool := isPlain c && !" \"<>`".toList.contains c

/-- The characters that may stand for themselves in a query. -/
def isQuerySafe (c : Char) : Bool := isPlain c && !" \"#<>".toList.contains c

/-- The characters that may stand for themselves in a path. -/
def isPathSafe (c : Char) : Bool := isQuerySafe c && !"?`\x7b\x7d".toList.contains c

/-- The characters that may stand for themselves in a name with a password. -/
def isUserSafe (c : Char) : Bool := isPathSafe c && !"/;=@[\\]^|".toList.contains c

/-- The characters that may stand for themselves in a host. -/
def isHostSafe (c : Char) : Bool :=
  c.isAlphanum || "-._~!$&'()*+,;=\"`\x7b\x7d%|\\".toList.contains c

/-! ## Hosts and ports -/

/-- Whether a text looks like a short numeric address: four rows of digits with one character, of
whatever kind, between each and the next; `more` rows are to come behind the present one. -/
def looksNumeric (more : Nat) ( isBegun : Bool) : List Char → Bool
  | [] => more = 0 && isBegun
  | c :: rest =>
    (c.isDigit && looksNumeric more true rest) ||
      match more with
      | 0 => false
      | more + 1 => isBegun && looksNumeric more false rest

/-- A host as an address has it. -/
def readHost (host : String) : Except UrlFault String :=
  let cs := host.toList
  if cs.isEmpty then .ok ""
  else if looksNumeric 3 false cs then
    if IpAddress.isV4 cs then .ok host else .error (.shortAddress host)
  else if cs.head? = some '[' ∧ cs.getLast? = some ']' then
    let inner := cs.tail.dropLast
    if IpAddress.isV6 inner then .ok (String.ofList inner) else .error (.longAddress host)
  else if cs.all fun c => c.toNat < 128 then
    .ok (Percent.encode isHostSafe (Text.lowerCase host))
  else
    match HostName.toAscii? (Text.lowerCase host).toList with
    | some name => .ok (String.ofList name)
    | none => .error (.hostName host)

/-- The port that goes without saying. -/
def usualPort? (scheme : String) : Option Int :=
  [("ftp", 21), ("http", 80), ("https", 443), ("ws", 80), ("wss", 443)].lookup scheme

/-- The whole number that a text writes with digits of any script. -/
def wholeNumber? (text : String) : Option Int := do
  let (negative, digits) := Text.splitSign (Text.strip text).toList
  guard (!digits.isEmpty)
  let digits ← Text.withoutUnderscores? digits
  guard (digits.length ≤ Text.maxNumeralLength)
  let n : Nat ← Text.readDigits? digits
  return if negative then -(n : Int) else n

/-- A port as an address has it. -/
def readPort (scheme : String) (text : Option String) : Except UrlFault (Option Int) :=
  match text with
  | none | some "" => .ok none
  | some text =>
    match wholeNumber? text with
    | none => .error (.port text)
    | some port => .ok (if usualPort? scheme = some port then none else some port)

/-- User, host and port of the part between the slashes and the path. -/
def splitAuthority (text : List Char) : String × String × Option String :=
  let behind := (text.reverse.takeWhile (· ≠ '@')).reverse
  let user := text.take (text.length - behind.length - 1)
  let closing := (behind.reverse.dropWhile (· ≠ ']')).reverse
  let host :=
    if behind.head? = some '[' ∧ !closing.isEmpty then closing
    else behind.takeWhile (· ≠ ':')
  let port := match behind.drop host.length with
    | ':' :: port => port
    | port => port
  (String.ofList user, String.ofList host, some (String.ofList port))

/-! ## Paths -/

/-- The segments of a path without those that mean here and one up. -/
def withoutDots (segments : List String) : List String :=
  segments.foldl (fun kept segment =>
    if segment = "." then kept
    else if segment = ".." then if kept = [] ∨ kept = [""] then kept else kept.dropLast
    else kept ++ [segment]) []

/-- A path without segments that mean here and one up. -/
def normalizePath (path : String) : String :=
  let segments := (IpAddress.splitAt '/' path.toList).map String.ofList
  if segments.contains "." || segments.contains ".." then "/".intercalate (withoutDots segments)
  else path

/-! ## Addresses -/

/-- The address with the given parts. -/
def ofParts (scheme : String) (authority : List Char) (path : String)
    (query fragment : Option String) : Except UrlFault Url := do
  let (user, host, port) := splitAuthority authority
  let user := Percent.encode isUserSafe user
  let host ← readHost host
  let port ← readPort scheme port
  let isAbsolute := user ≠ "" ∨ host ≠ "" ∨ port.isSome
  let first := path.toList.take 2
  if isAbsolute ∧ path ≠ "" ∧ first.head? ≠ some '/' then .error .unrootedPath
  else if scheme = "" ∧ ¬isAbsolute ∧ first = ['/', '/'] then .error .doubleSlash
  else if scheme = "" ∧ ¬isAbsolute ∧ first.head? = some ':' then .error .leadingColon
  else
    let path := if scheme ≠ "" ∨ isAbsolute then normalizePath path else path
    return {
      scheme, user, host, port
      path := Percent.encode isPathSafe path
      query := query.map (Percent.encode isQuerySafe)
      fragment := fragment.map (Percent.encode isFragmentSafe) }

/-- The scheme at the front of a text, in lower case, and what follows its colon. -/
def splitScheme (text : List Char) : String × List Char :=
  let isPart (c : Char) : Bool := c.isAlphanum || c == '+' || c == '.' || c == '-'
  let name := text.takeWhile isPart
  match text.dropWhile isPart with
  | ':' :: rest =>
    if name.isEmpty || name.head?.any Char.isAlpha then
      ((String.ofList name).map Char.toLower, rest)
    else ("", text)
  | _ => ("", text)

/-- What follows the character `mark` at the front, if it is there, to the end of a part. -/
def partAfter (mark : Char) (isPart : Char → Bool) : List Char → Option String × List Char
  | c :: rest =>
    if c = mark then (some (String.ofList (rest.takeWhile isPart)), rest.dropWhile isPart)
    else (none, c :: rest)
  | [] => (none, [])

/-- The most characters of an address. -/
def maxLength : Nat := 65536

/-- The address that a text is. -/
def parse (text : String) : Except UrlFault Url :=
  let cs := text.toList
  let isControl (c : Char) : Bool := c.toNat < 128 && !isPlain c
  if maxLength < cs.length then .error .tooLong
  else
    match cs.find? isControl with
    | some c => .error (.unprintable c (cs.takeWhile fun c => !isControl c).length)
    | none =>
      let (scheme, rest) := splitScheme cs
      let isAuthority (c : Char) : Bool := c != '/' && c != '?' && c != '#'
      let (authority, rest) := match rest with
        | '/' :: '/' :: rest => (rest.takeWhile isAuthority, rest.dropWhile isAuthority)
        | rest => ([], rest)
      let isPath (c : Char) : Bool := c != '?' && c != '#'
      let path := String.ofList (rest.takeWhile isPath)
      let (query, rest) := partAfter '?' (· != '#') (rest.dropWhile isPath)
      let (fragment, _) := partAfter '#' (fun _ => true) rest
      ofParts scheme authority path query fragment

/-- User, host and port as text. -/
def authority (u : Url) : String :=
  (if u.user = "" then "" else u.user ++ "@") ++
    (if u.host.toList.contains ':' then "[" ++ u.host ++ "]" else u.host) ++
    match u.port with
    | some port => ":" ++ toString port
    | none => ""

/-- A part behind its mark, if it is there. -/
def behind (mark : String) : Option String → String
  | some part => mark ++ part
  | none => ""

/-- An address as text. -/
def text (u : Url) : String :=
  (if u.scheme = "" then "" else u.scheme ++ ":") ++
    (if u.authority = "" then "" else "//" ++ u.authority) ++
    u.path ++ behind "?" u.query ++ behind "#" u.fragment

/-- Path and query. -/
def target (u : Url) : String := (if u.path = "" then "/" else u.path) ++ behind "?" u.query

/-- The address with another path and query. -/
def withTarget (u : Url) (target : String) : Except UrlFault Url :=
  let cs := target.toList
  let (query, _) := partAfter '?' (fun _ => true) (cs.dropWhile (· ≠ '?'))
  ofParts u.scheme u.authority.toList (String.ofList (cs.takeWhile (· ≠ '?'))) query u.fragment

/-- The address with a slash at the end of its target, so that others can be below it. -/
def asDirectory (u : Url) : Except UrlFault Url :=
  if u.target.toList.getLast? = some '/' then .ok u else u.withTarget (u.target ++ "/")

/-- The address that a text is, seen from another address. -/
def resolve (base : Url) (reference : String) : Except UrlFault Url := do
  let u ← parse reference
  if u.scheme ≠ "" ∧ u.host ≠ "" then return u
  else base.withTarget (base.target ++ String.ofList (u.target.toList.dropWhile (· = '/')))

/-- The name in the address. -/
def userName (u : Url) : String :=
  Percent.decode (String.ofList (u.user.toList.takeWhile (· ≠ ':')))

/-- The password in the address. -/
def password (u : Url) : String :=
  Percent.decode (String.ofList ((u.user.toList.dropWhile (· ≠ ':')).drop 1))

end Url

end ImageWorkflow.Web
