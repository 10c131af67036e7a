import SpireEnroll.Text.Numeral
import SpireEnroll.Text.Lowercase
import SpireEnroll.Hostname.Idna

/-!
# Addresses

The client is given the registry's base address as text and posts to paths below
it. The address is read into scheme, user information, host, port, path, query
and fragment, and put in a canonical form: scheme and host in lower case, the
scheme's default port left out (80 for `http` and `ws`, 443 for `https` and
`wss`, 21 for `ftp`), `.` and `..` path segments resolved, and characters that may
not stand in a part percent-encoded (escapes already present are kept). A host
name outside ASCII is written in its ASCII form (see `Hostname.toAscii?`).

A path is joined to the base by appending it, without its leading `/`, to the
base's path made to end in `/`: the base's own path is kept and no slash is
doubled.

An address that cannot be read (a bad port, a bad IP address, a path that does
not fit the rest) is refused with the reason.
-/

namespace SpireEnroll

/-- An address in canonical form. -/
structure Url where
  scheme : String
  userinfo : String
  host : String
  port : Option Int
  path : String
  query : Option String
  fragment : Option String
deriving DecidableEq, Repr, Inhabited

namespace Url

def unreserved : List Char :=
  "ABCDEFGHIJKLMNOPQRSTUVWXYZabcdefghijklmnopqrstuvwxyz0123456789-._~".toList

def subDelims : List Char :=
  "!$&'()*+,;=".toList

def hexByte (b : Nat) : String :=
  let digit (d : Nat) : Char := "0123456789ABCDEF".toList.getD d '0'
  String.ofList ['%', digit (b / 16), digit (b % 16)]

def percentEncode (safe : List Char) (cs : List Char) : String :=
  String.join (cs.map fun c =>
    if unreserved.contains c || safe.contains c then String.singleton c
    else String.join ((String.singleton c).toUTF8.toList.map fun b => hexByte b.toNat))

def isHex (c : Char) : Bool :=
  c.isDigit || ('a' ≤ c && c ≤ 'f') || ('A' ≤ c && c ≤ 'F')

def quote (safe : List Char) (s : String) : String :=
  go s.toList [] ""
where
  flush (pending : List Char) (acc : String) : String :=
    if pending.isEmpty then acc else acc ++ percentEncode safe pending.reverse
  go : List Char → List Char → String → String
    | '%' :: a :: b :: rest, pending, acc =>
      if isHex a && isHex b then go rest [] (flush pending acc ++ String.ofList ['%', a, b])
      else go (a :: b :: rest) ('%' :: pending) acc
    | c :: rest, pending, acc => go rest (c :: pending) acc
    | [], pending, acc => flush pending acc

def removeDots (path : String) : String :=
  let parts := path.splitOn "/"
  if !(parts.contains "." || parts.contains "..") then path
  else
    let out := parts.foldl (fun out c =>
      if c == "." then out
      else if c == ".." then (if out.isEmpty || out == [""] then out else out.dropLast)
      else out ++ [c]) []
    "/".intercalate out

def defaultPort (scheme : String) : Option Nat :=
  match scheme with
  | "ftp" => some 21
  | "http" => some 80
  | "https" => some 443
  | "ws" => some 80
  | "wss" => some 443
  | _ => none

def isIPv4 (s : String) : Bool :=
  let parts := s.splitOn "."
  parts.length == 4 && parts.all fun p =>
    !p.isEmpty && p.length ≤ 3 && p.all Char.isDigit && (p.length == 1 || !p.startsWith "0") &&
      p.toNat! ≤ 255

def isHextet (g : String) : Bool :=
  !g.isEmpty && g.length ≤ 4 && g.all isHex

def hextetsOk (parts : List String) : Bool :=
  let parts? : Option (List String) :=
    match parts.getLast? with
    | some last =>
      if last.contains '.' then
        if isIPv4 last then some (parts.dropLast ++ ["0", "0"]) else none
      else some parts
    | none => none
  match parts? with
  | none => false
  | some parts =>
    let n := parts.length
    let inner := ((List.range n).filter fun i => 0 < i && i + 1 < n && (parts.getD i "").isEmpty)
    if n > 9 then false
    else match inner with
      | [] =>
        n == 8 && parts.all isHextet
      | [skip] =>
        let hi := if (parts.getD 0 "").isEmpty then skip - 1 else skip
        let lo := if (parts.getD (n - 1) "").isEmpty then n - skip - 2 else n - skip - 1
        let frontOk := !(parts.getD 0 "").isEmpty || skip == 1
        let backOk := !(parts.getD (n - 1) "").isEmpty || skip + 2 == n
        frontOk && backOk && hi + lo < 8 &&
          (parts.take hi).all isHextet && (parts.drop (n - lo)).all isHextet
      | _ => false

def isIPv6 (s : String) : Bool :=
  let (addr, zoneOk) : String × Bool := match s.splitOn "%" with
    | [a] => (a, true)
    | [a, zone] => (a, !zone.isEmpty)
    | _ => (s, false)
  let parts := addr.splitOn ":"
  zoneOk && !addr.isEmpty && parts.length ≥ 3 && hextetsOk parts

def looksIPv4 (host : String) : Bool :=
  runs 4 host.toList
where
  /-- `left` runs of digits, with a run begun; the first run needs a digit. -/
  runs : Nat → List Char → Bool
    | 0, _ => false
    | left + 1, d :: rest => d.isDigit && more left rest
    | _ + 1, [] => false
  /-- Inside a run with `left` runs after it: more digits, the end, or a
  separator and the next run. -/
  more : Nat → List Char → Bool
    | left, [] => left == 0
    | left, c :: rest =>
      (c.isDigit && more left rest) ||
        (match left, rest with
         | l + 1, d :: rest' => d.isDigit && more l rest'
         | _, _ => false)

def hostSafe : List Char :=
  subDelims ++ ['"', '\x60', '\x7b', '\x7d', '%', '|', '\\']

def encodeHost (host : String) : Except String String :=
  if host.isEmpty then .ok ""
  else if looksIPv4 host then
    if isIPv4 host then .ok host else .error ("Invalid IPv4 address: " ++ Text.literal host)
  else if host.startsWith "[" && host.endsWith "]" && host.length ≥ 2 then
    let inner := String.ofList (host.toList.drop 1).dropLast
    if isIPv6 inner then .ok inner else .error ("Invalid IPv6 address: " ++ Text.literal host)
  else if host.toList.all (fun c => c.toNat < 128) then .ok (quote hostSafe (host.map Char.toLower))
  else match Hostname.toAscii? (Text.lowerText host) with
    | some ascii => .ok ascii
    | none => .error ("Invalid IDNA hostname: " ++ Text.literal host)

def readPort (port : Option String) (scheme : String) : Except String (Option Int) :=
  match port with
  | none => .ok none
  | some "" => .ok none
  | some p =>
    match Numeral.readInt? p with
    | some n => if some n == (defaultPort scheme).map Int.ofNat then .ok none else .ok (some n)
    | none => .error ("Invalid port: " ++ Text.literal p)

def splitAtAny (stops : List Char) (cs : List Char) : List Char × Option (List Char) :=
  match cs.findIdx? stops.contains with
  | some i => (cs.take i, some (cs.drop (i + 1)))
  | none => (cs, none)

def schemeOf (cs : List Char) : Option (String × List Char) :=
  match cs with
  | c :: _ =>
    if c.isAlpha then
      let body := cs.takeWhile fun d => d.isAlphanum || d == '+' || d == '-' || d == '.'
      match cs.drop body.length with
      | ':' :: rest => some (String.ofList body, rest)
      | _ => none
    else none
  | [] => none

def splitHostPort (hp : List Char) : String × Option String :=
  let bracketEnd : Option Nat :=
    if hp.head? == some '[' then
      (hp.reverse.findIdx? (· == ']')).map fun k => hp.length - 1 - k
    else none
  match bracketEnd with
  | some j =>
    (String.ofList (hp.take (j + 1)),
      match hp.drop (j + 1) with
      | ':' :: p => some (String.ofList p)
      | p => some (String.ofList p))
  | none =>
    let host := hp.takeWhile (· != ':')
    (String.ofList host,
      match hp.drop host.length with
      | ':' :: p => some (String.ofList p)
      | p => some (String.ofList p))

def assemble (scheme authority path : String) (query fragment : Option String) :
    Except String Url := do
  let a := authority.toList
  let (userinfo, hostPort) := match a.reverse.findIdx? (· == '@') with
    | some k =>
      let i := a.length - 1 - k
      (String.ofList (a.take i), a.drop (i + 1))
    | none => ("", a)
  let (host, port) := splitHostPort hostPort
  let schemeLower := scheme.map Char.toLower
  let userinfo := quote (subDelims ++ [':']) userinfo
  let host ← encodeHost host
  let port ← readPort port scheme
  let hasScheme := !schemeLower.isEmpty
  let hasAuthority := !userinfo.isEmpty || !host.isEmpty || port.isSome
  if hasAuthority && !path.isEmpty && !path.startsWith "/" then
    throw "For absolute URLs, path must be empty or begin with '/'"
  if !hasScheme && !hasAuthority then
    if path.startsWith "//" then
      throw "Relative URLs cannot have a path starting with '//'"
    if path.startsWith ":" then
      throw "Relative URLs cannot have a path starting with ':'"
  let path := if hasScheme || hasAuthority then removeDots path else path
  pure { scheme := schemeLower, userinfo := userinfo, host := host, port := port,
         path := quote (subDelims ++ [':', '/', '[', ']', '@']) path,
         query := query.map (quote (subDelims ++ [':', '/', '?', '[', ']', '@'])),
         fragment := fragment.map (quote (subDelims ++ [':', '/', '?', '#', '[', ']', '@'])) }

def authority (u : Url) : String :=
  (if u.userinfo.isEmpty then "" else u.userinfo ++ "@") ++
    (if u.host.contains ':' then "[" ++ u.host ++ "]" else u.host) ++
    (match u.port with
     | some p => ":" ++ toString p
     | none => "")

def maxLength : Nat := 65536

def isControl (c : Char) : Bool :=
  c.toNat < 32 || c.toNat == 127

/-- Read an address: an optional scheme and `:`, an optional `//` and authority, a
path, and an optional query after `?` and fragment after `#`. -/
def parse (s : String) : Except String Url := do
  let cs := s.toList
  if cs.length > maxLength then throw "URL too long"
  if let some i := cs.findIdx? isControl then
    throw ("Invalid non-printable ASCII character in URL, " ++
      Text.literal (String.singleton (cs.getD i ' ')) ++ " at position " ++ toString i ++ ".")
  let (scheme, rest) := match schemeOf cs with
    | some (sch, rest) => (sch, rest)
    | none => match cs with
      | ':' :: rest => ("", rest)
      | _ => ("", cs)
  let (authority, rest) := match rest with
    | '/' :: '/' :: r =>
      let a := r.takeWhile fun c => c != '/' && c != '?' && c != '#'
      (String.ofList a, r.drop a.length)
    | r => ("", r)
  let (beforeFragment, fragment) := splitAtAny ['#'] rest
  let (path, query) := splitAtAny ['?'] beforeFragment
  assemble scheme authority (String.ofList path) (query.map String.ofList)
    (fragment.map String.ofList)

/-- The text of an address. -/
def text (u : Url) : String :=
  let a := u.authority
  (if u.scheme.isEmpty then "" else u.scheme ++ ":") ++ (if a.isEmpty then "" else "//" ++ a) ++
    u.path ++ (match u.query with
      | some q => "?" ++ q
      | none => "") ++
    (match u.fragment with
      | some f => "#" ++ f
      | none => "")

def rawPath (u : Url) : String :=
  (if u.path.isEmpty then "/" else u.path) ++ (match u.query with
    | some q => "?" ++ q
    | none => "")

def withRawPath (u : Url) (raw : String) : Except String Url :=
  let cs := raw.toList
  let (path, query) := splitAtAny ['?'] cs
  assemble u.scheme u.authority (String.ofList path) (query.map String.ofList) u.fragment

/-- A path joined below a base address. -/
def join (base : Url) (path : String) : Except String Url := do
  let raw := base.rawPath
  let base ← if raw.endsWith "/" then pure base else base.withRawPath (raw ++ "/")
  base.withRawPath (base.rawPath ++ String.ofList (path.toList.dropWhile (· == '/')))

end Url
end SpireEnroll
