/-
# JsonQuery.Uri — addresses of documents.

An address has a scheme, perhaps an authority, a path, and perhaps a query and a fragment, all kept
in their normal form.  The path is a list of segments, or plain text for addresses such as
`mailto:a@b` that name no hierarchy.
-/

namespace JsonQuery

/-- Who is responsible for an address: a user with the sign behind it, a host, and a port unless it
is the usual one of the scheme. -/
structure Uri.Authority where
  user : String
  host : String
  port : Option Nat
  deriving DecidableEq, Repr

/-- The path of an address. -/
inductive Uri.Path where
  | segments (names : List String)
  | plain (text : String)
  deriving DecidableEq, Repr

/-- An address. -/
structure Uri where
  scheme : String
  authority : Option Uri.Authority
  path : Uri.Path
  query : Option String
  fragment : Option String
  deriving DecidableEq, Repr

/-- Why a text is no address. -/
inductive Uri.Fault where
  | emptyHost
  | invalidDomainName
  | invalidPort
  | invalidIpv4Address
  | invalidIpv6Address
  | invalidDomainCharacter
  | relativeWithoutBase
  | relativeToPlainPath
  deriving DecidableEq, Repr

namespace Uri

/-- The wording of a fault. -/
def Fault.message : Fault → String
  | .emptyHost => "empty host"
  | .invalidDomainName => "invalid international domain name"
  | .invalidPort => "invalid port number"
  | .invalidIpv4Address => "invalid IPv4 address"
  | .invalidIpv6Address => "invalid IPv6 address"
  | .invalidDomainCharacter => "invalid domain character"
  | .relativeWithoutBase => "relative URL without a base"
  | .relativeToPlainPath => "relative URL with a cannot-be-a-base base"

/-- The text of an authority. -/
def Authority.toText (a : Authority) : String :=
  a.user ++ a.host ++ (match a.port with
    | some port => ":" ++ toString port
    | none => "")

/-- The text of a path. -/
def Path.toText : Path → String
  | .segments names => String.join (names.map ("/" ++ ·))
  | .plain text => text

/-- The names of a path; plain text has none. -/
def Path.names : Path → List String
  | .segments names => names
  | .plain _ => []

/-- The text of an address.  Without an authority a path must not start like one. -/
def toText (u : Uri) : String :=
  let path := u.path.toText
  u.scheme ++ ":" ++
    (match u.authority with
      | some a => "//" ++ a.toText
      | none => if path.startsWith "//" then "/." else "") ++
    path ++
    (match u.query with
      | some q => "?" ++ q
      | none => "") ++
    (match u.fragment with
      | some f => "#" ++ f
      | none => "")

/-- Whether the address names no hierarchy. -/
def isPlain (u : Uri) : Bool :=
  match u.path with
  | .plain _ => true
  | .segments _ => false

/-- The address of the whole document; blanks at the end of a plain path go with the fragment. -/
def withoutFragment (u : Uri) : Uri :=
  match u.path, u.query, u.fragment with
  | .plain text, none, some _ =>
    { u with
      path := .plain (String.ofList (text.toList.reverse.dropWhile (· = ' ')).reverse)
      fragment := none }
  | _, _, _ => { u with fragment := none }

end Uri

end JsonQuery
