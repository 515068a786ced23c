import Maquette.Service.Form

/-!
# Targets of requests

What a request is sent to, below the address of the service: a path, and behind a
question mark a query. What stands behind a number sign is for the one who asks,
and tabulators and line ends are no part of an address.

Every endpoint has a path that ends in a slash. The path without the slash leads
there by a detour, and a suffix in place of the slash says in which format the
answer should be.
-/

namespace Maquette.Service

/-- What the service can be asked for. -/
inductive Endpoint
  | compileScreen
  | package
  | download
deriving DecidableEq

namespace Endpoint

def all : List Endpoint := [compileScreen, package, download]

def name : Endpoint → String
  | compileScreen => "compile-screen"
  | package => "package"
  | download => "download"

end Endpoint

/-- What a path leads to. -/
inductive Route
  | endpoint (endpoint : Endpoint)
  /-- An endpoint, with the format that the answer should be in. -/
  | suffixed (endpoint : Endpoint) (format : String)
  /-- An endpoint whose slash is missing. -/
  | unslashed (endpoint : Endpoint)
  | nowhere
deriving DecidableEq

/-- The target of a request. -/
structure Target where
  path : List Char
  query : List Char

namespace Target

/-- A character that is no part of an address. -/
def isSkipped (c : Char) : Bool :=
  c == '\t' || c == '\n' || c == '\r'

def ofText (text : String) : Target :=
  let address := (text.toList.filter (!isSkipped ·)).takeWhile (· ≠ '#')
  { path := Text.decode (Text.percentBytes (Text.encode (address.takeWhile (· ≠ '?'))))
    query := (address.dropWhile (· ≠ '?')).drop 1 }

def isFormatChar (c : Char) : Bool :=
  'a' ≤ c && c ≤ 'z' || '0' ≤ c && c ≤ '9'

/-- The format that the rest of a path behind a name writes: a point, the format,
and a slash if one likes. -/
def format? (rest : List Char) : Option String :=
  match rest with
  | '.' :: written =>
    let format := if written.getLast? = some '/' then written.dropLast else written
    if format.isEmpty || !format.all isFormatChar then none else some (String.ofList format)
  | _ => none

/-- What a path leads to if it begins with the name of an endpoint. -/
def routeTo? (path : List Char) (endpoint : Endpoint) : Option Route :=
  let name := endpoint.name.toList
  if !name.isPrefixOf path then none
  else
    match path.drop name.length with
    | [] => some (.unslashed endpoint)
    | ['/'] => some (.endpoint endpoint)
    | rest => (format? rest).map (.suffixed endpoint)

def route (t : Target) : Route :=
  (Endpoint.all.findSome? (routeTo? t.path)).getD .nowhere

/-- The format that the query of a target asks for. Its bytes are those of a query in
the character set of the request. -/
def queryFormat? (t : Target) (charset : Charset) : Except FormFault (Option String) := do
  match (← Form.ofEncoded charset (Text.encode t.query)).value? "format" with
  | some (.text format) => return if format = "" then none else some format
  | _ => return none

/-- The query of a target as it is repeated in an address: its bytes count as
characters. -/
def repeatedQuery (t : Target) : String :=
  match t.query with
  | [] => ""
  | query =>
    let units := (Text.encode query).map fun b => Char.ofNat b.toNat
    "?" ++ String.ofList (units.flatMap Text.percentChar)

end Target

end Maquette.Service
