import H9d.Core.Cut
import H9d.Core.Decimal
import Mathlib.Logic.Function.Basic

/-! # URIs of a connection

How a connection is read from the text in a configuration file or on the command line. A text is cut at
the first colon, and what follows two slashes is cut at the first slash, the first `@`, the last colon and
the first question mark that is left behind the slash.
-/

namespace H9d

open Cxx

/-- A `std::invalid_argument` with its text. -/
abbrev InvalidArgument := List Char

/-- The members that a URI sets. -/
structure H9Configurator where
  scheme : List Char
  authority : List Char
  userinfo : List Char
  host : List Char
  port : ℤ
  path : List Char
  query : List Char → Option (List Char)

namespace H9Configurator

def unescapeQueryValue : List Char → List Char
  | '\\' :: c :: s =>
    (match c with
      | 'r' => ['\r']
      | 'n' => ['\n']
      | 't' => ['\t']
      | '\\' => ['\\']
      | c => ['\\', c]) ++ unescapeQueryValue s
  | c :: s => c :: unescapeQueryValue s
  | [] => []

/-- One part of the query between two `&`. -/
def readToken (query : List Char → Option (List Char)) (token : List Char) : List Char → Option (List Char) :=
  match cut '=' token with
  | some (key, value) => Function.update query key (some (unescapeQueryValue value))
  | none => if token ≠ [] then Function.update query token (some []) else query

/-- The path without the query, and the query. -/
def readPath (path : List Char) : List Char × (List Char → Option (List Char)) :=
  match cut '?' path with
  | some (path, queryStr) => (path, (queryStr.splitOn '&').foldl readToken fun _ => none)
  | none => (path, fun _ => none)

/-- The authority, and the path from the first slash on. -/
def readAuthority (rest : List Char) : List Char × List Char :=
  match cut '/' rest with
  | some (authority, path) => (authority, '/' :: path)
  | none => (rest, [])

def readUserinfo (authority : List Char) : List Char × List Char :=
  match cut '@' authority with
  | some (userinfo, hostport) => (userinfo, hostport)
  | none => ([], authority)

def readHostport (uri hostport : List Char) : Except InvalidArgument (List Char × ℤ) :=
  match cutLast ':' hostport with
  | some (host, portStr) =>
    if portStr = [] then .ok (host, -1)
    else
      match stoi portStr with
      | .ok port => .ok (host, port)
      | .error _ => .error ("Invalid port in URI: ".toList ++ uri)
  | none => .ok (hostport, -1)

def parseUri (uri : List Char) : Except InvalidArgument H9Configurator :=
  match cut ':' uri with
  | none => .error ("Invalid URI (missing scheme): ".toList ++ uri)
  | some (scheme, '/' :: '/' :: rest) => do
    let (authority, path) := readAuthority rest
    let (userinfo, hostport) := readUserinfo authority
    let (host, port) ← readHostport uri hostport
    let (path, query) := readPath path
    return { scheme, authority, userinfo, host, port, path, query }
  | some (scheme, rest) =>
    let (path, query) := readPath rest
    .ok { scheme, authority := [], userinfo := [], host := [], port := -1, path, query }

end H9Configurator

end H9d
