import H9d.Core.Json

/-! # Counters as one JSON value

The name of a counter is a path: tokens between dots, each the name of a member, or of a member with
an entry chosen by one of the entry's own members. The counters are put into one value, in the order
of their names.
-/

namespace H9d.MetricsCollector

open Nlohmann

/-- A match of `([A-Za-z0-9_-]+)(?:\[([A-Za-z0-9_-]+)=([A-Za-z0-9_-]+)\])?`. -/
inductive Token
  | member (tag : String)
  | entry (tag arg argValue : String)
  deriving DecidableEq, Repr

def isWord (c : Char) : Bool := c.isAlphanum || c == '_' || c == '-'

/-- The bracket that may follow the first group. -/
def bracket? : List Char → Option (String × String)
  | '[' :: rest =>
      let arg := rest.takeWhile isWord
      match rest.dropWhile isWord with
      | '=' :: rest =>
          let argValue := rest.takeWhile isWord
          match rest.dropWhile isWord with
          | ']' :: _ => if arg = [] ∨ argValue = [] then none else some (.ofList arg, .ofList argValue)
          | _ => none
      | _ => none
  | _ => none

/-- `std::regex_search`: the leftmost match starts at the first character of a word. -/
def regexSearch (t : List Char) : Option Token :=
  let t := t.dropWhile (!isWord ·)
  if t = [] then none
  else
    let tag := String.ofList (t.takeWhile isWord)
    match bracket? (t.dropWhile isWord) with
    | some (arg, argValue) => some (.entry tag arg argValue)
    | none => some (.member tag)

/-- A token without a match changes nothing. -/
def tokens (name : String) : List Token := (name.toList.splitOn '.').filterMap regexSearch

/-- A place in a value: what stands there, and the whole after it was replaced. -/
structure Place where
  child : Json
  put : Json → Json

/-- `operator[]` for writing, on the members in their order. -/
def setMember (key : String) (value : Json) : List (String × Json) → List (String × Json)
  | [] => [(key, value)]
  | (k, v) :: rest =>
      if key = k then (k, value) :: rest
      else if key < k then (key, value) :: (k, v) :: rest
      else (k, v) :: setMember key value rest

/-- The place of a member, which is made if it is missing. -/
def memberPlace (tag : String) : Json → Except AccessError Place
  | .object members =>
      .ok ⟨(members.lookup tag).getD .null, fun v => .object (setMember tag v members)⟩
  | .null => .ok ⟨.null, fun v => .object [(tag, v)]⟩
  | j => .error (.typeError
      s!"[json.exception.type_error.305] cannot use operator[] with a string argument with {j.typeName}")

/-- `k.contains(arg) && k.at(arg) == arg_value`. -/
def isEntry (arg argValue : String) (k : Json) : Bool :=
  match k.members.lookup arg with
  | some (.string s) => s == argValue
  | _ => false

/-- The place of an entry: the first that fits, else one that is pushed back. -/
def entryPlace (arg argValue : String) : Json → Except AccessError Place
  | .array elems =>
      match elems.findIdx? (isEntry arg argValue) with
      | some i => .ok ⟨elems.getD i .null, fun v => .array (elems.set i v)⟩
      | none => .ok ⟨.object [(arg, .string argValue)], fun v => .array (elems ++ [v])⟩
  | .null => .ok ⟨.object [(arg, .string argValue)], fun v => .array [v]⟩
  | .object members =>
      match members.find? (isEntry arg argValue ·.2) with
      | some (key, k) => .ok ⟨k, fun v => .object (setMember key v members)⟩
      | none => .error (.typeError "[json.exception.type_error.308] cannot use push_back() with object")
  | j => .error (.typeError s!"[json.exception.type_error.308] cannot use push_back() with {j.typeName}")

def Token.place (j : Json) : Token → Except AccessError Place
  | .member tag => memberPlace tag j
  | .entry tag arg argValue => do
      let outer ← memberPlace tag j
      let inner ← entryPlace arg argValue outer.child
      return ⟨inner.child, outer.put ∘ inner.put⟩

/-- One round of the loop over the counters. -/
def insert (value : BitVec 64) : List Token → Json → Except AccessError Json
  | [], _ => .ok (.numberUnsigned value)
  | t :: ts, j => do
      let place ← t.place j
      return place.put (← insert value ts place.child)

def metricsToJson (uptime : BitVec 64) (counterMap : List (String × BitVec 64)) :
    Except AccessError Json :=
  counterMap.foldlM (fun j (name, value) => insert value (tokens name) j)
    (.object [("uptime", .numberInteger uptime)])

end H9d.MetricsCollector
