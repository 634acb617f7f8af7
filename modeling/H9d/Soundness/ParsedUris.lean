import H9d.Model.H9Configurator

/-! # URIs read back

Every cut but those at the last colon and at the first slash finds the delimiter that was written. The
last colon of a bracketed address is its own when no port follows, and without a path the first slash is
one of the query or none, so that the query is read as a part of the authority.
-/

namespace H9d

open Cxx

namespace H9Configurator

/-- None of the delimiters occurs in the text. -/
def Free (delimiters text : List Char) : Prop := ∀ c ∈ delimiters, c ∉ text

instance (delimiters text : List Char) : Decidable (Free delimiters text) :=
  decidable_of_iff (delimiters.all (· ∉ text) = true) (by simp [Free])

/-- The delimiters of the form. -/
def delimiters : List Char := [':', '/', '?', '@']

inductive Host
  | name (text : List Char)
  | bracketed (literal : List Char)
  deriving DecidableEq

namespace Host

def text : Host → List Char
  | name text => text
  | bracketed literal => '[' :: literal ++ [']']

/-- A name has no delimiter, an address in brackets has colons and no other one. -/
def Allowed : Host → Prop
  | name text => Free delimiters text
  | bracketed literal => ':' ∈ literal ∧ Free ['/', '?', '@'] literal

theorem Allowed.free {host : Host} (allowed : host.Allowed) : Free ['/', '?', '@'] host.text := by
  intro c delimiter
  cases host with
  | name text =>
    apply allowed
    exact List.mem_cons_of_mem _ delimiter
  | bracketed literal =>
    have bracket : c ≠ '[' ∧ c ≠ ']' := by
      constructor
      · rintro rfl
        exact absurd delimiter (by decide)
      · rintro rfl
        exact absurd delimiter (by decide)
    simp [text, bracket.1, bracket.2, allowed.2 c delimiter]

end Host

/-- The components that a text of the form is written from. The text of the port is any. -/
structure Uri where
  scheme : List Char
  userinfo : Option (List Char)
  host : Host
  port : Option (List Char)
  path : List Char
  query : List (List Char × List Char)
  schemeFree : Free delimiters scheme
  userinfoFree : ∀ text ∈ userinfo, Free delimiters text
  hostAllowed : host.Allowed
  portFree : ∀ text ∈ port, Free delimiters text
  pathStart : path = [] ∨ ∃ rest, path = '/' :: rest
  pathFree : '?' ∉ path
  queryFree : ∀ pair ∈ query, Free ['&', '=', '?', '\\'] pair.1 ∧ Free ['&', '=', '?', '\\'] pair.2

namespace Uri

variable (u : Uri)

def pairText (pair : List Char × List Char) : List Char := pair.1 ++ '=' :: pair.2

def queryStr : List Char := ['&'].intercalate (u.query.map pairText)

/-- The question mark stands in front of one pair at least. -/
def queryText : List Char := if u.query = [] then [] else '?' :: u.queryStr

def userinfoText : List Char := u.userinfo.elim [] (· ++ ['@'])

def portText : List Char := u.port.elim [] (':' :: ·)

def text : List Char :=
  u.scheme ++ ':' :: '/' :: '/' :: (u.userinfoText ++ (u.host.text ++ u.portText) ++ (u.path ++ u.queryText))

/-- The number of the port part, -1 when there is none, nothing when it is no decimal in range. -/
def portNumber : Option ℤ :=
  match u.port with
  | none => some (-1)
  | some [] => some (-1)
  | some text =>
    if text.all Char.isDigit ∧ 1 ≤ numberIn 10 text ∧ numberIn 10 text ≤ 65535 then some (numberIn 10 text)
    else none

/-- The last value of a key. -/
def lastValue (key : List Char) : Option (List Char) := u.query.reverse.lookup key

/-- The parser gives back every component, or refuses the text for its port. -/
def Recovered : Prop :=
  match u.portNumber with
  | some port => ∃ read, parseUri u.text = .ok read ∧ read.scheme = u.scheme ∧
      read.userinfo = u.userinfo.getD [] ∧ read.host = u.host.text ∧ read.port = port ∧
      read.path = u.path ∧ read.query = u.lastValue
  | none => ∃ e, parseUri u.text = .error e

/-- The text that is read as the number of the port, where a port is written. A query that follows the
authority at once belongs to it up to its first slash, with its own `@` and colons. -/
def portRead : List Char :=
  if u.path = [] ∧ u.query ≠ [] then
    let taken := (readAuthority u.queryStr).1
    if u.userinfo = none ∧ '@' ∈ taken then
      ((cutLast ':' (readUserinfo taken).2).map Prod.snd).getD []
    else
      ((cutLast ':' taken).map Prod.snd).getD (u.port.getD [] ++ '?' :: taken)
  else u.port.getD []

/-- There is a text for the port that does not begin with a number, or with one that is no `int`. -/
def Refused (text : List Char) : Prop :=
  text ≠ [] ∧ ∀ value, BeginsWith text value → value < -2 ^ 31 ∨ 2 ^ 31 ≤ value

theorem refused_iff {text : List Char} : Refused text ↔ text ≠ [] ∧ ∃ e, stoi text = .error e :=
  and_congr_right fun _ => stoi_error_iff.symm

/-- What the parser needs in order to read the text as it was written. -/
def Readable : Prop :=
  match u.portNumber with
  | some _ => (u.path ≠ [] ∨ u.query = []) ∧ ((∃ text, u.host = .name text) ∨ u.port ≠ none)
  | none => Refused u.portRead

end Uri

section Query

theorem unescapeQueryValue_free {s : List Char} (free : '\\' ∉ s) : unescapeQueryValue s = s := by
  induction s with
  | nil => rfl
  | cons c s ih =>
    rw [List.mem_cons, not_or] at free
    rw [unescapeQueryValue, ih free.2]
    rintro _ _ same
    exact absurd same.symm free.1

theorem readToken_pairText (query : List Char → Option (List Char)) {pair : List Char × List Char}
    (free : Free ['&', '=', '?', '\\'] pair.1 ∧ Free ['&', '=', '?', '\\'] pair.2) :
    readToken query (Uri.pairText pair) = Function.update query pair.1 (some pair.2) := by
  rw [readToken, Uri.pairText, cut_append_cons (free.1 '=' (by decide))]
  dsimp only
  rw [unescapeQueryValue_free (free.2 '\\' (by decide))]

/-- Each pair overwrites the value that its key had. -/
theorem foldl_readToken {pairs : List (List Char × List Char)}
    (free : ∀ pair ∈ pairs, Free ['&', '=', '?', '\\'] pair.1 ∧ Free ['&', '=', '?', '\\'] pair.2) :
    (pairs.map Uri.pairText).foldl readToken (fun _ => none) = fun key => pairs.reverse.lookup key := by
  induction pairs using List.reverseRecOn with
  | nil => rfl
  | append_singleton pairs pair ih =>
    rw [List.map_append, List.foldl_append, ih fun p listed => free p (List.mem_append_left _ listed)]
    change readToken _ (Uri.pairText pair) = _
    rw [readToken_pairText _ (free pair (List.mem_append_right _ List.mem_cons_self))]
    funext key
    rw [List.reverse_append, List.reverse_singleton, List.singleton_append, List.lookup_cons]
    by_cases same : key = pair.1
    · simp [same]
    · simp [same, beq_eq_false_iff_ne.mpr same]

theorem notMem_intercalate {c sep : Char} (other : c ≠ sep) {texts : List (List Char)}
    (free : ∀ text ∈ texts, c ∉ text) : c ∉ [sep].intercalate texts := by
  induction texts with
  | nil => exact List.not_mem_nil
  | cons text texts ih =>
    have head := free text List.mem_cons_self
    have tail := ih fun t listed => free t (List.mem_cons_of_mem _ listed)
    cases texts with
    | nil => simpa using head
    | cons next texts =>
      rw [List.intercalate_cons_cons]
      simp [head, other, tail]

variable (u : Uri)

theorem Uri.queryStr_free : '?' ∉ u.queryStr := by
  apply notMem_intercalate (by decide)
  intro text listed
  obtain ⟨pair, given, rfl⟩ := List.mem_map.mp listed
  have free := u.queryFree pair given
  simp [pairText, free.1 '?' (by decide), free.2 '?' (by decide)]

theorem readPath_free {path : List Char} (free : '?' ∉ path) : readPath path = (path, fun _ => none) := by
  rw [readPath, cut_eq_none.mpr free]

theorem Uri.readPath_text : readPath (u.path ++ u.queryText) = (u.path, u.lastValue) := by
  by_cases none : u.query = []
  · rw [queryText, if_pos none, List.append_nil, readPath_free u.pathFree]
    apply congrArg
    funext key
    rw [lastValue, none]
    rfl
  · have pieces : u.queryStr.splitOn '&' = u.query.map pairText := by
      apply List.splitOn_intercalate
      · intro text listed
        obtain ⟨pair, given, rfl⟩ := List.mem_map.mp listed
        have free := u.queryFree pair given
        simp [pairText, free.1 '&' (by decide), free.2 '&' (by decide)]
      · simpa using none
    rw [queryText, if_neg none, readPath, cut_append_cons u.pathFree]
    dsimp only
    rw [pieces, foldl_readToken u.queryFree]
    rfl

end Query

section Cuts

theorem readAuthority_append {x : List Char} (free : '/' ∉ x) (s : List Char) :
    readAuthority (x ++ s) = (x ++ (readAuthority s).1, (readAuthority s).2) := by
  rw [readAuthority, readAuthority, cut_append free]
  cases cut '/' s with
  | none => rfl
  | some p => rfl

/-- Nothing that follows the first slash is new. -/
theorem readAuthority_free {s : List Char} {c : Char} (free : c ∉ s) : c ∉ (readAuthority s).2 := by
  rw [readAuthority]
  cases found : cut '/' s with
  | none => exact List.not_mem_nil
  | some p =>
    intro listed
    apply free
    rw [(eq_append_of_cut found).1]
    exact List.mem_append_right _ listed

theorem readUserinfo_append {x s : List Char} (free : '@' ∉ x) :
    readUserinfo (x ++ s) =
      if '@' ∈ s then (x ++ (readUserinfo s).1, (readUserinfo s).2) else ([], x ++ s) := by
  rw [readUserinfo, readUserinfo, cut_append free]
  cases found : cut '@' s with
  | none =>
    rw [if_neg (cut_eq_none.mp found)]
    rfl
  | some p =>
    have inside : '@' ∈ s := by
      rw [(eq_append_of_cut found).1]
      exact List.mem_append_right _ List.mem_cons_self
    rw [if_pos inside]
    rfl

theorem readHostport_error_iff {uri hostport : List Char} :
    (∃ e, readHostport uri hostport = .error e) ↔ ∃ p ∈ cutLast ':' hostport, Uri.Refused p.2 := by
  rw [readHostport]
  cases cutLast ':' hostport with
  | none => simp
  | some p =>
    dsimp only
    by_cases empty : p.2 = []
    · simp [empty, Uri.refused_iff]
    · rw [if_neg empty]
      cases read : stoi p.2 with
      | ok port => simp [Uri.refused_iff, read]
      | error e => simp [Uri.refused_iff, read, empty]

end Cuts

namespace Uri

variable (u : Uri)

/-- What follows the two slashes. -/
def rest : List Char := u.userinfoText ++ (u.host.text ++ u.portText) ++ (u.path ++ u.queryText)

/-- What is read as host and port. -/
def hostport : List Char := (readUserinfo (readAuthority u.rest).1).2

theorem parseUri_text : parseUri u.text =
    (readHostport u.text u.hostport).map fun read =>
      { scheme := u.scheme
        authority := (readAuthority u.rest).1
        userinfo := (readUserinfo (readAuthority u.rest).1).1
        host := read.1
        port := read.2
        path := (readPath (readAuthority u.rest).2).1
        query := (readPath (readAuthority u.rest).2).2 } := by
  have found : cut ':' u.text = some (u.scheme, '/' :: '/' :: u.rest) :=
    cut_append_cons (u.schemeFree ':' (by decide))
  rw [parseUri, found]
  change (readHostport u.text u.hostport >>= fun _ => pure _) = _
  cases readHostport u.text u.hostport with
  | error e => rfl
  | ok read => rfl

theorem parseUri_error_iff :
    (∃ e, parseUri u.text = .error e) ↔ ∃ p ∈ cutLast ':' u.hostport, Refused p.2 := by
  rw [← readHostport_error_iff, parseUri_text]
  cases readHostport u.text u.hostport with
  | error e => simp [Except.map]
  | ok read => simp [Except.map]

theorem portText_free {c : Char} (delimiter : c ∈ ['/', '?', '@']) : c ∉ u.portText := by
  have other : c ≠ ':' := by
    rintro rfl
    exact absurd delimiter (by decide)
  have among : c ∈ delimiters := List.mem_cons_of_mem _ delimiter
  rw [portText]
  cases port : u.port with
  | none => exact List.not_mem_nil
  | some text => simp [other, u.portFree text port c among]

theorem hostText_free {c : Char} (delimiter : c ∈ ['/', '?', '@']) : c ∉ u.host.text ++ u.portText := by
  rw [List.mem_append, not_or]
  exact ⟨u.hostAllowed.free c delimiter, u.portText_free delimiter⟩

theorem authority_free : '/' ∉ u.userinfoText ++ (u.host.text ++ u.portText) := by
  rw [List.mem_append, not_or]
  refine ⟨?_, u.hostText_free (by decide)⟩
  rw [userinfoText]
  cases userinfo : u.userinfo with
  | none => exact List.not_mem_nil
  | some text => simp [u.userinfoFree text userinfo '/' (by decide)]

/-- The userinfo is found when it was written. -/
theorem readUserinfo_text {x : List Char} (free : u.userinfo = none → '@' ∉ x) :
    readUserinfo (u.userinfoText ++ x) = (u.userinfo.getD [], x) := by
  rw [userinfoText]
  cases userinfo : u.userinfo with
  | none => rw [Option.elim_none, List.nil_append, readUserinfo, cut_eq_none.mpr (free userinfo), Option.getD_none]
  | some text =>
    rw [Option.elim_some, List.append_assoc, List.singleton_append, readUserinfo,
      cut_append_cons (u.userinfoFree text userinfo '@' (by decide)), Option.getD_some]

/-! ### The path begins at its own slash, or nothing follows the authority -/

section Apart

variable {u}

theorem readAuthority_apart (apart : u.path ≠ [] ∨ u.query = []) :
    readAuthority u.rest = (u.userinfoText ++ (u.host.text ++ u.portText), u.path ++ u.queryText) := by
  rw [rest, readAuthority_append u.authority_free]
  rcases u.pathStart with empty | ⟨rest, start⟩
  · have none := apart.resolve_left (not_not.mpr empty)
    rw [empty, queryText, if_pos none]
    simp [readAuthority, cut]
  · rw [start]
    simp [readAuthority]

theorem hostport_apart (apart : u.path ≠ [] ∨ u.query = []) : u.hostport = u.host.text ++ u.portText := by
  rw [hostport, readAuthority_apart apart, u.readUserinfo_text fun _ => u.hostText_free (by decide)]

theorem parseUri_apart (apart : u.path ≠ [] ∨ u.query = []) {host : List Char} {port : ℤ}
    (read : readHostport u.text (u.host.text ++ u.portText) = .ok (host, port)) :
    ∃ uri, parseUri u.text = .ok uri ∧ uri.scheme = u.scheme ∧ uri.userinfo = u.userinfo.getD [] ∧
      uri.host = host ∧ uri.port = port ∧ uri.path = u.path ∧ uri.query = u.lastValue := by
  rw [parseUri_text, hostport_apart apart, read]
  refine ⟨_, rfl, rfl, ?_, rfl, rfl, ?_, ?_⟩
  · rw [readAuthority_apart apart, u.readUserinfo_text fun _ => u.hostText_free (by decide)]
  · rw [readAuthority_apart apart, u.readPath_text]
  · rw [readAuthority_apart apart, u.readPath_text]

end Apart

/-! ### The query follows the authority at once -/

section Joined

variable {u}

theorem readAuthority_joined (empty : u.path = []) (present : u.query ≠ []) :
    readAuthority u.rest =
      (u.userinfoText ++ (u.host.text ++ u.portText ++ '?' :: (readAuthority u.queryStr).1),
        (readAuthority u.queryStr).2) := by
  have text : u.rest = u.userinfoText ++ (u.host.text ++ u.portText) ++ ['?'] ++ u.queryStr := by
    rw [rest, empty, queryText, if_neg present]
    simp
  have free : '/' ∉ u.userinfoText ++ (u.host.text ++ u.portText) ++ ['?'] := by
    rw [List.mem_append, not_or]
    exact ⟨u.authority_free, by decide⟩
  rw [text, readAuthority_append free]
  simp

/-- The query is lost: no question mark is left behind the slash. -/
theorem query_joined (empty : u.path = []) (present : u.query ≠ []) {uri : H9Configurator}
    (read : parseUri u.text = .ok uri) : uri.query = fun _ => none := by
  rw [parseUri_text] at read
  cases found : readHostport u.text u.hostport with
  | error e =>
    rw [found] at read
    exact nomatch read
  | ok p =>
    rw [found] at read
    cases read
    dsimp only
    rw [readAuthority_joined empty present, readPath_free (readAuthority_free u.queryStr_free)]

theorem lastValue_ne_none (present : u.query ≠ []) : u.lastValue ≠ fun _ => none := by
  obtain ⟨pair, pairs, last⟩ := List.exists_cons_of_ne_nil (mt List.reverse_eq_nil_iff.mp present)
  intro same
  have value := congrFun same pair.1
  rw [lastValue, last, List.lookup_cons, beq_self_eq_true] at value
  exact nomatch value

end Joined

/-- The text that `stoi` gets. -/
theorem refused_portRead_iff {port : List Char} (given : u.port = some port) :
    Refused u.portRead ↔ ∃ p ∈ cutLast ':' u.hostport, Refused p.2 := by
  have portFree := u.portFree port given
  have colonFree : ':' ∉ port := portFree ':' (by decide)
  have written : u.host.text ++ u.portText = u.host.text ++ ':' :: port := by
    rw [portText, given]
    rfl
  by_cases joined : u.path = [] ∧ u.query ≠ []
  · rw [portRead, if_pos joined]
    let taken := (readAuthority u.queryStr).1
    have taking : u.hostport =
        (readUserinfo (u.userinfoText ++ (u.host.text ++ u.portText ++ '?' :: taken))).2 := by
      rw [hostport, readAuthority_joined joined.1 joined.2]
    change Refused (if u.userinfo = none ∧ '@' ∈ taken then _ else _) ↔ _
    by_cases foreign : u.userinfo = none ∧ '@' ∈ taken
    · have before : '@' ∉ u.host.text ++ u.portText ++ ['?'] := by
        rw [List.mem_append, not_or]
        exact ⟨u.hostText_free (by decide), by decide⟩
      have text : u.userinfoText ++ (u.host.text ++ u.portText ++ '?' :: taken) =
          u.host.text ++ u.portText ++ ['?'] ++ taken := by
        rw [userinfoText, foreign.1]
        simp
      rw [if_pos foreign, taking, text, readUserinfo_append before, if_pos foreign.2]
      cases cutLast ':' (readUserinfo taken).2 with
      | none => simp [Refused]
      | some p => simp
    · have own : u.userinfo = none → '@' ∉ u.host.text ++ u.portText ++ '?' :: taken := by
        intro absent
        have free : '@' ∉ taken := fun listed => foreign ⟨absent, listed⟩
        have before := u.hostText_free (show '@' ∈ ['/', '?', '@'] by decide)
        rw [List.mem_append, List.mem_cons, not_or, not_or]
        exact ⟨before, by decide, free⟩
      rw [if_neg foreign, taking, u.readUserinfo_text own, written, given]
      by_cases later : ':' ∈ taken
      · have text : u.host.text ++ ':' :: port ++ '?' :: taken =
            u.host.text ++ ':' :: port ++ ['?'] ++ taken := by
          simp
        rw [text, cutLast_append later]
        cases found : cutLast ':' taken with
        | none => exact absurd later (cutLast_eq_none.mp found)
        | some p => simp
      · have free : ':' ∉ port ++ '?' :: taken := by simp [colonFree, later]
        rw [List.append_assoc, List.cons_append, cutLast_append_cons free, cutLast_eq_none.mpr later]
        simp [taken]
  · have apart : u.path ≠ [] ∨ u.query = [] := by tauto
    rw [portRead, if_neg joined, hostport_apart apart, given, written, cutLast_append_cons colonFree]
    simp

/-- A port that is given and is no number in range has a text. -/
theorem port_of_portNumber_none (bad : u.portNumber = none) : ∃ port, u.port = some port := by
  rw [portNumber] at bad
  cases port : u.port with
  | none =>
    rw [port] at bad
    exact nomatch bad
  | some text => exact ⟨text, rfl⟩

/-- The port number is read when the last colon is the one in front of it. -/
theorem readHostport_text {port : ℤ} (number : u.portNumber = some port)
    (colon : (∃ text, u.host = .name text) ∨ u.port ≠ none) :
    readHostport u.text (u.host.text ++ u.portText) = .ok (u.host.text, port) := by
  rw [portNumber] at number
  rw [portText]
  cases given : u.port with
  | none =>
    rw [given] at number
    cases number
    obtain ⟨text, name⟩ := colon.resolve_right (not_not.mpr given)
    have allowed := u.hostAllowed
    rw [name] at allowed ⊢
    have free : ':' ∉ text := allowed ':' (by decide)
    rw [Option.elim_none, List.append_nil, readHostport, Host.text, cutLast_eq_none.mpr free]
  | some text =>
    have free : ':' ∉ text := u.portFree text given ':' (by decide)
    rw [given] at number
    rw [Option.elim_some, readHostport, cutLast_append_cons free]
    dsimp only
    cases text with
    | nil =>
      cases number
      exact if_pos rfl
    | cons c rest =>
      obtain ⟨⟨digits, _, most⟩, value⟩ := Option.ite_none_right_eq_some.mp number
      have fits : numberIn 10 (c :: rest) < 2 ^ 31 := by omega
      rw [if_neg (List.cons_ne_nil c rest), stoi_digits (List.all_eq_true.mp digits) (List.cons_ne_nil c rest) fits]
      cases value
      rfl

/-- The last colon of an address in brackets is taken for that of a port. -/
theorem readHostport_bracketed {literal : List Char} (host : u.host = .bracketed literal)
    (absent : u.port = none) {read : List Char × ℤ}
    (found : readHostport u.text (u.host.text ++ u.portText) = .ok read) : read.1 ≠ u.host.text := by
  have allowed := u.hostAllowed
  rw [host] at allowed
  have colon : ':' ∈ u.host.text := by
    rw [host]
    simp [Host.text, allowed.1]
  rw [portText, absent, Option.elim_none, List.append_nil, readHostport] at found
  cases last : cutLast ':' u.host.text with
  | none => exact absurd colon (cutLast_eq_none.mp last)
  | some p =>
    have parts := eq_append_of_cutLast last
    have shorter : p.1 ≠ u.host.text := by
      intro same
      have length := congrArg List.length parts
      rw [← same, List.length_append, List.length_cons] at length
      omega
    rw [last] at found
    dsimp only at found
    split at found
    · cases found
      exact shorter
    · split at found
      · cases found
        exact shorter
      · exact nomatch found

/-- With a good port: a path or no query, and a colon for the port behind an address in brackets. With a bad
one: what `stoi` gets is refused by it. -/
theorem recovered_iff : u.Recovered ↔ u.Readable := by
  rw [Recovered, Readable]
  cases number : u.portNumber with
  | none =>
    obtain ⟨port, given⟩ := u.port_of_portNumber_none number
    rw [u.refused_portRead_iff given]
    exact u.parseUri_error_iff
  | some port =>
    dsimp only
    constructor
    · rintro ⟨uri, read, _, _, host, _, _, query⟩
      have apart : u.path ≠ [] ∨ u.query = [] := by
        by_contra joined
        obtain ⟨empty, present⟩ := not_or.mp joined
        exact lastValue_ne_none present (query.symm.trans (query_joined (not_not.mp empty) present read))
      refine ⟨apart, ?_⟩
      by_contra neither
      obtain ⟨unnamed, absent⟩ := not_or.mp neither
      cases form : u.host with
      | name text => exact unnamed ⟨text, form⟩
      | bracketed literal =>
        rw [parseUri_text, hostport_apart apart] at read
        cases found : readHostport u.text (u.host.text ++ u.portText) with
        | error e =>
          rw [found] at read
          exact nomatch read
        | ok p =>
          rw [found] at read
          cases read
          exact u.readHostport_bracketed form (not_not.mp absent) found host
    · rintro ⟨apart, colon⟩
      exact parseUri_apart apart (u.readHostport_text number colon)

end Uri

/-- `h9d://[::1]` -/
def loopback : Uri where
  scheme := "h9d".toList
  userinfo := none
  host := .bracketed "::1".toList
  port := none
  path := []
  query := []
  schemeFree := by decide
  userinfoFree := by simp
  hostAllowed := ⟨by decide, by decide⟩
  portFree := by simp
  pathStart := .inl rfl
  pathFree := by decide
  queryFree := by simp

/-- `udp://127.0.0.1:1321?src_port=1322` -/
def withoutPath : Uri where
  scheme := "udp".toList
  userinfo := none
  host := .name "127.0.0.1".toList
  port := some "1321".toList
  path := []
  query := [("src_port".toList, "1322".toList)]
  schemeFree := by decide
  userinfoFree := by simp
  hostAllowed := by
    change Free _ _
    decide
  portFree := by
    rintro _ ⟨⟩
    decide
  pathStart := .inl rfl
  pathFree := by decide
  queryFree := by
    intro pair listed
    cases List.mem_singleton.mp listed
    decide

/-- `h9d://localhost:79x` -/
def trailingText : Uri where
  scheme := "h9d".toList
  userinfo := none
  host := .name "localhost".toList
  port := some "79x".toList
  path := []
  query := []
  schemeFree := by decide
  userinfoFree := by simp
  hostAllowed := by
    change Free _ _
    decide
  portFree := by
    rintro _ ⟨⟩
    decide
  pathStart := .inl rfl
  pathFree := by decide
  queryFree := by simp

/-- The host is cut, the query is lost, and a port with text behind it is taken. -/
theorem not_recovered : ¬loopback.Recovered ∧ ¬withoutPath.Recovered ∧ ¬trailingText.Recovered := by
  refine ⟨?_, ?_, ?_⟩
  · rintro ⟨uri, read, _, _, host, _⟩
    cases read
    exact absurd host (by decide)
  · rintro ⟨uri, read, _, _, _, _, _, query⟩
    cases read
    exact absurd (congrFun query "src_port".toList) (by decide)
  · rintro ⟨e, read⟩
    exact nomatch read

end H9Configurator

end H9d
