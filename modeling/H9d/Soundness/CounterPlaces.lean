import H9d.Model.BusCounters
import H9d.Soundness.CounterPaths

/-! # Every counter at its place

The name of an endpoint goes into the names of its counters as it is. A name of other characters than
those of a word ends the match of the expression early, so only words arrive in the tree, and names that
are words give paths that part from each other.
-/

namespace H9d.MetricsCollector

open Nlohmann BusCounters

/-! ## Names as paths -/

/-- What a group of the expression matches. -/
def Word (text : List Char) : Prop := text ≠ [] ∧ ∀ c ∈ text, isWord c = true

instance (text : List Char) : Decidable (Word text) :=
  decidable_of_iff (text ≠ [] ∧ text.all isWord = true) (by rw [List.all_eq_true, Word])

section Words

variable {tag arg argValue : String}

theorem Word.free {text : List Char} (word : Word text) {c : Char} (other : isWord c = false) : c ∉ text := by
  intro listed
  rw [word.2 c listed] at other
  cases other

theorem takeWhile_word {text rest : List Char} (word : Word text) (stops : ∀ c ∈ rest.head?, isWord c = false) :
    (text ++ rest).takeWhile isWord = text ∧ (text ++ rest).dropWhile isWord = rest := by
  rw [List.takeWhile_append_of_pos word.2, List.dropWhile_append_of_pos word.2]
  cases rest with
  | nil => simp
  | cons c rest =>
    have stop : ¬isWord c = true := by simp [stops c rfl]
    rw [List.takeWhile_cons_of_neg stop, List.dropWhile_cons_of_neg stop, List.append_nil]
    exact ⟨rfl, rfl⟩

theorem dropWhile_word {text rest : List Char} (word : Word text) :
    (text ++ rest).dropWhile (!isWord ·) = text ++ rest := by
  obtain ⟨c, text, rfl⟩ := List.exists_cons_of_ne_nil word.1
  have first := word.2 c List.mem_cons_self
  exact List.dropWhile_cons_of_neg (by simp [first])

theorem regexSearch_member (word : Word tag.toList) : regexSearch tag.toList = some (.member tag) := by
  have front : tag.toList.dropWhile (!isWord ·) = tag.toList := by
    simpa using @dropWhile_word _ [] word
  have taken : tag.toList.takeWhile isWord = tag.toList ∧ tag.toList.dropWhile isWord = [] := by
    simpa using @takeWhile_word _ [] word nofun
  rw [regexSearch]
  dsimp only
  rw [front, if_neg word.1, taken.1, taken.2]
  simp [bracket?]

theorem regexSearch_entry (word : Word tag.toList) (argWord : Word arg.toList) (valueWord : Word argValue.toList) :
    regexSearch (tag.toList ++ ('[' :: (arg.toList ++ ('=' :: (argValue.toList ++ [']']))))) =
      some (.entry tag arg argValue) := by
  have first : ∀ c ∈ ('[' :: (arg.toList ++ ('=' :: (argValue.toList ++ [']'])))).head?, isWord c = false := by
    rintro _ ⟨⟩
    decide
  have second : ∀ c ∈ ('=' :: (argValue.toList ++ [']'])).head?, isWord c = false := by
    rintro _ ⟨⟩
    decide
  have third : ∀ c ∈ [']'].head?, isWord c = false := by
    rintro _ ⟨⟩
    decide
  have tags := takeWhile_word word first
  have args := takeWhile_word argWord second
  have values := takeWhile_word valueWord third
  have bracket : bracket? ('[' :: (arg.toList ++ ('=' :: (argValue.toList ++ [']'])))) = some (arg, argValue) := by
    simp [bracket?, args, values, argWord.1, valueWord.1]
  rw [regexSearch]
  dsimp only
  rw [dropWhile_word word, if_neg (by simp [word.1]), tags.1, tags.2, bracket]
  simp

/-- The text up to a dot is a token of its own. -/
theorem tokens_append {first second : String} (free : '.' ∉ first.toList) :
    tokens (first ++ "." ++ second) = (regexSearch first.toList).toList ++ tokens second := by
  have text : (first ++ "." ++ second).toList = first.toList ++ '.' :: second.toList := by simp
  rw [tokens, tokens, text, List.splitOn_append_cons_self_of_not_mem free, List.filterMap_cons]
  cases regexSearch first.toList with
  | none => rfl
  | some t => rfl

theorem tokens_word (word : Word tag.toList) : tokens tag = [.member tag] := by
  rw [tokens, List.splitOn_eq_singleton (word.free (by decide)), List.filterMap_cons, regexSearch_member word]
  rfl

theorem tokens_member_append (word : Word tag.toList) (rest : String) :
    tokens (tag ++ "." ++ rest) = .member tag :: tokens rest := by
  rw [tokens_append (word.free (by decide)), regexSearch_member word]
  rfl

theorem tokens_entry_append (word : Word tag.toList) (argWord : Word arg.toList) (valueWord : Word argValue.toList)
    (rest : String) :
    tokens (tag ++ "[" ++ arg ++ "=" ++ argValue ++ "]" ++ "." ++ rest) = .entry tag arg argValue :: tokens rest := by
  have text : (tag ++ "[" ++ arg ++ "=" ++ argValue ++ "]").toList =
      tag.toList ++ ('[' :: (arg.toList ++ ('=' :: (argValue.toList ++ [']'])))) := by
    simp
  have free : '.' ∉ (tag ++ "[" ++ arg ++ "=" ++ argValue ++ "]").toList := by
    have dot : isWord '.' = false := by decide
    rw [text]
    simp [word.free dot, argWord.free dot, valueWord.free dot]
  rw [tokens_append free, text, regexSearch_entry word argWord valueWord]
  rfl

end Words

inductive Counter
  | bus (field : String)
  | frames (type field : String)
  | endpoint (name field : String)
  deriving DecidableEq

namespace Counter

def name : Counter → String
  | bus field => "bus." ++ field
  | frames type field => "bus.frames[type=" ++ type ++ "]." ++ field
  | endpoint name field => "bus.endpoints[name=" ++ name ++ "]." ++ field

/-- The place of a counter: in the bus, in the object of a type of frame, or in that of an endpoint. -/
def path : Counter → List Token
  | bus field => [.member "bus", .member field]
  | frames type field => [.member "bus", .entry "frames" "type" type, .member field]
  | endpoint name field => [.member "bus", .entry "endpoints" "name" name, .member field]

/-- The texts that are entered into the name are words. -/
def Words : Counter → Prop
  | bus field => Word field.toList
  | frames type field => Word type.toList ∧ Word field.toList
  | endpoint name field => Word name.toList ∧ Word field.toList

theorem name_bus (field : String) : (bus field).name = "bus." ++ field := rfl

theorem name_frames (type field : String) :
    (frames type field).name = "bus.frames[type=" ++ type ++ "]." ++ field := rfl

theorem name_endpoint (name field : String) :
    (endpoint name field).name = "bus.endpoints[name=" ++ name ++ "]." ++ field := rfl

theorem tokens_name {c : Counter} (words : c.Words) : tokens c.name = c.path := by
  have busWord : Word "bus".toList := by decide
  have framesWord : Word "frames".toList := by decide
  have typeWord : Word "type".toList := by decide
  have endpointsWord : Word "endpoints".toList := by decide
  have nameWord : Word "name".toList := by decide
  cases c with
  | bus field =>
    have text : (bus field).name = "bus" ++ "." ++ field := by
      apply String.toList_inj.mp
      simp [name_bus]
    have fieldWord : Word field.toList := words
    rw [text, tokens_member_append busWord, tokens_word fieldWord]
    rfl
  | frames type field =>
    have text : (frames type field).name =
        "bus" ++ "." ++ ("frames" ++ "[" ++ "type" ++ "=" ++ type ++ "]" ++ "." ++ field) := by
      apply String.toList_inj.mp
      simp [name_frames]
    rw [text, tokens_member_append busWord, tokens_entry_append framesWord typeWord words.1,
      tokens_word words.2]
    rfl
  | endpoint name field =>
    have text : (endpoint name field).name =
        "bus" ++ "." ++ ("endpoints" ++ "[" ++ "name" ++ "=" ++ name ++ "]" ++ "." ++ field) := by
      apply String.toList_inj.mp
      simp [name_endpoint]
    rw [text, tokens_member_append busWord, tokens_entry_append endpointsWord nameWord words.1,
      tokens_word words.2]
    rfl

end Counter

/-! ## The counters of the bus -/

def busFields : List String := ["send_frames", "received_frames", "forward_frames"]

def frameFields : List String := ["send", "received"]

def endpointFields : List String := ["send_frames", "received_frames"]

def counters (endpoints : List String) : List Counter :=
  busFields.map .bus ++ (typeNames.flatMap fun type => frameFields.map (.frames type)) ++
    endpoints.flatMap fun name => endpointFields.map (.endpoint name)

theorem map_name_counters (endpoints : List String) :
    (counters endpoints).map Counter.name = counterNames endpoints := by
  have frames : (fun type => (frameFields.map (Counter.frames type)).map Counter.name) =
      fun type => ["bus.frames[type=" ++ type ++ "].send", "bus.frames[type=" ++ type ++ "].received"] := by
    funext type
    simp only [frameFields, List.map_cons, List.map_nil, Counter.name_frames, String.append_assoc]
    rfl
  have endpoint : (fun name => (endpointFields.map (Counter.endpoint name)).map Counter.name) = endpointCounters := by
    funext name
    simp only [endpointFields, List.map_cons, List.map_nil, Counter.name_endpoint, endpointCounters,
      String.append_assoc]
    rfl
  rw [counters, counterNames, busCounters, List.map_append, List.map_append, List.map_flatMap, List.map_flatMap,
    frames, endpoint]
  rfl

variable {endpoints : List String}

theorem mem_counters {c : Counter} : c ∈ counters endpoints ↔ (∃ field ∈ busFields, c = .bus field) ∨
    (∃ type ∈ typeNames, ∃ field ∈ frameFields, c = .frames type field) ∨
    ∃ name ∈ endpoints, ∃ field ∈ endpointFields, c = .endpoint name field := by
  simp only [counters, List.mem_append, List.mem_map, List.mem_flatMap, or_assoc, eq_comm]

theorem typeNames_words : ∀ type ∈ typeNames, Word type.toList := by
  decide

theorem typeNames_nodup : typeNames.Nodup := by
  decide

theorem words_of_mem (words : ∀ name ∈ endpoints, Word name.toList) {c : Counter} (listed : c ∈ counters endpoints) :
    c.Words := by
  have busWords : ∀ field ∈ busFields, Word field.toList := by decide
  have frameWords : ∀ field ∈ frameFields, Word field.toList := by decide
  have endpointWords : ∀ field ∈ endpointFields, Word field.toList := by decide
  rcases mem_counters.mp listed with ⟨field, known, rfl⟩ | ⟨type, named, field, known, rfl⟩ |
    ⟨name, named, field, known, rfl⟩
  · exact busWords field known
  · exact ⟨typeNames_words type named, frameWords field known⟩
  · exact ⟨words name named, endpointWords field known⟩

theorem safe_of_mem {c : Counter} (listed : c ∈ counters endpoints) : Safe c.path := by
  rcases mem_counters.mp listed with ⟨field, _, rfl⟩ | ⟨type, _, field, known, rfl⟩ | ⟨name, _, field, known, rfl⟩
  · exact ⟨nofun, nofun⟩
  · have other : ∀ field ∈ frameFields, field ≠ "type" := by decide
    refine ⟨nofun, ?_, nofun⟩
    rintro _ _ _ ⟨⟩
    exact other field known
  · have other : ∀ field ∈ endpointFields, field ≠ "name" := by decide
    refine ⟨nofun, ?_, nofun⟩
    rintro _ _ _ ⟨⟩
    exact other field known

/-- Paths into one object part at their fields. -/
theorem pairwise_fields {make : String → Counter} {fields : List String} (distinct : fields.Nodup)
    (apart : ∀ field field', field ≠ field' → Diverge (make field).path (make field').path) :
    (fields.map make).Pairwise fun c c' => Diverge c.path c'.path := by
  rw [List.pairwise_map]
  exact distinct.imp fun {field field'} => apart field field'

/-- Paths into entries of one array part at the entries. -/
theorem pairwise_entries {make : String → String → Counter} {entries fields : List String} (distinct : entries.Nodup)
    (distinctFields : fields.Nodup)
    (apartFields : ∀ entry field field', field ≠ field' → Diverge (make entry field).path (make entry field').path)
    (apart : ∀ entry entry' field field', entry ≠ entry' →
      Diverge (make entry field).path (make entry' field').path) :
    (entries.flatMap fun entry => fields.map (make entry)).Pairwise fun c c' => Diverge c.path c'.path := by
  rw [List.pairwise_flatMap]
  constructor
  · intro entry _
    exact pairwise_fields distinctFields (apartFields entry)
  · apply distinct.imp
    intro entry entry' other c listed c' listed'
    obtain ⟨field, _, rfl⟩ := List.mem_map.mp listed
    obtain ⟨field', _, rfl⟩ := List.mem_map.mp listed'
    exact apart entry entry' field field' other

theorem pairwise_counters (distinct : endpoints.Nodup) :
    (counters endpoints).Pairwise fun c c' => Diverge c.path c'.path := by
  rw [counters, List.pairwise_append, List.pairwise_append]
  have outside : ∀ field ∈ busFields, field ≠ "frames" ∧ field ≠ "endpoints" := by decide
  refine ⟨⟨?_, ?_, ?_⟩, ?_, ?_⟩
  · apply pairwise_fields (by decide)
    intro field field' other
    exact .inr ⟨rfl, .inl (.inl other)⟩
  · apply pairwise_entries typeNames_nodup (by decide)
    · intro type field field' other
      exact .inr ⟨rfl, .inr ⟨rfl, .inl (.inl other)⟩⟩
    · intro type type' field field' other
      exact .inr ⟨rfl, .inl (.inr ⟨_, _, _, _, rfl, rfl, other⟩)⟩
  · intro c listed c' listed'
    obtain ⟨field, known, rfl⟩ := List.mem_map.mp listed
    obtain ⟨type, _, inner⟩ := List.mem_flatMap.mp listed'
    obtain ⟨field', _, rfl⟩ := List.mem_map.mp inner
    exact .inr ⟨rfl, .inl (.inl (outside field known).1)⟩
  · apply pairwise_entries distinct (by decide)
    · intro name field field' other
      exact .inr ⟨rfl, .inr ⟨rfl, .inl (.inl other)⟩⟩
    · intro name name' field field' other
      exact .inr ⟨rfl, .inl (.inr ⟨_, _, _, _, rfl, rfl, other⟩)⟩
  · intro c listed c' listed'
    obtain ⟨name, _, inner⟩ := List.mem_flatMap.mp listed'
    obtain ⟨field', _, rfl⟩ := List.mem_map.mp inner
    rcases List.mem_append.mp listed with ofBus | ofFrames
    · obtain ⟨field, known, rfl⟩ := List.mem_map.mp ofBus
      exact .inr ⟨rfl, .inl (.inl (outside field known).2)⟩
    · obtain ⟨type, _, inner⟩ := List.mem_flatMap.mp ofFrames
      obtain ⟨field, _, rfl⟩ := List.mem_map.mp inner
      exact .inr ⟨rfl, .inl (.inl (by decide : "frames" ≠ "endpoints"))⟩

/-! ## Only words arrive in the tree -/

/-- All strings are words, and the names of members. -/
inductive Worded : Json → Prop
  | null : Worded .null
  | boolean (b : Bool) : Worded (.boolean b)
  | string {s : String} (word : Word s.toList) : Worded (.string s)
  | numberInteger (i : BitVec 64) : Worded (.numberInteger i)
  | numberUnsigned (n : BitVec 64) : Worded (.numberUnsigned n)
  | numberFloat (x : BitVec 64) : Worded (.numberFloat x)
  | array {elems : List Json} (each : ∀ k ∈ elems, Worded k) : Worded (.array elems)
  | object {members : List (String × Json)} (named : ∀ member ∈ members, Word member.1.toList)
      (each : ∀ member ∈ members, Worded member.2) : Worded (.object members)

section Worded

variable {j : Json}

theorem Worded.lookup (worded : Worded j) {key : String} {value : Json} (found : j.members.lookup key = some value) :
    Worded value := by
  obtain ⟨before, after, members, _⟩ := List.lookup_eq_some_iff.mp found
  cases worded with
  | object named each =>
    apply each (key, value)
    have all : _ = before ++ (key, value) :: after := members
    rw [Json.members] at all
    rw [all]
    exact List.mem_append_right _ List.mem_cons_self
  | _ => cases before <;> cases members

theorem Worded.getD (worded : Worded j) (key : String) : Worded ((j.members.lookup key).getD .null) := by
  cases found : j.members.lookup key with
  | none => exact .null
  | some value => exact worded.lookup found

/-- A place holds words, and gives words when words are put there. -/
def KeepsWords (place : Place) : Prop := Worded place.child ∧ ∀ v, Worded v → Worded (place.put v)

theorem Worded.setMember {members : List (String × Json)} (worded : Worded (.object members)) {key : String}
    (word : Word key.toList) {value : Json} (words : Worded value) :
    Worded (.object (setMember key value members)) := by
  cases worded with
  | object named each =>
    apply Worded.object
    · intro member listed
      rcases mem_setMember listed with rfl | old
      · exact word
      · exact named member old
    · intro member listed
      rcases mem_setMember listed with rfl | old
      · exact words
      · exact each member old

theorem worded_singleton {key : String} (word : Word key.toList) {value : Json} (words : Worded value) :
    Worded (.object [(key, value)]) := by
  apply Worded.object
  · exact List.forall_mem_singleton.mpr word
  · exact List.forall_mem_singleton.mpr words

theorem memberPlace_words {tag : String} (word : Word tag.toList) {place : Place} (worded : Worded j)
    (found : memberPlace tag j = .ok place) : KeepsWords place := by
  have child := memberPlace_child found
  refine ⟨child ▸ worded.getD tag, ?_⟩
  intro v words
  cases worded with
  | object named each =>
    cases found
    exact (Worded.object named each).setMember word words
  | null =>
    cases found
    exact worded_singleton word words
  | _ => cases found

theorem entryPlace_words {arg argValue : String} (argWord : Word arg.toList) (word : Word argValue.toList)
    {place : Place} (worded : Worded j) (found : entryPlace arg argValue j = .ok place) : KeepsWords place := by
  have fresh : Worded (.object [(arg, .string argValue)]) := worded_singleton argWord (.string word)
  cases worded with
  | null =>
    cases found
    refine ⟨fresh, ?_⟩
    intro v words
    apply Worded.array
    intro k listed
    cases List.mem_singleton.mp listed
    exact words
  | array each =>
    rw [entryPlace] at found
    split at found
    · next elems i index =>
      cases found
      obtain ⟨bound, _, _⟩ := List.findIdx?_eq_some_iff_getElem.mp index
      constructor
      · rw [List.getD_eq_getElem?_getD, List.getElem?_eq_getElem bound]
        exact each _ (List.getElem_mem bound)
      · intro v words
        apply Worded.array
        intro k listed
        rcases List.mem_or_eq_of_mem_set listed with old | rfl
        · exact each k old
        · exact words
    · cases found
      refine ⟨fresh, ?_⟩
      intro v words
      apply Worded.array
      intro k listed
      rcases List.mem_append.mp listed with old | new
      · exact each k old
      · cases List.mem_singleton.mp new
        exact words
  | object named each =>
    rw [entryPlace] at found
    split at found
    · next key k member =>
      cases found
      have listed := List.mem_of_find?_eq_some member
      exact ⟨each _ listed, fun v words => (Worded.object named each).setMember (named _ listed) words⟩
    · cases found
  | _ => cases found

/-- The groups of a match are words. -/
def Token.Worded : Token → Prop
  | .member tag => Word tag.toList
  | .entry tag arg argValue => Word tag.toList ∧ Word arg.toList ∧ Word argValue.toList

/-- What is taken of a text is a word if it is not empty. -/
theorem word_takeWhile {text : List Char} (filled : text.takeWhile isWord ≠ []) :
    Word (String.ofList (text.takeWhile isWord)).toList := by
  rw [String.toList_ofList]
  exact ⟨filled, List.all_eq_true.mp List.all_takeWhile⟩

theorem bracket?_word {text : List Char} {arg argValue : String} (found : bracket? text = some (arg, argValue)) :
    Word arg.toList ∧ Word argValue.toList := by
  unfold bracket? at found
  split at found
  · next rest =>
    dsimp only at found
    split at found
    · next rest' _ =>
      split at found
      · obtain ⟨filled, same⟩ := Option.ite_none_left_eq_some.mp found
        cases same
        exact ⟨word_takeWhile (not_or.mp filled).1, word_takeWhile (not_or.mp filled).2⟩
      · cases found
    · cases found
  · cases found

theorem tokens_worded (name : String) : ∀ t ∈ tokens name, t.Worded := by
  intro t listed
  obtain ⟨text, _, found⟩ := List.mem_filterMap.mp listed
  unfold regexSearch at found
  dsimp only at found
  split at found
  · cases found
  · next filled =>
    have tag : (text.dropWhile (!isWord ·)).takeWhile isWord ≠ [] := by
      have first := List.head_dropWhile_not (!isWord ·) filled
      rw [Bool.not_eq_false'] at first
      rw [← List.cons_head_tail filled, List.takeWhile_cons_of_pos first]
      exact List.cons_ne_nil _ _
    split at found
    · next arg argValue bracket =>
      cases found
      exact ⟨word_takeWhile tag, bracket?_word bracket⟩
    · cases found
      exact word_takeWhile tag

theorem place_words {t : Token} (word : t.Worded) {place : Place} (worded : Worded j)
    (found : t.place j = .ok place) : KeepsWords place := by
  cases t with
  | member tag => exact memberPlace_words word worded found
  | entry tag arg argValue =>
    obtain ⟨outer, first, found⟩ := bind_eq_ok.mp found
    obtain ⟨inner, second, found⟩ := bind_eq_ok.mp found
    cases found
    have outerWords := memberPlace_words word.1 worded first
    have innerWords := entryPlace_words word.2.1 word.2.2 outerWords.1 second
    exact ⟨innerWords.1, fun v words => outerWords.2 _ (innerWords.2 v words)⟩

theorem insert_words {value : BitVec 64} {ts : List Token} (words : ∀ t ∈ ts, t.Worded) {next : Json}
    (worded : Worded j) (inserted : insert value ts j = .ok next) : Worded next := by
  induction ts generalizing j next with
  | nil =>
    cases inserted
    exact .numberUnsigned value
  | cons t ts ih =>
    obtain ⟨place, found, inserted⟩ := bind_eq_ok.mp inserted
    obtain ⟨inner, below, inserted⟩ := bind_eq_ok.mp inserted
    cases inserted
    have keeps := place_words (words t List.mem_cons_self) worded found
    apply keeps.2
    exact ih (fun t listed => words t (List.mem_cons_of_mem _ listed)) keeps.1 below

theorem foldlM_words {counterMap : List (String × BitVec 64)} (worded : Worded j) {next : Json}
    (ended : counterMap.foldlM (fun j (name, value) => insert value (tokens name) j) j = .ok next) : Worded next := by
  induction counterMap generalizing j with
  | nil =>
    cases ended
    exact worded
  | cons counter counterMap ih =>
    rw [List.foldlM_cons] at ended
    obtain ⟨middle, inserted, ended⟩ := bind_eq_ok.mp ended
    exact ih (insert_words (tokens_worded counter.1) worded inserted) ended

theorem metricsToJson_words {uptime : BitVec 64} {counterMap : List (String × BitVec 64)}
    (ended : metricsToJson uptime counterMap = .ok j) : Worded j := by
  refine foldlM_words (worded_singleton ?_ (.numberInteger uptime)) ended
  decide

end Worded

/-- The counters are put together without an exception, and each of them is found at its own place: the one
object with the name of its endpoint or type of frame has its value. -/
def Placed (uptime : BitVec 64) (endpoints : List String) (counterMap : List (String × BitVec 64)) : Prop :=
  ∃ j, metricsToJson uptime counterMap = .ok j ∧
    ∀ c ∈ counters endpoints, ∀ value, (c.name, value) ∈ counterMap →
      readPath c.path j = some (.numberUnsigned value)

section Placed

variable {uptime : BitVec 64} {counterMap : List (String × BitVec 64)}

theorem Placed.words (made : (counterMap.map Prod.fst).Perm (counterNames endpoints))
    (placed : Placed uptime endpoints counterMap) : ∀ name ∈ endpoints, Word name.toList := by
  intro name named
  obtain ⟨j, ended, found⟩ := placed
  have listed : Counter.endpoint name "send_frames" ∈ counters endpoints :=
    mem_counters.mpr (.inr (.inr ⟨name, named, "send_frames", List.mem_cons_self, rfl⟩))
  have entered : (Counter.endpoint name "send_frames").name ∈ counterMap.map Prod.fst := by
    rw [made.mem_iff, ← map_name_counters]
    exact List.mem_map.mpr ⟨_, listed, rfl⟩
  obtain ⟨⟨_, value⟩, counted, rfl⟩ := List.mem_map.mp entered
  have read := found _ listed value counted
  obtain ⟨bus, inBus, read⟩ := Option.bind_eq_some_iff.mp read
  obtain ⟨entry, inArray, _⟩ := Option.bind_eq_some_iff.mp read
  have busWorded : Worded bus := (metricsToJson_words ended).lookup inBus
  rw [Token.read, theEntry] at inArray
  split at inArray
  · next k one =>
    have member : k ∈ [k] := List.mem_cons_self
    rw [← one] at member
    obtain ⟨inside, chosen⟩ := List.mem_filter.mp member
    cases array : bus.members.lookup "endpoints" with
    | none =>
      rw [array] at inside
      exact absurd inside List.not_mem_nil
    | some child =>
      rw [array] at inside
      have childWorded := busWorded.lookup array
      cases childWorded with
      | array each =>
        have named := (each k inside).lookup (isEntry_iff.mp chosen)
        cases named with
        | string word => exact word
      | _ => exact absurd inside List.not_mem_nil
  · cases inArray

theorem Placed.of_words (distinct : endpoints.Nodup) (made : (counterMap.map Prod.fst).Perm (counterNames endpoints))
    (words : ∀ name ∈ endpoints, Word name.toList) : Placed uptime endpoints counterMap := by
  have counter {entry : String × BitVec 64} (counted : entry ∈ counterMap) :
      ∃ c ∈ counters endpoints, entry.1 = c.name ∧ tokens entry.1 = c.path := by
    have entered : entry.1 ∈ (counters endpoints).map Counter.name := by
      rw [map_name_counters, ← made.mem_iff]
      exact List.mem_map.mpr ⟨entry, counted, rfl⟩
    obtain ⟨c, listed, same⟩ := List.mem_map.mp entered
    exact ⟨c, listed, same.symm, same ▸ Counter.tokens_name (words_of_mem words listed)⟩
  have apart : counterMap.Pairwise fun c c' => Diverge (tokens c.1) (tokens c'.1) := by
    have pairs : (counters endpoints).Pairwise fun c c' => Diverge (tokens c.name) (tokens c'.name) := by
      apply (pairwise_counters distinct).imp_of_mem
      intro c c' listed listed' parts
      rwa [Counter.tokens_name (words_of_mem words listed), Counter.tokens_name (words_of_mem words listed')]
    have names : (counterNames endpoints).Pairwise fun n n' => Diverge (tokens n) (tokens n') := by
      rw [← map_name_counters, List.pairwise_map]
      exact pairs
    have keys := (made.pairwise_iff fun {n n'} (parts : Diverge (tokens n) (tokens n')) => parts.symm).mpr names
    rw [List.pairwise_map] at keys
    exact keys
  have safe : ∀ entry ∈ counterMap, Safe (tokens entry.1) := by
    intro entry counted
    obtain ⟨c, listed, _, path⟩ := counter counted
    rw [path]
    exact safe_of_mem listed
  have room : ∀ entry ∈ counterMap, PathRoom (tokens entry.1) (.object [("uptime", .numberInteger uptime)]) := by
    intro entry counted
    obtain ⟨c, listed, _, path⟩ := counter counted
    apply pathRoom_of_absent (safe entry counted) (.inr ⟨_, rfl⟩)
    rw [path]
    intro t first
    have bus : t.tag = "bus" := by
      cases c with
      | _ =>
        cases first
        rfl
    rw [bus]
    rfl
  obtain ⟨j, ended, found, _⟩ := foldlM_room safe apart room
  refine ⟨j, ended, ?_⟩
  intro c listed value counted
  rw [← Counter.tokens_name (words_of_mem words listed)]
  exact found (c.name, value) counted

/-- In whatever order the counters are kept: every one is at its place exactly if the names of the endpoints
are words. -/
theorem placed_iff (uptime : BitVec 64) (endpoints : List String) (distinct : endpoints.Nodup)
    (counterMap : List (String × BitVec 64)) (made : (counterMap.map Prod.fst).Perm (counterNames endpoints)) :
    Placed uptime endpoints counterMap ↔ ∀ name ∈ endpoints, Word name.toList := by
  constructor
  · exact Placed.words made
  · exact Placed.of_words distinct made

end Placed

/-- Counters that were made and count nothing yet. -/
def fresh (endpoints : List String) : List (String × BitVec 64) := (counterNames endpoints).map (·, 0)

theorem map_fst_fresh (endpoints : List String) : (fresh endpoints).map Prod.fst = counterNames endpoints := by
  rw [fresh, List.map_map]
  exact List.map_id _

theorem placed_can0 : Placed 0 ["can0", "usb-1"] (fresh ["can0", "usb-1"]) :=
  (placed_iff 0 ["can0", "usb-1"] (by decide) (fresh ["can0", "usb-1"]) (by rw [map_fst_fresh])).mpr (by decide)

/-- The dot is taken for the end of a token. -/
theorem not_placed_dot : ¬Placed 0 ["can0.main"] (fresh ["can0.main"]) := by
  intro placed
  have words := placed.words (by rw [map_fst_fresh])
  exact absurd (words "can0.main" List.mem_cons_self) (by decide)

end H9d.MetricsCollector
