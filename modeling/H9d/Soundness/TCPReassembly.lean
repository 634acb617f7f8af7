import H9d.Model.TCPReceiver

/-! # Messages are put together again

The reader that keeps the bytes of the unfinished message says what is delivered from a stream, and
the buffers of the socket hold these bytes. So both the texts and the places of all writes are known
after any number of calls, wherever the operating system cuts the stream.
-/

namespace H9d.TCPSocket

open H9Frame Machine Cxx

/-- What both ends send: no text is empty, holds a zero or has a length that the header cannot tell. -/
structure Sendable (text : List Byte) : Prop where
  nonempty : text ≠ []
  plain : 0 ∉ text
  short : text.length < 2 ^ 32

section Reading

variable {r : Reader} {stream bytes : List Byte} {texts : List (List Byte)}

/-- The reader is at a place of the stream: inside a header, or inside a text whose length it knows. -/
structure Reads (r : Reader) (stream : List Byte) (texts : List (List Byte)) : Prop where
  bytes : r.received ++ stream = texts.flatMap encode
  place : (r.received.length < 4 ∧ r.bytesToRecv = 4) ∨
    ∃ text later, texts = text :: later ∧ 4 ≤ r.received.length ∧ r.received.length < r.bytesToRecv ∧
      r.bytesToRecv = 4 + text.length

theorem length_header (size : ℕ) : (header size).length = 4 := rfl

theorem ntohl_header {size : ℕ} (short : size < 2 ^ 32) : Reader.ntohl (header size) = size := by
  simp only [Reader.ntohl, header, List.foldl_cons, List.foldl_nil, BitVec.toNat_ofNat]
  omega

theorem Reads.start (texts : List (List Byte)) : Reads Reader.initial (texts.flatMap encode) texts :=
  ⟨rfl, .inl ⟨Nat.zero_lt_succ 3, rfl⟩⟩

theorem Reads.wanted (reads : Reads r stream texts) :
    r.received.length < 4 ∨ 4 ≤ r.received.length ∧ r.received.length < r.bytesToRecv := by
  rcases reads.place with ⟨inside, -⟩ | ⟨_, _, -, header, text, -⟩
  · exact .inl inside
  · exact .inr ⟨header, text⟩

theorem recv_inside_header (inside : r.received.length < 4) (given : bytes ≠ []) :
    r.recv (.data bytes) = (⟨r.received ++ bytes, if (r.received ++ bytes).length = 4 then
      r.bytesToRecv + Reader.ntohl (r.received ++ bytes) else r.bytesToRecv⟩, none) := by
  obtain ⟨first, rest, rfl⟩ := List.exists_cons_of_ne_nil given
  exact if_pos inside

theorem recv_inside_text (inside : 4 ≤ r.received.length) (given : bytes ≠ []) :
    r.recv (.data bytes) = if (r.received ++ bytes).length < r.bytesToRecv then
      (⟨r.received ++ bytes, r.bytesToRecv⟩, none)
    else (Reader.initial, some (.msg (((r.received ++ bytes).drop 4).takeWhile (· ≠ 0)))) := by
  obtain ⟨first, rest, rfl⟩ := List.exists_cons_of_ne_nil given
  exact if_neg (by omega)

/-- Bytes of a header. -/
theorem Reads.recv_header (reads : Reads r (bytes ++ stream) texts) (sendable : ∀ text ∈ texts, Sendable text)
    (inside : r.received.length < 4) (given : bytes ≠ []) (fits : bytes.length ≤ 4 - r.received.length) :
    ∃ next, r.recv (.data bytes) = (next, none) ∧ Reads next stream texts := by
  have received := reads.bytes
  rw [← List.append_assoc] at received
  refine ⟨_, recv_inside_header inside given, received, ?_⟩
  have four : r.bytesToRecv = 4 := by
    rcases reads.place with ⟨-, four⟩ | ⟨_, _, -, header, -, -⟩
    · exact four
    · omega
  have length : (r.received ++ bytes).length = r.received.length + bytes.length := List.length_append
  dsimp only
  by_cases complete : (r.received ++ bytes).length = 4
  · rw [if_pos complete]
    cases texts with
    | nil =>
      have none : (r.received ++ bytes).length + stream.length = 0 := by
        rw [← List.length_append, received]
        rfl
      omega
    | cons text later =>
      obtain ⟨nonempty, -, short⟩ := sendable text List.mem_cons_self
      have size := List.length_pos_iff.mpr nonempty
      rw [List.flatMap_cons, encode, List.append_assoc (header _)] at received
      obtain ⟨same, -⟩ := List.append_inj received (complete.trans (length_header _).symm)
      refine .inr ⟨text, later, rfl, by omega, ?_, ?_⟩ <;> rw [same, ntohl_header short]
      · rw [length_header]
        omega
      · omega
  · rw [if_neg complete]
    exact .inl ⟨by omega, four⟩

/-- Bytes of a text. -/
theorem Reads.recv_text (reads : Reads r (bytes ++ stream) texts) (sendable : ∀ text ∈ texts, Sendable text)
    (inside : 4 ≤ r.received.length) (given : bytes ≠ [])
    (fits : bytes.length ≤ r.bytesToRecv - r.received.length) :
    (∃ next, r.recv (.data bytes) = (next, none) ∧ Reads next stream texts) ∨
      ∃ text later, texts = text :: later ∧ r.recv (.data bytes) = (Reader.initial, some (.msg text)) ∧
        Reads Reader.initial stream later := by
  have received := reads.bytes
  rw [← List.append_assoc] at received
  obtain ⟨text, later, rfl, -, before, size⟩ : ∃ text later, texts = text :: later ∧
      4 ≤ r.received.length ∧ r.received.length < r.bytesToRecv ∧ r.bytesToRecv = 4 + text.length := by
    rcases reads.place with ⟨header, -⟩ | text
    · omega
    · exact text
  have length : (r.received ++ bytes).length = r.received.length + bytes.length := List.length_append
  rw [recv_inside_text inside given]
  by_cases unfinished : (r.received ++ bytes).length < r.bytesToRecv
  · rw [if_pos unfinished]
    exact .inl ⟨_, rfl, received, .inr ⟨text, later, rfl, by dsimp only; omega, unfinished, size⟩⟩
  · rw [if_neg unfinished]
    rw [List.flatMap_cons] at received
    have encoded : (encode text).length = 4 + text.length := by
      rw [encode, List.length_append, length_header]
    have complete : (r.received ++ bytes).length = (encode text).length := by omega
    obtain ⟨same, left⟩ := List.append_inj received complete
    refine .inr ⟨text, later, rfl, ?_, left ▸ Reads.start later⟩
    have plain : ∀ b ∈ text, decide (b ≠ 0) = true := by
      intro b member
      refine decide_eq_true fun zero => ?_
      exact (sendable text List.mem_cons_self).plain (zero ▸ member)
    rw [same, encode, List.drop_left' (length_header _), List.takeWhile_eq_self_iff.mpr plain]

end Reading

section Buffers

variable {s : Receiver} {r next : Reader} {bytes : List Byte}

/-- The buffers begin with the bytes of the unfinished message and have room for all of it. -/
structure Represents (s : Receiver) (r : Reader) : Prop where
  recvBytes : s.recvBytes = r.received.length
  bytesToRecv : s.bytesToRecv = r.bytesToRecv
  header : (r.received.take 4).map some <+: s.headerBuf
  text : (r.received.drop 4).map some <+: s.dataBuf
  headerSize : s.headerBuf.length = 4
  textSize : s.dataBuf.length = s.dataBufLen + 1
  room : r.bytesToRecv ≤ 4 + s.dataBufLen

theorem represents_new : Represents Receiver.new Reader.initial where
  recvBytes := rfl
  bytesToRecv := rfl
  header := List.nil_prefix
  text := List.nil_prefix
  headerSize := Buffer.length_malloc 4
  textSize := Buffer.length_malloc (4096 + 1)
  room := by decide

/-- Bytes of a header go where the reader puts them, and the last one makes room for the text. -/
theorem Represents.recvHeader (represents : Represents s r) (inside : r.received.length < 4)
    (four : r.bytesToRecv = 4) (given : bytes ≠ []) (fits : bytes.length ≤ 4 - r.received.length)
    (received : r.recv (.data bytes) = (next, none)) :
    ∃ t, s.recvHeader bytes = some t ∧ Represents t next := by
  obtain ⟨recvBytes, bytesToRecv, header, text, headerSize, textSize, room⟩ := represents
  rw [recv_inside_header inside given] at received
  obtain ⟨rfl, -⟩ := Prod.mk.inj received
  have length : (r.received ++ bytes).length = r.received.length + bytes.length := List.length_append
  rw [List.take_of_length_le (by omega)] at header
  obtain ⟨headerBuf, written, size, begins⟩ := Buffer.write_of_prefix header bytes (by omega)
  have header : ((r.received ++ bytes).take 4).map some <+: headerBuf := by
    rw [List.take_of_length_le (by omega)]
    exact begins
  have text (b : Buffer Byte) : ((r.received ++ bytes).drop 4).map some <+: b := by
    rw [List.drop_of_length_le (by omega)]
    exact List.nil_prefix
  rw [Receiver.recvHeader, recvBytes, written]
  dsimp only [Option.bind_eq_bind, Option.bind_some]
  rw [← length]
  by_cases complete : (r.received ++ bytes).length = 4
  · rw [if_pos complete, if_pos complete]
    have filled : headerBuf = (r.received ++ bytes).map some := by
      refine (begins.eq_of_length ?_).symm
      rw [List.length_map]
      omega
    have value : headerBuf.load = some (r.received ++ bytes) := by
      rw [filled]
      exact Buffer.load_map_some _
    rw [value, bytesToRecv]
    dsimp only [Option.map_some, Option.bind_some]
    by_cases grows : s.dataBufLen < Reader.ntohl (r.received ++ bytes)
    · refine ⟨_, if_pos grows, rfl, rfl, header, text _, size.trans headerSize, ?_, ?_⟩
      · exact Buffer.length_realloc _ _
      · dsimp only
        omega
    · refine ⟨_, if_neg grows, rfl, rfl, header, text _, size.trans headerSize, textSize, ?_⟩
      dsimp only
      omega
  · rw [if_neg complete, if_neg complete]
    exact ⟨_, rfl, rfl, bytesToRecv, header, text _, size.trans headerSize, textSize, room⟩

/-- Bytes of a text go where the reader puts them. -/
theorem Represents.recvData (represents : Represents s r) (inside : 4 ≤ r.received.length)
    (given : bytes ≠ []) (fits : r.received.length + bytes.length ≤ r.bytesToRecv)
    {received : Option Received} (step : r.recv (.data bytes) = (next, received)) :
    ∃ t, s.recvData (.data bytes) = some (received.getD (.error EAGAIN), t) ∧ Represents t next := by
  obtain ⟨recvBytes, bytesToRecv, header, text, headerSize, textSize, room⟩ := represents
  rw [recv_inside_text inside given] at step
  have length : (r.received ++ bytes).length = r.received.length + bytes.length := List.length_append
  have start : s.recvBytes - 4 = (r.received.drop 4).length := by
    rw [List.length_drop, recvBytes]
  have joined : r.received.drop 4 ++ bytes = (r.received ++ bytes).drop 4 :=
    (List.drop_append_of_le_length inside).symm
  obtain ⟨dataBuf, written, size, begins⟩ := Buffer.write_of_prefix text bytes (by
    rw [List.length_drop]
    omega)
  rw [joined] at begins
  have header : ((r.received ++ bytes).take 4).map some <+: s.headerBuf := by
    rw [List.take_append_of_le_length inside]
    exact header
  have data : s.recvData (.data bytes) =
      Receiver.finish { s with dataBuf, recvBytes := s.recvBytes + bytes.length } := by
    obtain ⟨first, rest, rfl⟩ := List.exists_cons_of_ne_nil given
    change Option.bind _ _ = _
    rw [start, written]
    rfl
  rw [data, Receiver.finish]
  dsimp only
  rw [recvBytes, bytesToRecv, ← length]
  by_cases unfinished : (r.received ++ bytes).length < r.bytesToRecv
  · rw [if_pos unfinished] at step ⊢
    obtain ⟨rfl, rfl⟩ := Prod.mk.inj step
    exact ⟨_, rfl, rfl, rfl, header, begins, headerSize, size.trans textSize, room⟩
  · rw [if_neg unfinished] at step ⊢
    obtain ⟨rfl, rfl⟩ := Prod.mk.inj step
    have finish : (r.received ++ bytes).length - 4 = ((r.received ++ bytes).drop 4).length := by
      rw [List.length_drop]
    obtain ⟨ended, zero, endedSize, endedBegins⟩ := Buffer.write_of_prefix begins [0] (by
      rw [List.length_drop, List.length_singleton]
      omega)
    rw [finish, zero, Option.bind_eq_bind, Option.bind_some, Option.bind_eq_bind,
      Buffer.cString_of_prefix endedBegins]
    exact ⟨_, rfl, rfl, rfl, List.nil_prefix, List.nil_prefix, headerSize,
      endedSize.trans (size.trans textSize), Nat.le_add_right 4 _⟩

end Buffers

/-- Either nothing comes, or bytes are taken from the front of the stream. -/
theorem sysRecv_cases {asked : ℕ} (some : 0 < asked) (ready : Option ℕ) (stream : List Byte) :
    (sysRecv asked ready stream = (.error EAGAIN, stream) ∧ (ready = none ∨ stream = [])) ∨
      ∃ bytes rest, sysRecv asked ready stream = (.data bytes, rest) ∧ bytes ≠ [] ∧
        bytes.length ≤ asked ∧ stream = bytes ++ rest := by
  unfold sysRecv
  split
  · exact .inl ⟨rfl, .inl rfl⟩
  · exact .inl ⟨rfl, .inr rfl⟩
  · next more nonempty =>
    have size : 0 < stream.length := List.length_pos_iff.mpr nonempty
    refine .inr ⟨_, _, rfl, ?_, ?_, (List.take_append_drop _ stream).symm⟩
    · rw [← List.length_pos_iff, List.length_take]
      omega
    · rw [List.length_take]
      omega

section Calls

variable {s : Receiver} {stream : List Byte} {texts : List (List Byte)}

/-- The socket is at a place of the stream. -/
def Tracks (s : Receiver) (stream : List Byte) (texts : List (List Byte)) : Prop :=
  ∃ r, Represents s r ∧ Reads r stream texts

/-- What a call returns, with the texts that are still to come. -/
def Delivers (texts : List (List Byte)) (received : Received) (later : List (List Byte)) : Prop :=
  (received = .error EAGAIN ∧ later = texts) ∨ ∃ text, received = .msg text ∧ texts = text :: later

/-- A call that does not get `EAGAIN` at once takes bytes from the stream, if there are any. -/
def Shortens (ready : Option ℕ) (stream left : List Byte) : Prop :=
  left.length ≤ stream.length ∧ (ready ≠ none → stream ≠ [] → left.length < stream.length)

theorem Shortens.of_append {bytes left : List Byte} (given : bytes ≠ []) (ready : Option ℕ) :
    Shortens ready (bytes ++ left) left := by
  have size := List.length_pos_iff.mpr given
  rw [Shortens, List.length_append]
  exact ⟨by omega, fun _ _ => by omega⟩

theorem Shortens.of_again {ready : Option ℕ} (again : ready = none ∨ stream = []) :
    Shortens ready stream stream := by
  refine ⟨le_rfl, fun ready nonempty => ?_⟩
  rcases again with none | empty
  · exact absurd none ready
  · exact absurd empty nonempty

theorem recvText_spec {r : Reader} (represents : Represents s r) (reads : Reads r stream texts)
    (sendable : ∀ text ∈ texts, Sendable text) (inside : 4 ≤ r.received.length) (ready : Option ℕ) :
    ∃ received t left later, s.recvText ready stream = some (received, t, left) ∧
      Delivers texts received later ∧ Tracks t left later ∧ Shortens ready stream left := by
  have wanted : r.received.length < r.bytesToRecv := by
    rcases reads.wanted with header | ⟨-, text⟩
    · omega
    · exact text
  have asked : s.bytesToRecv - s.recvBytes = r.bytesToRecv - r.received.length := by
    rw [represents.bytesToRecv, represents.recvBytes]
  rw [Receiver.recvText, asked]
  rcases sysRecv_cases (Nat.sub_pos_of_lt wanted) ready stream with ⟨again, empty⟩ | ⟨bytes, rest, data, given, fits, rfl⟩
  · rw [again]
    exact ⟨_, s, stream, texts, rfl, .inl ⟨rfl, rfl⟩, ⟨r, represents, reads⟩, .of_again empty⟩
  · rw [data]
    rcases reads.recv_text sendable inside given fits with ⟨next, step, reads'⟩ |
      ⟨text, later, rfl, step, reads'⟩ <;>
      obtain ⟨t, written, represents'⟩ := represents.recvData inside given (by omega) step
    · refine ⟨_, t, rest, texts, ?_, .inl ⟨rfl, rfl⟩, ⟨next, represents', reads'⟩, .of_append given ready⟩
      dsimp only
      rw [written]
      rfl
    · refine ⟨_, t, rest, later, ?_, .inr ⟨text, rfl, rfl⟩, ⟨_, represents', reads'⟩, .of_append given ready⟩
      dsimp only
      rw [written]
      rfl

/-- One call of `TCPSocket::recv`. -/
theorem recv_spec (tracks : Tracks s stream texts) (sendable : ∀ text ∈ texts, Sendable text)
    (first second : Option ℕ) :
    ∃ received t left later, s.recv first second stream = some (received, t, left) ∧
      Delivers texts received later ∧ Tracks t left later ∧ Shortens first stream left := by
  obtain ⟨r, represents, reads⟩ := tracks
  rw [Receiver.recv, represents.recvBytes]
  by_cases inside : r.received.length < 4
  · rw [if_pos inside]
    have four : r.bytesToRecv = 4 := by
      rcases reads.place with ⟨-, four⟩ | ⟨_, _, -, header, -, -⟩
      · exact four
      · omega
    rcases sysRecv_cases (Nat.sub_pos_of_lt inside) first stream with ⟨again, empty⟩ | ⟨bytes, rest, data, given, fits, rfl⟩
    · rw [again]
      exact ⟨_, s, stream, texts, rfl, .inl ⟨rfl, rfl⟩, ⟨r, represents, reads⟩, .of_again empty⟩
    · obtain ⟨next, step, reads'⟩ := reads.recv_header sendable inside given fits
      obtain ⟨t, written, represents'⟩ := represents.recvHeader inside four given fits step
      have shortens : Shortens first (bytes ++ rest) rest := .of_append given first
      rw [data]
      obtain ⟨b, bytes, rfl⟩ := List.exists_cons_of_ne_nil given
      dsimp only
      rw [written]
      dsimp only [Option.bind_eq_bind, Option.bind_some]
      rw [represents'.recvBytes]
      by_cases complete : 4 ≤ next.received.length
      · rw [if_pos complete]
        obtain ⟨received, u, left, later, text, delivers, tracks, shorter⟩ :=
          recvText_spec represents' reads' sendable complete second
        refine ⟨received, u, left, later, text, delivers, tracks, ?_, fun ready nonempty => ?_⟩
        · exact shorter.1.trans shortens.1
        · exact shorter.1.trans_lt (shortens.2 ready nonempty)
      · rw [if_neg complete]
        have unfinished : t.recvBytes < t.bytesToRecv := by
          have four : next.bytesToRecv = 4 := by
            rcases reads'.place with ⟨-, four⟩ | ⟨_, _, -, header, -, -⟩
            · exact four
            · omega
          rw [represents'.recvBytes, represents'.bytesToRecv, four]
          omega
        rw [Receiver.finish, if_pos unfinished]
        exact ⟨_, t, rest, texts, rfl, .inl ⟨rfl, rfl⟩, ⟨next, represents', reads'⟩, shortens⟩
  · rw [if_neg inside]
    exact recvText_spec represents reads sendable (by omega) first

end Calls

section Runs

variable {texts : List (List Byte)} {s : Link}

/-- Where the connection is: the texts that were returned, and then those that are still in the
buffers and in the stream. -/
structure Delivered (texts : List (List Byte)) (s : Link) : Prop where
  returned : ∀ received ∈ s.returned, received = .error EAGAIN ∨ ∃ text, received = .msg text
  later : ∃ later, texts = s.delivered ++ later ∧ Tracks s.socket s.stream later

theorem delivered_connected (texts : List (List Byte)) : Delivered texts (connected texts) where
  returned := nofun
  later := ⟨texts, rfl, Reader.initial, represents_new, Reads.start texts⟩

/-- One call keeps the place, and takes a byte when it finds one. -/
theorem Delivered.step (delivered : Delivered texts s) (sendable : ∀ text ∈ texts, Sendable text)
    (call : RecvCall) :
    ∃ t, (receiving texts).step? s call = some t ∧ Delivered texts t ∧
      Shortens call.first s.stream t.stream := by
  obtain ⟨returned, later, all, tracks⟩ := delivered
  have laterSendable : ∀ text ∈ later, Sendable text := by
    intro text member
    apply sendable
    rw [all]
    exact List.mem_append_right _ member
  obtain ⟨received, socket, left, rest, step, delivers, next, shortens⟩ :=
    recv_spec tracks laterSendable call.first call.second
  refine ⟨{ socket, stream := left, returned := s.returned ++ [received] }, ?_, ⟨?_, rest, ?_, next⟩, shortens⟩
  · change Option.bind _ _ = _
    rw [step]
    rfl
  · intro other member
    rcases List.mem_append.mp member with before | now
    · exact returned other before
    · obtain rfl := List.mem_singleton.mp now
      rcases delivers with ⟨again, -⟩ | ⟨text, msg, -⟩
      · exact .inl again
      · exact .inr ⟨text, msg⟩
  · rw [Link.delivered, List.filterMap_append]
    rcases delivers with ⟨rfl, rfl⟩ | ⟨text, rfl, rfl⟩
    · rw [all]
      exact congrArg (· ++ rest) (List.append_nil _).symm
    · rw [all]
      exact (List.append_assoc s.delivered [text] rest).symm

/-- Any number of calls, each of which takes a byte when it finds one. -/
theorem Delivered.run (delivered : Delivered texts s) (sendable : ∀ text ∈ texts, Sendable text)
    (calls : List RecvCall) :
    ∃ t, (receiving texts).run? s calls = some t ∧ Delivered texts t ∧
      (t.stream = [] ∨
        t.stream.length + calls.countP (fun call => call.first.isSome) ≤ s.stream.length) := by
  induction calls generalizing s with
  | nil => exact ⟨s, rfl, delivered, .inr le_rfl⟩
  | cons call calls ih =>
    obtain ⟨middle, step, placed, fewer, progress⟩ := delivered.step sendable call
    obtain ⟨t, run, final, used⟩ := ih placed
    refine ⟨t, LabeledMachine.run?_cons_eq_some.mpr ⟨middle, step, run⟩, final, ?_⟩
    rcases used with empty | used
    · exact .inl empty
    by_cases consumed : s.stream = []
    · rw [consumed, List.length_nil] at fewer
      exact .inl (List.length_eq_zero_iff.mp (by omega))
    · refine .inr ?_
      rw [List.countP_cons]
      cases ready : call.first with
      | none =>
        rw [if_neg (by simp)]
        omega
      | some more =>
        have taken := progress (by rw [ready]; exact nofun) consumed
        rw [if_pos Option.isSome_some]
        omega

/-- The bytes of the unfinished message are in the buffers. -/
theorem Tracks.held {socket : Receiver} {stream : List Byte} (tracks : Tracks socket stream texts) :
    ∃ held : List Byte, socket.headerBuf.take socket.recvBytes ++
        socket.dataBuf.take (socket.recvBytes - 4) = held.map some ∧
      held ++ stream = texts.flatMap encode ∧ (stream = [] → texts = []) := by
  obtain ⟨r, represents, reads⟩ := tracks
  have header := List.prefix_iff_eq_take.mp represents.header
  have text := List.prefix_iff_eq_take.mp represents.text
  rw [List.length_map, List.length_take] at header
  rw [List.length_map, List.length_drop] at text
  refine ⟨r.received, ?_, reads.bytes, fun empty => ?_⟩
  · rw [represents.recvBytes, List.take_eq_take_min, represents.headerSize, min_comm, ← header, ← text,
      ← List.map_append, List.take_append_drop]
  · have size := congrArg List.length reads.bytes
    rw [empty, List.append_nil] at size
    rcases reads.place with ⟨inside, -⟩ | ⟨first, later, rfl, -, unfinished, whole⟩
    · cases texts with
      | nil => rfl
      | cons first later =>
        rw [List.flatMap_cons, encode, List.length_append, List.length_append, length_header] at size
        omega
    · rw [List.flatMap_cons, encode, List.length_append, List.length_append, length_header] at size
      omega

/-- However the stream is cut, the calls return the texts of the stream and `EAGAIN` in between, they
write inside the buffers only, and what belongs to the unfinished message stays there. As many calls
as there are bytes, if each of them finds one, return all texts. -/
theorem recv_reassembles (texts : List (List Byte)) (sendable : ∀ text ∈ texts, Sendable text)
    (calls : List RecvCall) :
    ∃ t, (receiving texts).run? (connected texts) calls = some t ∧
      t.socket.dataBuf.length = t.socket.dataBufLen + 1 ∧
      (∀ received ∈ t.returned, received = .error EAGAIN ∨ ∃ text, received = .msg text) ∧
      t.delivered <+: texts ∧
      (∃ held : List Byte,
        t.socket.headerBuf.take t.socket.recvBytes ++ t.socket.dataBuf.take (t.socket.recvBytes - 4) =
          held.map some ∧
        texts.flatMap encode = t.delivered.flatMap encode ++ held ++ t.stream) ∧
      (t.stream = [] → t.delivered = texts) ∧
      ((texts.flatMap encode).length ≤ calls.countP (fun call => call.first.isSome) →
        t.delivered = texts) := by
  obtain ⟨t, run, ⟨returned, later, all, tracks⟩, used⟩ := (delivered_connected texts).run sendable calls
  obtain ⟨held, buffers, bytes, ended⟩ := tracks.held
  obtain ⟨r, represents, -⟩ := tracks
  have finished (empty : t.stream = []) : t.delivered = texts := by
    rw [all, ended empty, List.append_nil]
  refine ⟨t, run, represents.textSize, returned, ⟨later, all.symm⟩, ⟨held, buffers, ?_⟩, finished,
    fun enough => finished ?_⟩
  · conv => lhs; rw [all]
    rw [List.flatMap_append, ← bytes, List.append_assoc]
  · rcases used with empty | used
    · exact empty
    · change t.stream.length + _ ≤ (texts.flatMap encode).length at used
      exact List.length_eq_zero_iff.mp (by omega)

/-- Two texts, received one byte at a time. -/
theorem recv_reassembles_bytewise :
    ∃ t, (receiving [[0x7b, 0x7d], [0x31]]).run? (connected [[0x7b, 0x7d], [0x31]])
        (List.replicate 11 ⟨some 0, none⟩) = some t ∧ t.delivered = [[0x7b, 0x7d], [0x31]] := by
  have sendable : ∀ text ∈ ([[0x7b, 0x7d], [0x31]] : List (List Byte)), Sendable text := by
    intro text member
    rcases List.mem_pair.mp member with rfl | rfl
    · exact ⟨by decide, by decide, by decide⟩
    · exact ⟨by decide, by decide, by decide⟩
  obtain ⟨t, run, -, -, -, -, -, enough⟩ :=
    recv_reassembles [[0x7b, 0x7d], [0x31]] sendable (List.replicate 11 ⟨some 0, none⟩)
  exact ⟨t, run, enough (by decide)⟩

end Runs

end H9d.TCPSocket
