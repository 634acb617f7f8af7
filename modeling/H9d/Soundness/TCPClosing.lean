import H9d.Model.TCPConnection
import H9d.Soundness.TCPSending

/-! # When a call of `recv` returns zero

The reader that keeps the bytes of the unfinished message follows the stream of any peer. It leaves the stream
at a message of length zero: the call for its text asks for no bytes, which the operating system answers
like the end of the stream.
-/

namespace H9d.TCPSocket

open H9Frame Machine Cxx

/-- Behind complete messages, none of them empty, the stream has a message of length zero and goes on. -/
def EmptyMessage (stream : List Byte) : Prop :=
  ∃ before texts rest, stream = before ++ (header 0 ++ rest) ∧ Framed before texts ∧ [] ∉ texts ∧ rest ≠ []

/-- The bytes do not begin with a message that is complete and not empty. -/
def Unfinished (held : List Byte) : Prop :=
  ∀ length text rest, held = length ++ (text ++ rest) → length.length = 4 →
    Bytes.value length = text.length → text = []

/-- The connection is served: only a peer that closed is told from zero, all messages that were read are
delivered, and a further call returns. -/
structure Serves (t : Connection) : Prop where
  closed : ∀ call ∈ t.returned, call.1 = .closed → call.2 = true
  delivered : ∃ before texts held, t.sent = before ++ (held ++ t.stream) ∧ Framed before texts ∧
    t.delivered = texts.map (fun text => text.takeWhile (· ≠ 0)) ∧ Unfinished held
  returns : ∀ first second, (t.socket.recvFrom t.peerClosed first second t.stream).isSome = true

/-- As long as the peer has not closed, a call is the call on a stream without end. -/
theorem recvFrom_ready (s : Receiver) (first second : ℕ) (stream : List Byte) :
    s.recvFrom false (.ready first) (.ready second) stream = s.recv (some first) (some second) stream := by
  have same (asked more : ℕ) (stream : List Byte) :
      sysRecvFrom false asked (.ready more) stream = sysRecv asked (some more) stream := by
    rw [sysRecvFrom, if_neg fun closed => Bool.false_ne_true closed.1]
  have text (s : Receiver) (more : ℕ) (stream : List Byte) :
      s.recvTextFrom false (.ready more) stream = s.recvText (some more) stream := by
    rw [Receiver.recvTextFrom, Receiver.recvText, same]
  rw [Receiver.recvFrom, Receiver.recv, same]
  split
  · generalize sysRecv (4 - s.recvBytes) (some first) stream = header
    obtain ⟨bytes | errno, rest⟩ := header
    · cases bytes with
      | nil => rfl
      | cons b bytes =>
        dsimp only
        simp only [text]
    · rfl
  · exact text s first stream

section Framing

variable {before stream bytes : List Byte} {texts : List (List Byte)}

theorem Framed.append_message {length text : List Byte} (framed : Framed before texts)
    (four : length.length = 4) (counts : Bytes.value length = text.length) :
    Framed (before ++ (length ++ text)) (texts ++ [text]) := by
  induction framed with
  | nil =>
    have one : Framed (length ++ (text ++ [])) [text] := .cons four counts .nil
    rw [List.append_nil] at one
    exact one
  | cons four' counts' later ih =>
    rw [List.append_assoc, List.append_assoc]
    exact .cons four' counts' ih

theorem EmptyMessage.append (empty : EmptyMessage stream) (bytes : List Byte) : EmptyMessage (stream ++ bytes) := by
  obtain ⟨before, texts, rest, rfl, framed, nonempty, more⟩ := empty
  refine ⟨before, texts, rest ++ bytes, ?_, framed, nonempty, ?_⟩
  · rw [List.append_assoc, List.append_assoc]
  · exact fun none => more (List.append_eq_nil_iff.mp none).1

end Framing

section Reading

variable {r : Reader} {bytes : List Byte}

/-- Where the reader of any stream is: in a header, or in a text of the length that the header gives. -/
structure Follows (r : Reader) : Prop where
  header : r.received.length < 4 → r.bytesToRecv = 4
  text : 4 ≤ r.received.length → r.bytesToRecv = 4 + Bytes.value (r.received.take 4) ∧
    (r.received.length < r.bytesToRecv ∨ r.received = TCPSocket.header 0)

theorem follows_initial : Follows Reader.initial where
  header _ := rfl
  text some := absurd some (by decide)

theorem eq_header_zero (four : bytes.length = 4) (zero : Bytes.value bytes = 0) : bytes = header 0 := by
  apply Bytes.value_inj (four.trans (length_header 0).symm)
  exact zero

theorem Follows.recv_header (follows : Follows r) (inside : r.received.length < 4) (given : bytes ≠ [])
    (fits : bytes.length ≤ 4 - r.received.length) :
    ∃ next, r.recv (.data bytes) = (next, none) ∧ next.received = r.received ++ bytes ∧ Follows next := by
  have length : (r.received ++ bytes).length = r.received.length + bytes.length := List.length_append
  refine ⟨_, recv_inside_header inside given, rfl, fun more => ?_, fun enough => ?_⟩
  · dsimp only at more ⊢
    rw [if_neg (by omega), follows.header inside]
  · dsimp only at enough ⊢
    have complete : (r.received ++ bytes).length = 4 := by omega
    rw [if_pos complete, follows.header inside, List.take_of_length_le (by omega)]
    refine ⟨rfl, ?_⟩
    rcases Nat.eq_zero_or_pos (Bytes.value (r.received ++ bytes)) with zero | some
    · exact .inr (eq_header_zero complete zero)
    · refine .inl ?_
      change _ < 4 + Bytes.value (r.received ++ bytes)
      omega

theorem Follows.recv_text (follows : Follows r) (inside : 4 ≤ r.received.length)
    (unfinished : r.received.length < r.bytesToRecv) (given : bytes ≠ [])
    (fits : r.received.length + bytes.length ≤ r.bytesToRecv) :
    (∃ next, r.recv (.data bytes) = (next, none) ∧ next.received = r.received ++ bytes ∧ Follows next) ∨
      ∃ length text, r.received ++ bytes = length ++ text ∧ length.length = 4 ∧
        Bytes.value length = text.length ∧ text ≠ [] ∧
        r.recv (.data bytes) = (Reader.initial, some (.msg (text.takeWhile (· ≠ 0)))) := by
  have size : (r.received ++ bytes).length = r.received.length + bytes.length := List.length_append
  obtain ⟨counts, -⟩ := follows.text inside
  have begins : (r.received ++ bytes).take 4 = r.received.take 4 := List.take_append_of_le_length inside
  rw [recv_inside_text inside given]
  by_cases more : (r.received ++ bytes).length < r.bytesToRecv
  · rw [if_pos more]
    refine .inl ⟨_, rfl, rfl, fun few => ?_, fun _ => ⟨?_, .inl more⟩⟩
    · dsimp only at few
      omega
    · dsimp only
      rw [begins, counts]
  · rw [if_neg more]
    have four : (r.received.take 4).length = 4 := by
      rw [List.length_take]
      omega
    have left : ((r.received ++ bytes).drop 4).length = Bytes.value (r.received.take 4) := by
      rw [List.length_drop]
      omega
    refine .inr ⟨r.received.take 4, (r.received ++ bytes).drop 4, ?_, four, left.symm, ?_, rfl⟩
    · rw [← begins, List.take_append_drop]
    · rw [← List.length_pos_iff]
      omega

end Reading

section Calls

variable {s t : Receiver} {r : Reader} {stream left pending : List Byte} {closed : Bool}

/-- The operating system fails, tells that the stream has ended, or takes bytes from its front. -/
theorem sysRecvFrom_cases {asked : ℕ} (some : 0 < asked) (closed : Bool) (answer : Answer) (stream : List Byte) :
    (∃ errno, sysRecvFrom closed asked answer stream = (.error errno, stream)) ∨
      (sysRecvFrom closed asked answer stream = (.data [], stream) ∧ closed = true) ∨
      ∃ bytes rest, sysRecvFrom closed asked answer stream = (.data bytes, rest) ∧ bytes ≠ [] ∧
        bytes.length ≤ asked ∧ stream = bytes ++ rest := by
  cases answer with
  | error errno => exact .inl ⟨errno, rfl⟩
  | ready more =>
    rw [sysRecvFrom]
    by_cases ended : closed = true ∧ stream = []
    · rw [if_pos ended, ended.2]
      exact .inr (.inl ⟨rfl, ended.1⟩)
    · rw [if_neg ended]
      rcases sysRecv_cases some (.some more) stream with ⟨again, -⟩ | data
      · exact .inl ⟨EAGAIN, again⟩
      · exact .inr (.inr data)

/-- A call that asks for no bytes. -/
theorem sysRecvFrom_zero (closed : Bool) (answer : Answer) (stream : List Byte) :
    (∃ errno, sysRecvFrom closed 0 answer stream = (.error errno, stream)) ∨
      (sysRecvFrom closed 0 answer stream = (.data [], stream) ∧ (closed = true ∨ stream ≠ [])) := by
  cases answer with
  | error errno => exact .inl ⟨errno, rfl⟩
  | ready more =>
    rw [sysRecvFrom]
    by_cases ended : closed = true ∧ stream = []
    · rw [if_pos ended, ended.2]
      exact .inr ⟨rfl, .inl ended.1⟩
    · rw [if_neg ended]
      cases stream with
      | nil => exact .inl ⟨EAGAIN, rfl⟩
      | cons b rest => exact .inr ⟨by simp [sysRecv], .inr (List.cons_ne_nil b rest)⟩

/-- What a call returns, for the bytes of the unfinished message and those of the stream. -/
inductive Returns (closed : Bool) (pending : List Byte) : Received → Receiver → List Byte → Prop
  | failed {t : Receiver} {r : Reader} {left : List Byte} (errno : Errno) (represents : Represents t r)
      (follows : Follows r) (same : pending = r.received ++ left) : Returns closed pending (.error errno) t left
  | ended {t : Receiver} {r : Reader} {left : List Byte} (ended : closed = true) (represents : Represents t r)
      (follows : Follows r) (same : pending = r.received ++ left) : Returns closed pending .closed t left
  | message {t : Receiver} {length text left : List Byte} (represents : Represents t Reader.initial)
      (four : length.length = 4) (counts : Bytes.value length = text.length) (nonempty : text ≠ [])
      (same : pending = length ++ (text ++ left)) :
      Returns closed pending (.msg (text.takeWhile (· ≠ 0))) t left
  | empty {received : Received} {t : Receiver} {left rest : List Byte} (same : pending = header 0 ++ rest)
      (more : rest ≠ []) : Returns closed pending received t left

theorem recvTextFrom_spec (represents : Represents s r) (follows : Follows r) (inside : 4 ≤ r.received.length)
    (answer : Answer) (stream : List Byte) :
    ∃ received t left, s.recvTextFrom closed answer stream = some (received, t, left) ∧
      Returns closed (r.received ++ stream) received t left := by
  rw [Receiver.recvTextFrom, represents.bytesToRecv, represents.recvBytes]
  rcases (follows.text inside).2 with unfinished | none
  · rcases sysRecvFrom_cases (Nat.sub_pos_of_lt unfinished) closed answer stream with
      ⟨errno, fails⟩ | ⟨ends, ended⟩ | ⟨bytes, rest, data, given, fits, rfl⟩
    · rw [fails]
      exact ⟨_, _, _, rfl, .failed errno represents follows rfl⟩
    · rw [ends]
      exact ⟨_, _, _, rfl, .ended ended represents follows rfl⟩
    · rw [data]
      have fits : r.received.length + bytes.length ≤ r.bytesToRecv := by omega
      rcases follows.recv_text inside unfinished given fits with ⟨next, step, joined, follows'⟩ |
        ⟨length, text, joined, four, counts, nonempty, step⟩ <;>
        obtain ⟨t, written, represents'⟩ := represents.recvData inside given fits step
      · refine ⟨_, t, rest, ?_, .failed EAGAIN represents' follows' ?_⟩
        · dsimp only
          rw [written]
          rfl
        · rw [← List.append_assoc, joined]
      · refine ⟨_, t, rest, ?_, .message represents' four counts nonempty ?_⟩
        · dsimp only
          rw [written]
          rfl
        · rw [← List.append_assoc, joined, List.append_assoc]
  · have zero : r.bytesToRecv - r.received.length = 0 := by
      rw [(follows.text inside).1, none]
      rfl
    rw [zero]
    rcases sysRecvFrom_zero closed answer stream with ⟨errno, fails⟩ | ⟨ends, ended | more⟩
    · rw [fails]
      exact ⟨_, _, _, rfl, .failed errno represents follows rfl⟩
    · rw [ends]
      exact ⟨_, _, _, rfl, .ended ended represents follows rfl⟩
    · rw [ends]
      exact ⟨_, _, _, rfl, .empty (congrArg (· ++ stream) none) more⟩

/-- One call of `TCPSocket::recv`, on the stream of any peer. -/
theorem recvFrom_spec (represents : Represents s r) (follows : Follows r) (closed : Bool)
    (first second : Answer) (stream : List Byte) :
    ∃ received t left, s.recvFrom closed first second stream = some (received, t, left) ∧
      Returns closed (r.received ++ stream) received t left := by
  rw [Receiver.recvFrom, represents.recvBytes]
  by_cases inside : r.received.length < 4
  · rw [if_pos inside]
    rcases sysRecvFrom_cases (Nat.sub_pos_of_lt inside) closed first stream with
      ⟨errno, fails⟩ | ⟨ends, ended⟩ | ⟨bytes, rest, data, given, fits, rfl⟩
    · rw [fails]
      exact ⟨_, _, _, rfl, .failed errno represents follows rfl⟩
    · rw [ends]
      exact ⟨_, _, _, rfl, .ended ended represents follows rfl⟩
    · obtain ⟨next, step, joined, follows'⟩ := follows.recv_header inside given fits
      obtain ⟨t, written, represents'⟩ :=
        represents.recvHeader inside (follows.header inside) given fits step
      rw [data]
      obtain ⟨b, bytes, rfl⟩ := List.exists_cons_of_ne_nil given
      dsimp only
      rw [written, ← List.append_assoc, ← joined]
      dsimp only [Option.bind_eq_bind, Option.bind_some]
      rw [represents'.recvBytes]
      by_cases complete : 4 ≤ next.received.length
      · rw [if_pos complete]
        exact recvTextFrom_spec represents' follows' complete second rest
      · have unfinished : t.recvBytes < t.bytesToRecv := by
          rw [represents'.recvBytes, represents'.bytesToRecv, follows'.header (by omega)]
          omega
        rw [if_neg complete, Receiver.finish, if_pos unfinished]
        exact ⟨_, _, _, rfl, .failed EAGAIN represents' follows' rfl⟩
  · rw [if_neg inside]
    exact recvTextFrom_spec represents follows (by omega) first stream

end Calls

section Runs

variable {s t : Connection} {stream bytes : List Byte}

/-- What the calls have kept so far. -/
structure Kept (s : Connection) : Prop where
  closed : ∀ call ∈ s.returned, call.1 = .closed → call.2 = true
  place : ∃ r before texts, Represents s.socket r ∧ Follows r ∧ s.sent = before ++ (r.received ++ s.stream) ∧
    Framed before texts ∧ [] ∉ texts ∧ s.delivered = texts.map fun text => text.takeWhile (· ≠ 0)

theorem kept_new : Kept Connection.new where
  closed := nofun
  place := ⟨Reader.initial, [], [], represents_new, follows_initial, rfl, .nil, List.not_mem_nil, rfl⟩

theorem delivered_append (s : Connection) (socket : Receiver) (stream : List Byte) (received : Received) :
    Connection.delivered { s with socket, stream, returned := s.returned ++ [(received, s.peerClosed)] } =
      s.delivered ++ match received with | .msg text => [text] | .closed | .error _ => [] := by
  rw [Connection.delivered, List.filterMap_append]
  cases received <;> rfl

theorem Kept.recv (kept : Kept s) {first second : Answer} (step : s.step? (.recv first second) = some t) :
    EmptyMessage t.sent ∨ Kept t := by
  obtain ⟨closed, r, before, texts, represents, follows, sent, framed, nonempty, delivered⟩ := kept
  obtain ⟨received, socket, left, call, returns⟩ :=
    recvFrom_spec represents follows s.peerClosed first second s.stream
  have same : Connection.step? s (.recv first second) =
      some { s with socket, stream := left, returned := s.returned ++ [(received, s.peerClosed)] } := by
    rw [Connection.step?, call]
    rfl
  rw [same] at step
  obtain rfl := Option.some.inj step
  have history (only : received = .closed → s.peerClosed = true) :
      ∀ call ∈ s.returned ++ [(received, s.peerClosed)], call.1 = .closed → call.2 = true := by
    intro call member
    rcases List.mem_append.mp member with earlier | now
    · exact closed call earlier
    · obtain rfl := List.mem_singleton.mp now
      exact only
  cases returns with
  | @failed _ next _ errno represents' follows' same =>
    refine .inr ⟨history nofun, next, before, texts, represents', follows', ?_, framed, nonempty, ?_⟩
    · exact sent.trans (congrArg (before ++ ·) same)
    · rw [delivered_append, delivered, List.append_nil]
  | @ended _ next _ ended represents' follows' same =>
    refine .inr ⟨history fun _ => ended, next, before, texts, represents', follows', ?_, framed, nonempty, ?_⟩
    · exact sent.trans (congrArg (before ++ ·) same)
    · rw [delivered_append, delivered, List.append_nil]
  | @message _ length text _ represents' four counts some same =>
    refine .inr ⟨history nofun, Reader.initial, before ++ (length ++ text), texts ++ [text], represents',
      follows_initial, ?_, framed.append_message four counts, ?_, ?_⟩
    · refine sent.trans ?_
      rw [same, List.append_assoc, List.append_assoc]
      rfl
    · intro member
      rcases List.mem_append.mp member with earlier | now
      · exact nonempty earlier
      · exact some (List.mem_singleton.mp now).symm
    · rw [delivered_append, delivered, List.map_append]
      rfl
  | @empty _ _ _ rest same more =>
    exact .inl ⟨before, texts, rest, sent.trans (congrArg (before ++ ·) same), framed, nonempty, more⟩

theorem Kept.step (kept : EmptyMessage s.sent ∨ Kept s) {event : Connection.Event}
    (step : s.step? event = some t) : EmptyMessage t.sent ∨ Kept t := by
  cases event with
  | send bytes =>
    obtain ⟨-, step⟩ := Option.ite_none_left_eq_some.mp step
    obtain rfl := Option.some.inj step
    rcases kept with empty | ⟨closed, r, before, texts, represents, follows, sent, framed, nonempty, delivered⟩
    · exact .inl (empty.append bytes)
    · refine .inr ⟨closed, r, before, texts, represents, follows, ?_, framed, nonempty, delivered⟩
      change s.sent ++ bytes = _
      rw [sent, List.append_assoc, List.append_assoc]
  | close =>
    obtain rfl := Option.some.inj step
    rcases kept with empty | ⟨closed, place⟩
    · exact .inl empty
    · exact .inr ⟨closed, place⟩
  | recv first second =>
    rcases kept with empty | kept
    · obtain ⟨⟨received, socket, left⟩, -, same⟩ := Option.bind_eq_some_iff.mp step
      obtain rfl := Option.some.inj same
      exact .inl empty
    · exact kept.recv step

theorem Follows.unfinished {r : Reader} (follows : Follows r) : Unfinished r.received := by
  intro length text rest same four counts
  by_contra nonempty
  have some := List.length_pos_iff.mpr nonempty
  have size := congrArg List.length same
  rw [List.length_append, List.length_append, four] at size
  obtain ⟨toRecv, unfinished | none⟩ := follows.text (by omega)
  · rw [same, List.take_left' four, counts] at toRecv
    omega
  · rw [none, length_header] at size
    omega

theorem Kept.serves (kept : Kept s) : Serves s := by
  obtain ⟨closed, r, before, texts, represents, follows, sent, framed, -, delivered⟩ := kept
  refine ⟨closed, ⟨before, texts, r.received, sent, framed, delivered, follows.unfinished⟩, fun first second => ?_⟩
  obtain ⟨received, socket, left, call, -⟩ :=
    recvFrom_spec represents follows s.peerClosed first second s.stream
  rw [call]
  rfl

end Runs

section Failing

variable {s : Receiver} {length text rest : List Byte}

/-- All bytes that are asked for, when there are enough of them. -/
theorem sysRecvFrom_full {asked more : ℕ} {stream : List Byte} (given : stream ≠ []) (ready : asked ≤ more + 1)
    (enough : asked ≤ stream.length) (closed : Bool) :
    sysRecvFrom closed asked (.ready more) stream = (.data (stream.take asked), stream.drop asked) := by
  obtain ⟨b, others, rfl⟩ := List.exists_cons_of_ne_nil given
  have all : min asked (min (more + 1) (b :: others).length) = asked := by omega
  rw [sysRecvFrom, if_neg fun ended => given ended.2, sysRecv, all]
  exact List.cons_ne_nil b others

/-- A header that comes in one piece. -/
theorem recvFrom_header (represents : Represents s Reader.initial) (four : length.length = 4)
    (second : Answer) (stream : List Byte) :
    ∃ t next, s.recvFrom false (.ready 3) second (length ++ stream) = t.recvTextFrom false second stream ∧
      Represents t next ∧ Follows next ∧ next.received = length := by
  have given : length ≠ [] := List.ne_nil_of_length_pos (by omega)
  have inside : Reader.initial.received.length < 4 := by decide
  have taken : sysRecvFrom false 4 (.ready 3) (length ++ stream) = (.data length, stream) := by
    rw [sysRecvFrom_full (List.append_ne_nil_of_left_ne_nil given stream) le_rfl, List.take_left' four,
      List.drop_left' four]
    rw [List.length_append]
    omega
  obtain ⟨next, step, joined, follows⟩ := follows_initial.recv_header inside given four.le
  obtain ⟨t, written, represents'⟩ := represents.recvHeader inside rfl given four.le step
  have recvBytes : s.recvBytes = 0 := represents.recvBytes
  have complete : 4 ≤ t.recvBytes := by
    rw [represents'.recvBytes, joined]
    exact four.ge
  refine ⟨t, next, ?_, represents', follows, joined⟩
  rw [Receiver.recvFrom, recvBytes, if_pos (by decide), taken]
  obtain ⟨b, others, rfl⟩ := List.exists_cons_of_ne_nil given
  dsimp only
  rw [written, Option.bind_eq_bind, Option.bind_some, if_pos complete]

/-- A message that comes in two pieces, at the cut between header and text. -/
theorem recvFrom_message (represents : Represents s Reader.initial) (four : length.length = 4)
    (counts : Bytes.value length = text.length) (nonempty : text ≠ []) (rest : List Byte) :
    ∃ t, s.recvFrom false (.ready 3) (.ready text.length) (length ++ (text ++ rest)) =
        some (.msg (text.takeWhile (· ≠ 0)), t, rest) ∧ Represents t Reader.initial := by
  obtain ⟨t, next, header, represents, follows, received⟩ :=
    recvFrom_header represents four (.ready text.length) (text ++ rest)
  have some := List.length_pos_iff.mpr nonempty
  have size : next.received.length = 4 := by rw [received, four]
  have bytesToRecv : next.bytesToRecv = 4 + text.length := by
    rw [(follows.text size.ge).1, received, List.take_of_length_le four.le, counts]
  have asked : t.bytesToRecv - t.recvBytes = text.length := by
    rw [represents.bytesToRecv, represents.recvBytes]
    omega
  have taken : sysRecvFrom false text.length (.ready text.length) (text ++ rest) = (.data text, rest) := by
    rw [sysRecvFrom_full (List.append_ne_nil_of_left_ne_nil nonempty rest) (Nat.le_succ _), List.take_left,
      List.drop_left]
    rw [List.length_append]
    omega
  have fits : next.received.length + text.length ≤ next.bytesToRecv := by omega
  rw [header, Receiver.recvTextFrom, asked, taken]
  rcases follows.recv_text size.ge (by omega) nonempty fits with ⟨more, -, joined, follows'⟩ |
    ⟨length', text', joined, four', -, -, step⟩
  · have whole : more.received.length = 4 + text.length := by rw [joined, List.length_append, size]
    obtain ⟨toRecv, unfinished | none⟩ := follows'.text (by omega)
    · rw [joined, List.take_left' size, received, counts] at toRecv
      omega
    · rw [none, length_header] at whole
      omega
  · obtain ⟨-, rfl⟩ := List.append_inj joined (size.trans four'.symm)
    obtain ⟨u, written, represents'⟩ := represents.recvData size.ge nonempty fits step
    refine ⟨u, ?_, represents'⟩
    dsimp only
    rw [written]
    rfl

/-- Behind the header of an empty message, no bytes are asked for and none come. -/
theorem recvFrom_empty (represents : Represents s Reader.initial) (more : rest ≠ []) :
    ∃ t, s.recvFrom false (.ready 3) (.ready 0) (header 0 ++ rest) = some (.closed, t, rest) := by
  obtain ⟨t, next, header, represents, follows, received⟩ :=
    recvFrom_header represents (length_header 0) (.ready 0) rest
  have asked : t.bytesToRecv - t.recvBytes = 0 := by
    rw [represents.bytesToRecv, represents.recvBytes, (follows.text (by rw [received]; decide)).1, received]
    rfl
  refine ⟨t, ?_⟩
  rw [header, Receiver.recvTextFrom, asked, sysRecvFrom_full more (Nat.zero_le _) (Nat.zero_le _)]
  rfl

/-- All messages of a stream, one after the other. -/
theorem recv_framed {before : List Byte} {texts : List (List Byte)} (framed : Framed before texts)
    (nonempty : [] ∉ texts) (tail : List Byte) {s : Connection}
    (represents : Represents s.socket Reader.initial) (open' : s.peerClosed = false)
    (stream : s.stream = before ++ tail) :
    ∃ events t, Connection.machine.run? s events = some t ∧ t.sent = s.sent ∧ t.peerClosed = false ∧
      t.stream = tail ∧ Represents t.socket Reader.initial := by
  induction framed generalizing s with
  | nil => exact ⟨[], s, rfl, rfl, open', stream, represents⟩
  | @cons length text stream' texts four counts later ih =>
    obtain ⟨some, nonempty⟩ := not_or.mp (mt List.mem_cons.mpr nonempty)
    obtain ⟨socket, call, represents'⟩ :=
      recvFrom_message represents four counts (Ne.symm some) (stream' ++ tail)
    rw [List.append_assoc, List.append_assoc] at stream
    let next : Connection := { s with
      socket
      stream := stream' ++ tail
      peerClosed := false
      returned := s.returned ++ [(.msg (text.takeWhile (· ≠ 0)), false)] }
    have step : Connection.machine.step? s (.recv (.ready 3) (.ready text.length)) = Option.some next := by
      change Option.bind (s.socket.recvFrom s.peerClosed _ _ s.stream) _ = _
      rw [open', stream, call]
      rfl
    obtain ⟨events, t, run, final⟩ := ih nonempty (s := next) represents' rfl rfl
    exact ⟨_ :: events, t, LabeledMachine.run?_cons_eq_some.mpr ⟨next, step, run⟩, final⟩

/-- A peer that sends an empty message and more is told that it has closed. -/
theorem recv_closed_of_empty {bytes : List Byte} (empty : EmptyMessage bytes) :
    ∃ events t, Connection.machine.run? Connection.new events = some t ∧ t.sent = bytes ∧
      (Received.closed, false) ∈ t.returned := by
  obtain ⟨before, texts, rest, rfl, framed, nonempty, more⟩ := empty
  obtain ⟨events, t, run, sent, open', stream, represents⟩ :=
    recv_framed framed nonempty (header 0 ++ rest) (s := { Connection.new with
      stream := before ++ (header 0 ++ rest), sent := before ++ (header 0 ++ rest) }) represents_new rfl rfl
  obtain ⟨socket, call⟩ := recvFrom_empty represents more
  let last : Connection :=
    { t with socket, stream := rest, peerClosed := false, returned := t.returned ++ [(.closed, false)] }
  have step : Connection.machine.step? t (.recv (.ready 3) (.ready 0)) = some last := by
    change Option.bind (t.socket.recvFrom t.peerClosed _ _ t.stream) _ = _
    rw [open', stream, call]
    rfl
  refine ⟨.send (before ++ (header 0 ++ rest)) :: events ++ [.recv (.ready 3) (.ready 0)], last,
    LabeledMachine.run?_append_eq_some.mpr ⟨t, LabeledMachine.run?_cons_eq_some.mpr ⟨_, rfl, run⟩, ?_⟩, sent, ?_⟩
  · rw [LabeledMachine.run?_singleton]
    exact step
  · exact List.mem_append_right _ (List.mem_singleton.mpr rfl)

end Failing

/-- Whatever a peer sends, its connection is served in all runs exactly if no message of length zero stands in
front of something else. -/
theorem recv_serves_iff (bytes : List Byte) :
    (∀ events t, Connection.machine.run? Connection.new events = some t → t.sent = bytes → Serves t) ↔
      ¬EmptyMessage bytes := by
  constructor
  · intro serves empty
    obtain ⟨events, t, run, sent, ended⟩ := recv_closed_of_empty empty
    exact Bool.false_ne_true ((serves events t run sent).closed _ ended rfl)
  · rintro none events t run rfl
    have kept : EmptyMessage t.sent ∨ Kept t :=
      LabeledMachine.run_invariant (fun s => EmptyMessage s.sent ∨ Kept s)
        (fun _ _ _ kept step => Kept.step kept step) (.inr kept_new) run
    exact (kept.resolve_left none).serves

/-- An empty message and then `{}`: the call says that the peer has closed. -/
theorem recv_closed_early : ∃ events t, Connection.machine.run? Connection.new events = some t ∧
    t.sent = [0, 0, 0, 0, 0, 0, 0, 2, 0x7b, 0x7d] ∧ (Received.closed, false) ∈ t.returned := by
  apply recv_closed_of_empty
  exact ⟨[], [], [0, 0, 0, 2, 0x7b, 0x7d], rfl, .nil, List.not_mem_nil, List.cons_ne_nil _ _⟩

end H9d.TCPSocket
