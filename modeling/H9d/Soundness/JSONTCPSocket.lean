import H9d.Model.JSONTCPSocket
import H9d.Soundness.TCPClosing

/-! # JSON values reach the other end

What was given to one end and what the other end has received are compared through the stream: what has
been written is the beginning of the messages, and what has been read is the beginning of what was written.
-/

namespace H9d.JSONTCPSocket

open Nlohmann TCPSocket Machine H9Frame

section Stream

variable {texts later : List (List Byte)} {before tail : List Byte}

/-- Messages at the beginning of a stream of messages are the first ones. -/
theorem framed_begins (framed : Framed before texts) {all : List (List Byte)}
    (short : ∀ text ∈ all, text.length < 2 ^ 32) (same : before ++ tail = all.flatMap encode) :
    ∃ later, all = texts ++ later ∧ tail = later.flatMap encode := by
  induction framed generalizing all with
  | nil => exact ⟨all, rfl, same⟩
  | @cons length text stream texts four counts _ ih =>
    cases all with
    | nil =>
      have size := congrArg List.length same
      simp only [List.length_append, four, List.flatMap_nil, List.length_nil] at size
      omega
    | cons first all =>
      obtain ⟨firstShort, laterShort⟩ := List.forall_mem_cons.mp short
      simp only [List.flatMap_cons, encode, List.append_assoc] at same
      obtain ⟨rfl, texts⟩ := List.append_inj same four
      have size : first.length = text.length := by
        rw [← counts, header_eq, Bytes.value_ofValue_of_lt firstShort]
      obtain ⟨rfl, stream⟩ := List.append_inj texts size.symm
      obtain ⟨later, rfl, rest⟩ := ih laterShort stream
      exact ⟨later, rfl, rest⟩

theorem encode_nil_iff {stream : List Byte} (short : ∀ text ∈ texts, text.length < 2 ^ 32)
    (nonempty : [] ∉ texts) (same : texts.flatMap encode = header 0 ++ stream) : False := by
  cases texts with
  | nil => cases same
  | cons first later =>
    simp only [List.flatMap_cons, encode, List.append_assoc] at same
    obtain ⟨zero, -⟩ := List.append_inj same rfl
    have size := congrArg Bytes.value zero
    rw [header_eq, header_eq, Bytes.value_ofValue_of_lt (short first List.mem_cons_self),
      Bytes.value_ofValue_of_lt (Nat.two_pow_pos 32)] at size
    exact nonempty (List.mem_cons.mpr (.inl (List.eq_nil_of_length_eq_zero size).symm))

/-- A stream that begins messages, none of them empty, has no message of length zero. -/
theorem not_emptyMessage {sent rest : List Byte} (short : ∀ text ∈ texts, text.length < 2 ^ 32)
    (nonempty : [] ∉ texts) (same : texts.flatMap encode = sent ++ rest) : ¬EmptyMessage sent := by
  rintro ⟨before, read, behind, rfl, framed, -, -⟩
  rw [List.append_assoc] at same
  obtain ⟨later, rfl, rest⟩ := framed_begins framed short same.symm
  rw [List.append_assoc] at rest
  have ends : later.flatMap encode = header 0 ++ _ := rest.symm
  apply encode_nil_iff _ _ ends
  · exact fun text member => short text (List.mem_append_right _ member)
  · exact fun member => nonempty (List.mem_append_right _ member)

/-- What is not finished holds no message. -/
theorem texts_eq_nil {held : List Byte} (unfinished : Unfinished held)
    (short : ∀ text ∈ later, text.length < 2 ^ 32) (nonempty : [] ∉ later)
    (same : held = later.flatMap encode) : later = [] := by
  cases later with
  | nil => rfl
  | cons text later =>
    simp only [List.flatMap_cons, encode, List.append_assoc] at same
    have counts : Bytes.value (header text.length) = text.length := by
      rw [header_eq, Bytes.value_ofValue_of_lt (short text List.mem_cons_self)]
    have empty := unfinished _ _ _ same (length_header _) counts
    exact absurd (List.mem_cons.mpr (.inl empty.symm)) nonempty

end Stream

section Progress

variable {s t : Receiver} {r : Reader} {stream left : List Byte} {closed : Bool} {received : Received}

theorem sysRecvFrom_length_le (closed : Bool) (asked : ℕ) (answer : TCPSocket.Answer) (stream : List Byte) :
    (sysRecvFrom closed asked answer stream).2.length ≤ stream.length := by
  unfold sysRecvFrom sysRecv
  split
  · exact le_rfl
  · split
    · next ended => rw [ended.2]
    · split <;> first | exact le_rfl | exact (List.drop_sublist _ _).length_le

theorem recvTextFrom_length_le {second : TCPSocket.Answer}
    (call : s.recvTextFrom closed second stream = some (received, t, left)) :
    left.length ≤ stream.length := by
  have fewer := sysRecvFrom_length_le closed (s.bytesToRecv - s.recvBytes) second stream
  rw [Receiver.recvTextFrom] at call
  obtain ⟨⟨_, _⟩, -, same⟩ := Option.bind_eq_some_iff.mp call
  cases same
  exact fewer

/-- A `::recv` that finds a byte takes one. -/
theorem sysRecvFrom_ready {asked : ℕ} (some : 0 < asked) (nonempty : stream ≠ []) (closed : Bool) (more : ℕ) :
    ∃ b bytes rest, sysRecvFrom closed asked (.ready more) stream = (.data (b :: bytes), rest) ∧
      rest.length < stream.length := by
  rw [sysRecvFrom, if_neg fun ended => nonempty ended.2]
  rcases sysRecv_cases some (.some more) stream with ⟨-, none | empty⟩ | ⟨bytes, rest, data, given, -, rfl⟩
  · cases none
  · exact absurd empty nonempty
  · obtain ⟨b, bytes, rfl⟩ := List.exists_cons_of_ne_nil given
    refine ⟨b, bytes, rest, data, ?_⟩
    rw [List.length_append, List.length_cons]
    omega

/-- A call takes nothing back. -/
theorem recvFrom_length_le {first second : TCPSocket.Answer}
    (call : s.recvFrom closed first second stream = some (received, t, left)) :
    left.length ≤ stream.length := by
  have fewer := sysRecvFrom_length_le closed (4 - s.recvBytes) first stream
  rw [Receiver.recvFrom] at call
  split at call
  · generalize sysRecvFrom closed (4 - s.recvBytes) first stream = header at call fewer
    obtain ⟨bytes | errno, rest⟩ := header
    · cases bytes with
      | nil =>
        cases call
        exact fewer
      | cons b bytes =>
        obtain ⟨u, -, call⟩ := Option.bind_eq_some_iff.mp call
        split at call
        · exact (recvTextFrom_length_le call).trans fewer
        · obtain ⟨⟨_, _⟩, -, same⟩ := Option.bind_eq_some_iff.mp call
          cases same
          exact fewer
    · cases call
      exact fewer
  · exact recvTextFrom_length_le call

/-- A call whose first `::recv` finds a byte leaves fewer of them. -/
theorem recvFrom_length_lt (represents : Represents s r) (follows : Follows r)
    (wanted : r.received ≠ header 0) (nonempty : stream ≠ []) {more : ℕ} {second : TCPSocket.Answer}
    (call : s.recvFrom closed (.ready more) second stream = some (received, t, left)) :
    left.length < stream.length := by
  rw [Receiver.recvFrom, represents.recvBytes] at call
  split at call
  · next inside =>
    obtain ⟨b, bytes, rest, data, fewer⟩ := sysRecvFrom_ready (Nat.sub_pos_of_lt inside) nonempty closed more
    rw [data] at call
    obtain ⟨u, -, call⟩ := Option.bind_eq_some_iff.mp call
    split at call
    · exact (recvTextFrom_length_le call).trans_lt fewer
    · obtain ⟨⟨_, _⟩, -, same⟩ := Option.bind_eq_some_iff.mp call
      cases same
      exact fewer
  · next inside =>
    have unfinished := (follows.text (Nat.le_of_not_lt inside)).2.resolve_right wanted
    obtain ⟨b, bytes, rest, data, fewer⟩ := sysRecvFrom_ready (Nat.sub_pos_of_lt unfinished) nonempty closed more
    rw [Receiver.recvTextFrom, represents.bytesToRecv, represents.recvBytes, data] at call
    obtain ⟨⟨_, _⟩, -, same⟩ := Option.bind_eq_some_iff.mp call
    cases same
    exact fewer

end Progress

/-- What the call under way has still to send. -/
def toSend (s : Sender) : List Byte :=
  match s.sentByte with
  | none => encode s.buf
  | some sentByte => s.buf.drop sentByte

/-- A call takes from what is to be sent, and a header as a whole unless it tears it. -/
theorem toSend_inl {s next : Sender} {result : SendResult} (admitted : admits s.asked result = true)
    (whole : Channel.tears s result = false) (goes : s.send result = .inl next) :
    toSend s = taken s.asked result ++ toSend next := by
  obtain ⟨n, rfl, rfl⟩ := send_inl goes
  obtain ⟨buf, _ | sentByte⟩ := s
  · have four : n + 1 = 4 := by
      simp [Channel.tears, admits, Sender.asked, length_header] at whole admitted
      omega
    simp only [toSend, taken, Sender.asked, Option.elim_none, List.drop_zero, four, encode,
      List.take_of_length_le (length_header buf.length).le]
  · simp only [toSend, taken, Sender.asked, Option.elim_some]
    rw [← List.drop_drop, List.take_append_drop]

theorem toSend_sent {s : Sender} {result : SendResult} (admitted : admits s.asked result = true)
    (whole : Channel.tears s result = false) (ends : s.send result = .inr .sent) :
    toSend s = taken s.asked result := by
  obtain ⟨n, rfl, all⟩ := send_inr ends
  obtain ⟨buf, _ | sentByte⟩ := s
  · have four : n + 1 = 4 := by
      simp [Channel.tears, admits, Sender.asked, length_header] at whole admitted
      omega
    have nothing : buf = [] := List.eq_nil_of_length_eq_zero (Nat.le_zero.mp all)
    simp only [toSend, taken, Sender.asked, four, encode, nothing, List.append_nil,
      List.take_of_length_le (length_header _).le]
  · symm
    apply List.take_of_length_le
    simp only [Option.elim_some] at all
    simp only [Sender.asked, List.length_drop]
    omega

/-- A call that ends with a failure takes nothing. -/
theorem taken_failed {s : Sender} {result : SendResult} {ended : Sent} (ends : s.send result = .inr ended)
    (failed : ended ≠ .sent) : taken s.asked result = [] := by
  cases result with
  | error errno => rfl
  | count n =>
    cases n with
    | zero => rfl
    | succ n =>
      obtain ⟨buf, _ | sentByte⟩ := s <;>
        · obtain ⟨-, same⟩ := (ite_eq_iff.mp ends).resolve_left fun goes => nomatch goes.2
          exact absurd (Sum.inr.inj same).symm failed

namespace Channel

variable {format : TextFormat} {t u : Channel}

/-- The messages of the values that were given. -/
def messages (format : TextFormat) (t : Channel) : List Byte := (t.given.map format.dump).flatMap encode

/-- Where the bytes are: written, or still to be sent by the call under way. A broken connection has lost
what was not written. -/
structure Carries (format : TextFormat) (t : Channel) : Prop where
  written : t.torn = false → ∃ rest, t.messages format = t.connection.sent ++ rest
  toSend : t.torn = false → t.broken = false →
    t.messages format = t.connection.sent ++ t.sender.elim [] toSend
  kept : EmptyMessage t.connection.sent ∨ Kept t.connection

theorem carries_new : Carries format new where
  written _ := ⟨[], rfl⟩
  toSend _ _ := rfl
  kept := .inr kept_new

theorem messages_append (json : Json) (sender : Option Sender) :
    messages format { t with sender, given := t.given ++ [json] } =
      t.messages format ++ encode (format.dump json) := by
  simp [messages]

/-- What the connection does with bytes, and nothing else. -/
theorem step?_send {c : Connection} {bytes : List Byte} {next : Connection}
    (step : c.step? (.send bytes) = some next) : next.sent = c.sent ++ bytes := by
  obtain ⟨-, same⟩ := Option.ite_none_left_eq_some.mp step
  obtain rfl := Option.some.inj same
  rfl

theorem step?_recv {c next : Connection} {first second : TCPSocket.Answer}
    (step : c.step? (.recv first second) = some next) : next.sent = c.sent := by
  obtain ⟨⟨_, _, _⟩, -, same⟩ := Option.bind_eq_some_iff.mp step
  cases same
  rfl

theorem Carries.send (carries : Carries format t) {json : Json}
    (step : t.step? format (.send json) = some u) : Carries format u := by
  obtain ⟨idle, same⟩ := Option.ite_none_right_eq_some.mp step
  obtain rfl := Option.some.inj same
  refine ⟨fun whole => ?_, fun whole working => ?_, carries.kept⟩
  · obtain ⟨rest, written⟩ := carries.written whole
    refine ⟨rest ++ encode (format.dump json), ?_⟩
    rw [messages_append, written, List.append_assoc]
  · have written := carries.toSend whole working
    rw [idle, Option.elim_none, List.append_nil] at written
    rw [messages_append, written]
    rfl

theorem Carries.sysSend (carries : Carries format t) {result : SendResult}
    (step : t.step? format (.sysSend result) = some u) : Carries format u := by
  obtain ⟨s, sending, step⟩ := Option.bind_eq_some_iff.mp step
  obtain ⟨⟨admitted, dead⟩, step⟩ := Option.ite_none_right_eq_some.mp step
  obtain ⟨connection, wrote, step⟩ := Option.bind_eq_some_iff.mp step
  have sent := step?_send wrote
  have kept := Kept.step carries.kept wrote
  -- nothing is lost while the connection works
  have moves (whole : (t.torn || tears s result) = false) (working : t.broken = false) :
      t.messages format = t.connection.sent ++ JSONTCPSocket.toSend s := by
    obtain ⟨untorn, -⟩ := Bool.or_eq_false_iff.mp whole
    have written := carries.toSend untorn working
    rw [sending, Option.elim_some] at written
    exact written
  have begins (whole : (t.torn || tears s result) = false)
      (goes : t.broken = false → ∃ rest, JSONTCPSocket.toSend s = taken s.asked result ++ rest) :
      ∃ rest, t.messages format = connection.sent ++ rest := by
    obtain ⟨untorn, -⟩ := Bool.or_eq_false_iff.mp whole
    rw [sent]
    cases working : t.broken with
    | false =>
      obtain ⟨rest, takes⟩ := goes working
      refine ⟨rest, ?_⟩
      rw [moves whole working, takes, List.append_assoc]
    | true =>
      rw [dead working, List.append_nil]
      exact carries.written untorn
  cases ends : s.send result with
  | inl next =>
    rw [ends] at step
    obtain rfl := Option.some.inj step
    refine ⟨fun whole => ?_, fun whole working => ?_, kept⟩
    · apply begins whole
      intro _
      exact ⟨_, toSend_inl admitted (Bool.or_eq_false_iff.mp whole).2 ends⟩
    · change t.messages format = connection.sent ++ JSONTCPSocket.toSend next
      rw [moves whole working, toSend_inl admitted (Bool.or_eq_false_iff.mp whole).2 ends, sent,
        List.append_assoc]
  | inr ended =>
    rw [ends] at step
    obtain rfl := Option.some.inj step
    refine ⟨fun whole => ?_, fun whole working => ?_, kept⟩
    · apply begins whole
      intro _
      rcases eq_or_ne ended .sent with rfl | failed
      · exact ⟨[], by rw [toSend_sent admitted (Bool.or_eq_false_iff.mp whole).2 ends, List.append_nil]⟩
      · exact ⟨_, by rw [taken_failed ends failed, List.nil_append]⟩
    · obtain ⟨before, all⟩ := Bool.or_eq_false_iff.mp working
      obtain rfl : ended = .sent := by simpa using all
      change t.messages format = connection.sent ++ []
      rw [moves whole before, toSend_sent admitted (Bool.or_eq_false_iff.mp whole).2 ends, sent,
        List.append_nil]

theorem Carries.step (carries : Carries format t) {event : Event} (step : t.step? format event = some u) :
    Carries format u := by
  cases event with
  | send json => exact carries.send step
  | sysSend result => exact carries.sysSend step
  | close =>
    obtain ⟨-, step⟩ := Option.ite_none_right_eq_some.mp step
    obtain ⟨connection, closed, same⟩ := Option.map_eq_some_iff.mp step
    have kept := Kept.step carries.kept closed
    obtain rfl := Option.some.inj closed
    subst same
    exact ⟨carries.written, carries.toSend, kept⟩
  | recv first second =>
    obtain ⟨connection, call, same⟩ := Option.map_eq_some_iff.mp step
    have kept := Kept.step carries.kept call
    have sent := step?_recv call
    subst same
    refine ⟨?_, ?_, kept⟩
    · rw [sent]
      exact carries.written
    · rw [sent]
      exact carries.toSend

theorem Carries.of_reachable (reachable : (machine format).Reachable t) : Carries format t := by
  apply reachable.invariant (Carries format)
  · rintro t rfl
    exact carries_new
  · exact fun _ _ _ carries step => carries.step step

/-- The values fit the format and their texts fit a header. -/
def Fits (format : TextFormat) (t : Channel) : Prop :=
  ∀ json ∈ t.given, format.Keeps json ∧ (format.dump json).length < 2 ^ 32

theorem Fits.short_of_mem (fits : Fits format t) {values : List Json} (some : values ⊆ t.given) :
    ∀ text ∈ values.map format.dump, text.length < 2 ^ 32 :=
  List.forall_mem_map.mpr fun json member => (fits json (some member)).2

theorem nonempty_dumps (documented : format.Documented) (values : List Json) :
    [] ∉ values.map format.dump := by
  rw [List.mem_map]
  exact fun ⟨json, _, empty⟩ => documented.nonempty json empty

theorem received_eq (t : Channel) : t.received format = t.connection.delivered.map format.parse := by
  rw [received, Connection.delivered, List.map_filterMap]
  apply List.filterMap_congr
  rintro ⟨_ | _ | _, _⟩ _ <;> rfl

theorem takeWhile_plain {text : List Byte} (plain : 0 ∉ text) : text.takeWhile (· ≠ 0) = text := by
  apply List.takeWhile_eq_self_iff.mpr
  intro b member
  exact decide_eq_true fun zero => plain (zero ▸ member)

theorem parse_dumps (documented : format.Documented) {values : List Json}
    (keeps : ∀ json ∈ values, format.Keeps json) :
    ((values.map format.dump).map fun text => text.takeWhile (· ≠ 0)).map format.parse =
      values.map fun json => some json.reread := by
  rw [List.map_map, List.map_map]
  apply List.map_congr_left
  intro json member
  simp only [Function.comp_apply, takeWhile_plain (documented.plain json),
    documented.parse_dump json (keeps json member)]

/-- Where a channel is: the values that were received, and the texts of the others behind them. -/
theorem Carries.place (carries : Carries format t) (documented : format.Documented) (whole : t.torn = false)
    (fits : Fits format t) :
    ∃ r values later, Represents t.connection.socket r ∧ Follows r ∧ t.given = values ++ later ∧
      t.received format = values.map (fun json => some json.reread) ∧
      (∀ call ∈ t.connection.returned, call.1 = .closed → call.2 = true) ∧
      ∃ rest, (later.map format.dump).flatMap encode = r.received ++ t.connection.stream ++ rest ∧
        t.messages format = t.connection.sent ++ rest := by
  obtain ⟨rest, written⟩ := carries.written whole
  have short := fits.short_of_mem (List.Subset.refl _)
  have nonempty := nonempty_dumps documented t.given
  have kept := carries.kept.resolve_left (not_emptyMessage short nonempty written)
  obtain ⟨closed, r, before, texts, represents, follows, sent, framed, -, delivered⟩ := kept
  have stream : before ++ (r.received ++ t.connection.stream ++ rest) = (t.given.map format.dump).flatMap encode := by
    rw [← List.append_assoc, ← sent]
    exact written.symm
  obtain ⟨later, all, behind⟩ := framed_begins framed short stream
  obtain ⟨values, others, given, rfl, rfl⟩ := List.map_eq_append_iff.mp all
  refine ⟨r, values, others, represents, follows, given, ?_, closed, rest, behind.symm, written⟩
  rw [received_eq, delivered]
  apply parse_dumps documented
  intro json member
  exact (fits json (given ▸ List.mem_append_left _ member)).1

/-- One more call of `recv`. -/
theorem Carries.recv (carries : Carries format t) (documented : format.Documented) (whole : t.torn = false)
    (fits : Fits format t) (more : ℕ) (second : TCPSocket.Answer) :
    ∃ connection, t.step? format (.recv (.ready more) second) = some { t with connection } ∧
      connection.stream.length ≤ t.connection.stream.length ∧
      (t.connection.stream ≠ [] → connection.stream.length < t.connection.stream.length) := by
  obtain ⟨r, values, later, represents, follows, given, -, -, rest, behind, -⟩ :=
    carries.place documented whole fits
  obtain ⟨returned, socket, left, call, -⟩ :=
    recvFrom_spec represents follows t.connection.peerClosed (.ready more) second t.connection.stream
  have place : r.received ≠ header 0 := by
    intro zero
    rw [zero, List.append_assoc] at behind
    exact encode_nil_iff (fits.short_of_mem (given ▸ List.subset_append_right _ _))
      (nonempty_dumps documented later) behind
  refine ⟨{ t.connection with
    socket, stream := left, returned := t.connection.returned ++ [(returned, t.connection.peerClosed)] },
    ?_, recvFrom_length_le call, fun some => recvFrom_length_lt represents follows place some call⟩
  rw [step?, Connection.step?, call]
  rfl

/-- When everything was sent and read, everything was received. -/
theorem Carries.finished (carries : Carries format t) (documented : format.Documented) (whole : t.torn = false)
    (fits : Fits format t) (idle : t.sender = none) (working : t.broken = false)
    (read : t.connection.stream = []) :
    t.received format = t.given.map fun json => some json.reread := by
  obtain ⟨r, values, later, represents, follows, given, received, -, rest, behind, written⟩ :=
    carries.place documented whole fits
  have nothing : rest = [] := by
    have sent := carries.toSend whole working
    rw [written, idle] at sent
    exact List.append_cancel_left sent
  rw [read, nothing, List.append_nil, List.append_nil] at behind
  have none := texts_eq_nil follows.unfinished (fits.short_of_mem (given ▸ List.subset_append_right _ _))
    (nonempty_dumps documented later) behind.symm
  rw [received, given, List.map_eq_nil_iff.mp none, List.append_nil]

/-- As many calls as there are bytes, each of which finds one if there is any. -/
theorem Carries.read (carries : Carries format t) (documented : format.Documented) (whole : t.torn = false)
    (fits : Fits format t) (idle : t.sender = none) (working : t.broken = false) (calls : List (ℕ × TCPSocket.Answer))
    (enough : t.connection.stream.length ≤ calls.length) :
    ∃ u, (machine format).run? t (calls.map fun call => .recv (.ready call.1) call.2) = some u ∧
      u.received format = t.given.map fun json => some json.reread := by
  induction calls generalizing t with
  | nil =>
    have read : t.connection.stream = [] := List.eq_nil_of_length_eq_zero (Nat.le_zero.mp enough)
    exact ⟨t, rfl, carries.finished documented whole fits idle working read⟩
  | cons call calls ih =>
    obtain ⟨connection, step, fewer, progress⟩ := carries.recv documented whole fits call.1 call.2
    have enough : connection.stream.length ≤ calls.length := by
      rw [List.length_cons] at enough
      cases stream : t.connection.stream with
      | nil =>
        rw [stream] at fewer
        exact fewer.trans (Nat.zero_le _)
      | cons b bytes =>
        have taken := progress (stream ▸ List.cons_ne_nil b bytes)
        omega
    obtain ⟨u, run, received⟩ := ih (carries.step step) whole fits idle working enough
    exact ⟨u, LabeledMachine.run?_cons_eq_some.mpr ⟨_, step, run⟩, received⟩

/-- However calls of `::send` and of `recv` are interleaved and cut, the other end receives the values
that were given, in their order and each once. Only a peer that has closed is told from zero, and when
everything was sent, as many calls as there are bytes on the way receive the rest. -/
theorem values_reach_other_end (documented : format.Documented) (reachable : (machine format).Reachable t)
    (whole : t.torn = false) (fits : Fits format t) :
    t.received format <+: t.given.map (fun json => some json.reread) ∧
      (∀ call ∈ t.connection.returned, call.1 = .closed → call.2 = true) ∧
      (t.sender = none → t.broken = false → ∀ calls : List (ℕ × TCPSocket.Answer),
        t.connection.stream.length ≤ calls.length →
        ∃ u, (machine format).run? t (calls.map fun call => .recv (.ready call.1) call.2) = some u ∧
          u.received format = t.given.map fun json => some json.reread) := by
  have carries := Carries.of_reachable reachable
  obtain ⟨r, values, later, -, -, given, received, closed, -⟩ := carries.place documented whole fits
  refine ⟨?_, closed, carries.read documented whole fits⟩
  rw [received, given, List.map_append]
  exact List.prefix_append _ _

/-- Two literals are on the way. -/
def twoLiterals : Channel :=
  let bytes := [0, 0, 0, 4, 0x74, 0x72, 0x75, 0x65, 0, 0, 0, 4, 0x6e, 0x75, 0x6c, 0x6c]
  { new with
    connection := { Connection.new with stream := bytes, sent := bytes }
    given := [.boolean true, .null] }

theorem run_twoLiterals :
    (machine TextFormat.literals).run? new [.send (.boolean true), .sysSend (.count 4), .sysSend (.count 3),
      .sysSend (.count 1), .send .null, .sysSend (.count 4), .sysSend (.count 4)] = some twoLiterals := rfl

/-- They are received one byte at a time. -/
theorem values_reach_other_end_bytewise :
    ∃ u, (machine TextFormat.literals).run? twoLiterals
        ((List.replicate 16 (0, .ready 0)).map fun call => .recv (.ready call.1) call.2) = some u ∧
      u.received TextFormat.literals = [some (.boolean true), some .null] := by
  have fits : Fits TextFormat.literals twoLiterals := by
    intro json member
    rcases List.mem_pair.mp member with rfl | rfl
    · exact ⟨.inr (.inl rfl), by decide⟩
    · exact ⟨.inl rfl, by decide⟩
  obtain ⟨-, -, all⟩ := values_reach_other_end TextFormat.documented_literals
    ⟨new, _, rfl, run_twoLiterals⟩ rfl fits
  exact all rfl rfl (List.replicate 16 (0, .ready 0)) (by decide)

end Channel

end H9d.JSONTCPSocket
