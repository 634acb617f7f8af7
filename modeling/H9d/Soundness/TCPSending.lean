import H9d.Core.BigEndian
import H9d.Model.TCPSender
import H9d.Soundness.TCPReassembly

/-! # What a message is on the stream

The reader of a connection knows where a message ends only from its header, so a header that is written in
part shifts all that follows.
-/

namespace H9d.TCPSocket

open H9Frame

/-- The sender, reduced to what is left, is the writer that the threads of the daemon are modelled with. -/
theorem toWriter_send (s : Sender) (result : SendResult) :
    (s.send result).map Sender.toWriter id = s.toWriter.send result := by
  cases result with
  | error errno => rfl
  | count n =>
    cases n with
    | zero => rfl
    | succ n =>
      rcases s with ⟨buf, _ | sentByte⟩
      · rw [Sender.send, Sender.toWriter, Writer.send]
        dsimp only
        rcases Nat.eq_zero_or_pos buf.length with none | some
        · rw [if_neg (by omega), if_pos none]
          rfl
        · rw [if_pos some, if_neg (by omega)]
          rfl
      · rw [Sender.send, Sender.toWriter, Writer.send]
        dsimp only
        rcases Nat.lt_or_ge (sentByte + (n + 1)) buf.length with more | all
        · rw [if_pos more, if_neg (by omega)]
          simp only [Sum.map_inl, Sender.toWriter, Nat.sub_sub]
        · rw [if_neg (by omega), if_pos (by omega)]
          rfl

/-- A stream of messages: four bytes of length, the most significant first, and as many bytes of text. -/
inductive Framed : List Byte → List (List Byte) → Prop
  | nil : Framed [] []
  | cons {length text stream : List Byte} {texts : List (List Byte)} (four : length.length = 4)
      (counts : Bytes.value length = text.length) (later : Framed stream texts) :
      Framed (length ++ (text ++ stream)) (text :: texts)

theorem header_eq (size : ℕ) : header size = Bytes.ofValue 4 size := by
  simp [header, Bytes.ofValue]

section Sending

variable {buf bytes stream : List Byte} {results : List SendResult} {texts : List (List Byte)}

/-- A call that goes on has taken something. -/
theorem send_inl {s next : Sender} {result : SendResult} (goes : s.send result = .inl next) :
    ∃ n, result = .count (n + 1) ∧ next = ⟨s.buf, some (s.sentByte.elim 0 (· + (n + 1)))⟩ := by
  cases result with
  | error errno => cases goes
  | count n =>
    cases n with
    | zero => cases goes
    | succ n =>
      refine ⟨n, rfl, ?_⟩
      rcases s with ⟨buf, sentByte⟩
      cases sentByte with
      | none =>
        obtain ⟨-, same⟩ := (ite_eq_iff.mp goes).resolve_right fun ends => nomatch ends.2
        exact (Sum.inl.inj same).symm
      | some sentByte =>
        obtain ⟨-, same⟩ := (ite_eq_iff.mp goes).resolve_right fun ends => nomatch ends.2
        exact (Sum.inl.inj same).symm

/-- A call that ends with 1 has taken something, and nothing is left to be sent. -/
theorem send_inr {s : Sender} {result : SendResult} (ends : s.send result = .inr .sent) :
    ∃ n, result = .count (n + 1) ∧ s.buf.length ≤ s.sentByte.elim 0 (· + (n + 1)) := by
  cases result with
  | error errno => cases ends
  | count n =>
    cases n with
    | zero => cases ends
    | succ n =>
      refine ⟨n, rfl, ?_⟩
      rcases s with ⟨buf, sentByte⟩
      cases sentByte with
      | none => exact Nat.le_of_not_lt ((ite_eq_iff.mp ends).resolve_left fun goes => nomatch goes.2).1
      | some sentByte => exact Nat.le_of_not_lt ((ite_eq_iff.mp ends).resolve_left fun goes => nomatch goes.2).1

/-- The first call of a run, and what the run is made of behind it. -/
theorem run_cons {s : Sender} {result : SendResult} {ended : Sent}
    (returned : Sender.run s (result :: results) = some (ended, bytes)) :
    admits s.asked result = true ∧
      ((∃ next later, s.send result = .inl next ∧ Sender.run next results = some (ended, later) ∧
          bytes = taken s.asked result ++ later) ∨
        s.send result = .inr ended ∧ bytes = taken s.asked result) := by
  rw [Sender.run] at returned
  obtain ⟨admitted, returned⟩ := Option.ite_none_right_eq_some.mp returned
  refine ⟨admitted, ?_⟩
  cases sent : s.send result with
  | inl next =>
    rw [sent] at returned
    obtain ⟨⟨_, later⟩, rest, same⟩ := Option.map_eq_some_iff.mp returned
    cases same
    exact .inl ⟨next, later, rfl, rest, rfl⟩
  | inr ended =>
    rw [sent] at returned
    obtain ⟨-, same⟩ := Option.ite_none_right_eq_some.mp returned
    cases same
    exact .inr ⟨rfl, rfl⟩

/-- The loop returns 1 only after all that was left of the text. -/
theorem run_data {sentByte : ℕ} (returned : Sender.run ⟨buf, some sentByte⟩ results = some (.sent, bytes)) :
    bytes = buf.drop sentByte := by
  induction results generalizing sentByte bytes with
  | nil => cases returned
  | cons result results ih =>
    obtain ⟨-, ⟨next, later, goes, rest, rfl⟩ | ⟨ends, rfl⟩⟩ := run_cons returned
    · obtain ⟨n, rfl, rfl⟩ := send_inl goes
      rw [ih rest]
      change (buf.drop sentByte).take (n + 1) ++ buf.drop (sentByte + (n + 1)) = buf.drop sentByte
      rw [← List.drop_drop, List.take_append_drop]
    · obtain ⟨n, rfl, all⟩ := send_inr ends
      apply List.take_of_length_le
      change buf.length ≤ sentByte + (n + 1) at all
      change (buf.drop sentByte).length ≤ n + 1
      rw [List.length_drop]
      omega

/-- What a call that returned 1 has appended: what was taken of the header, and the text. -/
theorem send_sent (returned : send buf results = some (.sent, bytes)) :
    ∃ n, 1 ≤ n ∧ n ≤ 4 ∧ results.head? = some (.count n) ∧ bytes = (header buf.length).take n ++ buf := by
  cases results with
  | nil => cases returned
  | cons result results =>
    obtain ⟨admitted, ⟨next, later, goes, rest, rfl⟩ | ⟨ends, rfl⟩⟩ := run_cons returned
    · obtain ⟨n, rfl, rfl⟩ := send_inl goes
      have four : n + 1 ≤ 4 := by simpa [admits, Sender.asked, length_header] using admitted
      refine ⟨n + 1, by omega, four, rfl, ?_⟩
      rw [run_data rest]
      rfl
    · obtain ⟨n, rfl, empty⟩ := send_inr ends
      have four : n + 1 ≤ 4 := by simpa [admits, Sender.asked, length_header] using admitted
      have nothing : buf = [] := List.eq_nil_of_length_eq_zero (Nat.le_zero.mp empty)
      refine ⟨n + 1, by omega, four, rfl, ?_⟩
      rw [nothing, List.append_nil]
      rfl

end Sending

/-! ## Many messages on one stream -/

section Messages

/-- The first `::send` takes the whole header, and the header can tell the length. -/
structure Transfer.Whole (t : Transfer) : Prop where
  header : t.results.head? = some (.count 4)
  short : t.buf.length < 2 ^ 32

/-- What transfers have appended to the stream, one after the other. -/
def appended (transfers : List Transfer) : List Byte := transfers.flatMap Transfer.bytes

def sentTexts (transfers : List Transfer) : List (List Byte) := transfers.map Transfer.buf

variable {stream : List Byte} {texts : List (List Byte)} {t : Transfer} {transfers : List Transfer}

theorem Framed.length (framed : Framed stream texts) :
    stream.length = (texts.map fun text => 4 + text.length).sum := by
  induction framed with
  | nil => rfl
  | cons four counts later ih =>
    rw [List.length_append, List.length_append, four, ih, List.map_cons, List.sum_cons, Nat.add_assoc]

/-- The first message of a stream. -/
theorem Framed.head {text : List Byte} (framed : Framed stream (text :: texts)) :
    ∃ length rest, stream = length ++ (text ++ rest) ∧ length.length = 4 ∧
      Bytes.value length = text.length ∧ Framed rest texts := by
  cases framed with
  | cons four counts later => exact ⟨_, _, rfl, four, counts, later⟩

theorem Transfer.length_le (t : Transfer) : t.bytes.length ≤ 4 + t.buf.length := by
  obtain ⟨n, -, four, -, bytes⟩ := send_sent t.returned
  rw [bytes, List.length_append, List.length_take, length_header]
  omega

/-- Only a whole header is as long as a header. -/
theorem Transfer.length_eq (t : Transfer) (length : t.bytes.length = 4 + t.buf.length) :
    t.results.head? = some (.count 4) ∧ t.bytes = TCPSocket.header t.buf.length ++ t.buf := by
  obtain ⟨n, -, four, first, bytes⟩ := send_sent t.returned
  rw [bytes, List.length_append, List.length_take, length_header] at length
  obtain rfl : n = 4 := by omega
  exact ⟨first, bytes⟩

theorem Transfer.Whole.bytes_eq (whole : t.Whole) : t.bytes = encode t.buf := by
  obtain ⟨n, -, four, first, bytes⟩ := send_sent t.returned
  rw [whole.header] at first
  cases first
  exact bytes

theorem length_appended_le (transfers : List Transfer) :
    (appended transfers).length ≤ ((sentTexts transfers).map fun text => 4 + text.length).sum := by
  induction transfers with
  | nil => exact Nat.le_refl 0
  | cons t transfers ih =>
    rw [appended, List.flatMap_cons, List.length_append, sentTexts, List.map_cons, List.map_cons, List.sum_cons]
    exact Nat.add_le_add t.length_le ih

/-- Whole transfers are what a receiver at the other end gets. -/
theorem appended_whole (whole : ∀ t ∈ transfers, t.Whole) :
    appended transfers = (sentTexts transfers).flatMap encode := by
  rw [appended, sentTexts, List.flatMap_map]
  exact List.flatMap_congr fun t member => (whole t member).bytes_eq

theorem framed_of_short (short : ∀ text ∈ texts, text.length < 2 ^ 32) :
    Framed (texts.flatMap encode) texts := by
  induction texts with
  | nil => exact .nil
  | cons text texts ih =>
    rw [List.forall_mem_cons] at short
    have counts : Bytes.value (header text.length) = text.length := by
      rw [header_eq]
      exact Bytes.value_ofValue_of_lt short.1
    rw [List.flatMap_cons, encode, List.append_assoc]
    exact .cons (length_header _) counts (ih short.2)

/-- Where the stream is framed, no byte of a header is missing. -/
theorem whole_of_framed (framed : Framed (appended transfers) (sentTexts transfers)) :
    ∀ t ∈ transfers, t.Whole := by
  induction transfers with
  | nil => exact nofun
  | cons t transfers ih =>
    have total := framed.length
    have most := length_appended_le transfers
    have least := t.length_le
    rw [appended, List.flatMap_cons, List.length_append, sentTexts, List.map_cons, List.map_cons,
      List.sum_cons] at total
    have filled : t.bytes.length = 4 + t.buf.length := by
      rw [appended, sentTexts] at most
      omega
    obtain ⟨first, bytes⟩ := t.length_eq filled
    obtain ⟨length, rest, stream, four, counts, later⟩ := Framed.head framed
    rw [appended, List.flatMap_cons, bytes, List.append_assoc] at stream
    obtain ⟨same, behind⟩ := List.append_inj stream ((length_header _).trans four.symm)
    obtain ⟨-, rfl⟩ := List.append_inj behind rfl
    have bound := Bytes.value_lt length
    rw [four, counts] at bound
    exact List.forall_mem_cons.mpr ⟨⟨first, bound⟩, ih later⟩

/-- The stream of a connection is made of the messages that were sent exactly if no header was written in
part and every length fits the header. -/
theorem sends_framed_iff (transfers : List Transfer) :
    Framed (appended transfers) (sentTexts transfers) ↔ ∀ t ∈ transfers, t.Whole := by
  constructor
  · exact whole_of_framed
  · intro whole
    rw [appended_whole whole]
    apply framed_of_short
    intro text member
    obtain ⟨t, sent, rfl⟩ := List.mem_map.mp member
    exact (whole t sent).short

/-- Half of the header of a message, and then its text. -/
def halfHeader : Transfer where
  buf := [7]
  results := [.count 2, .count 1]
  bytes := [0, 0, 7]
  returned := by decide

/-- The call returned 1, and nobody can tell the message from the stream. -/
theorem halfHeader_lost :
    send [7] [.count 2, .count 1] = some (.sent, [0, 0, 7]) ∧
      ¬Framed (appended [halfHeader]) (sentTexts [halfHeader]) := by
  refine ⟨halfHeader.returned, fun framed => ?_⟩
  exact absurd framed.length (by decide)

end Messages

end H9d.TCPSocket
