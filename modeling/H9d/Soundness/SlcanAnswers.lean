import H9d.Model.SlcanDriver

/-! # Answers of an SLCAN adapter

Answers carry no identity. An answer byte is read at the start of a line and is counted for the
frame that has waited longest, which is the one it answers as long as the answers to the init
string have been read by then.
-/

namespace H9d.SlcanDriver

open H9Frame Machine LabeledMachine Cxx

variable {name : String} {garbage : H9Frame} {s t : State}

section Commands

private theorem hexChar_ne_CR : ∀ d < 16, hexChar d ≠ CR := by decide

theorem count_hexFixed (width n : ℕ) : (hexFixed width n).count CR = 0 := by
  apply List.count_eq_zero.mpr
  intro member
  obtain ⟨i, -, digit⟩ := List.mem_map.mp member
  exact hexChar_ne_CR _ (Nat.mod_lt _ (by decide)) digit

/-- A transmitted frame is one command. -/
theorem buildSlcanMsg_count {frame : H9Frame} {msg : List Byte}
    (built : buildSlcanMsg frame = .value msg) : msg.count CR = 1 := by
  unfold buildSlcanMsg at built
  split at built
  · cases built
  · cases built
    have data : ((List.ofFn frame.data |>.take frame.dlc.toNat).flatMap
        fun b => hexFixed 2 b.toNat).count CR = 0 := by
      apply List.count_eq_zero.mpr
      intro member
      obtain ⟨b, -, digit⟩ := List.mem_flatMap.mp member
      exact List.count_eq_zero.mp (count_hexFixed 2 b.toNat) digit
    simp only [List.count_append, count_hexFixed, data]
    rfl

end Commands

/-- The answers that belong to frames, with their outcomes. -/
def Answer.frame? (a : Answer) : Option (FrameId × Bool) := a.command.frame?.map fun id => (id, a.ok)

/-- The commands whose answers have not been read, in the order of the answers. -/
def unread (stream : List WireByte) (commands : List Command) : List Command :=
  stream.filterMap (fun w => w.answer.map Answer.command) ++ commands

theorem unread_command (stream : List WireByte) (commands more : List Command) :
    unread stream (commands ++ more) = unread stream commands ++ more :=
  (List.append_assoc _ _ _).symm

theorem unread_answer (stream : List WireByte) (byte : Byte) (a : Answer) (commands : List Command) :
    unread (stream ++ [⟨byte, some a⟩]) commands = unread stream (a.command :: commands) := by
  rw [unread, List.filterMap_append, List.append_assoc]
  rfl

theorem unread_lineBytes (stream : List WireByte) (body : List Byte) (commands : List Command) :
    unread (stream ++ lineBytes body) commands = unread stream commands := by
  have silent : (lineBytes body).filterMap (fun w => w.answer.map Answer.command) = [] := by
    rw [List.filterMap_eq_nil_iff]
    intro w member
    obtain ⟨b, -, rfl⟩ := List.mem_map.mp member
    rfl
  rw [unread, List.filterMap_append, silent, List.append_nil]
  rfl

/-- What the adapter puts on the line: answers at the start of a line, and other lines. -/
def Framed : Bool → List WireByte → Prop
  | fresh, [] => fresh = true
  | fresh, w :: rest =>
      (match w.answer with
      | some a => fresh = true ∧ w.byte = if a.ok then CR else BEL
      | none => isTerminator w.byte = true → fresh = false) ∧ Framed (isTerminator w.byte) rest

theorem isTerminator_answer (ok : Bool) : isTerminator (if ok then CR else BEL) = true := by
  cases ok <;> rfl

theorem Framed.append {fresh : Bool} {first second : List WireByte} (framed : Framed fresh first)
    (more : Framed true second) : Framed fresh (first ++ second) := by
  induction first generalizing fresh with
  | nil =>
    obtain rfl : fresh = true := framed
    exact more
  | cons w rest ih => exact ⟨framed.1, ih framed.2⟩

theorem framed_answer (a : Answer) : Framed true [⟨if a.ok then CR else BEL, some a⟩] :=
  ⟨⟨rfl, rfl⟩, isTerminator_answer a.ok⟩

theorem framed_lineBytes {fresh : Bool} {body : List Byte} (begun : body = [] → fresh = false)
    (plain : ∀ b ∈ body, isTerminator b = false) : Framed fresh (lineBytes body) := by
  induction body generalizing fresh with
  | nil => exact ⟨fun _ => begun rfl, rfl⟩
  | cons b body ih =>
    have first := plain b List.mem_cons_self
    refine ⟨fun terminator => ?_, ih (fun _ => first) fun b' member => plain b' (List.mem_cons_of_mem b member)⟩
    rw [first] at terminator
    cases terminator

/-- The books of the driver and its endpoint, with the bytes that are still to come. -/
structure Books (s : State) (stream : List WireByte) : Prop where
  pending : s.pendingFrames = (unread stream s.commands).filterMap Command.frame?
  count : s.pendingSendCount = s.pendingFrames.length
  handed : s.acked.map Prod.fst ++ s.pendingFrames = s.handed
  nodup : s.handed.Nodup
  outcomes : s.acked = s.read.filterMap Answer.frame?
  framed : Framed s.recvBuf.isEmpty stream
  line : ∀ b ∈ s.recvBuf, isTerminator b = false

/-- A line that does not begin with a terminator changes nothing but the queue of frames. -/
theorem parseBuf_of_line {first : Byte} {rest : List Byte} (line : s.recvBuf = first :: rest)
    (plain : isTerminator first = false) (parsed : parseBuf s name garbage = .value t) :
    ∃ recvQueue, t = { s with recvQueue } := by
  obtain ⟨notCR, notBEL⟩ : first ≠ CR ∧ first ≠ BEL := by
    rw [isTerminator, Bool.or_eq_false_iff, beq_eq_false_iff_ne, beq_eq_false_iff_ne] at plain
    exact plain
  unfold parseBuf at parsed
  rw [line] at parsed
  dsimp only at parsed
  rw [if_neg notCR, if_neg notBEL] at parsed
  split at parsed
  · obtain ⟨frame, -, parsed⟩ := Outcome.bind_eq_value.mp parsed
    cases frame with
    | some frame =>
      cases parsed
      exact ⟨_, by rw [line]⟩
    | none =>
      dsimp only at parsed
      split at parsed
      · cases parsed
        exact ⟨_, rfl⟩
      · cases parsed
  · cases parsed
    exact ⟨_, rfl⟩

/-- An answer byte at the start of a line. -/
theorem parseBuf_of_answer (ok : Bool) (line : s.recvBuf = [if ok then CR else BEL]) :
    parseBuf s name garbage = .value (if 0 < s.pendingSendCount then
      sendAckCallback { s with pendingSendCount := s.pendingSendCount - 1 } ok else s) := by
  unfold parseBuf
  rw [line]
  cases ok with
  | true => rfl
  | false => rfl

section Reading

variable {w : WireByte} {rest : List WireByte}

/-- A byte of a line that is no answer. -/
theorem Books.recvLine (books : Books s (w :: rest)) (noAnswer : w.answer = none)
    (received : recvByte { s with read := s.read ++ w.answer.toList } name garbage w.byte = .value t) :
    Books t rest ∧ t.stream = s.stream ∧ t.pendingSendCount = s.pendingSendCount := by
  have framed := books.framed
  have pending := books.pending
  have outcomes := books.outcomes
  rw [Framed, noAnswer] at framed
  rw [unread, List.filterMap_cons, noAnswer] at pending
  rw [noAnswer, Option.toList_none, List.append_nil] at received
  unfold recvByte at received
  dsimp only at received
  split at received
  · next terminator =>
    obtain ⟨u, parsed, received⟩ := Outcome.bind_eq_value.mp received
    cases received
    obtain ⟨first, line, buf⟩ : ∃ first line, s.recvBuf = first :: line := by
      refine List.exists_cons_of_ne_nil fun empty => ?_
      have begun := framed.1 terminator
      rw [empty] at begun
      cases begun
    have plain := books.line first (by rw [buf]; exact List.mem_cons_self)
    obtain ⟨recvQueue, rfl⟩ := parseBuf_of_line (by rw [buf]; rfl) plain parsed
    refine ⟨⟨pending, books.count, books.handed, books.nodup, outcomes, ?_, nofun⟩, rfl, rfl⟩
    have later := framed.2
    rw [terminator] at later
    exact later
  · next plain =>
    rw [Bool.not_eq_true] at plain
    cases received
    refine ⟨⟨pending, books.count, books.handed, books.nodup, outcomes, ?_, fun b member => ?_⟩, rfl, rfl⟩
    · have later := framed.2
      rw [plain] at later
      have begun : (s.recvBuf ++ [w.byte]).isEmpty = false := by simp
      change Framed (s.recvBuf ++ [w.byte]).isEmpty rest
      rw [begun]
      exact later
    · rcases List.mem_append.mp member with old | new
      · exact books.line b old
      · rw [List.mem_singleton.mp new]
        exact plain

/-- An answer is counted for the frame it belongs to, and an answer to the init string for none. -/
theorem Books.recvAnswer {a : Answer} (books : Books s (w :: rest)) (answer : w.answer = some a)
    (quiet : a.command = .init → s.pendingSendCount = 0)
    (received : recvByte { s with read := s.read ++ w.answer.toList } name garbage w.byte = .value t) :
    Books t rest ∧ t.stream = s.stream ∧ t.pendingSendCount ≤ s.pendingSendCount := by
  obtain ⟨command, ok⟩ := a
  have framed := books.framed
  have pending := books.pending
  rw [Framed, answer] at framed
  obtain ⟨⟨fresh, byte⟩, later⟩ := framed
  rw [byte, isTerminator_answer] at later
  rw [unread, List.filterMap_cons, answer] at pending
  rw [answer, byte] at received
  have buf : s.recvBuf = [] := List.isEmpty_iff.mp fresh
  unfold recvByte at received
  dsimp only at received
  rw [if_pos (isTerminator_answer ok), parseBuf_of_answer ok (by rw [buf]; rfl), Outcome.value_bind] at received
  cases received
  cases command with
  | init =>
    have idle : ¬ 0 < s.pendingSendCount := by
      rw [quiet rfl]
      decide
    rw [if_neg idle]
    refine ⟨⟨pending, books.count, books.handed, books.nodup, ?_, later, nofun⟩, rfl, Nat.le_refl _⟩
    change s.acked = List.filterMap Answer.frame? (s.read ++ [⟨.init, ok⟩])
    rw [List.filterMap_append, ← books.outcomes]
    exact (List.append_nil s.acked).symm
  | frame id =>
    change s.pendingFrames = id :: (unread rest s.commands).filterMap Command.frame? at pending
    have count := books.count
    rw [pending, List.length_cons] at count
    have waiting : 0 < s.pendingSendCount := by omega
    rw [if_pos waiting]
    unfold sendAckCallback
    dsimp only
    rw [pending]
    refine ⟨⟨rfl, ?_, ?_, books.nodup, ?_, later, nofun⟩, rfl, Nat.sub_le _ _⟩
    · change s.pendingSendCount - 1 = _
      rw [count, Nat.add_sub_cancel]
    · have handed := books.handed
      rw [pending] at handed
      change (s.acked ++ [(id, ok)]).map Prod.fst ++ _ = s.handed
      rw [List.map_append, List.append_assoc]
      exact handed
    · change s.acked ++ [(id, ok)] = List.filterMap Answer.frame? (s.read ++ [⟨.frame id, ok⟩])
      rw [List.filterMap_append, ← books.outcomes]
      rfl

/-- A whole read, when the answers to the init string in it find no frame waiting. -/
theorem Books.recvBytes {ws : List WireByte} (books : Books s (ws ++ rest))
    (quiet : ∀ w ∈ ws, ∀ a ∈ w.answer, a.command = .init → s.pendingSendCount = 0)
    (received : recvBytes name garbage s ws = .value t) :
    Books t rest ∧ t.stream = s.stream := by
  induction ws generalizing s with
  | nil =>
    cases received
    exact ⟨books, rfl⟩
  | cons w ws ih =>
    obtain ⟨next, first, received⟩ := Outcome.bind_eq_value.mp received
    obtain ⟨after, stream, fewer⟩ : Books next (ws ++ rest) ∧ next.stream = s.stream ∧
        next.pendingSendCount ≤ s.pendingSendCount := by
      cases answer : w.answer with
      | none =>
        obtain ⟨after, stream, same⟩ := Books.recvLine books answer first
        exact ⟨after, stream, Nat.le_of_eq same⟩
      | some a => exact Books.recvAnswer books answer (quiet w List.mem_cons_self a answer) first
    obtain ⟨done, same⟩ := ih after
      (fun w' member a answer isInit =>
        Nat.le_zero.mp (fewer.trans_eq (quiet w' (List.mem_cons_of_mem w member) a answer isInit))) received
    exact ⟨done, same.trans stream⟩

end Reading

theorem Books.of_same {stream : List WireByte} (books : Books s stream)
    (driver : t.recvBuf = s.recvBuf ∧ t.pendingSendCount = s.pendingSendCount)
    (frames : t.pendingFrames = s.pendingFrames ∧ t.handed = s.handed ∧ t.acked = s.acked)
    (adapter : t.commands = s.commands ∧ t.read = s.read) : Books t stream := by
  obtain ⟨recvBuf, count⟩ := driver
  obtain ⟨pendingFrames, handed, acked⟩ := frames
  obtain ⟨commands, read⟩ := adapter
  refine ⟨?_, ?_, ?_, ?_, ?_, ?_, ?_⟩
  · rw [pendingFrames, commands]; exact books.pending
  · rw [count, pendingFrames]; exact books.count
  · rw [acked, pendingFrames, handed]; exact books.handed
  · rw [handed]; exact books.nodup
  · rw [acked, read]; exact books.outcomes
  · rw [recvBuf]; exact books.framed
  · rw [recvBuf]; exact books.line

/-- No answer to the init string is about to be read while a transmitted frame waits for its own. -/
def InitAnswersFirst (s : State) : Event → Prop
  | .recvData _ nbyte => s.recvQueue = [] → ∀ w ∈ s.stream.take nbyte, ∀ a ∈ w.answer,
      a.command = .init → s.pendingSendCount = 0
  | .sendFrame .. | .answer _ | .line _ => True

instance (s : State) : (e : Event) → Decidable (InitAnswersFirst s e)
  | .recvData _ nbyte => inferInstanceAs (Decidable (s.recvQueue = [] → ∀ w ∈ s.stream.take nbyte,
      ∀ a ∈ w.answer, a.command = .init → s.pendingSendCount = 0))
  | .sendFrame .. | .answer _ | .line _ => isTrue trivial

theorem Books.takeFrame (books : Books s s.stream) :
    Books (takeFrame s).2 (takeFrame s).2.stream := by
  unfold SlcanDriver.takeFrame
  split
  · exact books
  · exact books.of_same ⟨rfl, rfl⟩ ⟨rfl, rfl, rfl⟩ ⟨rfl, rfl⟩

theorem fillQueue_books {nbyte : ℕ} (books : Books s s.stream)
    (first : InitAnswersFirst s (.recvData garbage nbyte))
    (filled : fillQueue s name garbage nbyte = .value t) : Books t t.stream := by
  unfold fillQueue at filled
  split at filled
  · next empty =>
    have split : Books { s with stream := s.stream.drop nbyte }
        (s.stream.take nbyte ++ s.stream.drop nbyte) := by
      rw [List.take_append_drop]
      exact books.of_same ⟨rfl, rfl⟩ ⟨rfl, rfl, rfl⟩ ⟨rfl, rfl⟩
    obtain ⟨books, stream⟩ := split.recvBytes (first empty) filled
    rw [stream]
    exact books
  · cases filled
    exact books

/-- A step of the endpoint or its adapter keeps the books. -/
theorem step?_books {e : Event} (books : Books s s.stream) (first : InitAnswersFirst s e)
    (step : step? name s e = some t) : Books t t.stream := by
  cases e with
  | sendFrame id frame =>
    simp only [step?, Option.ite_none_right_eq_some, Option.some.injEq] at step
    obtain ⟨⟨-, fresh⟩, rfl⟩ := step
    unfold sendFrame
    cases built : buildSlcanMsg frame with
    | throws _ | undefined => exact books.of_same ⟨rfl, rfl⟩ ⟨rfl, rfl, rfl⟩ ⟨rfl, rfl⟩
    | value msg =>
      rw [Outcome.value_bind, buildSlcanMsg_count built]
      refine ⟨?_, ?_, ?_, ?_, books.outcomes, books.framed, books.line⟩
      · change s.pendingFrames ++ [id] =
          (unread s.stream (s.commands ++ [Command.frame id])).filterMap Command.frame?
        rw [unread_command, List.filterMap_append, ← books.pending]
        rfl
      · change s.pendingSendCount + 1 = (s.pendingFrames ++ [id]).length
        rw [List.length_append, books.count]
        rfl
      · change s.acked.map Prod.fst ++ (s.pendingFrames ++ [id]) = s.handed ++ [id]
        rw [← List.append_assoc, books.handed]
      · exact List.nodup_append.mpr ⟨books.nodup, List.nodup_singleton id, fun a member b same => by
          rw [List.mem_singleton.mp same]
          rintro rfl
          exact fresh member⟩
  | recvData garbage nbyte =>
    simp only [step?, Option.ite_none_right_eq_some, Option.some.injEq] at step
    obtain ⟨-, rfl⟩ := step
    cases received : recvData s name garbage nbyte with
    | throws _ | undefined => exact books.of_same ⟨rfl, rfl⟩ ⟨rfl, rfl, rfl⟩ ⟨rfl, rfl⟩
    | value result =>
      unfold recvData at received
      obtain ⟨u, filled, taken⟩ := Outcome.bind_eq_value.mp received
      cases taken
      have after := (fillQueue_books books first filled).takeFrame
      exact after
  | answer ok =>
    simp only [step?] at step
    split at step
    · cases step
    · next command commands waiting =>
      cases step
      refine ⟨?_, books.count, books.handed, books.nodup, books.outcomes,
        books.framed.append (framed_answer ⟨command, ok⟩), books.line⟩
      change s.pendingFrames = (unread (s.stream ++ [_]) commands).filterMap Command.frame?
      rw [unread_answer, ← waiting]
      exact books.pending
  | line body =>
    simp only [step?, Option.ite_none_right_eq_some, Option.some.injEq] at step
    obtain ⟨⟨filled, plain⟩, rfl⟩ := step
    have lines : Framed true (lineBytes body) := framed_lineBytes (fun empty => (filled empty).elim)
      fun b member => Bool.not_eq_true' _ ▸ List.all_eq_true.mp plain b member
    refine ⟨?_, books.count, books.handed, books.nodup, books.outcomes, books.framed.append lines,
      books.line⟩
    change s.pendingFrames = (unread (s.stream ++ lineBytes body) s.commands).filterMap Command.frame?
    rw [unread_lineBytes]
    exact books.pending

theorem books_opened (initString : List Byte) : Books (opened initString) [] where
  pending := by
    change [] = (unread [] (List.replicate (initString.count CR) .init)).filterMap Command.frame?
    rw [unread, List.filterMap_nil, List.nil_append, List.filterMap_replicate_of_none rfl]
  count := rfl
  handed := rfl
  nodup := List.nodup_nil
  outcomes := rfl
  framed := rfl
  line _ member := by cases member

/-- When the answers to the init string are read before any frame waits for its answer, each callback
fires once, for the frame and with the outcome of the answer, and the counter and the queue hold the
frames whose answers have not been read. -/
theorem acknowledgements_match {initString : List Byte} {events : List Event} {t : State}
    (run : (machine initString name).run? (opened initString) events = some t)
    (first : (machine initString name).AllSteps InitAnswersFirst (opened initString) events) :
    t.acked = t.read.filterMap Answer.frame? ∧
    t.acked.map Prod.fst ++ t.pendingFrames = t.handed ∧ t.handed.Nodup ∧
    t.pendingSendCount = t.pendingFrames.length ∧
    t.pendingFrames = (unread t.stream t.commands).filterMap Command.frame? := by
  have books : Books t t.stream := run_invariant_of_guard (fun s => Books s s.stream)
    (fun _ _ _ books first step => step?_books books first step) (books_opened initString) first run
  exact ⟨books.outcomes, books.handed, books.nodup, books.count, books.pending⟩

/-- The init string `O\r`. -/
private def openCommand : List Byte := [0x4f, 0x0d]

theorem acknowledgements_match_refused :
    ∃ t, (machine openCommand "can").run? (opened openCommand) [.answer true, .recvData default 1,
        .sendFrame 0 default, .answer false, .recvData default 1] = some t ∧
      t.acked = [(0, false)] := by
  have done : ((machine openCommand "can").run? (opened openCommand) [.answer true,
      .recvData default 1, .sendFrame 0 default, .answer false, .recvData default 1]).any
      (fun t => t.read == [⟨.init, true⟩, ⟨.frame 0, false⟩]) = true := by
    decide +kernel
  obtain ⟨t, run, checked⟩ := (Option.any_eq_true _ _).mp done
  obtain ⟨acked, -⟩ := acknowledgements_match run (by decide +kernel)
  rw [eq_of_beq checked] at acked
  exact ⟨t, run, acked⟩

/-- The claim for every run fails: the frame is sent before the answer to the init string is read. -/
theorem init_answer_acknowledges_frame :
    ¬ ∀ (initString : List Byte) (name : String) (events : List Event) (t : State),
      (machine initString name).run? (opened initString) events = some t →
      t.acked = t.read.filterMap Answer.frame? := by
  intro everywhere
  have done : ((machine openCommand "can").run? (opened openCommand) [.sendFrame 0 default,
      .answer true, .answer false, .recvData default 2]).any (fun t => t.acked == [(0, true)] &&
        t.read == [⟨.init, true⟩, ⟨.frame 0, false⟩]) = true := by
    decide +kernel
  obtain ⟨t, run, checked⟩ := (Option.any_eq_true _ _).mp done
  rw [Bool.and_eq_true, beq_iff_eq, beq_iff_eq] at checked
  have matched := everywhere openCommand "can" _ t run
  rw [checked.1, checked.2] at matched
  exact absurd matched (by decide)

end H9d.SlcanDriver
