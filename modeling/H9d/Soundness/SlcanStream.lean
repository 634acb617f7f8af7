import H9d.Soundness.SlcanLines

/-! # Reading from an SLCAN adapter

Each time its line is ready the driver reads once, and the bus thread takes all the frames that the
read completed. So what is delivered depends on the lines of the stream, and not on where the reads
cut it.
-/

namespace H9d.SlcanDriver

open H9Frame Cxx

variable {name : String} {garbage : H9Frame} {s t u : State}

section Loop

theorem recvData_of_queue {frame : H9Frame} {recvQueue : List H9Frame} (queue : s.recvQueue = frame :: recvQueue)
    (nbyte : ℕ) :
    recvData s name garbage nbyte = .value
      (if recvQueue = [] then .recvFrame frame else .recvFrameDataInBuf frame, { s with recvQueue }) := by
  rw [recvData, fillQueue, if_neg (by rw [queue]; exact List.cons_ne_nil _ _), Outcome.value_bind, takeFrame]
  split
  · next empty => cases queue.symm.trans empty
  · next taken =>
    obtain ⟨rfl, rfl⟩ := List.cons.inj (queue.symm.trans taken)
    rfl

/-- The loop takes what is in the queue, without reading. -/
theorem recvThread_of_queue {frame : H9Frame} {recvQueue : List H9Frame}
    (queue : s.recvQueue = frame :: recvQueue) (nbyte : ℕ) :
    recvThread name garbage nbyte s = .value (frame :: recvQueue, { s with recvQueue := [] }) := by
  induction recvQueue generalizing frame s with
  | nil =>
    rw [recvThread]
    split <;> rename_i received <;> rw [recvData_of_queue queue] at received <;> cases received
    rfl
  | cons next recvQueue ih =>
    rw [recvThread]
    split <;> rename_i received <;> rw [recvData_of_queue queue] at received <;> cases received
    rw [ih rfl]
    rfl

/-- The line is ready: one read, and all the frames that are there after it. -/
theorem recvThread_eq (idle : s.recvQueue = []) (nbyte : ℕ) :
    recvThread name garbage nbyte s =
      recvBytes name garbage { s with stream := s.stream.drop nbyte } (s.stream.take nbyte) >>= fun t =>
        .value (t.recvQueue, { t with recvQueue := [] }) := by
  have data : recvData s name garbage nbyte =
      recvBytes name garbage { s with stream := s.stream.drop nbyte } (s.stream.take nbyte) >>= fun t =>
        .value (takeFrame t) := by
    rw [recvData, fillQueue, if_pos idle]
  cases filled : recvBytes name garbage { s with stream := s.stream.drop nbyte } (s.stream.take nbyte) with
  | value t =>
    rw [filled, Outcome.value_bind, takeFrame] at data
    rw [Outcome.value_bind]
    rw [recvThread]
    cases queue : t.recvQueue with
    | nil =>
      rw [queue] at data
      split <;> rename_i received <;> rw [data] at received <;> cases received
      rw [← queue]
    | cons frame recvQueue =>
      rw [queue] at data
      cases recvQueue with
      | nil =>
        split <;> rename_i received <;> rw [data] at received <;> cases received
        rfl
      | cons next recvQueue =>
        split <;> rename_i received <;> rw [data] at received <;> cases received
        rw [recvThread_of_queue rfl]
        rfl
  | throws e =>
    rw [filled] at data
    rw [recvThread]
    split <;> rename_i received <;> rw [data] at received <;> cases received
    rfl
  | undefined =>
    rw [filled] at data
    rw [recvThread]
    split <;> rename_i received <;> rw [data] at received <;> cases received
    rfl

end Loop

section Reads

variable {reads : List (H9Frame × ℕ)} {frames : List H9Frame}

/-- The bytes that so many reads take from the stream. -/
def bytesRead (s : State) (reads : List (H9Frame × ℕ)) : List WireByte :=
  s.stream.take (reads.map Prod.snd).sum

variable (garbage t reads) in
/-- The lines of the first read come before those of the rest, which begin with what it left. -/
theorem linesOf_cons (nbyte : ℕ) (stream : t.stream = s.stream.drop nbyte)
    (left : t.recvBuf = (linesOf s (s.stream.take nbyte)).2) :
    linesOf s (bytesRead s ((garbage, nbyte) :: reads)) =
      ((linesOf s (s.stream.take nbyte)).1 ++ (linesOf t (bytesRead t reads)).1,
        (linesOf t (bytesRead t reads)).2) := by
  unfold linesOf bytesRead at *
  rw [List.map_cons, List.sum_cons, List.take_add, List.map_append, Lines.split_append, stream, left]

theorem recvThreadAll_value (idle : s.recvQueue = []) (done : recvThreadAll name reads s = .value (frames, u)) :
    ∃ effects, List.Forall₂ (Brings name) (linesOf s (bytesRead s reads)).1 effects ∧
      Progress effects s { u with recvQueue := frames } ∧ u.recvQueue = [] ∧
      u.recvBuf = (linesOf s (bytesRead s reads)).2 := by
  induction reads generalizing s frames with
  | nil =>
    obtain ⟨rfl, rfl⟩ := Prod.mk.inj (Outcome.value.inj done)
    refine ⟨[], ?_, ?_, idle, ?_⟩
    · rw [bytesRead]
      exact .nil
    · rw [← idle]
      exact .refl s
    · rw [bytesRead]
      rfl
  | cons read reads ih =>
    obtain ⟨garbage, nbyte⟩ := read
    obtain ⟨⟨now, next⟩, first, done⟩ := Outcome.bind_eq_value.mp done
    obtain ⟨⟨more, v⟩, rest, done⟩ := Outcome.bind_eq_value.mp done
    obtain ⟨rfl, rfl⟩ := Prod.mk.inj (Outcome.value.inj done)
    rw [recvThread_eq idle] at first
    obtain ⟨t, received, first⟩ := Outcome.bind_eq_value.mp first
    obtain ⟨rfl, rfl⟩ := Prod.mk.inj (Outcome.value.inj first)
    obtain ⟨before, beforeLines, progress, left, stream⟩ := recvBytes_value received
    obtain ⟨after, afterLines, later, empty, end_⟩ := ih rfl rest
    have lines := linesOf_cons garbage { t with recvQueue := [] } reads nbyte stream left
    rw [lines]
    refine ⟨before ++ after, List.rel_append beforeLines afterLines, ?_, empty, end_⟩
    have queue : more = after.filterMap Effect.frame? := later.recvQueue
    refine Progress.trans (t := t) ⟨progress.1, progress.2, progress.3, progress.4⟩
      ⟨?_, later.2, later.3, later.4⟩
    change t.recvQueue ++ more = t.recvQueue ++ after.filterMap Effect.frame?
    rw [queue]

theorem recvThreadAll_returns (idle : s.recvQueue = [])
    (harmless : ∀ line ∈ (linesOf s (bytesRead s reads)).1, ∀ garbage,
      (readLine name garbage line).Returns) : (recvThreadAll name reads s).Returns := by
  induction reads generalizing s with
  | nil => trivial
  | cons read reads ih =>
    obtain ⟨garbage, nbyte⟩ := read
    have firstHarmless : (recvBytes name garbage { s with stream := s.stream.drop nbyte }
        (s.stream.take nbyte)).Returns := by
      refine recvBytes_returns fun line member => harmless line ?_ garbage
      rw [bytesRead, List.map_cons, List.sum_cons, List.take_add, linesOf, List.map_append, Lines.split_append]
      exact List.mem_append_left _ member
    obtain ⟨t, received⟩ := Outcome.returns_iff.mp firstHarmless
    obtain ⟨-, -, -, left, stream⟩ := recvBytes_value received
    have lines := linesOf_cons garbage { t with recvQueue := [] } reads nbyte stream left
    rw [lines] at harmless
    obtain ⟨rest, all⟩ := Outcome.returns_iff.mp
      (ih (s := { t with recvQueue := [] }) rfl fun line member => harmless line (List.mem_append_right _ member))
    rw [recvThreadAll, recvThread_eq idle, received, Outcome.value_bind, Outcome.value_bind]
    dsimp only
    rw [all]
    trivial

end Reads

section Robustness

/-- If everything accepted is among what is taken, and no more is taken, then nothing else is. -/
theorem accepted_of_count {α β γ : Type*} {R : α → β → Prop} {p : α → Prop} [DecidablePred p]
    {take : β → Option γ} (accepts : ∀ a b, R a b → p a → (take b).isSome) {as : List α} {bs : List β}
    (pairs : List.Forall₂ R as bs) :
    (as.filter p).length ≤ (bs.filterMap take).length ∧
      ((bs.filterMap take).length ≤ (as.filter p).length →
        ∀ a ∈ as, ∃ b, R a b ∧ ((take b).isSome → p a)) := by
  induction pairs with
  | nil => exact ⟨Nat.le_refl _, fun _ => List.forall_mem_nil _⟩
  | @cons a b as bs first rest ih =>
    obtain ⟨fewer, others⟩ := ih
    rw [List.filter_cons, List.filterMap_cons]
    by_cases accepted : p a
    · obtain ⟨c, taken⟩ := Option.isSome_iff_exists.mp (accepts a b first accepted)
      rw [if_pos (decide_eq_true accepted), taken, List.length_cons, List.length_cons]
      refine ⟨Nat.succ_le_succ fewer, fun same => List.forall_mem_cons.mpr ⟨?_, ?_⟩⟩
      · exact ⟨b, first, fun _ => accepted⟩
      · exact others (Nat.le_of_succ_le_succ same)
    · rw [if_neg (by simpa using accepted)]
      cases taken : take b with
      | none =>
        refine ⟨fewer, fun same => List.forall_mem_cons.mpr ⟨⟨b, first, fun isSome => ?_⟩, others same⟩⟩
        rw [taken] at isSome
        cases isSome
      | some c =>
        rw [List.length_cons]
        refine ⟨Nat.le_succ_of_le fewer, fun same => ?_⟩
        omega

open Classical in
/-- The reads come to an end, and deliver the frames of the well-formed lines and no others. -/
def Robust (name : String) (reads : List (H9Frame × ℕ)) (s : State) : Prop :=
  ∃ frames t, recvThreadAll name reads s = .value (frames, t) ∧
    List.Forall₂ (fun line f => Encodes line f ∧ f.origin = name)
      ((linesOf s (bytesRead s reads)).1.filter fun line => WellFormed line) frames

open Classical in
theorem delivered_of_harmless {lines : List (List Byte)} {effects : List Effect}
    (brought : List.Forall₂ (Brings name) lines effects) (harmless : ∀ line ∈ lines, Harmless line) :
    List.Forall₂ (fun line f => Encodes line f ∧ f.origin = name)
      (lines.filter fun line => WellFormed line) (effects.filterMap Effect.frame?) := by
  induction brought with
  | nil => exact .nil
  | @cons line effect lines effects first rest ih =>
    obtain ⟨garbage, read⟩ := first
    have later := ih fun line member => harmless line (List.mem_cons_of_mem _ member)
    rw [List.filter_cons, List.filterMap_cons]
    by_cases wellFormed : WellFormed line
    · obtain ⟨f, encodes⟩ := wellFormed
      obtain ⟨g, rfl, text, origin⟩ := encodes.read name garbage read
      rw [if_pos (decide_eq_true ⟨f, encodes⟩)]
      exact .cons ⟨text, origin⟩ later
    · obtain ⟨effect', read', sound⟩ := (harmless_iff name garbage).mp (harmless line List.mem_cons_self)
      obtain rfl := Outcome.value.inj (read.symm.trans read')
      rw [if_neg (by simpa using wellFormed)]
      cases taken : effect.frame? with
      | none => exact later
      | some frame => exact absurd (sound (by rw [taken]; rfl)) wellFormed

theorem robust_iff (idle : s.recvQueue = []) (reads : List (H9Frame × ℕ)) :
    Robust name reads s ↔ ∀ line ∈ (linesOf s (bytesRead s reads)).1, Harmless line := by
  classical
  constructor
  · rintro ⟨frames, t, done, delivered⟩
    obtain ⟨effects, brought, progress, -, -⟩ := recvThreadAll_value idle done
    have frames_ : frames = effects.filterMap Effect.frame? := by
      have queue := progress.recvQueue
      rwa [idle, List.nil_append] at queue
    have accepts : ∀ line effect, Brings name line effect → WellFormed line → effect.frame?.isSome := by
      rintro line effect ⟨garbage, read⟩ ⟨f, encodes⟩
      obtain ⟨g, rfl, -, -⟩ := encodes.read name garbage read
      rfl
    intro line member
    obtain ⟨effect, ⟨garbage, read⟩, sound⟩ := (accepted_of_count accepts brought).2
      (by rw [← frames_, ← delivered.length_eq]) line member
    exact (harmless_iff name garbage).mpr ⟨effect, read, sound⟩
  · intro harmless
    have returns : (recvThreadAll name reads s).Returns := recvThreadAll_returns idle fun line member garbage => by
      obtain ⟨effect, read, -⟩ := (harmless_iff name garbage).mp (harmless line member)
      rw [read]
      trivial
    obtain ⟨⟨frames, t⟩, done⟩ := Outcome.returns_iff.mp returns
    obtain ⟨effects, brought, progress, -, -⟩ := recvThreadAll_value idle done
    have queue := progress.recvQueue
    rw [idle, List.nil_append] at queue
    change frames = _ at queue
    exact ⟨frames, t, done, queue ▸ delivered_of_harmless brought harmless⟩

/-- The driver at the start of a line, with nothing left from before. -/
def startOfLine (s : State) (stream : List WireByte) : State :=
  { s with recvBuf := [], recvQueue := [], stream }

/-- Whatever comes over the line and however it is cut into reads: the driver copes with it and drops
all that is malformed if every line that ends is harmless, and only then. -/
theorem stream_robust (name : String) (s : State) (stream : List WireByte) (reads : List (H9Frame × ℕ)) :
    Robust name reads (startOfLine s stream) ↔
      ∀ line ∈ (Lines.split isTerminator []
        ((stream.take (reads.map Prod.snd).sum).map WireByte.byte)).1, Harmless line :=
  robust_iff rfl reads

/-- A letter `T` and an error answer. -/
def cutOff : List WireByte := [⟨0x54, none⟩, ⟨BEL, none⟩]

/-- Complaining about a line that does not end in a carriage return throws. -/
theorem cutOff_throws :
    recvThreadAll "can0" [(default, 2)] (startOfLine (opened []) cutOff) = .throws .outOfRange ∧
      ¬Robust "can0" [(default, 2)] (startOfLine (opened []) cutOff) := by
  have throws : recvThreadAll "can0" [(default, 2)] (startOfLine (opened []) cutOff) =
      .throws .outOfRange := by
    rw [recvThreadAll, recvThread_eq rfl]
    rfl
  refine ⟨throws, ?_⟩
  rintro ⟨frames, t, done, -⟩
  cases throws.symm.trans done

end Robustness

section Delivery

theorem exists_left {α β : Type*} {R : α → β → Prop} {as : List α} {bs : List β}
    (pairs : List.Forall₂ R as bs) {b : β} (member : b ∈ bs) : ∃ a ∈ as, R a b := by
  induction pairs with
  | nil => cases member
  | @cons a b' as bs first rest ih =>
    rcases List.mem_cons.mp member with rfl | later
    · exact ⟨a, List.mem_cons_self, first⟩
    · obtain ⟨a', inside, related⟩ := ih later
      exact ⟨a', List.mem_cons_of_mem a inside, related⟩

/-- What the adapter sends: a frame, in the text that the driver would write, or an answer. -/
inductive Item
  | frame (f : H9Frame)
  | answer (ok : Bool)

namespace Item

def frame? : Item → Option H9Frame
  | frame f => some f
  | answer _ => none

def answer? : Item → Option Bool
  | answer ok => some ok
  | frame _ => none

/-- The members of a frame fit the text. -/
def Fits : Item → Prop
  | frame f => f.type.toNat < 32 ∧ f.flags.toNat < 8 ∧ f.seqnum.toNat < 32 ∧ f.dlc.toNat ≤ 8
  | answer _ => True

def IsText : Item → List Byte → Prop
  | frame f, text => buildSlcanMsg f = .value text
  | answer ok, text => text = [if ok then CR else BEL]

end Item

/-- The frame that was sent, with the driver as its origin. -/
structure ReceivedAs (name : String) (f g : H9Frame) : Prop where
  type : g.type = f.type
  sourceId : g.sourceId = f.sourceId
  unicast : f.isUnicast = true →
    g.flags = f.flags ∧ g.destinationId = f.destinationId ∧ g.seqnum = f.seqnum
  broadcast : f.isUnicast = false → g.group = f.group
  dlc : g.dlc = f.dlc
  data : (List.ofFn g.data).take f.dlc.toNat = (List.ofFn f.data).take f.dlc.toNat
  origin : g.origin = name

/-- What an item brings when its line is read. -/
def Item.Meets (name : String) : Item → Effect → Prop
  | .frame f, .frame g => ReceivedAs name f g
  | .answer ok, .answer ok' => ok' = ok
  | .frame _, .answer _ | .frame _, .nothing | .answer _, .frame _ | .answer _, .nothing => False

theorem isTerminator_hex {width n : ℕ} {text : List Byte} (hex : IsHex width text n) :
    ∀ b ∈ text, isTerminator b = false := by
  have plain : ∀ b : Byte, (hexDigit? b).isSome → isTerminator b = false := by decide
  exact fun b member => plain b (hex.digits b member)

theorem Encodes.oneLine {line : List Byte} {f : H9Frame} (encodes : Encodes line f) :
    ∃ body last, line = body ++ [last] ∧ (∀ b ∈ body, isTerminator b = false) ∧ isTerminator last = true := by
  obtain ⟨-, idText, dlcText, dataTexts, rfl, id, dlc, data⟩ := encodes
  refine ⟨_, CR, rfl, fun b member => ?_, rfl⟩
  simp only [List.mem_append, List.mem_singleton] at member
  rcases member with ((rfl | inId) | inDlc) | inData
  · rfl
  · exact isTerminator_hex id b inId
  · exact isTerminator_hex dlc b inDlc
  · obtain ⟨text, textMember, inText⟩ := List.mem_flatten.mp inData
    obtain ⟨byte, -, hex⟩ := exists_left data.flip textMember
    exact isTerminator_hex hex b inText

theorem Item.IsText.oneLine {item : Item} {text : List Byte} (isText : item.IsText text) :
    ∃ body last, text = body ++ [last] ∧ (∀ b ∈ body, isTerminator b = false) ∧ isTerminator last = true := by
  cases item with
  | frame f => exact (buildSlcanMsg_encodes isText).oneLine
  | answer ok =>
    obtain rfl : text = [if ok then CR else BEL] := isText
    exact ⟨[], _, rfl, nofun, by cases ok <;> rfl⟩

/-- The line of an item brings what the item says, whatever is in memory. -/
theorem Item.IsText.meets {item : Item} {text : List Byte} (isText : item.IsText text) (fits : item.Fits)
    (name : String) (garbage : H9Frame) :
    ∃ effect, readLine name garbage text = .value effect ∧ item.Meets name effect := by
  cases item with
  | frame f =>
    obtain ⟨type, flags, seqnum, -⟩ := fits
    obtain ⟨data, read, same⟩ := readLine_encodes (buildSlcanMsg_encodes isText) name garbage
    obtain ⟨sameType, sameSource, unicast, broadcast⟩ :=
      (addressed_setCanId garbage f.canId).recover type flags seqnum
    exact ⟨_, read, sameType, sameSource, unicast, broadcast, rfl, same, rfl⟩
  | answer ok =>
    obtain rfl : text = [if ok then CR else BEL] := isText
    cases ok with
    | true => exact ⟨.answer true, rfl, rfl⟩
    | false => exact ⟨.answer false, rfl, rfl⟩

theorem meets_of_brings {items : List Item} {texts : List (List Byte)} {effects : List Effect}
    (fits : ∀ item ∈ items, item.Fits) (written : List.Forall₂ Item.IsText items texts)
    (brought : List.Forall₂ (Brings name) texts effects) :
    List.Forall₂ (Item.Meets name) items effects := by
  induction written generalizing effects with
  | nil =>
    cases brought
    exact .nil
  | @cons item text items texts first rest ih =>
    obtain ⟨here, later⟩ := List.forall_mem_cons.mp fits
    cases brought with
    | cons read brought =>
      obtain ⟨garbage, read⟩ := read
      obtain ⟨effect, read', meets⟩ := first.meets here name garbage
      obtain rfl := Outcome.value.inj (read'.symm.trans read)
      exact .cons meets (ih later brought)

theorem meets_split {items : List Item} {effects : List Effect}
    (meets : List.Forall₂ (Item.Meets name) items effects) :
    List.Forall₂ (ReceivedAs name) (items.filterMap Item.frame?) (effects.filterMap Effect.frame?) ∧
      effects.filterMap Effect.answer? = items.filterMap Item.answer? := by
  induction meets with
  | nil => exact ⟨.nil, rfl⟩
  | @cons item effect items effects first rest ih =>
    obtain ⟨frames, answers⟩ := ih
    cases item with
    | frame f =>
      cases effect with
      | frame g => exact ⟨.cons first frames, answers⟩
      | answer _ | nothing => exact first.elim
    | answer ok =>
      cases effect with
      | answer ok' =>
        obtain rfl : ok' = ok := first
        exact ⟨frames, congrArg (ok' :: ·) answers⟩
      | frame _ | nothing => exact first.elim

/-- However the bytes of frames and answers are cut into reads, the frames are delivered, each answer
is counted for a pending frame as long as there is one, and nothing stays behind. -/
theorem stream_delivered (name : String) (s : State) (items : List Item) (fits : ∀ item ∈ items, item.Fits)
    (texts : List (List Byte)) (written : List.Forall₂ Item.IsText items texts) (stream : List WireByte)
    (bytes : stream.map WireByte.byte = texts.flatten) (reads : List (H9Frame × ℕ))
    (whole : (reads.map Prod.snd).sum = stream.length) :
    ∃ frames t, recvThreadAll name reads (startOfLine s stream) = .value (frames, t) ∧
      List.Forall₂ (ReceivedAs name) (items.filterMap Item.frame?) frames ∧
      t.acked =
        s.acked ++ s.pendingFrames.zip ((items.filterMap Item.answer?).take s.pendingSendCount) ∧
      t.pendingSendCount = s.pendingSendCount - (items.filterMap Item.answer?).length ∧
      t.recvQueue = [] ∧ t.recvBuf = [] := by
  have idle : (startOfLine s stream).recvQueue = [] := rfl
  have lines : linesOf (startOfLine s stream) (bytesRead (startOfLine s stream) reads) = (texts, []) := by
    have all : bytesRead (startOfLine s stream) reads = stream := by
      rw [bytesRead, whole]
      exact List.take_length
    rw [all, linesOf, bytes]
    refine Lines.split_flatten isTerminator fun text member => ?_
    obtain ⟨item, -, isText⟩ := exists_left written member
    exact isText.oneLine
  have harmless : ∀ line ∈ (linesOf (startOfLine s stream) (bytesRead (startOfLine s stream) reads)).1,
      ∀ garbage, (readLine name garbage line).Returns := by
    intro line member garbage
    rw [lines] at member
    obtain ⟨item, inside, isText⟩ := exists_left written member
    obtain ⟨effect, read, -⟩ := isText.meets (fits item inside) name garbage
    rw [read]
    trivial
  obtain ⟨⟨frames, t⟩, done⟩ := Outcome.returns_iff.mp (recvThreadAll_returns idle harmless)
  obtain ⟨effects, brought, progress, empty, left⟩ := recvThreadAll_value idle done
  rw [lines] at brought left
  obtain ⟨delivered, answers⟩ := meets_split (meets_of_brings fits written brought)
  have queue : frames = effects.filterMap Effect.frame? := progress.recvQueue
  have acked := progress.acked
  have count := progress.pendingSendCount
  rw [answers] at acked count
  exact ⟨frames, t, done, queue ▸ delivered, acked, count, empty, left⟩

/-- A request for register 5 of node 7. -/
def request : H9Frame := { (default : H9Frame) with
  type := FrameType.GET_REG
  sourceId := 0xff
  destinationId := 7
  seqnum := 3
  dlc := 1
  data := ![5, 0, 0, 0, 0, 0, 0, 0] }

/-- `T0bff00e3105` with its carriage return. -/
def requestText : List Byte :=
  [0x54, 0x30, 0x62, 0x66, 0x66, 0x30, 0x30, 0x65, 0x33, 0x31, 0x30, 0x35, 0x0d]

/-- The driver while frame 3 waits for its answer. -/
def waiting : State := { opened [] with pendingSendCount := 1, pendingFrames := [3] }

/-- A request and an answer in two reads, of which the second begins inside the request. -/
theorem stream_delivered_request :
    ∃ frames t, recvThreadAll "can0" [(default, 10), (default, 4)]
        (startOfLine waiting ((requestText ++ [CR]).map fun byte => ⟨byte, none⟩)) = .value (frames, t) ∧
      List.Forall₂ (ReceivedAs "can0") [request] frames ∧ t.acked = [(3, true)] ∧
      t.pendingSendCount = 0 ∧ t.recvQueue = [] ∧ t.recvBuf = [] :=
  stream_delivered "can0" waiting [.frame request, .answer true] (by simp [Item.Fits, request]; decide)
    [requestText, [CR]] (.cons (show buildSlcanMsg request = _ from by decide) (.cons rfl .nil)) _ rfl
    [(default, 10), (default, 4)] rfl

end Delivery

end H9d.SlcanDriver
