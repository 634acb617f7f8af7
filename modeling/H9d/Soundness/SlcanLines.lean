import H9d.Core.Lines
import H9d.Model.SlcanDriver
import H9d.Soundness.FrameCodec

/-! # What a line means to the SLCAN driver

The driver acts on one line at a time: a line may bring a frame, answer a command, or be nothing to
it. A line in the format that the driver writes itself brings the frame it was made from. Of all
other lines, only those that the driver finds too short are dropped.
-/

namespace H9d.SlcanDriver

open H9Frame Cxx

/-- What a line brings. -/
inductive Effect
  | nothing
  | frame (frame : H9Frame)
  | answer (ok : Bool)

def Effect.frame? : Effect → Option H9Frame
  | .frame f => some f
  | .nothing | .answer _ => none

def Effect.answer? : Effect → Option Bool
  | .answer ok => some ok
  | .nothing | .frame _ => none

def Effect.apply (s : State) : Effect → State
  | .nothing => s
  | .frame f => { s with recvQueue := s.recvQueue ++ [f] }
  | .answer ok =>
      if 0 < s.pendingSendCount then
        sendAckCallback { s with pendingSendCount := s.pendingSendCount - 1 } ok
      else s

section Lines

variable (name : String) (garbage : H9Frame)

/-- `parse_buf` as a function of the line alone. -/
def readLine (line : List Byte) : Outcome StringError Effect :=
  match line with
  | [] => .value .nothing
  | first :: _ =>
      if first = CR then .value (.answer true)
      else if first = BEL then .value (.answer false)
      else if first = 0x54 then do
        match ← parseSlcanMsg line garbage with
        | some frame => .value (.frame { frame with origin := name })
        | none => if CR ∈ line then .value .nothing else .throws .outOfRange
      else .value .nothing

theorem parseBuf_eq (s : State) :
    parseBuf s name garbage = readLine name garbage s.recvBuf >>= fun effect => .value (effect.apply s) := by
  obtain ⟨recvBuf, recvQueue, count, frames, fault, commands, stream, handed, read, acked⟩ := s
  unfold parseBuf readLine
  cases recvBuf with
  | nil => rfl
  | cons first rest =>
    dsimp only
    by_cases carriageReturn : first = CR
    · rw [if_pos carriageReturn, if_pos carriageReturn]
      rfl
    rw [if_neg carriageReturn, if_neg carriageReturn]
    by_cases bell : first = BEL
    · rw [if_pos bell, if_pos bell]
      rfl
    rw [if_neg bell, if_neg bell]
    by_cases command : first = 0x54
    · rw [if_pos command, if_pos command]
      cases parseSlcanMsg (first :: rest) garbage with
      | value frame =>
        cases frame with
        | some frame => rfl
        | none =>
          change (if CR ∈ first :: rest then _ else _) = (if CR ∈ first :: rest then _ else _) >>= _
          split <;> rfl
      | throws e => rfl
      | undefined => rfl
    · rw [if_neg command, if_neg command]
      rfl

end Lines

/-- The callbacks and the queue after lines with these effects. -/
structure Progress (effects : List Effect) (s t : State) : Prop where
  recvQueue : t.recvQueue = s.recvQueue ++ effects.filterMap Effect.frame?
  acked : t.acked =
    s.acked ++ s.pendingFrames.zip ((effects.filterMap Effect.answer?).take s.pendingSendCount)
  pendingSendCount : t.pendingSendCount = s.pendingSendCount - (effects.filterMap Effect.answer?).length
  pendingFrames : t.pendingFrames =
    s.pendingFrames.drop (min (effects.filterMap Effect.answer?).length s.pendingSendCount)

namespace Progress

variable {s t u : State} {first second : List Effect}

theorem refl (s : State) : Progress [] s s := by
  constructor <;> simp

theorem apply (s : State) (effect : Effect) : Progress [effect] s (effect.apply s) := by
  cases effect with
  | nothing => constructor <;> simp [Effect.apply, List.filterMap_cons, Effect.frame?, Effect.answer?]
  | frame f => constructor <;> simp [Effect.apply, List.filterMap_cons, Effect.frame?, Effect.answer?]
  | answer ok =>
    rw [Effect.apply]
    split
    · next waiting =>
      obtain ⟨count, counted⟩ := Nat.exists_eq_succ_of_ne_zero waiting.ne'
      unfold sendAckCallback
      cases pending : s.pendingFrames with
      | nil => constructor <;> simp [counted, pending, Effect.frame?, Effect.answer?]
      | cons id rest => constructor <;> simp [counted, pending, Effect.frame?, Effect.answer?]
    · next idle =>
      have none : s.pendingSendCount = 0 := by omega
      constructor <;> simp [none, Effect.frame?, Effect.answer?]

theorem zip_append_right {α β : Type*} (as : List α) (first second : List β) :
    as.zip (first ++ second) = as.zip first ++ (as.drop first.length).zip second := by
  induction first generalizing as with
  | nil => simp
  | cons b first ih =>
    cases as with
    | nil => simp
    | cons a as => simp [ih]

theorem trans (earlier : Progress first s t) (later : Progress second t u) :
    Progress (first ++ second) s u := by
  constructor
  · rw [later.recvQueue, earlier.recvQueue, List.filterMap_append, List.append_assoc]
  · rw [later.acked, earlier.acked, earlier.pendingFrames, earlier.pendingSendCount, List.filterMap_append,
      List.take_append, zip_append_right, List.append_assoc, List.length_take, Nat.min_comm]
  · rw [later.pendingSendCount, earlier.pendingSendCount, List.filterMap_append, List.length_append,
      Nat.sub_sub]
  · rw [later.pendingFrames, earlier.pendingFrames, earlier.pendingSendCount, List.filterMap_append,
      List.length_append, List.drop_drop]
    congr 1
    omega

end Progress

/-- Some memory lets the line bring this. -/
def Brings (name : String) (line : List Byte) (effect : Effect) : Prop :=
  ∃ garbage, readLine name garbage line = .value effect

section Reading

variable {name : String} {garbage : H9Frame} {s t : State}

/-- The lines that end in the bytes, which the driver reads after those in its buffer. -/
abbrev linesOf (s : State) (ws : List WireByte) : List (List Byte) × List Byte :=
  Lines.split isTerminator s.recvBuf (ws.map WireByte.byte)

theorem recvByte_open {b : Byte} (goes : isTerminator b = false) :
    recvByte s name garbage b = .value { s with recvBuf := s.recvBuf ++ [b] } := by
  rw [recvByte, goes]
  exact if_neg Bool.false_ne_true

theorem recvByte_end {b : Byte} (ends : isTerminator b = true) :
    recvByte s name garbage b = readLine name garbage (s.recvBuf ++ [b]) >>= fun effect =>
      .value { effect.apply { s with recvBuf := s.recvBuf ++ [b] } with recvBuf := [] } := by
  rw [recvByte, if_pos ends, parseBuf_eq]
  cases readLine name garbage (s.recvBuf ++ [b]) <;> rfl

theorem apply_stream (s : State) (effect : Effect) : (effect.apply s).stream = s.stream := by
  cases effect with
  | nothing | frame _ => rfl
  | answer ok =>
    rw [Effect.apply, sendAckCallback]
    split
    · cases s.pendingFrames <;> rfl
    · rfl

theorem recvBytes_value {ws : List WireByte} (received : recvBytes name garbage s ws = .value t) :
    ∃ effects, List.Forall₂ (Brings name) (linesOf s ws).1 effects ∧ Progress effects s t ∧
      t.recvBuf = (linesOf s ws).2 ∧ t.stream = s.stream := by
  induction ws generalizing s with
  | nil =>
    obtain rfl := Outcome.value.inj received
    exact ⟨[], .nil, .refl s, rfl, rfl⟩
  | cons w ws ih =>
    obtain ⟨next, first, received⟩ := Outcome.bind_eq_value.mp received
    obtain ⟨effects, brought, progress, left, stream⟩ := ih received
    cases ends : isTerminator w.byte with
    | false =>
      rw [recvByte_open ends] at first
      obtain rfl := Outcome.value.inj first
      have lines : linesOf s (w :: ws) = linesOf { s with recvBuf := s.recvBuf ++ [w.byte] } ws :=
        Lines.split_cons_open isTerminator ends _ _
      rw [lines]
      exact ⟨effects, brought, ⟨progress.1, progress.2, progress.3, progress.4⟩, left, stream⟩
    | true =>
      rw [recvByte_end ends] at first
      obtain ⟨effect, read, first⟩ := Outcome.bind_eq_value.mp first
      obtain rfl := Outcome.value.inj first
      have lines : linesOf s (w :: ws) = _ := Lines.split_cons_end isTerminator ends _ _
      rw [lines]
      have applied := Progress.apply { s with
        recvBuf := s.recvBuf ++ [w.byte], read := s.read ++ w.answer.toList } effect
      refine ⟨effect :: effects, .cons ⟨garbage, read⟩ brought, ?_, left, ?_⟩
      · have here : Progress [effect] s _ := ⟨applied.1, applied.2, applied.3, applied.4⟩
        exact here.trans ⟨progress.1, progress.2, progress.3, progress.4⟩
      · exact stream.trans (apply_stream _ effect)

theorem recvBytes_returns {ws : List WireByte}
    (harmless : ∀ line ∈ (linesOf s ws).1, (readLine name garbage line).Returns) :
    (recvBytes name garbage s ws).Returns := by
  induction ws generalizing s with
  | nil => trivial
  | cons w ws ih =>
    rw [recvBytes]
    cases ends : isTerminator w.byte with
    | false =>
      rw [recvByte_open ends, Outcome.value_bind]
      have lines : linesOf s (w :: ws) = linesOf { s with recvBuf := s.recvBuf ++ [w.byte] } ws :=
        Lines.split_cons_open isTerminator ends _ _
      rw [lines] at harmless
      exact ih harmless
    | true =>
      have lines : linesOf s (w :: ws) = _ := Lines.split_cons_end isTerminator ends _ _
      rw [lines] at harmless
      obtain ⟨effect, read⟩ := Outcome.returns_iff.mp (harmless _ List.mem_cons_self)
      rw [recvByte_end ends, read, Outcome.value_bind, Outcome.value_bind]
      exact ih fun line member => harmless line (List.mem_cons_of_mem _ member)

end Reading

/-- The grammar of the lines with frames: the letter, eight digits of the identifier, one of the number
of bytes, two for each byte, and the carriage return. -/
def Sentence (line : List Byte) (id : ℕ) (bytes : List Byte) : Prop :=
  bytes.length ≤ 8 ∧ ∃ idText dlcText dataTexts,
    line = [0x54] ++ idText ++ dlcText ++ dataTexts.flatten ++ [CR] ∧
    IsHex 8 idText id ∧ IsHex 1 dlcText bytes.length ∧
    List.Forall₂ (fun text (b : Byte) => IsHex 2 text b.toNat) dataTexts bytes

/-- The line is the text of the frame: its identifier, its length and as many bytes, in digits of
either case, between the letter and the carriage return. -/
def Encodes (line : List Byte) (f : H9Frame) : Prop :=
  f.dlc.toNat ≤ 8 ∧ ∃ idText dlcText dataTexts,
    line = [0x54] ++ idText ++ dlcText ++ dataTexts.flatten ++ [CR] ∧
    IsHex 8 idText f.canId.toNat ∧ IsHex 1 dlcText f.dlc.toNat ∧
    List.Forall₂ (fun text (b : Byte) => IsHex 2 text b.toNat) dataTexts
      ((List.ofFn f.data).take f.dlc.toNat)

def WellFormed (line : List Byte) : Prop := ∃ f, Encodes line f

theorem Encodes.congr {line : List Byte} {f g : H9Frame} (encodes : Encodes line f) (id : g.canId = f.canId)
    (dlc : g.dlc = f.dlc) (data : (List.ofFn g.data).take f.dlc.toNat = (List.ofFn f.data).take f.dlc.toNat) :
    Encodes line g := by
  rw [Encodes, id, dlc, data]
  exact encodes

/-- What the driver writes for a frame is the text of the frame. -/
theorem buildSlcanMsg_encodes {f : H9Frame} {msg : List Byte} (built : buildSlcanMsg f = .value msg) :
    Encodes msg f := by
  have id := f.canId_lt
  unfold buildSlcanMsg at built
  split at built
  · cases built
  · next fits =>
    obtain rfl := Outcome.value.inj built
    refine ⟨by omega, hexFixed 8 f.canId.toNat, hexFixed 1 f.dlc.toNat,
      ((List.ofFn f.data).take f.dlc.toNat).map fun b => hexFixed 2 b.toNat, ?_,
      isHex_hexFixed (by omega), isHex_hexFixed (by omega), ?_⟩
    · rw [List.flatMap_def]
    · rw [List.forall₂_map_left_iff]
      exact List.forall₂_same.mpr fun b _ => isHex_hexFixed b.isLt

section Parsing

variable {line : List Byte} {f garbage : H9Frame}

theorem ofInt_toNat {w : ℕ} (x : BitVec w) : BitVec.ofInt w (x.toNat : ℤ) = x := by
  rw [BitVec.ofInt_natCast, BitVec.ofNat_toNat, BitVec.setWidth_eq]

theorem take_update (buf : Fin 8 → Byte) (i : Fin 8) (b : Byte) :
    (List.ofFn (Function.update buf i b)).take (i + 1) = (List.ofFn buf).take i ++ [b] := by
  have before : (List.ofFn (Function.update buf i b)).take i = (List.ofFn buf).take i := by
    apply List.ext_getElem
    · simp
    · intro n inside _
      rw [List.length_take, List.length_ofFn] at inside
      have apart : (⟨n, by omega⟩ : Fin 8) ≠ i := by
        intro same
        have position : n = i := congrArg Fin.val same
        omega
      simp only [List.getElem_take, List.getElem_ofFn, Function.update_of_ne apart]
  rw [List.take_succ_eq_append_getElem (by simp), List.getElem_ofFn, before]
  exact congrArg (fun last => _ ++ [last]) (Function.update_self i b buf)

theorem texts_length {texts : List (List Byte)} {bytes : List Byte}
    (hex : List.Forall₂ (fun text (b : Byte) => IsHex 2 text b.toNat) texts bytes) :
    texts.flatten.length = 2 * bytes.length := by
  induction hex with
  | nil => rfl
  | cons first _ ih =>
    rw [List.flatten_cons, List.length_append, first.length, ih, List.length_cons]
    omega

/-- The loop over the data bytes of a text, from any byte on. -/
theorem parseData_texts {texts : List (List Byte)} {bytes : List Byte}
    (hex : List.Forall₂ (fun text (b : Byte) => IsHex 2 text b.toNat) texts bytes) (front back : List Byte)
    (i : ℕ) (start : front.length = 10 + i * 2) (fits : i + bytes.length ≤ 8) (buf : Fin 8 → Byte) :
    ∃ data, parseData (front ++ texts.flatten ++ back) i bytes.length buf = .value data ∧
      (List.ofFn data).take (i + bytes.length) = (List.ofFn buf).take i ++ bytes := by
  induction hex generalizing front i buf with
  | nil => exact ⟨buf, rfl, by simp⟩
  | @cons text b texts bytes first rest ih =>
    rw [List.length_cons] at fits
    have bound : i < 8 := by omega
    have cut : ((front ++ (text :: texts).flatten ++ back).drop (10 + i * 2)).take 2 = text := by
      rw [List.flatten_cons, List.append_assoc, ← start, List.drop_left, List.append_assoc,
        List.take_left' first.length]
    have tail : front ++ (text :: texts).flatten ++ back = (front ++ text) ++ texts.flatten ++ back := by
      rw [List.flatten_cons, List.append_assoc front text]
    obtain ⟨data, parsed, read⟩ := ih (front ++ text) (i + 1)
      (by rw [List.length_append, start, first.length]; omega) (by omega)
      (Function.update buf ⟨i, bound⟩ b)
    refine ⟨data, ?_, ?_⟩
    · rw [List.length_cons, parseData, cut, first.stoiHex (by decide) (by have := b.isLt; omega),
        Outcome.value_bind, dif_pos bound, ofInt_toNat, tail]
      exact parsed
    · rw [List.length_cons, Nat.add_comm bytes.length, ← Nat.add_assoc, read, take_update buf ⟨i, bound⟩ b,
        List.append_assoc]
      rfl

theorem Sentence.length {id : ℕ} {bytes : List Byte} (sentence : Sentence line id bytes) :
    line.length = 11 + 2 * bytes.length := by
  obtain ⟨-, idText, dlcText, dataTexts, rfl, id, dlc, data⟩ := sentence
  simp only [List.length_append, List.length_singleton, id.length, dlc.length, texts_length data]
  omega

/-- The two numbers in front of the data. -/
theorem Sentence.header {id : ℕ} {bytes : List Byte} (sentence : Sentence line id bytes) :
    IsHex 8 ((line.drop 1).take 8) id ∧ IsHex 1 ((line.drop 9).take 1) bytes.length := by
  obtain ⟨-, idText, dlcText, dataTexts, rfl, id, dlc, data⟩ := sentence
  have front : ([0x54] ++ idText : List Byte).length = 9 := by
    rw [List.length_append, id.length]
    rfl
  have idCut : (([0x54] ++ idText ++ dlcText ++ dataTexts.flatten ++ [CR]).drop 1).take 8 = idText := by
    simp only [List.append_assoc]
    exact List.take_left' id.length
  have dlcCut : (([0x54] ++ idText ++ dlcText ++ dataTexts.flatten ++ [CR]).drop 9).take 1 = dlcText := by
    rw [List.append_assoc _ dataTexts.flatten, List.append_assoc _ dlcText, List.drop_left' front]
    exact List.take_left' dlc.length
  rw [idCut, dlcCut]
  exact ⟨id, dlc⟩

/-- The driver reads a line of the grammar whose identifier fits an `int`. -/
theorem parseSlcanMsg_sentence {id : ℕ} {bytes : List Byte} (sentence : Sentence line id bytes)
    (fits : id < 2 ^ 31) (garbage : H9Frame) :
    ∃ data, parseSlcanMsg line garbage = .value (some { garbage.setCanId (BitVec.ofNat 32 id) with
        dlc := BitVec.ofNat 8 bytes.length, data }) ∧
      (List.ofFn data).take bytes.length = bytes := by
  have length := sentence.length
  obtain ⟨idHex, dlcHex⟩ := sentence.header
  obtain ⟨short, idText, dlcText, dataTexts, rfl, id', dlc', data⟩ := sentence
  have dlcValue : (BitVec.ofNat 8 bytes.length).toNat = bytes.length := by
    rw [BitVec.toNat_ofNat]
    omega
  obtain ⟨read, parsed, same⟩ := parseData_texts data ([0x54] ++ idText ++ dlcText) [CR] 0
    (by simp [id'.length, dlc'.length]) (by omega) garbage.data
  rw [Nat.zero_add, List.take_zero, List.nil_append] at same
  refine ⟨read, ?_, same⟩
  rw [parseSlcanMsg, if_neg (by omega), idHex.stoiHex (by decide) fits,
    dlcHex.stoiHex (by decide) (by omega), Outcome.value_bind, Outcome.value_bind, BitVec.ofInt_natCast,
    BitVec.ofInt_natCast]
  dsimp only
  rw [dlcValue, if_neg (by omega), parsed]
  rfl

theorem Encodes.sentence (encodes : Encodes line f) :
    Sentence line f.canId.toNat ((List.ofFn f.data).take f.dlc.toNat) := by
  obtain ⟨fits, idText, dlcText, dataTexts, text, id, dlc, data⟩ := encodes
  have bytes : ((List.ofFn f.data).take f.dlc.toNat).length = f.dlc.toNat := by
    rw [List.length_take, List.length_ofFn, min_eq_left fits]
  refine ⟨by omega, idText, dlcText, dataTexts, text, id, ?_, data⟩
  rw [bytes]
  exact dlc

/-- The driver reads the text of a frame as that frame. -/
theorem parseSlcanMsg_encodes (encodes : Encodes line f) (garbage : H9Frame) :
    ∃ data, parseSlcanMsg line garbage =
        .value (some { garbage.setCanId f.canId with dlc := f.dlc, data }) ∧
      (List.ofFn data).take f.dlc.toNat = (List.ofFn f.data).take f.dlc.toNat := by
  have idRange := f.canId_lt
  have bytes : ((List.ofFn f.data).take f.dlc.toNat).length = f.dlc.toNat := by
    rw [List.length_take, List.length_ofFn, min_eq_left encodes.1]
  have parsed := parseSlcanMsg_sentence encodes.sentence (by omega) garbage
  rw [bytes, BitVec.ofNat_toNat, BitVec.setWidth_eq, BitVec.ofNat_toNat, BitVec.setWidth_eq] at parsed
  exact parsed

/-- The line ends before its data does, or before its length. -/
def TooShort (line : List Byte) : Prop :=
  line.length < 10 ∨ ∃ id, stoiHex ((line.drop 1).take 8) = .value id ∧
    ∃ dlc, stoiHex ((line.drop 9).take 1) = .value dlc ∧
      line.length < 10 + 2 * (BitVec.ofInt 8 dlc).toNat

theorem parseSlcanMsg_eq_none : parseSlcanMsg line garbage = .value none ↔ TooShort line := by
  rw [parseSlcanMsg, TooShort]
  split
  · next short => exact iff_of_true rfl (.inl short)
  · next long =>
    rw [or_iff_right long, Outcome.bind_eq_value]
    refine exists_congr fun id => and_congr_right fun _ => ?_
    rw [Outcome.bind_eq_value]
    refine exists_congr fun dlc => and_congr_right fun _ => ?_
    dsimp only
    split
    · next short => exact iff_of_true rfl short
    · next enough =>
      refine iff_of_false (fun none => ?_) enough
      obtain ⟨data, -, some⟩ := Outcome.bind_eq_value.mp none
      cases some

/-- A line without harm: no command, the text of a frame, or found too short and complained about. -/
def Harmless (line : List Byte) : Prop :=
  line.head? = some 0x54 → WellFormed line ∨ (TooShort line ∧ CR ∈ line)

/-- A line that begins with the letter of a frame. -/
theorem readLine_command (name : String) (garbage : H9Frame) (command : line.head? = some 0x54) :
    readLine name garbage line = parseSlcanMsg line garbage >>= fun
      | some frame => .value (.frame { frame with origin := name })
      | none => if CR ∈ line then .value .nothing else .throws .outOfRange := by
  cases line with
  | nil => cases command
  | cons first rest =>
    obtain rfl : first = 0x54 := Option.some.inj command
    have noCR : (0x54 : Byte) ≠ CR := by decide
    have noBEL : (0x54 : Byte) ≠ BEL := by decide
    unfold readLine
    dsimp only
    rw [if_neg noCR, if_neg noBEL, if_pos rfl]

theorem readLine_other (name : String) (garbage : H9Frame) (other : line.head? ≠ some 0x54) :
    ∃ effect, readLine name garbage line = .value effect ∧ effect.frame? = none := by
  cases line with
  | nil => exact ⟨.nothing, rfl, rfl⟩
  | cons first rest =>
    unfold readLine
    dsimp only
    by_cases carriageReturn : first = CR
    · exact ⟨.answer true, if_pos carriageReturn, rfl⟩
    rw [if_neg carriageReturn]
    by_cases bell : first = BEL
    · exact ⟨.answer false, if_pos bell, rfl⟩
    rw [if_neg bell, if_neg fun command => other (congrArg some command)]
    exact ⟨.nothing, rfl, rfl⟩

theorem Encodes.command (encodes : Encodes line f) : line.head? = some 0x54 := by
  obtain ⟨-, idText, dlcText, dataTexts, rfl, -⟩ := encodes
  rfl

/-- The text of a frame brings the frame, with the name of the driver as its origin. -/
theorem readLine_encodes (encodes : Encodes line f) (name : String) (garbage : H9Frame) :
    ∃ data, readLine name garbage line =
        .value (.frame { garbage.setCanId f.canId with origin := name, dlc := f.dlc, data }) ∧
      (List.ofFn data).take f.dlc.toNat = (List.ofFn f.data).take f.dlc.toNat := by
  obtain ⟨data, parsed, same⟩ := parseSlcanMsg_encodes encodes garbage
  refine ⟨data, ?_, same⟩
  rw [readLine_command name garbage encodes.command, parsed]
  rfl

/-- The text of a frame is also the text of what is read from it. -/
theorem Encodes.read (encodes : Encodes line f) (name : String) (garbage : H9Frame) {effect : Effect}
    (read : readLine name garbage line = .value effect) :
    ∃ g, effect = .frame g ∧ Encodes line g ∧ g.origin = name := by
  obtain ⟨data, brought, same⟩ := readLine_encodes encodes name garbage
  refine ⟨_, Outcome.value.inj (read.symm.trans brought), encodes.congr ?_ rfl same, rfl⟩
  apply BitVec.eq_of_toNat_eq
  have number := (addressed_setCanId garbage f.canId).canId
  rw [Nat.mod_eq_of_lt f.canId_lt] at number
  exact number

/-- Harmless lines are those that make no trouble and bring no frame that is not in them. -/
theorem harmless_iff (name : String) (garbage : H9Frame) : Harmless line ↔
    ∃ effect, readLine name garbage line = .value effect ∧ (effect.frame?.isSome → WellFormed line) := by
  by_cases command : line.head? = some 0x54
  · rw [Harmless, imp_iff_right command]
    constructor
    · rintro (⟨f, encodes⟩ | ⟨short, ended⟩)
      · obtain ⟨data, brought, -⟩ := readLine_encodes encodes name garbage
        exact ⟨_, brought, fun _ => ⟨f, encodes⟩⟩
      · refine ⟨.nothing, ?_, nofun⟩
        rw [readLine_command name garbage command, parseSlcanMsg_eq_none.mpr short]
        exact if_pos ended
    · rintro ⟨effect, brought, sound⟩
      rw [readLine_command name garbage command] at brought
      obtain ⟨parsed, parse, brought⟩ := Outcome.bind_eq_value.mp brought
      cases parsed with
      | none =>
        refine .inr ⟨parseSlcanMsg_eq_none.mp parse, ?_⟩
        by_contra missing
        rw [if_neg missing] at brought
        cases brought
      | some frame =>
        obtain rfl := Outcome.value.inj brought
        exact .inl (sound rfl)
  · obtain ⟨effect, brought, noFrame⟩ := readLine_other name garbage command
    refine iff_of_true (fun begins => absurd begins command) ⟨effect, brought, fun isFrame => ?_⟩
    rw [noFrame] at isFrame
    cases isFrame

end Parsing

end H9d.SlcanDriver
