import H9d.Soundness.RegisterReads

/-! # Which answers fit the buffers

Each operation gets the exact length of an answer that keeps it inside its buffer and the answer. An
operation that does so ends as the model over plain memory says, whatever the memory held before.
-/

namespace H9d

open Cxx H9Frame

/-- The bytes of the value that a frame brings. -/
abbrev H9Frame.sentValue (res : H9Frame) : List Byte := res.listed.tail

theorem H9Frame.sentValue_eq (res : H9Frame) : res.sentValue = res.valueBytes.take res.valueLength := by
  rw [H9Frame.sentValue, H9Frame.listed, H9Frame.valueBytes, H9Frame.valueLength, ← List.drop_one,
    ← List.drop_one, List.drop_take]

theorem H9Frame.length_sentValue (res : H9Frame) : res.sentValue.length = min res.valueLength 7 := by
  rw [H9Frame.sentValue_eq, List.length_take, H9Frame.length_valueBytes]

theorem H9Frame.take_sentValue (res : H9Frame) {k : ℕ} (sent : k ≤ res.valueLength) :
    res.sentValue.take k = res.valueBytes.take k := by
  rw [H9Frame.sentValue_eq, List.take_take, Nat.min_eq_left sent]

namespace Guarded

section Values

variable (res : H9Frame)

theorem copyData_eq {ε : Type} (max : ℕ) (buf : Buffer Byte) :
    (copyData res max buf : Outcome ε _) =
      if max ≤ res.sentValue.length ∧ max ≤ buf.length then
        .value ((res.sentValue.take max).map some ++ buf.drop max)
      else .undefined := by
  rw [copyData, Buffer.copy_eq]
  split <;> rfl

/-- A text whose bytes all came, with the zero behind them. -/
def textOf (size copied : ℕ) : Outcome DevNodeException RegValue :=
  if res.valueLength ≤ size ∧ copied ≤ 7 ∧ copied ≤ res.valueLength then .value (Node.text res.sentValue)
  else .undefined

theorem cString_eq (sent : List Byte) {rest : Buffer Byte} (room : rest ≠ []) :
    cString (sent.map some ++ rest) sent.length =
      .value (String.ofList ((sent.takeWhile (· ≠ 0)).map fun b => Char.ofNat b.toNat)) := by
  obtain ⟨c, rest, rfl⟩ := List.exists_cons_of_ne_nil room
  have written := Buffer.write_next (sent.map some) rest c (0 : Byte)
  have begins : (sent ++ [0]).map some <+: sent.map some ++ some (0 : Byte) :: rest := by
    exact ⟨rest, by rw [List.map_append, List.append_assoc]; rfl⟩
  rw [List.length_map] at written
  rw [cString, written, access, Outcome.value_bind, Buffer.cString_of_prefix begins]
  rfl

theorem cString_outside {buf : Buffer Byte} {ret : ℕ} (outside : buf.length ≤ ret) :
    cString buf ret = .undefined := by
  rw [cString, Buffer.write, if_neg (by rw [List.length_singleton]; omega)]
  rfl

theorem vector_eq (sent : List Byte) (rest : Buffer Byte) :
    vector (sent.map some ++ rest) sent.length = .value (.bytes sent) := by
  have start : (sent.map some : Buffer Byte).length = sent.length := List.length_map _
  rw [vector, if_pos (by rw [List.length_append]; omega), List.take_left' start, Buffer.load_map_some]
  rfl

theorem vector_outside {buf : Buffer Byte} {ret : ℕ} (outside : buf.length < ret) :
    vector buf ret = .undefined :=
  if_neg (by omega)

theorem copy_textOf {size copied : ℕ} (enough : min res.valueLength size ≤ copied) (fits : copied ≤ size + 1) :
    (do
        let cells ← copyData res copied (Buffer.malloc (size + 1))
        return RegValue.string (← cString cells res.valueLength)) = textOf res size copied := by
  have length := res.length_sentValue
  rw [textOf, copyData_eq, Buffer.length_malloc]
  by_cases inside : copied ≤ res.sentValue.length ∧ copied ≤ size + 1
  · rw [if_pos inside, Outcome.value_bind]
    rcases Nat.lt_or_ge size res.valueLength with long | short
    · rw [if_neg (by omega), cString_outside]
      · rfl
      · rw [List.length_append, List.length_map, List.length_take, List.length_drop, Buffer.length_malloc]
        omega
    · have all : copied = res.sentValue.length := by omega
      have room : (Buffer.malloc (size + 1) : Buffer Byte).drop res.sentValue.length ≠ [] := by
        rw [ne_eq, List.drop_eq_nil_iff, Buffer.length_malloc]
        omega
      have whole : res.valueLength = res.sentValue.length := by omega
      rw [if_pos (by omega), all, List.take_length, whole, cString_eq res.sentValue room]
      rfl
  · rw [if_neg inside, if_neg (by omega)]
    rfl

theorem copy_bitsOf {size : ℕ} (limit : ℕ → ℕ) (limited : ∀ k, limit k = min size k) :
    (do
        let cells ← copyData res (limit res.valueLength) (Buffer.malloc size)
        vector cells res.valueLength) = Node.bitsOf size res := by
  have length := res.length_sentValue
  rw [Node.bitsOf, copyData_eq, Buffer.length_malloc, limited]
  by_cases inside : min size res.valueLength ≤ res.sentValue.length ∧ min size res.valueLength ≤ size
  · rw [if_pos inside, Outcome.value_bind]
    rcases Nat.lt_or_ge size res.valueLength with long | short
    · rw [if_neg (by omega), vector_outside]
      rw [List.length_append, List.length_map, List.length_take, List.length_drop, Buffer.length_malloc]
      omega
    · have whole : res.valueLength = res.sentValue.length := by omega
      rw [if_pos (by omega), Nat.min_eq_right short, ← res.take_sentValue le_rfl, whole, List.take_length,
        vector_eq]
  · rw [if_neg inside, if_neg (by omega)]
    rfl

theorem copy_bytesOf {size : ℕ} (limit : ℕ → ℕ) (limited : ∀ k, limit k = min size k) :
    (do
        let cells ← copyData res (limit res.valueLength) (Buffer.malloc size)
        Node.sized res.valueLength size
        vector cells res.valueLength) = Node.bytesOf size res := by
  have length := res.length_sentValue
  rw [Node.bytesOf, copyData_eq, Buffer.length_malloc, limited, Node.sized]
  by_cases inside : min size res.valueLength ≤ res.sentValue.length ∧ min size res.valueLength ≤ size
  · have seven : min size res.valueLength ≤ 7 := by omega
    rw [if_pos inside, if_pos seven, Outcome.value_bind]
    rcases eq_or_ne res.valueLength size with same | apart
    · have whole : res.valueLength = res.sentValue.length := by omega
      rw [if_pos same, ← same, Nat.min_self, ← res.take_sentValue le_rfl, whole, List.take_length,
        Outcome.value_bind, vector_eq]
      rfl
    · rw [if_neg apart]
      rfl
  · have beyond : ¬min size res.valueLength ≤ 7 := by omega
    rw [if_neg inside, if_neg beyond]
    rfl

end Values

/-! ## The operations -/

section Operations

open Node

variable (env : Env) (n : Node) (reg : Byte) (desc : RegisterDesc)

theorem setString_sends (v : String) :
    Sends (setString env n reg desc v) (n.requestFrame env (.setReg reg (textBytes desc v)))
      (ofAnswer
        (fun res => textOf res (byteSize desc) (copiedText desc (textBytes desc v).length res.valueLength))
        (.value (.string "")) (answer env.reply)) := by
  have read := checkedExchange_sends env n.nodeId (.setReg reg (textBytes desc v))
    (fun k => if (textBytes desc v).length < k then (some (byteSize desc + 1)).getD (textBytes desc v).length
      else k)
    copyData (Buffer.malloc (byteSize desc + 1))
    (k := fun ret bytes => do return RegValue.string (← Call.ofOutcome (cString bytes ret.toNat)))
    fun k bytes => (Silent.ofOutcome _).bind fun _ => Silent.pure _
  rw [setString, setReg]
  refine read.congr (ofAnswer_congr (fun res => ?_) _ _)
  have short : (textBytes desc v).length ≤ byteSize desc := by
    rw [length_textBytes, byteSize]
    omega
  rw [Option.getD_some]
  apply copy_textOf res
  · split <;> omega
  · split <;> omega

theorem getString_sends :
    Sends (getString env n reg desc) (n.requestFrame env (.getReg reg))
      (ofAnswer (fun res => textOf res (byteSize desc) (min (byteSize desc) res.valueLength))
        (.value (.string "")) (answer env.reply)) := by
  have read := checkedExchange_sends env n.nodeId (.getReg reg)
    (fun k => if byteSize desc + 1 - 1 < k then byteSize desc + 1 - 1 else k) copyData
    (Buffer.malloc (byteSize desc + 1))
    (k := fun ret bytes => do return RegValue.string (← Call.ofOutcome (cString bytes ret.toNat)))
    fun k bytes => (Silent.ofOutcome _).bind fun _ => Silent.pure _
  rw [getString, getReg]
  refine read.congr (ofAnswer_congr (fun res => ?_) _ _)
  have copied : (if byteSize desc + 1 - 1 < res.valueLength then byteSize desc + 1 - 1 else res.valueLength) =
      min (byteSize desc) res.valueLength := by
    split <;> omega
  rw [← copy_textOf res (Nat.min_comm _ _).le (by omega), copied]
  rfl

/-- Over raw bytes the accesses are those that the model over plain memory checks. -/
theorem setBytes_eq (v : List Byte) : setBytes env n reg desc v = n.setBytes env reg desc v := by
  rcases eq_or_ne (byteSize desc) v.length with length | apart
  · have read := checkedExchange_sends env n.nodeId (.setReg reg v)
      (fun k => if v.length < k then (none : Option ℕ).getD v.length else k) copyData (Buffer.malloc v.length)
      (k := fun ret bytes => do
        throwOnSize ret v.length
        Call.ofOutcome (vector bytes ret.toNat))
      fun k bytes => (throwOnSize_silent k v.length).bind fun _ => Silent.ofOutcome _
    funext port
    rw [Node.setBytes_sends env n reg desc v length port, setBytes, if_pos length, setReg]
    refine (read.congr (ofAnswer_congr (fun res => ?_) _ _)) port
    apply copy_bytesOf res fun k => if v.length < k then v.length else k
    intro k
    split <;> omega
  · rw [setBytes, Node.setBytes, if_neg apart, if_neg apart]

theorem getBytes_eq : getBytes env n reg desc = n.getBytes env reg desc := by
  have read := checkedExchange_sends env n.nodeId (.getReg reg)
    (fun k => if byteSize desc < k then byteSize desc else k) copyData (Buffer.malloc (byteSize desc))
    (k := fun ret bytes => do
      throwOnSize ret (byteSize desc)
      Call.ofOutcome (vector bytes ret.toNat))
    fun k bytes => (throwOnSize_silent k (byteSize desc)).bind fun _ => Silent.ofOutcome _
  funext port
  rw [Node.getBytes_sends env n reg desc port, getBytes, getReg]
  refine (read.congr (ofAnswer_congr (fun res => ?_) _ _)) port
  apply copy_bytesOf res fun k => if byteSize desc < k then byteSize desc else k
  intro k
  split <;> omega

theorem registerBit_eq (request : RawNode.Request) :
    registerBit env n reg request =
      n.bitOperation env reg fun length buf =>
        RawNode.exchange env n.nodeId request (fun k => if length < k then length else k) buf := by
  rw [registerBit, Node.bitOperation]
  cases n.registerMap reg with
  | none => rfl
  | some desc =>
    dsimp only
    split
    · split
      · have read := checkedExchange_sends env n.nodeId request
          (fun k => if byteSize desc < k then byteSize desc else k) copyData (Buffer.malloc (byteSize desc))
          (k := fun ret bytes => Call.ofOutcome (vector bytes ret.toNat)) fun k bytes => Silent.ofOutcome _
        funext port
        rw [Node.bits_sends env n desc request port]
        refine (read.congr (ofAnswer_congr (fun res => ?_) _ _)) port
        apply copy_bitsOf res fun k => if byteSize desc < k then byteSize desc else k
        intro k
        split <;> omega
      · rfl
    · rfl

end Operations

end Guarded

/-! ## What fits -/

/-- The operations that take the value of a register through a buffer. -/
inductive BufferedCall
  | setString (v : String)
  | setBytes (v : List Byte)
  | getRegister
  | setRegisterBit (bitNum : Byte)
  | clearRegisterBit (bitNum : Byte)

namespace BufferedCall

variable (env : Env) (n : Node) (reg : Byte)

def plain : BufferedCall → Call Port DevNodeException RegValue
  | setString v => n.setRegister env reg (.string v)
  | setBytes v => n.setRegister env reg (.bytes v)
  | getRegister => n.getRegister env reg
  | setRegisterBit bitNum => n.setRegisterBit env reg bitNum
  | clearRegisterBit bitNum => n.clearRegisterBit env reg bitNum

/-- The same operation, access by access. -/
def guarded : BufferedCall → Call Port DevNodeException RegValue
  | setString v => Guarded.setRegister env n reg (.string v)
  | setBytes v => Guarded.setRegister env n reg (.bytes v)
  | getRegister => Guarded.getRegister env n reg
  | setRegisterBit bitNum => Guarded.setRegisterBit env n reg bitNum
  | clearRegisterBit bitNum => Guarded.clearRegisterBit env n reg bitNum

/-- An integer is read to a variable, so only texts and wide registers are read to a buffer. -/
def InScope (desc : RegisterDesc) : BufferedCall → Prop
  | getRegister => desc.type = "str" ∨ 32 < desc.size
  | setString _ | setBytes _ | setRegisterBit _ | clearRegisterBit _ => True

/-- The answers of `k` bytes that fit the buffer, and leave no part of it to be filled from beyond
their end. -/
def Fits (desc : RegisterDesc) (k : ℕ) : BufferedCall → Prop
  | setString v => desc.writable = true → desc.type = "str" → k ≤ min (desc.size / 8) v.length
  | setBytes _ => True
  | getRegister => desc.readable = true → desc.type = "str" → k ≤ Node.byteSize desc
  | setRegisterBit _ | clearRegisterBit _ =>
      desc.writable = true → desc.type ≠ "str" → k ≤ Node.byteSize desc

section Refinement

/-- A call that ends where every access is checked ends in the same way where none is. -/
def Refines (c d : Call Port DevNodeException RegValue) : Prop :=
  ∀ port, d.after port = c.after port ∧ (c.outcome port = .undefined ∨ d.outcome port = c.outcome port)

theorem Refines.refl (c : Call Port DevNodeException RegValue) : Refines c c :=
  fun _ => ⟨rfl, .inr rfl⟩

theorem Refines.of_sends {c d : Call Port DevNodeException RegValue} {frame : H9Frame}
    {x y : Outcome DevNodeException RegValue} (checked : Sends c frame x) (unchecked : Sends d frame y)
    (refines : x = .undefined ∨ y = x) : Refines c d := by
  intro port
  rw [checked.after, unchecked.after, checked.outcome, unchecked.outcome]
  exact ⟨rfl, refines⟩

theorem textOf_refines (res : H9Frame) (size copied : ℕ) :
    Guarded.textOf res size copied = .undefined ∨
      Node.textOf size copied res = Guarded.textOf res size copied := by
  rw [Guarded.textOf, Node.textOf, H9Frame.sentValue_eq]
  split
  · next inside => exact .inr (if_pos ⟨inside.1, inside.2.1⟩)
  · exact .inl rfl

theorem cString_buffer (size : ℕ) :
    (do return .string (← Node.cString (env.buffer (size + 1)) 0) : Outcome DevNodeException RegValue) =
      .value (.string "") := by
  rw [Node.cString, if_pos (by rw [Env.buffer_length]; omega), Env.buffer, List.range_succ_eq_map]
  rfl

theorem ofAnswer_textOf_refines (desc : RegisterDesc) (copied : H9Frame → ℕ) (a : Answer) :
    Node.ofAnswer (fun res => Guarded.textOf res (Node.byteSize desc) (copied res)) (.value (.string "")) a =
        .undefined ∨
      Node.ofAnswer (fun res => Node.textOf (Node.byteSize desc) (copied res) res)
          (do return .string (← Node.cString (env.buffer (Node.byteSize desc + 1)) 0)) a =
        Node.ofAnswer (fun res => Guarded.textOf res (Node.byteSize desc) (copied res))
          (.value (.string "")) a := by
  rw [cString_buffer]
  cases a with
  | value res => exact textOf_refines res _ _
  | timeout => exact .inr rfl
  | refused code => exact .inr rfl
  | malformed => exact .inr rfl

/-- The model over plain memory ends as the one that checks every access does, unless an access fails. -/
theorem guarded_refines (c : BufferedCall) : Refines (c.guarded env n reg) (c.plain env n reg) := by
  cases c with
  | setString v =>
    rw [guarded, plain, Guarded.setRegister, Node.setRegister]
    cases n.registerMap reg with
    | none => exact Refines.refl _
    | some desc =>
      dsimp only
      split
      · split
        · exact .of_sends (Guarded.setString_sends env n reg desc v) (Node.setString_sends env n reg desc v)
            (ofAnswer_textOf_refines env desc _ _)
        · exact Refines.refl _
      · exact Refines.refl _
  | setBytes v =>
    rw [guarded, plain, Guarded.setRegister, Node.setRegister]
    simp only [Guarded.setBytes_eq]
    exact Refines.refl _
  | getRegister =>
    rw [guarded, plain, Guarded.getRegister]
    cases described : n.registerMap reg with
    | none =>
      rw [Node.getRegister, described]
      exact Refines.refl _
    | some desc =>
      rcases eq_or_ne desc.type "str" with str | other
      · rw [Node.getRegister, described]
        simp only [str, ne_eq, not_true, false_and, if_false]
        split
        · exact .of_sends (Guarded.getString_sends env n reg desc) (Node.getString_sends env n reg desc)
            (ofAnswer_textOf_refines env desc _ _)
        · exact Refines.refl _
      · rcases Nat.lt_or_ge 32 desc.size with wide | narrow
        · have word : desc.size ≠ 32 := by omega
          rw [Node.getRegister, described]
          simp only [other, ne_eq, not_false_eq_true, true_and, if_true, word, if_false, wide.not_ge,
            Node.numberWidth_eq_none.mpr wide, Guarded.getBytes_eq]
          exact Refines.refl _
        · simp only [other, ne_eq, not_false_eq_true, true_and, narrow, if_true]
          split
          · exact Refines.refl _
          · next unreadable =>
            rw [Node.getRegister, described]
            dsimp only
            rw [if_neg unreadable]
            exact Refines.refl _
  | setRegisterBit bitNum =>
    rw [guarded, Guarded.setRegisterBit, Guarded.registerBit_eq]
    exact Refines.refl _
  | clearRegisterBit bitNum =>
    rw [guarded, Guarded.clearRegisterBit, Guarded.registerBit_eq]
    exact Refines.refl _

end Refinement

/-- A value made of bytes that the node sent, and not of more than the register has. -/
inductive Bounded (size : ℕ) (sent : List Byte) : RegValue → Prop
  | string (bytes : List Byte) (begins : bytes <+: sent) (short : bytes.length ≤ size) :
      Bounded size sent (Node.text bytes)
  | bytes (bytes : List Byte) (begins : bytes <+: sent) (short : bytes.length ≤ size) :
      Bounded size sent (.bytes bytes)

/-- No access failed, and what is returned is bounded. -/
structure Keeps (size : ℕ) (sent : List Byte) (x : Outcome DevNodeException RegValue) : Prop where
  defined : x.Defined
  bounded : ∀ value, x = .value value → Bounded size sent value

section Keeps

variable {size : ℕ} {res : H9Frame}

theorem keeps_throws {sent : List Byte} (e : DevNodeException) : Keeps size sent (.throws e) :=
  ⟨Outcome.defined_throws e, nofun⟩

theorem not_keeps_undefined {sent : List Byte} : ¬Keeps size sent .undefined :=
  fun keeps => keeps.defined

theorem keeps_value {sent : List Byte} {value : RegValue} (bounded : Bounded size sent value) :
    Keeps size sent (.value value) :=
  ⟨Outcome.defined_value value, by rintro _ ⟨⟩; exact bounded⟩

variable (short : res.valueLength ≤ 7)

include short

theorem length_sent : res.sentValue.length = res.valueLength := by
  rw [H9Frame.length_sentValue]
  omega

theorem keeps_textOf (copied : ℕ) :
    Keeps size res.sentValue (Guarded.textOf res size copied) ↔
      res.valueLength ≤ size ∧ copied ≤ res.valueLength := by
  have length := length_sent short
  rw [Guarded.textOf]
  split
  · next inside =>
    exact iff_of_true (keeps_value (.string _ (List.prefix_refl _) (by omega))) ⟨inside.1, inside.2.2⟩
  · next outside => exact iff_of_false not_keeps_undefined fun fits => outside (by omega)

theorem keeps_bitsOf : Keeps size res.sentValue (Node.bitsOf size res) ↔ res.valueLength ≤ size := by
  have length := length_sent short
  rw [Node.bitsOf, ← H9Frame.sentValue_eq]
  split
  · next inside =>
    exact iff_of_true (keeps_value (.bytes _ (List.prefix_refl _) (by omega))) inside.1
  · next outside => exact iff_of_false not_keeps_undefined fun fits => outside (by omega)

theorem keeps_bytesOf : Keeps size res.sentValue (Node.bytesOf size res) := by
  have length := length_sent short
  rw [Node.bytesOf, if_pos (by omega), Node.sized]
  rcases eq_or_ne res.valueLength size with same | apart
  · rw [if_pos same, ← same, ← H9Frame.sentValue_eq]
    exact keeps_value (.bytes _ (List.prefix_refl _) (by omega))
  · rw [if_neg apart]
    exact keeps_throws _

end Keeps

section Answered

variable {desc : RegisterDesc} {res : H9Frame} (described : n.registerMap reg = some desc)
  (reply : env.reply = some res) (type : res.type = FrameType.REG_VALUE) (long : 2 ≤ res.dlc.toNat)
  (short : res.dlc.toNat ≤ 8)

include described

include reply type long short

theorem keeps_setString (v : String) (port : Port) :
    Keeps (Node.byteSize desc) res.sentValue (((setString v).guarded env n reg).outcome port) ↔
      Fits desc res.valueLength (setString v) := by
  rw [guarded, Guarded.setRegister, described, Fits]
  dsimp only
  cases writable : desc.writable with
  | false => exact iff_of_true (keeps_throws _) fun enabled => absurd enabled Bool.false_ne_true
  | true =>
    rcases eq_or_ne desc.type "str" with str | other
    · have text := Node.length_textBytes desc v
      have room : desc.size / 8 ≤ Node.byteSize desc := by
        rw [Node.byteSize]
        omega
      rw [if_pos rfl, if_pos str, (Guarded.setString_sends env n reg desc v).outcome, reply,
        answer_value type long, Node.ofAnswer, keeps_textOf (by rw [H9Frame.valueLength]; omega),
        imp_iff_right rfl, imp_iff_right str, Node.copiedText, text]
      split <;> omega
    · rw [if_pos rfl, if_neg other]
      exact iff_of_true (keeps_throws _) fun _ str => absurd str other

theorem keeps_setBytes (v : List Byte) (port : Port) :
    Keeps (Node.byteSize desc) res.sentValue (((setBytes v).guarded env n reg).outcome port) := by
  rw [guarded, Guarded.setRegister, described]
  dsimp only
  cases desc.writable with
  | false => exact keeps_throws _
  | true =>
    rw [if_pos rfl, Guarded.setBytes_eq]
    rcases eq_or_ne (Node.byteSize desc) v.length with length | apart
    · rw [(Node.setBytes_sends env n reg desc v length).outcome, reply, answer_value type long, Node.ofAnswer,
        length]
      exact keeps_bytesOf (by rw [H9Frame.valueLength]; omega)
    · rw [Node.setBytes, if_neg apart]
      exact keeps_throws _

theorem keeps_getRegister (scope : desc.type = "str" ∨ 32 < desc.size) (port : Port) :
    Keeps (Node.byteSize desc) res.sentValue ((getRegister.guarded env n reg).outcome port) ↔
      Fits desc res.valueLength getRegister := by
  have seven : res.valueLength ≤ 7 := by
    rw [H9Frame.valueLength]
    omega
  rw [guarded, Guarded.getRegister, described, Fits]
  dsimp only
  cases readable : desc.readable with
  | false => exact iff_of_true (keeps_throws _) fun enabled => absurd enabled Bool.false_ne_true
  | true =>
    rcases eq_or_ne desc.type "str" with str | other
    · rw [if_pos rfl, if_neg fun narrow => narrow.1 str, if_neg fun other => other str,
        (Guarded.getString_sends env n reg desc).outcome, reply, answer_value type long, Node.ofAnswer,
        keeps_textOf seven, imp_iff_right rfl, imp_iff_right str]
      omega
    · have wide : 32 < desc.size := scope.resolve_left other
      rw [if_pos rfl, if_neg fun narrow => absurd narrow.2 wide.not_ge, if_pos other, Guarded.getBytes_eq,
        (Node.getBytes_sends env n reg desc).outcome, reply, answer_value type long, Node.ofAnswer]
      exact iff_of_true (keeps_bytesOf seven) fun _ str => absurd str other

theorem keeps_registerBit (request : RawNode.Request) (port : Port) :
    Keeps (Node.byteSize desc) res.sentValue ((Guarded.registerBit env n reg request).outcome port) ↔
      (desc.writable = true → desc.type ≠ "str" → res.valueLength ≤ Node.byteSize desc) := by
  rw [Guarded.registerBit_eq, Node.bitOperation, described]
  dsimp only
  cases writable : desc.writable with
  | false => exact iff_of_true (keeps_throws _) fun enabled => absurd enabled Bool.false_ne_true
  | true =>
    rcases eq_or_ne desc.type "str" with str | other
    · rw [if_pos rfl, if_neg (not_not.mpr str)]
      exact iff_of_true (keeps_throws _) fun _ other => absurd str other
    · rw [if_pos rfl, if_pos other, (Node.bits_sends env n desc request).outcome, reply,
        answer_value type long, Node.ofAnswer, keeps_bitsOf (by rw [H9Frame.valueLength]; omega),
        imp_iff_right rfl, imp_iff_right other]

/-- An operation keeps to its buffer and to the answer exactly if the answer is no longer than the
operation takes for granted. -/
theorem keeps_iff (c : BufferedCall) (scope : c.InScope desc) :
    (∀ port, Keeps (Node.byteSize desc) res.sentValue ((c.guarded env n reg).outcome port)) ↔
      c.Fits desc res.valueLength := by
  cases c with
  | setString v =>
    simp only [keeps_setString env n reg described reply type long short]
    exact forall_const _
  | setBytes v =>
    exact iff_of_true (keeps_setBytes env n reg described reply type long short v) trivial
  | getRegister =>
    simp only [keeps_getRegister env n reg described reply type long short scope]
    exact forall_const _
  | setRegisterBit bitNum =>
    simp only [guarded, Guarded.setRegisterBit, keeps_registerBit env n reg described reply type long short]
    exact forall_const _
  | clearRegisterBit bitNum =>
    simp only [guarded, Guarded.clearRegisterBit, keeps_registerBit env n reg described reply type long short]
    exact forall_const _

end Answered

theorem keeps_setBit :
    Keeps 1 [5] (((setRegisterBit 2).guarded (Node.answeredBy (Node.registerValue [11, 5]))
      (Node.oneRegister 11 (Node.writableRegister "uint" 8)) 11).outcome []) :=
  (keeps_iff (Node.answeredBy (Node.registerValue [11, 5]))
    (Node.oneRegister 11 (Node.writableRegister "uint" 8)) 11
    (Node.oneRegister_described 11 (Node.writableRegister "uint" 8)) rfl
    (show (Node.registerValue [11, 5]).type = FrameType.REG_VALUE from rfl) (by decide) (by decide)
    (setRegisterBit 2) trivial).mpr (fun _ _ => by decide) []

/-- Two bytes in answer to a bit of a register of one byte: the second is read from behind the buffer. -/
theorem keeps_setBit_twoBytes :
    (((setRegisterBit 2).guarded (Node.answeredBy (Node.registerValue [11, 5, 6]))
        (Node.oneRegister 11 (Node.writableRegister "uint" 8)) 11).outcome []) = .undefined ∧
      ¬∀ port, Keeps 1 [5, 6] (((setRegisterBit 2).guarded (Node.answeredBy (Node.registerValue [11, 5, 6]))
        (Node.oneRegister 11 (Node.writableRegister "uint" 8)) 11).outcome port) := by
  have undefined : (((setRegisterBit 2).guarded (Node.answeredBy (Node.registerValue [11, 5, 6]))
      (Node.oneRegister 11 (Node.writableRegister "uint" 8)) 11).outcome []) = .undefined := rfl
  refine ⟨undefined, fun keeps => ?_⟩
  have first := keeps []
  rw [undefined] at first
  exact not_keeps_undefined first

end BufferedCall

end H9d
