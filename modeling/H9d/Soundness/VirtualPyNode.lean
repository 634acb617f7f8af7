import H9d.Model.VirtualPyNode

/-! # The built-in part of the virtual node

Everything that the built-in part does on a frame goes wrong: DISCOVER is sent back, a reset asks for a
group that a frame to one node does not carry, and no answer has its flags set. It keeps the protocol on
the frames that it does nothing on.
-/

namespace H9d.VirtualPyNode

open H9Frame Bits

/-- The members that the kind of a serialized frame carries. -/
def request (buf : Fin SERIALIZATION_LENGTH → Byte) : H9Frame :=
  (default : H9Frame).deserializeBytes "VirtualEndpoint" buf

section Requests

variable {buf : Fin SERIALIZATION_LENGTH → Byte}

theorem request_type : (request buf).type = buf 0 &&& lowMask 8 TYPE_BIT_LENGTH := by
  unfold request deserializeBytes
  dsimp only
  split
  · rfl
  · rfl

/-- A frame to one node leaves the group as it is in memory. -/
theorem deserializeBytes_of_unicast (unicast : (request buf).isUnicast) (f : H9Frame) :
    f.deserializeBytes "VirtualEndpoint" buf =
      { request buf with creationTimestamp := f.creationTimestamp, group := f.group } := by
  rw [isUnicast, request_type] at unicast
  unfold request deserializeBytes
  simp only [isUnicast, unicast, ↓reduceIte]

/-- A broadcast leaves the members of the address as they are in memory. -/
theorem deserializeBytes_of_broadcast (broadcast : (request buf).isUnicast = false) (f : H9Frame) :
    f.deserializeBytes "VirtualEndpoint" buf =
      { request buf with
        creationTimestamp := f.creationTimestamp
        flags := f.flags
        destinationId := f.destinationId
        seqnum := f.seqnum } := by
  rw [isUnicast, request_type] at broadcast
  unfold request deserializeBytes
  simp only [isUnicast, broadcast, Bool.false_eq_true, ↓reduceIte]

end Requests

/-! ## The protocol -/

section Protocol

variable (n : VirtualPyNode)

/-- A request that the built-in part answers. -/
def IsRequest (f : H9Frame) : Prop :=
  n.isAddressed f ∧
    (f.type = FrameType.SET_REG ∧ (1#8).ult f.dlc ∧ (f.data 0).ult 10#8 ∨
      f.type = FrameType.GET_REG ∧ f.dlc = 1 ∧ (f.data 0).ult 10#8 ∨
      f.type = FrameType.NODE_UPGRADE)

structure IsAnswer (request answer : H9Frame) : Prop where
  source : answer.sourceId.setWidth 16 = n.nodeId
  destination : answer.destinationId = request.sourceId
  seqnum : answer.seqnum = request.seqnum
  flags : answer.flags &&& lowMask 8 FLAGS_BITS_LENGTH = SINGE_FRAME
  content : answer.type = FrameType.REG_VALUE ∧ answer.dlc ≠ 0 ∧ answer.data 0 = request.data 0 ∨
    answer.type = FrameType.COMMAND_ERROR

structure IsInfo (f : H9Frame) : Prop where
  type : f.type = FrameType.NODE_INFO
  source : f.sourceId.setWidth 16 = n.nodeId
  nodeType : f.data 0 ++ f.data 1 = n.nodeType
  versionMajor : f.data 2 ++ f.data 3 = VERSION_MAJOR
  versionMinor : f.data 4 ++ f.data 5 = VERSION_MINOR

/-- What the node has to do on a serialized frame, whatever is in memory. -/
structure KeepsProtocol (buf : Fin SERIALIZATION_LENGTH → Byte) : Prop where
  discover : (request buf).type = FrameType.DISCOVER → n.isInGroup (request buf) →
    ∀ m, ∃ f, (n.receive m buf).sent = [f] ∧ n.IsInfo f
  reset : (request buf).type = FrameType.NODE_RESET → n.isAddressed (request buf) →
    ∀ m, (n.receive m buf).reloaded = true
  answered : n.IsRequest (request buf) →
    ∀ m, ∃ f, (n.receive m buf).sent = [f] ∧ n.IsAnswer (request buf) f
  others : (request buf).isUnicast → n.isAddressed (request buf) = false → ∀ m, (n.receive m buf).sent = []
  independent : ∀ m m', (n.receive m buf).node = (n.receive m' buf).node ∧
    (n.receive m buf).sent.map serialize = (n.receive m' buf).sent.map serialize ∧
    (n.receive m buf).reloaded = (n.receive m' buf).reloaded

/-- The frames that the built-in part does something on. -/
def Reacts (f : H9Frame) : Prop :=
  f.type = FrameType.DISCOVER ∧ n.isInGroup f ∨ f.type = FrameType.NODE_RESET ∨ n.IsRequest f

end Protocol

section Reactions

variable {n : VirtualPyNode} {buf : Fin SERIALIZATION_LENGTH → Byte} {garbage f : H9Frame}

/-- Whether the built-in part reacts does not depend on memory, only how it does. -/
theorem reacts_deserializeBytes :
    n.Reacts (f.deserializeBytes "VirtualEndpoint" buf) ↔ n.Reacts (request buf) := by
  induction kind : (request buf).isUnicast with
  | true =>
    have noDiscover : (request buf).type ≠ FrameType.DISCOVER := by
      intro discover
      rw [isUnicast, discover] at kind
      exact absurd kind (by decide)
    rw [deserializeBytes_of_unicast kind]
    refine or_congr ?_ Iff.rfl
    exact iff_of_false (fun both => noDiscover both.1) (fun both => noDiscover both.1)
  | false =>
    have unicast (type : FrameType) (low : type.ult FrameType.DISCOVER) : (request buf).type ≠ type := by
      rintro rfl
      exact absurd (kind.symm.trans low) (by decide)
    have noRequest (g : H9Frame) (same : g.type = (request buf).type) : ¬ n.IsRequest g := by
      rw [IsRequest, same]
      rintro ⟨-, ⟨setReg, -⟩ | ⟨getReg, -⟩ | nodeUpgrade⟩
      · exact unicast _ (by decide) setReg
      · exact unicast _ (by decide) getReg
      · exact unicast _ (by decide) nodeUpgrade
    rw [deserializeBytes_of_broadcast kind]
    exact or_congr Iff.rfl (or_congr Iff.rfl (iff_of_false (noRequest _ rfl) (noRequest _ rfl)))

/-- On any other frame nothing happens, or the Python function is called. -/
theorem onFrame_of_not_reacts (quiet : ¬ n.Reacts f) :
    n.onFrame garbage f = (n, none) ∨ n.onFrame garbage f = (n, some (.callPyOnFrame f)) := by
  obtain ⟨noDiscover, others⟩ := not_or.mp quiet
  obtain ⟨noReset, noRequest⟩ := not_or.mp others
  rw [onFrame, if_neg noDiscover, if_neg (fun both => noReset both.1)]
  by_cases setReg : f.type = FrameType.SET_REG ∧ n.isAddressed f ∧ (1#8).ult f.dlc
  · have python : (10#8).ule (f.data 0) := by
      rw [BitVec.ule_eq_not_ult, Bool.not_eq_true']
      exact Bool.eq_false_iff.mpr fun builtIn =>
        noRequest ⟨setReg.2.1, .inl ⟨setReg.1, setReg.2.2, builtIn⟩⟩
    rw [if_pos setReg, if_pos python]
    exact .inr rfl
  rw [if_neg setReg]
  by_cases getReg : f.type = FrameType.GET_REG ∧ n.isAddressed f ∧ f.dlc = 1
  · have python : (10#8).ule (f.data 0) := by
      rw [BitVec.ule_eq_not_ult, Bool.not_eq_true']
      exact Bool.eq_false_iff.mpr fun builtIn =>
        noRequest ⟨getReg.2.1, .inr (.inl ⟨getReg.1, getReg.2.2, builtIn⟩)⟩
    rw [if_pos getReg, if_pos python]
    exact .inr rfl
  rw [if_neg getReg]
  split
  · exact .inr rfl
  rw [if_neg (fun upgrade => noRequest ⟨upgrade.2, .inr (.inr upgrade.1)⟩)]
  exact .inl rfl

theorem setReg_flags : (n.setReg garbage f).2.flags = garbage.flags := by
  unfold setReg
  split
  · rfl
  · rfl

theorem getReg_flags : (n.getReg garbage f).flags = garbage.flags := by
  unfold getReg
  split_ifs
  · rfl
  · rfl
  · rfl
  · rfl
  · rfl
  · rfl

/-- One frame answers a request, and its flags are those of the memory. -/
theorem onFrame_of_isRequest (isRequest : n.IsRequest f) :
    ∃ next res, n.onFrame garbage f = (next, some (.sendFrame res)) ∧ res.flags = garbage.flags := by
  have builtIn (low : (f.data 0).ult 10#8) : ¬ (10#8).ule (f.data 0) := by
    rw [BitVec.ule_eq_not_ult, low]
    decide
  obtain ⟨addressed, ⟨type, long, low⟩ | ⟨type, one, low⟩ | type⟩ := isRequest
  · rw [onFrame, type, if_neg (not_and_of_not_left _ (by decide)), if_neg (not_and_of_not_left _ (by decide)),
      if_pos ⟨rfl, addressed, long⟩, if_neg (builtIn low)]
    exact ⟨_, _, rfl, setReg_flags⟩
  · rw [onFrame, type, if_neg (not_and_of_not_left _ (by decide)), if_neg (not_and_of_not_left _ (by decide)),
      if_neg (not_and_of_not_left _ (by decide)), if_pos ⟨rfl, addressed, one⟩, if_neg (builtIn low)]
    exact ⟨_, _, rfl, getReg_flags⟩
  · rw [onFrame, type, if_neg (not_and_of_not_left _ (by decide)), if_neg (not_and_of_not_left _ (by decide)),
      if_neg (not_and_of_not_left _ (by decide)), if_neg (not_and_of_not_left _ (by decide)),
      if_neg (not_and_of_not_left _ (by decide)), if_pos ⟨rfl, addressed⟩]
    exact ⟨_, _, rfl, rfl⟩

theorem onFrame_discover (discover : f.type = FrameType.DISCOVER) (group : n.isInGroup f) :
    n.onFrame garbage f = (n, some (.sendFrame f)) := by
  rw [onFrame, if_pos ⟨discover, group⟩]

theorem onFrame_nodeReset (nodeReset : f.type = FrameType.NODE_RESET) :
    n.onFrame garbage f = (n, if n.isInGroup f then some .reset else none) := by
  rw [onFrame, nodeReset, if_neg (not_and_of_not_left _ (by decide))]
  split
  · next both => rw [if_pos both.2]
  · next neither =>
    rw [if_neg (not_and_of_not_left _ (by decide)), if_neg (not_and_of_not_left _ (by decide)),
      if_neg (not_and_of_not_left _ (by decide)), if_neg (not_and_of_not_left _ (by decide)),
      if_neg (fun group => neither ⟨rfl, group⟩)]

end Reactions

/-! ## The frames on which the protocol is kept -/

section KeepsProtocol

variable (n : VirtualPyNode) (buf : Fin SERIALIZATION_LENGTH → Byte)

theorem receive_of_not_reacts (quiet : ¬ n.Reacts (request buf)) (m : Memory) :
    n.receive m buf = ⟨n, [], false⟩ := by
  rw [receive]
  rcases onFrame_of_not_reacts (mt reacts_deserializeBytes.mp quiet) with nothing | python
  · rw [nothing]
  · rw [python]

/-- A group that the node is not in. -/
theorem exists_other_group (nodeType : BitVec 16) : ∃ group, group ≠ nodeType ∧ group ≠ BROADCAST_ALL_GROUP := by
  by_cases zero : nodeType = 0
  · exact ⟨1, by rw [zero]; decide, by decide⟩
  · exact ⟨0, Ne.symm zero, by decide⟩

variable {n buf}

theorem receive_of_discover (type : (request buf).type = FrameType.DISCOVER) (group : n.isInGroup (request buf))
    (m : Memory) : ∃ f, (n.receive m buf).sent = [f] ∧ f.type = FrameType.DISCOVER := by
  have broadcast : (request buf).isUnicast = false := by
    rw [isUnicast, type]
    decide
  have same := deserializeBytes_of_broadcast broadcast m.frame
  have received : (m.frame.deserializeBytes "VirtualEndpoint" buf).type = FrameType.DISCOVER := by
    rw [same]
    exact type
  have inGroup : n.isInGroup (m.frame.deserializeBytes "VirtualEndpoint" buf) := by
    rw [same]
    exact group
  refine ⟨m.frame.deserializeBytes "VirtualEndpoint" buf, ?_, received⟩
  rw [receive, onFrame_discover received inGroup]

theorem receive_of_nodeReset (type : (request buf).type = FrameType.NODE_RESET) (m : Memory) :
    (n.receive m buf).reloaded = n.isInGroup m.frame := by
  have unicast : (request buf).isUnicast := by
    rw [isUnicast, type]
    decide
  have same := deserializeBytes_of_unicast unicast m.frame
  have received : (m.frame.deserializeBytes "VirtualEndpoint" buf).type = FrameType.NODE_RESET := by
    rw [same]
    exact type
  have group : n.isInGroup (m.frame.deserializeBytes "VirtualEndpoint" buf) = n.isInGroup m.frame := by
    rw [same]
    rfl
  rw [receive, onFrame_nodeReset received, group]
  induction n.isInGroup m.frame with
  | true => rfl
  | false => rfl

theorem receive_of_isRequest (isRequest : n.IsRequest (request buf)) (m : Memory) :
    ∃ f, (n.receive m buf).sent = [f] ∧ f.flags = m.res.flags := by
  have unicast : (request buf).isUnicast := by
    obtain ⟨-, ⟨type, -⟩ | ⟨type, -⟩ | type⟩ := isRequest
    · rw [isUnicast, type]
      decide
    · rw [isUnicast, type]
      decide
    · rw [isUnicast, type]
      decide
  have same : n.IsRequest (m.frame.deserializeBytes "VirtualEndpoint" buf) := by
    rw [deserializeBytes_of_unicast unicast]
    exact isRequest
  obtain ⟨next, res, answers, flags⟩ : ∃ next res, n.onFrame m.res _ = (next, some (.sendFrame res)) ∧
      res.flags = m.res.flags := onFrame_of_isRequest same
  exact ⟨res, by rw [receive, answers], flags⟩

variable (n buf)

/-- The protocol is kept on exactly the frames that the built-in part does nothing on. -/
theorem keepsProtocol_iff : n.KeepsProtocol buf ↔ ¬ n.Reacts (request buf) := by
  constructor
  · rintro ⟨discover, reset, answered, others, independent⟩ (⟨type, group⟩ | type | isRequest)
    · obtain ⟨f, sent, info⟩ := discover type group default
      obtain ⟨g, sent', back⟩ := receive_of_discover type group default
      obtain rfl := List.singleton_injective (sent.symm.trans sent')
      exact absurd (info.type.symm.trans back) (by decide)
    · obtain ⟨group, outside, few⟩ := exists_other_group n.nodeType
      have same := (independent ⟨{ (default : H9Frame) with group := n.nodeType }, default, default⟩
        ⟨{ (default : H9Frame) with group }, default, default⟩).2.2
      rw [receive_of_nodeReset type, receive_of_nodeReset type] at same
      simp [isInGroup, outside, few] at same
    · let garbage : Memory := ⟨default, { (default : H9Frame) with flags := 1 }, default⟩
      obtain ⟨f, sent, answer⟩ := answered isRequest garbage
      obtain ⟨g, sent', flags⟩ := receive_of_isRequest isRequest garbage
      obtain rfl := List.singleton_injective (sent.symm.trans sent')
      have single := answer.flags
      rw [flags] at single
      exact absurd single (by decide)
  · intro quiet
    have nothing := receive_of_not_reacts n buf quiet
    refine ⟨fun type group => ?_, fun type => ?_, fun isRequest => ?_, fun _ _ m => ?_, fun m m' => ?_⟩
    · exact absurd (.inl ⟨type, group⟩) quiet
    · exact absurd (.inr (.inl type)) quiet
    · exact absurd (.inr (.inr isRequest)) quiet
    · rw [nothing]
    · rw [nothing, nothing]
      exact ⟨rfl, rfl, rfl⟩

/-- A node 40 of type 5, and a DISCOVER of node 1 for all groups. -/
def mock : VirtualPyNode := make 40 5 []

def discoverAll : Fin SERIALIZATION_LENGTH → Byte := ![16, 1, 0xff, 0xff, 0, 0, 0, 0, 0, 0, 0, 0, 0]

/-- The node sends the DISCOVER back, and no NODE_INFO. -/
theorem keepsProtocol_discoverAll :
    (mock.receive default discoverAll).sent.map serialize = [discoverAll] ∧ ¬ mock.KeepsProtocol discoverAll := by
  have reacts : mock.Reacts (request discoverAll) := .inl (by decide)
  exact ⟨by decide, fun keeps => (keepsProtocol_iff mock discoverAll).mp keeps reacts⟩

end KeepsProtocol

end H9d.VirtualPyNode
