import H9d.Model.DevStates
import H9d.Soundness.RegisterReplies

/-! # What the tasks of devices throw

A worker catches nothing, and a device only the exceptions of the nodes. The antenna switch takes the value of its
register for an integer, while the type that its node has by then decides what the value is.
-/

namespace H9d

open Cxx Machine LabeledMachine H9Frame

namespace DevStates

/-- A frame that has the value of a register. -/
def HasValue (frame : H9Frame) : Prop :=
  (frame.type = FrameType.REG_VALUE ∨ frame.type = FrameType.REG_VALUE_BROADCAST) ∧ 2 ≤ frame.dlc.toNat

/-- The device takes the value for an integer. -/
def TakesInt (nodeId : BitVec 16) (reg : Byte) : Dev.Kind → Prop
  | .antennaSwitch switchNodeId .. => nodeId = switchNodeId ∧ reg = Dev.ANTENNA_SELECT_REG
  | .atu _ | .powerSwitch _ | .thunderSwitch _ => False

/-- A value that the node reads of the frame has an end if it is a text, and is an integer if the device takes it
for one. -/
structure Fitting (desc : RegisterDesc) (nodeId : BitVec 16) (frame : H9Frame) (kind : Dev.Kind) : Prop where
  text : desc.type = "str" → 0 ∈ frame.valueBytes
  integer : TakesInt nodeId (frame.data 0) kind →
    (desc.type ≠ "str" ∧ desc.size ≤ 32) ∨ Node.byteSize desc < frame.valueLength

/-- Each register of which the frame has the value fits the device. -/
def Guard (m : NodeMgr) (nodeId : BitVec 16) (frame : H9Frame) (kind : Dev.Kind) : Prop :=
  HasValue frame → ∀ id n desc, id.val = nodeId.toNat → m.nodes id = some n →
    n.registerMap (frame.data 0) = some desc → Fitting desc nodeId frame kind

section Update

variable {m : NodeMgr} {nodeId : BitVec 16} {frame : H9Frame} {d : Dev} {n : Node} {desc : RegisterDesc}

/-- What a device makes of the outcome of a read. -/
def taken (kind : Dev.Kind) (nodeId : BitVec 16) (reg : Byte) :
    Outcome DevNodeException (Byte × RegValue) → Outcome Dev.UpdateError Dev.Kind
  | .value (_, value) => Dev.onDevRegisterValue nodeId reg value kind
  | .throws _ => .value kind
  | .undefined => .undefined

theorem onDevRegisterValue_int (kind : Dev.Kind) (reg : Byte) (v : BitVec 64) :
    (Dev.onDevRegisterValue nodeId reg (.int v) kind).Returns := by
  cases kind with
  | antennaSwitch =>
    rw [Dev.onDevRegisterValue]
    split <;> exact trivial
  | atu | powerSwitch | thunderSwitch => exact trivial

theorem onDevRegisterValue_other (kind : Dev.Kind) (reg : Byte) {value : RegValue} (other : ∀ v, value ≠ .int v) :
    (Dev.onDevRegisterValue nodeId reg value kind).Returns ↔ ¬TakesInt nodeId reg kind := by
  cases kind with
  | antennaSwitch =>
    rw [Dev.onDevRegisterValue, TakesInt]
    split
    · next takes =>
      refine iff_of_false ?_ (not_not.mpr takes)
      cases value with
      | int v => exact absurd rfl (other v)
      | string | float | bytes => exact id
    · next leaves => exact iff_of_true trivial leaves
  | atu | powerSwitch | thunderSwitch => exact iff_of_true trivial id

/-- The value of a register that the node has. -/
theorem taken_returns_iff (value : HasValue frame) (short : frame.dlc.toNat ≤ 8)
    (known : n.registerMap (frame.data 0) = some desc) (kind : Dev.Kind) (before : RegValue) :
    (taken kind nodeId (frame.data 0) (n.getRegValueFromFrame frame before)).Returns ↔
      Fitting desc nodeId frame kind := by
  have notInt {value : RegValue} (other : ∀ v, value ≠ .int v) (fits : ¬Node.byteSize desc < frame.valueLength)
      (ends : desc.type = "str" → 0 ∈ frame.valueBytes) (kind' : desc.type = "str" ∨ 32 < desc.size) :
      (taken kind nodeId (frame.data 0) (.value (frame.data 0, value))).Returns ↔ Fitting desc nodeId frame kind := by
    refine (onDevRegisterValue_other kind (frame.data 0) other).trans ⟨fun leaves => ⟨ends, ?_⟩, fun fitting takes => ?_⟩
    · exact fun takes => absurd takes leaves
    · rcases fitting.integer takes with ⟨number, small⟩ | large
      · exact kind'.elim number fun wide => absurd small (Nat.not_le.mpr wide)
      · exact fits large
  rw [Node.getRegValueFromFrame, if_pos value.1, if_neg (Nat.not_lt.mpr value.2)]
  dsimp only
  rw [known]
  dsimp only
  by_cases text : desc.type = "str"
  · rw [if_neg (not_not.mpr text)]
    by_cases ends : 0 ∈ (List.ofFn frame.data).tail
    · rw [if_neg (not_not.mpr ends)]
      by_cases large : Node.byteSize desc < frame.dlc.toNat - 1
      · rw [if_pos large]
        exact iff_of_true trivial ⟨fun _ => ends, fun _ => .inr large⟩
      · rw [if_neg large]
        exact notInt (fun v => nofun) large (fun _ => ends) (.inl text)
    · rw [if_pos ends]
      exact iff_of_false id fun fitting => ends (fitting.text text)
  · rw [if_pos text]
    cases width : Node.numberWidth desc.size with
    | some width =>
      have small : desc.size ≤ 32 := by
        by_contra wide
        rw [Node.numberWidth_eq_none.mpr (Nat.not_le.mp wide)] at width
        cases width
      refine iff_of_true ?_ ⟨fun same => absurd same text, fun _ => .inl ⟨text, small⟩⟩
      dsimp only
      split
      · trivial
      · exact onDevRegisterValue_int kind (frame.data 0) _
    | none =>
      have wide : 32 < desc.size := Node.numberWidth_eq_none.mp width
      dsimp only
      by_cases large : Node.byteSize desc < frame.dlc.toNat - 1
      · rw [if_pos large]
        exact iff_of_true trivial ⟨fun same => absurd same text, fun _ => .inr large⟩
      · rw [if_neg large, if_neg (by omega)]
        exact notInt (fun v => nofun) large (fun same => absurd same text) (.inr wide)

theorem updateDevState_of_value (isValue : frame.type = FrameType.REG_VALUE ∨ frame.type = FrameType.REG_VALUE_BROADCAST) :
    d.updateDevState m nodeId frame =
      taken d.kind nodeId (frame.data 0) ((m.getRegValueFromFrame nodeId frame (.string "")).outcome []) >>=
        fun kind => .value { d with kind } := by
  have notInfo : ¬(frame.type = FrameType.NODE_INFO ∨ frame.type = FrameType.NODE_TURNED_ON) := by
    rcases isValue with same | same <;> rw [same] <;> decide
  rw [Dev.updateDevState, if_neg notInfo, if_pos isValue]
  cases (m.getRegValueFromFrame nodeId frame (.string "")).outcome [] <;> rfl

theorem updateDevState_of_other
    (other : ¬(frame.type = FrameType.REG_VALUE ∨ frame.type = FrameType.REG_VALUE_BROADCAST)) :
    (d.updateDevState m nodeId frame).Returns := by
  rw [Dev.updateDevState, if_neg other]
  split <;> trivial

/-- A device handles a received frame exactly if the values that are read fit it. -/
theorem updateDevState_returns_iff (inside : nodeId.toNat < H9Frame.ID_MAX_VALUE + 1) (short : frame.dlc.toNat ≤ 8) :
    (d.updateDevState m nodeId frame).Returns ↔ Guard m nodeId frame d.kind := by
  by_cases isValue : frame.type = FrameType.REG_VALUE ∨ frame.type = FrameType.REG_VALUE_BROADCAST
  · rw [updateDevState_of_value isValue, Outcome.Returns, Outcome.only_bind]
    refine (and_iff_left fun _ _ => trivial).trans ?_
    have entry : (m.nodeAt nodeId : Outcome DevNodeException _) = .value (m.nodes ⟨nodeId.toNat, inside⟩) := dif_pos inside
    rw [NodeMgr.getRegValueFromFrame, NodeMgr.withNode, entry]
    cases found : m.nodes ⟨nodeId.toNat, inside⟩ with
    | none =>
      refine iff_of_true trivial fun _ id n desc same known => ?_
      obtain rfl : id = ⟨nodeId.toNat, inside⟩ := Fin.ext same
      rw [found] at known
      cases known
    | some n =>
      change (taken d.kind nodeId (frame.data 0) (n.getRegValueFromFrame frame (.string ""))).Returns ↔ _
      by_cases long : 2 ≤ frame.dlc.toNat
      · cases known : n.registerMap (frame.data 0) with
        | none =>
          rw [Node.getRegValueFromFrame, if_pos isValue, if_neg (Nat.not_lt.mpr long)]
          dsimp only
          rw [known]
          refine iff_of_true trivial fun _ id n' desc same found' known' => ?_
          obtain rfl : id = ⟨nodeId.toNat, inside⟩ := Fin.ext same
          obtain rfl := Option.some.inj (found.symm.trans found')
          rw [known] at known'
          cases known'
        | some desc =>
          rw [taken_returns_iff ⟨isValue, long⟩ short known]
          constructor
          · intro fitting _ id n' desc' same found' known'
            obtain rfl : id = ⟨nodeId.toNat, inside⟩ := Fin.ext same
            obtain rfl := Option.some.inj (found.symm.trans found')
            obtain rfl := Option.some.inj (known.symm.trans known')
            exact fitting
          · exact fun guard => guard ⟨isValue, long⟩ _ n desc rfl found known
      · rw [Node.getRegValueFromFrame, if_pos isValue, if_pos (Nat.not_le.mp long)]
        exact iff_of_true trivial fun value => absurd value.2 long
  · exact iff_of_true (updateDevState_of_other isValue) fun value => absurd value.1 isValue

end Update

section Runs

variable {Device : Type} [DecidableEq Device] {std : NodeDescLoader.StdRegisters}

/-- A frame comes from the bus with at most eight bytes. -/
def Received : Event Device → Prop
  | .update (.frame _ frame) => frame.dlc.toNat ≤ 8
  | .update (.reload _) | .periodDevUpdate _ | .execute _ => True

/-- Tasks are for nodes of the array, with frames of the bus. -/
def Queued : DevWorkers.Task Device → Prop
  | .updateTask _ nodeId frame => nodeId.toNat < H9Frame.ID_MAX_VALUE + 1 ∧ frame.dlc.toNat ≤ 8
  | .periodicTask _ => True

/-- No exception leaves the worker, and the task runs to its end. -/
def Handled (std : NodeDescLoader.StdRegisters) (s : DevStates Device) (e : Event Device) : Prop :=
  ∀ t, step? std s e = some t → t.fault = none

/-- The task that is executed has a value that fits its device, if it has one. -/
def Fits (s : DevStates Device) : Event Device → Prop
  | .execute task => s.fault = none → ∀ dev nodeId frame, s.tasks[task]? = some (.updateTask dev nodeId frame) →
      Guard s.manager nodeId frame (s.devs dev).kind
  | .update _ | .periodDevUpdate _ => True

/-- All tasks are queued for frames of the bus. -/
def AllQueued (s : DevStates Device) : Prop := ∀ work ∈ s.tasks, Queued work

variable {s t : DevStates Device}

theorem execute_tasks (s : DevStates Device) (work : DevWorkers.Task Device) : (s.execute work).tasks = s.tasks := by
  cases work with
  | periodicTask => rfl
  | updateTask dev nodeId frame =>
    rw [execute]
    dsimp only
    cases (s.devs dev).updateDevState s.manager nodeId frame <;> rfl

theorem AllQueued.step (queued : AllQueued s) {e : Event Device} (received : Received e)
    (step : step? std s e = some t) : AllQueued t := by
  rw [step?] at step
  split at step
  · cases step
  · cases e with
    | update update =>
      obtain ⟨manager, -, rfl⟩ := Option.map_eq_some_iff.mp step
      intro work member
      rcases List.mem_append.mp member with old | new
      · exact queued work old
      · cases update with
        | reload env => cases new
        | frame env frame =>
          obtain ⟨dev, -, rfl⟩ := List.mem_map.mp new
          refine ⟨?_, received⟩
          rw [BitVec.toNat_setWidth_of_le (by decide)]
          exact frame.sourceId.isLt
    | periodDevUpdate devsMap =>
      cases step
      intro work member
      rcases List.mem_append.mp member with old | new
      · exact queued work old
      · obtain ⟨dev, -, rfl⟩ := List.mem_map.mp new
        trivial
    | execute task =>
      obtain ⟨work, -, rfl⟩ := Option.map_eq_some_iff.mp step
      intro other member
      rw [execute_tasks] at member
      exact queued other (List.mem_of_mem_eraseIdx member)

theorem execute_fault_iff (clean : s.fault = none) (dev : Device) (nodeId : BitVec 16) (frame : H9Frame) :
    (s.execute (.updateTask dev nodeId frame)).fault = none ↔
      ((s.devs dev).updateDevState s.manager nodeId frame).Returns := by
  rw [execute]
  dsimp only
  cases (s.devs dev).updateDevState s.manager nodeId frame with
  | value next => exact iff_of_true clean trivial
  | throws e => exact iff_of_false nofun id
  | undefined => exact iff_of_false nofun id

/-- A step is handled exactly if its task has nothing that does not fit. -/
theorem handled_iff_fits (queued : AllQueued s) (e : Event Device) : Handled std s e ↔ Fits s e := by
  by_cases clean : s.fault = none
  · have running : ¬s.fault.isSome := by
      rw [clean]
      exact Bool.false_ne_true
    cases e with
    | update update =>
      refine iff_of_true (fun t step => ?_) trivial
      rw [step?, if_neg running] at step
      obtain ⟨manager, -, rfl⟩ := Option.map_eq_some_iff.mp step
      exact clean
    | periodDevUpdate devsMap =>
      refine iff_of_true (fun t step => ?_) trivial
      rw [step?, if_neg running] at step
      cases step
      exact clean
    | execute task =>
      rw [Handled, Fits, step?, if_neg running, enabled?, imp_iff_right clean]
      cases found : s.tasks[task]? with
      | none => exact iff_of_true (fun t step => by cases step) (fun dev nodeId frame same => by cases same)
      | some work =>
        simp only [Option.map_some, Option.some.injEq, forall_eq']
        cases work with
        | periodicTask dev => exact iff_of_true clean nofun
        | updateTask dev nodeId frame =>
          obtain ⟨inside, short⟩ := queued _ (List.mem_of_getElem? found)
          rw [execute_fault_iff (by exact clean), updateDevState_returns_iff inside short]
          refine ⟨?_, fun fits => fits dev nodeId frame rfl⟩
          rintro guard _ _ _ ⟨⟩
          exact guard
  · have stopped : s.fault.isSome := Option.isSome_iff_ne_none.mpr clean
    have stuck : step? std s e = none := if_pos stopped
    refine iff_of_true (fun t step => ?_) ?_
    · rw [stuck] at step
      cases step
    · cases e with
      | execute task => exact fun none => absurd none clean
      | update | periodDevUpdate => trivial

/-- In every run on frames of the bus, the workers handle every task exactly if the registers of which a task has
the value fit its device. -/
theorem handled_runs_iff (initial : (machine std).Initial s) {events : List (Event Device)}
    (received : ∀ e ∈ events, Received e) :
    (machine std).AllSteps (Handled std) s events ↔ (machine std).AllSteps Fits s events := by
  have start : AllQueued s := by
    intro work member
    rw [initial.2.1] at member
    cases member
  have preserved : ∀ (s : DevStates Device) e t, AllQueued s → Received e → (machine std).step? s e = some t →
      AllQueued t := fun _ _ _ queued received step => queued.step received step
  exact AllSteps.congr_of_invariant preserved (fun _ e queued _ => handled_iff_fits queued e) start received

/-- The switch that the node 7 is, and the device that depends on it. -/
def antennaSwitch : DevStates Unit where
  manager := ⟨fun _ => none, fun _ => none, []⟩
  dependentDevices := fun _ => [()]
  devs := fun _ => ⟨"antenna", [7], .antennaSwitch 0xffff 0xffff 0⟩
  tasks := []
  fault := none
  decoded := []
  emitted := []

/-- The types 5 and 6 have a register 10, one of them a number. -/
def twoTypes : Env := { (default : Env) with
  nodesFile := some
    [⟨5, some "Antenna switch", "", [⟨10, some "Selected antenna", some "uint", 8, true, true, [], ""⟩]⟩,
      ⟨6, some "Meter", "", [⟨10, some "Calibration", some "blob", 48, true, false, [], ""⟩]⟩] }

def fromNode (type : FrameType) (data : List Byte) : Event Unit :=
  .update (.frame default ({ (default : Env).frameMemory with type, sourceId := 7 }.setData data))

/-- The node announces these types one after the other, and the value of its register 10. -/
def announced (types : List Byte) (value : List Byte) : List (Event Unit) :=
  .update (.reload twoTypes) ::
    (types.flatMap fun type => [fromNode FrameType.NODE_INFO [0, type, 0, 1, 0, 0, 0, 0], .execute 0]) ++
      [fromNode FrameType.REG_VALUE (10 :: value), .execute 0]

theorem initial_antennaSwitch : (machine default).Initial antennaSwitch := by
  refine ⟨?_, rfl, rfl, rfl, rfl⟩
  intro id n found
  cases found

theorem received_fromNode (type : FrameType) (data : List Byte) : Received (fromNode type data) := by
  change (BitVec.ofNat 8 (min data.length 8)).toNat ≤ 8
  rw [BitVec.toNat_ofNat]
  omega

theorem received_announced (types value : List Byte) : ∀ e ∈ announced types value, Received e := by
  intro e member
  rcases List.mem_cons.mp member with rfl | later
  · trivial
  · rcases List.mem_append.mp later with info | last
    · obtain ⟨type, -, listed⟩ := List.mem_flatMap.mp info
      simp only [List.mem_cons, List.not_mem_nil, or_false] at listed
      rcases listed with rfl | rfl
      · exact received_fromNode _ _
      · trivial
    · simp only [List.mem_cons, List.not_mem_nil, or_false] at last
      rcases last with rfl | rfl
      · exact received_fromNode _ _
      · trivial

/-- The value is a number. -/
theorem handled_antennaSwitch : (machine default).AllSteps (Handled default) antennaSwitch (announced [5] [1]) := by
  refine (handled_runs_iff initial_antennaSwitch (received_announced [5] [1])).mpr ?_
  refine ⟨trivial, trivial, fun _ dev nodeId frame queued => ?_, trivial, fun _ dev nodeId frame queued => ?_, trivial⟩
  · cases queued
    exact fun value => absurd value.1 (by decide)
  · cases queued
    intro _ id n desc same found known
    obtain rfl : id = ⟨7, by decide⟩ := Fin.ext same
    cases found
    cases known
    exact ⟨fun text => absurd text (by decide), fun _ => .inl (by decide)⟩

/-- The node of an antenna switch becomes one whose register 10 has six bytes. -/
theorem not_handled : ¬∀ (std) (s : DevStates Unit) (events : List (Event Unit)), (machine std).Initial s →
    (∀ e ∈ events, Received e) → (machine std).AllSteps (Handled std) s events := by
  intro all
  have handled := all default antennaSwitch _ initial_antennaSwitch (received_announced [5, 6] [1, 2, 3, 4, 5, 6])
  obtain ⟨t, run, fault⟩ : ∃ t, (machine default).run? antennaSwitch (announced [5, 6] [1, 2, 3, 4, 5, 6]) = some t ∧
      t.fault = some (.terminated .badVariantAccess) := ⟨_, rfl, rfl⟩
  have clean : t.fault = none := run_invariant_of_guard (fun s => s.fault = none)
    (fun _ _ _ _ handled step => handled _ step) rfl handled run
  rw [clean] at fault
  cases fault

end Runs

end DevStates

end H9d
