import H9d.Model.RegisterLookups

/-! # The two lookups of registers find the same

The loader skips the registers of a type whose numbers are below 10 or need more than 8 bits. So the registers
of a type and the standard registers have no number in common, and no key is cut when a node copies them.
-/

namespace H9d

open Cxx NodeDescLoader OrderedMap

namespace RegisterLookups

/-- The keys that the loader lets through. -/
def Admitted (registers : RegisterMap 16) : Prop := ∀ key ∈ keys registers.entries, 10 ≤ key.toNat ∧ key.toNat ≤ 0xff

section Admitted

variable {ε : Type}

theorem loadRegister_admitted {registers registers' : RegisterMap 16} {s : RegisterSection}
    (admitted : Admitted registers) (read : (loadRegister registers s : Outcome ε _) = .value registers') :
    Admitted registers' := by
  rw [loadRegister] at read
  split at read
  · cases read
    exact admitted
  · next taken =>
    obtain ⟨low, high⟩ := not_or.mp taken
    split at read
    · cases read
      intro key member
      rcases mem_keys_access _ _ _ _ member with rfl | old
      · rw [BitVec.toNat_ofNat]
        omega
      · exact admitted key old
    · cases read

theorem loadType_admitted {types types' : TypeMap} {s : NodeTypeSection}
    (admitted : ∀ type desc, types.find type = some desc → Admitted desc.registers)
    (read : (loadType types s : Outcome ε _) = .value types') :
    ∀ type desc, types'.find type = some desc → Admitted desc.registers := by
  rw [loadType] at read
  split at read
  · obtain ⟨registers, ran, rest⟩ := Outcome.bind_eq_value.mp read
    cases rest
    have start : Admitted ((types.find s.title).getD freshType).registers := by
      cases found : types.find s.title with
      | none => exact nofun
      | some desc => exact admitted s.title desc found
    have loaded : Admitted registers := Outcome.foldlM_invariant (fun _ _ _ => loadRegister_admitted) start ran
    intro type desc found
    rw [UIntMap.find_assign] at found
    split at found
    · cases found
      exact loaded
    · exact admitted type desc found
  · cases read

theorem loadFile_admitted {types types' : TypeMap} {file : Option (List NodeTypeSection)}
    (admitted : ∀ type desc, types.find type = some desc → Admitted desc.registers)
    (read : (loadFile types file : Outcome ε _) = .value types') :
    ∀ type desc, types'.find type = some desc → Admitted desc.registers := by
  cases file with
  | none =>
    cases read
    exact admitted
  | some sections => exact Outcome.foldlM_invariant (fun _ _ _ => loadType_admitted) admitted read

theorem Loaded.admitted {types : TypeMap} (loaded : Loaded types) :
    ∀ type desc, types.find type = some desc → Admitted desc.registers := by
  induction loaded with
  | start => exact fun _ _ => nofun
  | loadFile _ read ih => exact loadFile_admitted ih read
  | reload _ read _ => exact loadFile_admitted (fun _ _ found => by cases found) read

end Admitted

section Find

variable {std : StdRegisters} {types : TypeMap}

theorem find_of_admitted {registers : RegisterMap 16} (admitted : Admitted registers) {key : BitVec 16}
    (low : key.toNat < 10) : registers.find key = none := by
  cases found : registers.find key with
  | none => rfl
  | some desc =>
    have bounds := admitted key (UIntMap.mem_of_find key desc found)
    omega

theorem getNodeRegisterByType_admitted
    (admitted : ∀ type desc, types.find type = some desc → Admitted desc.registers) (type : BitVec 16) :
    Admitted (getNodeRegisterByType types type) := by
  rw [getNodeRegisterByType]
  cases found : types.find type with
  | none => exact nofun
  | some desc => exact admitted type desc found

theorem find_getNodeRegisterByType (type key : BitVec 16) :
    (getNodeRegisterByType types type).find key = (types.find type).bind fun desc => desc.registers.find key := by
  rw [getNodeRegisterByType]
  cases types.find type <;> rfl

theorem mem_keys_stdRegisterMap {key : BitVec 16} (member : key ∈ keys (stdRegisterMap std).entries) :
    ∃ desc ∈ stdRegister std, key = desc.number.setWidth 16 := by
  have listed := UIntMap.mem_keys_ofList key member
  rw [List.map_map] at listed
  obtain ⟨desc, given, same⟩ := List.mem_map.mp listed
  exact ⟨desc, given, same.symm⟩

/-- What a node finds in the map that it builds. -/
theorem find_registerMap (admitted : ∀ type desc, types.find type = some desc → Admitted desc.registers)
    (nodeType : BitVec 16) (reg : Byte) :
    (registerMap std types nodeType).find reg =
      ((types.find nodeType).bind fun desc => desc.registers.find (reg.setWidth 16)).or
        ((stdRegisterMap std).find (reg.setWidth 16)) := by
  have narrow : ∀ key ∈ keys (stdRegisterMap std).entries, key.toNat < 2 ^ 8 := by
    intro key member
    obtain ⟨desc, -, rfl⟩ := mem_keys_stdRegisterMap member
    rw [BitVec.toNat_setWidth_of_le (by decide)]
    exact desc.number.isLt
  have narrow' : ∀ key ∈ keys (getNodeRegisterByType types nodeType).entries, key.toNat < 2 ^ 8 := by
    intro key member
    have bounds := getNodeRegisterByType_admitted admitted nodeType key member
    omega
  rw [registerMap, UIntMap.find_copyTo (by decide) narrow', UIntMap.find_copyTo (by decide) narrow,
    UIntMap.find_empty, Option.or_none, find_getNodeRegisterByType]

end Find

/-- The sniffer and the nodes find the same register, or both none, where the standard registers have the
numbers below 10. -/
theorem find_register_eq {std : StdRegisters} {last : ℕ} (tenth : last = 10)
    (numbers : ∀ desc ∈ stdRegister std, desc.number.toNat < last) {types : TypeMap} (loaded : Loaded types)
    (nodeType : BitVec 16) (reg : Byte) :
    findRegister std last types nodeType reg = (registerMap std types nodeType).find reg := by
  have wide : (reg.setWidth 16).toNat = reg.toNat := BitVec.toNat_setWidth_of_le (by decide)
  have admitted := loaded.admitted
  rw [find_registerMap admitted, findRegister]
  split
  · next low =>
    have missing : ((types.find nodeType).bind fun desc => desc.registers.find (reg.setWidth 16)) = none := by
      rw [← find_getNodeRegisterByType]
      exact find_of_admitted (getNodeRegisterByType_admitted admitted nodeType) (by omega)
    rw [missing, Option.none_or]
  · next high =>
    have missing : (stdRegisterMap std).find (reg.setWidth 16) = none := by
      cases found : (stdRegisterMap std).find (reg.setWidth 16) with
      | none => rfl
      | some desc =>
        obtain ⟨desc', listed, same⟩ := mem_keys_stdRegisterMap (UIntMap.mem_of_find _ _ found)
        have below := numbers desc' listed
        rw [same, BitVec.toNat_setWidth_of_le (by decide)] at wide
        omega
    rw [missing, Option.or_none]

/-- A type with the register 10, and one of the standard registers. -/
theorem find_register_eq_example :
    let std : StdRegisters := ⟨0, 1, 2, 3, 4, 5, 6, 7, 8, 9⟩
    let file : List NodeTypeSection :=
      [⟨5, some "Antenna switch", "", [⟨10, some "Selected antenna", some "uint", 8, true, true, [], ""⟩]⟩]
    ∃ types, Loaded types ∧ (reload (some file) : Outcome DevNodeException TypeMap) = .value types ∧
      findRegister std 10 types 5 10 = (registerMap std types 5).find 10 ∧
      findRegister std 10 types 5 9 = (registerMap std types 5).find 9 := by
  intro std file
  obtain ⟨types, read⟩ : ∃ types, (reload (some file) : Outcome DevNodeException TypeMap) = .value types := ⟨_, rfl⟩
  have loaded : Loaded types := .reload .start read
  refine ⟨types, loaded, read, ?_, ?_⟩
  · exact find_register_eq rfl (by decide) loaded 5 10
  · exact find_register_eq rfl (by decide) loaded 5 9

section Types

/-- The table without the maps' keys of 16 bits. -/
def registersOf (registers : RegisterMap 16) : Byte → Option RegisterDesc := fun reg => registers.find (reg.setWidth 16)

def typesOf (types : TypeMap) : Types := fun type =>
  (types.find type).map fun desc => ⟨desc.name, desc.description, registersOf desc.registers⟩

variable {ε : Type}

theorem loadRegister_registersOf (registers : RegisterMap 16) (s : RegisterSection) :
    registersOf <$> (loadRegister registers s : Outcome ε _) = NodeDescLoader.loadRegister (registersOf registers) s := by
  rw [loadRegister, NodeDescLoader.loadRegister]
  split
  · rfl
  · next taken =>
    have key : (BitVec.ofNat 8 s.title).setWidth 16 = BitVec.ofNat 16 s.title := by
      rw [← BitVec.toNat_inj, BitVec.toNat_setWidth, BitVec.toNat_ofNat, BitVec.toNat_ofNat]
      omega
    cases s.name with
    | none => rfl
    | some name =>
      cases s.type with
      | none => rfl
      | some type =>
        apply congrArg Outcome.value
        funext reg
        have same : reg.setWidth 16 = BitVec.ofNat 16 s.title ↔ reg = BitVec.ofNat 8 s.title := by
          rw [← key, ← BitVec.toNat_inj, ← BitVec.toNat_inj, BitVec.toNat_setWidth_of_le (by decide),
            BitVec.toNat_setWidth_of_le (by decide)]
        rw [registersOf, UIntMap.find_modify, Function.update_apply, if_congr same rfl rfl, registersOf, key]
        cases registers.find (BitVec.ofNat 16 s.title) <;> rfl

theorem loadType_typesOf (types : TypeMap) (s : NodeTypeSection) :
    typesOf <$> (loadType types s : Outcome ε _) = NodeDescLoader.loadType (typesOf types) s := by
  rw [loadType, NodeDescLoader.loadType]
  cases s.name with
  | none => rfl
  | some name =>
    have start : registersOf ((types.find s.title).getD freshType).registers =
        ((typesOf types s.title).getD NodeDesc.empty).registers := by
      rw [typesOf]
      cases types.find s.title <;> rfl
    dsimp only
    rw [← start, ← Outcome.map_foldlM loadRegister_registersOf, map_bind, bind_map_left]
    apply bind_congr
    intro registers
    apply congrArg Outcome.value
    funext type
    rw [typesOf, UIntMap.find_assign, Function.update_apply]
    split
    · rfl
    · rfl

/-- The loader of the nodes' descriptions is this one without the keys of 16 bits. -/
theorem loadFile_typesOf (types : TypeMap) (file : Option (List NodeTypeSection)) :
    typesOf <$> (loadFile types file : Outcome ε _) = NodeDescLoader.loadFile (typesOf types) file := by
  cases file with
  | none => rfl
  | some sections => exact Outcome.map_foldlM loadType_typesOf sections types

theorem find_eq_lookup (descs : List RegisterDesc) (reg : Byte) :
    descs.find? (·.number = reg) =
      (descs.map fun desc => (desc.number.setWidth 16, desc)).lookup (reg.setWidth 16) := by
  induction descs with
  | nil => rfl
  | cons desc descs ih =>
    have same : reg.setWidth 16 = desc.number.setWidth 16 ↔ reg = desc.number := by
      rw [← BitVec.toNat_inj, ← BitVec.toNat_inj, BitVec.toNat_setWidth_of_le (by decide),
        BitVec.toNat_setWidth_of_le (by decide)]
    rw [List.find?_cons, ih, List.map_cons, List.lookup_cons]
    by_cases here : reg = desc.number
    · simp [here]
    · rw [beq_false_of_ne (mt same.mp here)]
      simp [Ne.symm here]

/-- A node that is described has the registers that the sniffer finds. -/
theorem registerMap_loadDescription {std : StdRegisters} {types : TypeMap} (loaded : Loaded types) (n : Node) :
    (n.loadDescription std (typesOf types)).registerMap = (registerMap std types n.nodeType).find := by
  have described : (n.loadDescription std (typesOf types)).registerMap = fun reg =>
      (NodeDescLoader.getNodeRegisterByType (typesOf types) n.nodeType reg).or
        ((stdRegister std).find? (·.number = reg)) := by
    rw [Node.loadDescription]
    split <;> rfl
  have byType (reg : Byte) : NodeDescLoader.getNodeRegisterByType (typesOf types) n.nodeType reg =
      (types.find n.nodeType).bind fun desc => desc.registers.find (reg.setWidth 16) := by
    rw [NodeDescLoader.getNodeRegisterByType, typesOf]
    cases types.find n.nodeType <;> rfl
  rw [described]
  funext reg
  rw [find_registerMap loaded.admitted, byType, find_eq_lookup, stdRegisterMap, UIntMap.find_ofList]

end Types

end RegisterLookups

end H9d
