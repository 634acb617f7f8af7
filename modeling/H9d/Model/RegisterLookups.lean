import H9d.Core.UIntMap
import H9d.Model.Node

/-! # The two lookups of registers

The loader keeps registers in maps with keys of 16 bits. The sniffer looks a register up there, by the range of
its number; a node copies the standard registers and then those of its type into a map with keys of 8 bits.
-/

namespace H9d

open Cxx NodeDescLoader

namespace RegisterLookups

abbrev RegisterMap (w : ℕ) := UIntMap w RegisterDesc

/-- `NodeDescLoader::NodeDesc`. -/
structure TypeDesc where
  name : String
  description : String
  registers : RegisterMap 16

/-- The member `types`. -/
abbrev TypeMap := UIntMap 16 TypeDesc

/-- The values that `operator[]` enters. -/
def freshRegister : RegisterDesc := ⟨0, "", "", 0, false, false, [], ""⟩

def freshType : TypeDesc := ⟨"", "", .empty⟩

def stdRegisterMap (std : StdRegisters) : RegisterMap 16 :=
  .ofList ((stdRegister std).map fun desc => (desc.number.setWidth 16, desc))

section Load

variable {ε : Type}

/-- One round of the loop over the registers. -/
def loadRegister (registers : RegisterMap 16) (s : RegisterSection) : Outcome ε (RegisterMap 16) :=
  if s.title < 10 ∨ 0xff < s.title then .value registers
  else
    match s.name, s.type with
    | some name, some type =>
        .value (registers.modify (BitVec.ofNat 16 s.title) freshRegister fun reg =>
          { s with number := BitVec.ofNat 8 s.title, name, type, bitsNames := reg.bitsNames ++ s.bitsNames.reverse })
    | _, _ => .undefined

/-- One round of the loop over the node types. -/
def loadType (types : TypeMap) (s : NodeTypeSection) : Outcome ε TypeMap :=
  match s.name with
  | some name => do
      let desc := (types.find s.title).getD freshType
      let registers ← s.registers.foldlM loadRegister desc.registers
      return types.assign s.title ⟨name, s.description, registers⟩
  | none => .undefined

def loadFile (types : TypeMap) (file : Option (List NodeTypeSection)) : Outcome ε TypeMap :=
  match file with
  | none => .value types
  | some sections => sections.foldlM loadType types

def reload (file : Option (List NodeTypeSection)) : Outcome ε TypeMap := loadFile .empty file

end Load

/-- What the loader holds after some files. -/
inductive Loaded : TypeMap → Prop
  | start : Loaded .empty
  | loadFile {types types' : TypeMap} {file : Option (List NodeTypeSection)} (loaded : Loaded types)
      (read : (loadFile types file : Outcome DevNodeException TypeMap) = .value types') : Loaded types'
  | reload {types types' : TypeMap} {file : Option (List NodeTypeSection)} (loaded : Loaded types)
      (read : (reload file : Outcome DevNodeException TypeMap) = .value types') : Loaded types'

/-- `last` is `NODE_STD_REGISTER_LAST`. -/
def findRegister (std : StdRegisters) (last : ℕ) (types : TypeMap) (nodeType : BitVec 16) (regNum : Byte) :
    Option RegisterDesc :=
  if regNum.toNat < last then (stdRegisterMap std).find (regNum.setWidth 16)
  else (types.find nodeType).bind fun desc => desc.registers.find (regNum.setWidth 16)

def getNodeRegisterByType (types : TypeMap) (type : BitVec 16) : RegisterMap 16 :=
  ((types.find type).map (·.registers)).getD .empty

/-- The register map after `Node::load_description`. -/
def registerMap (std : StdRegisters) (types : TypeMap) (nodeType : BitVec 16) : RegisterMap 8 :=
  (getNodeRegisterByType types nodeType).copyTo ((stdRegisterMap std).copyTo .empty)

end RegisterLookups

end H9d
