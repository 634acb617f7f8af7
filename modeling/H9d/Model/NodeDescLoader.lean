import H9d.Core.Outcome
import H9d.Model.H9Frame

/-! # Descriptions of nodes

The descriptions that the loader takes from a file, and the registers that every node has. The file
is given as the configuration library returns it after its validators accepted it.
-/

namespace H9d

structure RegisterDesc where
  number : Byte
  name : String
  type : String
  size : ℕ
  readable : Bool
  writable : Bool
  bitsNames : List String
  description : String
  deriving DecidableEq, Repr

structure NodeDesc where
  name : String
  description : String
  registers : Byte → Option RegisterDesc

def NodeDesc.empty : NodeDesc := ⟨"", "", fun _ => none⟩

namespace NodeDescLoader

/-- The section `register` of a file; options without a default may be absent. -/
structure RegisterSection where
  title : ℕ
  name : Option String
  type : Option String
  size : ℕ
  readable : Bool
  writable : Bool
  bitsNames : List String
  description : String
  deriving DecidableEq, Repr

/-- The section `node_type` of a file. -/
structure NodeTypeSection where
  title : BitVec 16
  name : Option String
  description : String
  registers : List RegisterSection
  deriving DecidableEq, Repr

/-- The numbers of the standard registers, which a header of the bus protocol defines. -/
structure StdRegisters where
  nodeType : Byte
  hardwareRevision : Byte
  version : Byte
  buildInfo : Byte
  mcuType : Byte
  sn : Byte
  resetReason : Byte
  powerSupply : Byte
  mcuTemp : Byte
  id : Byte
  deriving Inhabited

def stdRegister (std : StdRegisters) : List RegisterDesc :=
  [⟨std.nodeType, "Node type", "uint", 16, true, false, [], ""⟩,
    ⟨std.hardwareRevision, "Node hardware revision", "char", 8, true, false, [], ""⟩,
    ⟨std.version, "Node version", "uint", 48, true, false, [], ""⟩,
    ⟨std.buildInfo, "Build metadata", "str", 48, true, false, [], ""⟩,
    ⟨std.mcuType, "MCU type", "uint", 8, true, false, [], ""⟩,
    ⟨std.sn, "MCU SN", "uint", 32, true, false, [], ""⟩,
    ⟨std.resetReason, "Node reset reason", "uint", 8, true, false, [], ""⟩,
    ⟨std.powerSupply, "Power supply", "uint", 32, true, false, [], ""⟩,
    ⟨std.mcuTemp, "MCU temperature", "uint", 32, true, false, [], ""⟩,
    ⟨std.id, "Node id", "uint", 8, true, true, [], ""⟩]

/-- The member `types`. -/
abbrev Types := BitVec 16 → Option NodeDesc

def getNodeNameByType (types : Types) (type : BitVec 16) : String := ((types type).map (·.name)).getD ""

def getNodeDescriptionByType (types : Types) (type : BitVec 16) : String :=
  ((types type).map (·.description)).getD ""

def getNodeRegisterByType (types : Types) (type : BitVec 16) : Byte → Option RegisterDesc :=
  fun reg => (types type).bind (·.registers reg)

variable {ε : Type}

/-- One round of the loop over the registers. A `std::string` is never made from a null pointer. -/
def loadRegister (registers : Byte → Option RegisterDesc) (s : RegisterSection) :
    Cxx.Outcome ε (Byte → Option RegisterDesc) :=
  if s.title < 10 ∨ 0xff < s.title then .value registers
  else
    let number : Byte := BitVec.ofNat 8 s.title
    match s.name, s.type with
    | some name, some type =>
        let bitsNames := ((registers number).map (·.bitsNames)).getD [] ++ s.bitsNames.reverse
        .value (Function.update registers number (some { s with number, name, type, bitsNames }))
    | _, _ => .undefined

/-- One round of the loop over the node types. -/
def loadType (types : Types) (s : NodeTypeSection) : Cxx.Outcome ε Types :=
  match s.name with
  | some name => do
      let desc := (types s.title).getD NodeDesc.empty
      let registers ← s.registers.foldlM loadRegister desc.registers
      return Function.update types s.title (some ⟨name, s.description, registers⟩)
  | none => .undefined

/-- `none` is a file that cannot be read or parsed. -/
def loadFile (types : Types) (file : Option (List NodeTypeSection)) : Cxx.Outcome ε Types :=
  match file with
  | none => .value types
  | some sections => sections.foldlM loadType types

def reload (file : Option (List NodeTypeSection)) : Cxx.Outcome ε Types :=
  loadFile (fun _ => none) file

/-- The file gives every option that a string is made from. -/
def Complete (file : Option (List NodeTypeSection)) : Prop :=
  ∀ s ∈ file.getD [], s.name.isSome ∧
    ∀ r ∈ s.registers, 10 ≤ r.title → r.title ≤ 0xff → r.name.isSome ∧ r.type.isSome

end NodeDescLoader

end H9d
