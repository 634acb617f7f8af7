import H9d.Model.DevRegistry

/-! # The configuration of the devices

The library reads the file and gives its sections in their order, after a function of the daemon has looked at
the node ids. Each section becomes a device of its type, which the manager is given.
-/

namespace H9d

open H9Frame Machine

/-- A section `dev`; a file need not say the type. -/
structure DevSection where
  title : String
  type : Option String
  nodeIds : List ℤ

/-- What `cfg_parse` makes of a file. -/
inductive DevFile
  | fileError
  | parseError
  | parsed (devs : List DevSection)

/-- `confuse_helpers::validate_node_id`. -/
def ConfuseHelpers.validateNodeId (ids : List ℤ) : Bool := ids.all fun id => 0 ≤ id ∧ id ≤ ID_MAX_VALUE

namespace DevLoader

variable {Device : Type} [DecidableEq Device]

/-- Each type of devices enters itself with its constructor, which knows of no node yet. -/
def devsCreateFun : List (String × Dev.Kind) :=
  [("ATU", .atu 0xffff), ("AntennaSwitch", .antennaSwitch 0xffff 0xffff 0), ("PowerSwitch", .powerSwitch 0xffff),
    ("ThunderSwitch", .thunderSwitch 0xffff)]

def createDev (type name : String) (nodes : List (BitVec 16)) : Option Dev :=
  (devsCreateFun.lookup type).map fun kind => ⟨name, nodes, kind⟩

/-- One round of the loop; `address` is what `new` gives. A null pointer is no type to make a `std::string` of. -/
def loadSection (s : DevRegistry Device) (address : Device) (dev : DevSection) : Option (DevRegistry Device) := do
  let type ← dev.type
  match createDev type dev.title (dev.nodeIds.map (BitVec.ofInt 16)) with
  | some tmp => DevRegistry.step? s (.addDev address tmp)
  | none => return s

def loadSections (addresses : ℕ → Device) : ℕ → DevRegistry Device → List DevSection → Option (DevRegistry Device)
  | _, s, [] => some s
  | i, s, dev :: later => do loadSections addresses (i + 1) (← loadSection s (addresses i) dev) later

def loadFile (addresses : ℕ → Device) (s : DevRegistry Device) : DevFile → Option (DevRegistry Device)
  | .fileError | .parseError => some s
  | .parsed devs => loadSections addresses 0 s devs

end DevLoader

end H9d
