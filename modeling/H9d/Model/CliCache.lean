import H9d.Core.Json
import H9d.Core.LabeledMachine
import H9d.Core.MapOfMaps
import H9d.Model.H9Frame

/-! # The cache of the command line

The command line asks the daemon for the names of nodes, devices, registers and bits, and keeps them. One
reply about the registers of a node goes into four maps.
-/

namespace H9d

open Machine Cxx

namespace CliCache

/-- What the cache reads of a register in a reply. -/
structure Register where
  name : String
  number : Byte
  bitsNames : List String
  deriving DecidableEq

section Reply

open Nlohmann

variable (cast : FloatCast)

/-- `operator[]`, which enters null for a missing key. -/
def member (j : Json) (key : String) : Json := (j.members.lookup key).getD .null

def getStrings : Json → Except AccessError (List String)
  | .array elems => elems.mapM Json.getString
  | j => .error (j.mustBe "array")

def readRegister (reg : Json) : Except AccessError Register := do
  let name ← (member reg "name").getString
  let number ← (member reg "number").getNumber cast 8
  let bitsNames ← getStrings (member reg "bits_names")
  return { name, number, bitsNames }

/-- The loop over the elements of a reply. -/
def readRegisters (reply : List Json) : Except AccessError (List Register) := reply.mapM (readRegister cast)

end Reply

/-- The registers of a node. The daemon keeps them in a map from their numbers. -/
structure Registers where
  list : List Register
  distinct : (list.map (·.number)).Nodup

/-- What the daemon would reply now; no value is an error. -/
structure Daemon where
  nodes : Option (List (String × BitVec 16))
  devs : Option (List String)
  registers : BitVec 16 → Option Registers
  devMethods : String → Option (List String)

end CliCache

structure CliCache where
  nodeList : List String
  nodeNameToId : Map String (BitVec 16)
  devList : List String
  devMethodList : Map String (List String)
  nodeRegistriesList : Map (BitVec 16) (List String)
  nodeRegistriesNameToNumber : Map (BitVec 16) (Map String (BitVec 16))
  nodeRegistriesBitsList : Map (BitVec 16) (Map Byte (List String))
  nodeRegistriesBitsNameToNumber : Map (BitVec 16) (Map Byte (Map String Byte))
  /-- history: the last reply about each node since the cache was cleared, empty for an error -/
  reported : Map (BitVec 16) (List CliCache.Register)

namespace CliCache

def new : CliCache where
  nodeList := []
  nodeNameToId := Map.empty
  devList := []
  devMethodList := Map.empty
  nodeRegistriesList := Map.empty
  nodeRegistriesNameToNumber := Map.empty
  nodeRegistriesBitsList := Map.empty
  nodeRegistriesBitsNameToNumber := Map.empty
  reported := Map.empty

section Refresh

variable (c : CliCache) (d : Daemon)

def refreshNode : CliCache :=
  let nodes := d.nodes.getD []
  { c with
    nodeList := nodes.map Prod.fst
    nodeNameToId := nodes.foldl (fun ids node => ids.assign node.1 node.2) Map.empty }

def refreshDev : CliCache := { c with devList := d.devs.getD [] }

def refreshDevMethod (devName : String) : CliCache :=
  { c with devMethodList := c.devMethodList.assign devName ((d.devMethods devName).getD []) }

/-- The index of a bit is a byte. -/
def addBit (nodeId : BitVec 16) (number : Byte)
    (bits : Map (BitVec 16) (Map Byte (Map String Byte)) × Byte) (bit : String) :
    Map (BitVec 16) (Map Byte (Map String Byte)) × Byte :=
  (bits.1.modify Map.empty nodeId fun registers =>
    registers.modify Map.empty number fun names => names.assign bit bits.2, bits.2 + 1)

def addRegister (nodeId : BitVec 16) (c : CliCache) (reg : Register) : CliCache :=
  { c with
    nodeRegistriesList := c.nodeRegistriesList.modify [] nodeId fun names => names ++ [reg.name]
    nodeRegistriesNameToNumber := c.nodeRegistriesNameToNumber.modify Map.empty nodeId fun numbers =>
      numbers.assign reg.name (reg.number.setWidth 16)
    nodeRegistriesBitsList := c.nodeRegistriesBitsList.modify Map.empty nodeId fun lists =>
      lists.assign reg.number reg.bitsNames
    nodeRegistriesBitsNameToNumber :=
      (reg.bitsNames.foldl (addBit nodeId reg.number) (c.nodeRegistriesBitsNameToNumber, 0)).1 }

/-- Three of the four maps are cleared. -/
def refreshRegister (nodeId : BitVec 16) : CliCache :=
  let reply := ((d.registers nodeId).map (·.list)).getD []
  reply.foldl (addRegister nodeId)
    { c with
      nodeRegistriesList := c.nodeRegistriesList.assign nodeId []
      nodeRegistriesNameToNumber := c.nodeRegistriesNameToNumber.assign nodeId Map.empty
      nodeRegistriesBitsList := c.nodeRegistriesBitsList.assign nodeId Map.empty
      reported := c.reported.assign nodeId reply }

end Refresh

section Lookups

variable (c : CliCache) (nodeId : BitVec 16) (number : Byte) (name : String)

def registerNumber? : Option (BitVec 16) := c.nodeRegistriesNameToNumber.entry Map.empty nodeId name

/-- The list that `get_bits_list` returns. -/
def bits : List String := (c.nodeRegistriesBitsList.entry Map.empty nodeId).entry [] number

def bitNumber? : Option Byte :=
  (c.nodeRegistriesBitsNameToNumber.entry Map.empty nodeId).entry Map.empty number name

end Lookups

/-- The calls of the command line. -/
inductive Call
  | getNodesList
  | getRegistersList (nodeId : BitVec 16)
  | getBitsList (nodeId : BitVec 16) (regNumber : Byte)
  | getDevList
  | getDevMethodList (devName : String)
  | getNodeIdByName (name : String)
  | getRegisterNumberByName (nodeId : BitVec 16) (regName : String)
  | getBitNumberByName (nodeId : BitVec 16) (regNumber : Byte) (bitName : String)
  | clear

/-- The node whose registers a call asks the daemon for. -/
def Call.refreshes? (c : CliCache) : Call → Option (BitVec 16)
  | getRegistersList nodeId => if (c.nodeRegistriesList nodeId).isNone then some nodeId else none
  | getBitsList nodeId _ => if (c.nodeRegistriesBitsList nodeId).isNone then some nodeId else none
  | getRegisterNumberByName nodeId regName =>
      if (c.nodeRegistriesNameToNumber nodeId).isNone ∨ (c.registerNumber? nodeId regName).isNone then some nodeId
      else none
  | getBitNumberByName nodeId regNumber _ =>
      if (c.nodeRegistriesBitsNameToNumber nodeId).isNone ∨
          (c.nodeRegistriesBitsNameToNumber.entry Map.empty nodeId regNumber).isNone then
        some nodeId
      else none
  | getNodesList | getDevList | getDevMethodList _ | getNodeIdByName _ | clear => none

section Calls

variable (c : CliCache) (d : Daemon)

/-- The cache after the request for registers that a call makes, if it makes one. -/
def asked (call : Call) : CliCache :=
  match call.refreshes? c with
  | some nodeId => c.refreshRegister d nodeId
  | none => c

def getNodesList : CliCache × List String :=
  let c := if c.nodeList.isEmpty then c.refreshNode d else c
  (c, c.nodeList)

def getRegistersList (nodeId : BitVec 16) : CliCache × List String :=
  let c := c.asked d (.getRegistersList nodeId)
  ({ c with nodeRegistriesList := c.nodeRegistriesList.modify [] nodeId id }, c.nodeRegistriesList.entry [] nodeId)

def getBitsList (nodeId : BitVec 16) (regNumber : Byte) : CliCache × List String :=
  let c := c.asked d (.getBitsList nodeId regNumber)
  ({ c with
      nodeRegistriesBitsList := c.nodeRegistriesBitsList.modify Map.empty nodeId fun lists =>
        lists.modify [] regNumber id },
    c.bits nodeId regNumber)

def getDevList : CliCache × List String :=
  let c := if c.devList.isEmpty then c.refreshDev d else c
  (c, c.devList)

def getDevMethodList (devName : String) : CliCache × List String :=
  let c := if (c.devMethodList devName).isNone then c.refreshDevMethod d devName else c
  (c, c.devMethodList.entry [] devName)

def getNodeIdByName (name : String) : CliCache × BitVec 16 :=
  let c := if (c.nodeNameToId name).isNone then c.refreshNode d else c
  (c, c.nodeNameToId.entry 0xffff name)

def getRegisterNumberByName (nodeId : BitVec 16) (regName : String) : CliCache × Byte :=
  let c := c.asked d (.getRegisterNumberByName nodeId regName)
  (c, ((c.registerNumber? nodeId regName).getD 0).setWidth 8)

def getBitNumberByName (nodeId : BitVec 16) (regNumber : Byte) (bitName : String) : CliCache × Byte :=
  let c := c.asked d (.getBitNumberByName nodeId regNumber bitName)
  (c, (c.bitNumber? nodeId regNumber bitName).getD 0xff)

/-- The cache after a call. -/
def call : Call → CliCache
  | .getNodesList => (c.getNodesList d).1
  | .getRegistersList nodeId => (c.getRegistersList d nodeId).1
  | .getBitsList nodeId regNumber => (c.getBitsList d nodeId regNumber).1
  | .getDevList => (c.getDevList d).1
  | .getDevMethodList devName => (c.getDevMethodList d devName).1
  | .getNodeIdByName name => (c.getNodeIdByName d name).1
  | .getRegisterNumberByName nodeId regName => (c.getRegisterNumberByName d nodeId regName).1
  | .getBitNumberByName nodeId regNumber bitName => (c.getBitNumberByName d nodeId regNumber bitName).1
  | .clear => new

end Calls

/-- A call, and what the daemon would reply to it. -/
def machine : LabeledMachine CliCache (Call × Daemon) where
  Initial c := c = new
  step? c event := some (c.call event.2 event.1)

end CliCache

end H9d
