import H9d.Model.CliCache
import H9d.Model.CliLexer

/-! # Commands of the command line

The grammar of the command line with its actions. The parser reads a name and looks it up at once, before it
sees what follows, and the number it gets goes on through the actions into the request. A request is sent
when the whole line was accepted.
-/

namespace H9d

open Cxx CliLexer

namespace CliParser

/-- Why the parser does not come to the end of a line. -/
inductive Stop
  | syntaxError
  /-- the scanner has no further token -/
  | lexer (e : Ending)
  /-- an `int` overflows, or is divided by zero -/
  | undefinedArithmetic
  deriving DecidableEq, Repr

/-- There is no token where one is needed. -/
def stopAt : Ending → Stop
  | .eof => .syntaxError
  | e => .lexer e

section NumExp

inductive Operator
  | plus
  | minus
  | star
  | slash
  deriving DecidableEq, Repr

def Operator.precedence : Operator → ℕ
  | plus | minus => 1
  | star | slash => 2

def operator? : Token → Option Operator
  | .literal .plus => some .plus
  | .literal .minus => some .minus
  | .literal .star => some .star
  | .literal .slash => some .slash
  | _ => none

def checked (i : ℤ) : Except Stop ℤ := if -2 ^ 31 ≤ i ∧ i < 2 ^ 31 then .ok i else .error .undefinedArithmetic

def Operator.apply : Operator → ℤ → ℤ → Except Stop ℤ
  | plus, l, r => checked (l + r)
  | minus, l, r => checked (l - r)
  | star, l, r => checked (l * r)
  | slash, l, r => if r = 0 then .error .undefinedArithmetic else checked (l.tdiv r)

/-- What waits on the parser's stack for an operand. -/
inductive Pending
  | paren
  | negation
  | operation (op : Operator) (left : ℤ)

/-- Reduces as long as the rule on top binds as the next operator does, or tighter. The rule of the unary minus
has the precedence of the binary one. -/
def reduce (precedence : ℕ) : List Pending → ℤ → Except Stop (List Pending × ℤ)
  | .negation :: pending, v =>
    if precedence ≤ 1 then do reduce precedence pending (← checked (-v)) else .ok (.negation :: pending, v)
  | .operation op left :: pending, v =>
    if precedence ≤ op.precedence then do reduce precedence pending (← op.apply left v)
    else .ok (.operation op left :: pending, v)
  | pending, v => .ok (pending, v)

variable (ending : Ending)

/-- `num_exp`, with the operand read last. The first token that does not belong to it is left. -/
def numExp : List Token → List Pending → Option ℤ → Except Stop (ℤ × List Token)
  | [], _, none => .error (stopAt ending)
  | [], pending, some v => do
    match ← reduce 0 pending v with
    | ([], v) => .ok (v, [])
    | _ => .error (stopAt ending)
  | .number n :: rest, pending, none => numExp rest pending (some n.toInt)
  | .literal .lparen :: rest, pending, none => numExp rest (.paren :: pending) none
  | .literal .minus :: rest, pending, none => numExp rest (.negation :: pending) none
  | _ :: _, _, none => .error .syntaxError
  | t :: rest, pending, some v =>
    match operator? t with
    | some op => do
      let (pending, v) ← reduce op.precedence pending v
      numExp rest (.operation op v :: pending) none
    | none => do
      match ← reduce 0 pending v with
      | ([], v) => .ok (v, t :: rest)
      | (_ :: pending, v) => if t = .literal .rparen then numExp rest pending (some v) else .error .syntaxError

end NumExp

def strExp? : Token → Option String
  | .string val | .quotedString val => some (.ofList val)
  | _ => none

inductive Value
  | number (n : ℤ)
  | text (s : String)
  deriving DecidableEq, Repr

/-- A request, with those of the parameters that it has. -/
structure Request where
  method : String
  nodeId : Option ℤ := none
  reg : Option ℤ := none
  bitNum : Option ℤ := none
  value : Option Value := none
  devName : Option String := none
  devMethod : Option String := none
  deriving DecidableEq, Repr

inductive Event
  | error (what : String)
  | sent (req : Request)
  | printed (n : ℤ)
  deriving DecidableEq, Repr

/-- A name that is looked up: the name of a node, of a register of a node, or of a bit of a register. -/
inductive Query
  | node (name : String)
  | register (nodeId : ℤ) (name : String)
  | bit (nodeId reg : ℤ) (name : String)
  deriving DecidableEq

/-- A name that was looked up, and the cache before it. -/
structure Lookup where
  before : CliCache
  query : Query

structure State where
  cache : CliCache
  events : List Event
  /-- history -/
  lookups : List Lookup

namespace State

def start (cache : CliCache) : State := ⟨cache, [], []⟩

def lookedUp (s : State) (query : Query) (cache : CliCache) (events : List Event) : State :=
  { cache, events := s.events ++ events, lookups := s.lookups ++ [⟨s.cache, query⟩] }

section Lookups

variable (d : CliCache.Daemon) (s : State)

def getNodeIdByName (name : String) : State × ℤ :=
  let (cache, id) := s.cache.getNodeIdByName d name
  let asked := if (s.cache.nodeNameToId name).isNone then [Event.sent { method := "get_nodes_list" }] else []
  let failed := if (cache.nodeNameToId name).isNone then [Event.error s!"Unknow node: '{name}'."] else []
  (s.lookedUp (.node name) cache (asked ++ failed), id.toNat)

/-- The request for registers that a call of the cache makes. -/
def asked (call : CliCache.Call) : List Event :=
  match call.refreshes? s.cache with
  | some nodeId => [.sent { method := "get_registers_list", nodeId := some nodeId.toNat }]
  | none => []

/-- The number of the node is made a `std::uint16_t`. -/
def getRegisterNumberByName (nodeId : ℤ) (regName : String) : State × ℤ :=
  let id := BitVec.ofInt 16 nodeId
  let (cache, number) := s.cache.getRegisterNumberByName d id regName
  let failed :=
    if (cache.registerNumber? id regName).isNone then
      [Event.error (if (cache.nodeRegistriesNameToNumber id).isNone then s!"Node {id.toNat} not exist."
        else s!"Unknow register: '{regName}' in node: {id.toNat}.")]
    else []
  (s.lookedUp (.register nodeId regName) cache (s.asked (.getRegisterNumberByName id regName) ++ failed),
    number.toNat)

/-- The numbers of the node and of the register are made a `std::uint16_t` and a `std::uint8_t`. -/
def getBitNumberByName (nodeId reg : ℤ) (bitName : String) : State × ℤ :=
  let id := BitVec.ofInt 16 nodeId
  let number := BitVec.ofInt 8 reg
  let (cache, bitNum) := s.cache.getBitNumberByName d id number bitName
  let failed :=
    if (cache.bitNumber? id number bitName).isNone then
      [Event.error (if (cache.nodeRegistriesBitsNameToNumber id).isNone then s!"Node {id.toNat} not exist."
        else if (cache.nodeRegistriesBitsNameToNumber.entry Map.empty id number).isNone then
          s!"Unknow register: {number.toNat} in node: {id.toNat}."
        else s!"Unknow bit: '{bitName}' in reg: {number.toNat} node: {id.toNat}.")]
    else []
  (s.lookedUp (.bit nodeId reg bitName) cache (s.asked (.getBitNumberByName id number bitName) ++ failed),
    bitNum.toNat)

end Lookups

end State

/-- What is called after the line was accepted. -/
inductive Command
  | nop
  | print (n : ℤ)
  | clearCache
  | jsonrpc (req : Request)
  deriving DecidableEq

section Commands

variable (d : CliCache.Daemon) (ending : Ending)

/-- A command is followed by the end of the line. -/
def finish (command : Command) : List Token → Except Stop Command
  | _ :: _ => .error .syntaxError
  | [] =>
    match ending with
    | .eof => .ok command
    | e => .error (.lexer e)

/-- `setbit`, `clearbit` and `togglebit` with the bit. -/
def bitCommand (method : String) (nodeId reg : ℤ) (tokens : List Token) (s : State) :
    State × Except Stop Command :=
  match tokens.head?.bind strExp? with
  | some name =>
    let (s, bitNum) := s.getBitNumberByName d nodeId reg name
    (s, finish ending (.jsonrpc { method, nodeId := some nodeId, reg := some reg, bitNum := some bitNum }) tokens.tail)
  | none =>
    (s, do
      let (bitNum, rest) ← numExp ending tokens [] none
      finish ending (.jsonrpc { method, nodeId := some nodeId, reg := some reg, bitNum := some bitNum }) rest)

def setValue (nodeId reg : ℤ) (value : Value) : Request :=
  { method := "set_register_value", nodeId := some nodeId, reg := some reg, value := some value }

/-- `node_reg_command`, behind its `node_reg_exp`. -/
def nodeRegCommand (nodeId reg : ℤ) (tokens : List Token) (s : State) : State × Except Stop Command :=
  match tokens with
  | .literal .get :: rest =>
    (s, finish ending (.jsonrpc { method := "get_register_value", nodeId := some nodeId, reg := some reg }) rest)
  | .literal .setbit :: rest => bitCommand d ending "set_register_bit" nodeId reg rest s
  | .literal .clearbit :: rest => bitCommand d ending "clear_register_bit" nodeId reg rest s
  | .literal .togglebit :: rest => bitCommand d ending "toggle_register_bit" nodeId reg rest s
  | .literal .set :: .quotedString val :: rest =>
    (s, finish ending (.jsonrpc (setValue nodeId reg (.text (.ofList val)))) rest)
  | .literal .set :: rest =>
    (s, do
      let (value, rest) ← numExp ending rest [] none
      finish ending (.jsonrpc (setValue nodeId reg (.number value))) rest)
  | _ :: _ => (s, .error .syntaxError)
  | [] => (s, .error (stopAt ending))

/-- `node_reg_exp`, behind `reg`. -/
def nodeRegExp (nodeId : ℤ) (tokens : List Token) (s : State) : State × Except Stop Command :=
  match tokens.head?.bind strExp? with
  | some name =>
    let (s, reg) := s.getRegisterNumberByName d nodeId name
    nodeRegCommand d ending nodeId reg tokens.tail s
  | none =>
    match numExp ending tokens [] none with
    | .ok (reg, rest) => nodeRegCommand d ending nodeId reg rest s
    | .error e => (s, .error e)

/-- `node_command` and `node_reg_command`, behind their `node_exp`. -/
def nodeCommand (nodeId : ℤ) (tokens : List Token) (s : State) : State × Except Stop Command :=
  match tokens with
  | .literal .reset :: rest => (s, finish ending (.jsonrpc { method := "node_reset", nodeId := some nodeId }) rest)
  | .literal .info :: rest =>
    (s, finish ending (.jsonrpc { method := "get_node_info", nodeId := some nodeId }) rest)
  | .literal .reg :: rest => nodeRegExp d ending nodeId rest s
  | _ :: _ => (s, .error .syntaxError)
  | [] => (s, .error (stopAt ending))

/-- `node_exp`, behind `node`. -/
def nodeExp (tokens : List Token) (s : State) : State × Except Stop Command :=
  match tokens.head?.bind strExp? with
  | some name =>
    let (s, nodeId) := s.getNodeIdByName d name
    nodeCommand d ending nodeId tokens.tail s
  | none =>
    match numExp ending tokens [] none with
    | .ok (nodeId, rest) => nodeCommand d ending nodeId rest s
    | .error e => (s, .error e)

def methodCall (devName devMethod : String) : Request :=
  { method := "dev_method_call", devName := some devName, devMethod := some devMethod }

/-- `dev_command`, behind `dev`. -/
def devCommand (tokens : List Token) : Except Stop Command :=
  match tokens with
  | [] => .error (stopAt ending)
  | t :: rest =>
    match strExp? t, rest with
    | some devName, .literal .info :: rest =>
      finish ending (.jsonrpc { method := "get_dev_description", devName := some devName }) rest
    | some devName, .literal .status :: rest =>
      finish ending (.jsonrpc { method := "get_dev_status", devName := some devName }) rest
    | some devName, .literal .method :: .string val :: rest =>
      finish ending (.jsonrpc (methodCall devName (.ofList val))) rest
    | some _, [] | some _, [.literal .method] => .error (stopAt ending)
    | _, _ => .error .syntaxError

/-- `h9d_command`, behind `h9d`. -/
def h9dCommand (tokens : List Token) : Except Stop Command :=
  match tokens with
  | .literal .tcpclient :: .literal .list :: rest => finish ending (.jsonrpc { method := "get_tcp_clients" }) rest
  | .literal .nodes :: .literal .discover :: rest => finish ending (.jsonrpc { method := "discover_nodes" }) rest
  | .literal .nodes :: .literal .reloadDescription :: rest =>
    finish ending (.jsonrpc { method := "reload_nodes_description" }) rest
  | .literal .nodes :: .literal .list :: rest => finish ending (.jsonrpc { method := "get_nodes_list" }) rest
  | .literal .devs :: .literal .list :: rest => finish ending (.jsonrpc { method := "get_devs_list" }) rest
  | [] | [.literal .tcpclient] | [.literal .nodes] | [.literal .devs] => .error (stopAt ending)
  | _ => .error .syntaxError

/-- `unit`, on the tokens of the whole line. -/
def unit (tokens : List Token) (s : State) : State × Except Stop Command :=
  match tokens with
  | [] => (s, finish ending .nop [])
  | .literal .cli :: .literal .clearCache :: rest => (s, finish ending .clearCache rest)
  | [.literal .cli] => (s, .error (stopAt ending))
  | .literal .cli :: _ => (s, .error .syntaxError)
  | .literal .h9d :: rest => (s, h9dCommand ending rest)
  | .literal .node :: rest => nodeExp d ending rest s
  | .literal .dev :: rest => (s, devCommand ending rest)
  | tokens =>
    (s, do
      let (n, rest) ← numExp ending tokens [] none
      finish ending (.print n) rest)

end Commands

/-- `CLIParsingDriver::parse`, with the daemon that the lookups ask. -/
def parse (d : CliCache.Daemon) (cache : CliCache) (str : CString) : State × Except Stop Command :=
  let (tokens, ending) := scan str
  unit d ending tokens (.start cache)

def State.execute (s : State) : Command → State
  | .nop => s
  | .print n => { s with events := s.events ++ [.printed n] }
  | .clearCache => { s with cache := CliCache.new }
  | .jsonrpc req => { s with events := s.events ++ [.sent req] }

/-- One round of the loop in `main`: a line that the parser accepted is executed. -/
def runLine (d : CliCache.Daemon) (cache : CliCache) (str : CString) : State × Option Stop :=
  match parse d cache str with
  | (s, .ok command) => (s.execute command, none)
  | (s, .error e) => (s, some e)

end CliParser

end H9d
