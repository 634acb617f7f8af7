import H9d.Model.H9Frame
import H9d.Model.MetricsCollector

/-! # The counters of the bus

The names under which the bus and its endpoints enter their counters: three of the bus itself, two for
each type of frame, and two for each endpoint, with the endpoint's name from the configuration file.
-/

namespace H9d

namespace H9Frame

open FrameType

/-- The null pointer is nothing. -/
def typeToString (type : FrameType) : Option String :=
  [(RES1, "RES1"), (PAGE_START, "PAGE_START"), (QUIT_BOOTLOADER, "QUIT_BOOTLOADER"), (PAGE_FILL, "PAGE_FILL"),
    (BOOTLOADER_TURNED_ON, "BOOTLOADER_TURNED_ON"), (PAGE_FILL_NEXT, "PAGE_FILL_NEXT"),
    (PAGE_WRITED, "PAGE_WRITED"), (PAGE_FILL_BREAK, "PAGE_FILL_BREAK"), (COMMAND_ERROR, "COMMAND_ERROR"),
    (REG_VALUE, "REG_VALUE"), (SET_REG, "SET_REG"), (GET_REG, "GET_REG"), (SET_BIT, "SET_BIT"),
    (CLEAR_BIT, "CLEAR_BIT"), (NODE_UPGRADE, "NODE_UPGRADE"), (NODE_RESET, "NODE_RESET"),
    (DISCOVER, "DISCOVER"), (GROUP_RESET, "GROUP_RESET"), (NODE_FAULT, "NODE_FAULT"),
    (REG_VALUE_BROADCAST, "REG_VALUE_BROADCAST"), (NODE_HEARTBEAT, "NODE_HEARTBEAT"), (NODE_INFO, "NODE_INFO"),
    (NODE_TURNED_ON, "NODE_TURNED_ON"), (RES2, "RES2"),
    (NODE_SPECIFIC_BROADCAST0, "NODE_SPECIFIC_BROADCAST0"),
    (NODE_SPECIFIC_BROADCAST1, "NODE_SPECIFIC_BROADCAST1"),
    (NODE_SPECIFIC_BROADCAST2, "NODE_SPECIFIC_BROADCAST2"),
    (NODE_SPECIFIC_BROADCAST3, "NODE_SPECIFIC_BROADCAST3"),
    (NODE_SPECIFIC_BROADCAST4, "NODE_SPECIFIC_BROADCAST4"),
    (NODE_SPECIFIC_BROADCAST5, "NODE_SPECIFIC_BROADCAST5"),
    (NODE_SPECIFIC_BROADCAST6, "NODE_SPECIFIC_BROADCAST6"),
    (NODE_SPECIFIC_BROADCAST7, "NODE_SPECIFIC_BROADCAST7")].lookup type

end H9Frame

namespace BusCounters

abbrev numberOfFrameTypes : ℕ := 2 ^ H9Frame.TYPE_BIT_LENGTH

/-- The texts of the types of frames, in the order of their numbers. -/
def typeNames : List String :=
  (List.range numberOfFrameTypes).filterMap fun i => H9Frame.typeToString (BitVec.ofNat 8 i)

/-- The counters that `Bus` makes. -/
def busCounters : List String :=
  ["bus.send_frames", "bus.received_frames", "bus.forward_frames"] ++
    typeNames.flatMap fun type =>
      ["bus.frames[type=" ++ type ++ "].send", "bus.frames[type=" ++ type ++ "].received"]

/-- The counters that a `BusEndpoint` makes. -/
def endpointCounters (name : String) : List String :=
  ["bus.endpoints[name=" ++ name ++ "].send_frames", "bus.endpoints[name=" ++ name ++ "].received_frames"]

def counterNames (endpoints : List String) : List String :=
  busCounters ++ endpoints.flatMap endpointCounters

end BusCounters

end H9d
