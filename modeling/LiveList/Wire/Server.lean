import LiveList.Config.Basic
import LiveList.Wire.Line
import LiveList.Wire.Message

/-!
A server for clients that speak in lines. Every connection has a session of its own. Lines for a
client wait until they can be written; a client that lets too many of them wait is disconnected.
-/

namespace LiveList

structure Connection where
  session : Nat
  state : LineState
  /-- The lines that have not been written yet. -/
  waiting : List Json := []
  /-- Whether there were too many of them; from then on all are dropped. -/
  overflowed : Bool := false
  /-- The lines that have been written, as far as the client has not taken them. -/
  written : List Json := []
  closed : Bool := false

structure LineServer where
  config : ServerConfig
  service : Service := {}
  connections : List Connection := []

/-- The network of a machine: the addresses at which a server may listen. -/
structure Network where
  hasAddress : String → Bool

def Network.absent : Network := { hasAddress := fun _ => false }

structure BindError where
  address : String
  deriving DecidableEq, Repr

def BindError.message (error : BindError) : String := "failed to bind " ++ error.address

namespace Connection

def enqueue (limit : Nat) (line : Json) (connection : Connection) : Connection :=
  if connection.overflowed then connection
  else if limit ≤ connection.waiting.length then { connection with overflowed := true }
  else { connection with waiting := connection.waiting ++ [line] }

def write (connection : Connection) : Connection :=
  { connection with written := connection.written ++ connection.waiting, waiting := [] }

def respond (line : Json) (connection : Connection) : Connection :=
  { connection with
    written := connection.written ++ connection.waiting ++ [line]
    waiting := [] }

end Connection

namespace LineServer

def bind (network : Network) (config : ServerConfig) : Except BindError LineServer :=
  if network.hasAddress config.address then .ok { config }
  else .error { address := config.address }

def modify (server : LineServer) (index : Nat) (change : Connection → Connection) : LineServer :=
  { server with connections := server.connections.modify index change }

/-- The numbers of connections that were ever opened, and of those that have been closed. -/
def counts (server : LineServer) : Nat × Nat :=
  (server.connections.length, (server.connections.filter (·.closed)).length)

/-- Takes over the service and has the events it sent wait for the clients. One event may always
wait. -/
def takeOver (server : LineServer) (service : Service) : LineServer :=
  let limit := max 1 server.config.maxPendingLines
  let deliver (connections : List Connection) (push : Push) : List Connection :=
    connections.map fun connection =>
      if connection.session = push.session then connection.enqueue limit push.line
      else connection
  { server with
    service := { service with sent := [] }
    connections := service.sent.foldl deliver server.connections }

def connect (server : LineServer) : Nat × LineServer :=
  let (session, service) := server.service.openSession
  let server := server.takeOver service
  let connection : Connection := { session, state := .start server.config.maxLineLength }
  (server.connections.length, { server with connections := server.connections ++ [connection] })

/-- Closes a connection after all lines that wait were written, and ends its session. -/
def close (server : LineServer) (index : Nat) : LineServer :=
  match server.connections[index]? with
  | none => server
  | some connection =>
      if connection.closed then server
      else
        -- What waits is written before the session ends.
        let server := server.modify index fun connection =>
          { connection.write with closed := true, state := .stopped }
        server.takeOver
          ((server.service.dropModules connection.session).disconnect connection.session)

/-- Writes what waits for the clients, and disconnects those that let too much wait. -/
def flush (server : LineServer) : LineServer :=
  (List.range server.connections.length).foldl (fun server index =>
    if (server.connections[index]?).any (·.overflowed) then server.close index
    else server.modify index Connection.write) server

def handleFrame (now index : Nat) (server : LineServer) (frame : Frame) : LineServer :=
  match server.connections[index]? with
  | none => server
  | some connection =>
      if connection.closed then server
      else
        match frame with
        | .broken => server.close index
        | .tooLong => server.modify index (Connection.respond tooLongLine)
        | .line text =>
            let text := Text.trim text.toList
            if text.isEmpty then server
            else
              let (service, line) := server.service.handleLine now connection.session text
              let server := (server.takeOver service).modify index (Connection.respond line)
              if (server.connections[index]?).any (·.overflowed) then server.close index
              else server

def receive (server : LineServer) (now index : Nat) (bytes : List UInt8) : LineServer :=
  match server.connections[index]? with
  | none => server
  | some connection =>
      let (state, frames) := connection.state.feed server.config.maxLineLength bytes
      let server := server.modify index fun connection => { connection with state }
      frames.foldl (handleFrame now index) server

def endInput (server : LineServer) (now index : Nat) : LineServer :=
  match server.connections[index]? with
  | none => server
  | some connection =>
      let server := connection.state.finish.toList.foldl (handleFrame now index) server
      server.close index

def take (server : LineServer) (index : Nat) : List Json × LineServer :=
  (((server.connections[index]?).map (·.written)).getD [],
    server.modify index fun connection => { connection with written := [] })

end LineServer

end LiveList
