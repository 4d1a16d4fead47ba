import LiveList.Wire.Server
import Std.Time.DateTime.Timestamp

/-!
The program: a server for one client, who speaks on standard input and is answered on standard
output. A configuration file can be named as an argument.
-/

namespace LiveList

/-- Seconds since the beginning of 1970. -/
def currentTime : IO Nat := do
  let now ← Std.Time.Timestamp.now
  pure now.toSecondsSinceUnixEpoch.val.toNat

def loadConfig (args : List String) : IO (Except ConfigError ServerConfig) :=
  match args with
  | [] => pure (.ok {})
  | path :: _ => do
      let contents ← try some <$> IO.FS.readFile path catch _ => pure none
      pure (ServerConfig.load contents)

/-- Reads what the client sends, and writes what the server has for it, until the connection is
closed. -/
partial def serveClient (client : Nat) (server : LineServer) : IO Unit := do
  let bytes ← (← IO.getStdin).read 4096
  let now ← currentTime
  let server :=
    if bytes.isEmpty then server.endInput now client
    else server.flush.receive now client bytes.toList
  let (lines, server) := server.flush.take client
  let output ← IO.getStdout
  for line in lines do
    output.putStrLn line.write
  output.flush
  if (server.connections[client]?).all (·.closed) then pure ()
  else serveClient client server

end LiveList

def main (args : List String) : IO UInt32 := do
  match ← LiveList.loadConfig args with
  | .error error =>
      IO.eprintln error.message
      pure 1
  | .ok config =>
      let (client, server) := LiveList.LineServer.connect { config }
      LiveList.serveClient client server
      pure 0
