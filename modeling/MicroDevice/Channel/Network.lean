import MicroDevice.Action
import MicroDevice.Files.Fault
import MicroDevice.Text.Utf8

/-! # Connections to a debug server

Commands and replies are sequences of bytes that end with a terminator. What the server
sends is up to it: it is asked with all commands it received before, it may send any bytes,
and it may end its side of the connection. A client that waits for a reply gets the bytes
up to the next terminator, or all that is left when the server sends no more. A server that
leaves a client waiting has sent its last.
-/

namespace MicroDevice

/-- What a server sends after a command, and whether it sends nothing more after that. -/
structure ServerAnswer where
  bytes : Bytes
  ends : Bool
  deriving DecidableEq, Repr

/-- How a server answers a command, given those it received before. -/
abbrev Server := (earlier : List Bytes) → (command : Bytes) → ServerAnswer

/-- How a server answers commands that come together. Once it has ended it sends nothing. -/
def Server.hear (server : Server) : (earlier commands : List Bytes) → ServerAnswer
  | _, [] => ⟨[], false⟩
  | earlier, command :: later =>
      let answer := server earlier command
      if answer.ends then answer
      else
        let rest := hear server (earlier ++ [command]) later
        ⟨answer.bytes ++ rest.bytes, rest.ends⟩

/-- The network a program sees. -/
structure Network where
  /-- The server that every connection reaches, if there is one. -/
  server : Option Server
  /-- The commands the server received, in order. -/
  received : List Bytes

/-- What comes back over the network for commands. -/
def Network.hear (network : Network) (commands : List Bytes) : ServerAnswer :=
  match network.server with
  | some server => server.hear network.received commands
  | none => ⟨[], true⟩

/-- The client's side of a connection. -/
structure Connection where
  /-- What the server sent and the client has not read. -/
  pending : Bytes
  /-- Whether the server sends nothing more. -/
  ended : Bool
  deriving DecidableEq, Repr

namespace Connection

/-- The byte that ends commands and replies. -/
def terminator : UInt8 := 0x1A

/-- A command or a reply with the terminator that ends it. -/
def framed (bytes : Bytes) : Bytes :=
  bytes ++ [terminator]

/-- The commands that a server finds in what was written: what each terminator ends. -/
def commandsIn (written : Bytes) : List Bytes :=
  (written.splitOn terminator).dropLast

/-- The connection on which nothing has been sent. -/
def fresh : Connection := ⟨[], false⟩

/-- Connect to the server. -/
def connect : Action Network IoFault Connection :=
  fun network =>
    match network.server with
    | some _ => (.ok fresh, network)
    | none => (.error .connectionRefused, network)

/-- Write bytes. The server receives the commands in them and answers. -/
def write (bytes : Bytes) (state : Connection × Network) : Connection × Network :=
  let (connection, network) := state
  let commands := commandsIn bytes
  let answer := network.hear commands
  (⟨connection.pending ++ if connection.ended then [] else answer.bytes,
      connection.ended || answer.ends⟩,
    { network with received := network.received ++ commands })

/-- Wait for the next reply, which comes without its terminator. At the end of what the server
sends, all that is left is taken for a reply. -/
def receive : Action Connection IoFault Bytes :=
  fun connection =>
    let reply := connection.pending.takeWhile (· ≠ terminator)
    match connection.pending.dropWhile (· ≠ terminator) with
    | _ :: rest => (.ok reply, { connection with pending := rest })
    | [] => (if reply = [] then .error .connectionClosed else .ok reply, ⟨[], true⟩)

/-- Send a command and wait for its reply. -/
def command (text : String) : Action (Connection × Network) IoFault String :=
  fun state =>
    let (connection, network) := write (framed (Text.encode text)) state
    let (reply, rest) := receive.run connection
    (reply.map Text.decodeLossy, rest, network)

end Connection

end MicroDevice
