import Conduit.Channel.Transcript
import Conduit.Program.Run
import Std.Async.DNS
import Std.Async.Select
import Std.Async.TCP
import Std.Async.Timer
set_option autoImplicit false

/-!
The program itself. A run is rehearsed until nothing is missing: first it shows which names it asks for,
then which endpoint it calls, then what it sends, and each time the answer of the network is found out and
put into a transcript. The run over the complete transcript is the one that counts.
-/

namespace Conduit.Main

open Net (Address Host NameFailure Resolver)
open Program (CommandLine Environment Flag Run Surroundings)
open Std.Async (Async Selectable Selector)
open Std.Async.TCP.Socket (Client)

/-- Files tell a system error by its number, and sockets by the number's complement. -/
def systemNumber (code : UInt32) : Nat := if code < 0x80000000 then code.toNat else (0 - code).toNat

def systemNumber? : IO.Error → Option Nat
  | .alreadyExists _ code _ | .interrupted _ code _ | .noFileOrDirectory _ code _
  | .invalidArgument _ code _ | .permissionDenied _ code _ | .resourceExhausted _ code _
  | .inappropriateType _ code _ | .noSuchThing _ code _ => some (systemNumber code)
  | .otherError code _ | .resourceBusy code _ | .resourceVanished code _
  | .unsupportedOperation code _ | .hardwareFault code _ | .unsatisfiedConstraints code _
  | .illegalOperation code _ | .protocolError code _ | .timeExpired code _ =>
      some (systemNumber code)
  | .unexpectedEof | .userError _ => none

def faultOf (error : IO.Error) : Fault :=
  match systemNumber? error with
  | some number => .system number
  | none => .described .other (toString error)

def nameFaultOf (error : IO.Error) : Fault :=
  match systemNumber? error with
  | some 3001 => NameFailure.tryAgain.fault
  | some 3004 => NameFailure.unrecoverable.fault
  | some 3008 => NameFailure.unknownName.fault
  | _ => faultOf error

def attempt {α : Type} (action : IO α) : IO (Except Fault α) := do
  try return .ok (← action)
  catch error => return .error (faultOf error)

def environment : IO Environment := do
  let names :=
    [LogFilter.variableName, Surroundings.workersVariable] ++ Flag.all.map (·.variableName)
  let values ← names.mapM fun name => return (name, ← IO.getEnv name)
  return fun name => (values.lookup name).join

def files (words : List String) (environment : Environment) : IO FileReader := do
  match CommandLine.parse words environment with
  | .ok line =>
      match line.config with
      | some path =>
          let content ← attempt (IO.FS.readBinFile path)
          return fun _ => content.map (·.toList)
      | none => return fun _ => .error (.system 2)
  | .error _ => return fun _ => .error (.system 2)

def config (words : List String) (environment : Environment) (files : FileReader) :
    ChannelConfig :=
  match CommandLine.parse words environment with
  | .ok line => (line.channelConfig files).toOption.getD .default
  | .error _ => .default

def hostOf : Std.Net.IPAddr → Host
  | .v4 ip => .v4 ⟨ip.octets[0], ip.octets[1], ip.octets[2], ip.octets[3]⟩
  | .v6 ip => .v6 ⟨ip.segments.toList, by simp⟩ 0

def socketAddress (address : Address) : Std.Net.SocketAddress :=
  match address.host with
  | .v4 ip => .v4 ⟨⟨#v[ip.a, ip.b, ip.c, ip.d]⟩, address.port⟩
  | .v6 ip _ => .v6 ⟨⟨⟨ip.groups.toArray, by simp [ip.length_eq]⟩⟩, address.port⟩

def addressOf : Std.Net.SocketAddress → Address
  | .v4 address => ⟨hostOf (.v4 address.addr), address.port⟩
  | .v6 address => ⟨hostOf (.v6 address.addr), address.port⟩

def lookUp (name : String) : IO (Except Fault (List Host)) := do
  try return .ok ((← Async.block (Std.Async.DNS.getAddrInfo name "")).toList.map hostOf)
  catch error => return .error (nameFaultOf error)

def resolver (names : List String) : IO Resolver := do
  let answers ← names.mapM fun name => return (name, ← lookUp name)
  return fun name => (answers.lookup name).getD (.error NameFailure.tryAgain.fault)

def offset (limit : Duration) : Std.Time.Millisecond.Offset := .ofNat limit.toMillis.toNat

def connected (client : Client) (limit : Duration) (address : Address) : Async Bool :=
  Async.race (do client.connect (socketAddress address); return true)
    (do Std.Async.sleep (offset limit); return false)

def largestRead : Nat := 1048576

def receive (client : Client) (config : ChannelConfig) : IO Arrival := do
  let room := UInt64.ofNat (min largestRead config.recvCapacity.toNat)
  let arrived (data : Option ByteArray) : Arrival := .bytes ((data.map (·.toList)).getD [])
  let reading : Async Arrival :=
    match config.readLimit with
    | none => do return arrived (← client.recv? room)
    | some limit => do
        let data := client.recvSelector room
        let timer ← Selector.sleep (offset limit)
        Selectable.one #[.case data fun data => return arrived data, .case timer fun _ => return .overdue]
  match ← attempt (Async.block reading) with
  | .ok arrival => return arrival
  | .error fault => return .failed fault

partial def hear (client : Client) (config : ChannelConfig) (heard : List Arrival) :
    IO (List Arrival) := do
  match ← receive client config with
  | .bytes (byte :: more) => hear client config (.bytes (byte :: more) :: heard)
  | last => return last :: heard

def exchange (client : Client) (config : ChannelConfig) (request : Bytes) : IO Transcript := do
  let (sending, heard) ←
    match ← attempt (Async.block (client.send ⟨request.toArray⟩)) with
    | .ok () => pure (Sending.taken, ← hear client config [])
    | .error fault => pure (Sending.failed fault, [])
  let closing ← attempt (Async.block client.shutdown)
  return { Transcript.blank with
    arrivals := heard.reverse
    sendings := [sending]
    sendingEnds := [closing] }

def call (config : ChannelConfig) (request : Dial Transcript → Bytes) (address : Address) :
    IO (Dial Transcript) := do
  let client ← Client.mk
  match ← attempt (Async.block (connected client config.connectLimit address)) with
  | .error fault => return .failed fault
  | .ok false => return .silent
  | .ok true =>
      let own := addressOf (← client.getSockName)
      match request (.connected .blank own address) with
      | [] => return .connected .blank own address
      | request => return .connected (← exchange client config request) own address

def asked (run : Run Transcript) : List String := (run.fetched.map (·.asked)).getD []

def dialled (run : Run Transcript) : List Address := (run.fetched.map (·.dialled)).getD []

def sent (run : Run Transcript) : Bytes :=
  ((run.fetched.bind (·.channel)).map (Transcript.delivered ·.link.log)).getD []

def finish (run : Run Transcript) : IO UInt32 := do
  let output ← IO.getStdout
  output.write ⟨run.output.toArray⟩
  output.flush
  IO.eprint run.errorOutput
  return UInt32.ofNat (run.exitCode.getD Program.crashCode)

def run (words : List String) : IO UInt32 := do
  let environment ← environment
  let files ← files words environment
  let rehearse (resolver : Resolver) (network : Network Transcript) : Run Transcript :=
    Program.run { environment, files, resolver, network } words
  let unanswered := rehearse (fun _ => .error NameFailure.tryAgain.fault) fun _ => .silent
  let resolver ← resolver (asked unanswered)
  let config := config words environment files
  let request (dial : Dial Transcript) := sent (rehearse resolver fun _ => dial)
  let dials ← (dialled (rehearse resolver fun _ => .silent)).mapM fun address =>
    return (address, ← call config request address)
  finish (rehearse resolver fun address => (dials.lookup address).getD .silent)

end Conduit.Main

def main (words : List String) : IO UInt32 := Conduit.Main.run words
