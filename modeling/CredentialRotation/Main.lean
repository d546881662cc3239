import CredentialRotation.Command.Line
import CredentialRotation.Definition.Resource
import CredentialRotation.Json.Printer

/-!
# Main

The command line.  Commands about resources read the replies of the cluster from standard input, one
per line as `{"status": …, "body": …}`, and write the requests that they send to standard error.
-/

namespace CredentialRotation

/-- A number out of four bytes, the least significant one first. -/
def wordOfBytes (bytes : ByteArray) : Fin Entropy.space :=
  Fin.ofNat Entropy.space (bytes.toList.foldr (fun byte high => byte.toNat + 256 * high) 0)

/-- A source with so many answers of the system's own. -/
def systemEntropy (count : Nat) : IO Entropy := do
  let answers ← (List.range count).mapM fun _ => return .ok (wordOfBytes (← IO.getRandomBytes 4))
  return ⟨answers, "no random bits are left"⟩

/-- A reply that a line describes. -/
def replyOfLine? (line : String) : Option Cluster.Reply := do
  let .obj fields ← Json.ofText line | none
  let status ← (Json.Fields.get? fields "status").bind (Json.natBelow? 1000)
  some ⟨status, Json.Fields.get? fields "body"⟩

/-- The replies on standard input. -/
partial def readReplies (input : IO.FS.Stream) (replies : List Cluster.Reply) :
    IO (List Cluster.Reply) := do
  let line ← input.getLine
  if line.isEmpty then return replies.reverse
  readReplies input ((replyOfLine? line).toList ++ replies)

/-- Show what a command gives, and answer with the exit code. -/
def present (output : Command.Output) : IO UInt32 := do
  output.lines.forM IO.println
  match output.ending with
  | .ok _ => return 0
  | .error .stuck =>
    IO.eprintln "Error: the rotation interval cannot be read"
    return 1
  | .error (.failed reason) =>
    IO.eprintln ("Error: " ++ reason.chain)
    return 1

/-- Show a request. -/
def presentRequest (request : Cluster.Request) : IO Unit :=
  let change := match request.action with
    | .read => ""
    | .patch change => " " ++ change.toText
  IO.eprintln (request.action.method ++ " " ++ request.path ++ change)

/-- Run a command about resources. -/
def runOnCluster (command : ScriptedApi → Command.Output × ScriptedApi) : IO UInt32 := do
  let replies ← readReplies (← IO.getStdin) []
  let (output, api) := command ⟨replies, []⟩
  api.requests.forM presentRequest
  present output

/-- Run a command. -/
def runVerb (options : Command.Options) : Command.Verb → IO UInt32
  | .list => runOnCluster (Command.list options.scope)
  | .status name => runOnCluster (Command.status (options.scope.getD Command.defaultScope) name)
  | .rotate name => match options.time with
    | some now => runOnCluster (Command.rotate (options.scope.getD Command.defaultScope) name now)
    | none => do
      IO.eprintln "Error: a rotation needs the time of its request"
      return 2
  | .suspend name suspend =>
    runOnCluster (Command.suspend (options.scope.getD Command.defaultScope) name suspend)
  | .generate => do
    let source ← systemEntropy (Password.maxLength * 2)
    present (Command.generate options.length options.symbols source).1
  | .definition => do
    IO.print Definition.document.toText
    return 0

end CredentialRotation

open CredentialRotation in
/-- Run what the command line asks for. -/
def main (arguments : List String) : IO UInt32 := do
  match Command.Verb.ofArguments? arguments with
  | some (verb, options) => runVerb options verb
  | none =>
    Command.usage.forM IO.eprintln
    return 2
