import PacketDivert.Command.Execution

namespace PacketDivert

/-- Asks the system what stands at a path. -/
def lookAt (path : String) : IO (Option FileNode) := do
  match ← (IO.FS.readBinFile path).toBaseIO with
  | .ok content => return some (.file content.toList)
  | .error (.inappropriateType ..) => return some .directory
  | .error _ => return none

/-- The part of the file system that a command can look at: files on the search path with the name
of a tool, and the settings file. -/
def gatherFiles (searchPath : Option String) (config : Option String) : IO FileSystem := do
  let bare : Environment := { searchPath }
  let named := bare.directories.flatMap fun directory =>
    [Tool.nft, .iptables, .ip6tables].map fun tool => FileSystem.join directory tool.name
  let mut nodes := []
  for path in named ++ config.toList do
    if let some node ← lookAt path then
      nodes := nodes ++ [((FileSystem.components path).filter (· != ""), node)]
  return { nodes }

/-- This program has no netlink socket and starts no tools, so queueing ends where it needs one. -/
def runCommand (arguments : List String) : IO CommandResult := do
  match Command.parse arguments with
  | .error reason => return Command.refusal reason
  | .ok command =>
    let searchPath ← IO.getEnv "PATH"
    let nft ← IO.getEnv "NFQIO_NFT_COMMAND"
    let iptables ← IO.getEnv "NFQIO_IPTABLES_COMMAND"
    let ip6tables ← IO.getEnv "NFQIO_IP6TABLES_COMMAND"
    let config := match command with
      | .run config _ => config
      | _ => none
    let files ← gatherFiles searchPath config
    let bytes (text : Option String) : Option Bytes := text.map (·.toUTF8.toList)
    let environment : Environment := {
      files, searchPath
      override := fun
        | .nft => bytes nft
        | .iptables => bytes iptables
        | .ip6tables => bytes ip6tables }
    let machine : Machine := { tools := { answer := fun _ _ => .error .notFound } }
    return (Command.execute environment { openRefused := some 93 } machine command).1

end PacketDivert

def main (arguments : List String) : IO UInt32 := do
  let result ← PacketDivert.runCommand arguments
  IO.print result.output
  IO.eprint result.errors
  return result.exitCode.toUInt32
