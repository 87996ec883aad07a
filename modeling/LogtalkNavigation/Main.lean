import LogtalkNavigation.Cli

namespace LogtalkNavigation.CommandLine

partial def tree (p : Path) (named : Bool) : IO (List (Path × Node)) := do
  let spot := (← IO.currentDir) / String.ofList p.text
  if ← spot.isDir then
    let mut nodes := [(p, Node.directory)]
    for found in ← spot.readDir do
      if let some name := Name.ofText? found.fileName.toList then
        nodes := nodes ++ (← tree (p.child name) false)
    return nodes
  else if ← spot.pathExists then
    let content ← if named then pure (← IO.FS.readBinFile spot).toList else pure []
    return [(p, .file content)]
  else return []

def diskFor (arguments : List String) : IO Disk := do
  let home := (Path.ofString (← IO.currentDir).toString).names
  let mut disk := Disk.makeDirectory ⟨[], home, {}⟩ Path.here
  for argument in arguments do
    if !argument.isEmpty then
      for (p, node) in ← tree (Path.ofString argument) true do
        match node with
        | .directory => disk := disk.makeDirectory p
        | .file content => disk := disk.put p content
  return disk

def removeMissing (before after : Disk) : IO Unit := do
  for (place, _) in before.files do
    if (after.node? place).isNone then
      IO.FS.removeFile (String.ofList (Path.text ⟨.root, place⟩))

def run (arguments : List String) : IO UInt32 := do
  let disk ← diskFor arguments
  let (ending, world) := Cli.call arguments { disk, log := ⟨.warning, []⟩ }
  removeMissing disk world.disk
  match ending with
  | .usage =>
    IO.eprintln "Usage: serve [--log-level NAME] | cleanup ROOT | records KIND ARTIFACT [--file FILE]"
  | .failed failure => IO.eprintln failure.message
  | .done outcome =>
    IO.print (String.ofList outcome.output)
    IO.eprint (String.ofList outcome.errors)
    if outcome.serves then
      let _ ← (← IO.getStdin).readToEnd
  return ending.code.toUInt32

end LogtalkNavigation.CommandLine

def main (arguments : List String) : IO UInt32 := LogtalkNavigation.CommandLine.run arguments
