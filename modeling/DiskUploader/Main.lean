import DiskUploader.Console.Run

/-!
# The `ovirtkit` executable

The executable gathers what a run may look at (its arguments, the engine variables of the
environment, the home and working directories, and the files the run may read: the settings
file, every argument that names a file, and the certificate authority files), runs the tool on
them, prints what the run printed, and writes back the settings file if the run changed it.
-/

open DiskUploader DiskUploader.Console

def engineVariables : List String := ["OVIRT_URL", "OVIRT_USERNAME", "OVIRT_PASSWORD", "OVIRT_CA_FILE"]

def readIfPresent (path : String) : IO (Option ByteArray) := do
  try
    return some (← IO.FS.readBinFile path)
  catch _ =>
    return none

/-- The file system of a run: the home and working directories and the readable candidates. -/
def gatherFiles (home cwd : String) (candidates : List String) : IO FileSystem := do
  let mut fs : FileSystem := { entries := [(home, .directory), (cwd, .directory)], home, cwd }
  for c in candidates do
    let path := fs.absolute c
    if !(fs.entries.any (·.1 == path)) then
      if let some bytes ← readIfPresent path then
        fs := { fs with entries := fs.entries ++ [(path, .file bytes)] }
  return fs

def main (args : List String) : IO UInt32 := do
  let home := (← IO.getEnv "HOME").getD "/"
  let cwd := (← IO.currentDir).toString
  let mut env : List (String × String) := []
  for name in engineVariables do
    if let some v ← IO.getEnv name then
      env := env ++ [(name, v)]
  let probe : FileSystem := { entries := [], home, cwd }
  let settingsPath := probe.settingsPath
  let settingsFile ← readIfPresent settingsPath
  let settingsCa := match settingsFile.bind String.fromUTF8? with
    | some text => match Settings.ofYaml text with
      | .ok s => s.engine.caFile.toList
      | .error _ => []
    | none => []
  let fs ← gatherFiles home cwd (settingsPath :: args ++ env.map (·.2) ++ settingsCa)
  let out := run ⟨args, env, fs⟩
  IO.print out.stdout
  IO.eprint out.stderr
  match out.files.read settingsPath with
  | .ok bytes =>
    if settingsFile != some bytes then
      IO.FS.createDirAll (FileSystem.parent settingsPath)
      IO.FS.writeBinFile settingsPath bytes
  | .error _ => pure ()
  return out.exitCode.toUInt32
