import DiskUploader.CommandLine.Grammar

/-!
# The tool's command line

`ovirtkit` takes three commands: `upload` sends an image into a new or an existing disk,
`inspect` shows what an image file holds, and `config` shows, locates or writes the settings
file. Every command accepts `-v`, `-q` and `--format`, which choose how much is logged and how
results are printed.

An upload into a new disk needs a storage domain; one into an existing disk names it with
`--disk-id` and then takes neither a storage domain nor an alias. `--sparse` and `--no-sparse`
cancel each other, the later one winning. The engine's address, user name, password and
certificate authority may also come from environment variables.
-/

namespace DiskUploader.Console

open CommandLine

def formatNames : List String := ["table", "json", "yaml"]

def globalArgs : List Arg :=
  [{ id := "verbose", shape := .flag, long := some "verbose", short := some 'v',
     help := "Verbose output", order := 3, global := true },
   { id := "quiet", shape := .flag, long := some "quiet", short := some 'q',
     help := "Quiet output", order := 4, global := true },
   { id := "format", shape := .option "FORMAT", long := some "format", help := "Output format",
     order := 5, global := true, kind := .choice formatNames, default := some "table" }]

def fileArg : Arg :=
  { id := "file", shape := .positional "FILE", help := "Path to the image file", required := true,
    kind := .path }

def uploadCommand : Command where
  name := "upload"
  about := "Upload a raw or qcow2 image"
  order := 0
  args :=
    [fileArg,
     { id := "storage_domain", shape := .option "STORAGE_DOMAIN", long := some "storage-domain",
       help := "Storage domain for the new disk", order := 0, requiredUnless := ["disk_id"] },
     { id := "disk_id", shape := .option "DISK_ID", long := some "disk-id",
       help := "Upload into this existing disk instead of creating one", order := 1,
       conflicts := ["storage_domain", "alias"] },
     { id := "alias", shape := .option "ALIAS", long := some "alias",
       help := "Alias of the new disk (defaults to the file name)", order := 2 },
     { id := "sparse", shape := .flag, long := some "sparse",
       help := "Thin-provision the new disk (overrides upload.sparse)", order := 3,
       overrides := ["no_sparse"] },
     { id := "no_sparse", shape := .flag, long := some "no-sparse",
       help := "Preallocate the new disk (overrides upload.sparse)", order := 4,
       overrides := ["sparse"] },
     { id := "url", shape := .option "URL", long := some "url",
       help := "Engine URL, e.g. https://engine.example.com", order := 5, env := some "OVIRT_URL" },
     { id := "username", shape := .option "USERNAME", long := some "username", order := 6,
       env := some "OVIRT_USERNAME" },
     { id := "password", shape := .option "PASSWORD", long := some "password", order := 7,
       env := some "OVIRT_PASSWORD", hideEnvValue := true },
     { id := "insecure", shape := .flag, long := some "insecure",
       help := "Skip TLS certificate verification", order := 8 },
     { id := "ca_file", shape := .option "CA_FILE", long := some "ca-file",
       help := "Extra CA certificate (PEM) to trust", order := 9, env := some "OVIRT_CA_FILE",
       kind := .path }]

def inspectCommand : Command where
  name := "inspect"
  about := "Show the format and virtual size of an image"
  order := 1
  args := [fileArg]

def configCommand : Command where
  name := "config"
  about := "Manage configuration"
  order := 2
  subcommandRequired := true
  helpWhenEmpty := true
  subcommands :=
    [{ name := "show", about := "Print the effective configuration", order := 0 },
     { name := "path", about := "Print the configuration file location", order := 1 },
     { name := "init", about := "Write the default configuration file", order := 2,
       args := [{ id := "force", shape := .flag, long := some "force", short := some 'f',
                  help := "Overwrite an existing file", order := 0 }] }]

def toolCommand : Command where
  name := "ovirtkit"
  about := "ovirtkit - Upload disk images to an oVirt engine"
  version := some "0.1.0"
  subcommandRequired := true
  helpWhenEmpty := true
  args := globalArgs
  subcommands := [uploadCommand, inspectCommand, configCommand]

end DiskUploader.Console
