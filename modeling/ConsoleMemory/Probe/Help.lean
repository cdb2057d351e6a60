import ConsoleMemory.Text.Column

/-!
# Help of the probe

What the probe prints when it is asked for help: its purpose, how it is called, and its options in
two columns.
-/

namespace ConsoleMemory.Probe

/-- The options as they are written, each with what it is for. -/
def optionRows : List (String × String) :=
  [("    --config <PATH>", "TOML configuration file"),
    ("    --bios-dir <DIR>", "Directory scanned for the BIOS image"),
    ("    --bios <NAME>", "BIOS file name (matched case-insensitively)"),
    ("    --hle", "Skip the BIOS image and use HLE BIOS functions"),
    ("    --mirror <MODE>", "RAM mirroring strategy (table or aliased)"),
    ("    --peek <ADDR>", "Guest address to read (hex, repeatable)"),
    ("-h, --help", "Print help")]

/-- The width of the first column. -/
def optionWidth : Nat := optionRows.foldl (fun width row => max width row.1.length) 0

/-- The help text. -/
def helpText : String :=
  "Initialize PSX memory, load the BIOS and peek at guest addresses.\n\n" ++
    "Usage: psxmem-probe [OPTIONS]\n\nOptions:\n" ++
    String.join (optionRows.map fun row =>
      "  " ++ Text.padRight optionWidth row.1 ++ "  " ++ row.2 ++ "\n")

end ConsoleMemory.Probe
