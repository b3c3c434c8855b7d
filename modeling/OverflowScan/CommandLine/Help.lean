set_option autoImplicit false

namespace OverflowScan.CommandLine

def program : String := "bufscan"

def version : String := "0.1.0"

def usageText : String :=
  "usage: bufscan [-h] [--format \x7bjson,yaml\x7d] [--out OUTPUT_PATH] [-v]\n" ++
  "               [--version]\n" ++
  "               source\n"

def helpText : String :=
  usageText ++
  "\n" ++
  "Heuristic buffer-overflow scanner for C/C++ source files\n" ++
  "\n" ++
  "positional arguments:\n" ++
  "  source                Path to the C/C++ source file to scan.\n" ++
  "\n" ++
  "options:\n" ++
  "  -h, --help            show this help message and exit\n" ++
  "  --format \x7bjson,yaml\x7d  Format of the structured report written with --out\n" ++
  "                        (defaults to json).\n" ++
  "  --out OUTPUT_PATH, --output OUTPUT_PATH\n" ++
  "                        Also write a structured report to this path (e.g.,\n" ++
  "                        artifacts/scan.json).\n" ++
  "  -v, --verbose         Log progress to stderr (-v for info, -vv for debug).\n" ++
  "  --version             show program's version number and exit\n" ++
  "\n" ++
  "Findings are advisory; every one should be manually verified.\n"

def versionText : String := program ++ " " ++ version ++ "\n"

end OverflowScan.CommandLine
