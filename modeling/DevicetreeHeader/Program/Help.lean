import DevicetreeHeader.Text.Basic

/-!
# Help and version

The texts that the program prints about itself: its version, and its usage in a short and in a full
form.
-/

set_option autoImplicit false
set_option relaxedAutoImplicit false

namespace DevicetreeHeader.Program

/-- Lines as one text, each with its line end. -/
def ofLines (lines : List String) : Text :=
  lines.flatMap fun line ↦ line.toList ++ ['\n']

/-- The version of the program. -/
def versionText : Text :=
  ofLines ["dt-header-cli 0.1.0"]

/-- The usage, with one line for each argument. -/
def shortHelp : Text :=
  ofLines [
    "Generate C headers from Devicetree sources",
    "",
    "Usage: dt-header [OPTIONS] <INPUT> <OUTPUT>",
    "",
    "Arguments:",
    "  <INPUT>   The DTS file to read",
    "  <OUTPUT>  The header file to write",
    "",
    "Options:",
    "  -v, --verbose                If provided, displays info log messages",
    "  -c, --config <PATH>          Config file to use instead of searching for `.dt-header.toml`",
    "      --macro-prefix <PREFIX>  First segment of every generated macro name [default: DT]",
    "      --include-guard <GUARD>  Wrap the header in `#ifndef GUARD` / `#define GUARD` / `#endif`",
    "  -h, --help                   Print help (see more with '--help')",
    "  -V, --version                Print version"]

/-- The usage, with a paragraph for each argument. -/
def fullHelp : Text :=
  ofLines [
    "Generate C headers from Devicetree sources",
    "",
    "Usage: dt-header [OPTIONS] <INPUT> <OUTPUT>",
    "",
    "Arguments:",
    "  <INPUT>",
    "          The DTS file to read",
    "",
    "  <OUTPUT>",
    "          The header file to write",
    "",
    "Options:",
    "  -v, --verbose",
    "          If provided, displays info log messages",
    "          ",
    "          This can be overridden by the `RUST_LOG` environment variable",
    "",
    "  -c, --config <PATH>",
    "          Config file to use instead of searching for `.dt-header.toml`",
    "",
    "      --macro-prefix <PREFIX>",
    "          First segment of every generated macro name [default: DT]",
    "",
    "      --include-guard <GUARD>",
    "          Wrap the header in `#ifndef GUARD` / `#define GUARD` / `#endif`",
    "",
    "  -h, --help",
    "          Print help (see a summary with '-h')",
    "",
    "  -V, --version",
    "          Print version"]

end DevicetreeHeader.Program
