import SharedVm.CommandLine.Option

/-!
# Help

What the command line says about itself, for a terminal of eighty columns.
-/

namespace SharedVm.CommandLine

def program : Text := "krun-launch"

def version : Text := "0.1.0"

def lines (ts : List Text) : Text := ts.flatMap (· ++ "\n")

def Part.program : Part → Text
  | .whole => CommandLine.program
  | .launch => CommandLine.program ++ " launch"
  | .status => CommandLine.program ++ " status"

def Part.usage : Part → Text
  | .whole => lines ["usage: krun-launch [-h] [--version] \x7blaunch,status\x7d ..."]
  | .launch => lines [
      "usage: krun-launch launch [-h] [--port PORT] [-i] [-e KEY[=VALUE]]",
      "                          [--retry-delay RETRY_DELAY]",
      "                          ..."]
  | .status => lines ["usage: krun-launch status [-h]"]

def Part.help : Part → Text
  | .whole => Part.usage .whole ++ lines [
      "",
      "Run commands in a shared krun microVM",
      "",
      "positional arguments:",
      "  \x7blaunch,status\x7d",
      "    launch         Forward a command to the running server, or become the",
      "                   server",
      "    status         Show whether a server holds the lock and its port",
      "",
      "options:",
      "  -h, --help       show this help message and exit",
      "  --version        show program's version number and exit"]
  | .launch => Part.usage .launch ++ lines [
      "",
      "positional arguments:",
      "  command               Command and arguments",
      "",
      "options:",
      "  -h, --help            show this help message and exit",
      "  --port PORT           Port to announce if this invocation becomes the server",
      "                        (default: 3333)",
      "  -i, --interactive     Attach the command to a terminal",
      "  -e KEY[=VALUE], --env KEY[=VALUE]",
      "                        Pass an env var to the command (no value: take it from",
      "                        this environment)",
      "  --retry-delay RETRY_DELAY",
      "                        Seconds to wait between attempts to reach a starting",
      "                        server (default: 0)"]
  | .status => Part.usage .status ++ lines [
      "",
      "options:",
      "  -h, --help  show this help message and exit"]

end SharedVm.CommandLine
