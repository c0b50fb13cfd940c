import ElementProps.About

/-!
# Usage and help

* `Topic`          the program itself and its two commands;
* `Topic.usage`    how it is called, printed with every misuse;
* `Topic.help`     the usage, and what its arguments mean.
-/

namespace ElementProps.CommandLine

inductive Topic where
  | program
  | server
  | complete
  deriving DecidableEq, Repr

namespace Topic

/-- the words with which a topic is called -/
def caller : Topic → String
  | .program => programName
  | .server => programName ++ " server"
  | .complete => programName ++ " complete"

def paragraph (lines : List String) : String := String.join (lines.map (· ++ "\n"))

def usage : Topic → String
  | .program => paragraph
      ["usage: luau-props-lsp [-h] [--version]",
       "                      [--log-level \x7bDEBUG,INFO,WARNING,ERROR,CRITICAL\x7d]",
       "                      \x7bserver,complete\x7d ..."]
  | .server => paragraph
      ["usage: luau-props-lsp server [-h] [--tcp] [--port PORT] [--stdio]"]
  | .complete => paragraph
      ["usage: luau-props-lsp complete [-h] --line LINE --column COLUMN",
       "                               [--props PROPS]",
       "                               file"]

def meaning : Topic → String
  | .program => paragraph
      ["luau-props-lsp: property completions for React-Luau element calls",
       "",
       "Suggests property names inside the props table of",
       "React.createElement(\"ClassName\", \x7b ... \x7d) and "
         ++ "e(\"ClassName\", \x7b ... \x7d) calls",
       "in Lua and Luau files.",
       "",
       "Built-in properties are provided for TextLabel, Frame and ImageLabel.",
       "Clients can add or replace classes through the reactLuauPropsHelper.props",
       "setting.",
       "",
       "positional arguments:",
       "  \x7bserver,complete\x7d     Available commands",
       "    server              Start the LSP server",
       "    complete            Print property completions for a position in a file",
       "",
       "options:",
       "  -h, --help            show this help message and exit",
       "  --version             show program's version number and exit",
       "  --log-level \x7bDEBUG,INFO,WARNING,ERROR,CRITICAL\x7d",
       "                        Set the logging level (default: INFO)"]
  | .server => paragraph
      ["options:",
       "  -h, --help   show this help message and exit",
       "  --tcp        Use TCP instead of stdio",
       "  --port PORT  TCP port to listen on (default: 8080)",
       "  --stdio      Use stdio (default)"]
  | .complete => paragraph
      ["positional arguments:",
       "  file             Lua or Luau file to complete in",
       "",
       "options:",
       "  -h, --help       show this help message and exit",
       "  --line LINE      1-based line of the cursor",
       "  --column COLUMN  1-based column of the cursor",
       "  --props PROPS    JSON file mapping class names to property lists "
         ++ "(e.g. \x7b\"Frame\": [\"Size\"]\x7d)"]

def help (t : Topic) : String := t.usage ++ "\n" ++ t.meaning

end Topic

end ElementProps.CommandLine
