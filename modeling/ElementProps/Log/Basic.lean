/-!
# Log records

What the program reports is a value beside each answer: a list of records in the order in which
they arise. Writing them out is left to the outer layer.

* `Level`      a rank; the five usual ones have names;
* `Source`     the parts of the program that report, each with the name of its logger;
* `Record`     a level, the name of a logger and a message.
-/

namespace ElementProps.Log

/-- how grave a record is; a record is written when its rank reaches the chosen one -/
structure Level where
  rank : Int
  deriving DecidableEq, Repr

namespace Level

def debug : Level := ⟨10⟩
def info : Level := ⟨20⟩
def warning : Level := ⟨30⟩
def error : Level := ⟨40⟩
def critical : Level := ⟨50⟩

/-- the levels that can be chosen by name, from the most to the least talkative -/
def named : List (String × Level) :=
  [("DEBUG", debug), ("INFO", info), ("WARNING", warning), ("ERROR", error),
   ("CRITICAL", critical)]

def ofName? (name : String) : Option Level := named.lookup name

/-- the name of a level; one without a name of its own is called by its rank -/
def name (l : Level) : String :=
  match named.find? fun p => p.2 == l with
  | some (name, _) => name
  | none => if l.rank = 0 then "NOTSET" else "Level " ++ toString l.rank

end Level

inductive Source where
  | completer
  | settings
  | session
  | documents
  | requests
  | commandLine
  deriving DecidableEq, Repr

def Source.logger : Source → String
  | .completer => "luau_props_lsp.engine"
  | .settings => "luau_props_lsp.config"
  | .session => "luau_props_lsp._server.server"
  | .documents => "luau_props_lsp._server.utils"
  | .requests => "luau_props_lsp._server.completion"
  | .commandLine => "__main__"

structure Record where
  level : Level
  logger : String
  message : String
  deriving DecidableEq, Repr

namespace Record

def debug (s : Source) (message : String) : Record := ⟨.debug, s.logger, message⟩

def info (s : Source) (message : String) : Record := ⟨.info, s.logger, message⟩

def warning (s : Source) (message : String) : Record := ⟨.warning, s.logger, message⟩

end Record

end ElementProps.Log
