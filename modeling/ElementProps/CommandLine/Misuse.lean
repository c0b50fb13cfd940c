import ElementProps.About
import ElementProps.Text.Quoted

/-!
# Misuse of the command line

Everything that can be wrong with the arguments of the program, and the words for it.
-/

namespace ElementProps.CommandLine

inductive Misuse where
  /-- an abbreviation fits several options -/
  | ambiguous (argument : String) (candidates : List String)
  /-- the value of an option is missing -/
  | valueExpected (option : String)
  /-- a value was given to an option that takes none -/
  | valueIgnored (option value : String)
  | notAnInt (option value : String)
  | notAChoice (argument value : String) (choices : List String)
  | required (arguments : List String)
  | unrecognized (arguments : List String)
  | noCommand
  | tcpAndStdio
  deriving DecidableEq, Repr

def Misuse.message : Misuse → String
  | .ambiguous a cs => "ambiguous option: " ++ a ++ " could match " ++ ", ".intercalate cs
  | .valueExpected o => "argument " ++ o ++ ": expected one argument"
  | .valueIgnored o v => "argument " ++ o ++ ": ignored explicit argument " ++ Text.quoted v
  | .notAnInt o v => "argument " ++ o ++ ": invalid int value: " ++ Text.quoted v
  | .notAChoice a v cs =>
    "argument " ++ a ++ ": invalid choice: " ++ Text.quoted v
      ++ " (choose from " ++ ", ".intercalate (cs.map Text.quoted) ++ ")"
  | .required as => "the following arguments are required: " ++ ", ".intercalate as
  | .unrecognized as => "unrecognized arguments: " ++ " ".intercalate as
  | .noCommand =>
    "A subcommand is required. Use '" ++ programName ++ " server' to start the LSP server.\n"
      ++ "See '" ++ programName ++ " --help' for available commands."
  | .tcpAndStdio => "--tcp and --stdio are mutually exclusive"

end ElementProps.CommandLine
