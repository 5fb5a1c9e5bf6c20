import PageRouter.CommandLine.Arguments
import PageRouter.Config.Load
import PageRouter.Data.Json
import PageRouter.Http.Status
import PageRouter.Location
import PageRouter.Site.Encoding
import PageRouter.Site.Start

/-!
# The inspection command

Three commands look at a site from outside: `routes` lists the table of a configuration, `resolve` shows what
a location leads to, and `fetch` gets a path from a running server.  A command ends with a status, zero for
success, two for arguments that make no sense, and one for everything else; only what succeeds, and a location
or a path that leads nowhere, writes to the output.

What a command finds outside, in files and behind addresses, is given to it.
-/

set_option autoImplicit false

namespace PageRouter.CommandLine

open Data

/-- How a command ended. -/
structure Report where
  status : Nat
  output : String
deriving DecidableEq, Repr

namespace Report

def misuse : Report := ⟨2, ""⟩

def failure : Report := ⟨1, ""⟩

def success (output : String) : Report := ⟨0, output⟩

end Report

/-- What a command can look up: the file at a path, and what a server answers to `GET` of an address, as a
status with a body. -/
structure World where
  file : String → Config.File
  answer : String → Option (Nat × String)

namespace Inspect

/-- A command with its arguments. -/
inductive Command where
  | routes (config : Option String)
  | resolve (url : String) (config : Option String)
  | fetch (path url : String)
deriving DecidableEq, Repr

/-! ## Reading arguments -/

def configFlag : Flag := ⟨'c', "config", false⟩

def urlFlag : Flag := ⟨'u', "url", true⟩

/-- Where a server is looked for unless an address is given. -/
def defaultUrl : String := "http://127.0.0.1:3000"

/-- What each command is for. -/
def summaries : List (String × String) :=
  [("routes", "Print the route table in match order"),
   ("resolve", "Resolve a URL offline and print what it renders"),
   ("fetch", "GET a path from a running server"),
   ("help", "Print this message or the help of the given subcommand(s)")]

def summary (name : String) : String := (summaries.lookup name).getD ""

/-- The help on all commands. -/
def overview : String :=
  "Inspect and exercise the page shell route table\n\n" ++
  "Usage: shell-cli <COMMAND>\n\nCommands:\n" ++
  String.join (summaries.map fun (name, text) =>
    "  " ++ name ++ String.ofList (List.replicate (9 - name.length) ' ') ++ text ++ "\n") ++
  "\nOptions:\n  -h, --help  Print help\n"

/-- The help on one command. -/
def helpOn (name : String) : String :=
  let config := "Options:\n  -c, --config <CONFIG>  \n  -h, --help             Print help\n"
  let url := "Options:\n  -u, --url <URL>  [default: " ++ defaultUrl ++
    "]\n  -h, --help       Print help\n"
  if name = "routes" then
    summary name ++ "\n\nUsage: shell-cli routes [OPTIONS]\n\n" ++ config
  else if name = "resolve" then
    summary name ++ "\n\nUsage: shell-cli resolve [OPTIONS] <URL>\n\nArguments:\n  <URL>  \n\n" ++ config
  else if name = "fetch" then
    summary name ++ "\n\nUsage: shell-cli fetch [OPTIONS] <PATH>\n\nArguments:\n  <PATH>  \n\n" ++ url
  else if name = "help" then
    summary name ++ "\n\nUsage: shell-cli help [COMMAND]...\n\nArguments:\n" ++
      "  [COMMAND]...  Print help for the subcommand(s)\n"
  else overview

/-- What arguments ask for. -/
inductive Request where
  | command (c : Command)
  | help (text : String)
  | misuse
deriving DecidableEq, Repr

/-- The request of a reading. -/
def ofReading (name : String) (make : Arguments → Option Command) : Reading → Request
  | .ready a =>
    match make a with
    | some c => .command c
    | none => .misuse
  | .help => .help (helpOn name)
  | .misuse => .misuse

/-- Read what is asked for. -/
def readRequest : List String → Request
  | "routes" :: args =>
    ofReading "routes" (fun a => some (.routes (a.value? "config"))) (read ⟨[configFlag], 0⟩ args)
  | "resolve" :: args =>
    ofReading "resolve" (fun a => a.words.head?.map fun url => .resolve url (a.value? "config"))
      (read ⟨[configFlag], 1⟩ args)
  | "fetch" :: args =>
    ofReading "fetch"
      (fun a => a.words.head?.map fun path => .fetch path ((a.value? "url").getD defaultUrl))
      (read ⟨[urlFlag], 1⟩ args)
  | ["help"] => .help overview
  | ["help", name] => if (summaries.lookup name).isSome then .help (helpOn name) else .misuse
  | arg :: _ => if arg = "--help" || "-h".toList.isPrefixOf arg.toList then .help overview else .misuse
  | [] => .misuse

/-- The path of the configuration that a command reads. -/
def Command.config? : Command → Option String
  | .routes config => config
  | .resolve _ config => config
  | .fetch _ _ => none

/-! ## Running commands -/

/-- The site of a configuration file, or of the standard configuration. -/
def siteOf? (world : World) (config : Option String) : Option Site :=
  match Config.loadOrStandard (config.map world.file) with
  | .ok c => (Site.start c .standard).toOption
  | .error _ => none

/-- A value on lines of its own. -/
def printed (v : Value) : String := v.json .indented ++ "\n"

/-- The table of a site as it is printed. -/
def tableText (site : Site) : String := printed (.list (site.table.routes.map Route.toValue))

/-- Report the outcome of a visit. -/
def reportOutcome (outcome : Outcome) : Report :=
  ⟨if outcome.screen?.isSome then 0 else 1, printed outcome.toValue⟩

/-- Resolve a location on a site. -/
def resolveOn (site : Site) (url : String) : Report :=
  match Location.parse url with
  | .error _ => .failure
  | .ok location =>
    match site.dispatch location.path with
    | .ok outcome => reportOutcome outcome
    | .error _ => .failure

/-- The address of a path below a base that may end in slashes. -/
def addressOf (base path : String) : String :=
  String.ofList ((base.toList.reverse.dropWhile (· == '/')).reverse) ++ path

/-- Whether a status means success. -/
def isSuccess (status : Nat) : Bool := 200 ≤ status && status < 300

/-- Report what a server answered. -/
def reportAnswer : Option (Nat × String) → Report
  | some (status, body) =>
    ⟨if isSuccess status then 0 else 1,
      Http.statusLine status ++ "\n" ++ body ++ "\n"⟩
  | none => .failure

/-- Run a command. -/
def Command.run (world : World) : Command → Report
  | .routes config =>
    match siteOf? world config with
    | some site => .success (tableText site)
    | none => .failure
  | .resolve url config =>
    match siteOf? world config with
    | some site => resolveOn site url
    | none => .failure
  | .fetch path url => reportAnswer (world.answer (addressOf url path))

/-- Run what arguments ask for. -/
def run (world : World) (args : List String) : Report :=
  match readRequest args with
  | .command c => c.run world
  | .help text => .success text
  | .misuse => .misuse

end Inspect

end PageRouter.CommandLine
