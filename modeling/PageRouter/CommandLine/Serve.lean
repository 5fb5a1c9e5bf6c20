import PageRouter.CommandLine.Inspect
import PageRouter.Http.Router
import PageRouter.Log.Filter

/-!
# The server command

The server command reads a configuration, sets logging up, starts the site, and listens.  Its address may be
given on the command line, where it goes before that of the configuration, which is checked nevertheless.  When
it comes to listen it goes on until a signal ends it, and then it has succeeded.
-/

set_option autoImplicit false

namespace PageRouter.CommandLine.Serve

def configFlag : Flag := ⟨'c', "config", false⟩

def bindFlag : Flag := ⟨'b', "bind", true⟩

/-- How the command goes. -/
inductive Course where
  /-- It listens, with a router, until it is ended. -/
  | listening (router : Http.Router)
  /-- It ends by itself with a status. -/
  | ended (status : Nat)

/-- Whether the machine can listen on an address: on its own, or on all it has. -/
def canListen (address : String) : Bool :=
  (Net.SocketAddress.parse? address).any fun a => a.ip.isLoopback || a.ip.isUnspecified

/-- Begin to serve a configuration. -/
def begin (c : Config) (environment : Option String) : Course :=
  match Log.setUp c.observability environment false with
  | .error .crash => .ended 101
  | .error _ => .ended 1
  | .ok _ =>
    match Site.start c .standard with
    | .error _ => .ended 1
    | .ok site =>
      if !canListen c.listener.bindAddress then .ended 1
      else
        match Http.Router.build c site with
        | .ok router => .listening router
        | .error _ => .ended 101

/-- A configuration with the address that was given on the command line. -/
def withAddress (c : Config) : Option String → Config
  | some address => { c with listener := { c.listener with bindAddress := address } }
  | none => c

/-- Run what arguments ask for. -/
def run (file : String → Config.File) (environment : Option String) (args : List String) : Course :=
  match read ⟨[configFlag, bindFlag], 0⟩ args with
  | .help => .ended 0
  | .misuse => .ended 2
  | .ready a =>
    match Config.loadOrStandard ((a.value? "config").map file) with
    | .error _ => .ended 1
    | .ok c => begin (withAddress c (a.value? "bind")) environment

end PageRouter.CommandLine.Serve
