import DebugBridge.Config
import DebugBridge.Output.Formatter

/-!
# Commands

What the command line can ask for, and the options that go with every command.
-/

namespace DebugBridge

/-- What a device can be restarted into, other than its usual system. -/
inductive RebootTarget where
  | bootloader | recovery | sideload
  deriving DecidableEq, Repr, Inhabited

/-- The name of a target. -/
def RebootTarget.name : RebootTarget → String
  | .bootloader => "bootloader"
  | .recovery => "recovery"
  | .sideload => "sideload"

/-- The target of a name. -/
def RebootTarget.ofName? (name : String) : Option RebootTarget :=
  [RebootTarget.bootloader, .recovery, .sideload].find? (·.name = name)

/-- What can be done to the server on this host. -/
inductive ServerOperation where
  | start | stop | restart | status
  deriving DecidableEq, Repr, Inhabited

/-- The name of an operation. -/
def ServerOperation.name : ServerOperation → String
  | .start => "start"
  | .stop => "stop"
  | .restart => "restart"
  | .status => "status"

/-- The operation of a name. -/
def ServerOperation.ofName? (name : String) : Option ServerOperation :=
  [ServerOperation.start, .stop, .restart, .status].find? (·.name = name)

/-- A command. -/
inductive Command where
  | devices (long : Bool)
  | track (long : Bool)
  | version
  /-- Runs words as one command in a shell; `idle` is the longest wait for output in seconds. -/
  | shell (words : List String) (idle : Option Nat)
  | push (sources : List String) (target : String)
  | pull (source target : String)
  /-- Lists a directory; `all` keeps the entries for the directory itself and the one above. -/
  | list (path : String) (all : Bool)
  | stat (paths : List String)
  | listForwards
  | addForward (here there : String) (noRebind : Bool)
  /-- Takes one forward down, or all of them. -/
  | removeForward (here : Option String) (all : Bool)
  | connect (address : String)
  | disconnect (address : String)
  | reboot (target : Option RebootTarget)
  | server (operation : ServerOperation)
  deriving DecidableEq, Repr, Inhabited

/-- The options that go with every command. -/
structure GlobalOptions where
  host : Option String := none
  port : Option UInt16 := none
  serial : Option String := none
  form : Option OutputForm := none
  /-- How often more notes were asked for. -/
  verbose : Option Nat := none
  /-- How often fewer notes were asked for. -/
  quiet : Option Nat := none
  deriving DecidableEq, Repr, Inhabited

/-- The options of a command inside another one: each that is given there goes before the one
that is given outside. -/
def GlobalOptions.inside (inner outer : GlobalOptions) : GlobalOptions where
  host := inner.host <|> outer.host
  port := inner.port <|> outer.port
  serial := inner.serial <|> outer.serial
  form := inner.form <|> outer.form
  verbose := inner.verbose <|> outer.verbose
  quiet := inner.quiet <|> outer.quiet

/-- Which notes are made about the work. -/
inductive Verbosity where
  | off | error | warn | info | debug | trace
  deriving DecidableEq, Repr, Inhabited

namespace Verbosity

/-- The levels from the fewest notes to the most. -/
def levels : List Verbosity := [.off, .error, .warn, .info, .debug, .trace]

/-- The name of a level. -/
def name : Verbosity → String
  | .off => "OFF"
  | .error => "ERROR"
  | .warn => "WARN"
  | .info => "INFO"
  | .debug => "DEBUG"
  | .trace => "TRACE"

/-- The level that was asked for: from errors on, one up for each time that more was asked for
and one down for each time that less was, as far as there are levels. -/
def ofCounts (more less : Nat) : Verbosity :=
  levels.getD (min (1 + min more 255 - min less 255) 5) .trace

end Verbosity

/-- A command and the options that go with it. -/
structure Invocation where
  command : Command
  options : GlobalOptions := {}
  deriving DecidableEq, Repr, Inhabited

/-- What a command goes by. -/
structure Context where
  config : Config
  /-- The device that was asked for. -/
  serial : Option String := none
  form : OutputForm := .table
  quiet : Bool := false
  palette : Palette := .plain
  deriving DecidableEq, Repr, Inhabited

namespace Invocation

/-- The level of notes. -/
def verbosity (i : Invocation) : Verbosity :=
  .ofCounts (i.options.verbose.getD 0) (i.options.quiet.getD 0)

/-- The context of the command; options go before the settings. -/
def context (i : Invocation) (palette : Palette) (config : Config) : Context where
  config := { config with
    server := { config.server with
      host := i.options.host.getD config.server.host
      port := i.options.port.getD config.server.port } }
  serial := i.options.serial
  form := i.options.form.getD .table
  quiet := i.verbosity = .off
  palette

end Invocation

namespace Context

/-- How the command prints. -/
def formatter (c : Context) : Formatter := { palette := c.palette, quiet := c.quiet }

/-- Whether the progress of transfers is shown. -/
def showsProgress (c : Context) : Bool := !c.quiet && c.form ≠ .json

end Context

end DebugBridge
