import StorageInventory.Address
import StorageInventory.Raid

/-!
# Failures

Why a step of an inventory run fails, one constructor for each cause, and the message that tells of
it.
-/

namespace StorageInventory

/-- A span of time in milliseconds. -/
structure Duration where
  millis : Nat
  deriving DecidableEq, Repr

namespace Duration

/-- A span of whole seconds. -/
def ofSeconds (seconds : Nat) : Duration := ⟨seconds * 1000⟩

/-- The span in seconds, or in milliseconds when it is shorter, without zeros at the end of the
fraction. -/
def text (d : Duration) : String :=
  let seconds := d.millis / 1000
  let places := Chars.dropEndWhile (· == '0') (Numeral.padded 3 (d.millis % 1000)).toList
  if d.millis = 0 then "0ns"
  else if seconds = 0 then s!"{d.millis}ms"
  else if places.isEmpty then s!"{seconds}s"
  else s!"{seconds}." ++ String.ofList places ++ "s"

end Duration

/-- What the system says against using a file. -/
inductive FileError
  | notFound
  | denied
  | notDirectory
  | isDirectory
  | tooManyLinks
  | nameTooLong
  | notText
  /-- A path holds the character that ends names. -/
  | nulInPath
  /-- A command holds the character that ends its arguments. -/
  | nulInCommand
  deriving DecidableEq, Repr

namespace FileError

/-- The message for a file that cannot be used. -/
def message : FileError → String
  | notFound => "No such file or directory (os error 2)"
  | denied => "Permission denied (os error 13)"
  | notDirectory => "Not a directory (os error 20)"
  | isDirectory => "Is a directory (os error 21)"
  | tooManyLinks => "Too many levels of symbolic links (os error 40)"
  | nameTooLong => "File name too long (os error 36)"
  | notText => "stream did not contain valid UTF-8"
  | nulInPath => "file name contained an unexpected NUL byte"
  | nulInCommand => "nul byte found in provided data"

end FileError

/-- How a command ended that did not succeed. -/
inductive ExitStatus
  | code (n : Nat)
  | signal (n : Nat)
  deriving DecidableEq, Repr

namespace ExitStatus

/-- The names of the signals that end a command. -/
def signalNames : List (Nat × String) :=
  [(1, "SIGHUP"), (2, "SIGINT"), (3, "SIGQUIT"), (4, "SIGILL"), (5, "SIGTRAP"), (6, "SIGABRT"),
    (7, "SIGBUS"), (8, "SIGFPE"), (9, "SIGKILL"), (10, "SIGUSR1"), (11, "SIGSEGV"),
    (12, "SIGUSR2"), (13, "SIGPIPE"), (14, "SIGALRM"), (15, "SIGTERM"), (16, "SIGSTKFLT"),
    (24, "SIGXCPU"), (25, "SIGXFSZ"), (26, "SIGVTALRM"), (27, "SIGPROF"), (29, "SIGIO"),
    (30, "SIGPWR"), (31, "SIGSYS")]

/-- The status in words. -/
def text : ExitStatus → String
  | code n => s!"exit status: {n}"
  | signal n =>
    match signalNames.lookup n with
    | some name => s!"signal: {n} ({name})"
    | none => s!"signal: {n}"

end ExitStatus

/-- Why a setting is refused. -/
inductive SettingError
  | zeroTimeout
  | emptyRoot
  deriving DecidableEq, Repr

namespace SettingError

/-- The message for a setting that is refused. -/
def message : SettingError → String
  | zeroTimeout => "tool_timeout_secs must be > 0"
  | emptyRoot => "sysfs_root must not be empty"

end SettingError

/-- Why a part of the kernel's device tree cannot be used. -/
inductive TopologyFault
  | noPciBus
  | noBlockClass
  | noController
  | badAddress (cause : AddressError)
  | noIdentifyData
  deriving DecidableEq, Repr

namespace TopologyFault

/-- The message for a fault. -/
def message : TopologyFault → String
  | noPciBus => "PCI device directory not found"
  | noBlockClass => "block class directory not found"
  | noController => "controller path is not a directory"
  | badAddress cause => cause.message
  | noIdentifyData => "no identify data"

end TopologyFault

/-- Why the output of a tool cannot be read. -/
inductive OutputFault
  | blank
  | badDrivePosition (text : String)
  | noDeviceSection
  | noControllerBlock
  deriving DecidableEq, Repr

namespace OutputFault

/-- The message for a fault. -/
def message : OutputFault → String
  | blank => "empty output"
  | badDrivePosition text => s!"bad drive position: {text}"
  | noDeviceSection => "no physical device information"
  | noControllerBlock => "no controller block in config detail"

end OutputFault

/-- Why a step fails. -/
inductive Failure
  /-- A file cannot be used. -/
  | file (cause : FileError)
  /-- The family's tool is not installed. -/
  | toolUnavailable (family : RaidFamily)
  /-- A command ended without success. -/
  | commandFailed (command : String) (status : ExitStatus) (stderr : String)
  /-- A command did not end in time. -/
  | commandTimeout (command : String) (timeout : Duration)
  /-- The output of the family's tool cannot be read. -/
  | unreadableOutput (family : RaidFamily) (fault : OutputFault)
  /-- No controller that the tool lists has the address. -/
  | controllerNotFound (family : RaidFamily) (address : PciAddress)
  /-- The kernel's device tree has an unexpected form. -/
  | malformedTopology (path : String) (fault : TopologyFault)
  /-- A setting is refused. -/
  | setting (cause : SettingError)
  /-- A configuration is no document of the expected form. -/
  | yaml
  /-- A text is no report. -/
  | json
  deriving DecidableEq, Repr

namespace Failure

/-- The message for a failure. -/
def message : Failure → String
  | file cause => "I/O error: " ++ cause.message
  | toolUnavailable family => family.toolName ++ " is not installed"
  | commandFailed command status stderr =>
    "command '" ++ command ++ "' exited with " ++ status.text ++ ": " ++ stderr
  | commandTimeout command timeout =>
    "command '" ++ command ++ "' timed out after " ++ timeout.text
  | unreadableOutput family fault =>
    "unparseable " ++ family.toolName ++ " output: " ++ fault.message
  | controllerNotFound family address =>
    family.name ++ " controller not found for " ++ address.text
  | malformedTopology path fault => "malformed topology at " ++ path ++ ": " ++ fault.message
  | setting cause => "Configuration error: " ++ cause.message
  | yaml => "YAML error"
  | json => "JSON error"

end Failure

end StorageInventory
