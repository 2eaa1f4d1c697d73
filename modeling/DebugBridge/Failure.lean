/-!
# Failures

Two kinds of failure. An `IoFailure` is what one call to the network or to the local file system
reports: a kind and a text. A `Failure` is what an operation of this library reports; it names the
cause, and `Failure.message` gives its wording.
-/

namespace DebugBridge

/-- The kinds of failure that the network and the file system tell apart. -/
inductive IoKind where
  | notFound | permissionDenied | connectionRefused | connectionReset | hostUnreachable
  | networkUnreachable | connectionAborted | notConnected | addrInUse | addrNotAvailable
  | networkDown | brokenPipe | alreadyExists | wouldBlock | notADirectory | isADirectory
  | directoryNotEmpty | readOnlyFilesystem | filesystemLoop | staleNetworkFileHandle
  | invalidInput | invalidData | timedOut | writeZero | storageFull | notSeekable
  | quotaExceeded | fileTooLarge | resourceBusy | executableFileBusy | deadlock
  | crossesDevices | tooManyLinks | invalidFilename | argumentListTooLong | interrupted
  | unsupported | unexpectedEof | outOfMemory | inProgress | other | uncategorized
  deriving DecidableEq, Repr, Inhabited

namespace IoKind

/-- All kinds. -/
def all : List IoKind :=
  [.notFound, .permissionDenied, .connectionRefused, .connectionReset, .hostUnreachable,
    .networkUnreachable, .connectionAborted, .notConnected, .addrInUse, .addrNotAvailable,
    .networkDown, .brokenPipe, .alreadyExists, .wouldBlock, .notADirectory, .isADirectory,
    .directoryNotEmpty, .readOnlyFilesystem, .filesystemLoop, .staleNetworkFileHandle,
    .invalidInput, .invalidData, .timedOut, .writeZero, .storageFull, .notSeekable,
    .quotaExceeded, .fileTooLarge, .resourceBusy, .executableFileBusy, .deadlock,
    .crossesDevices, .tooManyLinks, .invalidFilename, .argumentListTooLong, .interrupted,
    .unsupported, .unexpectedEof, .outOfMemory, .inProgress, .other, .uncategorized]

/-- The name of a kind. -/
def name : IoKind → String
  | .notFound => "NotFound"
  | .permissionDenied => "PermissionDenied"
  | .connectionRefused => "ConnectionRefused"
  | .connectionReset => "ConnectionReset"
  | .hostUnreachable => "HostUnreachable"
  | .networkUnreachable => "NetworkUnreachable"
  | .connectionAborted => "ConnectionAborted"
  | .notConnected => "NotConnected"
  | .addrInUse => "AddrInUse"
  | .addrNotAvailable => "AddrNotAvailable"
  | .networkDown => "NetworkDown"
  | .brokenPipe => "BrokenPipe"
  | .alreadyExists => "AlreadyExists"
  | .wouldBlock => "WouldBlock"
  | .notADirectory => "NotADirectory"
  | .isADirectory => "IsADirectory"
  | .directoryNotEmpty => "DirectoryNotEmpty"
  | .readOnlyFilesystem => "ReadOnlyFilesystem"
  | .filesystemLoop => "FilesystemLoop"
  | .staleNetworkFileHandle => "StaleNetworkFileHandle"
  | .invalidInput => "InvalidInput"
  | .invalidData => "InvalidData"
  | .timedOut => "TimedOut"
  | .writeZero => "WriteZero"
  | .storageFull => "StorageFull"
  | .notSeekable => "NotSeekable"
  | .quotaExceeded => "QuotaExceeded"
  | .fileTooLarge => "FileTooLarge"
  | .resourceBusy => "ResourceBusy"
  | .executableFileBusy => "ExecutableFileBusy"
  | .deadlock => "Deadlock"
  | .crossesDevices => "CrossesDevices"
  | .tooManyLinks => "TooManyLinks"
  | .invalidFilename => "InvalidFilename"
  | .argumentListTooLong => "ArgumentListTooLong"
  | .interrupted => "Interrupted"
  | .unsupported => "Unsupported"
  | .unexpectedEof => "UnexpectedEof"
  | .outOfMemory => "OutOfMemory"
  | .inProgress => "InProgress"
  | .other => "Other"
  | .uncategorized => "Uncategorized"

/-- The kind of a name. -/
def ofName? (name : String) : Option IoKind := all.find? (·.name = name)

end IoKind

/-- Failure of one call to the network or the file system. -/
structure IoFailure where
  kind : IoKind
  message : String
  deriving DecidableEq, Repr, Inhabited

namespace IoFailure

/-- A failure of the operating system with its number. -/
def ofSystem (kind : IoKind) (text : String) (number : Nat) : IoFailure :=
  ⟨kind, s!"{text} (os error {number})"⟩

/-- Whether the call ran into its deadline. -/
def isDeadline (e : IoFailure) : Bool := e.kind = .timedOut || e.kind = .wouldBlock

/-- Whether the call is to be made again. -/
def isInterrupted (e : IoFailure) : Bool := e.kind = .interrupted

end IoFailure

/-- Failure of an operation of this library. -/
inductive Failure where
  /-- A connection could not be opened, or a read or write on it failed. -/
  | connection (cause : IoFailure)
  /-- The remote refused, or sent something malformed. -/
  | malformed (text : String)
  /-- The remote knows no device of this serial. -/
  | deviceNotFound (serial : String)
  /-- A blocking call ran into its deadline. -/
  | deadline
  /-- A sync chunk announces more bytes than allowed. -/
  | bufferOverrun (size max : Nat)
  /-- A remote path is longer than allowed. -/
  | remotePathTooLong (length max : Nat)
  /-- The caller cancelled the operation. -/
  | cancelled
  /-- A request does not fit its length field. -/
  | requestTooLong (size : Nat)
  /-- A text is no forward spec. -/
  | invalidForwardSpec (text : String)
  /-- The sync session is closed. -/
  | sessionClosed
  /-- The shell does not know the program. -/
  | commandNotFound (program : String)
  /-- A file does not exist. -/
  | fileNotFound (text : String)
  /-- A program was given an option that it does not know. -/
  | unknownOption (text : String)
  /-- A command gave up. -/
  | commandAborting (text : String)
  /-- A command was refused access. -/
  | permissionDenied (text : String)
  /-- Starting or stopping the local server failed. -/
  | server (text : String)
  /-- The configuration is unusable. -/
  | config (text : String)
  /-- No device is online. -/
  | noDevicesFound
  /-- More than one device fits. -/
  | deviceIdRequired
  /-- A JSON text is malformed. -/
  | json (text : String)
  /-- A local file operation failed. -/
  | localFile (cause : IoFailure)
  deriving DecidableEq, Repr, Inhabited

namespace Failure

/-- The failure of a call on a connection: running into a deadline is a cause of its own. -/
def ofConnection (e : IoFailure) : Failure :=
  if e.isDeadline then .deadline else .connection e

/-- Whether a new connection may succeed where this one failed. -/
def isRetryable : Failure → Bool
  | .connection _ | .deadline => true
  | _ => false

/-- The connection ended in the middle of something. -/
def connectionClosed (during : String) : Failure :=
  .connection ⟨.unexpectedEof, "connection closed while " ++ during⟩

/-- The wording of a failure. -/
def message : Failure → String
  | .connection e => "ADB connection error: " ++ e.message
  | .malformed text => "ADB protocol error: " ++ text
  | .deviceNotFound serial => "No device found matching serial: " ++ serial
  | .deadline => "Operation timed out"
  | .bufferOverrun size max => s!"Sync chunk of {size} bytes exceeds the maximum of {max} bytes"
  | .remotePathTooLong length max => s!"Remote path is {length} bytes long (max: {max})"
  | .cancelled => "Operation cancelled"
  | .requestTooLong size => s!"Request of {size} bytes does not fit the 4 digit length field"
  | .invalidForwardSpec text => "Invalid forward spec: " ++ text
  | .sessionClosed => "Sync session is closed"
  | .commandNotFound program => "Command not found: " ++ program
  | .fileNotFound text => "No such file or directory: " ++ text
  | .unknownOption text => "Unknown option: " ++ text
  | .commandAborting text => "Command aborted: " ++ text
  | .permissionDenied text => "Permission denied: " ++ text
  | .server text => "ADB server error: " ++ text
  | .config text => "Configuration error: " ++ text
  | .noDevicesFound => "No devices found"
  | .deviceIdRequired => "Multiple devices connected; pick one with --serial"
  | .json text => "JSON error: " ++ text
  | .localFile e => "Local I/O error: " ++ e.message

end Failure

end DebugBridge
