import DebugBridge.Bytes

/-!
# File status

What a device says about a file: its mode, its size and the second of its last change. The mode
holds the kind of file in its high bits and the permissions in its low bits.
-/

namespace DebugBridge

/-- The kinds of file. -/
inductive FileKind where
  | socket | symlink | regular | blockDevice | charDevice | directory | fifo | unknown
  deriving DecidableEq, Repr, Inhabited

namespace FileKind

/-- The name of a kind in structured output. -/
def name : FileKind → String
  | .socket => "socket"
  | .symlink => "symlink"
  | .regular => "regular"
  | .blockDevice => "blockdevice"
  | .charDevice => "chardevice"
  | .directory => "directory"
  | .fifo => "fifo"
  | .unknown => "unknown"

/-- The letter of a kind in front of the permissions. -/
def letter : FileKind → Char
  | .socket => 's'
  | .symlink => 'l'
  | .regular => '-'
  | .blockDevice => 'b'
  | .charDevice => 'c'
  | .directory => 'd'
  | .fifo => 'p'
  | .unknown => '?'

end FileKind

/-- The status of a file on a device. -/
structure FileStat where
  mode : UInt32 := 0
  size : UInt32 := 0
  mtime : UInt32 := 0
  deriving DecidableEq, Repr, Inhabited

namespace FileStat

/-- The status in twelve bytes. -/
def ofBytes (bytes : Bytes) : FileStat :=
  ⟨Bytes.frontWord bytes, Bytes.frontWord (bytes.drop 4), Bytes.frontWord (bytes.drop 8)⟩

/-- The twelve bytes of a status. -/
def bytes (s : FileStat) : Bytes :=
  Bytes.ofWord s.mode ++ Bytes.ofWord s.size ++ Bytes.ofWord s.mtime

/-- Reading the bytes of a status gives the status, whatever comes behind them. -/
theorem ofBytes_bytes_append (s : FileStat) (rest : Bytes) : ofBytes (s.bytes ++ rest) = s := by
  have h : ofBytes (s.bytes ++ rest) =
      ⟨Bytes.frontWord (Bytes.ofWord s.mode), Bytes.frontWord (Bytes.ofWord s.size),
        Bytes.frontWord (Bytes.ofWord s.mtime)⟩ := rfl
  rw [h, Bytes.frontWord_ofWord, Bytes.frontWord_ofWord, Bytes.frontWord_ofWord]

/-- Twelve bytes are those of their status. -/
theorem bytes_ofBytes {bytes : Bytes} (h : bytes.length = 12) : (ofBytes bytes).bytes = bytes := by
  match bytes, h with
  | [a, b, c, d, e, f, g, i, j, k, l, m], _ =>
    have h1 := @Bytes.ofWord_frontWord [a, b, c, d] rfl
    have h2 := @Bytes.ofWord_frontWord [e, f, g, i] rfl
    have h3 := @Bytes.ofWord_frontWord [j, k, l, m] rfl
    show Bytes.ofWord (Bytes.frontWord [a, b, c, d]) ++
      Bytes.ofWord (Bytes.frontWord [e, f, g, i]) ++
      Bytes.ofWord (Bytes.frontWord [j, k, l, m]) = _
    rw [h1, h2, h3]
    rfl

/-- The bits of a mode that hold the kind. -/
def kindBits (s : FileStat) : UInt32 := s.mode &&& 0o170000

/-- The kind of file. -/
def kind (s : FileStat) : FileKind :=
  match s.kindBits.toNat with
  | 0o140000 => .socket
  | 0o120000 => .symlink
  | 0o100000 => .regular
  | 0o060000 => .blockDevice
  | 0o040000 => .directory
  | 0o020000 => .charDevice
  | 0o010000 => .fifo
  | _ => .unknown

/-- Whether there is a file: a missing one is answered with zeros. -/
def isPresent (s : FileStat) : Bool := !(s.kindBits = 0 && s.size = 0 && s.mtime = 0)

/-- Whether it is a directory. -/
def isDirectory (s : FileStat) : Bool := s.kind = .directory

/-- Whether it is a regular file. -/
def isRegular (s : FileStat) : Bool := s.kind = .regular

/-- The permission bits. -/
def permissions (s : FileStat) : UInt32 := s.mode &&& 0o7777

/-- Whether the mode has a bit. -/
def has (s : FileStat) (bit : UInt32) : Bool := s.mode &&& bit != 0

/-- The letter for the right to execute: a special bit changes it, and is a capital where the
right is missing. -/
def executeLetter (execute special : Bool) (small capital : Char) : Char :=
  match execute, special with
  | false, false => '-'
  | true, false => 'x'
  | false, true => capital
  | true, true => small

/-- The kind and the permissions in ten letters. -/
def permissionText (s : FileStat) : String :=
  let flag (bit : UInt32) (letter : Char) := if s.has bit then letter else '-'
  String.ofList
    [s.kind.letter,
      flag 0o400 'r', flag 0o200 'w', executeLetter (s.has 0o100) (s.has 0o4000) 's' 'S',
      flag 0o040 'r', flag 0o020 'w', executeLetter (s.has 0o010) (s.has 0o2000) 's' 'S',
      flag 0o004 'r', flag 0o002 'w', executeLetter (s.has 0o001) (s.has 0o1000) 't' 'T']

end FileStat

/-- A file in a directory of a device. -/
structure FileEntry where
  name : String
  stat : FileStat
  deriving DecidableEq, Repr, Inhabited

end DebugBridge
