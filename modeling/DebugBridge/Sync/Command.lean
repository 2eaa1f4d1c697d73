import DebugBridge.Text.Utf8

/-!
# Sync commands

A sync session speaks in blocks: each starts with the four letters of a command and goes on with
words of 32 bits.
-/

namespace DebugBridge

/-- The commands of a sync session. -/
inductive SyncCommand where
  | stat | list | entry | send | receive | data | done | okay | fail | quit
  deriving DecidableEq, Repr, Inhabited

namespace SyncCommand

/-- All commands. -/
def all : List SyncCommand :=
  [.stat, .list, .entry, .send, .receive, .data, .done, .okay, .fail, .quit]

/-- The letters of a command. -/
def letters : SyncCommand → String
  | .stat => "STAT"
  | .list => "LIST"
  | .entry => "DENT"
  | .send => "SEND"
  | .receive => "RECV"
  | .data => "DATA"
  | .done => "DONE"
  | .okay => "OKAY"
  | .fail => "FAIL"
  | .quit => "QUIT"

/-- The four bytes of a command. -/
def id (command : SyncCommand) : Bytes := Utf8.ofString command.letters

/-- The command of four bytes. -/
def ofId? (id : Bytes) : Option SyncCommand := all.find? (·.id = id)

@[simp] theorem length_id (command : SyncCommand) : command.id.length = 4 := by
  cases command <;> rfl

@[simp] theorem ofId?_id (command : SyncCommand) : ofId? command.id = some command := by
  cases command <;> decide

theorem id_of_ofId? {bytes : Bytes} {command : SyncCommand} (h : ofId? bytes = some command) :
    command.id = bytes := by
  simpa using List.find?_some h

/-- A block of a command and one word. -/
def word (command : SyncCommand) (value : UInt32) : Bytes := command.id ++ Bytes.ofWord value

/-- A block of a command, a length and that many bytes. -/
def block (command : SyncCommand) (payload : Bytes) : Bytes :=
  command.word (UInt32.ofNat payload.length) ++ payload

end SyncCommand

end DebugBridge
