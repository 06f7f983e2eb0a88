import BenchSuite.Command.Perform
import BenchSuite.Files.Tree
/-!
# Machines

A machine as a value: its files, its clocks, and what programs have written.  What a command does on it
is a function of what it held before, so runs can be compared and reasoned about.
-/
namespace BenchSuite

/-- What a machine holds. -/
structure Machine where
  files : FileTree
  /-- The directory that programs work in. -/
  dir : Place
  /-- Each reading of the clock, in nanoseconds. -/
  reading : Nat → Nat
  /-- How often the clock has been read. -/
  reads : Nat
  /-- The time of day at which programs start. -/
  time : Timestamp
  info : SystemInfo
  /-- Lines written to the output. -/
  output : List String
  /-- The log, latest record first. -/
  records : List LogRecord

/-- Something done on a machine, unless a fault ends it. -/
abbrev MachineM := StateT Machine Checked

namespace Machine

/-- A machine on which nothing has been written. -/
def fresh (files : FileTree) (dir : Place) (reading : Nat → Nat) (time : Timestamp)
    (info : SystemInfo) : Machine :=
  ⟨files, dir, reading, 0, time, info, [], []⟩

/-- A step that asks the files. -/
def ask (f : FileTree → Place → α) : MachineM α := do
  let machine ← get
  return f machine.files machine.dir

/-- A step that may change the files; a refused one leaves them as they are. -/
def change (f : FileTree → Place → Except FileError FileTree) : MachineM (Except FileError Unit) := do
  let machine ← get
  match f machine.files machine.dir with
  | .ok files =>
    set { machine with files }
    return .ok ()
  | .error e => return .error e

/-- **The file system of a machine.** -/
def fileSystem : FileSystem MachineM where
  has path := ask fun t dir => t.has dir path
  hasDirectory path := ask fun t dir => t.hasDirectory dir path
  read path := ask fun t dir => t.read dir path
  write path text := change fun t dir => t.write dir path text.toUTF8
  makeDirectory path := change fun t dir => t.makeDirectory dir path
  names path := ask fun t dir => t.names dir path

/-- Reads the clock. -/
def readClock : MachineM Nat :=
  modifyGet fun s => (s.reading s.reads, { s with reads := s.reads + 1 })

/-- **A machine as the host of a command.** -/
def host : Host MachineM Nat where
  files := fileSystem
  clock := .monotonic readClock
  now := return (← get).time
  systemInfo := return (← get).info
  print line := modify fun s => { s with output := s.output ++ [line] }
  log record := modify fun s => { s with records := record :: s.records }
  abort fault := throw fault

/-- **Does on a machine what a command line asks for.** -/
def execute (args : List String) (machine : Machine) : Checked (Ending × Machine) :=
  (host.execute args).run machine

end Machine
end BenchSuite
