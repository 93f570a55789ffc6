/-!
What a run finds outside of its directory: devices, links and folders that are the same for every
run, each by the steps that lead to it from the root.
-/

namespace ClusterAdvisor

inductive Device where
  /-- Empty, and swallows what is written into it. -/
  | null
  /-- Never ends, and swallows what is written into it. -/
  | endless
  /-- Never ends, and has no room. -/
  | full
  /-- The standard input of a run, which is empty. -/
  | input
  /-- The standard output of a run, which cannot be read. -/
  | output
  /-- The standard error of a run, which cannot be read. -/
  | errors
  /-- A text about the system. It differs from system to system, but it never starts like a
  document. -/
  | report
  deriving DecidableEq, Repr

namespace Device

/-- The content of a device that ends; of a report only the start counts. -/
def content? : Device → Option ByteArray
  | null | input => some ByteArray.empty
  | report => some "#".toUTF8
  | endless | full | output | errors => none

def isWritable : Device → Bool
  | full | report => false
  | _ => true

end Device

namespace Surroundings

/-- The folder of a thread, by a name that no path has. -/
def threadFolder : List String := ["proc", "self", "task", ""]

def ownFolders : List (List String) := [["proc", "self"], threadFolder]

def inOwnFolders {α : Type} (places : List (List String × α)) : List (List String × α) :=
  ownFolders.flatMap fun folder => places.map fun (steps, place) => (folder ++ steps, place)

def devices : List (List String × Device) :=
  [(["dev", "null"], .null), (["dev", "zero"], .endless), (["dev", "random"], .endless),
    (["dev", "urandom"], .endless), (["dev", "full"], .full), (["etc", "passwd"], .report),
    (["etc", "group"], .report), (["proc", "version"], .report), (["proc", "cpuinfo"], .report),
    (["proc", "meminfo"], .report), (["proc", "stat"], .report)] ++
  inOwnFolders [(["fd", "0"], .input), (["fd", "1"], .output), (["fd", "2"], .errors),
    (["status"], .report), (["comm"], .report), (["limits"], .report), (["cmdline"], .report),
    (["environ"], .report)]

/-- The links, for a run in the directory at a location. -/
def links (location : List String) : List (List String × List String) :=
  [(["dev", "fd"], ["proc", "self", "fd"]), (["dev", "stdin"], ["proc", "self", "fd", "0"]),
    (["dev", "stdout"], ["proc", "self", "fd", "1"]),
    (["dev", "stderr"], ["proc", "self", "fd", "2"]), (["proc", "thread-self"], threadFolder),
    (["bin"], ["usr", "bin"]), (["sbin"], ["usr", "sbin"]), (["lib"], ["usr", "lib"]),
    (["var", "run"], ["run"])] ++
  inOwnFolders [(["cwd"], location), (["root"], [])]

/-- Folders that are always there, besides those on the way to devices. -/
def folders : List (List String) :=
  [["boot"], ["dev", "pts"], ["dev", "shm"], ["etc"], ["home"], ["media"], ["mnt"], ["opt"],
    ["root"], ["run"], ["srv"], ["sys"], ["tmp"], ["usr", "bin"], ["usr", "lib"], ["usr", "local"],
    ["usr", "sbin"], ["usr", "share"], ["var", "lib"], ["var", "log"], ["var", "tmp"]]

def isFolder (steps : List String) : Bool :=
  folders.any (steps.isPrefixOf ·) ||
    devices.any fun (device, _) => steps.isPrefixOf device && steps ≠ device

end Surroundings

end ClusterAdvisor
