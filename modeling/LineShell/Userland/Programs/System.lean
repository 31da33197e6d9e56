import LineShell.Userland.Programs.Image
/-!
    The files that every machine has: the built programs, the devices, and directories for temporary
    files. Nobody but the system itself may put anything into its other directories. -/

namespace LineShell

/-- The permission bits of a program's file. -/
def programMode : Nat := 0o755

/-- Where the built programs are. -/
def programPlace : Place := ["usr", "bin"]

/-- The permission bits of the system's own directories. -/
def systemMode : Nat := 0o555

/-- The permission bits of the directories that everybody may use. -/
def sharedMode : Nat := 0o1777

/-- The directories of a machine that are the system's own. -/
def systemDirectories : List Place :=
  [[], ["usr"], programPlace, ["usr", "games"], ["usr", "include"], ["usr", "lib"], ["usr", "local"],
    ["usr", "local", "bin"], ["usr", "local", "sbin"], ["usr", "sbin"], ["usr", "share"],
    ["usr", "src"], ["dev"], ["etc"], ["home"], ["media"], ["mnt"], ["opt"], ["proc"], ["run"],
    ["srv"], ["sys"], ["var"], ["var", "backups"], ["var", "cache"], ["var", "lib"],
    ["var", "local"], ["var", "log"], ["var", "mail"], ["var", "opt"], ["var", "spool"]]

/-- The directories of a machine that everybody may use. -/
def sharedDirectories : List Place := [["tmp"], ["var", "tmp"]]

/-- The devices of a machine, and other ways to some directories. -/
def systemNodes : List (Place × Node) :=
  [(["bin"], .link "usr/bin"), (["sbin"], .link "usr/sbin"), (["lib"], .link "usr/lib"),
    (["dev", "null"], .device .null), (["dev", "full"], .device .full)]

/-- The files of the built programs. -/
def programNodes : List (Place × Node) :=
  builtPrograms.map fun e => (programPlace ++ [e.1], .file programMode (builtContent e.1))

/-- The tree of a machine that nothing has been added to. -/
def systemTree : FileTree :=
  let directories := systemDirectories.map (·, Node.directory systemMode)
    ++ sharedDirectories.map (·, Node.directory sharedMode)
  (directories ++ systemNodes ++ programNodes).foldl (fun t e => t.put e.1 e.2) .empty

end LineShell
