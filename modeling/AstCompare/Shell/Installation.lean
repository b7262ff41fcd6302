import AstCompare.Shell.Programs

/-!
# The disk of a system

What stands on the disk of a system that nobody has used yet: directories, devices, links, texts
about the system, and a file for each program. All of it belongs to somebody else, and only few
directories may be written by everybody.

## Main definitions

* `bareSystem`: the disk.
* `systemWithHome`: the disk with a directory of one's own.
-/

namespace AstCompare.Shell

/-- The directories of the system that only its owner may change. -/
def systemDirectories : List Location :=
  [["boot"], ["dev"], ["dev", "fd"], ["dev", "pts"], ["etc"], ["etc", "alternatives"],
    ["etc", "apt"], ["etc", "default"], ["etc", "init.d"], ["etc", "opt"], ["etc", "profile.d"],
    ["etc", "skel"], ["home"], ["media"], ["mnt"], ["opt"], ["run"], ["srv"], ["usr"],
    ["usr", "bin"], ["usr", "games"], ["usr", "include"], ["usr", "lib"], ["usr", "lib64"],
    ["usr", "libexec"], ["usr", "local"], ["usr", "local", "bin"], ["usr", "local", "etc"],
    ["usr", "local", "include"], ["usr", "local", "lib"], ["usr", "local", "sbin"],
    ["usr", "local", "share"], ["usr", "local", "src"], ["usr", "sbin"], ["usr", "share"],
    ["usr", "share", "doc"], ["usr", "share", "info"], ["usr", "share", "man"],
    ["usr", "share", "misc"], ["usr", "share", "zoneinfo"], ["usr", "src"], ["var"],
    ["var", "backups"], ["var", "cache"], ["var", "lib"], ["var", "local"], ["var", "log"],
    ["var", "mail"], ["var", "opt"], ["var", "spool"]]

/-- The directories in which nothing can be made. -/
def frozenDirectories : List Location :=
  [["proc"], ["proc", "self"], ["proc", "self", "fd"], ["proc", "self", "task"], ["proc", "sys"],
    ["proc", "sys", "kernel"], ["proc", "net"], ["sys"], ["sys", "kernel"]]

/-- The directories in which everybody may make something. -/
def sharedDirectories : List Location :=
  [["tmp"], ["var", "tmp"], ["dev", "shm"]]

/-- The links of the system. -/
def systemLinks : List (Location × LinkTarget) :=
  [(["bin"], .path "usr/bin"), (["sbin"], .path "usr/sbin"), (["lib"], .path "usr/lib"),
    (["lib64"], .path "usr/lib64"), (["etc", "os-release"], .path "../usr/lib/os-release"),
    (["etc", "mtab"], .path "/proc/mounts"), (["proc", "self", "cwd"], .workingDirectory),
    (["proc", "self", "root"], .path "/"), (["proc", "thread-self"], .path "self"),
    (["var", "run"], .path "/run"), (["var", "lock"], .path "/run/lock")]

/-- The devices of the system. Without a process there is nothing behind the standard streams. -/
def systemDevices : List (Location × Device) :=
  [(["dev", "null"], .null), (["dev", "zero"], .zero), (["dev", "full"], .full),
    (["dev", "random"], .zero), (["dev", "urandom"], .zero), (["dev", "tty"], .absent)] ++
    ([["dev", "stdin"], ["dev", "stdout"], ["dev", "stderr"], ["dev", "fd", "0"],
      ["dev", "fd", "1"],
      ["dev", "fd", "2"], ["proc", "self", "fd", "0"], ["proc", "self", "fd", "1"],
      ["proc", "self", "fd", "2"]].map (·, .null))

/-- The texts about the system that everybody may read. -/
def systemTexts : List (Location × String) :=
  [(["etc", "passwd"],
    "root:x:0:0:root:/root:/bin/bash\n" ++
      "nobody:x:65534:65534:nobody:/nonexistent:/usr/sbin/nologin\n"),
    (["etc", "group"], "root:x:0:\nnogroup:x:65534:\n"), (["etc", "hostname"], "localhost\n"),
    (["etc", "hosts"], "127.0.0.1\tlocalhost\n"), (["etc", "resolv.conf"], ""),
    (["etc", "fstab"], ""), (["etc", "shells"], "/bin/sh\n/bin/bash\n"),
    (["etc", "debian_version"], "12.0\n"), (["etc", "issue"], "\n"), (["etc", "profile"], ""),
    (["etc", "bash.bashrc"], ""), (["etc", "environment"], ""), (["etc", "ld.so.conf"], ""),
    (["etc", "login.defs"], ""), (["etc", "nsswitch.conf"], ""), (["etc", "host.conf"], ""),
    (["etc", "networks"], ""), (["etc", "services"], ""), (["etc", "protocols"], ""),
    (["etc", "machine-id"], ""), (["usr", "lib", "os-release"], "ID=linux\n"),
    (["proc", "version"], "Linux version 6.0.0\n"), (["proc", "cpuinfo"], "processor\t: 0\n"),
    (["proc", "meminfo"], "MemTotal: 1048576 kB\n"), (["proc", "uptime"], "100.00 100.00\n"),
    (["proc", "loadavg"], "0.00 0.00 0.00 1/1 1\n"), (["proc", "stat"], "cpu 0 0 0 0\n"),
    (["proc", "mounts"], "none / none rw 0 0\n"), (["proc", "filesystems"], "nodev\tproc\n"),
    (["proc", "cmdline"], "\n"), (["proc", "devices"], ""), (["proc", "partitions"], ""),
    (["proc", "self", "status"], "Name:\tprogram\n"),
    (["proc", "self", "stat"], "1 (program) R 0\n"), (["proc", "self", "cmdline"], ""),
    (["proc", "self", "comm"], "program\n"), (["proc", "self", "environ"], ""),
    (["proc", "self", "maps"], ""), (["proc", "self", "mounts"], "none / none rw 0 0\n"),
    (["proc", "self", "limits"], ""), (["proc", "self", "io"], ""),
    (["proc", "self", "statm"], "0 0 0 0 0 0 0\n"),
    (["proc", "sys", "kernel", "hostname"], "localhost\n"),
    (["proc", "sys", "kernel", "ostype"], "Linux\n")]

/-- What nobody but the owner of the system may see. -/
def hiddenEntries : List (Location × Entry) :=
  [(["root"], .directory { mode := 0o700, own := false }),
    (["etc", "shadow"], .file 0 .empty { mode := 0o640, own := false }),
    (["etc", "gshadow"], .file 0 .empty { mode := 0o640, own := false })]

/-- Files get numbers of their own, from the end on. -/
def numberedEntries (entries : List (Location × Entry)) : List (Location × Entry) :=
  entries.zipIdx.map fun ((l, e), i) => (l, match e with
    | .file _ c a => .file i c a
    | e => e)

/-- All entries of the system. -/
def systemEntries : List (Location × Entry) :=
  numberedEntries
    (systemDirectories.map (·, .directory { own := false }) ++
    frozenDirectories.map (·, .directory { mode := 0o555, own := false }) ++
    sharedDirectories.map (·, .directory { mode := 0o1777, own := false }) ++
    systemLinks.map (fun (l, t) => (l, .link t)) ++
    systemDevices.map (fun (l, d) => (l, .device d)) ++
    systemTexts.map (fun (l, s) => (l, .file 0 (.ofText s) { mode := 0o644, own := false })) ++
    hiddenEntries ++
    programNames.map fun name => (["usr", "bin", name], .file 0 (.program name) { own := false }))

/-- The disk of a system that nobody has used yet, with the root as its working directory. -/
def bareSystem : Disk :=
  { entries := systemEntries, cwd := [], nextId := systemEntries.length }

/-- The system with a directory of one's own, which is the working directory. -/
def systemWithHome (l : Location) : Disk :=
  { bareSystem with cwd := l }.set l (.directory {})

end AstCompare.Shell
