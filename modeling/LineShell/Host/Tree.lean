import LineShell.Files.Access

/-!
The tree of files that programs expect to find: the usual directories, and the utilities among
them.
-/
namespace LineShell.Host

/-- Directories, each after the one it lies in. -/
def directories : List String :=
  ["boot", "dev", "etc", "home", "media", "mnt", "opt", "proc", "root", "run", "srv", "sys", "tmp",
    "usr", "usr/bin", "usr/games", "usr/include", "usr/lib", "usr/lib64", "usr/libexec",
    "usr/local",
    "usr/local/bin", "usr/local/etc", "usr/local/games", "usr/local/include", "usr/local/lib",
    "usr/local/sbin", "usr/local/share", "usr/local/src", "usr/sbin", "usr/share", "usr/src", "var",
    "var/backups", "var/cache", "var/lib", "var/local", "var/log", "var/mail", "var/opt",
    "var/spool", "var/tmp", "dev/shm", "dev/pts"]

/-- Links and their targets. -/
def links : List (String × String) :=
  [("bin", "usr/bin"), ("sbin", "usr/sbin"), ("lib", "usr/lib"), ("lib64", "usr/lib64"),
    ("var/run", "/run"), ("var/lock", "/run/lock"), ("usr/bin/sh", "dash")]

/-- The names of the utilities. -/
def utilities : List String :=
  ["[", "basename", "cat", "chmod", "cp", "dash", "dirname", "echo", "env", "false", "head", "id",
    "ln", "ls", "mkdir", "mv", "printenv", "printf", "pwd", "readlink", "rm", "rmdir", "seq",
    "sleep", "tail", "tee", "test", "touch", "true", "tty", "wc", "whoami"]

/-- The whole tree. -/
def tree : Files :=
  let files := directories.foldl (fun files path =>
    files.plant Files.root (Bytes.ofString path) fun parent => .directory parent []) Files.bare
  let files := links.foldl (fun files (path, target) =>
    files.plant Files.root (Bytes.ofString path) fun _ => .link (Bytes.ofString target)) files
  let files := utilities.foldl (fun files name =>
    files.plant Files.root (Bytes.ofString ("usr/bin/" ++ name)) fun _ => .program name) files
  files.plant Files.root (Bytes.ofString "dev/null") fun _ => .sink

end LineShell.Host
