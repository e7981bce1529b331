import LintDispatch.FileSystem

/-!
# The files of a host
The directories, devices and files that are there before anybody has made one.
-/

namespace LintDispatch.FileSystem

/-- The directories that every host has, those above before those below. -/
def standardDirs : List String :=
  ["/bin", "/boot", "/dev", "/dev/fd", "/dev/pts", "/dev/shm", "/etc", "/home", "/lib", "/lib64",
   "/media", "/mnt", "/opt", "/proc", "/proc/self", "/proc/self/fd", "/root", "/run", "/sbin",
   "/srv", "/sys", "/tmp", "/usr", "/usr/bin", "/usr/games", "/usr/include", "/usr/lib",
   "/usr/local", "/usr/local/bin", "/usr/local/lib", "/usr/local/sbin", "/usr/sbin", "/usr/share",
   "/usr/src", "/var", "/var/lib", "/var/log", "/var/tmp"]

/-- The devices that every host has. -/
def standardDevices : List (String × Device) :=
  [("/dev/full", .full), ("/dev/null", .null), ("/dev/random", .zero), ("/dev/tty", .terminal),
   ("/dev/urandom", .zero), ("/dev/zero", .zero)]

/-- The files that every host has. -/
def standardFiles : List (String × String) :=
  [("/etc/passwd", "root:x:0:0:root:/root:/bin/bash\n"), ("/etc/group", "root:x:0:\n")]

/-- The place of a path from the root without dots. -/
def placeOf (path : String) : Place :=
  (Bytes.splitOn Path.slash (Bytes.ofString path)).filter fun n => !n.isEmpty

/-- The directories that hold all programs. -/
def programDirs : List String := ["/bin/", "/usr/bin/"]

/-- The paths of the files of programs, with their contents. -/
def programFiles (programs : List (String × Bytes)) : List (Place × Bytes) :=
  programDirs.flatMap fun dir => programs.map fun p => (placeOf (dir ++ p.1), p.2)

/-- The file system of a host on which nothing has happened yet, with the files of some programs. -/
def standard (programs : List (String × Bytes)) : FileSystem where
  entries :=
    (standardFiles.map fun f => (placeOf f.1, .file (Bytes.ofString f.2))) ++
    (standardDevices.map fun d => (placeOf d.1, .device d.2)) ++
    (standardDirs.map fun d => (placeOf d, .dir)) ++
    ((programFiles programs).map fun p => (p.1, .file p.2))
  runnable := (programFiles programs).map (·.1)

end LintDispatch.FileSystem
