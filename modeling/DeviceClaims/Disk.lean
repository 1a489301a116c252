import DeviceClaims.Instances

namespace DeviceClaims

/-- What stands at a place of a disk. A link stands for the path that it holds. -/
inductive DiskEntry
  | directory
  /-- A directory that shows what a machine does: nothing can be made in it. -/
  | view
  | link (target : String)
  | text (content : String)
  /-- A file that is not text. -/
  | bytes
  /-- A file that stays empty whatever is written to it. -/
  | sink
  deriving DecidableEq, Inhabited

def DiskEntry.isDirectory : DiskEntry → Bool
  | directory | view => true
  | _ => false

/-- The files of a machine as far as they matter, by the names that lead to them from the root. A path
is a list of names with slashes between them; it begins at the root if it begins with a slash and else
at home. -/
structure Disk where
  entries : List (List String × DiskEntry)
  /-- Where relative paths begin. -/
  home : List String
  deriving DecidableEq, Inhabited

/-- Why a file cannot be read. -/
inductive FileFault
  | missing
  | notDirectory
  | isDirectory
  | nameTooLong
  | tooManyLinks
  | notText
  deriving DecidableEq, Repr

def FileFault.message : FileFault → String
  | missing => "No such file or directory (os error 2)"
  | notDirectory => "Not a directory (os error 20)"
  | isDirectory => "Is a directory (os error 21)"
  | nameTooLong => "File name too long (os error 36)"
  | tooManyLinks => "Too many levels of symbolic links (os error 40)"
  | notText => "stream did not contain valid UTF-8"

namespace Disk

def names (path : String) : List String := path.splitOn "/"

/-- The directories of a usual machine below its root. -/
def usualDirectories : List String :=
  ["boot", "dev", "dev/mqueue", "dev/pts", "dev/shm", "etc", "etc/alternatives", "etc/apt",
    "etc/cron.d", "etc/cron.daily", "etc/default", "etc/dpkg", "etc/init.d", "etc/kernel",
    "etc/ld.so.conf.d", "etc/logrotate.d", "etc/opt", "etc/pam.d", "etc/profile.d", "etc/security",
    "etc/skel", "etc/ssl", "etc/systemd", "etc/terminfo", "home", "media", "mnt", "opt", "root",
    "run", "run/lock", "srv", "tmp", "usr", "usr/bin", "usr/games", "usr/include", "usr/lib",
    "usr/lib64", "usr/libexec", "usr/local", "usr/local/bin", "usr/local/etc", "usr/local/games",
    "usr/local/include", "usr/local/lib", "usr/local/sbin", "usr/local/share", "usr/local/src",
    "usr/sbin", "usr/share", "usr/src", "var", "var/backups", "var/cache", "var/lib", "var/local",
    "var/log", "var/mail", "var/opt", "var/spool", "var/tmp"]

/-- The links of a usual machine. -/
def usualLinks : List (String × String) :=
  [("bin", "usr/bin"), ("lib", "usr/lib"), ("lib64", "usr/lib64"), ("sbin", "usr/sbin"),
    ("etc/os-release", "../usr/lib/os-release"), ("var/lock", "/run/lock"), ("var/run", "/run"),
    ("usr/bin/sh", "dash")]

/-- The texts of a usual machine. -/
def usualTexts : List (String × String) :=
  [("etc/passwd", "root:x:0:0:root:/root:/bin/bash\n"), ("etc/group", "root:x:0:\n"),
    ("etc/shadow", "root:*:1:0:99999:7:::\n"), ("etc/hosts", "127.0.0.1\tlocalhost\n"),
    ("etc/hostname", "localhost\n"), ("etc/fstab", "# empty\n"),
    ("etc/profile", "# settings of shells\n"), ("etc/bash.bashrc", "# settings of a shell\n"),
    ("etc/shells", "# shells\n"), ("etc/resolv.conf", "nameserver\n"),
    ("etc/nsswitch.conf", "# names\n"), ("etc/ld.so.conf", "include /etc/ld.so.conf.d/*.conf\n"),
    ("proc/cpuinfo", "processor\n"), ("proc/meminfo", "MemTotal\n"), ("proc/version", "Linux\n"),
    ("usr/lib/os-release", "NAME\n")]

/-- The programs of a usual machine. -/
def usualPrograms : List String :=
  ["bash", "cat", "cp", "dash", "date", "dd", "echo", "env", "false", "grep", "kill", "ln", "ls",
    "mkdir", "mv", "ps", "pwd", "rm", "rmdir", "sed", "sleep", "sort", "tar", "true", "uname"]

/-- What every machine has: the usual directories, files that stay empty, some texts and programs. -/
def usual : Disk where
  entries :=
    [([], .directory), (["proc"], .view), (["sys"], .view)] ++
    ["null", "random", "urandom", "zero"].map (fun name => (["dev", name], .sink)) ++
    usualDirectories.map (fun p => (names p, .directory)) ++
    usualLinks.map (fun (p, target) => (names p, .link target)) ++
    usualTexts.map (fun (p, content) => (names p, .text content)) ++
    usualPrograms.map fun p => (["usr", "bin", p], .bytes)
  home := ["srv"]

def entry? (d : Disk) (place : List String) : Option DiskEntry := d.entries.lookup place

def put (d : Disk) (place : List String) (e : DiskEntry) : Disk :=
  { d with entries := (place, e) :: d.entries }

def isAbsolute (path : String) : Bool := path.toList.head? = some '/'

/-- Where a path begins that is found at a place. -/
def origin (place : List String) (path : String) : List String :=
  if isAbsolute path then [] else place

/-- Whether a file can be made at a place. -/
def isOpen (d : Disk) (place : List String) : Bool :=
  (d.entry? place).isNone && d.entry? place.dropLast = some .directory

/-- The longest name, in bytes. -/
def maxName : Nat := 255

/-- The longest path, in bytes. -/
def maxPath : Nat := 4095

/-- How many links a path can lead through. -/
def maxLinks : Nat := 40

/-- Follows names from a place. Every place but the last must be a directory. -/
def follow (d : Disk) (links : Nat) (place : List String) : List String →
    Except FileFault (List String)
  | [] => .ok place
  | name :: rest => match d.entry? place with
    | none => .error .missing
    | some e =>
      if !e.isDirectory then .error .notDirectory
      else if maxName < name.utf8ByteSize then .error .nameTooLong
      else if name = "" ∨ name = "." then d.follow links place rest
      else if name = ".." then d.follow links place.dropLast rest
      else match d.entry? (place ++ [name]) with
        | some (.link target) => match links with
          | 0 => .error .tooManyLinks
          | links + 1 => d.follow links (origin place target) (names target ++ rest)
        | _ => d.follow links (place ++ [name]) rest
  termination_by ns => (links, ns.length)

/-- What a path leads to. -/
def find (d : Disk) (path : String) : Except FileFault DiskEntry :=
  if path = "" then .error .missing
  else if maxPath < path.utf8ByteSize then .error .nameTooLong
  else match d.follow maxLinks (origin d.home path) (names path) with
    | .error f => .error f
    | .ok place => match d.entry? place with
      | some e => .ok e
      | none => .error .missing

def read (d : Disk) (path : String) : Except FileFault String :=
  match d.find path with
  | .error f => .error f
  | .ok e => match e with
    | .directory | .view => .error .isDirectory
    | .text content => .ok content
    | .sink => .ok ""
    | .bytes | .link _ => .error .notText

/-- Whether a path leads to something. -/
def holds (d : Disk) (path : String) : Bool := (d.find path).toOption.isSome

/-- How many bytes the path from the root takes. -/
def pathSize (place : List String) : Nat := (place.map fun name => name.utf8ByteSize + 1).sum

/-- Whether a path that is put in order may have a name after a place: what is missing has room for
all names, a directory for those that are not too long, and a file for none. -/
def admits (d : Disk) (place : List String) (name : String) : Bool :=
  match d.entry? place with
  | none => true
  | some e => e.isDirectory && name.utf8ByteSize ≤ maxName

/-- Puts names in order that follow a place: names that go up are taken out, also where nothing
stands, and links are replaced. On the way the path must stay shorter than `room`. -/
def settle (d : Disk) (room links : Nat) (place : List String) : List String →
    Option (List String)
  | [] => some place
  | name :: rest =>
    if name = "" ∨ name = "." then d.settle room links place rest
    else if name = ".." then d.settle room links place.dropLast rest
    else if !d.admits place name ∨ room ≤ pathSize (place ++ [name]) then none
    else match d.entry? (place ++ [name]) with
      | some (.link target) => match links with
        | 0 => none
        | links + 1 => d.settle room links (origin place target) (names target ++ rest)
      | _ => d.settle room links (place ++ [name]) rest
  termination_by ns => (links, ns.length)

end Disk

end DeviceClaims
