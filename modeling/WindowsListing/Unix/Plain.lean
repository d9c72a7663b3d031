import WindowsListing.Unix.System
import WindowsListing.Unix.Programs

/-!
# A plain host

A host with a Unix shell and its utilities, and neither of the shells of
Windows. Programs read an empty input, and their complaints are not kept.
-/

set_option autoImplicit false

namespace WindowsListing.Unix

namespace Plain

/-- A path with what is there, and its mode. -/
abbrev Entry := String × Kind × Nat

def folder (path : String) : Entry := (path, .directory 0 [], 0o755)

def file (path content : String) : Entry := (path, .regular content, 0o644)

def link (path target : String) : Entry := (path, .link target, 0o777)

def device (path name : String) : Entry := (path, .device name, 0o666)

def folders (parent : String) (names : List String) : List Entry :=
  names.map fun name => folder (parent ++ "/" ++ name)

def users : String :=
  "root:x:0:0:root:/root:/bin/bash\n" ++
  "daemon:x:1:1:daemon:/usr/sbin:/usr/sbin/nologin\n" ++
  "bin:x:2:2:bin:/bin:/usr/sbin/nologin\n" ++
  "sys:x:3:3:sys:/dev:/usr/sbin/nologin\n" ++
  "sync:x:4:65534:sync:/bin:/bin/sync\n" ++
  "games:x:5:60:games:/usr/games:/usr/sbin/nologin\n" ++
  "man:x:6:12:man:/var/cache/man:/usr/sbin/nologin\n" ++
  "lp:x:7:7:lp:/var/spool/lpd:/usr/sbin/nologin\n" ++
  "mail:x:8:8:mail:/var/mail:/usr/sbin/nologin\n" ++
  "news:x:9:9:news:/var/spool/news:/usr/sbin/nologin\n" ++
  "uucp:x:10:10:uucp:/var/spool/uucp:/usr/sbin/nologin\n" ++
  "proxy:x:13:13:proxy:/bin:/usr/sbin/nologin\n" ++
  "www-data:x:33:33:www-data:/var/www:/usr/sbin/nologin\n" ++
  "backup:x:34:34:backup:/var/backups:/usr/sbin/nologin\n" ++
  "list:x:38:38:Mailing List Manager:/var/list:/usr/sbin/nologin\n" ++
  "irc:x:39:39:ircd:/run/ircd:/usr/sbin/nologin\n" ++
  "_apt:x:42:65534::/nonexistent:/usr/sbin/nologin\n" ++
  "nobody:x:65534:65534:nobody:/nonexistent:/usr/sbin/nologin\n"

def settings : List Entry :=
  [file "/etc/bash.bashrc" "\n", file "/etc/debian_version" "12.5\n", file "/etc/environment" "",
   file "/etc/fstab" "\n", file "/etc/group" "root:x:0:\n", file "/etc/gshadow" "\n",
   file "/etc/host.conf" "multi on\n", file "/etc/hostname" "plain\n",
   file "/etc/hosts" "127.0.0.1\tlocalhost\n", file "/etc/issue" "\n", file "/etc/issue.net" "\n",
   file "/etc/ld.so.cache" "\n", file "/etc/ld.so.conf" "include /etc/ld.so.conf.d/*.conf\n",
   file "/etc/localtime" "\n", file "/etc/login.defs" "\n", file "/etc/mtab" "\n",
   file "/etc/nsswitch.conf" "\n", file "/etc/os-release" "\n", file "/etc/pam.conf" "\n",
   file "/etc/passwd" users, file "/etc/profile" "\n", file "/etc/resolv.conf" "\n",
   file "/etc/shadow" "\n", file "/etc/shells" "/bin/sh\n/usr/bin/sh\n/bin/bash\n/bin/dash\n",
   file "/etc/timezone" "Etc/UTC\n"]

def devices : List Entry :=
  (["full", "null", "ptmx", "random", "tty", "urandom", "zero"].map fun name =>
    device ("/dev/" ++ name) name) ++
  [folder "/dev/fd"] ++
  ((List.range 20).map fun n => device ("/dev/fd/" ++ toString n) ("fd" ++ toString n)) ++
  (["stdin", "stdout", "stderr"].map fun name => device ("/dev/" ++ name) name)

def entries : List Entry :=
  folders "" ["boot", "dev", "etc", "home", "media", "mnt", "opt", "proc", "root", "run", "srv",
    "sys", "tmp", "usr", "var"] ++
  folders "/usr" ["bin", "games", "include", "lib", "lib64", "libexec", "local", "sbin", "share",
    "src"] ++
  [link "/bin" "usr/bin", link "/lib" "usr/lib", link "/lib64" "usr/lib64",
   link "/sbin" "usr/sbin"] ++
  folders "/usr/local" ["bin", "etc", "games", "include", "lib", "man", "sbin", "share", "src"] ++
  folders "/home" ["work"] ++ folders "/dev" ["mqueue", "pts", "shm"] ++ devices ++
  folders "/etc" ["alternatives", "apt", "cron.d", "cron.daily", "default", "dpkg", "init.d",
    "ld.so.conf.d", "opt", "pam.d", "profile.d", "rc0.d", "security", "skel", "ssl", "systemd",
    "terminfo"] ++
  settings ++ folders "/proc" ["1", "self", "sys"] ++
  (["cmdline", "cpuinfo", "filesystems", "loadavg", "meminfo", "mounts", "stat", "uptime",
    "version"].map fun name => file ("/proc/" ++ name) "\n") ++
  folders "/sys" ["block", "bus", "class", "dev", "devices", "firmware", "fs", "kernel", "module",
    "power"] ++
  folders "/var" ["backups", "cache", "lib", "local", "log", "mail", "opt", "spool", "tmp"] ++
  [link "/var/lock" "/run/lock", link "/var/run" "/run"] ++
  Program.all.map fun p => ("/usr/bin/" ++ p.1, .program p.1, 0o755)

def withEntry (f : Files) (e : Entry) : Files :=
  match f.create 0 e.1 e.2.1 e.2.2 0 with
  | .ok (f, _) => f
  | .error _ => f

def files : Files := entries.foldl withEntry Files.bare

def directory : Nat := (files.find 0 "/home/work" true).toOption.getD 0

def search : List String := ["/usr/local/bin", "/usr/bin", "/bin"]

def environment : List (String × String) :=
  [("HOME", "/root"), ("LANG", "C.UTF-8"), ("PATH", ":".intercalate search),
   ("PWD", "/home/work")]

/-- How often processes may become other programs, one within the other. -/
def becomings : Nat := 1000000000

end Plain

def plainSystem : System where
  files := Plain.files
  directory := Plain.directory
  search := Plain.search
  environment := Plain.environment
  programs := programs Plain.becomings

def plainHost : Host := plainSystem.host

end WindowsListing.Unix
