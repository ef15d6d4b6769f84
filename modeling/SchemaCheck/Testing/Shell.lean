import SchemaCheck.Testing.Host.Schedule
import SchemaCheck.Testing.Shell.Execution

/-!
# Shell scripts for tests

Providers that are programs can be written as shell scripts of a few lines. This module makes the
world in which such a script runs, with the files and programs that it can count on, and gives what
a finished script leaves behind. A script runs for a bounded number of steps, which one that is
meant to end does not use up.
-/

namespace SchemaCheck.Testing.Shell

open Host

/-- The path of the shell. -/
def path : String := "/bin/sh"

/-- The list of users. -/
def users : String :=
  "root:x:0:0:root:/root:/bin/bash\n" ++
  "daemon:x:1:1:daemon:/usr/sbin:/usr/sbin/nologin\n" ++
  "bin:x:2:2:bin:/bin:/usr/sbin/nologin\n" ++
  "sys:x:3:3:sys:/dev:/usr/sbin/nologin\n" ++
  "sync:x:4:65534:sync:/bin:/bin/sync\n" ++
  "games:x:5:60:games:/usr/games:/usr/sbin/nologin\n" ++
  "man:x:6:12:man:/var/cache/man:/usr/sbin/nologin\n" ++
  "lp:x:7:7:lp:/var/spool/lpd:/usr/sbin/nologin\n" ++
  "mail:x:8:8:mail:/var/mail:/usr/sbin/nologin\n" ++
  "news:x:9:9:news:/var/spool/news:/usr/sbin/nologin\n" ++
  "uucp:x:10:10:uucp:/var/spool/uucp:/usr/sbin/nologin\n" ++
  "proxy:x:13:13:proxy:/bin:/usr/sbin/nologin\n" ++
  "www-data:x:33:33:www-data:/var/www:/usr/sbin/nologin\n" ++
  "backup:x:34:34:backup:/var/backups:/usr/sbin/nologin\n" ++
  "list:x:38:38:Mailing List Manager:/var/list:/usr/sbin/nologin\n" ++
  "irc:x:39:39:ircd:/run/ircd:/usr/sbin/nologin\n" ++
  "_apt:x:42:65534::/nonexistent:/usr/sbin/nologin\n" ++
  "nobody:x:65534:65534:nobody:/nonexistent:/usr/sbin/nologin\n"

/-- The list of groups. -/
def groups : String :=
  "root:x:0:\ndaemon:x:1:\nbin:x:2:\nsys:x:3:\nadm:x:4:\n" ++
  "tty:x:5:\ndisk:x:6:\nlp:x:7:\nmail:x:8:\nnews:x:9:\n" ++
  "uucp:x:10:\nman:x:12:\nproxy:x:13:\nkmem:x:15:\ndialout:x:20:\n" ++
  "fax:x:21:\nvoice:x:22:\ncdrom:x:24:\nfloppy:x:25:\ntape:x:26:\n" ++
  "sudo:x:27:\naudio:x:29:\ndip:x:30:\nwww-data:x:33:\nbackup:x:34:\n" ++
  "operator:x:37:\nlist:x:38:\nirc:x:39:\nsrc:x:40:\nshadow:x:42:\n" ++
  "utmp:x:43:\nvideo:x:44:\nsasl:x:45:\nplugdev:x:46:\nstaff:x:50:\n" ++
  "games:x:60:\nusers:x:100:\nnogroup:x:65534:\n"

/-- The files that a script can count on. -/
def files : Files :=
  let directories := ["boot", "dev", "etc", "home", "media", "mnt", "opt", "proc", "root", "run",
    "srv", "sys", "tmp", "usr", "usr/bin", "usr/lib", "usr/local", "usr/local/bin", "usr/sbin",
    "usr/share", "var", "var/tmp"]
  let f := directories.foldl (fun f d => f.put d
    { content := .directory [], mode := if d = "tmp" || d = "var/tmp" then 0o1777 else 0o755 })
    Files.empty
  let f := repaired f directories
  let link (f : Files) (path target : String) : Files :=
    f.put path { content := .link (Chars.ofString target), mode := 0o777 }
  let device (f : Files) (name : String) (d : Device) : Files :=
    f.put ("dev/" ++ name) { content := .device d, mode := 0o666 }
  let text (f : Files) (path text : String) : Files :=
    f.put path { content := Content.ofText (Chars.ofString text) }
  let f := ["bin", "lib", "sbin"].foldl (fun f d => link f d ("usr/" ++ d)) f
  let f := device f "null" .null
  let f := device f "zero" .zero
  let f := device f "full" .full
  let f := [("stdin", 0), ("stdout", 1), ("stderr", 2)].foldl
    (fun f (name, n) => device f name (.descriptor n)) f
  let f := (List.range 10).foldl
    (fun f n => device f ("fd/" ++ toString n) (.descriptor n)) f
  let f := text f "etc/passwd" users
  let f := text f "etc/group" groups
  let f := text f "etc/hosts" "127.0.0.1\tlocalhost\n"
  Tools.names.foldl (fun f name =>
    f.put ("usr/bin/" ++ name) { content := .program name, mode := 0o755 }) f
where
  /-- The tree with the names that directories have for themselves and the ones above. -/
  repaired (f : Files) (directories : List String) : Files :=
    directories.foldl (fun f d =>
      let path := Chars.ofString ("/" ++ d)
      match f.find 0 path, f.place 0 path with
      | .ok n, .ok (above, _) =>
        f.modify 0 n fun c => .directory (c.entries ++ [(selfName, n), (aboveName, above)])
      | _, _ => f) f

/-- The variables that a script sees. -/
def environment : List (Chars × Chars) :=
  [("PATH".toList, "/usr/local/sbin:/usr/local/bin:/usr/sbin:/usr/bin:/sbin:/bin".toList),
    ("HOME".toList, "/root".toList)]

/-- The time at which a script starts, in millionths of a second. -/
def startTime : Nat := 1760000000000000

/-- The number of the first task. -/
def firstTask : Nat := 4242

/-- The most steps that all tasks of a script take together. -/
def stepLimit : Nat := 2000000

/-- How deep a script can be nested. -/
def depthLimit : Nat := 1000000

/-- The world in which a script starts, with its input; where its output goes and where its errors
go. -/
def world (input : Bytes) : World × Nat × Nat :=
  let (f, reading) := files.add { content := .pipe [Chars.ofBytes input] [] input.length }
  let (f, output) := f.add { content := .sink [] }
  let (f, errors) := f.add { content := .sink [] }
  let task : Task :=
    { number := firstTask, parent := 1, descriptors := [(0, 0), (1, 1), (2, 2)], time := startTime }
  let w : World :=
    { files := f
      opened := #[{ node := reading, reads := true }, { node := output, writes := true },
        { node := errors, writes := true }]
      tasks := [task], current := firstTask, now := startTime, next := firstTask + 1 }
  (w, output, errors)

/-- Runs the shell with words and input to its end. -/
def finish (words : List String) (input : Bytes) : Finished :=
  let (w, output, errors) := world input
  let call : Tools.Invocation :=
    { name := Chars.ofString path, words := words.map Chars.ofString, environment }
  let process : Process := runShell call depthLimit fun status =>
    .step fun w => (w.finish firstTask (.exited (status % 256)), .ended)
  let isDone (w : World) : Bool :=
    ((w.task? firstTask).map fun t => t.ending.isSome).getD true &&
      !w.holds output Opened.writes && !w.holds errors Opened.writes
  let w := simulate isDone stepLimit w [{ number := firstTask, process }]
  { status := ((w.task? firstTask).bind Task.ending).getD (.exited 2)
    output := Chars.toBytes (w.files.content output).text
    errors := Chars.toBytes (w.files.content errors).text }

/-- Starts the shell, which is the only program that there is. No argument of a program holds a
NUL. -/
def launch : Launcher := fun program args input =>
  if program = path && !(args.any fun a => a.contains (Char.ofNat 0)) then
    .ok (finish args input)
  else .error "no such program"

end SchemaCheck.Testing.Shell
