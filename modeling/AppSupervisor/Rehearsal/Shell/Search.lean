import AppSupervisor.Files.Tree

/-!
Finding programs.

A host has a few programs in its program directories; no file of the tree is a program.
-/

namespace AppSupervisor.Rehearsal.Shell

open AppSupervisor.Files

def programNames : List String :=
  ["sh", "dash", "echo", "printf", "env", "cat", "sleep", "true", "false", "pwd", "test", "[",
    "seq", "sort", "touch", "kill", "ls", "wc", "head", "tail", "tr", "mkdir", "rm"]

def specialBuiltins : List String :=
  [".", ":", "break", "continue", "eval", "exec", "exit", "export", "readonly", "return", "set",
    "shift", "times", "trap", "unset"]

def builtins : List String :=
  ["[", "alias", "bg", "cd", "command", "echo", "false", "fg", "getopts", "hash", "jobs", "kill",
    "local", "printf", "pwd", "read", "test", "true", "type", "ulimit", "umask", "unalias", "wait"]

def programDirectories : List String := ["/bin/", "/usr/bin/"]

def programAt? (path : String) : Option String :=
  programDirectories.findSome? fun directory =>
    if directory.toList.isPrefixOf path.toList then
      let name := String.ofList (path.toList.drop directory.length)
      if programNames.contains name then some name else none
    else none

/-- Finds the program that runs for a path, or why there is none. Nothing in the tree may be run. -/
def findProgram (tree : Tree) (current : Path) (path : String) : Except FileCause String :=
  match programAt? path with
  | some name => .ok name
  | none =>
    if programDirectories.any fun directory => directory == path || directory == path ++ "/" then
      .error .notPermitted
    else match tree.findText current path with
      | .ok _ => .error .notPermitted
      | .error cause => .error cause

def defaultSearch : String := "/bin:/usr/bin"

def searchProgram (tree : Tree) (current : Path) (environment : List (String × String))
    (command : String) : Except FileCause String :=
  if command.toList.contains '/' then findProgram tree current command
  else
    let directories := pieces ':' ((environment.lookup "PATH").getD defaultSearch)
    let tries := directories.map fun directory =>
      findProgram tree current (if directory.isEmpty then command
        else if directory.endsWith "/" then directory ++ command else directory ++ "/" ++ command)
    let found? := tries.findSome? Except.toOption
    let refused? := tries.findSome? fun
      | .error .noEntry | .error .notDirectory | .ok _ => none
      | .error cause => some cause
    match found?, refused?, tries.getLast? with
    | some name, _, _ => .ok name
    | none, some cause, _ => .error cause
    | none, none, some (.error cause) => .error cause
    | _, _, _ => .error .noEntry

end AppSupervisor.Rehearsal.Shell
