import AppSupervisor.Launcher

/-!
A scripted child process.

The answers to the question for the exit code come from a list, the last one again and again. The
signal that ends the process is counted and may be refused.
-/

namespace AppSupervisor.Rehearsal

structure ScriptedChild where
  polls : List (Option Int) := []
  killFault : Option Fault := none
  kills : Nat := 0

instance : ChildHost ScriptedChild where
  createNew _ child := (.ok (), child)
  start _ child := (.ok 0, child)
  poll _ child := match child.polls with
    | answer :: next :: rest => (answer, { child with polls := next :: rest })
    | polls => (polls.head?.join, child)
  sendKill _ child :=
    let child := { child with kills := child.kills + 1 }
    match child.killFault with
    | some fault => (.error fault, child)
    | none => (.ok (), child)

end AppSupervisor.Rehearsal
