import AppSupervisor.Rehearsal.Machine

/-!
Rehearsals from documents.

A document lists the files of a scripted machine, what its processes are going to do, the replies to
network requests, the ports in use, the numbers that are drawn, the launches that fail and the wait
from which on every wait is interrupted. Times are in milliseconds. How faults are written is left
to the reader of faults.
-/

namespace AppSupervisor.Rehearsal

open AppSupervisor.Files

def secondsOf (v : Value) : Rat := mkRat v.asInt 1000

def withDirectory (tree : Tree) (p : Path) : Tree :=
  (tree.makeDirectories p.slashes p.parts.reverse).toOption.getD tree

def withEntry (tree : Tree) (p : Path) (entry : Entry) : Tree :=
  let tree := withDirectory tree p.parent
  (tree.create p entry).toOption.getD tree

def withDescribed (current : Path) (tree : Tree) (name : String) (v : Value) : Tree :=
  let p := current.join (.ofString name)
  match v, v.field "link" with
  | .text text, _ => withEntry tree p (.file text.toUTF8.toList)
  | _, .text target => withEntry tree p (.link target)
  | _, _ => withDirectory tree p

def bareTree (current : Path) : Tree :=
  let tree := [current, .ofString "/tmp", .ofString "/root"].foldl withDirectory .empty
  withEntry tree (.ofString "/dev/null") .device

def ProcessScript.ofValue (v : Value) : ProcessScript where
  exited := (v.field "exit").int?
  exits := (v.field "exits_at").items.filterMap fun
    | .list [time, code] => some (secondsOf time, code.asInt)
    | _ => none
  isHidden := (v.field "error").isTrue
  isStubborn := (v.field "stubborn").isTrue

def Reply.ofValue (readFault : Value → Fault) (v : Value) : Reply where
  result :=
    if (v.field "error").isNull then .ok (v.field "status").asInt
    else .error (readFault (v.field "error"))
  delay := secondsOf (v.field "delay")
  exits := (v.field "exits").items.filterMap fun
    | .list [process, code, later] => some (process.asInt.toNat, code.asInt, secondsOf later)
    | _ => none
  forgotten := (v.field "removes").items.map Value.asText

def Rule.ofValue (readFault : Value → Fault) (v : Value) : Rule where
  isPost := (v.field "method").asText == "POST"
  url := (v.field "url").asText
  replies := (v.field "replies").items.map (Reply.ofValue readFault)

def statesOf (readFault : Value → Fault) (v : Value) : Except Fault (List State) :=
  match v with
  | .list items => .ok (items.filterMap fun item => State.ofLabel? item.asText)
  | .text word => .ok (State.ofLabel? word).toList
  | spec => .error (readFault spec)

def faultAt? (readFault : Value → Fault) (v : Value) : Option Fault :=
  if v.isNull then none else some (readFault v)

def ofValue (current : Path) (home : String) (networkFault otherFault : Value → Fault) (v : Value) :
    Rehearsal where
  interruptFrom := (v.field "interrupt_sleep").int?.map Int.toNat
  busyPorts := (v.field "busy_ports").items.map Value.asInt
  draws := (v.field "draws").items.map Value.asInt
  scripts := (v.field "processes").items.map ProcessScript.ofValue
  rules := (v.field "http").items.map (Rule.ofValue networkFault)
  launchFaults := (v.field "launch_fail").items.map fun entry =>
    ((entry.field "launch").asInt.toNat, otherFault (entry.field "error"))
  statuses := (v.field "states").items.map (statesOf otherFault)
  attributes := (v.field "attributes").entries.map fun entry => (entry.1, entry.2.asText)
  deployFault := faultAt? otherFault (v.field "deploy_error")
  undeployFault := faultAt? otherFault (v.field "undeploy_error")
  tree := (v.field "files").entries.foldl
    (fun tree entry => withDescribed current tree entry.1 entry.2) (bareTree current)
  current := current
  home := home

def paths (r : Rehearsal) (base : Path) : List String :=
  match r.tree.find true base with
  | .ok place =>
    (r.tree.listing base (r.tree.entries.size + 1) [] (place.id :: place.way)).mergeSort
      fun a b => !decide (b < a)
  | .error _ => []

end AppSupervisor.Rehearsal
