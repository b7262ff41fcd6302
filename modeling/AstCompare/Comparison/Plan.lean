import AstCompare.Layout.Basic

/-!
# Plans

What a comparison does to the world is a plan: a tree of calls, each followed by the rest of the
plan for every reply. The plan itself is pure data, so the order of effects can be stated about it,
and two plans can be interleaved call by call. A host says how calls are answered.

One call is one step of the file system or of the layout backend. Nothing happens between calls.

## Main definitions

* `Call`, `Call.Reply`: the steps and their replies.
* `Plan`: what is done and what it results in.
* `Host.perform`: how a disk answers a call.
* `Plan.run`: the result, the disk afterwards and the calls that were made.
-/

namespace AstCompare

/-- One step of a comparison. -/
inductive Call where
  | readText (path : String)
  | createDirAll (path : String)
  | hasEntry (path : String)
  | remove (path : String)
  | writeText (path text : String)
  | render (request : Layout.Request)
  | load (path : String)
  | save (path : String) (picture : Picture)

/-- The type of the reply to a call. -/
def Call.Reply : Call → Type
  | readText _ => Except DiskError String
  | createDirAll _ => Except DiskError Unit
  | hasEntry _ => Bool
  | remove _ => Except DiskError Unit
  | writeText _ _ => Except DiskError Unit
  | render _ => Except Failure Unit
  | load _ => Except String Picture
  | save _ _ => Except String Unit

/-- The layout request of a call, if it is one. -/
def Call.request? : Call → Option Layout.Request
  | render r => some r
  | _ => none

/-- A tree of calls that ends in results. -/
inductive Plan (α : Type) where
  | done (result : α)
  | call (c : Call) (next : c.Reply → Plan α)

namespace Plan

variable {α β : Type}

/-- Goes on with another plan. -/
def bind : Plan α → (α → Plan β) → Plan β
  | done a, f => f a
  | call c next, f => call c fun r => bind (next r) f

end Plan

/-- Steps that the file system refuses. -/
structure Refusals where
  read : Bool := false
  write : Bool := false
  createDir : Bool := false
  remove : Bool := false
  deriving DecidableEq, Repr

/-- What answers calls: a file system, which may refuse steps, and a layout backend. -/
structure Host where
  refusals : Refusals := {}
  backend : Layout.Backend

namespace Host

/-- The result of an operation that yields a new disk. -/
def settle (d : Disk) : Except DiskError Disk → Except DiskError Unit × Disk
  | .ok d' => (.ok (), d')
  | .error e => (.error e, d)

/-- Answers a call, given the calls before it. -/
def perform (h : Host) (past : List Call) (c : Call) (d : Disk) : c.Reply × Disk :=
  match c with
  | .readText p => (if h.refusals.read then .error .refused else d.readText p, d)
  | .createDirAll p =>
    if h.refusals.createDir then (.error .refused, d)
    else
      match d.createDirAll p with
      | (d', none) => (.ok (), d')
      | (d', some e) => (.error e, d')
  | .hasEntry p => (d.hasEntry p, d)
  | .remove p => if h.refusals.remove then (.error .refused, d) else settle d (d.remove p)
  | .writeText p s =>
    if h.refusals.write then (.error .refused, d) else settle d (d.write p (.ofText s))
  | .render r => h.backend.render (past.filterMap Call.request?) r d
  | .load p => (d.load p, d)
  | .save p q =>
    match d.save p q with
    | (d', none) => (.ok (), d')
    | (d', some e) => (.error e, d')

section

variable (h : Host) (past : List Call) (p : String) (d : Disk)

theorem perform_readText :
    h.perform past (.readText p) d =
      (if h.refusals.read then .error .refused else d.readText p, d) :=
  rfl

theorem perform_createDirAll :
    h.perform past (.createDirAll p) d =
      if h.refusals.createDir then (.error .refused, d)
      else
        match d.createDirAll p with
        | (d', none) => (.ok (), d')
        | (d', some e) => (.error e, d') :=
  rfl

theorem perform_remove :
    h.perform past (.remove p) d =
      if h.refusals.remove then (.error .refused, d) else settle d (d.remove p) :=
  rfl

theorem perform_writeText (s : String) :
    h.perform past (.writeText p s) d =
      if h.refusals.write then (.error .refused, d) else settle d (d.write p (.ofText s)) :=
  rfl

theorem perform_save (q : Picture) :
    h.perform past (.save p q) d =
      match d.save p q with
      | (d', none) => (.ok (), d')
      | (d', some e) => (.error e, d') :=
  rfl

end

end Host

/-- What is left when a plan has run: its result, the disk, and the calls in order. -/
structure Ran (α : Type) where
  result : α
  disk : Disk
  calls : List Call

namespace Plan

variable {α : Type}

/-- Runs a plan after the calls in `past`. -/
def runFrom (h : Host) (past : List Call) (d : Disk) : Plan α → Ran α
  | done a => ⟨a, d, past⟩
  | call c next =>
    let (reply, d') := h.perform past c d
    runFrom h (past ++ [c]) d' (next reply)

/-- Runs a plan. -/
def run (h : Host) (d : Disk) (p : Plan α) : Ran α :=
  p.runFrom h [] d

end Plan

/-- The layout requests among the calls. -/
def Ran.requests {α : Type} (r : Ran α) : List Layout.Request :=
  r.calls.filterMap Call.request?

end AstCompare
