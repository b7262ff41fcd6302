import AstCompare.Shell.Run

/-!
# Taking turns

Processes take turns. Each has a clock of its own, and the one whose clock is behind goes on, until
it has to wait or somebody else is behind. So what happens depends on how long things take, and is
the same each time.

A process that waits goes on when its condition holds. One that could read something, but not yet as
much as it would like, goes on when nobody else has anything to do but to wait for a time.

## Main definitions

* `Wait.isMet`: the condition for which a process waits holds.
* `Suspended`: a process that is not at its turn.
* `Schedule`: all processes, and what they share.
* `Schedule.step`: one turn.
* `Schedule.run`: turns until the first process has ended and nobody holds its output.
-/

namespace AstCompare.Shell

/-! ### Waiting -/

/-- The condition for which a process waits holds. `pending` tells whether a signal has come for
it. -/
def Wait.isMet (c : Common) (pending : Bool) : Wait → Bool
  | turn | fork _ _ | signal _ _ | signalBelow _ => true
  | time _ => false
  | input p size want =>
    (c.pipes.lookup p).all fun q => q.writers == 0 || size < q.queue.size && want ≤ q.queue.size
  | room p =>
    (c.pipes.lookup p).all fun q =>
      q.readers == 0 || q.capacity.all fun n => q.queue.size + 4096 ≤ n
  | partner p readers count =>
    (c.pipes.lookup p).all fun q => count < (if readers then q.allReaders else q.allWriters)
  | ended ps _ interruptible =>
    (c.ended.any fun e => ps.contains e.process) || interruptible && pending

/-- A process could go on, though not with as much as it would like. -/
def Wait.isWeaklyMet (c : Common) : Wait → Bool
  | input p size _ => (c.pipes.lookup p).any fun q => size < q.queue.size
  | _ => false

/-- The time at which the wait is over, whatever happens. -/
def Wait.limit? : Wait → Option Nat
  | time t => some t
  | ended _ limit _ => limit
  | _ => none

/-! ### Processes -/

/-- A process that is not at its turn. -/
structure Suspended where
  id : Nat
  parent : Nat
  /-- Its state. What it shares with others is found elsewhere. -/
  machine : Machine
  wait : Wait
  resume : Machine → Outcome Ending

/-- The time at which a process goes on if nothing happens. -/
def Suspended.time? (a : Suspended) : Option Nat :=
  match a.wait with
  | .turn => some a.machine.clock
  | w => w.limit?.map (max a.machine.clock)

/-- A process that waits no longer, if its condition holds. -/
def Suspended.woken (c : Common) (now : Nat) (a : Suspended) : Suspended :=
  match a.wait with
  | .turn => a
  | w =>
    if w.isMet c (!a.machine.pending.isEmpty) then
      { a with wait := .turn, machine := { a.machine with clock := max a.machine.clock now } }
    else a

/-- All processes that are not at their turn, and what they share. -/
structure Schedule where
  common : Common
  /-- The processes in the order in which they were started. -/
  processes : List Suspended := []
  /-- The time of the last turn. -/
  now : Nat := 0
  /-- The process that was started first, how and when it ended. -/
  first : Nat
  /-- The process that started it. -/
  outside : Nat
  ending : Option (Ending × Nat) := none

/-- A process is told that another one has ended, if it wants to know. -/
def Suspended.informed (a : Suspended) : Suspended :=
  if (a.machine.traps.lookup childSignal).any fun action => !action.isEmpty then
    { a with machine := a.machine.signaled childSignal }
  else a

namespace Schedule

/-- How long it takes to start a process, for the one that starts it. -/
def forkTime : Nat := 150

/-- How long it takes until a new process goes on. -/
def childTime : Nat := 250

/-- The greatest number of processes at a time. -/
def maxProcesses : Nat := 4000

/-- The state of a process without what it shares. -/
def parted (m : Machine) : Machine :=
  m.adopt { disk := { entries := [], cwd := [] } }

/-- Puts a process among the others. -/
def insert (s : Schedule) (a : Suspended) : Schedule :=
  { s with
    processes :=
      (s.processes.filter fun b => b.id < a.id) ++ { a with machine := parted a.machine } ::
      s.processes.filter fun b => a.id < b.id }

/-- The end of a process. Its parent may ask for it. -/
def finish (s : Schedule) (a : Suspended) (e : Ending) (m : Machine) : Schedule :=
  let c := m.closed.toCommon
  let hasParent := s.processes.any fun b => b.id == a.parent
  { s with
    common := { c with
      alive := c.alive.erase a.id
      ended := if hasParent then c.ended ++ [⟨a.id, e⟩] else c.ended }
    processes := (s.processes.filter fun b => b.id != a.id).map fun b =>
      if b.id = a.parent then b.informed else b
    ending := if a.id = s.first then some (e, m.clock) else s.ending }

/-- A signal comes to a process. -/
def strike (s : Schedule) (number : Nat) (a : Suspended) : Schedule :=
  let ends := s.finish a (.killed number) (a.machine.adopt s.common)
  if isHarmless number && (a.machine.traps.lookup number).isNone || isPausing number then s
  else if number == killSignal then ends
  else
    match a.machine.traps.lookup number with
    | none => ends
    | some "" => s
    | some _ =>
      let machine := a.machine.signaled number
      { s with processes := s.processes.map fun b => if b.id = a.id then { b with machine } else b }

/-- The processes that come from one, in the order in which they were started. -/
def descendants (s : Schedule) (id : Nat) : List Suspended :=
  (s.processes.foldl (fun (ids, found) a =>
    if ids.contains a.parent then (a.id :: ids, a :: found) else (ids, found)) ([id], [])).2.reverse

/-- A process gets the answer to its request. -/
def answer (s : Schedule) (a : Suspended) (m : Machine) (resume : Machine → Outcome Ending)
    (reply : Nat) : Schedule :=
  s.insert { a with machine := { m with reply }, wait := .turn, resume }

/-- Starts a process for another one. -/
def start (task : Task → Sh Ending) (s : Schedule) (a : Suspended) (m : Machine)
    (resume : Machine → Outcome Ending) (child : Machine) (t : Task) : Schedule :=
  if maxProcesses ≤ s.processes.length then
    -- The streams of the process that cannot be started are given up.
    let c := (child.adopt s.common).closed.toCommon
    { s with common := c }.answer a m resume 0
  else
    let id := s.common.lastProcess + 1
    let s :=
      { s with common := { s.common with lastProcess := id, alive := s.common.alive ++ [id] } }
    let s := s.answer a { m with clock := m.clock + forkTime } resume id
    s.insert {
      id, parent := a.id, machine := { child with self := id, clock := m.clock + childTime }
      wait := .turn, resume := task t }

/-- What comes of a turn of a process. -/
def settle (task : Task → Sh Ending) (s : Schedule) (a : Suspended) : Outcome Ending → Schedule
  | .done e m => { s with now := m.clock }.finish a e m
  | .stopped stop m => { s with now := m.clock }.finish a (endingOf m.status (some stop)) m
  | .paused w m resume =>
    let s := { s with common := m.toCommon, now := m.clock }
    match w with
    | .fork child t => s.start task a m resume child t
    | .signal target number =>
      match (s.answer a m resume 0).processes.find? fun b => b.id == target with
      | some b => (s.answer a m resume 0).strike number b
      | none =>
        let isKnown := target == s.outside || s.common.ended.any fun e => e.process == target
        s.answer a m resume (if isKnown then 0 else if target == 1 then 2 else 1)
    | .signalBelow number =>
      let s := s.answer a m resume 0
      (s.descendants a.id).foldl (fun s b => s.strike number b) s
    | w => s.insert { a with machine := m, wait := w, resume }

/-- The process of some that goes on first, with its time. -/
def earliest (as : List Suspended) : Option (Suspended × Nat) :=
  as.foldl (fun best a =>
    match best, a.time? with
    | none, some t => some (a, t)
    | some (b, u), some t => if t < u then some (a, t) else some (b, u)
    | best, none => best) none

/-- The process that goes on next, with its time. -/
def next? (s : Schedule) : Option (Suspended × Nat) :=
  let weak := (s.processes.find? fun a => a.wait.isWeaklyMet s.common).map fun a =>
    (a, max a.machine.clock s.now)
  match earliest s.processes with
  | none => weak
  | some (a, t) =>
    match a.wait with
    | .turn => some (a, t)
    | _ => some (weak.getD (a, t))

/-- One turn of a process, which starts at a time. -/
def turn (task : Task → Sh Ending) (s : Schedule) (a : Suspended) (t : Nat) : Schedule :=
  let others := s.processes.filter fun b => b.id != a.id
  let m := { a.machine.adopt s.common with
    clock := t, horizon := (earliest others).map Prod.snd, crowded := !others.isEmpty }
  let s :=
    ({ s with processes := others, common := { disk := { entries := [], cwd := [] } } } : Schedule)
  let s := s.settle task a (a.resume m)
  { s with processes := s.processes.map (Suspended.woken s.common s.now) }

/-- How long processes that nobody waits for may go on, when the first one has ended and its output
is complete. -/
def graceTime : Nat := 3000

/-- The output of the first process may still grow. -/
def isHeld (s : Schedule) (outputs : List Nat) : Bool :=
  outputs.any fun p => (s.common.pipes.lookup p).any fun q => q.writers != 0

/-- Turns of processes, until the first one has ended and nobody holds its output, or until none can
go on. -/
def run (task : Task → Sh Ending) (outputs : List Nat) (fuel : Nat) (s : Schedule) : Schedule :=
  match fuel with
  | 0 => s
  | fuel + 1 =>
    match s.next? with
    | none => s
    | some (a, t) =>
      match s.ending with
      | some (_, time) =>
        if s.isHeld outputs || t ≤ time + graceTime then
          run task outputs fuel (s.turn task a t)
        else s
      | none => run task outputs fuel (s.turn task a t)

end Schedule

end AstCompare.Shell
