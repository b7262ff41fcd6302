import AstCompare.Shell.Data

/-!
# Queues of bytes

What is written into a pipe is read from it in the same order. A queue takes pieces at its back and
gives any number of bytes from its front.

## Main definitions

* `Queue`, `Queue.push`, `Queue.take`: queues.
* `Queue.bytes`: all that waits in a queue.
-/

namespace AstCompare.Shell

/-- Bytes that wait. -/
structure Queue where
  /-- The bytes in front, of which some at the beginning have been taken. -/
  front : Data := .empty
  start : Nat := 0
  /-- What has come since, the latest first. -/
  back : List Data := []
  /-- How many bytes wait. -/
  size : Nat := 0

namespace Queue

/-- The queue that holds some bytes. -/
def ofData (d : Data) : Queue :=
  { front := d, size := d.size }

/-- The queue with a piece more. -/
def push (q : Queue) (d : Data) : Queue :=
  { q with back := d :: q.back, size := q.size + d.size }

/-- The queue with all that waits in front. -/
def gather (q : Queue) : Queue :=
  if q.back.isEmpty then q
  else
    let rest := if q.start = q.front.size then .empty else Data.drop q.start q.front
    { front := Data.join (rest :: q.back.reverse), start := 0, back := [], size := q.size }

/-- All that waits. -/
def bytes (q : Queue) : Data :=
  let q := q.gather
  Data.drop q.start q.front

/-- So many bytes from the front, or all if there are fewer, and the queue without them. -/
def take (q : Queue) (n : Nat) : Data × Queue :=
  let q := q.gather
  let m := min n q.size
  let d := q.front.extract q.start (q.start + m)
  (d, if m = q.size then {} else { q with start := q.start + m, size := q.size - m })

end Queue

end AstCompare.Shell
