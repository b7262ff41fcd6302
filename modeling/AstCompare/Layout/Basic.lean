import AstCompare.Disk.Files
import AstCompare.Failure

/-!
# Layout backends

A layout backend turns the text of a graph into a picture file. It may do to the disk whatever it
likes, and what it does may depend on what it was asked before, so it is given the earlier requests
together with the present one.

## Main definitions

* `Request`: the picture path and the graph text.
* `Backend`: how requests and the question for the version are answered.
-/

namespace AstCompare.Layout

/-- One picture to be made: where to put it, and the graph text. -/
structure Request where
  output : String
  dot : String
  deriving DecidableEq, Repr

/-- A layout backend. -/
structure Backend where
  /-- Answers a request, given the requests before it. -/
  render : List Request → Request → Disk → Except Failure Unit × Disk
  /-- Says what it is. -/
  version : Disk → Except Failure String × Disk

end AstCompare.Layout
