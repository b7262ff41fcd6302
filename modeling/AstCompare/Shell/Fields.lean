import AstCompare.Shell.Pattern
import AstCompare.Shell.Tool.Listing

/-!
# Fields

An expanded word is cut into fields, and fields that are patterns are replaced by the paths that fit
them. Only what came out of an expansion and does not stand between quotes is cut, and only what
does not stand between quotes is read as a pattern, so the characters of an expanded word know both.

## Main definitions

* `Glyph`: what an expanded word is made of.
* `Glyph.fields`: the fields of an expanded word.
* `matchingPaths`: the paths that fit a pattern.
-/

namespace AstCompare.Shell

/-- What an expanded word is made of. -/
inductive Glyph where
  /-- A character; it may stand between quotes, and it may be cut away as a separator. -/
  | char (c : Char) (quoted separable : Bool)
  /-- Quotes, which make a field even if nothing stands between them. -/
  | quotes
  /-- Quotes around arguments of which there are none. -/
  | noArguments
  /-- The end of a field. -/
  | cut
  deriving DecidableEq, Repr

namespace Glyph

/-- The characters of a text. -/
def ofText (s : List Char) (quoted separable : Bool) : List Glyph :=
  s.map (char · quoted separable)

/-- The characters of an expanded word as a pattern. Where a field would end stands the first of the
separators. -/
def pattern (separators : List Char) (gs : List Glyph) : Pattern.Source :=
  gs.flatMap fun g => match g with
    | char c quoted _ => [(c, quoted)]
    | cut => (separators.take 1).map (·, true)
    | quotes | noArguments => []

/-- An expanded word as one text. -/
def text (separators : List Char) (gs : List Glyph) : String :=
  String.ofList (pattern separators gs |>.map Prod.fst)

/-- The place between fields. -/
inductive Gap where
  | none
  /-- A field has just been ended by a blank, so that one separator may still follow. -/
  | blank
  deriving DecidableEq

/-- The state while a word is cut: the complete fields and the present one, both the latest first,
and whether the present one has begun. -/
structure Cutting where
  complete : List Pattern.Source := []
  present : Pattern.Source := []
  begun : Bool := false
  /-- The present field has no right to be there without characters. -/
  hollow : Bool := false
  gap : Gap := .none

/-- Ends the present field, if it has begun. -/
def Cutting.close (s : Cutting) : Cutting :=
  if s.begun && !(s.hollow && s.present.isEmpty) then
    { complete := s.present.reverse :: s.complete, gap := s.gap }
  else { complete := s.complete, gap := s.gap }

/-- Takes one glyph. -/
def Cutting.step (separators : List Char) (s : Cutting) : Glyph → Cutting
  | quotes => { s with begun := true, hollow := false, gap := .none }
  | noArguments => { s with hollow := true }
  | cut => { s.close with gap := .none }
  | char c quoted separable =>
    if separable && separators.contains c then
      if c = ' ' ∨ c = '\t' ∨ c = '\n' then
        if s.begun then { s.close with gap := .blank } else s
      else if s.gap = .blank && !s.begun then { s with gap := .none }
      else { complete := s.present.reverse :: s.complete, gap := .none }
    else { s with present := (c, quoted) :: s.present, begun := true, gap := .none }

/-- The fields of an expanded word. -/
def fields (separators : List Char) (gs : List Glyph) : List Pattern.Source :=
  (gs.foldl (Cutting.step separators) {}).close.complete.reverse

end Glyph

/-! ### Patterns as paths -/

/-- The pieces of a pattern between slashes. -/
def patternPieces (present : Pattern.Source) : Pattern.Source → List Pattern.Source
  | [] => [present.reverse]
  | (c, q) :: cs =>
    if c = '/' then present.reverse :: patternPieces [] cs else patternPieces ((c, q) :: present) cs

/-- The text of a pattern without regard to its meaning. -/
def sourceText (s : Pattern.Source) : String :=
  String.ofList (s.map Prod.fst)

/-- The names in the directory at a path, in order. -/
def namesAt (d : Disk) (path : String) : List String :=
  match d.stat (if path.isEmpty then "." else unoctets path) with
  | .ok (l, .directory a) =>
    if a.allows .read then ("." :: ".." :: Tool.namesIn d l).mergeSort fun a b => decide (a ≤ b)
    else []
  | _ => []

/-- The paths that begin with a text and go on along the pieces of a pattern. -/
def pathsFrom (d : Disk) (before : String) : List Pattern.Source → List String
  | [] => [before]
  | piece :: rest =>
    let items := Pattern.parse piece
    let go (isThere : Bool) (name : String) : List String :=
      let path := before ++ name
      if rest.isEmpty then
        if isThere || name.isEmpty || (d.lstat (unoctets path)).toOption.isSome then [path] else []
      else if name.isEmpty || d.isDirectory (unoctets path) then pathsFrom d (path ++ "/") rest
      else []
    if items.all Pattern.Item.isExact then go false (sourceText piece)
    else
      let hidden := match items with
        | .exactly '.' :: _ => true
        | _ => false
      (namesAt d before).flatMap fun name =>
        if (hidden || !name.startsWith ".") && Pattern.fits items name.toList then go true name
        else []

/-- The field has a sign that makes it a pattern. -/
def isPattern (s : Pattern.Source) : Bool :=
  s.any fun (c, quoted) => !quoted && ['*', '?', '['].contains c

/-- The paths that fit a field, or the field itself if it is no pattern or fits nothing. -/
def matchingPaths (d : Disk) (s : Pattern.Source) : List String :=
  if isPattern s then
    match pathsFrom d "" (patternPieces [] s) with
    | [] => [sourceText s]
    | paths => paths
  else [sourceText s]

end AstCompare.Shell
