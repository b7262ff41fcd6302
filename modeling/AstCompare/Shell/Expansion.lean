import AstCompare.Shell.Fields
import AstCompare.Shell.Machine

/-!
# What stands in for words

A tilde stands for a home directory, a parameter for its value, and a command in a word for what it
prints. The texts that stand in for them are described here; the shell finds them when it runs a
command.

## Main definitions

* `withHome`: a word with its tildes replaced.
* `parameterGlyphs?`, `argumentGlyphs`: the value of a parameter as it stands in a word.
* `capturedText`: printed text as a value.
-/

namespace AstCompare.Shell

/-- The home directory that stands behind a tilde and a name. -/
def home? (m : Machine) (user : List Char) : Option String :=
  if user.isEmpty then m.value? "HOME"
  else if user = "root".toList then some "/root" else none

/-- Bare text with a tilde at its beginning replaced. In the value of an assignment a colon ends the
name, too. `last` tells that nothing follows the text. -/
def tildeText (m : Machine) (assignment last : Bool) (cs : List Char) : List Part :=
  match cs with
  | '~' :: rest =>
    let user := rest.takeWhile fun c => c != '/' && !(assignment && c == ':')
    if user.length == rest.length && !last then [.text cs false]
    else
      match home? m user with
      | some h => [.text h.toList true, .text (rest.drop user.length) false]
      | none => [.text cs false]
  | cs => [.text cs false]

/-- The texts between colons, each but the first with its colon in front. -/
def atColons (present : List Char) : List Char → List (List Char)
  | [] => [present.reverse]
  | ':' :: cs => present.reverse :: (atColons [] cs).modifyHead (':' :: ·)
  | c :: cs => atColons (c :: present) cs

/-- A word with its tildes replaced. -/
def withHome (m : Machine) (assignment : Bool) (w : Word) : Word :=
  match w with
  | .text cs false :: rest =>
    if !cs.contains '~' then w
    else if assignment then
      let texts := atColons [] cs
      (texts.zipIdx.flatMap fun (t, i) =>
        let last := i + 1 < texts.length || rest.isEmpty
        match t with
        | ':' :: t => .text [':'] false :: tildeText m true last t
        | t => tildeText m true last t) ++ rest
    else tildeText m false rest.isEmpty cs ++ rest
  | w => w

/-- The arguments as they stand in a word. -/
def argumentGlyphs (m : Machine) (name : String) (quoted : Bool) : List Glyph :=
  if quoted && name == "*" then
    .quotes :: Glyph.ofText ((m.parameter? "*").getD "").toList true false
  else if m.arguments.isEmpty then (if quoted then [.noArguments] else [])
  else
    let each := m.arguments.map fun a =>
      (if quoted then [Glyph.quotes] else []) ++ Glyph.ofText a.toList quoted (!quoted)
    ([Glyph.cut].intercalate each)

/-- The value of a parameter as it stands in a word, if it has one. -/
def parameterGlyphs? (m : Machine) (name : String) (quoted : Bool) : Option (List Glyph) :=
  if name == "@" || name == "*" then
    if m.arguments.isEmpty then none else some (argumentGlyphs m name quoted)
  else
    (m.parameter? name).map fun s =>
      (if quoted then [Glyph.quotes] else []) ++ Glyph.ofText s.toList quoted (!quoted)

/-- What was printed, as a value: without zeros, and without the line feeds at its end. -/
def capturedText (d : Data) : String :=
  let cs := d.text.toList.filter (· != '\x00')
  String.ofList (cs.reverse.dropWhile (· == '\n')).reverse

end AstCompare.Shell
