import AstCompare.Layout.Basic
import AstCompare.Text.Blank
import AstCompare.Text.Utf8

/-!
# A layout program as backend

The layout program reads the graph text from its standard input and is told the path of the picture
on its command line. It has done its work when it ends with success and a file stands at that path;
what the file holds is not looked at here.

## Main definitions

* `Command`, `Finished`, `Launcher`: running a program.
* `renderCommand`, `versionCommand`: the two command lines.
* `ofProgram`: the backend made of a launcher and the name of a program.
-/

namespace AstCompare.Layout

/-- A command line, and the text fed to the program if it gets one. -/
structure Command where
  program : String
  arguments : List String
  input : Option String
  deriving DecidableEq, Repr

/-- How a program ended: its exit code unless it was killed, and what it printed. -/
structure Finished where
  code : Option Int
  stdout : ByteArray
  stderr : ByteArray

/-- The program ended by itself and without complaint. -/
def Finished.success (f : Finished) : Bool :=
  f.code == some 0

/-- Why a program could not be run to its end. -/
inductive LaunchError where
  | notFound
  | brokenPipe
  | refused
  | notDirectory
  | nameTooLong
  | tooManyArguments
  | noProgram
  | tooManyLevels
  | nulByte
  deriving DecidableEq, Repr

/-- The words of the operating system. -/
def LaunchError.message : LaunchError → String
  | notFound => "No such file or directory (os error 2)"
  | brokenPipe => "Broken pipe (os error 32)"
  | refused => "Permission denied (os error 13)"
  | notDirectory => "Not a directory (os error 20)"
  | nameTooLong => "File name too long (os error 36)"
  | tooManyArguments => "Argument list too long (os error 7)"
  | noProgram => "Exec format error (os error 8)"
  | tooManyLevels => "Too many levels of symbolic links (os error 40)"
  | nulByte => "nul byte found in provided data"

/-- A way to run programs. -/
abbrev Launcher := Command → Disk → Except LaunchError Finished × Disk

/-- The command that draws a graph. -/
def renderCommand (program : String) (r : Request) : Command :=
  ⟨program, ["-Tpng", "-o", r.output], some r.dot⟩

/-- The command that asks for the version. -/
def versionCommand (program : String) : Command :=
  ⟨program, ["-V"], none⟩

/-- The trimmed text of what a program printed. -/
def printed (b : ByteArray) : String :=
  Text.trimmed (Text.lossyText b)

/-- The failure of a program that ended without success. -/
def complaint (f : Finished) : Failure :=
  .layout (printed f.stderr) f.code

/-- The failure of a program that could not be run. -/
def notRun (program : String) (e : LaunchError) : Failure :=
  .system ("run " ++ program) e.message

/-- Judges a finished drawing by its exit code and by the disk it left. -/
def judgeRender (program output : String) (f : Finished) (d : Disk) : Except Failure Unit :=
  if !f.success then .error (complaint f)
  else if !d.isFile output then
    .error (.layout (program ++ " produced no image at " ++ output) f.code)
  else .ok ()

/-- The version that a program told: on standard error if it printed anything there. -/
def judgeVersion (f : Finished) : Except Failure String :=
  if !f.success then .error (complaint f)
  else .ok (printed (if f.stderr.isEmpty then f.stdout else f.stderr))

/-- The backend made of a layout program. -/
def ofProgram (launch : Launcher) (program : String) : Backend where
  render _ r d :=
    match launch (renderCommand program r) d with
    | (.error e, d) => (.error (notRun program e), d)
    | (.ok f, d) => (judgeRender program r.output f d, d)
  version d :=
    match launch (versionCommand program) d with
    | (.error e, d) => (.error (notRun program e), d)
    | (.ok f, d) => (judgeVersion f, d)

end AstCompare.Layout
