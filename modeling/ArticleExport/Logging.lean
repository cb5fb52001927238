import ArticleExport.Failure
import ArticleExport.Json.Access

/-!
# Loggers

The loggers of a host.  A logger is set up once: with a level, a handler for the console, and where a file
is named one for that file.  The logger at the root of the package is set up from the start, and loggers of
plugins have their names below it.
-/

namespace ArticleExport

/-- Where the records of a logger go. -/
inductive LogHandler where
  /-- To the console. -/
  | console
  /-- To a file at a path below the working directory. -/
  | file (path : Text)
deriving DecidableEq, Repr

/-- A logger. -/
structure Logger where
  /-- The level below which records are dropped. -/
  level : Int
  /-- Where the records go. -/
  handlers : List LogHandler
deriving DecidableEq, Repr

/-- The loggers of a host by name. -/
abbrev Loggers := Table Logger

namespace Loggers

/-- The name of the logger at the root of the package. -/
def rootName : Text := "exporter"

/-- The level of information. -/
def infoLevel : Int := 20

/-- The name of the level of information. -/
def infoLevelName : Text := "INFO"

/-- The level of everything that helps to find a mistake. -/
def debugLevel : Int := 10

/-- The levels by name. -/
def levels : Table Int :=
  [("CRITICAL", 50), ("FATAL", 50), ("ERROR", 40), ("WARN", 30), ("WARNING", 30),
    (infoLevelName, infoLevel), ("DEBUG", debugLevel), ("NOTSET", 0)]

/-- The level that a value stands for: a number, or the name of a level. -/
def levelOf : Json → Except Fault Int
  | .null => .ok infoLevel
  | .int n => .ok n
  | .bool b => .ok (if b then 1 else 0)
  | .str name => (Table.get? name levels).elim (.error (.unknownLevel name)) .ok
  | v => .error (.notANumber v.kindName)

/-- How a record is written. -/
def recordFormat : Text := "%(asctime)s - %(name)s - %(levelname)s - %(message)s"

/-- The path of the file where none is named. -/
def defaultFile : Text := "logs/exporter.log"

/-- The size in megabytes at which a file is put aside. -/
def maxMegabytes : Nat := 10

/-- How many files that were put aside are kept. -/
def backupCount : Nat := 5

/-- The loggers at the start. -/
def initial : Loggers := [(rootName, ⟨infoLevel, [.console]⟩)]

/-- The steps of a path without those that lead nowhere. -/
def pathSteps (found : List Text) : List Text → List Text
  | [] => found.reverse
  | step :: steps =>
    if step.isEmpty || step == Text.ofString "." then pathSteps found steps
    else if step == Text.ofString ".." then pathSteps found.tail steps
    else pathSteps (step :: found) steps

/-- A path in its shortest form. -/
def plainPath (path : Text) : Text := Text.join "/" (pathSteps [] (Text.splitOn (.scalar '/') path))

/-- The name of a logger of the package: the given one, below the root. -/
def nameOf (name : Option Text) : Text :=
  let given := name.getD []
  if given.isEmpty || given == rootName then rootName
  else if (rootName ++ ("." : Text)).isPrefixOf given then given
  else rootName ++ ("." : Text) ++ given

/-- Sets a logger up, unless it is.  A path that leads nowhere names a directory: the logger then has its
level and the console. -/
def setup (ls : Loggers) (name : Option Text) (file : Option Text) (level : Json) :
    Loggers × Except Fault (Text × Logger) :=
  let name := match name with
    | some t => if t.isEmpty then rootName else t
    | none => rootName
  let l := (Table.get? name ls).getD ⟨0, []⟩
  if !l.handlers.isEmpty then (ls, .ok (name, l))
  else match levelOf level with
    | .error f => (ls, .error f)
    | .ok level =>
      let l : Logger := ⟨level, [.console]⟩
      match file.map plainPath with
      | none => (Table.set name l ls, .ok (name, l))
      | some path =>
        if path.isEmpty then (Table.set name l ls, .error .isDirectory)
        else
          let l := { l with handlers := l.handlers ++ [.file path] }
          (Table.set name l ls, .ok (name, l))

end Loggers

/-- A handler as JSON. -/
def LogHandler.report : LogHandler → Json
  | console => .arr ["StreamHandler", .int Loggers.infoLevel, .str Loggers.recordFormat]
  | file path => .arr ["RotatingFileHandler", .int Loggers.debugLevel, .str Loggers.recordFormat,
      .nat (Loggers.maxMegabytes * 1024 * 1024), .nat Loggers.backupCount, "utf-8", .str path]

/-- A logger as JSON. -/
def Logger.report (name : Text) (l : Logger) : Json :=
  .arr [.str name, .int l.level, .arr (l.handlers.map LogHandler.report)]

end ArticleExport
