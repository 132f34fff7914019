import CloudGate.Console.Paint
import CloudGate.Invocation
import CloudGate.Settings.Issue
import CloudGate.Settings.OutputFormat
import CloudGate.Tool.Encoding

/-!
What people see: results, the catalog, problems of the settings and progress.
-/

namespace CloudGate.Console

/-- The lines of a text. A line ends in a line feed, with or without a carriage return before it,
and an empty line after the last end is none. -/
def linesOf (cs : List Char) : List (List Char) :=
  let pieces := Text.splitBy '\n' cs
  let dropReturn (line : List Char) : List Char :=
    if line.getLast? = some '\r' then line.dropLast else line
  let ended := pieces.dropLast.map dropReturn
  match pieces.getLast? with
  | none | some [] => ended
  | some last => ended ++ [last]

/-- Puts a text before every line. -/
def indent (s before : String) : String :=
  "\n".intercalate ((linesOf s.toList).map fun line => before ++ String.ofList line)

/-- The counts of a list result, if both are there. -/
def countsText (color : Bool) (m : Measures) : String :=
  match m.totalItems, m.returnedItems with
  | some total, some returned =>
    " " ++ paint color [.dimmed]
      ("(" ++ toString returned ++ " of " ++ toString total ++ " items)")
  | _, _ => ""

def durationText (color : Bool) (m : Measures) : String :=
  match m.durationMs with
  | some ms => " " ++ paint color [.dimmed] (toString ms ++ "ms")
  | none => ""

def statusText (color : Bool) (r : ToolResult) : String :=
  if !r.success then paint color [.bold, .red] "failed"
  else if r.measures.dryRun then paint color [.bold, .cyan] "checked"
  else paint color [.bold, .green] "ok"

def errorText (color : Bool) (e : ToolError) : String :=
  paint color [.bold, .yellow] e.code ++ " " ++ e.message ++ "\n" ++
    match e.details with
    | some d => "  " ++ paint color [.dimmed] "details:" ++ " " ++ d ++ "\n"
    | none => ""

/-- A result for people: a head line, the error, and the output with an indentation. -/
def resultText (color : Bool) (r : ToolResult) : String :=
  statusText color r ++ " " ++ paint color [.bold] r.tool ++ countsText color r.measures ++
    durationText color r.measures ++ "\n" ++
    (match r.error with
     | some e => errorText color e
     | none => "") ++
    match r.output with
    | some v => indent v.pretty "  " ++ "\n"
    | none => ""

/-- A result for programs, with its fields in the order of their declaration. -/
def resultJson (r : ToolResult) : String := (Json.obj r.members).pretty

def render (format : OutputFormat) (color : Bool) (r : ToolResult) : String :=
  match format with
  | .pretty => resultText color r
  | .json => resultJson r

def badge (color : Bool) (c : Classification) : String :=
  let styles : List Style :=
    match c with
    | .irreversible => [.bold, .red]
    | .billable => [.yellow]
    | .secretExposure => [.magenta]
    | .configurationChange => [.blue]
  paint color styles ("[" ++ c.name ++ "]")

/-- Fills a text with spaces on the right. -/
def padRight (width : Nat) (s : String) : String :=
  s ++ String.ofList (List.replicate (width - s.length) ' ')

def toolLine (color : Bool) (width : Nat) (t : Tool) : String :=
  let badges := t.classifications.map (badge color)
  padRight width t.name ++ "  " ++ (if badges.isEmpty then "" else " ".intercalate badges ++ " ") ++
    paint color [.dimmed] t.description ++ "\n"

/-- The catalog with one line for every tool. -/
def catalogText (color : Bool) (r : Registry) : String :=
  let width := (r.all.map (·.name.utf8ByteSize)).foldl max 0
  paint color [.bold, .cyan] (toString r.size ++ " tools") ++ "\n" ++
    String.ofList (List.replicate 40 '-') ++ "\n" ++
    String.join (r.all.map (toolLine color width))

def issueLine (color : Bool) (i : Settings.Issue) : String :=
  (if i.isError then paint color [.bold, .red] "error:"
   else paint color [.bold, .yellow] "warning:") ++ " " ++ i.message ++ "\n"

/-- Problems of the settings, errors first. -/
def issuesText (color : Bool) (issues : List Settings.Issue) : String :=
  String.join
    ((issues.filter (·.isError) ++ issues.filter fun i => !i.isError).map (issueLine color))

def progressLine (color : Bool) : Progress → String
  | .dispatched tool => paint color [.cyan] "->" ++ " " ++ paint color [.bold] tool ++ "\n"
  | .completed tool true => "  " ++ paint color [.green] "v" ++ " " ++ tool ++ "\n"
  | .completed tool false => "  " ++ paint color [.red] "x" ++ " " ++ tool ++ " (failed)\n"

end CloudGate.Console
