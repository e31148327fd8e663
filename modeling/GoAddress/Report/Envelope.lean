import GoAddress.Diagnostic
import GoAddress.Report.Failure
import GoAddress.Report.Json

/-!
# Answers on the command line

An answer goes out as text or as one structured value, the envelope, which has the same fields for
results and failures. In text, results go to standard output, failures and remarks to standard
error.
-/

namespace GoAddress

/-- The version of the tool. -/
def toolVersion : String := "0.1.0"

/-- How answers are written. -/
inductive OutputFormat where
  | text | json
deriving DecidableEq, Repr

/-- What goes to standard output: text, or an envelope. -/
inductive Stdout where
  | text (s : String)
  | envelope (value : Report.Json)

/-- What a request prints and exits with. -/
structure Printed where
  /-- The exit code. -/
  exit : ExitCode
  /-- Standard output. -/
  stdout : Stdout
  /-- Standard error. -/
  stderr : String := ""

namespace Report

/-- A remark as a structured value. -/
def diagnosticJson (d : Diagnostic) : Json :=
  .object ([("kind", .string d.kind.text), ("severity", .string d.severity.text),
    ("message", .string d.message)] ++ Json.unlessEmpty "candidates" .string d.candidates)

/-- The fields that say with which version an answer was made. -/
def versionField : List (String × Json) :=
  [("meta", .object [("version", .string toolVersion)])]

/-- The envelope of a result. A result with an exit code other than success names that code. -/
def resultEnvelope (data : Json) (code : ExitCode) (message : String)
    (remarks : List Diagnostic) : List (String × Json) :=
  [("status", .string "success"),
    ("code", .string (if code.isSuccess then "OK" else code.token)),
    ("message", .string message), ("data", data)] ++
    Json.unlessEmpty "diagnostics" diagnosticJson remarks ++ [("exit_code", .number code.number)]

/-- The envelope of a failure. -/
def failureEnvelope (failure : Failure) (didYouMean : List String) (remarks : List Diagnostic) :
    List (String × Json) :=
  [("status", .string "error"), ("code", .string failure.statusCode),
    ("message", .string failure.message),
    ("error", .object ([("suggestions", Json.strings failure.advice)] ++
      Json.unlessEmpty "did_you_mean" .string didYouMean ++
      Json.optional "resolved" .string failure.partial?))] ++
    Json.unlessEmpty "diagnostics" diagnosticJson remarks ++
    [("exit_code", .number failure.exitCode.number)]

/-- A message that something succeeded. -/
def successText (text : String) : String := "✓ " ++ text

/-- A message that something failed. -/
def failureText (text : String) : String := "✗ " ++ text

/-- A message of caution. -/
def warningText (text : String) : String := "⚠ " ++ text

/-- Texts on lines of their own. -/
def lines (texts : List String) : String :=
  String.join (texts.map (· ++ "\n"))

/-- Remarks on lines of their own. -/
def remarkLines (remarks : List Diagnostic) : String :=
  lines (remarks.map fun d => warningText d.text)

/-- Prints a result that has a structured form and a text. -/
def result (format : OutputFormat) (data : Json) (text : String) (code : ExitCode)
    (message : String) (remarks : List Diagnostic) : Printed :=
  match format with
  | .json =>
    { exit := code
      stdout := .envelope (.object (resultEnvelope data code message remarks ++ versionField)) }
  | .text =>
    { exit := code, stdout := .text text
      stderr := (if code.isSuccess then "" else message ++ "\n") ++ remarkLines remarks }

/-- Prints the result of a request that succeeded. -/
def success (format : OutputFormat) (data : Json) (text : String) (remarks : List Diagnostic) :
    Printed :=
  result format data text .success "Operation completed successfully" remarks

/-- What a failure prints on standard error. -/
def failureLines (failure : Failure) (didYouMean : List String) : String :=
  lines ([failureText failure.message] ++
    (if didYouMean.isEmpty then [] else "Did you mean:" :: didYouMean.map ("  " ++ ·)) ++
    failure.advice.map ("  Suggestion: " ++ ·))

/-- Prints a failure with addresses near the one sought. -/
def failure (format : OutputFormat) (failure : Failure) (didYouMean : List String)
    (remarks : List Diagnostic) : Printed :=
  match format with
  | .json =>
    { exit := failure.exitCode
      stdout := .envelope (.object (failureEnvelope failure didYouMean remarks ++ versionField)) }
  | .text =>
    { exit := failure.exitCode, stdout := .text ""
      stderr := failureLines failure didYouMean ++ remarkLines remarks }

/-- Puts a message before what is printed, in text only. -/
def withInfo (message : String) (p : Printed) : Printed :=
  match p.stdout with
  | .text s => { p with stdout := .text (message ++ "\n" ++ s) }
  | .envelope _ => p

end Report

end GoAddress
