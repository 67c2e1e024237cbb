import TelemetryRelay.Text.Blank
import TelemetryRelay.Text.Utf8

/-!
# Autopilot commands

The console drives the autopilot with lines such as
`CMD,AUTOPILOT START,course.txt`: fields between commas, without the spaces
around them.  A payload keeps the bytes of the line, `command` interprets them.
-/

namespace TelemetryRelay.Message

inductive PilotCommand where
  | start (course : String)
  | stop
  | sendCourseFileNames
  | response (text : String)
  | fileName (name : String)
  | unknown
  deriving DecidableEq, Repr

namespace PilotCommand

def opening : String := "CMD"
def startWord : String := "AUTOPILOT START"
def stopWord : String := "AUTOPILOT STOP"
def courseFilesWord : String := "AUTOPILOT SEND SET COURSE FILE NAMES"
def responseWord : String := "AUTOPILOT RESPONSE"
def fileNameWord : String := "AUTOPILOT FILE NAME"

/-- The fields of a line, without the spaces at their ends. -/
def fields (line : String) : List String :=
  (Text.splitAt ',' line.toList).map fun field =>
    String.ofList (Text.trimList (· == ' ') field)

/-- A start has exactly one parameter; what follows the words of another
command beyond its own parameter is ignored. -/
def ofFields : List String → PilotCommand
  | first :: word :: parameters =>
    if first ≠ opening then .unknown
    else if word = stopWord then .stop
    else if word = courseFilesWord then .sendCourseFileNames
    else match parameters with
      | [] => .unknown
      | parameter :: more =>
        if word = startWord ∧ more = [] then .start parameter
        else if word = responseWord then .response parameter
        else if word = fileNameWord then .fileName parameter
        else .unknown
  | _ => .unknown

def parse (line : String) : PilotCommand := ofFields (fields line)

def line (words : List String) : String := ",".intercalate (opening :: words)

def encode : PilotCommand → String
  | .start course => line [startWord, course]
  | .stop => line [stopWord]
  | .sendCourseFileNames => line [courseFilesWord]
  | .response text => line [responseWord, text]
  | .fileName name => line [fileNameWord, name]
  | .unknown => ""

end PilotCommand

structure PilotData where
  data : Bytes
  deriving DecidableEq, Repr

namespace PilotData

def ofText (text : String) : PilotData := ⟨Text.Utf8.encode text⟩

def ofCommand (command : PilotCommand) : PilotData := ofText command.encode

def text (p : PilotData) : String := Text.Utf8.decodeLossy p.data

def command (p : PilotData) : PilotCommand := PilotCommand.parse p.text

def render (p : PilotData) : String := s!"PilotData: '{p.text}'"

end PilotData

end TelemetryRelay.Message
