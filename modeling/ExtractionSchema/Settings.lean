import ExtractionSchema.Json
import ExtractionSchema.Text.Numeral
import ExtractionSchema.Text.Quoted
import ExtractionSchema.Text.Uppercase

namespace ExtractionSchema

structure Settings where
  url : String
  timeout : Binary64
  attempts : Int
  logLevel : String
  host : String
  portNumber : Int
  reload : Bool
  deriving DecidableEq,Repr

inductive SettingError where
  | notANumber (text : String)
  | notAnInteger (text : String)
  | oversizedInteger (digits : Nat)
  deriving DecidableEq,Repr

def integerQuoteLimit : Nat := 200

def SettingError.message : SettingError → String
  | .notANumber text => "could not convert string to float: " ++ String.ofList (Text.quoted text)
  | .notAnInteger text =>
    "invalid literal for int() with base 10: "
      ++ String.ofList ((Text.quoted text).take integerQuoteLimit)
  | .oversizedInteger digits => Text.oversizedText digits

namespace Settings

def initial : Settings :=
  { url := "http://localhost:81/process/"
    timeout := Binary64.ofInt 60
    attempts := 2
    logLevel := "INFO"
    host := "0.0.0.0"
    portNumber := 8000
    reload := false }

def number (text : Option String) (unset : Binary64) : Except SettingError Binary64 :=
  match text with
  | none => .ok unset
  | some text =>
    match Text.decimal? Text.decimalDigit? text with
    | some value => .ok value
    | none => .error (.notANumber text)

def integer (text : Option String) (unset : Int) : Except SettingError Int :=
  match text with
  | none => .ok unset
  | some text =>
    match Text.integer Text.decimalDigit? text with
    | .ok value => .ok value
    | .error .malformed => .error (.notAnInteger text)
    | .error (.oversized digits) => .error (.oversizedInteger digits)

def flag (text : String) : Bool := Text.lowerAscii text == "true"

def ofVariables (given : Entries String) : Except SettingError Settings :=
  match number (given.get? "PROCESS_API_TIMEOUT") initial.timeout with
  | .error error => .error error
  | .ok timeout =>
    match integer (given.get? "PROCESS_API_MAX_RETRIES") initial.attempts with
    | .error error => .error error
    | .ok attempts =>
      (integer (given.get? "APP_PORT") initial.portNumber).map fun portNumber =>
        { url := (given.get? "PROCESS_API_URL").getD initial.url
          timeout := timeout
          attempts := attempts
          logLevel := ((given.get? "LOG_LEVEL").map Text.upper).getD initial.logLevel
          host := (given.get? "APP_HOST").getD initial.host
          portNumber := portNumber
          reload := ((given.get? "APP_RELOAD").map flag).getD initial.reload }

end Settings

end ExtractionSchema
