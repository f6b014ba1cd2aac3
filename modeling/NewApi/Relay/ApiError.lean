import NewApi.Lib.Text

/-!
# Errors of an attempt

`NewAPIError` is what the handlers of upstream responses return, with the code of the upstream's own
text.
-/

namespace NewApi.Relay

open Lib

/-- The parts of `NewAPIError` that the retry decision reads. -/
structure NewAPIError where
  errorCode : String
  message : String
  statusCode : Int := 500
  skipRetry : Bool := false
  deriving DecidableEq

structure ClaudeError where
  type : String
  message : String := ""

/-- The code is `none` for null and otherwise its text. -/
structure OpenAIError where
  type : String
  code : Option String := none
  message : String := ""

def withClaudeError (claudeError : ClaudeError) (statusCode : Int) : NewAPIError where
  errorCode := if claudeError.type = "" then "upstream_error" else claudeError.type
  message := claudeError.message
  statusCode := statusCode

def withOpenAIError (openAIError : OpenAIError) (statusCode : Int) : NewAPIError where
  errorCode := openAIError.code.getD "unknown_error"
  message := openAIError.message
  statusCode := statusCode

def hasCSAMViolationMarker (err : NewAPIError) : Bool :=
  contains err.message "Failed check: SAFETY_CHECK_TYPE" ||
    contains err.message "Content violates usage guidelines"

def normalizeViolationFeeError (err : NewAPIError) : NewAPIError :=
  if hasCSAMViolationMarker err then
    { err with errorCode := "violation_fee.grok.csam", skipRetry := true }
  else if startsWith err.errorCode "violation_fee." then { err with skipRetry := true }
  else err

end NewApi.Relay
