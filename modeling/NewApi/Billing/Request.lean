import NewApi.Lib.Int64
import NewApi.Lib.Outcome

/-!
# Text requests

The fields of a text request that validation and pricing read, in the formats with an output-token
limit, and the validation of `relay/helper/valid_request.go`. A limit is a `uint`, converted to
`int` without a check.
-/

namespace NewApi.Billing

open Lib

/-- The relay modes that `GetAndValidateTextRequest` tells apart. -/
inductive RelayMode where
  | chatCompletions
  | completions
  | embeddings
  | moderations
  | edits
  | unknown
  deriving DecidableEq, Repr

/-- A field of type `any`, as far as it is compared. -/
inductive AnyValue where
  | null
  | text (value : String)
  | other
  deriving DecidableEq, Repr

/-- The messages are counted, and of the fill-in-the-middle texts only the presence is read. -/
structure GeneralOpenAIRequest where
  model : String
  maxTokens : Option UInt64 := none
  maxCompletionTokens : Option UInt64 := none
  /-- `WebSearchOptions.SearchContextSize`, if the options are given. -/
  searchContextSize : Option String := none
  prompt : AnyValue := .null
  messages : Nat := 0
  hasPrefix : Bool := false
  hasSuffix : Bool := false
  input : AnyValue := .null
  instruction : String := ""
  deriving DecidableEq

structure ClaudeRequest where
  model : String
  messages : Nat
  maxTokens : Option UInt64 := none
  deriving DecidableEq

structure OpenAIResponsesRequest where
  model : String
  hasInput : Bool
  maxOutputTokens : Option UInt64 := none
  deriving DecidableEq

structure GeminiChatRequest where
  contents : Nat
  requests : Nat := 0
  maxOutputTokens : Option UInt64 := none
  deriving DecidableEq

inductive TextRequest where
  | openAI (relayMode : RelayMode) (request : GeneralOpenAIRequest)
  | claude (request : ClaudeRequest)
  | responses (request : OpenAIResponsesRequest)
  | gemini (request : GeminiChatRequest)
  deriving DecidableEq

/-! ## Validation -/

/-- `math.MaxInt32 / 2`. -/
def maxTokensLimit : UInt64 := 1073741823

/-- The model that `GetAndValidateTextRequest` fills in. `pathModel` is the model of the path. -/
def defaultModel (pathModel : String) (relayMode : RelayMode) (model : String) : String :=
  if relayMode = .moderations ∧ model = "" then "text-moderation-latest"
  else if relayMode = .embeddings ∧ model = "" then pathModel
  else model

/-- The search context size that `GetAndValidateTextRequest` accepts or fills in. -/
def validSearchContextSize : Option String → Except String (Option String)
  | none => .ok none
  | some size =>
    if size = "" then .ok (some "medium")
    else if size ∈ ["high", "medium", "low"] then .ok (some size)
    else .error "invalid search_context_size, must be one of: high, medium, low"

def requiredField (relayMode : RelayMode) (request : GeneralOpenAIRequest) : Option String :=
  match relayMode with
  | .completions =>
    if request.prompt = .text "" then some "field prompt is required" else none
  | .chatCompletions =>
    if request.messages = 0 ∧ ¬ request.hasPrefix ∧ ¬ request.hasSuffix then
      some "field messages is required"
    else none
  | .moderations =>
    if request.input = .null ∨ request.input = .text "" then some "field input is required"
    else none
  | .edits => if request.instruction = "" then some "field instruction is required" else none
  | .embeddings | .unknown => none

/-- Only `max_tokens` is bounded. -/
def getAndValidateTextRequest (pathModel : String) (relayMode : RelayMode)
    (request : GeneralOpenAIRequest) : Except String GeneralOpenAIRequest :=
  let model := defaultModel pathModel relayMode request.model
  if request.maxTokens.getD 0 > maxTokensLimit then .error "max_tokens is invalid"
  else if model = "" then .error "model is required"
  else
    match validSearchContextSize request.searchContextSize with
    | .error e => .error e
    | .ok searchContextSize =>
      match requiredField relayMode request with
      | some e => .error e
      | none => .ok { request with model, searchContextSize }

def getAndValidateClaudeRequest (request : ClaudeRequest) : Except String ClaudeRequest :=
  if request.messages = 0 then .error "field messages is required"
  else if request.model = "" then .error "field model is required"
  else .ok request

def getAndValidateResponsesRequest (request : OpenAIResponsesRequest) :
    Except String OpenAIResponsesRequest :=
  if request.model = "" then .error "model is required"
  else if ¬ request.hasInput then .error "input is required"
  else .ok request

def getAndValidateGeminiRequest (request : GeminiChatRequest) :
    Except String GeminiChatRequest :=
  if request.contents = 0 ∧ request.requests = 0 then .error "contents is required"
  else .ok request

/-- `GetAndValidateRequest` on a text request. -/
def getAndValidateRequest (pathModel : String) : TextRequest → Except String TextRequest
  | .openAI relayMode request =>
    (getAndValidateTextRequest pathModel relayMode request).map (.openAI relayMode)
  | .claude request => (getAndValidateClaudeRequest request).map .claude
  | .responses request => (getAndValidateResponsesRequest request).map .responses
  | .gemini request => (getAndValidateGeminiRequest request).map .gemini

structure AcceptedRequest where
  pathModel : String
  received : TextRequest
  request : TextRequest
  accepted : getAndValidateRequest pathModel received = .ok request

/-! ## The token meta -/

/-- The fields of `types.TokenCountMeta` that pricing reads. -/
structure TokenCountMeta where
  maxTokens : Int := 0
  imagePriceRatio : ℚ := 0

/-- `int(limit)`, with a missing limit read as zero. -/
def limitToInt (limit : Option UInt64) : Int :=
  Int64.wrap (limit.getD 0).toNat

def GeneralOpenAIRequest.outputLimit (request : GeneralOpenAIRequest) : Int :=
  if request.maxCompletionTokens.getD 0 > request.maxTokens.getD 0 then
    limitToInt request.maxCompletionTokens
  else limitToInt request.maxTokens

def getTokenCountMeta : TextRequest → TokenCountMeta
  | .openAI _ request => { maxTokens := request.outputLimit }
  | .claude request => { maxTokens := limitToInt request.maxTokens }
  | .responses request => { maxTokens := limitToInt request.maxOutputTokens }
  | .gemini request => { maxTokens := limitToInt request.maxOutputTokens }

/-- `fastTokenCountMetaForPricing`, which leaves the limit of a Gemini request out. -/
def fastTokenCountMetaForPricing : TextRequest → TokenCountMeta
  | .gemini _ => {}
  | request => getTokenCountMeta request

/-- The meta that `Relay` prices: the fast one when neither the prompt is checked nor the tokens
are counted. -/
def AcceptedRequest.tokenMeta (accepted : AcceptedRequest) (needTexts : Bool) : TokenCountMeta :=
  if needTexts then getTokenCountMeta accepted.request
  else fastTokenCountMetaForPricing accepted.request

end NewApi.Billing
