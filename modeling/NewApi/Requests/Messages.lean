import Mathlib.Data.List.Basic

/-!
# Messages of a chat completion request

`dto.Message` as the converters from other formats fill it, for any type of call ids.
-/

namespace NewApi.Requests

/-- `MediaContent` of the types `text` and `image_url`. -/
inductive MediaContent where
  | text (text cacheControl : String)
  | imageUrl (url detail mimeType : String)
  deriving DecidableEq

/-- `Message.Content`: nil, a string or a list. -/
inductive MessageContent where
  | null
  | string (text : String)
  | media (contents : List MediaContent)
  deriving DecidableEq

def MessageContent.parseContent : MessageContent → List MediaContent
  | .null => []
  | .string text => [.text text ""]
  | .media contents => contents

/-- `ToolCallRequest` of the type `function`, with the name and the arguments of its function. -/
structure ToolCallRequest (Id : Type) where
  id : Id
  name : String
  arguments : String
  deriving DecidableEq

structure Message (Id : Type) where
  role : String
  content : MessageContent := .null
  name : Option String := none
  toolCalls : List (ToolCallRequest Id) := []
  toolCallId : Option Id := none
  deriving DecidableEq

/-- The message has content or calls; otherwise the converters leave it out. -/
def Message.HasContent {Id : Type} (message : Message Id) : Prop :=
  message.content.parseContent.length > 0 ∨ message.toolCalls.length > 0
  deriving Decidable

/-- `Tool` and `FunctionRequest`: what is declared of a function. The schema is JSON text. -/
structure FunctionDeclaration where
  name : String
  description : String := ""
  parameters : String := ""
  deriving DecidableEq

end NewApi.Requests
