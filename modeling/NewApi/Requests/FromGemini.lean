import Mathlib.Data.List.Nodup
import Mathlib.Data.Rat.Init
import NewApi.Gemini.ToOpenAI
import NewApi.Requests.Messages

/-!
# Gemini requests for OpenAI

`GeminiToOpenAIRequest`: the ids of tool calls are numbered anew in every content, and a function
response gets the number of calls before it in its own content. The stop sequences are cut to four,
also if there are fewer.
-/

namespace NewApi.Requests

open List
open Gemini (FunctionCall GeminiInlineData)

section

structure GeminiFileData where
  mimeType : String
  fileUri : String

/-- The response is represented by its JSON text. -/
structure GeminiFunctionResponse where
  name : String
  response : String
  deriving DecidableEq

/-- `GeminiPart`, the fields that are read. -/
structure RequestPart where
  text : String := ""
  inlineData : Option GeminiInlineData := none
  fileData : Option GeminiFileData := none
  functionCall : Option FunctionCall := none
  functionResponse : Option GeminiFunctionResponse := none

structure GeminiChatContent where
  role : String
  parts : List RequestPart

/-- A slice of strings: its items, and what its array holds behind them. -/
structure StringSlice where
  items : List String := []
  spare : List String := []

/-- `slice[:n]`: up to the capacity of the array; beyond it the slicing panics. -/
def StringSlice.upTo (slice : StringSlice) (n : Nat) : Option (List String) :=
  if n ≤ (slice.items ++ slice.spare).length then some ((slice.items ++ slice.spare).take n)
  else none

/-- `GeminiChatGenerationConfig`, the fields that are read. -/
structure GenerationConfig where
  temperature : Option ℚ := none
  topP : Option ℚ := none
  topK : Option ℚ := none
  maxOutputTokens : Option Nat := none
  candidateCount : Option Int := none
  stopSequences : StringSlice := {}

/-- The stop sequences that are sent; `none` is a panic. -/
def GenerationConfig.stop (config : GenerationConfig) : Option (List String) :=
  if config.stopSequences.items.length > 0 then config.stopSequences.upTo 4 else some []

/-- A tool has its function declarations, if they can be read; of the system instructions their
parts are given. -/
structure GeminiChatRequest where
  contents : List GeminiChatContent
  generationConfig : GenerationConfig := {}
  tools : List (Option (List FunctionDeclaration)) := []
  systemInstructions : Option (List RequestPart) := none

/-- `GeneralOpenAIRequest`, the fields that are set. The id of a tool call is the number in
`call_%d`. -/
structure ConvertedRequest where
  model : String
  stream : Bool
  messages : List (Message Nat)
  temperature : Option ℚ
  topP : Option ℚ
  topK : Option Int
  maxTokens : Option Nat
  stop : List String
  n : Option Int
  tools : List FunctionDeclaration

def convertGeminiRoleToOpenAI : String → String
  | "user" => "user"
  | "model" => "assistant"
  | "function" => "function"
  | _ => "user"

def extractTextFromGeminiParts (parts : List RequestPart) : String :=
  "\n".intercalate ((parts.map (·.text)).filter (· ≠ ""))

structure PartsRead where
  toolMessages : List (Message Nat) := []
  mediaContents : List MediaContent := []
  toolCalls : List (ToolCallRequest Nat) := []

def PartsRead.part (read : PartsRead) (part : RequestPart) : PartsRead :=
  if part.text ≠ "" then
    { read with mediaContents := read.mediaContents ++ [.text part.text ""] }
  else
    match part.inlineData, part.fileData, part.functionCall, part.functionResponse with
    | some inlineData, _, _, _ =>
      { read with
        mediaContents := read.mediaContents ++
          [.imageUrl ("data:" ++ inlineData.mimeType ++ ";base64," ++ inlineData.data) "auto"
            inlineData.mimeType] }
    | none, some fileData, _, _ =>
      { read with
        mediaContents := read.mediaContents ++
          [.imageUrl fileData.fileUri "auto" fileData.mimeType] }
    | none, none, some call, _ =>
      { read with
        toolCalls := read.toolCalls ++
          [⟨read.toolCalls.length + 1, call.functionName, call.arguments⟩] }
    | none, none, none, some response =>
      { read with
        toolMessages := read.toolMessages ++
          [{ role := "tool", toolCallId := some read.toolCalls.length
             content := .string response.response }] }
    | none, none, none, none => read

/-- The message of a content: its calls, or else a single text as a string, or else the list of
its texts and images. -/
def PartsRead.message (role : String) (read : PartsRead) : Message Nat where
  role := role
  toolCalls := read.toolCalls
  content :=
    if read.toolCalls.length > 0 then .null
    else
      match read.mediaContents with
      | [] => .null
      | [.text text _] => .string text
      | contents => .media contents

def convertContent (content : GeminiChatContent) : List (Message Nat) :=
  let read := content.parts.foldl PartsRead.part {}
  let message := read.message (convertGeminiRoleToOpenAI content.role)
  read.toolMessages ++ if message.HasContent then [message] else []

/-- `none` is the panic of a slicing. -/
def geminiToOpenAIRequest (upstreamModelName : String) (isStream : Bool)
    (request : GeminiChatRequest) : Option ConvertedRequest := do
  let config := request.generationConfig
  let stop ← config.stop
  some
    { model := upstreamModelName
      stream := isStream
      messages :=
        (request.systemInstructions.map fun parts =>
          { role := "system", content := .string (extractTextFromGeminiParts parts) }).toList ++
        request.contents.flatMap convertContent
      temperature := config.temperature
      topP := config.topP.filter (0 < ·)
      topK := (config.topK.filter (0 < ·)).map Rat.floor
      maxTokens := config.maxOutputTokens.filter (0 < ·)
      stop
      n := config.candidateCount.filter (0 < ·)
      tools := request.tools.flatMap (·.getD []) }

end

section

def RequestPart.call? (part : RequestPart) : Option FunctionCall :=
  if part.text = "" ∧ part.inlineData.isNone ∧ part.fileData.isNone then part.functionCall
  else none

def RequestPart.response? (part : RequestPart) : Option GeminiFunctionResponse :=
  if part.text = "" ∧ part.inlineData.isNone ∧ part.fileData.isNone ∧ part.functionCall.isNone then
    part.functionResponse
  else none

def GeminiChatContent.calls (content : GeminiChatContent) : List FunctionCall :=
  content.parts.filterMap (·.call?)

def GeminiChatRequest.responses (request : GeminiChatRequest) : List GeminiFunctionResponse :=
  request.contents.flatMap fun content => content.parts.filterMap (·.response?)

def assistantCalls (messages : List (Message Nat)) : List (ToolCallRequest Nat) :=
  (messages.filter (·.role = "assistant")).flatMap (·.toolCalls)

/-- What the converted request should be. There is a tool message for every response, with the id
of the call that it answers: of the calls of the same function before it, the one at the place
that the response has among the responses of this function. -/
structure Linked (request : GeminiChatRequest) (result : ConvertedRequest) : Prop where
  answered : result.messages.countP (·.toolCallId.isSome) = request.responses.length
  linked : ∀ before message after id, result.messages = before ++ message :: after →
    message.toolCallId = some id →
    ∃ response, request.responses[before.countP (·.toolCallId.isSome)]? = some response ∧
      ∃ call, ((assistantCalls before).filter (·.name = response.name))[
          (request.responses.take (before.countP (·.toolCallId.isSome))).countP
            (·.name = response.name)]? = some call ∧ call.id = id
  distinct : ((result.messages.flatMap (·.toolCalls)).map (·.id)).Nodup
  stop : result.stop = request.generationConfig.stopSequences.items.take 4

structure ReadParts (parts : List RequestPart) (read : PartsRead) : Prop where
  calls : read.toolCalls.length = (parts.filterMap (·.call?)).length
  ids : read.toolCalls.map (·.id) = List.range' 1 read.toolCalls.length
  responses : read.toolMessages.length = (parts.filterMap (·.response?)).length
  messages : ∀ message ∈ read.toolMessages, message.toolCalls = [] ∧
    ∃ id ≤ read.toolCalls.length, message.toolCallId = some id

theorem PartsRead.part_cases (rd : PartsRead) (pt : RequestPart) :
    pt.call? = none ∧ pt.response? = none ∧ (rd.part pt).toolCalls = rd.toolCalls ∧
        (rd.part pt).toolMessages = rd.toolMessages ∨
      (∃ call, pt.call? = some call ∧ pt.response? = none ∧
        (rd.part pt).toolCalls = rd.toolCalls ++
          [⟨rd.toolCalls.length + 1, call.functionName, call.arguments⟩] ∧
        (rd.part pt).toolMessages = rd.toolMessages) ∨
      ∃ response, pt.call? = none ∧ pt.response? = some response ∧
        (rd.part pt).toolCalls = rd.toolCalls ∧
        (rd.part pt).toolMessages = rd.toolMessages ++
          [{ role := "tool", toolCallId := some rd.toolCalls.length
             content := .string response.response }] := by
  obtain ⟨text, ind, fd, fc, fr⟩ := pt
  by_cases ht : text = ""
  · cases ind <;> cases fd <;> cases fc <;> cases fr <;>
      simp [PartsRead.part, RequestPart.call?, RequestPart.response?, ht]
  · simp [PartsRead.part, RequestPart.call?, RequestPart.response?, ht]

theorem ReadParts.part (h : ReadParts pts rd)
    (pt : RequestPart) : ReadParts (pts ++ [pt]) (rd.part pt) := by
  rcases rd.part_cases pt with ⟨hc, hre, hcs, hms⟩ |
    ⟨call, hc, hre, hcs, hms⟩ | ⟨response, hc, hre, hcs, hms⟩
  · exact ⟨by simp [hcs, hc, h.calls], by rw [hcs, h.ids],
      by simp [hms, hre, h.responses], by rw [hms, hcs]; exact h.messages⟩
  · refine ⟨by simp [hcs, hc, h.calls], ?_, by simp [hms, hre, h.responses], ?_⟩
    · rw [hcs, map_append, h.ids, length_append, length_singleton, range'_concat]
      simp [Nat.add_comm]
    intro message hmg
    rw [hms] at hmg
    obtain ⟨hn, id, hid, hmg⟩ := h.messages message hmg
    exact ⟨hn, id, by rw [hcs, length_append]; omega, hmg⟩
  refine ⟨by simp [hcs, hc, h.calls], by rw [hcs, h.ids], by simp [hms, hre, h.responses], ?_⟩
  intro message hmg
  rw [hms, mem_append, mem_singleton] at hmg
  rw [hcs]
  rcases hmg with hm | rfl
  · exact h.messages message hm
  · exact ⟨rfl, _, Nat.le_refl _, rfl⟩

theorem readParts (pts : List RequestPart) : ReadParts pts (pts.foldl PartsRead.part {}) := by
  induction pts using reverseRecOn with
  | nil => exact ⟨rfl, rfl, rfl, nofun⟩
  | append_singleton pts pt ih =>
    rw [foldl_append]
    exact ih.part pt

theorem items_message (role : String) (rd : PartsRead) :
    let msgs := if (rd.message role).HasContent then [rd.message role] else []
    msgs.flatMap (·.toolCalls) = rd.toolCalls ∧ msgs.countP (·.toolCallId.isSome) = 0 := by
  split
  · exact ⟨flatMap_singleton _ _, rfl⟩
  next hem =>
    refine ⟨?_, rfl⟩
    cases hcs : rd.toolCalls with
    | nil => rfl
    | cons call rs => exact absurd (.inr (by simp [PartsRead.message, hcs])) hem

structure ConvertedContent (content : GeminiChatContent) (messages : List (Message Nat)) :
    Prop where
  ids : (messages.flatMap (·.toolCalls)).map (·.id) = List.range' 1 content.calls.length
  answered : messages.countP (·.toolCallId.isSome) =
    (content.parts.filterMap (·.response?)).length
  -- a response comes before all calls of its content
  first : content.parts.filterMap (·.response?) ≠ [] → ∃ message rest id,
    messages = message :: rest ∧ message.toolCallId = some id ∧ id ≤ content.calls.length

theorem convertedContent : ConvertedContent ct (convertContent ct) := by
  have h := readParts ct.parts
  rw [convertContent]
  generalize ct.parts.foldl PartsRead.part {} = rd at h ⊢
  have htl : rd.toolMessages.flatMap (·.toolCalls) = [] :=
    flatMap_eq_nil_iff.mpr fun message hms => (h.messages message hms).1
  have han : rd.toolMessages.countP (·.toolCallId.isSome) = rd.toolMessages.length :=
    countP_eq_length.mpr fun message hms => by
      obtain ⟨-, id, -, hid⟩ := h.messages message hms
      rw [hid, Option.isSome_some]
  have hms := items_message (convertGeminiRoleToOpenAI ct.role) rd
  refine ⟨?_, ?_, fun hrs => ?_⟩
  · rw [flatMap_append, htl, hms.1, nil_append, h.ids, h.calls]
    rfl
  · rw [countP_append, han, hms.2, h.responses, Nat.add_zero]
  cases hmg : rd.toolMessages with
  | nil =>
    have hl := h.responses
    rw [hmg] at hl
    exact absurd (eq_nil_of_length_eq_zero hl.symm) hrs
  | cons message rs =>
    obtain ⟨-, id, hle, hid⟩ := h.messages message (hmg ▸ mem_cons_self)
    exact ⟨message, _, id, rfl, hid, h.calls ▸ hle⟩

theorem nodup_ids_iff (cts : List GeminiChatContent) :
    (((cts.flatMap convertContent).flatMap (·.toolCalls)).map (·.id)).Nodup ↔
      cts.Pairwise fun first second => first.calls = [] ∨ second.calls = [] := by
  have hid : ((cts.flatMap convertContent).flatMap (·.toolCalls)).map (·.id) =
      cts.flatMap fun ct => range' 1 ct.calls.length := by
    rw [flatMap_assoc, map_flatMap]
    exact flatMap_congr fun ct _ => (convertedContent).ids
  rw [hid, nodup_flatMap]
  refine (and_iff_right fun ct _ => nodup_range').trans ?_
  refine List.Pairwise.iff fun first second => ?_
  -- both lists of ids begin with one
  have hon : ∀ ct : GeminiChatContent,
      ct.calls = [] ∨ 1 ∈ range' 1 ct.calls.length := by
    intro ct
    cases ct.calls with
    | nil => exact .inl rfl
    | cons call rs => exact .inr (mem_range'_1.mpr (by simp))
  constructor
  · intro hdi
    rcases hon first with hfi | hfi
    · exact .inl hfi
    · exact .inr ((hon second).resolve_right fun hsc => hdi hfi hsc)
  · rintro (hn | hn)
    · simp [Function.onFun, hn]
    · simp [Function.onFun, hn]

theorem stop_iff (cfg : GenerationConfig) :
    cfg.stop = some (cfg.stopSequences.items.take 4) ↔
      cfg.stopSequences.items = [] ∨ 4 ≤ cfg.stopSequences.items.length := by
  rw [GenerationConfig.stop]
  generalize cfg.stopSequences = sli
  by_cases hn : sli.items = []
  · simp [hn]
  rw [if_pos (length_pos_iff.mpr hn), StringSlice.upTo]
  constructor
  · intro h
    split at h
    · next hca =>
        have hl := congrArg length (Option.some.inj h)
        rw [length_take, length_take] at hl
        exact .inr (by omega)
    · cases h
  · intro h
    have hfo := h.resolve_left hn
    rw [if_pos (by rw [length_append]; omega), take_append_of_le_length hfo]

theorem countP_convertContent (cts : List GeminiChatContent) :
    (cts.flatMap convertContent).countP (·.toolCallId.isSome) =
      (cts.flatMap fun ct => ct.parts.filterMap (·.response?)).length := by
  induction cts with
  | nil => rfl
  | cons ct rs ih =>
    rw [flatMap_cons, flatMap_cons, countP_append, length_append, ih,
      (convertedContent).answered]

theorem geminiToOpenAIRequest_spec (upstreamModelName : String) (isStream : Bool)
    (request : GeminiChatRequest) :
    ∃ system : List (Message Nat),
      (∀ message ∈ system, message.toolCalls = [] ∧ message.toolCallId = none) ∧
      ∀ stop, request.generationConfig.stop = some stop ↔
        ∃ result, geminiToOpenAIRequest upstreamModelName isStream request = some result ∧
          result.messages = system ++ request.contents.flatMap convertContent ∧
          result.stop = stop := by
  refine ⟨(request.systemInstructions.map fun pts =>
    { role := "system", content := .string (extractTextFromGeminiParts pts) }).toList, ?_,
    fun stop => ?_⟩
  · intro message hms
    obtain ⟨pts, -, rfl⟩ := Option.map_eq_some_iff.mp (Option.mem_toList.mp hms)
    exact ⟨rfl, rfl⟩
  rw [geminiToOpenAIRequest]
  generalize request.generationConfig.stop = given
  cases given with
  | none | some => simp

theorem responses_eq_nil {system : List (Message Nat)} {request : GeminiChatRequest}
    {result : ConvertedRequest}
    (hsystem : ∀ message ∈ system, message.toolCalls = [] ∧ message.toolCallId = none)
    (hms : result.messages = system ++ request.contents.flatMap convertContent)
    (h : Linked request result)
    (hpa : request.contents.Pairwise fun first second => first.calls = [] ∨ second.calls = []) :
    request.responses = [] := by
  refine flatMap_eq_nil_iff.mpr fun ct hco => ?_
  by_contra hresponses
  obtain ⟨pre, post, hsp⟩ := append_of_mem hco
  obtain ⟨message, rest, id, hcn, hid, hle⟩ := (convertedContent).first hresponses
  have hpl : result.messages = (system ++ pre.flatMap convertContent) ++
      message :: (rest ++ post.flatMap convertContent) := by
    rw [hms, hsp, flatMap_append, flatMap_cons, hcn]
    simp
  obtain ⟨response, -, call, hc, rfl⟩ := h.linked _ _ _ _ hpl hid
  -- the call is one of an earlier content
  have hm := (mem_filter.mp (mem_of_getElem? hc)).1
  obtain ⟨org, hor, hm⟩ := mem_flatMap.mp hm
  rcases mem_append.mp (mem_filter.mp hor).1 with ho | hne
  · rw [(hsystem org ho).1] at hm
    cases hm
  obtain ⟨earlier, her, hor⟩ := mem_flatMap.mp hne
  have his : call.id ∈ range' 1 earlier.calls.length := by
    rw [← (convertedContent).ids]
    exact mem_map_of_mem (mem_flatMap.mpr ⟨org, hor, hm⟩)
  have hbo := mem_range'_1.mp his
  rw [hsp, pairwise_append] at hpa
  rcases hpa.2.2 earlier her ct mem_cons_self with hn | hn
  · simp only [hn, length_nil] at hbo
    omega
  · simp only [hn, length_nil] at hle
    omega

/-- A converted request is as it should be exactly if it has no responses, one content has all its
calls, and it has no stop sequences or at least four. -/
theorem gemini_request_linked_iff (upstreamModelName : String) (isStream : Bool)
    (request : GeminiChatRequest) :
    (∃ result, geminiToOpenAIRequest upstreamModelName isStream request = some result ∧
        Linked request result) ↔
      request.responses = [] ∧
        (request.contents.Pairwise fun first second => first.calls = [] ∨ second.calls = []) ∧
        (request.generationConfig.stopSequences.items = [] ∨
          4 ≤ request.generationConfig.stopSequences.items.length) := by
  obtain ⟨system, hsy, hsp⟩ := geminiToOpenAIRequest_spec upstreamModelName isStream request
  have hca : ∀ messages, (system ++ messages).flatMap (·.toolCalls) =
      messages.flatMap (·.toolCalls) := fun messages => by
    rw [flatMap_append, flatMap_eq_nil_iff.mpr fun message h => (hsy message h).1,
      nil_append]
  rw [← stop_iff, hsp]
  constructor
  · rintro ⟨result, hre, h⟩
    obtain ⟨stop, hs⟩ : ∃ stop, request.generationConfig.stop = some stop := by
      cases hs : request.generationConfig.stop with
      | none =>
        rw [geminiToOpenAIRequest, hs] at hre
        cases hre
      | some stop => exact ⟨stop, rfl⟩
    obtain ⟨other, hot, hme, -⟩ := (hsp stop).mp hs
    cases hre.symm.trans hot
    have hdi := h.distinct
    rw [hme, hca, nodup_ids_iff] at hdi
    exact ⟨responses_eq_nil hsy hme h hdi, hdi, result, hre, hme,
      h.stop⟩
  · rintro ⟨hrs, hpa, result, hre, hme, hs⟩
    have hn : result.messages.countP (·.toolCallId.isSome) = 0 := by
      rw [hme, countP_append, countP_convertContent, Nat.add_eq_zero_iff]
      refine ⟨countP_eq_zero.mpr fun message h => ?_, congrArg length hrs⟩
      rw [(hsy message h).2]
      exact Bool.false_ne_true
    refine ⟨result, hre, ⟨by rw [hn, hrs]; rfl, ?_, ?_, hs⟩⟩
    · intro before message after id hsl hid
      have hm : message ∈ result.messages := by rw [hsl]; simp
      exact absurd (by rw [hid]; rfl) (countP_eq_zero.mp hn message hm)
    · rw [hme, hca]
      exact (nodup_ids_iff _).mpr hpa

def weatherRequest : GeminiChatRequest where
  contents :=
    [⟨"model", [{ functionCall := some ⟨"weather", "\x7b\x7d"⟩ }]⟩,
      ⟨"function", [{ functionResponse := some ⟨"weather", "\x7b\x7d"⟩ }]⟩]

/-- The call has the id `call_1`, the response that comes after it is for `call_0`. -/
theorem response_not_linked :
    (geminiToOpenAIRequest "gpt" false weatherRequest).map (·.messages.map fun message =>
        (message.role, message.toolCalls.map (·.id), message.toolCallId)) =
      some [("assistant", [1], none), ("tool", [], some 0)] := by
  decide +kernel

end

end NewApi.Requests
