import Mathlib.Data.Rat.Init
import NewApi.Lib.Lists
import NewApi.Lib.Loop
import NewApi.Requests.Messages

/-!
# Claude requests for OpenAI

`ClaudeToOpenAIRequest`: a message with blocks becomes a tool message for each tool result, and one
with its calls or else with its texts and images. The conversation arrives exactly if no message
says anything besides its calls or before its results, and every image is given by its data.
-/

namespace NewApi.Requests

open Lib List

section

structure ClaudeMessageSource where
  type : String := "base64"
  mediaType : String := ""
  data : Option String := none
  url : String := ""
  deriving DecidableEq

/-- The URL that is made of a source, of whatever type; `%s` prints missing data like this. -/
def ClaudeMessageSource.imageData (source : ClaudeMessageSource) : String :=
  "data:" ++ source.mediaType ++ ";base64," ++ source.data.getD "%!s(<nil>)"

/-- The content of a tool result: a string, or the JSON text of its parts, `null` if it has
none. -/
inductive ResultContent where
  | string (text : String)
  | parts (json : String)
  deriving DecidableEq

def ResultContent.text : ResultContent → String
  | .string text => text
  | .parts json => json

/-- `ClaudeMediaMessage` by its type. The input of a tool is JSON text. -/
inductive Block where
  | text (text : Option String) (cacheControl : String)
  | image (source : Option ClaudeMessageSource)
  | toolUse (id name input : String)
  | toolResult (toolUseId name : String) (content : ResultContent)
  | other (id name : String)
  deriving DecidableEq

/-- The fields `Id` and `Name` of a block. -/
def Block.idAndName : Block → String × String
  | .toolUse id name _ => (id, name)
  | .toolResult _ name _ => ("", name)
  | .other id name => (id, name)
  | _ => ("", "")

/-- `ClaudeMessage.Content`. -/
inductive ClaudeContent where
  | string (text : String)
  | blocks (blocks : List Block)
  deriving DecidableEq

structure ClaudeMessage where
  role : String
  content : ClaudeContent
  deriving DecidableEq

/-- `ClaudeRequest.System`; of its blocks the texts and the cache controls. -/
inductive ClaudeSystem where
  | absent
  | string (text : String)
  | blocks (blocks : List (Option String × String))
  deriving DecidableEq

structure Sampling where
  temperature : Option ℚ := none
  maxTokens : Option Nat := none
  topP : Option ℚ := none
  topK : Option Int := none
  stream : Option Bool := none

/-- The effort is read from the output config; thinking is given by its type and its budget. -/
structure ClaudeRequest where
  model : String
  sampling : Sampling := {}
  system : ClaudeSystem := .absent
  messages : List ClaudeMessage
  stopSequences : List String := []
  tools : List FunctionDeclaration := []
  effort : String := ""
  thinking : Option (String × Option Int) := none

/-- `RelayInfo`, the fields that are read. -/
structure RelayInfo where
  isOpenRouter : Bool := false
  originModelName : String := ""
  upstreamModelName : String := ""

structure RequestReasoning where
  enabled : Bool := false
  maxTokens : Int := 0

/-- `GeneralOpenAIRequest`, the fields that are set. A single stop sequence is sent as a text. -/
structure GeneralOpenAIRequest where
  model : String
  sampling : Sampling
  verbosity : Option String
  reasoning : Option RequestReasoning
  stop : List String
  tools : List FunctionDeclaration
  messages : List (Message String)

def ClaudeRequest.searchToolNameByToolCallId (request : ClaudeRequest) (toolCallId : String) :
    String :=
  let blocks := request.messages.flatMap fun message =>
    match message.content with
    | .string _ => []
    | .blocks blocks => blocks
  ((blocks.map (·.idAndName)).lookup toolCallId).getD ""

def systemMessages (info : RelayInfo) (request : ClaudeRequest) : List (Message String) :=
  match request.system with
  | .absent => []
  | .string text => if text = "" then [] else [{ role := "system", content := .string text }]
  | .blocks [] => []
  | .blocks systems =>
    if info.isOpenRouter ∧ info.upstreamModelName.startsWith "anthropic/claude" then
      [{ role := "system"
         content := .media (systems.map fun system => .text (system.1.getD "") system.2) }]
    else
      [{ role := "system"
         content := .string (String.join (systems.filterMap Prod.fst)) }]

structure BlocksRead where
  toolMessages : List (Message String) := []
  mediaMessages : List MediaContent := []
  toolCalls : List (ToolCallRequest String) := []

def toolMessage (request : ClaudeRequest) (toolUseId name : String) (content : ResultContent) :
    Message String where
  role := "tool"
  name := some (if name = "" then request.searchToolNameByToolCallId toolUseId else name)
  toolCallId := some toolUseId
  content := .string content.text

/-- One round of the loop over the blocks; `none` is the panic at an image without a source. -/
def BlocksRead.block (request : ClaudeRequest) (read : BlocksRead) : Block → Option BlocksRead
  | .text text cacheControl =>
    some { read with
      mediaMessages := read.mediaMessages ++ [.text (text.getD "") cacheControl] }
  | .image none => none
  | .image (some source) =>
    some { read with
      mediaMessages := read.mediaMessages ++ [.imageUrl source.imageData "" ""] }
  | .toolUse id name input =>
    some { read with toolCalls := read.toolCalls ++ [⟨id, name, input⟩] }
  | .toolResult toolUseId name content =>
    some { read with
      toolMessages := read.toolMessages ++ [toolMessage request toolUseId name content] }
  | .other _ _ => some read

def BlocksRead.rest (role : String) (read : BlocksRead) : Message String where
  role := role
  toolCalls := read.toolCalls
  content :=
    if read.mediaMessages.length > 0 ∧ read.toolCalls.length = 0 then .media read.mediaMessages
    else .null

def convertMessage (request : ClaudeRequest) (message : ClaudeMessage) :
    Option (List (Message String)) :=
  match message.content with
  | .string text => some [{ role := message.role, content := .string text }]
  | .blocks blocks => do
      let read ← blocks.foldlM (BlocksRead.block request) {}
      let rest := read.rest message.role
      some (read.toolMessages ++ if rest.HasContent then [rest] else [])

def claudeToOpenAIRequest (info : RelayInfo) (request : ClaudeRequest) :
    Option GeneralOpenAIRequest := do
  let messages ← request.messages.foldlM
    (fun messages message => (convertMessage request message).map (messages ++ ·))
    (systemMessages info request)
  let thinkingSuffix := "-thinking"
  some
    { model :=
        if ¬ info.isOpenRouter ∧ info.originModelName.endsWith thinkingSuffix ∧
            ¬ request.model.endsWith thinkingSuffix then request.model ++ thinkingSuffix
        else request.model
      sampling := request.sampling
      verbosity := if info.isOpenRouter ∧ request.effort ≠ "" then some request.effort else none
      reasoning :=
        if info.isOpenRouter then
          request.thinking.map fun thinking =>
            if thinking.1 = "enabled" then ⟨true, thinking.2.getD 0⟩
            else if thinking.1 = "adaptive" then { enabled := true } else {}
        else none
      stop := request.stopSequences
      tools := request.tools
      messages }

end

variable {message : ClaudeMessage} {blocks bs : List Block} (request req :
  ClaudeRequest) (role : String)

open BlocksRead

open MessageContent

section

inductive Item where
  | text (role text : String)
  | image (role url : String)
  | toolUse (role id name input : String)
  | toolResult (toolUseId content : String)
  deriving DecidableEq

def Item.isCall : Item → Bool
  | .toolUse .. => true
  | _ => false

def Item.isResult : Item → Bool
  | .toolResult .. => true
  | _ => false

/-- Where the image of a source is: at its URL, or in its data. -/
def ClaudeMessageSource.address (source : ClaudeMessageSource) : String :=
  if source.type = "url" then source.url else source.imageData

def Block.itemsWith (url : ClaudeMessageSource → String) (role : String) : Block → List Item
  | .text words _ => [.text role (words.getD "")]
  | .image source => [.image role ((source.map url).getD "")]
  | .toolUse id name input => [.toolUse role id name input]
  | .toolResult toolUseId _ content => [.toolResult toolUseId content.text]
  | .other _ _ => []

def ClaudeMessage.items (message : ClaudeMessage) : List Item :=
  match message.content with
  | .string text => [.text message.role text]
  | .blocks blocks => blocks.flatMap (·.itemsWith (·.address) message.role)

def MediaContent.item (role : String) : MediaContent → Item
  | .text words _ => .text role words
  | .imageUrl url _ _ => .image role url

def ToolCallRequest.item (role : String) (call : ToolCallRequest String) : Item :=
  .toolUse role call.id call.name call.arguments

/-- What a message for OpenAI says: a tool message its result, another one its parts and calls. -/
def Message.items (message : Message String) : List Item :=
  match message.toolCallId, message.content with
  | some id, .string text => [.toolResult id text]
  | some _, _ => []
  | none, content =>
    content.parseContent.map (·.item message.role) ++ message.toolCalls.map (·.item message.role)

/-- A message that arrives: each image has a source and is its data, there are no texts or images
besides calls, and the results come first. -/
structure ClaudeMessage.Kept (message : ClaudeMessage) : Prop where
  images : ∀ blocks source, message.content = .blocks blocks → .image source ∈ blocks →
    ∃ given, source = some given ∧ given.imageData = given.address
  calls : (∀ item ∈ message.items, item.isCall = false) ∨
    ∀ item ∈ message.items, item.isCall || item.isResult
  results : message.items.Pairwise fun first second => second.isResult → first.isResult

/-- The tool message, the part and the tool call for a block. -/
def Block.toolMessage? (request : ClaudeRequest) : Block → Option (Message String)
  | .toolResult toolUseId name content => some (toolMessage request toolUseId name content)
  | _ => none

@[inherit_doc Block.toolMessage?]
def Block.media? : Block → Option MediaContent
  | .text words cacheControl => some (.text (words.getD "") cacheControl)
  | .image (some source) => some (.imageUrl source.imageData "" "")
  | _ => none

@[inherit_doc Block.toolMessage?]
def Block.call? : Block → Option (ToolCallRequest String)
  | .toolUse id name input => some ⟨id, name, input⟩
  | _ => none

theorem foldlM_block (h : .image none ∉ bs) (rd : BlocksRead) :
    bs.foldlM (block req) rd = some
      { toolMessages := rd.toolMessages ++ bs.filterMap (·.toolMessage? req)
        mediaMessages := rd.mediaMessages ++ bs.filterMap (·.media?)
        toolCalls := rd.toolCalls ++ bs.filterMap (·.call?) } := by
  induction bs generalizing rd with
  | nil => simp
  | cons blk rs ih =>
    rw [mem_cons, not_or] at h
    cases blk with
    | image src =>
      cases src with
      | none => exact absurd rfl h.1
      | some src =>
        simp [block, ih h.2, Block.toolMessage?, Block.media?, Block.call?]
    | _ => simp [block, ih h.2, Block.toolMessage?, Block.media?, Block.call?]

theorem items_of_blocks (h : .image none ∉ bs) :
    let xs := bs.flatMap (·.itemsWith (·.imageData) role)
    (bs.filterMap (·.toolMessage? req)).flatMap (·.items) = xs.filter (·.isResult) ∧
      (bs.filterMap (·.media?)).map (·.item role) =
        xs.filter (fun item => !item.isResult && !item.isCall) ∧
      (bs.filterMap (·.call?)).map (·.item role) = xs.filter (·.isCall) := by
  induction bs with
  | nil => exact ⟨rfl, rfl, rfl⟩
  | cons blk rs ih =>
    rw [mem_cons, not_or] at h
    have hr := ih h.2
    cases blk with
    | image src =>
      cases src with
      | none => exact absurd rfl h.1
      | some src =>
        simpa [Block.itemsWith, Block.toolMessage?, Block.media?, Block.call?, Item.isResult,
          Item.isCall, MediaContent.item] using hr
    | _ =>
      simpa [Block.itemsWith, Block.toolMessage?, Block.media?, Block.call?, Item.isResult,
        Item.isCall, MediaContent.item, ToolCallRequest.item, toolMessage, Message.items]
        using hr

theorem items_rest (rd : BlocksRead) :
    (if (rd.rest role).HasContent then [rd.rest role] else []).flatMap (·.items) =
      if rd.toolCalls = [] then rd.mediaMessages.map (·.item role)
      else rd.toolCalls.map (·.item role) := by
  obtain ⟨tm, mm, tcs⟩ := rd
  cases tcs with
  | nil =>
    cases mm with
    | nil => rfl
    | cons med rs =>
      simp [rest, Message.HasContent, parseContent, Message.items]
  | cons call rs =>
    simp [rest, Message.HasContent, parseContent, Message.items]

/-- The items of a message as they are sent: the results, and then the calls or, if there are none,
the texts and images. -/
def arranged (items : List Item) : List Item :=
  items.filter (·.isResult) ++
    if items.any (·.isCall) then items.filter (·.isCall)
    else items.filter (fun item => !item.isResult && !item.isCall)

def ClaudeMessage.arriving (message : ClaudeMessage) : List Item :=
  match message.content with
  | .string text => [.text message.role text]
  | .blocks blocks => arranged (blocks.flatMap (·.itemsWith (·.imageData) message.role))

theorem convertMessage_eq (h : ∀ blocks, message.content = .blocks blocks → .image none ∉ blocks) :
    ∃ msgs, convertMessage req message = some msgs ∧
      msgs.flatMap (·.items) = message.arriving ∧ ∀ sn ∈ msgs, sn.HasContent := by
  obtain ⟨role, ct⟩ := message
  cases ct with
  | string tx => exact ⟨_, rfl, rfl, by simp [Message.HasContent, parseContent]⟩
  | blocks blocks =>
    obtain ⟨hrs, hme, hcs⟩ := items_of_blocks req role (h blocks rfl)
    have hre := foldlM_block req (h blocks rfl) {}
    simp only [nil_append] at hre
    have hn : blocks.filterMap (·.call?) = [] ↔
        (blocks.flatMap (·.itemsWith (·.imageData) role)).any (·.isCall) = false := by
      rw [← map_eq_nil_iff, hcs, filter_eq_nil_iff, any_eq_false]
    refine ⟨_, by simp only [convertMessage, hre]; rfl, ?_, ?_⟩
    · rw [flatMap_append, items_rest, hrs, hme, hcs]
      simp only [hn, ClaudeMessage.arriving, arranged]
      generalize blocks.flatMap (·.itemsWith (·.imageData) role) = xs
      cases xs.any (·.isCall) <;> rfl
    intro sn hse
    rcases mem_append.mp hse with hto | hr
    · obtain ⟨block, -, hbl⟩ := mem_filterMap.mp hto
      cases block with
      | toolResult tui nm ct =>
        cases hbl
        exact .inl Nat.one_pos
      | _ => cases hbl
    · split at hr
      · next hco => exact mem_singleton.mp hr ▸ hco
      · cases hr

theorem convertMessage_eq_none (hco : message.content = .blocks bs)
    (him : .image none ∈ bs) : convertMessage req message = none := by
  have hre : bs.foldlM (block req) {} = none :=
    @Loop.foldlM_eq_none _ _ _ (fun _ => True) _ _ him (fun _ _ _ _ _ => trivial)
      (fun _ _ => rfl) _ trivial
  simp only [convertMessage, hco, hre]
  rfl

theorem map_itemsWith {β : Type} (kd : Item → β)
    (hki : ∀ role url other, kd (.image role url) = kd (.image role other))
    (url other : ClaudeMessageSource → String) (role : String) (blocks : List Block) :
    (blocks.flatMap (·.itemsWith url role)).map kd =
      (blocks.flatMap (·.itemsWith other role)).map kd := by
  induction blocks with
  | nil => rfl
  | cons blk rs ih =>
    rw [flatMap_cons, flatMap_cons, map_append, map_append, ih]
    cases blk with
    | image src => exact congrArg (· :: _) (hki role _ _)
    | _ => rfl

theorem length_kinds (xs : List Item) :
    xs.length = (xs.filter (·.isResult)).length + (xs.filter (·.isCall)).length +
      (xs.filter (fun item => !item.isResult && !item.isCall)).length := by
  induction xs with
  | nil => rfl
  | cons item rs ih =>
    cases item with
    | _ => simp [Item.isResult, Item.isCall, ih]; omega

theorem length_arranged :
    (arranged xs).length ≤ xs.length ∧ ((arranged xs).length = xs.length →
      (∀ item ∈ xs, item.isCall = false) ∨ ∀ item ∈ xs, item.isCall || item.isResult) := by
  have hkn := length_kinds xs
  rw [arranged, length_append]
  split
  · refine ⟨by omega, fun hl => .inr fun item hit => ?_⟩
    have hn := eq_nil_of_length_eq_zero (show
      (xs.filter fun item => !item.isResult && !item.isCall).length = 0 by omega)
    have hki := filter_eq_nil_iff.mp hn item hit
    revert hki
    cases item.isCall <;> cases item.isResult <;> simp
  · next hn =>
      refine ⟨by omega, fun _ => .inl fun item hit => ?_⟩
      exact Bool.eq_false_iff.mpr fun hc => hn (any_eq_true.mpr ⟨item, hit, hc⟩)

theorem arranged_eq
    (h : (∀ item ∈ xs, item.isCall = false) ∨ ∀ item ∈ xs, item.isCall || item.isResult) :
    arranged xs = xs.filter (·.isResult) ++ xs.filter (!·.isResult) := by
  rw [arranged]
  congr 1
  split
  · next hc =>
      refine filter_congr fun item hit => ?_
      obtain ⟨call, hm, hye⟩ := any_eq_true.mp hc
      rcases h with hn | ha
      · exact absurd hye (by simp [hn call hm])
      · have hki := ha item hit
        cases item with
        | _ => simp_all [Item.isCall, Item.isResult]
  next hn =>
    refine filter_congr fun item hit => ?_
    have hno : item.isCall = false := Bool.eq_false_iff.mpr fun hye =>
      hn (any_eq_true.mpr ⟨item, hit, hye⟩)
    simp [hno]

theorem arranged_eq_iff {sent items : List Item}
    (hki : sent.map (·.isResult) = items.map (·.isResult)) :
    arranged sent = items ↔ sent = items ∧
      ((∀ item ∈ items, item.isCall = false) ∨ ∀ item ∈ items, item.isCall || item.isResult) ∧
      items.Pairwise fun first second => second.isResult → first.isResult := by
  have hpa : ∀ list : List Item,
      (list.Pairwise fun first second => second.isResult → first.isResult) ↔
        (list.map (·.isResult)).Pairwise fun first second : Bool => second = true → first = true :=
    fun list => by rw [pairwise_map]
  constructor
  · intro h
    have hl : (arranged sent).length = sent.length := by
      rw [h, ← length_map (·.isResult), ← hki, length_map]
    have hlo := (length_arranged).2 hl
    have hso := (arranged_eq hlo).symm.trans h
    have hxs : items.filter (·.isResult) ++ items.filter (!·.isResult) = items := by
      rw [← hso]
      simp [filter_append, filter_filter]
    have hr := (filter_append_filter_not_eq_iff _).mp hxs
    have hs : sent = items := by
      rw [hpa, ← hki, ← hpa] at hr
      exact ((filter_append_filter_not_eq_iff _).mpr hr).symm.trans hso
    exact ⟨hs, hs ▸ hlo, hr⟩
  · rintro ⟨rfl, hlo, hr⟩
    exact (arranged_eq hlo).trans ((filter_append_filter_not_eq_iff _).mpr hr)

theorem length_arriving_le : message.arriving.length ≤ message.items.length := by
  obtain ⟨role, content⟩ := message
  cases content with
  | string tx => exact Nat.le_refl 1
  | blocks blocks =>
    have hl := congrArg List.length
      (map_itemsWith (fun _ => ()) (fun _ _ _ => rfl) (·.imageData) (·.address) role blocks)
    rw [length_map, length_map] at hl
    exact Nat.le_trans (length_arranged).1 (Nat.le_of_eq hl)

theorem sameImages_iff :
    blocks.flatMap (·.itemsWith (·.imageData) role) =
        blocks.flatMap (·.itemsWith (·.address) role) ↔
      ∀ src, .image (some src) ∈ blocks → src.imageData = src.address := by
  rw [flatMap_eq_flatMap_iff fun blk _ => by cases blk <;> exact Nat.le_refl _]
  constructor
  · intro h src hsr
    have hit : Item.image role src.imageData = .image role src.address :=
      (List.cons.inj (h _ hsr)).1
    exact (Item.image.inj hit).2
  intro h blk hbl
  cases blk with
  | image src =>
    cases src with
    | none => rfl
    | some src => exact congrArg (fun url => [Item.image role url]) (h src hbl)
  | _ => rfl

theorem arriving_eq_items_iff
    (h : ∀ blocks, message.content = .blocks blocks → .image none ∉ blocks) :
    message.arriving = message.items ↔ message.Kept := by
  obtain ⟨role, content⟩ := message
  cases content with
  | string tx =>
    refine iff_of_true rfl ⟨nofun, .inl ?_, ?_⟩
    · simp [ClaudeMessage.items, Item.isCall]
    · exact pairwise_singleton _ _
  | blocks blocks =>
    rw [ClaudeMessage.arriving, ClaudeMessage.items,
      arranged_eq_iff (map_itemsWith _ (fun _ _ _ => rfl) _ _ role blocks), sameImages_iff]
    constructor
    · rintro ⟨hso, hcs, hr⟩
      refine ⟨fun _ src hbs hsr => ?_, hcs, hr⟩
      cases hbs
      cases src with
      | none => exact absurd hsr (h blocks rfl)
      | some src => exact ⟨src, rfl, hso src hsr⟩
    rintro ⟨hso, hcs, hr⟩
    refine ⟨fun src hsr => ?_, hcs, hr⟩
    obtain ⟨given, hgv, hs⟩ := hso blocks _ rfl hsr
    cases hgv
    exact hs

theorem systemMessages_hasContent (inf : RelayInfo) (request : ClaudeRequest) :
    ∀ message ∈ systemMessages inf request, message.HasContent := by
  unfold systemMessages
  split
  · exact nofun
  · split <;> simp [Message.HasContent, parseContent]
  · exact nofun
  · next syst hsy _ =>
      have hp := length_pos_iff.mpr hsy
      split <;> simp [Message.HasContent, parseContent, hp]

theorem foldlM_convertMessage {msgs : List ClaudeMessage}
    (h : ∀ message ∈ msgs, ∃ sn, convertMessage req message = some sn)
    (pre : List (Message String)) :
    msgs.foldlM
        (fun msgs message => (convertMessage req message).map (msgs ++ ·)) pre =
      some (pre ++ msgs.flatMap fun message => (convertMessage req message).getD []) := by
  induction msgs generalizing pre with
  | nil => simp
  | cons message rs ih =>
    rw [forall_mem_cons] at h
    obtain ⟨sn, hse⟩ := h.1
    simp [hse, ih h.2]

/-- The conversation arrives, each text, image, call and result once and in its order, and no
message without content is sent, exactly if every message is kept. -/
theorem claude_conversation_kept_iff (info : RelayInfo) (request : ClaudeRequest) :
    (∃ result, claudeToOpenAIRequest info request = some result ∧
        (result.messages.drop (systemMessages info request).length).flatMap (·.items) =
          request.messages.flatMap (·.items) ∧
        ∀ message ∈ result.messages, message.HasContent) ↔
      ∀ message ∈ request.messages, message.Kept := by
  by_cases hso : ∀ message ∈ request.messages, ∀ blocks,
      message.content = .blocks blocks → .image none ∉ blocks
  · have hco := fun message hme =>
      convertMessage_eq request (hso message hme)
    have hlo := foldlM_convertMessage request
      (fun message hme => (hco message hme).imp fun _ h => h.1)
      (systemMessages info request)
    have har : (request.messages.flatMap fun message =>
        (convertMessage request message).getD []).flatMap (·.items) =
        request.messages.flatMap (·.arriving) := by
      rw [flatMap_assoc]
      refine flatMap_congr fun message hme => ?_
      obtain ⟨sent, hse, hit, -⟩ := hco message hme
      rw [hse, Option.getD_some, hit]
    have hcn : ∀ message ∈ systemMessages info request ++ request.messages.flatMap
        fun message => (convertMessage request message).getD [], message.HasContent := by
      intro message hme
      rcases mem_append.mp hme with hsy | hm
      · exact systemMessages_hasContent info request message hsy
      obtain ⟨origin, hor, hm⟩ := mem_flatMap.mp hm
      obtain ⟨sent, hse, -, ha⟩ := hco origin hor
      rw [hse] at hm
      exact ha message hm
    have hk : request.messages.flatMap (·.arriving) = request.messages.flatMap (·.items) ↔ _ :=
      flatMap_eq_flatMap_iff fun message _ => length_arriving_le
    obtain ⟨result, hre, hms⟩ : ∃ result,
        claudeToOpenAIRequest info request = some result ∧ result.messages =
          systemMessages info request ++ request.messages.flatMap fun message =>
            (convertMessage request message).getD [] := by
      simp only [claudeToOpenAIRequest, hlo]
      exact ⟨_, rfl, rfl⟩
    constructor
    · rintro ⟨other, hot, hit, -⟩ message hme
      cases hre.symm.trans hot
      rw [hms, drop_left, har, hk] at hit
      exact (arriving_eq_items_iff (hso message hme)).mp (hit message hme)
    intro h
    refine ⟨result, hre, ?_, hms ▸ hcn⟩
    rw [hms, drop_left, har, hk]
    exact fun message hme =>
      (arriving_eq_items_iff (hso message hme)).mpr (h message hme)
  · push Not at hso
    obtain ⟨message, hme, blocks, hbl, him⟩ := hso
    have hlo : request.messages.foldlM
        (fun messages message => (convertMessage request message).map (messages ++ ·))
        (systemMessages info request) = none :=
      @Loop.foldlM_eq_none _ _ _ (fun _ => True) _ _ hme (fun _ _ _ _ _ => trivial)
        (fun _ _ => by rw [convertMessage_eq_none request hbl him]; rfl) _ trivial
    refine iff_of_false ?_ fun h => ?_
    · rintro ⟨result, hre, -⟩
      simp only [claudeToOpenAIRequest, hlo] at hre
      cases hre
    · obtain ⟨given, hgi, -⟩ := (h message hme).images blocks none hbl him
      cases hgi

def lookupRequest : ClaudeRequest where
  model := "claude"
  messages := [⟨"assistant", .blocks [.text (some "Let me look.") "",
    .toolUse "call_1" "lookup" "\x7b\x7d"]⟩]

/-- Only the call arrives. -/
theorem text_before_call_lost :
    (claudeToOpenAIRequest {} lookupRequest).map (·.messages.flatMap (·.items)) =
        some [.toolUse "assistant" "call_1" "lookup" "\x7b\x7d"] ∧
      lookupRequest.messages.flatMap (·.items) =
        [.text "assistant" "Let me look.", .toolUse "assistant" "call_1" "lookup" "\x7b\x7d"] := by
  decide +kernel

end

end NewApi.Requests
