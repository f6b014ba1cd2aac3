import NewApi.Streams.ClaudeToOpenAI

/-!
# Complete and streamed Claude responses

The conversion of a complete message keeps its last text and its last thinking; that of its stream
sends every text, a line break for a signature, and numbers tool calls by the position of their
block (`claude_conversions_agree_iff`).
-/

namespace NewApi.Streams

open Lib List

namespace ContentBlock

def words? : ContentBlock → Option String
  | .text words => some words
  | _ => none

def thought? : ContentBlock → Option String
  | .thinking thought _ => some thought
  | _ => none

def streamedThought? : ContentBlock → Option String
  | .thinking thought signature => some (thought ++ if signature = "" then "" else "\n")
  | _ => none

def call? : ContentBlock → Option ToolCall
  | .toolUse id name input => some ⟨id, name, input⟩
  | _ => none

end ContentBlock

open ContentBlock

section

end

variable {tht : String} {pcs : List (Int × ToolCall)} {index idx : Nat}
  {events : List ClaudeResponse} {blocks bs : List ContentBlock}

open ChatCompletionsStreamResponse

section

def Sends (events : List ClaudeResponse) (words reasoning : String)
    (pieces : List (Int × ToolCall)) : Prop :=
  ∃ chunks, convertEvents events = some chunks ∧
    String.join (chunks.map (·.contentText)) = words ∧
    String.join (chunks.map (·.reasoningText)) = reasoning ∧
    ∀ calls, chunks.foldl addChunkCalls calls = pieces.foldl addPiece calls

theorem convertEvents_append (hfi : convertEvents first = some chunks)
    (hsc : convertEvents second = some os) :
      convertEvents (first ++ second) = some (chunks ++ os) := by
  induction first generalizing chunks with
  | nil => cases hfi; exact hsc
  | cons ev rs ih =>
    simp only [convertEvents, Option.bind_eq_bind, Option.bind_eq_some_iff] at hfi
    obtain ⟨chunk, hck, sn, hse, h⟩ := hfi
    cases h
    simp [convertEvents, hck, ih hse]

theorem sends_nil : Sends [] "" "" [] := ⟨[], rfl, rfl, rfl, fun _ => rfl⟩

theorem Sends.append (hfi : Sends first ws tht pcs) (hsc : Sends second ws' tht' pcs') :
    Sends (first ++ second) (ws ++ ws') (tht ++ tht') (pcs ++ pcs') := by
  obtain ⟨chunks, hck, rfl, rfl, hpc⟩ := hfi
  obtain ⟨os, hos, rfl, rfl, hpc'⟩ := hsc
  refine ⟨chunks ++ os, convertEvents_append hck hos, ?_, ?_, ?_⟩
  · rw [map_append, String.join_append]
  · rw [map_append, String.join_append]
  · intro cs
    rw [foldl_append, foldl_append, hpc, hpc']

theorem sends_chunk (h : streamResponseClaude2OpenAI ev = some (some chunk))
    (hws : chunk.contentText = ws) (hth : chunk.reasoningText = tht)
    (hpc : (chunk.toolPieces.map fun pc => (pc.1, pc.2.call)) = pcs) : Sends [ev] ws tht pcs := by
  subst hws hth hpc
  refine ⟨[chunk], ?_, ?_, ?_, fun _ => rfl⟩
  · simp [convertEvents, h]
  · simp
  · simp

theorem sends_map {ev : String → ClaudeResponse} {ws tht : String → String}
    {pcs : String → List (Int × ToolCall)} (h : ∀ pc, Sends [ev pc] (ws pc) (tht pc) (pcs pc))
    (tex : List String) :
    Sends (tex.map ev) (String.join (tex.map ws)) (String.join (tex.map tht))
      (tex.flatMap pcs) := by
  induction tex with
  | nil => exact sends_nil
  | cons tx rs ih => simpa using (h tx).append ih

theorem contentText_claudeChunk : (claudeChunk mdl d []).contentText = d.getContentString := by
  simp [claudeChunk, contentText]

theorem reasoningText_claudeChunk :
    (claudeChunk mdl d tls).reasoningText = d.getReasoningContent := by
  cases tls <;> simp [claudeChunk, reasoningText,
    ChatCompletionsStreamResponseChoiceDelta.getReasoningContent]

theorem sends_textDelta (index : Nat) (pc : String) :
    Sends [blockDelta index { type := .textDelta, text := some pc }] pc "" [] :=
  sends_chunk rfl (contentText_claudeChunk ..) (reasoningText_claudeChunk ..) rfl

theorem sends_thinkingDelta (index : Nat) (pc : String) :
    Sends [blockDelta index { type := .thinkingDelta, thinking := some pc }] "" pc [] :=
  sends_chunk rfl (contentText_claudeChunk ..) (reasoningText_claudeChunk ..) rfl

theorem sends_signatureDeltas (index : Nat) (sig : String) :
    Sends (signatureDeltas index sig) "" (if sig = "" then "" else "\n") [] := by
  unfold signatureDeltas
  split
  · exact sends_nil
  · exact sends_chunk rfl (contentText_claudeChunk ..) (reasoningText_claudeChunk ..) rfl

theorem sends_inputJsonDelta (index : Nat) (pc : String) :
    Sends [blockDelta index { type := .inputJsonDelta, partialJson := some pc }] "" ""
      [(fcIdx (some index), ⟨"", "", pc⟩)] :=
  sends_chunk rfl rfl (reasoningText_claudeChunk ..) rfl

theorem sends_blockStop (index : Nat) : Sends [blockStop index] "" "" [] :=
  ⟨[], rfl, rfl, rfl, fun _ => rfl⟩

def addBlock (calls : List (Int × ToolCall)) (index : Nat) (block : ContentBlock) :
    List (Int × ToolCall) :=
  match block.call? with
  | some call => addPiece calls (fcIdx (some index), call)
  | none => calls

/-- The calls of a client after the streams of blocks that are numbered from `index`. -/
def addBlocks (calls : List (Int × ToolCall)) (index : Nat) :
    List ContentBlock → List (Int × ToolCall)
  | [] => calls
  | block :: rest => addBlocks (addBlock calls index block) (index + 1) rest

theorem addPiece_addPiece (index : Int) :
    addPiece (addPiece cs (index, call)) (index, ⟨"", "", pc⟩) =
      addPiece cs (index, { call with arguments := call.arguments ++ pc }) := by
  induction cs with
  | nil => simp [addPiece, ToolCall.extend]
  | cons head rs ih =>
    by_cases hi : head.1 = index
    · simp [addPiece, ToolCall.extend, hi, String.append_assoc]
    · simp [addPiece, hi, ih]

theorem foldl_addPiece (index : Int) (pcs : List String) :
    (pcs.map fun pc => (index, (⟨"", "", pc⟩ : ToolCall))).foldl addPiece
        (addPiece cs (index, call)) =
      addPiece cs (index, { call with arguments := call.arguments ++ String.join pcs }) := by
  induction pcs generalizing call with
  | nil => simp
  | cons pc rs ih =>
    rw [map_cons, foldl_cons, addPiece_addPiece, ih]
    simp [String.append_assoc]

theorem join_replicate_empty : String.join (replicate n "") = "" := by
  simp [join_eq_empty_iff]

theorem BlockRendition.sends (h : BlockRendition idx blk events) :
    ∃ pcs, Sends events (blk.words?.getD "") (blk.streamedThought?.getD "") pcs ∧
      ∀ cs, pcs.foldl addPiece cs = addBlock cs idx blk := by
  cases h with
  | text first pcs =>
    have hs0 : Sends [blockStart idx { type := .text, text := some first }] first "" [] :=
      sends_chunk rfl (contentText_claudeChunk ..) (reasoningText_claudeChunk ..) rfl
    have hbl := (hs0.append (sends_map (sends_textDelta idx) pcs)).append (sends_blockStop idx)
    refine ⟨[], ?_, fun _ => rfl⟩
    simpa [join_replicate_empty, flatMap_eq_nil_iff.mpr, words?, streamedThought?] using hbl
  | thinking pcs sig =>
    have hs0 : Sends [blockStart idx { type := .thinking, thinking := some "" }] "" "" [] :=
      sends_chunk rfl rfl (reasoningText_claudeChunk ..) rfl
    have hbl := ((hs0.append (sends_map (sends_thinkingDelta idx) pcs)).append
      (sends_signatureDeltas idx sig)).append (sends_blockStop idx)
    refine ⟨[], ?_, fun _ => rfl⟩
    simpa [join_replicate_empty, flatMap_eq_nil_iff.mpr, words?, streamedThought?] using hbl
  | toolUse id name pcs =>
    have hs0 : Sends
        [blockStart idx { type := .toolUse, id, name, input := "\x7b\x7d" }] "" ""
        [(fcIdx (some idx), ⟨id, name, ""⟩)] :=
      sends_chunk rfl rfl (reasoningText_claudeChunk ..) rfl
    have hbl := (hs0.append (sends_map (sends_inputJsonDelta idx) pcs)).append (sends_blockStop idx)
    refine ⟨(fcIdx (some idx), ⟨id, name, ""⟩) ::
      pcs.map (fun pc => (fcIdx (some idx), ⟨"", "", pc⟩)), ?_, ?_⟩
    · rw [← map_eq_flatMap] at hbl
      simpa [join_replicate_empty, words?, streamedThought?] using hbl
    · intro cs
      rw [foldl_cons, foldl_addPiece]
      simp [addBlock, call?]

theorem BlocksRendition.sends (h : BlocksRendition index blocks events) :
    ∃ pcs, Sends events (String.join (blocks.filterMap (·.words?)))
        (String.join (blocks.filterMap (·.streamedThought?))) pcs ∧
      ∀ cs, pcs.foldl addPiece cs = addBlocks cs index blocks := by
  induction h with
  | nil index => exact ⟨[], sends_nil, fun _ => rfl⟩
  | @cons index blk blocks events rs hbl hr ih =>
    obtain ⟨pcs, hse, hpc⟩ := hbl.sends
    obtain ⟨later, hlt, had⟩ := ih
    refine ⟨pcs ++ later, ?_, ?_⟩
    · have hbo := hse.append hlt
      cases blk <;> simpa [words?, streamedThought?] using hbo
    · intro cs
      rw [foldl_append, hpc, had]
      rfl

theorem Rendition.accumulate_eq {id mdl sr : String} (h : Rendition id mdl sr bs events) :
    ∃ chunks, convertEvents events = some chunks ∧
      (accumulate chunks).text = String.join (bs.filterMap (·.words?)) ∧
      (accumulate chunks).reasoning = String.join (bs.filterMap (·.streamedThought?)) ∧
      (accumulate chunks).toolCalls = (addBlocks [] 0 bs).map Prod.snd := by
  obtain ⟨hbs⟩ := h
  obtain ⟨pcs, hse, hpc⟩ := hbs.sends
  have hs0 : Sends [messageStart id mdl] "" "" [] := sends_chunk rfl rfl rfl rfl
  have hd : Sends [messageDelta sr] "" "" [] := sends_chunk rfl rfl rfl rfl
  have hs : Sends [messageStop] "" "" [] := ⟨[], rfl, rfl, rfl, fun _ => rfl⟩
  have he := hd.append hs
  obtain ⟨chunks, hck, ht, hre, hcs⟩ := (hs0.append hse).append he
  refine ⟨chunks, hck, ?_, ?_, ?_⟩
  · simpa [accumulate] using ht
  · simpa [accumulate] using hre
  · simp [accumulate, hcs, hpc]

end

variable {cs : List (Int × ToolCall)}

section

/-- The first two blocks are both tool calls: they get the same index in the stream. -/
def startsWithTwoCalls : List ContentBlock → Bool
  | first :: second :: _ => first.call?.isSome && second.call?.isSome
  | _ => false

theorem fcIdx_natCast : fcIdx (some index) = ((index - 1 : Nat) : Int) := by
  unfold fcIdx
  dsimp only
  split
  · omega
  · omega

theorem addPiece_of_absent (h : ∀ call ∈ cs, call.1 ≠ pc.1) : addPiece cs pc = cs ++ [pc] := by
  induction cs with
  | nil => rfl
  | cons call rs ih =>
    rw [addPiece, if_neg (h call mem_cons_self), ih fun other hot =>
      h other (mem_cons_of_mem _ hot)]
    rfl

theorem foldl_addPiece_of_nodup (h : ((cs ++ pcs).map Prod.fst).Nodup) :
    pcs.foldl addPiece cs = cs ++ pcs := by
  induction pcs generalizing cs with
  | nil => simp
  | cons pc rs ih =>
    have hab : ∀ call ∈ cs, call.1 ≠ pc.1 := by
      intro call hc
      rw [map_append, nodup_append] at h
      exact h.2.2 _ (mem_map_of_mem hc) _ (by simp)
    rw [foldl_cons, addPiece_of_absent hab, ih (by simpa using h), append_assoc, singleton_append]

theorem addBlocks_of_lt (hi : 1 ≤ index) (hcs : ∀ call ∈ cs, call.1 < ((index - 1 : Nat) : Int)) :
    (addBlocks cs index blocks).map Prod.snd = cs.map Prod.snd ++ blocks.filterMap (·.call?) := by
  induction blocks generalizing cs index with
  | nil => simp [addBlocks]
  | cons blk rs ih =>
    cases hc : blk.call? with
    | none =>
      have hke : addBlock cs index blk = cs := by simp [addBlock, hc]
      rw [addBlocks, hke, filterMap_cons_none hc]
      exact ih (by omega) fun call hm => by have := hcs call hm; omega
    | some new =>
      have had : addBlock cs index blk = cs ++ [(((index - 1 : Nat) : Int), new)] := by
        simp only [addBlock, hc, fcIdx_natCast]
        exact addPiece_of_absent fun call hm => (hcs call hm).ne
      rw [addBlocks, had, filterMap_cons_some hc, ih (by omega)]
      · simp
      intro call hm
      rcases mem_append.mp hm with ho | hn
      · have := hcs call ho
        omega
      · cases mem_singleton.mp hn
        omega

theorem addBlocks_eq_iff :
    (addBlocks [] 0 blocks).map Prod.snd = blocks.filterMap (·.call?) ↔
      startsWithTwoCalls blocks = false := by
  match blocks with
  | [] => simp [addBlocks, startsWithTwoCalls]
  | [block] =>
    cases hc : block.call? <;> simp [addBlocks, addBlock, addPiece, startsWithTwoCalls, hc]
  | first :: second :: rest =>
    -- from the third block on the indices are larger than those of the first two
    have hr : ∀ cs : List (Int × ToolCall), (∀ call ∈ cs, call.1 = 0) →
        (addBlocks cs 2 rest).map Prod.snd =
          cs.map Prod.snd ++ rest.filterMap (·.call?) := fun cs hcs =>
      addBlocks_of_lt (by omega) fun call hm => by rw [hcs call hm]; decide
    have hz : fcIdx (some (0 : Nat)) = 0 := rfl
    have hon : fcIdx (some (1 : Nat)) = 0 := rfl
    cases hfi : first.call? with
    | none | some =>
      cases hsc : second.call? <;> simp_all [addBlocks, addBlock, addPiece, startsWithTwoCalls]

end

section

/-- Two tool blocks at different places of the message have different indices in the chunks. -/
def DistinctIndices (blocks : List ContentBlock) : Prop :=
  ∀ i j, (blocks[i]?.bind (·.call?)).isSome → (blocks[j]?.bind (·.call?)).isSome →
    fcIdx (some (i : Nat)) = fcIdx (some (j : Nat)) → i = j

theorem distinctIndices_iff : DistinctIndices blocks ↔ startsWithTwoCalls blocks = false := by
  have hs0 : startsWithTwoCalls blocks =
      ((blocks[0]?.bind (·.call?)).isSome && (blocks[1]?.bind (·.call?)).isSome) := by
    match blocks with
    | [] => rfl
    | [block] => simp [startsWithTwoCalls]
    | first :: second :: rest => rfl
  rw [hs0, Bool.and_eq_false_iff]
  constructor
  · intro h
    by_contra hboth
    simp only [not_or, Bool.not_eq_false] at hboth
    exact absurd (h 0 1 hboth.1 hboth.2 rfl) (by decide)
  intro h i j hi hj hid
  rw [fcIdx_natCast, fcIdx_natCast] at hid
  rcases Nat.lt_trichotomy i j with hlt | heq | hlt
  · obtain ⟨rfl, rfl⟩ : i = 0 ∧ j = 1 := by omega
    simp [hi, hj] at h
  · exact heq
  · obtain ⟨rfl, rfl⟩ : j = 0 ∧ i = 1 := by omega
    simp [hi, hj] at h

theorem toolPieces_claudeChunk (h : d.toolCalls = []) :
    (claudeChunk mdl d tls).toolPieces = tls.zipIdx.map fun (tl, i) => (tl.index.getD i, tl) := by
  cases tls with
  | nil =>
    simp [claudeChunk, toolPieces, ChatCompletionsStreamResponseChoiceDelta.toolPieces, h]
  | cons tl rs =>
    simp [claudeChunk, toolPieces, ChatCompletionsStreamResponseChoiceDelta.toolPieces]

theorem toolPieces_index (h : streamResponseClaude2OpenAI ev = some (some chunk)) :
    ∀ pc ∈ chunk.toolPieces, pc.1 = fcIdx ev.index := by
  have htl : ∀ (mdl : String) (d : ChatCompletionsStreamResponseChoiceDelta)
      (tls : List ToolCallResponse), d.toolCalls = [] →
      (tls = [] ∨ ∃ tl, tls = [tl] ∧ tl.index = some (fcIdx ev.index)) →
      ∀ pc ∈ (claudeChunk mdl d tls).toolPieces, pc.1 = fcIdx ev.index := by
    intro mdl d tls hd htl pc hpc
    rw [toolPieces_claudeChunk hd] at hpc
    rcases htl with rfl | ⟨tl, rfl, hi⟩
    · simp at hpc
    · simp only [zipIdx_singleton, map_cons, map_nil, mem_singleton] at hpc
      rw [hpc, hi]
      rfl
  unfold streamResponseClaude2OpenAI at h
  split at h
  · -- `message_start`
    split at h
    · next message _ =>
        cases h
        exact htl message.model _ [] rfl (.inl rfl)
    · cases h
      exact htl _ _ [] rfl (.inl rfl)
  · -- `content_block_start`
    split at h
    · cases h
    cases h
    refine htl _ _ _ (by split <;> rfl) ?_
    split
    · exact .inr ⟨_, rfl, rfl⟩
    · exact .inl rfl
  · -- `content_block_delta`
    split at h
    · cases h
      exact htl _ _ [] rfl (.inl rfl)
    split at h
    · obtain ⟨arguments, -, hck⟩ := Option.map_eq_some_iff.mp h
      cases hck
      exact htl _ _ _ rfl (.inr ⟨_, rfl, rfl⟩)
    all_goals
      cases h
      exact htl _ _ [] rfl (.inl rfl)
  · -- `message_delta`
    cases h
    intro pc hpc
    cases hpc
  · cases h

/-- For every message and every way to send it in pieces, the stream is converted without a
panic and every piece of a call has the index of its block. Different tool blocks have different
indices, and the client of the stream has the calls of the tool blocks in their order, exactly if
the first two blocks are not both tool calls. -/
theorem claude_tool_indices_iff {id model stopReason : String} {blocks : List ContentBlock}
    {events : List ClaudeResponse} (h : Rendition id model stopReason blocks events) :
    ∃ chunks, convertEvents events = some chunks ∧
      (∀ event ∈ events, ∀ chunk, streamResponseClaude2OpenAI event = some (some chunk) →
        ∀ piece ∈ chunk.toolPieces, piece.1 = fcIdx event.index) ∧
      (DistinctIndices blocks ↔ startsWithTwoCalls blocks = false) ∧
      ((accumulate chunks).toolCalls = blocks.filterMap (·.call?) ↔
        startsWithTwoCalls blocks = false) := by
  obtain ⟨chunks, hch, -, -, hca⟩ := h.accumulate_eq
  refine ⟨chunks, hch, fun _ _ _ hcu => toolPieces_index hcu,
    distinctIndices_iff, ?_⟩
  rw [hca, addBlocks_eq_iff]

def laterCalls : List ContentBlock :=
  [.text "Both.", .toolUse "call_1" "add" "[1,2]", .toolUse "call_2" "mul" "[3,4]"]

theorem laterCalls_arrive :
    ∃ chunks, convertEvents (messageEvents "msg_1" "claude" "tool_use" laterCalls) = some chunks ∧
      (accumulate chunks).toolCalls = [⟨"call_1", "add", "[1,2]"⟩, ⟨"call_2", "mul", "[3,4]"⟩] := by
  obtain ⟨chunks, hch, -, -, hca⟩ := claude_tool_indices_iff
    (rendition_messageEvents "msg_1" "tool_use")
  exact ⟨chunks, hch, hca.mpr (by decide)⟩

/-- Without the text both calls have the index zero, and the client of the stream puts them
together. -/
theorem leading_calls_merged :
    (convertEvents (messageEvents "msg_1" "claude" "tool_use" laterCalls.tail)).map
        (fun chunks => (accumulate chunks).toolCalls) =
      some [⟨"call_2", "mul", "[1,2][3,4]"⟩] := by
  decide +kernel

end

end NewApi.Streams
