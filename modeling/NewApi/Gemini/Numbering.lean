import NewApi.Gemini.ToOpenAI

/-!
# What the chunks of a Gemini stream carry

What a run of `geminiChatStreamHandler` contributes to a choice. Its tool calls are numbered in the
order of the stream (`toolsOf`); those of the first response are announced ahead if its first
candidate has some (`receive_first`).
-/

namespace NewApi.Gemini

open Lib Streams List Function

/-! ## What a candidate says -/

/-- The call both conversions read: inline data hides it. -/
def GeminiPart.call? (part : GeminiPart) : Option FunctionCall :=
  if part.inlineData.isSome then none else part.functionCall

def GeminiPart.isThought (part : GeminiPart) : Bool :=
  part.inlineData.isNone && part.functionCall.isNone && part.thought

/-- A text, a thought or a call. -/
def GeminiPart.IsContent (part : GeminiPart) : Prop :=
  part.inlineData = none ∧ part.executableCode = none ∧ part.codeExecutionResult = none

/-- What the unary conversion adds to the content. -/
def GeminiPart.text? (part : GeminiPart) : Option String :=
  if part.functionCall.isNone ∧ ¬part.thought then some part.text else none

def GeminiPart.thought? (part : GeminiPart) : Option String :=
  if part.isThought then some part.text else none

/-- What the stream conversion adds to the joined text. -/
def GeminiPart.streamText? (part : GeminiPart) : Option String :=
  match part.inlineData, part.functionCall with
  | some inlineData, _ =>
    if startsWith inlineData.mimeType "image" then some inlineData.imgText else none
  | none, some _ => none
  | none, none =>
    if part.thought then some part.text
    else
      match part.executableCode, part.codeExecutionResult with
      | some code, _ => some ("```" ++ code.language ++ "\n" ++ code.code ++ "\n```\n")
      | none, some output => some ("```output\n" ++ output ++ "\n```\n")
      | none, none => if part.text ≠ "\n" then some part.text else none

namespace GeminiChatCandidate

def calls (candidate : GeminiChatCandidate) : List FunctionCall :=
  candidate.parts.filterMap (·.call?)

def texts (candidate : GeminiChatCandidate) : List String :=
  candidate.parts.filterMap (·.text?)

def thoughts (candidate : GeminiChatCandidate) : List String :=
  candidate.parts.filterMap (·.thought?)

def streamedText (candidate : GeminiChatCandidate) : String :=
  "\n".intercalate (candidate.parts.filterMap (·.streamText?))

def streamedContent (candidate : GeminiChatCandidate) : String :=
  if candidate.parts.any (·.isThought) then "" else candidate.streamedText

def streamedReasoning (candidate : GeminiChatCandidate) : String :=
  if candidate.parts.any (·.isThought) then candidate.streamedText else ""

end GeminiChatCandidate

/-- The tool calls with the ids from `nextUuid` on and the indices from `index` on. -/
def issuedTools (uuids : Uuids) (nextUuid index : Nat) : List FunctionCall → List ToolCallResponse
  | [] => []
  | call :: rest =>
    { getResponseToolCall uuids nextUuid call with index := some index } ::
      issuedTools uuids (nextUuid + 1) (index + 1) rest

theorem part_eq (rd : StreamRead) :
    rd.part uu pt =
      { texts := rd.texts ++ pt.streamText?.toList
        toolCalls := rd.toolCalls ++ issuedTools uu rd.nextUuid rd.toolCalls.length pt.call?.toList
        isTools := rd.isTools || pt.call?.isSome
        isThought := rd.isThought || pt.isThought
        nextUuid := rd.nextUuid + pt.call?.toList.length } := by
  rcases pt with ⟨text, tht, ind, fc, ec, ou⟩
  unfold StreamRead.part GeminiPart.streamText? GeminiPart.call? GeminiPart.isThought
  cases ind with
  | some ind =>
    by_cases him : startsWith ind.mimeType "image" <;> simp [issuedTools, him]
  | none =>
    cases fc with
    | some call => simp [issuedTools]
    | none =>
      cases tht with
      | true => simp [issuedTools]
      | false =>
        cases ec with
        | some code => simp [issuedTools]
        | none =>
          cases ou with
          | some ou => simp [issuedTools]
          | none => by_cases hli : text = "\n" <;> simp [issuedTools, hli]

theorem issuedTools_append :
    issuedTools uu nu idx (cs ++ os) =
      issuedTools uu nu idx cs ++ issuedTools uu (nu + cs.length) (idx + cs.length) os := by
  induction cs generalizing nu idx with
  | nil => rfl
  | cons call rs ih =>
    have hsu : ∀ n : Nat, n + (rs.length + 1) = n + 1 + rs.length := fun n => by omega
    simp only [cons_append, issuedTools, ih, length_cons, hsu]

@[simp]
theorem length_issuedTools (nu : Nat) : (issuedTools uu nu idx cs).length = cs.length := by
  induction cs generalizing nu idx with
  | nil => rfl
  | cons call rs ih => rw [issuedTools, length_cons, ih, length_cons]

theorem filterMap_cons_toList {α β : Type} (f : α → Option β) (a : α) (rs : List α) :
    (a :: rs).filterMap f = (f a).toList ++ rs.filterMap f := by
  cases h : f a <;> simp [h]

theorem foldl_part (pts : List GeminiPart) :
    pts.foldl (StreamRead.part uu) rd =
      { texts := rd.texts ++ pts.filterMap (·.streamText?)
        toolCalls := rd.toolCalls ++
          issuedTools uu rd.nextUuid rd.toolCalls.length (pts.filterMap (·.call?))
        isTools := rd.isTools || !(pts.filterMap (·.call?)).isEmpty
        isThought := rd.isThought || pts.any (·.isThought)
        nextUuid := rd.nextUuid + (pts.filterMap (·.call?)).length } := by
  induction pts generalizing rd with
  | nil => simp [issuedTools]
  | cons pt rs ih =>
    have htl : (!(pt.call?.toList ++ rs.filterMap (·.call?)).isEmpty) =
        (pt.call?.isSome || !(rs.filterMap (·.call?)).isEmpty) := by
      cases pt.call? <;> simp
    rw [foldl_cons, ih, part_eq]
    simp only [filterMap_cons_toList, issuedTools_append, append_assoc, length_append,
      length_issuedTools, any_cons, Bool.or_assoc, Nat.add_assoc, htl]

theorem read_eq (uu : Uuids) (nu : Nat) (cd : GeminiChatCandidate) :
    cd.read uu nu =
      { texts := cd.parts.filterMap (·.streamText?)
        toolCalls := issuedTools uu nu 0 cd.calls
        isTools := !cd.calls.isEmpty
        isThought := cd.parts.any (·.isThought)
        nextUuid := nu + cd.calls.length } := by
  simp [GeminiChatCandidate.read, foldl_part, GeminiChatCandidate.calls]

/-! ## What a choice gets -/

/-- What a client gets for a choice: the texts put together, and the pieces of tool calls. -/
@[ext]
structure Contribution where
  text : String := ""
  reasoning : String := ""
  pieces : List (Int × ToolCallResponse) := []

instance : Append Contribution where
  append a b := ⟨a.text ++ b.text, a.reasoning ++ b.reasoning, a.pieces ++ b.pieces⟩

theorem Contribution.append_def (a b : Contribution) :
    a ++ b = ⟨a.text ++ b.text, a.reasoning ++ b.reasoning, a.pieces ++ b.pieces⟩ := rfl

@[simp]
theorem Contribution.append_empty : a ++ ({} : Contribution) = a := by
  simp [append_def]

@[simp]
theorem Contribution.empty_append : ({} : Contribution) ++ a = a := by
  simp [append_def]

theorem Contribution.append_assoc (c : Contribution) : a ++ b ++ c = a ++ (b ++ c) := by
  simp [append_def, String.append_assoc]

/-- What a client reads from the contribution. -/
def Contribution.completion (contribution : Contribution) : Completion where
  text := contribution.text
  reasoning := contribution.reasoning
  toolCalls :=
    ((contribution.pieces.map fun piece => (piece.1, piece.2.call)).foldl addPiece []).map Prod.snd

/-- What the choices with the index carry together. -/
def contribution (index : Int) (choices : List Choice) : Contribution where
  text := String.join (((choices.filter (·.index = index)).map (·.delta)).map (·.getContentString))
  reasoning :=
    String.join (((choices.filter (·.index = index)).map (·.delta)).map (·.getReasoningContent))
  pieces := ((choices.filter (·.index = index)).map (·.delta)).flatMap (·.toolPieces)

theorem clientChoice_eq :
    clientChoice idx chunks = (contribution idx (chunks.flatMap (·.choices))).completion := rfl

theorem contribution_append :
    contribution idx (chos ++ os) = contribution idx chos ++ contribution idx os := by
  simp [contribution, Contribution.append_def]

theorem contribution_cons :
    contribution idx (cho :: rs) =
      (if cho.index = idx then
        ⟨cho.delta.getContentString, cho.delta.getReasoningContent, cho.delta.toolPieces⟩
      else {}) ++ contribution idx rs := by
  by_cases hi : cho.index = idx <;> simp [contribution, Contribution.append_def, hi]

theorem contribution_stop : contribution idx (generateStopResponse inf fr).choices = {} := by
  rw [generateStopResponse, contribution_cons]
  split <;> rfl

def indexed (tools : List ToolCallResponse) : List (Int × ToolCallResponse) :=
  tools.map fun tool => (tool.index.getD 0, tool)

open ChatCompletionsStreamResponseChoiceDelta

theorem toolPieces_of_indexed {d : ChatCompletionsStreamResponseChoiceDelta}
    (hid : ∀ tl ∈ d.toolCalls, tl.index.isSome) : d.toolPieces = indexed d.toolCalls := by
  unfold toolPieces indexed
  refine ext_getElem (by simp) fun i hi _ => ?_
  have hlt : i < d.toolCalls.length := by simpa using hi
  obtain ⟨idx, hso⟩ := Option.isSome_iff_exists.mp (hid _ (getElem_mem hlt))
  simp [hso]

variable {uu : Uuids} {nu : Nat}

theorem index_isSome_of_mem_issuedTools (h : tl ∈ issuedTools uu nu idx cs) : tl.index.isSome := by
  induction cs generalizing nu idx with
  | nil => cases h
  | cons call rs ih =>
    rcases mem_cons.mp h with rfl | hr
    · rfl
    · exact ih hr

/-! ## The numbering of the tool calls -/

/-- The ids were made from uuids before `nextUuid`. -/
def Known (uuids : Uuids) (nextUuid : Nat) (ids : List String) : Prop :=
  ∀ id ∈ ids, ∃ n < nextUuid, id = "call_" ++ uuids.uuid n

variable {ids : List String}

theorem Known.mono (h : Known uu nu ids) (hle : nu ≤ ltr) : Known uu ltr ids := by
  intro id hid
  obtain ⟨n, hn, heq⟩ := h id hid
  exact ⟨n, by omega, heq⟩

theorem callID_ne_empty : "call_" ++ uuid ≠ "" := by
  simp [String.append_eq_empty_iff]

theorem Known.next_not_mem (h : Known uu nu ids) : "call_" ++ uu.uuid nu ∉ ids := by
  intro hm
  obtain ⟨n, hn, heq⟩ := h _ hm
  have huu := uu.injective (String.append_right_inj "call_" |>.mp heq)
  omega

theorem Known.concat (h : Known uu nu ids) :
    Known uu (nu + 1) (ids ++ ["call_" ++ uu.uuid nu]) := by
  intro id hid
  rcases mem_append.mp hid with ho | hn
  · exact h.mono (Nat.le_succ _) id ho
  · exact ⟨nu, Nat.lt_succ_self _, mem_singleton.mp hn⟩

theorem assignIndices_issuedTools (hkn : Known uu nu ids) (idx : Nat) (cs : List FunctionCall) :
    assignIndices ids (issuedTools uu nu idx cs) =
      (ids ++ (issuedTools uu nu ids.length cs).map (·.id), issuedTools uu nu ids.length cs) := by
  induction cs generalizing nu ids idx with
  | nil => simp [issuedTools, assignIndices]
  | cons call rs ih =>
    have has : assignIndex ids
          { getResponseToolCall uu nu call with index := some (idx : Int) } =
        (ids ++ ["call_" ++ uu.uuid nu],
          { getResponseToolCall uu nu call with index := some ids.length }) := by
      unfold assignIndex getResponseToolCall
      rw [if_neg (callID_ne_empty), if_neg hkn.next_not_mem]
    simp only [issuedTools, assignIndices, has, ih hkn.concat]
    simp [getResponseToolCall]

/-- The tool calls of the choice with the index `key`, as they are numbered from `index` on. -/
def toolsOf (uuids : Uuids) (key : Int) (nextUuid index : Nat) :
    List GeminiChatCandidate → List ToolCallResponse
  | [] => []
  | candidate :: rest =>
    if candidate.index = key then
      issuedTools uuids nextUuid index candidate.calls ++
        toolsOf uuids key (nextUuid + candidate.calls.length)
          (index + candidate.calls.length) rest
    else toolsOf uuids key (nextUuid + candidate.calls.length) index rest

def candidatesOf (key : Int) (candidates : List GeminiChatCandidate) : List GeminiChatCandidate :=
  candidates.filter (·.index = key)

def callCount (candidates : List GeminiChatCandidate) : Nat :=
  (candidates.flatMap (·.calls)).length

/-- What the candidates carry for the choice with the index `key`. -/
def candidatesContribution (uuids : Uuids) (key : Int) (nextUuid index : Nat)
    (candidates : List GeminiChatCandidate) : Contribution where
  text := String.join ((candidatesOf key candidates).map (·.streamedContent))
  reasoning := String.join ((candidatesOf key candidates).map (·.streamedReasoning))
  pieces := indexed (toolsOf uuids key nextUuid index candidates)

theorem candidatesContribution_cons :
    candidatesContribution uu key nu idx (cd :: rs) =
      if cd.index = key then
        ⟨cd.streamedContent, cd.streamedReasoning,
            indexed (issuedTools uu nu idx cd.calls)⟩ ++
          candidatesContribution uu key (nu + cd.calls.length) (idx + cd.calls.length) rs
      else candidatesContribution uu key (nu + cd.calls.length) idx rs := by
  by_cases hk : cd.index = key <;>
    simp [candidatesContribution, candidatesOf, toolsOf, Contribution.append_def, indexed, hk]

/-- The choice of a candidate whose tool calls are numbered from `index` on. -/
def GeminiChatCandidate.numberedChoice (uuids : Uuids) (nextUuid index : Nat)
    (candidate : GeminiChatCandidate) : Choice :=
  let choice := candidate.choice uuids nextUuid
  { choice with
    delta := { choice.delta with toolCalls := issuedTools uuids nextUuid index candidate.calls } }

theorem contribution_numberedChoice (cd : GeminiChatCandidate) (rs : List Choice) :
    contribution key (cd.numberedChoice uu nu idx :: rs) =
      if cd.index = key then
        ⟨cd.streamedContent, cd.streamedReasoning,
          indexed (issuedTools uu nu idx cd.calls)⟩ ++ contribution key rs
      else contribution key rs := by
  have hi : (cd.numberedChoice uu nu idx).index = cd.index := rfl
  have hpc : (cd.numberedChoice uu nu idx).delta.toolPieces =
      indexed (issuedTools uu nu idx cd.calls) :=
    toolPieces_of_indexed fun _ => index_isSome_of_mem_issuedTools
  have hco : (cd.numberedChoice uu nu idx).delta.getContentString =
      cd.streamedContent := by
    simp only [GeminiChatCandidate.numberedChoice, GeminiChatCandidate.choice, read_eq,
      getContentString,
      GeminiChatCandidate.streamedContent, GeminiChatCandidate.streamedText]
    split <;> rfl
  have hre : (cd.numberedChoice uu nu idx).delta.getReasoningContent =
      cd.streamedReasoning := by
    simp only [GeminiChatCandidate.numberedChoice, GeminiChatCandidate.choice, read_eq,
      getReasoningContent,
      GeminiChatCandidate.streamedReasoning, GeminiChatCandidate.streamedText]
    cases cd.parts.any (·.isThought) <;> rfl
  rw [contribution_cons, hi, hpc, hco, hre]
  split
  · rfl
  · exact Contribution.empty_append

theorem Known.issued (h : Known uu nu ids) (idx : Nat) :
    Known uu (nu + cs.length) (ids ++ (issuedTools uu nu idx cs).map (·.id)) := by
  induction cs generalizing nu ids idx with
  | nil => simpa [issuedTools] using h
  | cons call rs ih =>
    have hr := ih h.concat (idx + 1)
    rw [length_cons, issuedTools, map_cons, Nat.add_comm rs.length 1, ← Nat.add_assoc,
      ← singleton_append, ← append_assoc]
    exact hr

theorem assignChoices_cons {ids : Int → List String} (cd : GeminiChatCandidate)
    (rs : List GeminiChatCandidate) (hkn : Known uu nu (ids cd.index)) :
    assignChoices ids (streamChoices uu nu (cd :: rs)).1 =
      let ltr := assignChoices
        (update ids cd.index (ids cd.index ++
          (issuedTools uu nu (ids cd.index).length cd.calls).map (·.id)))
        (streamChoices uu (nu + cd.calls.length) rs).1
      (ltr.1, cd.numberedChoice uu nu (ids cd.index).length :: ltr.2) := by
  have htl : (cd.choice uu nu).delta.toolCalls =
      issuedTools uu nu 0 cd.calls := by
    rw [GeminiChatCandidate.choice, read_eq]
  have hx : (cd.read uu nu).nextUuid = nu + cd.calls.length := by
    rw [read_eq]
  have has := assignIndices_issuedTools hkn 0 cd.calls
  rw [← htl] at has
  have hch : (cd.choice uu nu).index = cd.index := rfl
  simp only [streamChoices, assignChoices, hx, hch, has]
  rfl

/-- What the numbering of a chunk adds for each choice. -/
structure Assigned (uuids : Uuids) (nextUuid : Nat) (ids : Int → List String)
    (candidates : List GeminiChatCandidate) (assigned : (Int → List String) × List Choice) :
    Prop where
  newIDs : ∀ key, assigned.1 key =
    ids key ++ (toolsOf uuids key nextUuid (ids key).length candidates).map (·.id)
  known : ∀ key, Known uuids (nextUuid + callCount candidates) (assigned.1 key)
  carries : ∀ key, contribution key assigned.2 =
    candidatesContribution uuids key nextUuid (ids key).length candidates

theorem callCount_cons : callCount (cd :: rs) = cd.calls.length + callCount rs := by
  simp [callCount]

/-- The ids a chunk adds are new, for each choice. -/
theorem assigned_streamChoices {ids : Int → List String} (hkn : ∀ key, Known uu nu (ids key))
    (can : List GeminiChatCandidate) :
    Assigned uu nu ids can (assignChoices ids (streamChoices uu nu can).1) := by
  induction can generalizing nu ids with
  | nil =>
    exact ⟨fun key => by simp [streamChoices, assignChoices, toolsOf], hkn, fun key => rfl⟩
  | cons cd rs ih =>
    let ud := update ids cd.index (ids cd.index ++
      (issuedTools uu nu (ids cd.index).length cd.calls).map (·.id))
    have hud : ∀ key, Known uu (nu + cd.calls.length) (ud key) := by
      intro key
      by_cases hk : key = cd.index
      · subst hk
        rw [show ud cd.index = _ from update_self _ _ _]
        exact (hkn _).issued _
      · rw [show ud key = _ from update_of_ne hk _ _]
        exact (hkn key).mono (Nat.le_add_right _ _)
    have hr := ih hud
    rw [assignChoices_cons cd rs (hkn _)]
    refine ⟨fun key => ?_, fun key => ?_, fun key => ?_⟩
    · rw [hr.newIDs, toolsOf]
      by_cases hk : cd.index = key
      · subst hk
        rw [if_pos rfl, show ud cd.index = _ from update_self _ _ _, length_append,
          length_map, length_issuedTools, map_append, append_assoc]
      · rw [if_neg hk, show ud key = _ from update_of_ne (Ne.symm hk) _ _]
    · rw [callCount_cons, ← Nat.add_assoc]
      exact hr.known key
    rw [contribution_numberedChoice, candidatesContribution_cons, hr.carries]
    by_cases hk : cd.index = key
    · subst hk
      rw [if_pos rfl, if_pos rfl, show ud cd.index = _ from update_self _ _ _,
        length_append, length_map, length_issuedTools]
    · rw [if_neg hk, if_neg hk, show ud key = _ from update_of_ne (Ne.symm hk) _ _]

theorem streamChoices_nextUuid : (streamChoices uu nu can).2 = nu + callCount can := by
  induction can generalizing nu with
  | nil => rfl
  | cons cd rs ih =>
    show (streamChoices uu (cd.read uu nu).nextUuid rs).2 = _
    rw [ih, read_eq, callCount_cons, Nat.add_assoc]

theorem toolsOf_append (nu idx : Nat) (os : List GeminiChatCandidate) :
    toolsOf uu key nu idx (can ++ os) =
      toolsOf uu key nu idx can ++
        toolsOf uu key (nu + callCount can) (idx + (toolsOf uu key nu idx can).length) os := by
  induction can generalizing nu idx with
  | nil => rfl
  | cons cd rs ih =>
    rw [cons_append, toolsOf, toolsOf, callCount_cons, ← Nat.add_assoc]
    split
    · rw [ih, append_assoc, length_append, length_issuedTools, ← Nat.add_assoc]
    · exact ih _ _

theorem candidatesContribution_append :
    candidatesContribution uu key nu idx (can ++ os) =
      candidatesContribution uu key nu idx can ++
        candidatesContribution uu key (nu + callCount can)
          (idx + (toolsOf uu key nu idx can).length) os := by
  simp [candidatesContribution, candidatesOf, toolsOf_append, Contribution.append_def, indexed]

/-! ## The run of the handler -/

/-- What was sent for the choice so far. -/
def HandlerState.carried (state : HandlerState) (key : Int) : Contribution :=
  contribution key (state.sent.flatMap (·.choices))

open HandlerState

theorem carried_handleStream (state : HandlerState) :
    (state.handleStream chunk).carried key = state.carried key ++
      contribution key chunk.choices := by
  simp [carried, handleStream, contribution_append]

/-- The end of the callback: the response is sent, and a stop chunk if there is a candidate that
stopped. -/
def HandlerState.sendResponse (info : HandlerInfo) (state : HandlerState) (response : Chunk)
    (isStop : Bool) : HandlerState :=
  let state := state.handleStream response
  if isStop then state.handleStream (generateStopResponse info state.finishReason) else state

theorem carried_sendResponse (state : HandlerState) (response : Chunk) :
    (state.sendResponse inf response iss).carried key = state.carried key ++
      contribution key response.choices := by
  cases iss with
  | false => exact carried_handleStream _
  | true =>
    show ((state.handleStream response).handleStream _).carried key = _
    rw [carried_handleStream, carried_handleStream, contribution_stop, Contribution.append_empty]

/-- What one response adds to the state of the handler. -/
structure Advanced (uuids : Uuids) (state after : HandlerState)
    (candidates : List GeminiChatCandidate) : Prop where
  count : after.sendResponseCount ≠ 0
  nextUuid : after.nextUuid = state.nextUuid + callCount candidates
  toolCallIDs : after.toolCallIDs =
    (assignChoices state.toolCallIDs (streamChoices uuids state.nextUuid candidates).1).1

variable {state : HandlerState}

theorem advanced_sendResponse {pre : HandlerState} {can : List GeminiChatCandidate} (iss : Bool)
    (hx : pre.nextUuid = (streamChoices uu state.nextUuid can).2) (hid : pre.toolCallIDs =
      (assignChoices state.toolCallIDs (streamChoices uu state.nextUuid can).1).1) :
    Advanced uu state (pre.sendResponse inf response iss) can := by
  rw [streamChoices_nextUuid] at hx
  cases iss with
  | false | true => exact ⟨Nat.succ_ne_zero _, hx, hid⟩

theorem receive_later (hcn : state.sendResponseCount ≠ 0)
    (hkn : ∀ key, Known uu state.nextUuid (state.toolCallIDs key)) :
    Advanced uu state (state.receive uu inf response) response.candidates ∧
      ∀ key, (state.receive uu inf response).carried key =
        state.carried key ++
          candidatesContribution uu key state.nextUuid (state.toolCallIDs key).length
            response.candidates := by
  have hre : state.receive uu inf response =
      sendResponse inf
        { state with
          nextUuid := (streamChoices uu state.nextUuid response.candidates).2
          toolCallIDs := (assignChoices state.toolCallIDs
            (streamChoices uu state.nextUuid response.candidates).1).1 }
        { id := inf.id
          model := inf.upstreamModelName
          choices := (assignChoices state.toolCallIDs
            (streamChoices uu state.nextUuid response.candidates).1).2 }
        response.isStop := by
    simp only [receive, if_neg hcn]
    rfl
  rw [hre]
  refine ⟨advanced_sendResponse _ rfl rfl, fun key => ?_⟩
  rw [carried_sendResponse, ← (assigned_streamChoices hkn response.candidates).carries key]
  rfl

theorem foldl_receive (hcn : state.sendResponseCount ≠ 0)
    (hkn : ∀ key,
      Known uu state.nextUuid (state.toolCallIDs key)) (rsps : List GeminiChatResponse) :
    (rsps.foldl (receive uu inf) state).carried key =
      state.carried key ++
        candidatesContribution uu key state.nextUuid (state.toolCallIDs key).length
          (rsps.flatMap (·.candidates)) := by
  induction rsps generalizing state with
  | nil => simp [candidatesContribution, candidatesOf, toolsOf, indexed]
  | cons response rs ih =>
    obtain ⟨had, hca⟩ := receive_later hcn hkn
    have has := assigned_streamChoices hkn response.candidates
    have haf : ∀ key, Known uu (state.receive uu inf response).nextUuid
        ((state.receive uu inf response).toolCallIDs key) := by
      intro key
      rw [had.nextUuid, had.toolCallIDs]
      exact has.known key
    rw [foldl_cons, ih had.count haf, hca, flatMap_cons, candidatesContribution_append,
      Contribution.append_assoc, had.nextUuid, had.toolCallIDs, has.newIDs, length_append,
      length_map]

/-! ## The first response -/

def withoutArguments (toolCall : ToolCallResponse) : ToolCallResponse :=
  { toolCall with function := { toolCall.function with arguments := "" } }

def Contribution.mapPieces (f : ToolCallResponse → ToolCallResponse) (contribution : Contribution) :
    Contribution :=
  { contribution with pieces := contribution.pieces.map fun piece => (piece.1, f piece.2) }

theorem contribution_mapToolCalls
    (hi : ∀ tl, (f tl).index = tl.index) (key : Int) (chos : List Choice) :
    contribution key (chos.map (Choice.mapToolCalls f)) = (contribution key chos).mapPieces f := by
  have hpc : ∀ cho : Choice, (cho.mapToolCalls f).delta.toolPieces =
      cho.delta.toolPieces.map fun pc => (pc.1, f pc.2) := by
    intro cho
    simp [Choice.mapToolCalls, toolPieces, zipIdx_map, hi]
  induction chos with
  | nil => rfl
  | cons cho rs ih =>
    rw [map_cons, contribution_cons, contribution_cons, ih, hpc]
    show (if cho.index = key then _ else _) ++ _ = _
    split
    · simp [Contribution.mapPieces, Contribution.append_def]
      exact ⟨rfl, rfl⟩
    · simp

theorem contribution_modifyHead_finishReason :
    contribution key (chos.modifyHead fun cho => { cho with finishReason := none }) =
      contribution key chos := by
  cases chos with
  | nil => rfl
  | cons cho rs => rw [modifyHead_cons, contribution_cons, contribution_cons]

/-- What a client gets of the first response: if its first candidate has tool calls, these are
announced for choice 0, and all tool calls of the response come without ids and names. -/
def firstContribution (uuids : Uuids) (key : Int) :
    List GeminiChatCandidate → Contribution
  | [] => {}
  | candidate :: rest =>
    if candidate.calls = [] then candidatesContribution uuids key 0 0 (candidate :: rest)
    else
      (if key = 0 then
        { pieces := indexed ((issuedTools uuids 0 0 candidate.calls).map withoutArguments) }
      else {}) ++
        (candidatesContribution uuids key 0 0 (candidate :: rest)).mapPieces clearToolCall

theorem contribution_start (hi : ∀ tl ∈ tls, tl.index.isSome) :
    contribution key (generateStartEmptyResponse inf tls).choices =
      if key = 0 then { pieces := indexed tls } else {} := by
  rw [generateStartEmptyResponse, contribution_cons]
  show (if (0 : Int) = key then _ else _) ++ ({} : Contribution) = _
  rw [Contribution.append_empty]
  by_cases hk : key = 0
  · rw [if_pos hk.symm, if_pos hk, toolPieces_of_indexed hi]
    rfl
  · rw [if_neg (Ne.symm hk), if_neg hk]

theorem carried_sendFirst_of_empty (state : HandlerState) (response : Chunk)
    (hch : ∀ cho ∈ response.choices.head?, cho.delta.toolCalls = []) (key : Int) :
    (state.sendFirst inf response).1.carried key = state.carried key ∧
      (state.sendFirst inf response).2 = response := by
  have hs0 : (state.handleStream (generateStartEmptyResponse inf [])).carried key =
      state.carried key := by
    rw [carried_handleStream, contribution_start (forall_mem_nil _)]
    split <;> exact Contribution.append_empty
  unfold sendFirst
  split
  next cho rs heq =>
    rw [heq] at hch
    have hem : cho.delta.toolCalls.isEmpty = true := by
      rw [hch cho rfl, isEmpty_nil]
    rw [if_pos hem]
    exact ⟨hs0, rfl⟩
  next => exact ⟨hs0, rfl⟩

theorem carried_sendFirst_of_calls (inf : HandlerInfo) (state : HandlerState)
    (hch : response.choices = cho :: rs) (hcs : cho.delta.toolCalls ≠ [])
    (hi : ∀ tl ∈ cho.delta.toolCalls, tl.index.isSome) (key : Int) :
    (state.sendFirst inf response).1.carried key =
        state.carried key ++
          (if key = 0 then
            { pieces := indexed (cho.delta.toolCalls.map withoutArguments) }
          else {}) ∧
      contribution key (state.sendFirst inf response).2.choices =
        (contribution key response.choices).mapPieces clearToolCall := by
  have hso : cho.delta.toolCalls.isEmpty = false := by simpa using hcs
  have hcr : response.clearToolCalls.choices =
      response.choices.map (Choice.mapToolCalls clearToolCall) := by
    have hto : response.isToolCall = true := by simp [Chunk.isToolCall, hch, hso]
    rw [Chunk.clearToolCalls, if_pos hto]
  have hcl := contribution_mapToolCalls (f := clearToolCall) (fun _ => rfl) key response.choices
  rw [← hcr] at hcl
  have han : ∀ tl ∈ cho.delta.toolCalls.map withoutArguments, tl.index.isSome := by
    intro tl hto
    obtain ⟨orig, hor, rfl⟩ := mem_map.mp hto
    exact hi orig hor
  unfold sendFirst
  rw [hch] at hcl ⊢
  simp only [hso, Bool.false_eq_true, if_false]
  constructor
  · rw [carried_handleStream, ← contribution_start han]
    rfl
  · split
    · exact (contribution_modifyHead_finishReason).trans hcl
    · exact hcl

theorem sendFirst_keeps (inf : HandlerInfo) (state : HandlerState) (response : Chunk) :
    (state.sendFirst inf response).1.nextUuid = state.nextUuid ∧
      (state.sendFirst inf response).1.toolCallIDs = state.toolCallIDs := by
  unfold sendFirst
  split
  · split <;> exact ⟨rfl, rfl⟩
  · exact ⟨rfl, rfl⟩

theorem known_nil (uu : Uuids) (nu : Nat) : Known uu nu [] := forall_mem_nil _

theorem receive_first (uu : Uuids) :
    Advanced uu {} (({} : HandlerState).receive uu inf response) response.candidates ∧
      ∀ key, (({} : HandlerState).receive uu inf response).carried key =
        firstContribution uu key response.candidates := by
  let assi := assignChoices (fun _ => []) (streamChoices uu 0 response.candidates).1
  let nbd : HandlerState :=
    { nextUuid := (streamChoices uu 0 response.candidates).2, toolCallIDs := assi.1 }
  let chunk : Chunk := { id := inf.id, model := inf.upstreamModelName, choices := assi.2 }
  have hre : ({} : HandlerState).receive uu inf response =
      (nbd.sendFirst inf chunk).1.sendResponse inf (nbd.sendFirst inf chunk).2 response.isStop :=
        rfl
  have hcr : ∀ key, contribution key assi.2 =
      candidatesContribution uu key 0 0 response.candidates :=
    (@assigned_streamChoices uu 0 (fun _ => [])
      (fun _ => known_nil uu 0) response.candidates).carries
  have hke := sendFirst_keeps inf nbd chunk
  rw [hre]
  refine ⟨advanced_sendResponse _ hke.1 hke.2, fun key => ?_⟩
  rw [carried_sendResponse]
  cases hcn : response.candidates with
  | nil =>
    have hni : chunk.choices = [] := by
      show (assignChoices _ (streamChoices uu 0 response.candidates).1).2 = []
      rw [hcn]
      rfl
    obtain ⟨hca, hs⟩ := carried_sendFirst_of_empty nbd chunk (by simp [hni]) key
    rw [hca, hs, hni]
    exact Contribution.empty_append
  | cons cd rs =>
    have hco := @assignChoices_cons uu 0 (fun _ => []) cd rs (known_nil uu 0)
    rw [← hcn] at hco
    obtain ⟨ltr, hlt⟩ :
        ∃ ltr, chunk.choices = cd.numberedChoice uu 0 0 :: ltr :=
      ⟨_, congrArg Prod.snd hco⟩
    rw [firstContribution]
    by_cases hcs : cd.calls = []
    · obtain ⟨hca, hs⟩ := carried_sendFirst_of_empty nbd chunk
        (by
          rw [hlt]
          rintro _ ⟨⟩
          show issuedTools uu 0 0 cd.calls = []
          rw [hcs]
          rfl) key
      rw [if_pos hcs, ← hcn, ← hcr, hca, hs]
      exact Contribution.empty_append
    · obtain ⟨hca, hcl⟩ := carried_sendFirst_of_calls inf nbd hlt
        (by
          intro hni
          have hl := congrArg List.length hni
          rw [show (cd.numberedChoice uu 0 0).delta.toolCalls =
            issuedTools uu 0 0 cd.calls from rfl, length_issuedTools] at hl
          exact hcs (length_eq_zero_iff.mp hl))
        (fun _ => index_isSome_of_mem_issuedTools) key
      rw [if_neg hcs, ← hcn, ← hcr, hca, hcl]
      exact congrArg (· ++ _) (Contribution.empty_append)

end NewApi.Gemini
