import Mathlib.Data.List.Nodup
import NewApi.Gemini.Numbering
import NewApi.Streams.ClaudeAgreement

/-!
# The two conversions of Gemini responses

What a client of OpenAI has for every choice, from any number of stream responses and from one
complete response (`gemini_conversions_agree_iff`).
-/

namespace NewApi.Gemini

open Lib Streams List GeminiChatCandidate

/-! ## The tool calls of the client -/

def numberedCalls (tools : List ToolCallResponse) : List (Int × ToolCall) :=
  tools.map fun tool => (tool.index.getD 0, tool.call)

variable (tls : List ToolCallResponse) (uuids uu : Uuids) (key : Int) (nextUuid index idx : Nat)

theorem numberedCalls_append : numberedCalls (tls ++ os) = numberedCalls tls ++ numberedCalls os :=
  map_append

theorem snd_numberedCalls : (numberedCalls tls).map Prod.snd = tls.map (·.call) := by
  rw [numberedCalls, map_map]
  rfl

theorem indexed_append : indexed (tls ++ os) = indexed tls ++ indexed os := map_append

theorem call_indexed : ((indexed tls).map fun pc => (pc.1, pc.2.call)) = numberedCalls tls := by
  rw [indexed, map_map]
  rfl

theorem fst_numberedCalls_map (hi : ∀ tl, (f tl).index = tl.index) (tls : List ToolCallResponse) :
    (numberedCalls (tls.map f)).map Prod.fst = (numberedCalls tls).map Prod.fst := by
  simp [numberedCalls, hi]

theorem addPiece_append_cons {cs rs : List (Int × ToolCall)} {index : Int}
    (hab : ∀ call ∈ cs, call.1 ≠ index) :
    addPiece (cs ++ (index, call) :: rs) (index, pc) = cs ++ (index, call.extend pc) :: rs := by
  induction cs with
  | nil => simp [addPiece]
  | cons head tail ih =>
    rw [cons_append, addPiece, if_neg (hab head mem_cons_self),
      ih fun call hc => hab call (mem_cons_of_mem _ hc), cons_append]

open ToolCallResponse

theorem extend_clearToolCall :
    (withoutArguments tl).call.extend (clearToolCall tl).call = tl.call := by
  simp [withoutArguments, clearToolCall, call, ToolCall.extend]

theorem foldl_announced {cs : List (Int × ToolCall)} {tls : List ToolCallResponse}
    (hno : ((cs ++ numberedCalls tls).map Prod.fst).Nodup) :
    (numberedCalls (tls.map clearToolCall)).foldl addPiece
        (cs ++ numberedCalls (tls.map withoutArguments)) =
      cs ++ numberedCalls tls := by
  induction tls generalizing cs with
  | nil => rfl
  | cons tl rs ih =>
    have hab : ∀ call ∈ cs, call.1 ≠ tl.index.getD 0 := by
      intro call hc
      rw [map_append, nodup_append] at hno
      exact hno.2.2 _ (mem_map_of_mem hc) _ (by simp [numberedCalls])
    show (numberedCalls (rs.map clearToolCall)).foldl addPiece
      (addPiece (cs ++ (tl.index.getD 0, (withoutArguments tl).call) ::
        numberedCalls (rs.map withoutArguments)) (tl.index.getD 0, (clearToolCall tl).call)) = _
    have hr := @ih (cs ++ [(tl.index.getD 0, tl.call)]) (by simpa [numberedCalls] using hno)
    rw [append_assoc, append_assoc, singleton_append, singleton_append] at hr
    rw [addPiece_append_cons hab, extend_clearToolCall]
    exact hr

theorem foldl_announced_all {ann clrd ltr : List ToolCallResponse}
    (hno : ((numberedCalls (ann ++ clrd ++ ltr)).map Prod.fst).Nodup) :
    (numberedCalls (ann.map withoutArguments ++
        ((ann ++ clrd).map clearToolCall ++ ltr))).foldl addPiece [] =
      numberedCalls (ann ++ (clrd.map clearToolCall ++ ltr)) := by
  have ha : ((numberedCalls ann ++
      numberedCalls (clrd.map clearToolCall ++ ltr)).map Prod.fst).Nodup := by
    rw [numberedCalls_append, map_append, map_append,
      @fst_numberedCalls_map clearToolCall (fun _ => rfl), ← map_append,
      ← numberedCalls_append, ← map_append, ← numberedCalls_append, ← append_assoc]
    exact hno
  have han : ((numberedCalls ann).map Prod.fst).Nodup := by
    rw [map_append] at ha
    exact ha.of_append_left
  have hs0 : (numberedCalls (ann.map withoutArguments)).foldl addPiece [] =
      numberedCalls (ann.map withoutArguments) := by
    refine foldl_addPiece_of_nodup ?_
    rwa [nil_append, @fst_numberedCalls_map withoutArguments fun _ => rfl]
  rw [numberedCalls_append, foldl_append, hs0, map_append, append_assoc, numberedCalls_append,
    foldl_append]
  have hme := @foldl_announced [] ann han
  rw [nil_append, nil_append] at hme
  rw [hme, foldl_addPiece_of_nodup ha, ← numberedCalls_append]

theorem fst_numberedCalls_issuedTools :
    (numberedCalls (issuedTools uu nextUuid index cs)).map Prod.fst =
      (range' index cs.length).map Int.ofNat := by
  induction cs generalizing nextUuid index with
  | nil => rfl
  | cons call rs ih =>
    show (index : Int) :: (numberedCalls (issuedTools uu _ _ rs)).map Prod.fst = _
    rw [ih, length_cons, range'_succ, map_cons]
    rfl

theorem fst_numberedCalls_toolsOf :
    (numberedCalls (toolsOf uu key nextUuid index candidates)).map Prod.fst =
      (range' index (toolsOf uu key nextUuid index candidates).length).map Int.ofNat := by
  induction candidates generalizing nextUuid index with
  | nil => rfl
  | cons candidate rs ih =>
    rw [toolsOf]
    split
    · rw [numberedCalls_append, map_append, ih, fst_numberedCalls_issuedTools, length_append,
        length_issuedTools, ← map_append, range'_append_1]
    · exact ih _ _

theorem nodup_toolsOf (candidates : List GeminiChatCandidate) :
    ((numberedCalls (toolsOf uu key nextUuid idx candidates)).map Prod.fst).Nodup := by
  rw [fst_numberedCalls_toolsOf]
  exact List.Nodup.map (fun _ _ h => Int.ofNat.inj h) nodup_range'

theorem ids_issuedTools :
    (issuedTools uu nextUuid index cs).map (·.id) =
      (range' nextUuid cs.length).map fun n => "call_" ++ uu.uuid n := by
  induction cs generalizing nextUuid index with
  | nil => rfl
  | cons call rs ih =>
    rw [issuedTools, map_cons, ih, length_cons, range'_succ, map_cons]
    rfl

theorem ids_toolsOf (candidates : List GeminiChatCandidate) :
    ((toolsOf uu key nextUuid index candidates).map (·.id)).Sublist
      ((range' nextUuid (callCount candidates)).map fun n => "call_" ++ uu.uuid n) := by
  induction candidates generalizing nextUuid index with
  | nil => exact List.Sublist.refl _
  | cons candidate rs ih =>
    rw [toolsOf, callCount_cons, ← range'_append_1, map_append]
    split
    · rw [map_append, ids_issuedTools]
      exact (List.Sublist.refl _).append (ih _ _)
    · exact (ih _ _).trans (sublist_append_right _ _)

theorem nodup_ids_toolsOf :
    ((toolsOf uu key nextUuid idx candidates).map (·.id)).Nodup ∧
      "" ∉ (toolsOf uu key nextUuid idx candidates).map (·.id) := by
  have hs := ids_toolsOf uu key nextUuid idx candidates
  constructor
  · refine hs.nodup (List.Nodup.map (fun n m h => uu.injective ?_) nodup_range')
    exact String.append_right_inj "call_" |>.mp h
  · intro hm
    obtain ⟨n, -, hem⟩ := mem_map.mp (hs.mem hm)
    exact callID_ne_empty hem

theorem function_toolsOf (candidates : List GeminiChatCandidate) :
    (toolsOf uu key nextUuid index candidates).map (·.function) =
      ((candidatesOf key candidates).flatMap (·.calls)).map fun call =>
        ⟨call.functionName, call.arguments⟩ := by
  have his : ∀ (cs : List FunctionCall) (nextUuid index : Nat),
      (issuedTools uu nextUuid index cs).map (·.function) =
        cs.map fun call => ⟨call.functionName, call.arguments⟩ := by
    intro cs
    induction cs with
    | nil => exact fun _ _ => rfl
    | cons call rs ih =>
      intro nextUuid index
      rw [issuedTools, map_cons, ih, map_cons]
      rfl
  induction candidates generalizing nextUuid index with
  | nil => rfl
  | cons candidate rs ih =>
    rw [toolsOf]
    by_cases hk : candidate.index = key
    · rw [if_pos hk, map_append, his, ih]
      simp [candidatesOf, hk]
    · rw [if_neg hk, ih]
      simp [candidatesOf, hk]

/-! ## The client of the stream -/

def streamContribution (uuids : Uuids) (key : Int) : List GeminiChatResponse → Contribution
  | [] => {}
  | response :: rest =>
    firstContribution uuids key response.candidates ++
      candidatesContribution uuids key (callCount response.candidates)
        (toolsOf uuids key 0 0 response.candidates).length (rest.flatMap (·.candidates))

theorem carried_run :
    (responses.foldl (HandlerState.receive uu inf) {}).carried key =
      streamContribution uu key responses := by
  cases responses with
  | nil => rfl
  | cons response rs =>
    obtain ⟨had, hca⟩ := receive_first uu
    have has :=
      @assigned_streamChoices uu 0 (fun _ => []) (fun _ => known_nil uu 0) response.candidates
    have haf : ∀ key, Known uu (({} : HandlerState).receive uu inf response).nextUuid
        ((({} : HandlerState).receive uu inf response).toolCallIDs key) := by
      intro key
      rw [had.nextUuid, had.toolCallIDs]
      exact has.known key
    have hl : ((({} : HandlerState).receive uu inf response).toolCallIDs key).length =
        (toolsOf uu key 0 0 response.candidates).length := by
      rw [had.toolCallIDs]
      exact (congrArg length (has.newIDs key)).trans (by simp)
    rw [foldl_cons, foldl_receive had.count haf, hca, hl, had.nextUuid, Nat.zero_add]
    rfl

theorem clientChoice_stream :
    clientChoice key (geminiChatStreamHandler uu inf u responses) =
      (streamContribution uu key responses).completion := by
  have hch : (geminiChatStreamHandler uu inf u responses).flatMap (·.choices) =
      (responses.foldl (HandlerState.receive uu inf) {}).sent.flatMap (·.choices) := by
    unfold geminiChatStreamHandler
    split <;> simp
  rw [clientChoice_eq, hch, ← carried_run uu]
  rfl

theorem text_firstContribution (candidates : List GeminiChatCandidate) :
    (firstContribution uu key candidates).text =
        String.join ((candidatesOf key candidates).map (·.streamedContent)) ∧
      (firstContribution uu key candidates).reasoning =
        String.join ((candidatesOf key candidates).map (·.streamedReasoning)) := by
  cases candidates with
  | nil => exact ⟨rfl, rfl⟩
  | cons candidate rs =>
    rw [firstContribution]
    by_cases hcs : candidate.calls = []
    · rw [if_pos hcs]
      exact ⟨rfl, rfl⟩
    rw [if_neg hcs]
    split
    · exact ⟨String.empty_append, String.empty_append⟩
    · exact ⟨String.empty_append, String.empty_append⟩

theorem text_streamContribution (responses : List GeminiChatResponse) :
    (streamContribution uu key responses).text =
        String.join
          ((candidatesOf key (responses.flatMap (·.candidates))).map (·.streamedContent)) ∧
      (streamContribution uu key responses).reasoning =
        String.join
          ((candidatesOf key (responses.flatMap (·.candidates))).map (·.streamedReasoning)) := by
  cases responses with
  | nil => exact ⟨rfl, rfl⟩
  | cons response rs =>
    obtain ⟨ht, hre⟩ := text_firstContribution uu key response.candidates
    simp only [streamContribution, Contribution.append_def, ht, hre, candidatesContribution,
      candidatesOf, flatMap_cons, filter_append, map_append, String.join_append, and_self]

/-- The tool calls of the first response are announced for the choice they belong to, and no other
tool calls come with them. -/
def AnnouncedRight : List GeminiChatResponse → Prop
  | [] => True
  | response :: _ =>
    match response.candidates with
    | [] => True
    | candidate :: rest =>
      candidate.calls ≠ [] → candidate.index = 0 ∧ ∀ other ∈ rest, other.calls = []

theorem toolsOf_responses (response : GeminiChatResponse) :
    toolsOf uu key 0 0 ((response :: rs).flatMap (·.candidates)) =
      toolsOf uu key 0 0 response.candidates ++
        toolsOf uu key (callCount response.candidates)
          (toolsOf uu key 0 0 response.candidates).length (rs.flatMap (·.candidates)) := by
  rw [flatMap_cons, toolsOf_append, Nat.zero_add, Nat.zero_add]

theorem toolCalls_of_nodup {ct : Contribution} {tls : List ToolCallResponse}
    (hpc : ct.pieces = indexed tls) (hno : ((numberedCalls tls).map Prod.fst).Nodup) :
    ct.completion.toolCalls = tls.map (·.call) := by
  unfold Contribution.completion
  rw [hpc, call_indexed, foldl_addPiece_of_nodup (by simpa using hno), nil_append,
    snd_numberedCalls]

variable {candidates : List GeminiChatCandidate}

theorem toolsOf_of_no_calls
    (h : ∀ candidate ∈ candidates, candidate.index = key → candidate.calls = []) :
    toolsOf uu key nextUuid idx candidates = [] := by
  have hfu := function_toolsOf uu key nextUuid idx candidates
  have hn : (candidatesOf key candidates).flatMap (·.calls) = [] := by
    rw [flatMap_eq_nil_iff]
    intro candidate hca
    obtain ⟨hm, hk⟩ := mem_filter.mp hca
    exact h candidate hm (by simpa using hk)
  rw [hn, map_nil] at hfu
  exact map_eq_nil_iff.mp hfu

theorem mapPieces_candidatesContribution :
    ((candidatesContribution uu key nextUuid idx candidates).mapPieces clearToolCall).pieces =
      indexed ((toolsOf uu key nextUuid idx candidates).map clearToolCall) := by
  simp [Contribution.mapPieces, candidatesContribution, indexed, clearToolCall]

variable {candidate cd : GeminiChatCandidate}

theorem toolCalls_of_cleared {key : Int} (hk : key ≠ 0) {response : GeminiChatResponse}
    {os : List GeminiChatCandidate} (hre : response.candidates = cd :: os) (hcs : cd.calls ≠ []) :
    (streamContribution uu key (response :: rs)).completion.toolCalls =
      ((toolsOf uu key 0 0 response.candidates).map clearToolCall ++
        toolsOf uu key (callCount response.candidates)
          (toolsOf uu key 0 0 response.candidates).length
          (rs.flatMap (·.candidates))).map (·.call) := by
  have hno := nodup_toolsOf uu key 0 0 ((response :: rs).flatMap (·.candidates))
  rw [toolsOf_responses, numberedCalls_append, map_append,
    ← @fst_numberedCalls_map clearToolCall (fun _ => rfl) (toolsOf uu key 0 0 response.candidates),
    ← map_append, ← numberedCalls_append] at hno
  refine toolCalls_of_nodup ?_ hno
  have hfi : (firstContribution uu key response.candidates).pieces =
      indexed ((toolsOf uu key 0 0 response.candidates).map clearToolCall) := by
    rw [hre, firstContribution, if_neg hcs, if_neg hk, Contribution.empty_append,
      mapPieces_candidatesContribution]
  show (firstContribution uu key response.candidates).pieces ++ indexed _ = _
  rw [hfi]
  exact map_append.symm

theorem toolCalls_of_announced {response : GeminiChatResponse} {os : List GeminiChatCandidate}
    (hre : response.candidates = cd :: os) (hi : cd.index = 0) (hcs : cd.calls ≠ []) :
    (streamContribution uu 0 (response :: rs)).completion.toolCalls =
      (issuedTools uu 0 0 cd.calls ++
        ((toolsOf uu 0 cd.calls.length cd.calls.length os).map clearToolCall ++
          toolsOf uu 0 (callCount response.candidates)
            (toolsOf uu 0 0 0 response.candidates).length
            (rs.flatMap (·.candidates)))).map (·.call) := by
  have htl : toolsOf uu 0 0 0 response.candidates =
      issuedTools uu 0 0 cd.calls ++ toolsOf uu 0 cd.calls.length cd.calls.length os := by
    rw [hre, toolsOf, if_pos hi, Nat.zero_add]
  have hpc : (streamContribution uu 0 (response :: rs)).pieces =
      indexed ((issuedTools uu 0 0 cd.calls).map withoutArguments ++
        ((toolsOf uu 0 0 0 response.candidates).map clearToolCall ++
        toolsOf uu 0 (callCount response.candidates)
          (toolsOf uu 0 0 0 response.candidates).length (rs.flatMap (·.candidates)))) := by
    show (firstContribution uu 0 response.candidates).pieces ++ indexed _ = _
    rw [hre, firstContribution, if_neg hcs, if_pos rfl, ← hre, indexed_append, indexed_append,
      ← mapPieces_candidatesContribution, ← append_assoc]
    rfl
  have hno := nodup_toolsOf uu 0 0 0 ((response :: rs).flatMap (·.candidates))
  rw [toolsOf_responses, htl] at hno
  unfold Contribution.completion
  rw [hpc, call_indexed, htl, foldl_announced_all hno, snd_numberedCalls]

variable {responses : List GeminiChatResponse}

theorem toolCalls_of_announcedRight (h : AnnouncedRight responses) :
    (streamContribution uu key responses).completion.toolCalls =
      (toolsOf uu key 0 0 (responses.flatMap (·.candidates))).map (·.call) := by
  cases responses with
  | nil => rfl
  | cons response rs =>
    have hno := nodup_toolsOf uu key 0 0 ((response :: rs).flatMap (·.candidates))
    rw [toolsOf_responses] at hno ⊢
    cases hre : response.candidates with
    | nil =>
      rw [hre] at hno
      refine toolCalls_of_nodup ?_ hno
      simp [streamContribution, hre, firstContribution, candidatesContribution,
        Contribution.append_def, toolsOf]
    | cons candidate os =>
      by_cases hcs : candidate.calls = []
      · -- nothing is announced
        rw [← hre]
        refine toolCalls_of_nodup ?_ hno
        have hfi : (firstContribution uu key response.candidates).pieces =
            indexed (toolsOf uu key 0 0 response.candidates) := by
          rw [hre, firstContribution, if_pos hcs]
          rfl
        show (firstContribution uu key response.candidates).pieces ++ indexed _ = _
        rw [hfi, indexed_append]
      · simp only [AnnouncedRight, hre] at h
        obtain ⟨hi, hos⟩ := h hcs
        rw [← hre]
        by_cases hk : key = 0
        · subst hk
          have hn := toolsOf_of_no_calls uu 0 candidate.calls.length
            candidate.calls.length fun other hot _ => hos other hot
          have htl : toolsOf uu 0 0 0 response.candidates =
              issuedTools uu 0 0 candidate.calls := by
            rw [hre, toolsOf, if_pos hi, Nat.zero_add, hn, append_nil]
          rw [toolCalls_of_announced uu hre hi hcs, hn, htl, map_nil, nil_append]
        have hn : toolsOf uu key 0 0 response.candidates = [] := by
          refine toolsOf_of_no_calls uu key 0 0 ?_
          rw [hre]
          intro other hot hok
          rcases mem_cons.mp hot with rfl | hr
          · exact absurd (hok.symm.trans hi) hk
          · exact hos other hr
        rw [toolCalls_of_cleared uu hk hre hcs, hn, map_nil]

theorem toolsOf_ne_nil {uuids : Uuids} {key : Int} (hm : cd ∈ candidates) (hk : cd.index = key)
    (hcs : cd.calls ≠ []) : toolsOf uuids key nextUuid idx candidates ≠ [] := by
  intro hni
  have hfu := function_toolsOf uuids key nextUuid idx candidates
  rw [hni, map_nil, eq_comm, map_eq_nil_iff, flatMap_eq_nil_iff] at hfu
  exact hcs (hfu cd (mem_filter.mpr ⟨hm, by simpa using hk⟩))

theorem empty_mem_ids {pre clrd aft : List ToolCallResponse} (h : clrd ≠ []) :
    "" ∈ ((pre ++ (clrd.map clearToolCall ++ aft)).map (·.call)).map (·.id) := by
  obtain ⟨tool, rest, rfl⟩ := exists_cons_of_ne_nil h
  simp [clearToolCall, call]

theorem exists_unnamed_call (h : ¬AnnouncedRight responses) :
    ∃ candidate ∈ responses.flatMap (·.candidates), candidate.calls ≠ [] ∧
      "" ∈ (streamContribution uu candidate.index responses).completion.toolCalls.map (·.id) := by
  cases responses with
  | nil => exact absurd trivial h
  | cons response rs =>
    cases hre : response.candidates with
    | nil => simp [AnnouncedRight, hre] at h
    | cons candidate os =>
      simp only [AnnouncedRight, hre, Classical.not_imp] at h
      obtain ⟨hcs, hwr⟩ := h
      have hm : ∀ oth ∈ candidate :: os,
          oth ∈ (response :: rs).flatMap (·.candidates) := by
        intro oth hot
        exact mem_flatMap.mpr ⟨response, mem_cons_self, hre ▸ hot⟩
      -- a candidate with tool calls for a choice other than 0
      have hot : ∀ oth ∈ candidate :: os, oth.calls ≠ [] → oth.index ≠ 0 →
          "" ∈ (streamContribution uu oth.index
            (response :: rs)).completion.toolCalls.map (·.id) := by
        intro oth hm hcs' hi
        rw [toolCalls_of_cleared uu hi hre hcs]
        exact @empty_mem_ids [] _ _ (toolsOf_ne_nil 0 0 (hre ▸ hm) rfl hcs')
      by_cases hi : candidate.index = 0
      · obtain ⟨oth, hos, hcs'⟩ :
            ∃ oth ∈ os, oth.calls ≠ [] := by
          by_contra hnone
          push Not at hnone
          exact hwr ⟨hi, hnone⟩
        have hom := mem_cons_of_mem candidate hos
        refine ⟨oth, hm oth hom, hcs', ?_⟩
        by_cases hz : oth.index = 0
        · rw [hz, toolCalls_of_announced uu hre hi hcs]
          exact empty_mem_ids (toolsOf_ne_nil _ _ hos hz hcs')
        · exact hot oth hom hcs' hz
      · exact ⟨candidate, hm candidate mem_cons_self, hcs, hot candidate mem_cons_self hcs hi⟩

/-! ## The complete response -/

theorem complete_part (rd : CompleteRead) (hcn : pt.IsContent) :
    (rd.part uu pt).texts = rd.texts ++ pt.text?.toList.filter (· ≠ "\n") ∧
      (rd.part uu pt).reasoningContent = pt.thought?.or rd.reasoningContent ∧
      (rd.part uu pt).toolCalls.map (·.function) =
        rd.toolCalls.map (·.function) ++
          pt.call?.toList.map fun call => ⟨call.functionName, call.arguments⟩ := by
  obtain ⟨hda, hco, hou⟩ := hcn
  unfold CompleteRead.part GeminiPart.text? GeminiPart.thought? GeminiPart.call?
    GeminiPart.isThought
  rw [hda, hco, hou]
  cases hc : pt.functionCall with
  | some call => simp [getResponseToolCall]
  | none =>
    cases hth : pt.thought with
    | true => simp
    | false => by_cases hli : pt.text = "\n" <;> simp [hli]

theorem foldl_complete_part (rd : CompleteRead) {pts : List GeminiPart}
    (hco : ∀ pt ∈ pts, pt.IsContent) :
    (pts.foldl (CompleteRead.part uu) rd).texts =
        rd.texts ++ (pts.filterMap (·.text?)).filter (· ≠ "\n") ∧
      (pts.foldl (CompleteRead.part uu) rd).reasoningContent =
        ((pts.filterMap (·.thought?)).getLast?.or rd.reasoningContent) ∧
      (pts.foldl (CompleteRead.part uu) rd).toolCalls.map (·.function) =
        rd.toolCalls.map (·.function) ++
          (pts.filterMap (·.call?)).map fun call => ⟨call.functionName, call.arguments⟩ := by
  induction pts generalizing rd with
  | nil => simp
  | cons pt rs ih =>
    obtain ⟨hte, hre, hcs⟩ := complete_part uu rd (hco pt mem_cons_self)
    obtain ⟨hte', hre', hcs'⟩ := ih (rd.part uu pt) fun pt hpa => hco pt (mem_cons_of_mem _ hpa)
    rw [foldl_cons, hte', hre', hcs', hte, hre, hcs]
    simp only [filterMap_cons_toList, filter_append, map_append, append_assoc, true_and, and_true]
    cases pt.thought? with
    | none => rfl
    | some tht =>
      rw [Option.toList_some, singleton_append, getLast?_cons]
      cases (rs.filterMap (·.thought?)).getLast? <;> rfl

/-- A client has what a candidate says: its texts, its thoughts and its tool calls. -/
structure Delivered (candidate : GeminiChatCandidate) (completion : Completion) : Prop where
  text : completion.text = String.join candidate.texts
  reasoning : completion.reasoning = String.join candidate.thoughts
  toolCalls : completion.toolCalls.map (fun call => (call.name, call.arguments)) =
    candidate.calls.map fun call => (call.functionName, call.arguments)

/-- The texts of a candidate are joined by line breaks without harm, and only its last thought
says something. -/
structure JoinsComplete (candidate : GeminiChatCandidate) : Prop where
  texts : "\n".intercalate (candidate.texts.filter (· ≠ "\n")) = String.join candidate.texts
  thoughts : ∀ thought ∈ candidate.thoughts.dropLast, thought = ""

def OfCandidate (candidate : GeminiChatCandidate) (choice : OpenAITextResponseChoice) : Prop :=
  choice.index = candidate.index ∧ (Delivered candidate choice.completion ↔ JoinsComplete candidate)

theorem completeChoices_forall₂ (itc : Bool)
    (hco : ∀ candidate ∈ candidates, ∀ pt ∈ candidate.parts, pt.IsContent) :
    List.Forall₂ OfCandidate candidates (completeChoices uu nextUuid itc candidates) := by
  induction candidates generalizing nextUuid itc with
  | nil => exact .nil
  | cons candidate rs ih =>
    obtain ⟨hte, hre, hcs⟩ := foldl_complete_part uu { nextUuid } (hco candidate mem_cons_self)
    refine .cons ⟨rfl, ?_⟩ (ih _ _ fun other hot => hco other (mem_cons_of_mem _ hot))
    generalize hch : (OpenAITextResponseChoice.mk candidate.index _ _) = cho
    have ht : cho.completion.text =
        "\n".intercalate (candidate.texts.filter (· ≠ "\n")) := by
      subst hch
      exact congrArg (String.intercalate "\n") hte
    have hl : cho.completion.reasoning = candidate.thoughts.getLastD "" := by
      subst hch
      rw [getLastD_eq_getLast?]
      exact congrArg (·.getD "") (hre.trans (Option.or_none))
    have htl : cho.completion.toolCalls.map (fun cl => (cl.name, cl.arguments)) =
        candidate.calls.map fun cl => (cl.functionName, cl.arguments) := by
      subst hch
      have hpr := congrArg (map fun func : FunctionResponse => (func.name, func.arguments)) hcs
      simpa [OpenAITextResponseChoice.completion, call, Function.comp_def, calls] using hpr
    constructor
    · intro hde
      refine ⟨ht.symm.trans hde.text, ?_⟩
      rw [← join_eq_getLastD_iff, ← hl, hde.reasoning]
    · intro hjo
      refine ⟨ht.trans hjo.texts, ?_, htl⟩
      rw [hl, (join_eq_getLastD_iff candidate.thoughts).mpr hjo.thoughts]

variable {complete : GeminiChatResponse}

theorem oneShot_iff
    (hco : ∀ candidate ∈ complete.candidates, ∀ pt ∈ candidate.parts, pt.IsContent) :
    List.Forall₂
        (fun candidate cho => cho.index = candidate.index ∧ Delivered candidate cho.completion)
        complete.candidates (responseGeminiChat2OpenAI uu complete) ↔
      ∀ candidate ∈ complete.candidates, JoinsComplete candidate := by
  have hch : List.Forall₂ OfCandidate complete.candidates
      (responseGeminiChat2OpenAI uu complete) := completeChoices_forall₂ uu 0 false hco
  constructor
  · intro hde
    have hjo : List.Forall₂
        (fun candidate cho => JoinsComplete candidate ∧ OfCandidate candidate cho)
        complete.candidates (responseGeminiChat2OpenAI uu complete) :=
      List.Forall₂.mp (fun _ _ hof hde => ⟨hof.2.mp hde.2, hof⟩) hch hde
    exact (forall₂_and_left _ _).mp hjo |>.1
  · intro hjo
    have hbo := (forall₂_and_left _ _).mpr ⟨hjo, hch⟩
    exact hbo.imp fun _ _ h => ⟨h.2.1, h.2.2.mpr h.1⟩

/-! ## The two conversions -/

structure Splitting (complete : GeminiChatResponse) (responses : List GeminiChatResponse) :
    Prop where
  distinct : (complete.candidates.map (·.index)).Nodup
  content : ∀ candidate ∈ complete.candidates, ∀ part ∈ candidate.parts, part.IsContent
  parts : ∀ key, (candidatesOf key (responses.flatMap (·.candidates))).flatMap (·.parts) =
    (candidatesOf key complete.candidates).flatMap (·.parts)

structure ConversionsAgree (uuids : Uuids) (info : HandlerInfo) (usage : Billing.Usage)
    (complete : GeminiChatResponse) (responses : List GeminiChatResponse) : Prop where
  stream : ∀ candidate ∈ complete.candidates,
    let client := clientChoice candidate.index (geminiChatStreamHandler uuids info usage responses)
    Delivered candidate client ∧
      (client.toolCalls.map (·.id)).Nodup ∧ "" ∉ client.toolCalls.map (·.id)
  oneShot : List.Forall₂
    (fun candidate choice => choice.index = candidate.index ∧ Delivered candidate choice.completion)
    complete.candidates (responseGeminiChat2OpenAI uuids complete)

/-- The texts that the stream responses send for a candidate are those of the candidate: joining
them by line breaks within a response, leaving out lines that are empty and taking all texts of a
response with a thought for reasoning makes no difference. -/
structure JoinsStream (sent : List GeminiChatCandidate) (candidate : GeminiChatCandidate) :
    Prop where
  texts : String.join (sent.map (·.streamedContent)) = String.join candidate.texts
  thoughts : String.join (sent.map (·.streamedReasoning)) = String.join candidate.thoughts

section

variable (h : Splitting complete responses)
include h

theorem Splitting.candidatesOf_index (hm : cd ∈ complete.candidates) :
    candidatesOf cd.index complete.candidates = [cd] := by
  have hdi := h.distinct
  obtain ⟨pre, after, heq⟩ := append_of_mem hm
  rw [heq, map_append, map_cons, nodup_append, nodup_cons] at hdi
  obtain ⟨-, ⟨haf, -⟩, hpr⟩ := hdi
  have hn : ∀ os : List GeminiChatCandidate,
      (∀ other ∈ os, other.index ≠ cd.index) → candidatesOf cd.index os = [] := by
    intro os hos
    exact filter_eq_nil_iff.mpr fun other hot => by simpa using hos other hot
  have hpr' : candidatesOf cd.index pre = [] :=
    hn pre fun other hot => hpr _ (mem_map_of_mem hot) _ mem_cons_self
  have haf' : candidatesOf cd.index after = [] :=
    hn after fun other hot hi => haf (hi ▸ mem_map_of_mem hot)
  rw [heq]
  unfold candidatesOf at hpr' haf' ⊢
  rw [filter_append, filter_cons, hpr', haf']
  simp

theorem Splitting.calls_eq (hm : cd ∈ complete.candidates) :
    (candidatesOf cd.index (responses.flatMap (·.candidates))).flatMap (·.calls) = cd.calls := by
  have hpt := h.parts cd.index
  rw [h.candidatesOf_index hm, flatMap_singleton] at hpt
  rw [calls, ← hpt, filterMap_flatMap]
  rfl

theorem Splitting.exists_candidate (hse : sn ∈ responses.flatMap (·.candidates))
    (hcs : sn.calls ≠ []) : ∃ candidate ∈ complete.candidates, candidate.index = sn.index := by
  obtain ⟨pt, hpa⟩ : ∃ pt, pt ∈ sn.parts := by
    obtain ⟨call, hc⟩ := exists_mem_of_ne_nil _ hcs
    obtain ⟨pt, hpa, -⟩ := mem_filterMap.mp hc
    exact ⟨pt, hpa⟩
  have hm : pt ∈ (candidatesOf sn.index (responses.flatMap (·.candidates))).flatMap
      (·.parts) :=
    mem_flatMap.mpr ⟨sn, mem_filter.mpr ⟨hse, by simp⟩, hpa⟩
  rw [h.parts, mem_flatMap] at hm
  obtain ⟨candidate, hca, -⟩ := hm
  obtain ⟨hca, hi⟩ := mem_filter.mp hca
  exact ⟨candidate, hca, by simpa using hi⟩

theorem Splitting.delivered_iff (uuids : Uuids)
    (han : AnnouncedRight responses) (hm : cd ∈ complete.candidates) :
    Delivered cd
        (clientChoice cd.index (geminiChatStreamHandler uuids inf u responses)) ↔
      JoinsStream (candidatesOf cd.index (responses.flatMap (·.candidates))) cd := by
  obtain ⟨ht, hre⟩ := text_streamContribution uuids cd.index responses
  have htl : (streamContribution uuids cd.index responses).completion.toolCalls.map
      (fun cl => (cl.name, cl.arguments)) =
        cd.calls.map fun cl => (cl.functionName, cl.arguments) := by
    have hfu := function_toolsOf uuids cd.index 0 0 (responses.flatMap (·.candidates))
    rw [h.calls_eq hm] at hfu
    have hpr := congrArg (map fun func : FunctionResponse => (func.name, func.arguments)) hfu
    rw [toolCalls_of_announcedRight uuids _ han]
    simpa [call, Function.comp_def] using hpr
  rw [clientChoice_stream]
  constructor
  · intro hde
    exact ⟨ht.symm.trans hde.text, hre.symm.trans hde.reasoning⟩
  · intro hjo
    exact ⟨ht.trans hjo.texts, hre.trans hjo.thoughts, htl⟩

end

/-- The two conversions agree on a response and its stream just if the tool calls of the first
stream response are announced for the right choice, and for no candidate the way the texts and
thoughts are joined makes a difference. -/
theorem gemini_conversions_agree_iff (uuids : Uuids) (info : HandlerInfo) (usage : Billing.Usage)
    {complete : GeminiChatResponse} {responses : List GeminiChatResponse}
    (h : Splitting complete responses) :
    ConversionsAgree uuids info usage complete responses ↔
      AnnouncedRight responses ∧
        ∀ candidate ∈ complete.candidates,
          JoinsStream (candidatesOf candidate.index (responses.flatMap (·.candidates))) candidate ∧
            JoinsComplete candidate := by
  constructor
  · intro hag
    have han : AnnouncedRight responses := by
      by_contra hwrong
      obtain ⟨sent, hse, hcl, he⟩ := exists_unnamed_call uuids hwrong
      obtain ⟨candidate, hca, hin⟩ := h.exists_candidate hse hcl
      have hid := (hag.stream candidate hca).2.2
      rw [clientChoice_stream, hin] at hid
      exact hid he
    refine ⟨han, fun candidate hca => ⟨?_, ?_⟩⟩
    · exact (h.delivered_iff uuids han hca).mp
        (hag.stream candidate hca).1
    · exact (oneShot_iff uuids h.content).mp hag.oneShot candidate hca
  · rintro ⟨han, hjo⟩
    refine ⟨fun candidate hca => ⟨?_, ?_⟩, ?_⟩
    · exact (h.delivered_iff uuids han hca).mpr (hjo _ hca).1
    · rw [clientChoice_stream, toolCalls_of_announcedRight uuids _ han, map_map]
      exact nodup_ids_toolsOf uuids candidate.index 0 0
    · exact (oneShot_iff uuids h.content).mpr fun candidate hca => (hjo _ hca).2

def unaryUuids : Uuids where
  uuid n := String.ofList (List.replicate n 'a')
  injective n m h := by simpa using congrArg (fun s : String => s.toList.length) h

def lookupInfo : HandlerInfo := ⟨"chatcmpl-1", "gemini-2.5-pro", true⟩

def lookupUsage : Billing.Usage := { promptTokens := 12, completionTokens := 9 }

/-- A thought, an answer and a tool call that arrive one after the other. -/
theorem thought_answer_call_agree :
    ConversionsAgree unaryUuids lookupInfo lookupUsage
      ⟨[{ parts := [{ text := "Let me look.", thought := true }, { text := "It is sunny." },
          { functionCall := some ⟨"lookup", "\x7b\x7d"⟩ }] }]⟩
      [⟨[{ parts := [{ text := "Let me look.", thought := true }] }]⟩,
        ⟨[{ parts := [{ text := "It is sunny." }] }]⟩,
        ⟨[{ parts := [{ functionCall := some ⟨"lookup", "\x7b\x7d"⟩ }],
            finishReason := some "STOP" }]⟩] := by
  refine (gemini_conversions_agree_iff _ _ _ ⟨?_, ?_, ?_⟩).mpr ⟨?_, ?_⟩
  · decide
  · simp [GeminiPart.IsContent]
  · intro key
    by_cases hk : (0 : Int) = key <;> simp [candidatesOf, hk]
  · simp [AnnouncedRight, calls, GeminiPart.call?]
  · simp only [mem_singleton, forall_eq]
    exact ⟨⟨by decide +kernel, by decide +kernel⟩, ⟨by decide +kernel, by decide +kernel⟩⟩

def thoughtAndAnswer : GeminiChatResponse where
  candidates :=
    [{ parts := [{ text := "Let me look.", thought := true }, { text := "It is sunny." }]
       finishReason := some "STOP" }]

/-- A thought and an answer in one stream response: the client gets both as reasoning and no
answer. -/
theorem answer_after_thought_lost :
    Splitting thoughtAndAnswer [thoughtAndAnswer] ∧
      clientChoice 0 (geminiChatStreamHandler unaryUuids lookupInfo lookupUsage
        [thoughtAndAnswer]) = ⟨"", "Let me look.\nIt is sunny.", []⟩ ∧
      ¬ConversionsAgree unaryUuids lookupInfo lookupUsage thoughtAndAnswer [thoughtAndAnswer] := by
  have hcl : clientChoice 0 (geminiChatStreamHandler unaryUuids lookupInfo lookupUsage
      [thoughtAndAnswer]) = ⟨"", "Let me look.\nIt is sunny.", []⟩ := by
    decide +kernel
  refine ⟨⟨by decide, by simp [thoughtAndAnswer, GeminiPart.IsContent], fun key => ?_⟩, hcl,
    fun hag => ?_⟩
  · by_cases hk : (0 : Int) = key <;> simp [candidatesOf, thoughtAndAnswer, hk]
  · have ht := (hag.stream _ mem_cons_self).1.text
    exact absurd ht (by decide +kernel)

end NewApi.Gemini
