import Mathlib.Data.List.Nodup
import NewApi.Responses.Conversion
import NewApi.Responses.Termination

/-!
# Streamed and complete Responses responses

What the handler has sent for each call id is carried along the stream (`Tracking`) and compared
with the conversion of the whole response. They differ if a call comes before the text, and for
calls without a name or an id.
-/

namespace NewApi.Responses

open Lib Streams List Function HandlerState

/-! ## The calls of a client -/

/-- The tool calls of the ids with their positions as indices. -/
def numbered (entry : String → ToolCall) : Nat → List String → List (Int × ToolCall)
  | _, [] => []
  | n, id :: rest => ((n : Int), entry id) :: numbered entry (n + 1) rest

theorem numbered_map_snd : (numbered ent n ids).map Prod.snd = ids.map ent := by
  induction ids generalizing n with
  | nil => rfl
  | cons id rs ih =>
    show ent id :: (numbered ent (n + 1) rs).map Prod.snd = _
    rw [ih, map_cons]

theorem numbered_congr (h : ∀ id ∈ ids, ent id = other id) :
    numbered ent n ids = numbered other n ids := by
  induction ids generalizing n with
  | nil => rfl
  | cons id rs ih =>
    rw [forall_mem_cons] at h
    show ((n : Int), ent id) :: numbered ent (n + 1) rs = _
    rw [h.1, ih h.2]
    rfl

variable {cid : String}

theorem mem_withID {ids : List String} {id : String} :
    id ∈ withID ids cid ↔ id ∈ ids ∨ id = cid := by
  unfold withID
  split
  next h =>
    refine ⟨.inl, ?_⟩
    rintro (hid | rfl)
    · exact hid
    · exact h
  next => rw [mem_append, mem_singleton]

theorem nodup_withID (h : ids.Nodup) : (withID ids cid).Nodup := by
  unfold withID
  split
  next => exact h
  next hab =>
    rw [nodup_append]
    refine ⟨h, by simp, fun id hid other hot => ?_⟩
    rw [mem_singleton.mp hot]
    exact fun heq => hab (heq ▸ hid)

theorem withID_cons_of_ne {id : String} (h : id ≠ cid) :
    withID (id :: rs) cid = id :: withID rs cid := by
  unfold withID
  by_cases hm : cid ∈ rs
  · rw [if_pos hm, if_pos (mem_cons_of_mem _ hm)]
  · rw [if_neg hm, if_neg (not_mem_cons_of_ne_of_not_mem h.symm hm), cons_append]

theorem extend_blank : ToolCall.extend ⟨pc.id, "", ""⟩ pc = pc := by
  unfold ToolCall.extend
  rcases pc with ⟨id, name, arguments⟩
  simp +contextual

theorem addPiece_numbered {ent : String → ToolCall} {ids : List String} {pc : ToolCall}
    (hno : ids.Nodup) (hab : pc.id ∉ ids → ent pc.id = ⟨pc.id, "", ""⟩) (n : Nat) :
    addPiece (numbered ent n ids)
        (((n + (withID ids pc.id).idxOf pc.id : Nat) : Int), pc) =
      numbered (update ent pc.id ((ent pc.id).extend pc)) n (withID ids pc.id) := by
  induction ids generalizing n with
  | nil =>
    have hen := hab not_mem_nil
    simp [withID, numbered, addPiece, hen, extend_blank]
  | cons id rs ih =>
    rw [nodup_cons] at hno
    by_cases hid : id = pc.id
    · -- the call is the first one, the others stay
      subst hid
      have hr : numbered (update ent pc.id ((ent pc.id).extend pc))
          (n + 1) rs = numbered ent (n + 1) rs :=
        numbered_congr (fun other hot => update_of_ne (ne_of_mem_of_not_mem hot hno.1) _ _)
      have hwi : withID (pc.id :: rs) pc.id = pc.id :: rs := if_pos mem_cons_self
      rw [hwi, idxOf_cons_self]
      show addPiece (((n : Int), ent pc.id) :: numbered ent (n + 1) rs) _ =
        ((n : Int), update ent pc.id _ pc.id) :: numbered _ (n + 1) rs
      rw [hr, update_self]
      exact if_pos rfl
    · have hta := ih hno.2 (fun h => hab (not_mem_cons_of_ne_of_not_mem (Ne.symm hid) h)) (n + 1)
      rw [withID_cons_of_ne hid, idxOf_cons_ne _ hid]
      show addPiece (((n : Int), ent id) :: numbered ent (n + 1) rs) _ =
        ((n : Int), update ent pc.id _ id) :: numbered _ (n + 1) _
      rw [update_of_ne hid, ← hta]
      have hne :
          ¬(n : Int) = ((n + ((withID rs pc.id).idxOf pc.id + 1) : Nat) : Int) := by
        omega
      rw [addPiece, if_neg hne]
      congr 4
      omega

/-! ## What the calls with an id come to -/

theorem idsOf_append : idsOf (cs ++ [call]) = withID (idsOf cs) call.id := by
  unfold idsOf
  rw [foldl_append]
  rfl

theorem nodup_idsOf : (idsOf cs).Nodup := by
  induction cs using reverseRecOn with
  | nil => exact nodup_nil
  | append_singleton cs call ih =>
    rw [idsOf_append]
    exact nodup_withID ih

variable {cs : List FunctionCall}

theorem mem_idsOf {id : String} : id ∈ idsOf cs ↔ ∃ call ∈ cs, call.id = id := by
  induction cs using reverseRecOn with
  | nil => simp [idsOf]
  | append_singleton cs call ih =>
    rw [idsOf_append, mem_withID, ih]
    simp only [mem_append, mem_singleton, or_and_right, exists_or, exists_eq_left]
    rw [@eq_comm _ id]

theorem progressOf_append :
    progressOf (cs ++ [call]) =
      update (progressOf cs) call.id ((progressOf cs call.id).add call) := by
  funext id
  unfold progressOf
  rw [filter_append, foldl_append]
  by_cases hid : id = call.id
  · subst hid
    simp
  · have hot : [call].filter (·.id = id) = [] := by simp [Ne.symm hid]
    rw [hot, update_of_ne hid]
    rfl

theorem exists_of_progressOf_name {id : String} (h : (progressOf cs id).name ≠ "") :
    ∃ call ∈ cs, call.id = id ∧ call.name = (progressOf cs id).name := by
  induction cs using reverseRecOn with
  | nil => exact absurd rfl h
  | append_singleton cs last ih =>
    rw [progressOf_append] at h ⊢
    by_cases hl : id = last.id
    · subst hl
      rw [update_self] at h ⊢
      by_cases hse : (progressOf cs last.id).name = ""
      · exact ⟨last, by simp, rfl, (if_pos hse).symm⟩
      · obtain ⟨call, hc, hid, hna⟩ := ih hse
        exact ⟨call, mem_append_left _ hc, hid, hna.trans (if_neg hse).symm⟩
    · rw [update_of_ne hl] at h ⊢
      obtain ⟨call, hc, hid, hna⟩ := ih h
      exact ⟨call, mem_append_left _ hc, hid, hna⟩

theorem progressOf_name_ne (hc : call ∈ cs) (hna : call.name ≠ "") :
    (progressOf cs call.id).name ≠ "" := by
  induction cs using reverseRecOn with
  | nil => exact absurd hc not_mem_nil
  | append_singleton cs last ih =>
    have had : ∀ prog : Progress, prog.name ≠ "" ∨ last.name ≠ "" →
        (prog.add last).name ≠ "" := by
      intro prog h
      show (if prog.name = "" then last.name else prog.name) ≠ ""
      split
      next hn => exact h.resolve_left (not_not.mpr hn)
      next hso => exact hso
    rw [progressOf_append]
    by_cases hl : call.id = last.id
    · rw [hl, update_self]
      refine had _ ?_
      rcases mem_append.mp hc with hm | hm
      · exact .inl (hl ▸ ih hm)
      · exact .inr (mem_singleton.mp hm ▸ hna)
    have hm : call ∈ cs := by
      rcases mem_append.mp hc with hm | hm
      · exact hm
      · exact absurd (congrArg FunctionCall.id (mem_singleton.mp hm)) hl
    rw [update_of_ne hl]
    exact ih hm

/-! ## What the client has after some chunks -/

/-- The tool calls a client puts together from the chunks. -/
def clientCalls (chunks : List ChatCompletionsStreamResponse) : List (Int × ToolCall) :=
  chunks.foldl addChunkCalls []

def clientText (chunks : List ChatCompletionsStreamResponse) : String :=
  String.join (chunks.map (·.contentText))

section

variable (ctx : HandlerContext)

theorem clientText_append : clientText (cks ++ [ck]) = clientText cks ++ ck.contentText := by
  unfold clientText
  simp [String.join_append]

theorem clientCalls_append : clientCalls (cks ++ [ck]) = addChunkCalls (clientCalls cks) ck := by
  unfold clientCalls
  rw [foldl_append]
  rfl

theorem finishReasonOf_append :
    finishReasonOf (cks ++ [ck]) =
      (ck.choices.head?.bind (·.finished?)).or (finishReasonOf cks) := by
  unfold finishReasonOf
  cases hfi : ck.choices.head?.bind (·.finished?) with
  | none | some => simp [hfi]

/-- Everything but the chunks is kept when a chunk is sent. -/
structure Kept (s t : HandlerState) : Prop where
  outputText : t.outputText = s.outputText
  sentStop : t.sentStop = s.sentStop
  streamErr : t.streamErr = s.streamErr
  sawToolCall : t.sawToolCall = s.sawToolCall
  toolCallIDs : t.toolCallIDs = s.toolCallIDs
  names : t.toolCallNameByID = s.toolCallNameByID
  args : t.toolCallArgsByID = s.toolCallArgsByID
  nameSent : t.toolCallNameSent = s.toolCallNameSent
  canonical : t.toolCallCanonicalIDByItemID = s.toolCallCanonicalIDByItemID

theorem sendStartIfNeeded_client :
    Kept s (sendStartIfNeeded ctx s) ∧
      clientText (sendStartIfNeeded ctx s).chunks = clientText s.chunks ∧
      clientCalls (sendStartIfNeeded ctx s).chunks = clientCalls s.chunks ∧
      finishReasonOf (sendStartIfNeeded ctx s).chunks = finishReasonOf s.chunks := by
  rcases Bool.eq_false_or_eq_true s.sentStart with hs0 | hs0
  · rw [sendStartIfNeeded_of_sent ctx hs0]
    exact ⟨⟨rfl, rfl, rfl, rfl, rfl, rfl, rfl, rfl, rfl⟩, rfl, rfl, rfl⟩
  rw [sendStartIfNeeded_of_not_sent ctx hs0]
  refine ⟨⟨rfl, rfl, rfl, rfl, rfl, rfl, rfl, rfl, rfl⟩, ?_, ?_, ?_⟩
  · show clientText (s.chunks ++ [_]) = _
    rw [clientText_append]
    exact String.append_empty
  · show clientCalls (s.chunks ++ [_]) = _
    rw [clientCalls_append]
    rfl
  · show finishReasonOf (s.chunks ++ [_]) = _
    rw [finishReasonOf_append]
    rfl

theorem contentText_deltaChunk : (deltaChunk ctx mdl d).contentText = d.getContentString := by
  show String.join [d.getContentString] = _
  simp

theorem addChunkCalls_deltaChunk (cs : List (Int × ToolCall)) :
    addChunkCalls cs (deltaChunk ctx mdl d) =
      (d.toolPieces.map fun pc => (pc.1, pc.2.call)).foldl addPiece cs := by
  show foldl addPiece cs (map _ ([_].flatMap _)) = _
  rw [flatMap_singleton]

theorem send_delta_client :
    Kept t (send ctx (.delta d) t) ∧
      clientText (send ctx (.delta d) t).chunks = clientText t.chunks ++ d.getContentString ∧
      clientCalls (send ctx (.delta d) t).chunks =
        (d.toolPieces.map fun pc => (pc.1, pc.2.call)).foldl addPiece (clientCalls t.chunks) ∧
      finishReasonOf (send ctx (.delta d) t).chunks = finishReasonOf t.chunks := by
  obtain ⟨hk, ht, hcs, hfi⟩ := sendStartIfNeeded_client ctx
  have hck : (send ctx (.delta d) t).chunks =
      (sendStartIfNeeded ctx t).chunks ++ [deltaChunk ctx t.model d] := rfl
  refine ⟨⟨hk.outputText, hk.sentStop, hk.streamErr, hk.sawToolCall,
    hk.toolCallIDs, hk.names, hk.args, hk.nameSent, hk.canonical⟩, ?_, ?_, ?_⟩
  · rw [hck, clientText_append, ht, contentText_deltaChunk]
  · rw [hck, clientCalls_append, hcs, addChunkCalls_deltaChunk]
  · rw [hck, finishReasonOf_append, hfi]
    rfl

end

/-! ## The handler along a stream -/

/-- The handler has noted of every call what `progress` says. -/
structure Noted (s : HandlerState) (progress : String → Progress) : Prop where
  known : ∀ id, id ≠ "" → s.toolCallArgsByID id = (progress id).known
  name : ∀ id, id ≠ "" → (progress id).name = "" → s.toolCallNameByID id = ""
  nameSent : ∀ id, id ≠ "" → (s.toolCallNameSent id = true ↔ (progress id).name ≠ "")
  canonical : s.toolCallCanonicalIDByItemID "" = ""

def entryOf (progress : String → Progress) (id : String) : ToolCall :=
  ⟨id, (progress id).name, (progress id).sent⟩

/-- The stream is open, and the client holds the calls `progress` says. -/
structure Tracking (s : HandlerState) (ids : List String) (progress : String → Progress) :
    Prop where
  streamErr : s.streamErr = none
  sentStop : s.sentStop = false
  ids_eq : s.toolCallIDs = ids
  nodup : ids.Nodup
  absent : ∀ id, id ∉ ids → progress id = {}
  calls : clientCalls s.chunks = numbered (entryOf progress) 0 ids
  text : clientText s.chunks = s.outputText
  unfinished : finishReasonOf s.chunks = none
  saw : s.sawToolCall = true ↔ ids ≠ []
  noted : s.outputText = "" → Noted s progress

/-- Nothing was sent and no call began between the two states. -/
structure SameSent (s t : HandlerState) : Prop where
  chunks : t.chunks = s.chunks
  outputText : t.outputText = s.outputText
  sentStop : t.sentStop = s.sentStop
  streamErr : t.streamErr = s.streamErr
  sawToolCall : t.sawToolCall = s.sawToolCall
  toolCallIDs : t.toolCallIDs = s.toolCallIDs

variable {s t : HandlerState}

/-- Events that send nothing keep the track. -/
theorem Tracking.quiet (h : Tracking s ids prog) (hs : SameSent s t)
    (hno : s.outputText = "" → Noted t prog) : Tracking t ids prog where
  streamErr := hs.streamErr.trans h.streamErr
  sentStop := hs.sentStop.trans h.sentStop
  ids_eq := hs.toolCallIDs.trans h.ids_eq
  nodup := h.nodup
  absent := h.absent
  calls := hs.chunks ▸ h.calls
  text := by rw [hs.chunks, hs.outputText, h.text]
  unfinished := hs.chunks ▸ h.unfinished
  saw := by rw [hs.sawToolCall, h.saw]
  noted := fun ht => hno (hs.outputText ▸ ht)

theorem Noted.kept (h : Noted s prog) (hk : Kept s t) : Noted t prog where
  known := hk.args ▸ h.known
  name := hk.names ▸ h.name
  nameSent := hk.nameSent ▸ h.nameSent
  canonical := hk.canonical ▸ h.canonical

variable {name : String}

theorem sentName_eq (h : Noted s prog) (hid : cid ≠ "")
    (hnm : t.namesWith cid name = s.namesWith cid name)
    (hse : t.toolCallNameSent = s.toolCallNameSent) :
    t.sentName cid name = if (prog cid).name = "" then name else "" := by
  unfold sentName
  rw [hnm, hse]
  by_cases hna : (prog cid).name = ""
  · have hno : s.toolCallNameSent cid = false := by
      rw [← Bool.not_eq_true, h.nameSent cid hid]
      exact not_not.mpr hna
    have hwi : s.namesWith cid name cid = name := by
      unfold namesWith
      split
      next => exact update_self _ _ _
      next hem => rw [h.name cid hid hna, not_not.mp hem]
    rw [hwi, if_pos hna]
    by_cases hem : name = ""
    · rw [if_neg (fun han => han.1 hem), hem]
    · rw [if_pos ⟨hem, hno⟩]
  · have hye := (h.nameSent cid hid).mpr hna
    rw [if_neg hna, if_neg (fun han => Bool.false_ne_true (han.2.symm.trans hye))]

/-- The progress of a call after one more piece of it. -/
def Progress.piece (progress : Progress) (name known argsDelta : String) : Progress where
  name := if progress.name = "" then name else progress.name
  known := known
  sent := progress.sent ++ argsDelta

theorem entryOf_update (name kno ars : String) :
    update (entryOf prog) cid ((entryOf prog cid).extend
        ⟨cid, if (prog cid).name = "" then name else "", ars⟩) =
      entryOf (update prog cid ((prog cid).piece name kno ars)) := by
  funext id
  by_cases hid : id = cid
  · subst hid
    unfold entryOf ToolCall.extend
    dsimp only [Progress.piece]
    by_cases hna : (prog id).name = ""
    · by_cases hem : name = "" <;> simp [hna, hem]
    · simp [hna]
  · rw [update_of_ne hid]
    unfold entryOf
    rw [update_of_ne hid]

variable {events evs : List ResponsesStreamResponse}

open ResponsesOutput

section

variable (ctx : HandlerContext) {ids : List String} {prog : String → Progress}

theorem Noted.piece (h : Noted s prog) (hid : cid ≠ "") (ars : String)
    (hna : t.namesWith cid name = s.namesWith cid name)
    (hse : t.toolCallNameSent = s.toolCallNameSent)
    (har : ∀ id, id ≠ "" → t.toolCallArgsByID id = update s.toolCallArgsByID cid kno id)
    (hca : t.toolCallCanonicalIDByItemID "" = "") :
    Noted (noteTool cid name ars t) (update prog cid ((prog cid).piece name kno ars)) where
  known := by
    intro id hne
    show t.toolCallArgsByID id = _
    rw [har id hne]
    by_cases heq : id = cid
    · subst heq
      rw [update_self, update_self]
      rfl
    · rw [update_of_ne heq, update_of_ne heq, h.known id hne]
  name := by
    intro id hne hn
    show t.namesWith cid name id = ""
    rw [hna]
    unfold namesWith
    by_cases heq : id = cid
    · subst heq
      have hbo : (prog id).name = "" ∧ name = "" := by
        by_cases hnm : (prog id).name = "" <;> simp_all [Progress.piece]
      rw [if_neg (not_not.mpr hbo.2)]
      exact h.name id hne hbo.1
    rw [update_of_ne heq] at hn
    split
    · rw [update_of_ne heq]
      exact h.name id hne hn
    · exact h.name id hne hn
  nameSent := by
    intro id hne
    show (if t.sentName cid name ≠ "" then update t.toolCallNameSent cid true
      else t.toolCallNameSent) id = true ↔ _
    rw [sentName_eq h hid hna hse, hse]
    by_cases heq : id = cid
    · subst heq
      have ho := h.nameSent id hne
      by_cases hnm : (prog id).name = ""
      · by_cases hem : name = "" <;> simp_all [Progress.piece]
      · simp_all [Progress.piece]
    · rw [ite_apply, update_of_ne heq, update_of_ne heq, ite_self]
      exact h.nameSent id hne
  canonical := hca

theorem Tracking.tool (h : Tracking s ids prog) (hte : s.outputText = "") (hid : cid ≠ "")
    {kno : String} (ars : String) (hs : SameSent s t)
    (hna : t.namesWith cid name = s.namesWith cid name)
    (hse : t.toolCallNameSent = s.toolCallNameSent)
    (har : ∀ id, id ≠ "" → t.toolCallArgsByID id = update s.toolCallArgsByID cid kno id)
    (hca : t.toolCallCanonicalIDByItemID "" = "") :
    Tracking (sendToolCallDelta ctx cid name ars t) (withID ids cid)
      (update prog cid ((prog cid).piece name kno ars)) := by
  have hno := h.noted hte
  have ht : t.outputText = "" := hs.outputText.trans hte
  have heq : sendToolCallDelta ctx cid name ars t =
      send ctx (.delta { toolCalls := [toolPiece cid name ars t] }) (noteTool cid name ars t) := by
    unfold sendToolCallDelta
    rw [if_neg hid, if_neg (not_not.mpr ht), sendToolChunk_eq]
  obtain ⟨hk, hct, hcl, hfi⟩ := send_delta_client ctx
  have his : t.toolCallIDs = ids := hs.toolCallIDs.trans h.ids_eq
  have hne : withID ids cid ≠ [] := ne_nil_of_mem (mem_withID.mpr (.inr rfl))
  have hx := hno.piece hid ars hna hse har hca
  rw [heq]
  refine
    { streamErr := hk.streamErr.trans (hs.streamErr.trans h.streamErr)
      sentStop := hk.sentStop.trans (hs.sentStop.trans h.sentStop)
      ids_eq := hk.toolCallIDs.trans (congrArg (withID · cid) his)
      nodup := nodup_withID h.nodup
      absent := ?_
      calls := ?_
      text := ?_
      unfinished := ?_
      saw := ?_
      noted := fun _ => hx.kept hk }
  · intro id hab
    rw [mem_withID, not_or] at hab
    rw [update_of_ne hab.2, h.absent id hab.1]
  · -- the index of the piece is that of its id
    rw [hcl]
    show addPiece (clientCalls t.chunks) (((withID t.toolCallIDs cid).idxOf cid : Nat),
      ⟨cid, t.sentName cid name, ars⟩) = _
    rw [hs.chunks, h.calls, his, sentName_eq hno hid hna hse,
      ← entryOf_update name kno ars]
    have had := @addPiece_numbered (entryOf prog) ids
      ⟨cid, if (prog cid).name = "" then name else "", ars⟩ h.nodup
      (fun hab => by unfold entryOf; rw [h.absent cid hab]) 0
    rwa [Nat.zero_add] at had
  · rw [hct, hk.outputText]
    show clientText t.chunks ++ "" = t.outputText
    rw [String.append_empty, hs.chunks, hs.outputText, h.text]
  · rw [hfi]
    show finishReasonOf t.chunks = none
    rw [hs.chunks, h.unfinished]
  · rw [hk.sawToolCall]
    exact iff_of_true rfl hne

theorem Tracking.sendText (h : Tracking s ids prog) (d : String) :
    Tracking (sendTextDelta ctx d s) ids prog ∧
      (sendTextDelta ctx d s).outputText = s.outputText ++ d := by
  by_cases hem : d = ""
  · obtain ⟨hk, ht, hcs, hfi⟩ := sendStartIfNeeded_client ctx
    have heq : sendTextDelta ctx d s = sendStartIfNeeded ctx s := if_pos hem
    rw [heq, hk.outputText, hem, String.append_empty]
    exact
      ⟨{ streamErr := hk.streamErr.trans h.streamErr
         sentStop := hk.sentStop.trans h.sentStop
         ids_eq := hk.toolCallIDs.trans h.ids_eq
         nodup := h.nodup
         absent := h.absent
         calls := hcs.trans h.calls
         text := by rw [ht, hk.outputText, h.text]
         unfinished := hfi.trans h.unfinished
         saw := by rw [hk.sawToolCall, h.saw]
         noted := fun hn => (h.noted (hk.outputText ▸ hn)).kept hk }, rfl⟩
  · rw [sendTextDelta_of_nonempty ctx hem]
    obtain ⟨hk, ht, hcs, hfi⟩ := send_delta_client ctx
    refine ⟨?_, hk.outputText⟩
    exact
      { streamErr := hk.streamErr.trans h.streamErr
        sentStop := hk.sentStop.trans h.sentStop
        ids_eq := hk.toolCallIDs.trans h.ids_eq
        nodup := h.nodup
        absent := h.absent
        calls := hcs.trans h.calls
        text := by
          rw [ht, hk.outputText]
          exact congrArg (· ++ d) h.text
        unfinished := hfi.trans h.unfinished
        saw := by rw [hk.sawToolCall]; exact h.saw
        noted := fun hn => by
          rw [hk.outputText] at hn
          exact absurd (String.append_eq_empty_iff.mp hn).2 hem }

/-! ### Function calls -/

theorem sendToolCallDelta_kept (cid name ars : String) (t : HandlerState) :
    (sendToolCallDelta ctx cid name ars t).outputText = t.outputText ∧
      (sendToolCallDelta ctx cid name ars t).streamErr = t.streamErr ∧
      (sendToolCallDelta ctx cid name ars t).toolCallCanonicalIDByItemID =
        t.toolCallCanonicalIDByItemID := by
  unfold sendToolCallDelta
  split_ifs
  · exact ⟨rfl, rfl, rfl⟩
  · exact ⟨rfl, rfl, rfl⟩
  rw [sendToolChunk_eq]
  obtain ⟨hk, -⟩ := send_delta_client ctx
  exact ⟨hk.outputText, hk.streamErr, hk.canonical⟩

theorem noteItem_same :
    SameSent s (noteItem item s) ∧ (noteItem item s).toolCallNameSent = s.toolCallNameSent := by
  unfold noteItem
  exact ⟨⟨rfl, rfl, rfl, rfl, rfl, rfl⟩, rfl⟩

theorem handleOutputItem_kept :
    (handleOutputItem ctx item s).outputText = s.outputText ∧
      (handleOutputItem ctx item s).streamErr = s.streamErr := by
  unfold handleOutputItem
  split
  · exact ⟨rfl, rfl⟩
  obtain ⟨ht, her, -⟩ := sendToolCallDelta_kept ctx item.canonicalID (trimSpace item.name)
    (itemDelta item s) (noteItem item s)
  obtain ⟨hs, -⟩ := noteItem_same
  exact ⟨ht.trans hs.outputText, her.trans hs.streamErr⟩

theorem noteItem_canonical (h : s.toolCallCanonicalIDByItemID "" = "") :
    (noteItem item s).toolCallCanonicalIDByItemID "" = "" :=
  (noteItem_sameStream item s).1.canonical h

theorem noteItem_names (item : ResponsesOutput) (s : HandlerState) :
    (noteItem item s).toolCallNameByID = s.namesWith item.canonicalID (trimSpace item.name) := by
  dsimp only [noteItem]

theorem noteItem_namesWith (s : HandlerState) :
    (noteItem item s).namesWith item.canonicalID (trimSpace item.name) =
      s.namesWith item.canonicalID (trimSpace item.name) := by
  have hna := noteItem_names item s
  unfold namesWith at hna ⊢
  rw [hna]
  split
  · rw [update_idem]
  · rfl

theorem noteItem_args :
    (noteItem item s).toolCallArgsByID = update s.toolCallArgsByID item.canonicalID
      (if item.arguments = "" then s.toolCallArgsByID item.canonicalID else item.arguments) := by
  dsimp only [noteItem]
  by_cases hem : item.arguments = ""
  · rw [if_neg (not_not.mpr hem), if_pos hem, update_eq_self]
  · rw [if_pos hem, if_neg hem]

theorem Tracking.item (h : Tracking s ids prog) (ht : s.outputText = "")
    {item : ResponsesOutput} (hty : item.type = "function_call") (hid : item.canonicalID ≠ "") :
    Tracking (handleOutputItem ctx item s) (withID ids item.canonicalID)
      (update prog item.canonicalID
        ((prog item.canonicalID).piece (trimSpace item.name)
          (if item.arguments = "" then (prog item.canonicalID).known else item.arguments)
          (if item.arguments = "" then ""
            else argumentsDelta (prog item.canonicalID).known item.arguments))) := by
  have hno := h.noted ht
  have hd : itemDelta item s = if item.arguments = "" then ""
      else argumentsDelta (prog item.canonicalID).known item.arguments := by
    unfold itemDelta
    rw [hno.known _ hid]
  unfold handleOutputItem
  rw [if_neg (not_not.mpr hty), hd]
  obtain ⟨hs, hse⟩ := noteItem_same
  refine h.tool ctx ht hid _ hs (noteItem_namesWith s) hse
    (fun id _ => ?_) (noteItem_canonical hno.canonical)
  rw [noteItem_args, hno.known _ hid]

theorem handleEvents_cons (h : (handleEvent ctx ev s).streamErr = none) :
    handleEvents ctx (ev :: rs) s = handleEvents ctx rs (handleEvent ctx ev s) := by
  simp [handleEvents, h]

theorem handleEvents_arguments_streamErr (iid : String) (pcs : List String)
    (h : s.streamErr = none) :
    (handleEvents ctx (pcs.map (argumentsEvent iid)) s).streamErr = none := by
  induction pcs generalizing s with
  | nil => exact h
  | cons pc pcs ih =>
    have hs : (handleEvent ctx (argumentsEvent iid pc) s).streamErr = none := by
      show (handleArgumentsDelta ctx iid pc s).streamErr = none
      unfold handleArgumentsDelta
      split
      · exact h
      · exact (sendToolCallDelta_kept ctx _ _ _ _).2.1.trans h
    rw [map_cons, handleEvents_cons ctx hs]
    exact ih hs

theorem handleEvents_call (item : ResponsesOutput) (pcs : List String) (h : s.streamErr = none) :
    handleEvents ctx ([itemAdded { item with arguments := "" }] ++
        pcs.map (argumentsEvent item.id) ++ [argumentsDone item.id, itemDone item]) s =
      handleOutputItem ctx item (handleEvents ctx (pcs.map (argumentsEvent item.id))
        (handleOutputItem ctx { item with arguments := "" } s)) := by
  have had : (handleOutputItem ctx { item with arguments := "" } s).streamErr = none :=
    (handleOutputItem_kept ctx).2.trans h
  have hgv := handleEvents_arguments_streamErr ctx item.id pcs had
  have hd : (handleOutputItem ctx item _).streamErr = none :=
    (handleOutputItem_kept ctx).2.trans hgv
  rw [append_assoc, singleton_append, handleEvents_cons ctx (by exact had),
    handleEvents_append ctx (by exact hgv), handleEvents_cons ctx (by exact hgv),
    handleEvents_cons ctx (by exact hd)]
  rfl

theorem Tracking.arguments (hid : cid ≠ "") (hm : cid ∈ ids) (pcs : List String)
    (h : Tracking s ids prog) (ht : s.outputText = "") (hc : s.callOf iid = cid) :
    Tracking (handleEvents ctx (pcs.map (argumentsEvent iid)) s) ids
        (update prog cid
          { prog cid with
            known := (prog cid).known ++ String.join pcs
            sent := (prog cid).sent ++ String.join pcs }) ∧
      (handleEvents ctx (pcs.map (argumentsEvent iid)) s).outputText = "" := by
  induction pcs generalizing s prog with
  | nil =>
    simp only [String.join_nil, String.append_empty]
    rw [update_eq_self]
    exact ⟨h, ht⟩
  | cons pc pcs ih =>
    have hwi : withID ids cid = ids := if_pos hm
    have hs : handleEvent ctx (argumentsEvent iid pc) s =
        sendToolCallDelta ctx cid "" pc (noteArguments cid pc s) := by
      show handleArgumentsDelta ctx iid pc s = _
      unfold handleArgumentsDelta
      rw [hc, if_neg hid]
    have har : ∀ id, id ≠ "" → (noteArguments cid pc s).toolCallArgsByID id =
        update s.toolCallArgsByID cid ((prog cid).known ++ pc) id := by
      intro id _
      show update s.toolCallArgsByID cid _ id = _
      rw [(h.noted ht).known cid hid]
    have hx : Tracking (sendToolCallDelta ctx cid "" pc (noteArguments cid pc s))
        (withID ids cid) (update prog cid ((prog cid).piece "" ((prog cid).known ++ pc) pc)) :=
      h.tool ctx ht hid pc ⟨rfl, rfl, rfl, rfl, rfl, rfl⟩ rfl rfl har (h.noted ht).canonical
    have hk := sendToolCallDelta_kept ctx cid "" pc (noteArguments cid pc s)
    rw [← hs] at hx hk
    rw [hwi] at hx
    have hr := ih hx (hk.1.trans ht) (by
      unfold callOf at hc ⊢
      rw [hk.2.2]
      exact hc)
    rw [map_cons, handleEvents_cons ctx hx.streamErr]
    rw [update_self, update_idem] at hr
    have hpr : ({ (prog cid).piece "" ((prog cid).known ++ pc) pc with
          known := (prog cid).known ++ pc ++ String.join pcs
          sent := (prog cid).sent ++ pc ++ String.join pcs } : Progress) =
        { prog cid with
          known := (prog cid).known ++ String.join (pc :: pcs)
          sent := (prog cid).sent ++ String.join (pc :: pcs) } := by
      simp only [Progress.piece, String.join_cons, String.append_assoc, Progress.mk.injEq, and_true]
      split
      next hna => exact hna.symm
      next => rfl
    rw [← hpr]
    exact hr

theorem Tracking.muted_item (h : Tracking s ids prog) {item : ResponsesOutput}
    (hmu : s.outputText ≠ "" ∨ item.canonicalID = "") :
    Tracking (handleOutputItem ctx item s) ids prog ∧
      (handleOutputItem ctx item s).outputText = s.outputText := by
  unfold handleOutputItem
  by_cases hty : item.type = "function_call"
  · obtain ⟨hs, hse⟩ := noteItem_same
    have heq : sendToolCallDelta ctx item.canonicalID (trimSpace item.name) (itemDelta item s)
        (noteItem item s) = noteItem item s := by
      unfold sendToolCallDelta
      by_cases hid : item.canonicalID = ""
      · rw [if_pos hid]
      · rw [if_neg hid, hs.outputText, if_pos (hmu.resolve_right hid)]
    rw [if_neg (not_not.mpr hty), heq]
    refine ⟨h.quiet hs fun ht => ?_, hs.outputText⟩
    -- only the empty id is written to
    have hid : item.canonicalID = "" := hmu.resolve_left (not_not.mpr ht)
    have hno := h.noted ht
    refine ⟨fun id hne => ?_, fun id hne hn => ?_, hse ▸ hno.nameSent,
      noteItem_canonical hno.canonical⟩
    · rw [noteItem_args, hid, update_of_ne hne, hno.known id hne]
    · rw [noteItem_names, namesWith, ite_apply, hid, update_of_ne hne, ite_self]
      exact hno.name id hne hn
  · rw [if_pos hty]
    exact ⟨h, rfl⟩

theorem trimSpace_id_of_canonicalID {item : ResponsesOutput} (h : item.canonicalID = "") :
    trimSpace item.id = "" := by
  unfold canonicalID at h
  split at h
  next => exact h
  next hne => exact absurd h hne

theorem Tracking.muted_arguments (pcs : List String)
    (h : Tracking s ids prog) (hmu : s.outputText ≠ "" ∨ trimSpace iid = "") :
    Tracking (handleEvents ctx (pcs.map (argumentsEvent iid)) s) ids prog ∧
      (handleEvents ctx (pcs.map (argumentsEvent iid)) s).outputText = s.outputText := by
  induction pcs generalizing s with
  | nil => exact ⟨h, rfl⟩
  | cons pc pcs ih =>
    have hs : Tracking (handleEvent ctx (argumentsEvent iid pc) s) ids prog ∧
        (handleEvent ctx (argumentsEvent iid pc) s).outputText = s.outputText := by
      show Tracking (handleArgumentsDelta ctx iid pc s) ids prog ∧
        (handleArgumentsDelta ctx iid pc s).outputText = s.outputText
      unfold handleArgumentsDelta
      by_cases hc : s.callOf iid = ""
      · rw [if_pos hc]
        exact ⟨h, rfl⟩
      have ht : s.outputText ≠ "" := by
        -- without text the empty item id stands for no call
        intro ht
        have hit := hmu.resolve_left (not_not.mpr ht)
        unfold callOf at hc
        rw [hit, (h.noted ht).canonical] at hc
        exact hc (if_pos rfl)
      rw [if_neg hc]
      have heq : sendToolCallDelta ctx (s.callOf iid) "" pc
          (noteArguments (s.callOf iid) pc s) =
          noteArguments (s.callOf iid) pc s := by
        unfold sendToolCallDelta
        rw [if_neg hc]
        exact if_pos ht
      rw [heq]
      exact ⟨h.quiet ⟨rfl, rfl, rfl, rfl, rfl, rfl⟩ fun hn => absurd hn ht, rfl⟩
    obtain ⟨hx, ht⟩ := hs
    obtain ⟨hr, hre⟩ := ih hx (ht ▸ hmu)
    rw [map_cons, handleEvents_cons ctx hx.streamErr]
    exact ⟨hr, hre.trans ht⟩

theorem piece_arguments_piece (prog : Progress) (call : FunctionCall) :
    let ad := prog.piece call.name prog.known ""
    let given : Progress := if call.hasItemID then
      { ad with
        known := ad.known ++ call.arguments
        sent := ad.sent ++ call.arguments } else ad
    given.piece call.name (if call.arguments = "" then given.known else call.arguments)
        (if call.arguments = "" then "" else argumentsDelta given.known call.arguments) =
      prog.add call := by
  intro ad given
  have hna : given.name = if prog.name = "" then call.name else prog.name := by
    show (if call.hasItemID then _ else ad : Progress).name = _
    split <;> rfl
  have hkn : given.known =
      if call.hasItemID then prog.known ++ call.arguments else prog.known := by
    show (if call.hasItemID then _ else ad : Progress).known = _
    split <;> rfl
  have hse : given.sent = prog.sent ++ if call.hasItemID then call.arguments else "" := by
    show (if call.hasItemID then _ else ad : Progress).sent = _
    split <;> simp [ad, Progress.piece]
  unfold Progress.piece Progress.add
  rw [hna, hkn, hse, Progress.mk.injEq]
  refine ⟨?_, ?_, rfl⟩
  · by_cases hn : prog.name = "" <;> simp [hn]
  · by_cases hem : call.arguments = "" <;> simp [hem]

def ResponsesOutput.asCall (item : ResponsesOutput) : FunctionCall :=
  ⟨item.canonicalID, trimSpace item.id ≠ "", trimSpace item.name, item.arguments⟩

theorem withID_withID : withID (withID ids cid) cid = withID ids cid :=
  if_pos (mem_withID.mpr (.inr rfl))

theorem callOf_of_added (ht : item.type = "function_call")
    (hid : item.canonicalID ≠ "") (hit : trimSpace item.id ≠ "") :
    (handleOutputItem ctx item s).callOf item.id = item.canonicalID := by
  have hk := sendToolCallDelta_kept ctx item.canonicalID (trimSpace item.name)
    (itemDelta item s) (noteItem item s)
  have hca : (noteItem item s).toolCallCanonicalIDByItemID (trimSpace item.id) =
      item.canonicalID := by
    dsimp only [noteItem]
    rw [if_pos ⟨hit, hid⟩, update_self]
  unfold handleOutputItem
  rw [if_neg (not_not.mpr ht)]
  unfold callOf
  rw [hk.2.2, hca]
  exact if_neg hid

theorem Tracking.added (h : Tracking s ids prog) (ht : s.outputText = "")
    {item : ResponsesOutput} (hty : item.type = "function_call") (hid : item.canonicalID ≠ "")
    (har : item.arguments = "") (pcs : List String) :
    let add := (prog item.canonicalID).piece (trimSpace item.name) (prog item.canonicalID).known ""
    let next := handleEvents ctx (pcs.map (argumentsEvent item.id)) (handleOutputItem ctx item s)
    Tracking next (withID ids item.canonicalID)
        (update prog item.canonicalID
          (if item.asCall.hasItemID then
            { add with
              known := add.known ++ String.join pcs
              sent := add.sent ++ String.join pcs } else add)) ∧
      next.outputText = "" := by
  intro add next
  have had := h.item ctx ht hty hid
  rw [if_pos har, if_pos har] at had
  have hn : (handleOutputItem ctx item s).outputText = "" :=
    (handleOutputItem_kept ctx).1.trans ht
  by_cases hit : trimSpace item.id = ""
  · have hno : item.asCall.hasItemID = false := by
      exact decide_eq_false (not_not.mpr hit)
    rw [hno]
    obtain ⟨hqu, hqt⟩ := had.muted_arguments ctx pcs (.inr hit)
    exact ⟨hqu, hqt.trans hn⟩
  have hye : item.asCall.hasItemID = true := by
    exact decide_eq_true hit
  rw [hye, if_pos rfl]
  have hgv := Tracking.arguments ctx hid (mem_withID.mpr (.inr rfl)) pcs had hn
    (callOf_of_added ctx hty hid hit)
  rw [update_self, update_idem] at hgv
  exact hgv

theorem Tracking.sent_call (h : Tracking s (idsOf cs) (progressOf cs)) (hte : s.outputText = "")
    {item : ResponsesOutput} (ht : item.type = "function_call") (hid : item.canonicalID ≠ "")
    {pcs : List String} (hpc : String.join pcs = item.arguments) :
    let next := handleOutputItem ctx item (handleEvents ctx (pcs.map (argumentsEvent item.id))
      (handleOutputItem ctx { item with arguments := "" } s))
    Tracking next (idsOf (cs ++ [item.asCall])) (progressOf (cs ++ [item.asCall])) ∧
      next.outputText = "" := by
  intro next
  obtain ⟨had, hn⟩ := @Tracking.added s ctx _ _ h hte { item with arguments := "" } ht hid rfl pcs
  have hd := had.item ctx hn ht hid
  rw [idsOf_append, progressOf_append]
  constructor
  · have hsu := piece_arguments_piece (progressOf cs item.canonicalID) item.asCall
    have hs : ({ item with arguments := "" } : ResponsesOutput).canonicalID =
      item.canonicalID := rfl
    rw [hs, withID_withID, update_self, update_idem, hpc] at hd
    dsimp only [asCall] at hsu hd ⊢
    rw [← hsu]
    exact hd
  · exact (handleOutputItem_kept ctx).1.trans hn

/-! ### Whole streams -/

def outputTexts (parts : List ResponsesOutputContent) : String :=
  String.join ((parts.filter (·.type = "output_text")).map (·.text))

/-- Text deltas change the text only. -/
theorem Tracking.texts (pcs : List String) (h : Tracking s ids prog) :
    Tracking (handleEvents ctx (pcs.map textEvent) s) ids prog ∧
      (handleEvents ctx (pcs.map textEvent) s).outputText = s.outputText ++ String.join pcs := by
  induction pcs generalizing s with
  | nil => exact ⟨h, by simp [handleEvents]⟩
  | cons pc pcs ih =>
    obtain ⟨hx, ht⟩ := h.sendText ctx pc
    obtain ⟨hr, hre⟩ := ih hx
    rw [map_cons, handleEvents_cons ctx (by exact hx.streamErr)]
    refine ⟨hr, hre.trans ?_⟩
    rw [ht, String.join_cons, String.append_assoc]

theorem handleEvents_others (h : s.streamErr = none)
    (hos : ∀ ev ∈ evs, ∃ name, ev.type = .other name) : handleEvents ctx evs s = s := by
  induction evs with
  | nil => rfl
  | cons ev rs ih =>
    rw [forall_mem_cons] at hos
    obtain ⟨name, ht⟩ := hos.1
    have hs : handleEvent ctx ev s = s := by
      unfold handleEvent
      rw [ht]
    rw [handleEvents_cons ctx (by rw [hs, h]), hs, ih hos.2]

theorem Tracking.parts (hpt : PartsRendition pts events) (h : Tracking s ids prog) :
    Tracking (handleEvents ctx events s) ids prog ∧
      (handleEvents ctx events s).outputText = s.outputText ++ outputTexts pts := by
  induction hpt generalizing s with
  | nil => exact ⟨h, by simp [handleEvents, outputTexts]⟩
  | skip name _ ih =>
    rw [handleEvents_cons ctx (by exact h.streamErr)]
    exact ih h
  | @cons pt pts events rs hpa _ ih =>
    have hfi : Tracking (handleEvents ctx events s) ids prog ∧
        (handleEvents ctx events s).outputText = s.outputText ++ outputTexts [pt] := by
      cases hpa with
      | text pcs =>
        have hte := h.texts ctx pcs
        simpa [outputTexts] using hte
      | other _ hty name pcs =>
        have heq : handleEvents ctx
            (pcs.map fun pc => { type := .other name, delta := pc }) s = s :=
          handleEvents_others ctx h.streamErr (by simp)
        rw [heq]
        exact ⟨h, by simp [outputTexts, hty]⟩
    obtain ⟨hx, ht⟩ := hfi
    obtain ⟨hr, hre⟩ := ih hx
    rw [handleEvents_append ctx hx.streamErr]
    refine ⟨hr, hre.trans ?_⟩
    have hsp : outputTexts (pt :: pts) = outputTexts [pt] ++ outputTexts pts := by
      unfold outputTexts
      rw [← singleton_append, filter_append, map_append, String.join_append]
    rw [ht, hsp, String.append_assoc]

/-- The calls an item adds after the given text. -/
def newCalls (outputText : String) (item : ResponsesOutput) : List FunctionCall :=
  if outputText = "" then (item.call?.filter (·.id ≠ "")).toList else []

theorem newCalls_of_call (hty : item.type = "function_call") :
    newCalls ot item =
      if ot = "" ∧ item.canonicalID ≠ "" then [item.asCall] else [] := by
  have hc : item.call? = some item.asCall := if_pos hty
  have hid : item.asCall.id = item.canonicalID := by
    dsimp only [asCall]
  unfold newCalls
  rw [hc, Option.filter_some, hid]
  by_cases ht : ot = ""
  · by_cases hem : item.canonicalID = "" <;> simp [ht, hem]
  · simp [ht]

theorem Tracking.rendition {item : ResponsesOutput} (hit : ItemRendition item evs)
    (h : Tracking s (idsOf cs) (progressOf cs)) :
    Tracking (handleEvents ctx evs s) (idsOf (cs ++ newCalls s.outputText item))
        (progressOf (cs ++ newCalls s.outputText item)) ∧
      (handleEvents ctx evs s).outputText = s.outputText ++ item.streamedText := by
  cases hit with
  | @message ht pts hpt =>
    have hc : item.call? = none := if_neg (by rw [ht]; decide)
    have hn : newCalls s.outputText item = [] := by simp [newCalls, hc]
    have htx : item.streamedText = outputTexts item.content := if_pos ht
    -- the items of messages are passed over
    have hsk : ∀ (other : ResponsesOutput) (t : HandlerState), other.type = "message" →
        handleOutputItem ctx other t = t := fun other t hot =>
      if_pos (by rw [hot]; decide)
    have had : handleEvent ctx (itemAdded { item with content := [] }) s = s :=
      hsk { item with content := [] } s ht
    obtain ⟨hx, hte⟩ := h.parts ctx hpt
    have hd : handleEvent ctx (itemDone item) (handleEvents ctx pts s) =
        handleEvents ctx pts s := hsk item _ ht
    rw [append_assoc, singleton_append, handleEvents_cons ctx (by rw [had]; exact h.streamErr), had,
      handleEvents_append ctx hx.streamErr, handleEvents_cons ctx (by rw [hd]; exact hx.streamErr),
      hd, hn, append_nil, htx]
    exact ⟨hx, hte⟩
  | call ht pcs hpc =>
    have hsi : item.streamedText = "" := if_neg (by rw [ht]; decide)
    rw [newCalls_of_call ht, hsi, String.append_empty]
    rw [handleEvents_call ctx item pcs h.streamErr]
    by_cases hse : s.outputText = "" ∧ item.canonicalID ≠ ""
    · obtain ⟨hx, hte⟩ := h.sent_call ctx hse.1 ht hse.2 hpc
      rw [if_pos hse]
      exact ⟨hx, hte.trans hse.1.symm⟩
    have hmu : s.outputText ≠ "" ∨ item.canonicalID = "" := by
      by_cases hte : s.outputText = ""
      · exact .inr (not_not.mp fun hne => hse ⟨hte, hne⟩)
      · exact .inl hte
    obtain ⟨had, hat⟩ := @Tracking.muted_item s ctx _ _ h { item with arguments := "" } hmu
    obtain ⟨hgv, hgi⟩ := had.muted_arguments ctx pcs (hmu.imp (hat ▸ ·) trimSpace_id_of_canonicalID)
    obtain ⟨hd, hdo⟩ := hgv.muted_item ctx (hmu.imp_left (hgi.trans hat ▸ ·))
    rw [if_neg hse, append_nil]
    exact ⟨hd, hdo.trans (hgi.trans hat)⟩

theorem newCalls_of_streamedText (h : item.streamedText ≠ "") : newCalls ot item = [] := by
  have ht : item.type = "message" := by
    by_contra hne
    exact h (if_neg hne)
  have hc : item.call? = none := if_neg (by rw [ht]; decide)
  simp [newCalls, hc]

theorem Tracking.items (hxs : ItemsRendition xs events)
    (h : Tracking s (idsOf cs) (progressOf cs)) :
    let sn := cs ++ if s.outputText = "" then sentCalls xs else []
    Tracking (handleEvents ctx events s) (idsOf sn) (progressOf sn) ∧
      (handleEvents ctx events s).outputText = s.outputText ++ streamedTextOf xs := by
  induction hxs generalizing s cs with
  | nil => simpa [sentCalls, streamedTextOf, handleEvents] using h
  | skip name _ ih =>
    rw [handleEvents_cons ctx (by exact h.streamErr)]
    exact ih h
  | @cons item xs events rs hit _ ih =>
    obtain ⟨hx, ht⟩ := h.rendition ctx hit
    obtain ⟨hr, hre⟩ := ih hx
    rw [handleEvents_append ctx hx.streamErr]
    constructor
    · have hcs : newCalls s.outputText item ++
          (if (handleEvents ctx events s).outputText = "" then sentCalls xs else []) =
          if s.outputText = "" then sentCalls (item :: xs) else [] := by
        rw [ht]
        by_cases hn : s.outputText = ""
        · by_cases hsi : item.streamedText = ""
          · simp [newCalls, hn, hsi, sentCalls]
          · simp [newCalls_of_streamedText hsi, hn, hsi, sentCalls]
        · simp [newCalls, hn, String.append_eq_empty_iff]
      rw [← hcs, ← append_assoc]
      exact hr
    · rw [hre, ht, String.append_assoc]
      simp [streamedTextOf]

end

/-! ## The end of the stream -/

section

variable (ctx : HandlerContext)

theorem noteModel_kept :
    Kept s (s.noteModel response) ∧ (s.noteModel response).chunks = s.chunks := by
  unfold noteModel
  repeat' split
  all_goals exact ⟨⟨rfl, rfl, rfl, rfl, rfl, rfl, rfl, rfl, rfl⟩, rfl⟩

theorem noteUsage_kept :
    Kept s (s.noteUsage response) ∧ (s.noteUsage response).chunks = s.chunks := by
  unfold noteUsage
  split
  all_goals exact ⟨⟨rfl, rfl, rfl, rfl, rfl, rfl, rfl, rfl, rfl⟩, rfl⟩

theorem Tracking.kept (h : Tracking s ids prog) (hk : Kept s t) (hck : t.chunks = s.chunks) :
    Tracking t ids prog :=
  h.quiet ⟨hck, hk.outputText, hk.sentStop, hk.streamErr, hk.sawToolCall,
    hk.toolCallIDs⟩ fun ht => (h.noted ht).kept hk

theorem finished_finishReason :
    ({ finishReason := some s.finishReason } : ChatCompletionsStreamResponseChoice).finished? =
      some s.finishReason := by
  unfold HandlerState.finishReason
  split <;> rfl

theorem startAndStop_client (u : Billing.Usage) (h : s.sentStop = false) :
    let fin := sendStopIfNeeded ctx u (sendStartIfNeeded ctx s)
    clientText fin.chunks = clientText s.chunks ∧
      clientCalls fin.chunks = clientCalls s.chunks ∧
      finishReasonOf fin.chunks = some s.finishReason ∧
      fin.sentStart = true ∧ fin.sentStop = true ∧ fin.streamErr = s.streamErr := by
  intro fin
  obtain ⟨hk, ht, hcs, -⟩ := sendStartIfNeeded_client ctx
  obtain ⟨-, -, -, hs0, -⟩ := sendStartIfNeeded_sent ctx
  have hrs : (sendStartIfNeeded ctx s).finishReason = s.finishReason := by
    unfold HandlerState.finishReason
    rw [hk.sawToolCall, hk.outputText]
  have hfi : fin.chunks =
        (sendStartIfNeeded ctx s).chunks ++ [stopChunk ctx (sendStartIfNeeded ctx s)] ∧
      fin.sentStart = true ∧ fin.sentStop = true ∧ fin.streamErr = s.streamErr := by
    dsimp only [fin]
    unfold sendStopIfNeeded noteConvertUsage
    rw [if_neg (by rw [hk.sentStop, h]; exact Bool.false_ne_true)]
    split
    all_goals exact ⟨rfl, hs0, rfl, hk.streamErr⟩
  refine ⟨?_, ?_, ?_, hfi.2⟩
  · rw [hfi.1, clientText_append, ht]
    exact String.append_empty
  · rw [hfi.1, clientCalls_append, hcs]
    rfl
  rw [hfi.1, finishReasonOf_append]
  show Option.or (ChatCompletionsStreamResponseChoice.finished?
    { finishReason := some (sendStartIfNeeded ctx s).finishReason }) _ = _
  rw [finished_finishReason, hrs, Option.some_or]

theorem usageChunks_client (chunks : List ChatCompletionsStreamResponse) :
    clientText (chunks ++ usageChunks ctx u s) = clientText chunks ∧
      clientCalls (chunks ++ usageChunks ctx u s) = clientCalls chunks ∧
      finishReasonOf (chunks ++ usageChunks ctx u s) = finishReasonOf chunks := by
  unfold usageChunks
  split
  · rw [clientText_append, clientCalls_append, finishReasonOf_append]
    exact ⟨String.append_empty, rfl, rfl⟩
  · rw [append_nil]
    exact ⟨rfl, rfl, rfl⟩

theorem clientChunks_map : clientChunks (cks.map .chunk ++ [.done]) = cks := by
  unfold clientChunks
  simp

theorem tracking_start (model : String) (info : RelayInfo) :
    Tracking { model, info } (idsOf []) (progressOf []) where
  streamErr := rfl
  sentStop := rfl
  ids_eq := rfl
  nodup := nodup_nil
  absent := fun _ _ => rfl
  calls := rfl
  text := rfl
  unfinished := rfl
  saw := by simp [idsOf]
  noted := fun _ => ⟨fun _ _ => rfl, fun _ _ _ => rfl,
    fun _ _ => iff_of_false nofun (not_not.mpr rfl), rfl⟩

theorem Tracking.finishReason_eq (h : Tracking s ids prog) :
    s.finishReason = if ids ≠ [] ∧ s.outputText = "" then "tool_calls" else "stop" := by
  unfold finishReason
  have hsa := h.saw
  by_cases hid : ids = []
  · have hno : s.sawToolCall = false := by
      rw [← Bool.not_eq_true, hsa]
      exact not_not.mpr hid
    simp [hno, hid]
  · simp [hsa.mpr hid, hid]

theorem Tracking.client_eq (h : Tracking ended ids prog) (hfo : ctx.format = .openAI) :
    let fin := sendStopIfNeeded ctx ended.usage (sendStartIfNeeded ctx ended)
    let chunks := clientChunks (endStream ctx fin).chunks
    clientText chunks = ended.outputText ∧
      clientCalls chunks = numbered (entryOf prog) 0 ids ∧
      finishReasonOf chunks = some ended.finishReason ∧ fin.streamErr = none := by
  intro fin chunks
  obtain ⟨ht, hcs, hrs, hss, hse, her⟩ := startAndStop_client ctx ended.usage h.sentStop
  have hno : fin.streamErr = none := her.trans h.streamErr
  have hfi : finishStream ctx fin = fin := by
    unfold finishStream
    rw [sendStartIfNeeded_of_sent ctx hss, sendStopIfNeeded, if_pos hse]
  have hck : chunks = fin.chunks ++ usageChunks ctx (fin.finalUsage ctx) fin := by
    dsimp only [chunks]
    unfold endStream
    rw [hno, hfo]
    rw [hfi, clientChunks_map]
  obtain ⟨ht', hcs', hrs'⟩ := usageChunks_client ctx fin.chunks
  rw [hck]
  refine ⟨?_, ?_, ?_, hno⟩
  · rw [ht', ht, h.text]
  · rw [hcs', hcs, h.calls]
  · rw [hrs', hrs]

theorem Rendition.client_eq (h : Rendition rsp events)
    (hfo : ctx.format = .openAI) (info : RelayInfo) :
    let chunks := clientChunks (oaiResponsesToChatStreamHandler ctx info events).chunks
    let sn := sentCalls rsp.output
    clientText chunks = streamedTextOf rsp.output ∧
      clientCalls chunks = numbered (entryOf (progressOf sn)) 0 (idsOf sn) ∧
      finishReasonOf chunks =
        some (if idsOf sn ≠ [] ∧ streamedTextOf rsp.output = "" then "tool_calls"
          else "stop") := by
  obtain ⟨hxs⟩ := h
  rename_i events
  intro chunks sn
  let s0 : HandlerState := { model := ctx.upstreamModelName, info }
  let crt : ResponsesStreamResponse :=
    { type := .created, response := some { rsp with output := [] } }
  let cpd : ResponsesStreamResponse := { type := .completed, response := some rsp }
  -- the response that is created names the model
  obtain ⟨hcr, hcc⟩ := noteModel_kept
  have hct : Tracking (handleEvent ctx crt s0) (idsOf []) (progressOf []) :=
    (tracking_start ctx.upstreamModelName info).kept hcr hcc
  have hn : (handleEvent ctx crt s0).outputText = "" := hcr.outputText
  obtain ⟨hbo, hbt⟩ := hct.items ctx hxs
  rw [if_pos hn, nil_append] at hbo
  rw [hn, String.empty_append] at hbt
  let bdy := handleEvents ctx events (handleEvent ctx crt s0)
  -- the completed response names the model and the usage, then the stop chunk is sent
  obtain ⟨hmo, hmc⟩ := noteModel_kept
  obtain ⟨hus, huc⟩ := noteUsage_kept
  let ended := (bdy.noteModel cpd.response).noteUsage cpd.response
  have he : Tracking ended (idsOf sn) (progressOf sn) := (hbo.kept hmo hmc).kept hus huc
  have hen : ended.outputText = streamedTextOf rsp.output :=
    hus.outputText.trans (hmo.outputText.trans hbt)
  obtain ⟨ht, hcs, hrs, hno⟩ := he.client_eq ctx hfo
  let fin := sendStopIfNeeded ctx ended.usage (sendStartIfNeeded ctx ended)
  have hr : handleEvents ctx ([crt] ++ events ++ [cpd]) s0 = fin := by
    rw [append_assoc, singleton_append, handleEvents_cons ctx hct.streamErr,
      handleEvents_append ctx hbo.streamErr, handleEvents_cons ctx (by exact hno)]
    rfl
  have hck : chunks = clientChunks (endStream ctx fin).chunks := by
    dsimp only [chunks, oaiResponsesToChatStreamHandler]
    rw [show handleEvents ctx _ _ = fin from hr]
  rw [hck]
  refine ⟨ht.trans hen, hcs, hrs.trans ?_⟩
  rw [he.finishReason_eq, hen]

end

/-! ## Both sides -/

def FunctionCall.toolCall (call : FunctionCall) : ToolCall :=
  ⟨call.id, call.name, call.arguments⟩

theorem sentCalls_of_silent (h : streamedTextOf xs = "") :
    sentCalls xs = (xs.filterMap (·.call?)).filter (·.id ≠ "") := by
  induction xs with
  | nil => rfl
  | cons item rs ih =>
    have hsp : streamedTextOf (item :: rs) = item.streamedText ++ streamedTextOf rs := by
      simp [streamedTextOf]
    rw [hsp, String.append_eq_empty_iff] at h
    rw [sentCalls, if_neg (not_not.mpr h.1), ih h.2]
    cases hc : item.call? with
    | none => simp [hc]
    | some call => by_cases hid : call.id = "" <;> simp [hc, hid, Option.filter_some]

theorem toolCalls_eq :
    (xs.filterMap (·.toolCall?)).map (·.call) = (namedCalls xs).map (·.toolCall) := by
  unfold namedCalls
  induction xs with
  | nil => rfl
  | cons item rs ih =>
    by_cases ht : item.type = "function_call"
    · have hc : item.call? = some item.asCall := if_pos ht
      by_cases hna : trimSpace item.name = ""
      · have hto : item.toolCall? = none := by
          simp [toolCall?, ht, hna]
        have hno : item.asCall.name = "" := hna
        simp [hto, hc, hno, ih]
      have hto : item.toolCall? = some
          { id := item.canonicalID, type := "function"
            function := { name := trimSpace item.name, arguments := item.arguments } } := by
        simp [toolCall?, ht, hna]
      have hye : item.asCall.name ≠ "" := hna
      rw [filterMap_cons_some hto, filterMap_cons_some hc, map_cons,
        filter_cons_of_pos (by simpa using hye), map_cons, ih]
      rfl
    · have hc : item.call? = none := if_neg ht
      have hto : item.toolCall? = none := by simp [toolCall?, ht]
      simp [hto, hc, ih]

theorem callsAgree_iff {xs : List ResponsesOutput} (h : streamedTextOf xs = "") :
    (idsOf (sentCalls xs)).map (entryOf (progressOf (sentCalls xs))) =
        (namedCalls xs).map (·.toolCall) ↔ CallsAgree xs := by
  constructor
  · intro hcs
    have his : idsOf (sentCalls xs) = (namedCalls xs).map (·.id) := by
      have hma := congrArg (map ToolCall.id) hcs
      rw [map_map, map_map] at hma
      have hle : (idsOf (sentCalls xs)).map
          (ToolCall.id ∘ entryOf (progressOf (sentCalls xs))) = idsOf (sentCalls xs) :=
        map_id _
      exact hle.symm.trans hma
    refine ⟨his, fun cl hc => ?_⟩
    rw [his, map_map, map_inj_left] at hcs
    exact congrArg ToolCall.arguments (hcs cl hc)
  · rintro ⟨his, har⟩
    rw [his, map_map, map_inj_left]
    intro cl hc
    have hna := mem_filter.mp hc
    have hnm : cl.name ≠ "" := by simpa using hna.2
    -- the named call is among those that are sent, so its id has a name
    have hm : cl.id ∈ idsOf (sentCalls xs) := his ▸ mem_map_of_mem hc
    have hse : cl ∈ sentCalls xs := by
      obtain ⟨other, hot, hid⟩ := mem_idsOf.mp hm
      rw [sentCalls_of_silent h] at hot ⊢
      have hne := (mem_filter.mp hot).2
      exact mem_filter.mpr ⟨hna.1, by rw [← hid]; exact hne⟩
    have hso := progressOf_name_ne hse hnm
    obtain ⟨first, hfr, hid, hfi⟩ := exists_of_progressOf_name hso
    -- it is that of the only named call with this id
    have hfn : first ∈ namedCalls xs := by
      rw [sentCalls_of_silent h] at hfr
      exact mem_filter.mpr ⟨(mem_filter.mp hfr).1, by simpa using hfi ▸ hso⟩
    have hun : first = cl := inj_on_of_nodup_map (his ▸ nodup_idsOf) hfn hc hid
    show ToolCall.mk cl.id _ _ = ⟨cl.id, cl.name, cl.arguments⟩
    rw [← hfi, hun, har cl hc]

theorem idsOf_eq_nil : idsOf cs = [] ↔ cs = [] := by
  constructor
  · intro h
    refine eq_nil_iff_forall_not_mem.mpr fun call hc => ?_
    have hm := mem_idsOf.mpr ⟨call, hc, rfl⟩
    rw [h] at hm
    exact not_mem_nil hm
  · rintro rfl
    rfl

/-- The stream of a response and the complete response come to the same if and only if the texts
are the same, no call is sent before a text, and without a text the calls agree. -/
theorem responses_conversions_agree_iff {ctx : HandlerContext} (hformat : ctx.format = .openAI)
    (info : RelayInfo) {response : OpenAIResponsesResponse} {events : List ResponsesStreamResponse}
    (h : Rendition response events) (id : String) :
    SameCompletion (clientChunks (oaiResponsesToChatStreamHandler ctx info events).chunks)
        (responsesResponseToChatCompletionsResponse response id) ↔
      streamedTextOf response.output = extractOutputTextFromResponses response.output ∧
        (streamedTextOf response.output ≠ "" → sentCalls response.output = []) ∧
        (streamedTextOf response.output = "" → CallsAgree response.output) := by
  obtain ⟨ht, hca, hfi⟩ := h.client_eq ctx hformat info
  have hst : (accumulate (clientChunks
      (oaiResponsesToChatStreamHandler ctx info events).chunks)).toolCalls =
      (idsOf (sentCalls response.output)).map
        (entryOf (progressOf (sentCalls response.output))) := by
    rw [← numbered_map_snd, ← hca]
    rfl
  have hcn : (responsesResponseToChatCompletionsResponse response id).completion.text =
      extractOutputTextFromResponses response.output := by
    dsimp only [responsesResponseToChatCompletionsResponse, OpenAITextResponse.completion]
    by_cases he : extractOutputTextFromResponses response.output = ""
    · simp [he]
    · simp [he]
  unfold SameCompletion
  rw [show (accumulate _).text = _ from ht, hcn, hst, hfi]
  refine and_congr_right fun hs => ?_
  by_cases he : streamedTextOf response.output = ""
  · -- without text the complete response has the named calls
    have hco : extractOutputTextFromResponses response.output = "" := hs ▸ he
    have hto : (responsesResponseToChatCompletionsResponse response id).completion.toolCalls =
        (namedCalls response.output).map (·.toolCall) := by
      rw [← toolCalls_eq]
      dsimp only [responsesResponseToChatCompletionsResponse, OpenAITextResponse.completion]
      rw [if_pos hco]
    have hre : (responsesResponseToChatCompletionsResponse response id).finishReason =
        if (namedCalls response.output).map (·.toolCall) = [] then "stop" else "tool_calls" := by
      rw [← toolCalls_eq]
      dsimp only [responsesResponseToChatCompletionsResponse]
      rw [if_pos hco]
      simp only [map_eq_nil_iff]
    rw [hto, hre, callsAgree_iff he]
    constructor
    · rintro ⟨hag, -⟩
      exact ⟨fun hne => absurd he hne, fun _ => hag⟩
    rintro ⟨-, hag⟩
    refine ⟨hag he, ?_⟩
    rw [← (callsAgree_iff he).mpr (hag he)]
    by_cases hid : idsOf (sentCalls response.output) = [] <;> simp [hid, he]
  · -- with text the complete response has no calls
    have hco : extractOutputTextFromResponses response.output ≠ "" := hs ▸ he
    have hto : (responsesResponseToChatCompletionsResponse response id).completion.toolCalls =
        [] := by
      dsimp only [responsesResponseToChatCompletionsResponse, OpenAITextResponse.completion]
      rw [if_neg hco, map_nil]
    have hre : (responsesResponseToChatCompletionsResponse response id).finishReason =
        "stop" := by
      dsimp only [responsesResponseToChatCompletionsResponse]
      rw [if_neg hco, if_pos rfl]
    rw [hto, hre, if_neg (fun han => he han.2), map_eq_nil_iff, idsOf_eq_nil]
    constructor
    · rintro ⟨hn, -⟩
      exact ⟨fun _ => hn, fun hno => absurd hno he⟩
    · rintro ⟨hn, -⟩
      exact ⟨hn he, rfl⟩

def lookupCall : ResponsesOutput where
  type := "function_call"
  id := "fc_1"
  callId := "call_1"
  name := "lookup"
  arguments := "\x7b\x7d"

def helloMessage : ResponsesOutput where
  type := "message"
  id := "msg_1"
  role := "assistant"
  content := [⟨"output_text", "Hi"⟩]

def lookupEvents : List ResponsesStreamResponse :=
  [itemAdded { lookupCall with arguments := "" }] ++
    ["\x7b", "\x7d"].map (argumentsEvent lookupCall.id) ++
    [argumentsDone lookupCall.id, itemDone lookupCall]

def helloEvents : List ResponsesStreamResponse :=
  [itemAdded { helloMessage with content := [] }] ++ (["Hi"].map textEvent ++ []) ++
    [itemDone helloMessage]

theorem lookupEvents_rendition : ItemRendition lookupCall lookupEvents :=
  .call lookupCall rfl ["\x7b", "\x7d"] rfl

theorem helloEvents_rendition : ItemRendition helloMessage helloEvents :=
  .message helloMessage rfl (.cons (.text ["Hi"]) .nil)

def streamOf (items : List ResponsesOutput) (events : List ResponsesStreamResponse) :
    List ResponsesStreamResponse :=
  [{ type := .created, response := some {} }] ++ events ++
    [{ type := .completed, response := some { output := items } }]

theorem streamOf_rendition (h : ItemsRendition xs evs) :
    Rendition { output := xs } (streamOf xs evs) :=
  .intro h

/-- A call alone, with its arguments in two pieces. -/
theorem lookup_conversions_agree :
    SameCompletion (clientChunks (oaiResponsesToChatStreamHandler (plainHandler .openAI) {}
        (streamOf [lookupCall] (lookupEvents ++ []))).chunks)
      (responsesResponseToChatCompletionsResponse { output := [lookupCall] } "chatcmpl-1") := by
  have hre := streamOf_rendition (.cons lookupEvents_rendition .nil)
  have hsi : streamedTextOf [lookupCall] = "" := by decide +kernel
  refine (responses_conversions_agree_iff rfl {} hre "chatcmpl-1").mpr ⟨?_, ?_, fun _ => ?_⟩
  · decide +kernel
  · exact fun hne => absurd hsi hne
  · exact ⟨by decide +kernel, by decide +kernel⟩

/-- A call before a text: the client of the stream keeps the call, the complete response has
none. -/
theorem call_before_text_differs :
    ∃ response events, Rendition response events ∧
      ¬SameCompletion (clientChunks
          (oaiResponsesToChatStreamHandler (plainHandler .openAI) {} events).chunks)
        (responsesResponseToChatCompletionsResponse response "chatcmpl-1") := by
  refine ⟨_, _, streamOf_rendition
    (.cons lookupEvents_rendition (.cons helloEvents_rendition .nil)), ?_⟩
  rintro ⟨-, hca, -⟩
  revert hca
  decide +kernel

end NewApi.Responses
