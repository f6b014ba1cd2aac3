import NewApi.Streams.ClaudeStream
import NewApi.Streams.OpenAIToClaude

/-!
# What a client reads of a converted chunk

`relayedDeltas` says which deltas are relayed after the first chunk and whether the message is
ended, `ToolRun` follows the tool calls of consecutive deltas. `Tracks` relates the converter, the
blocks of the client and the run; the client's reader fails exactly where `readDelta` does.
-/

namespace NewApi.Streams

open Lib Lib.BlockStream List
open Billing (Usage)

section

/-- Consecutive tool calls: how many blocks they have started, and the largest index of a call. -/
structure ToolRun where
  started : Nat := 0
  top : Int := 0
  deriving DecidableEq

/-- The next piece of a tool call. A piece with a name must have the next index, a piece with
arguments that of a call that has been named. -/
def ToolRun.read (run : ToolRun) (offset : Int) (toolCall : ToolCallResponse) : Option ToolRun :=
  let top := if offset > run.top then offset else run.top
  if toolCall.function.name ≠ "" then
    if offset = run.started then some ⟨run.started + 1, top⟩ else none
  else if toolCall.function.arguments ≠ "" then
    if 0 ≤ offset ∧ offset < run.started then some ⟨run.started, top⟩ else none
  else some ⟨run.started, top⟩

def ToolRun.readAll (run : ToolRun) (toolCalls : List (ToolCallResponse × Nat)) : Option ToolRun :=
  toolCalls.foldlM (fun run (toolCall, i) => run.read (toolCall.index.getD i) toolCall) run

def complete : Option ToolRun → Bool
  | none => true
  | some run => run.top < run.started

def endRun (run : Option ToolRun) : Option (Option ToolRun) :=
  if complete run then some none else none

def readDelta (run : Option ToolRun) (delta : ChatCompletionsStreamResponseChoiceDelta) :
    Option (Option ToolRun) :=
  if delta.toolCalls.length > 0 then
    ((run.getD {}).readAll delta.toolCalls.zipIdx).map some
  else if delta.getReasoningContent ≠ "" ∨ delta.getContentString ≠ "" then
    endRun run
  else some run

def orderlyCalls (run : Option ToolRun)
    (deltas : List ChatCompletionsStreamResponseChoiceDelta) : Bool :=
  match deltas.foldlM readDelta run with
  | some final => complete final
  | none => false

/-- The deltas that are relayed until the message is ended, or `none` if it is not ended. A chunk
with a finish reason and no usage is dropped. -/
def relayedDeltas (usageKnown : Bool) : List ChatCompletionsStreamResponse →
    Option (List ChatCompletionsStreamResponseChoiceDelta)
  | [] => none
  | chunk :: rest =>
    match chunk.choices with
    | [] =>
      -- the handler knows a usage when the last chunk is converted
      if usageKnown || chunk.usage.isSome || rest.isEmpty then some []
      else relayedDeltas usageKnown rest
    | choice :: _ =>
      if choice.finished?.isSome then
        if chunk.usage.isSome then some [choice.delta] else relayedDeltas usageKnown rest
      else
        (relayedDeltas (usageKnown || chunk.usage.isSome) rest).map (choice.delta :: ·)

def firstRun (chunk : ChatCompletionsStreamResponse) : Option ToolRun :=
  match chunk.choices with
  | [] => none
  | choice :: _ =>
    if choice.delta.toolCalls.length > 0 ∧ choice.delta.getReasoningContent = "" ∧
        choice.delta.getContentString = "" then some ⟨1, 0⟩
    else none

/-- The chunks for which the handler sends a valid stream. The first chunk ends the message with
its usage; or there are two more, a later one ends the message, and the tool calls are orderly. -/
def wellRelayed : List ChatCompletionsStreamResponse → Bool
  | first :: second :: rest =>
    if first.finished then first.usage.isSome
    else
      match relayedDeltas first.usage.isSome (second :: rest) with
      | some deltas => !rest.isEmpty && orderlyCalls (firstRun first) deltas
      | none => false
  | _ => false

end

def LastMessageType.block? : LastMessageType → Option BlockType
  | .text => some .text
  | .thinking => some .thinking
  | _ => Option.none

/-- The blocks that a client has seen, and the run of tool calls, fit the info of the converter:
nothing is open, a block of text or reasoning is open, or all blocks of a run are. -/
inductive Tracks (info : ClaudeConvertInfo) : Blocks BlockType → Option ToolRun → Prop
  | idle {blocks : Blocks BlockType} (hlast : info.lastMessagesType = .none)
      (hindex : info.index = blocks.length) (hclosed : Closed blocks) : Tracks info blocks none
  | piece {before : Blocks BlockType} {kind : BlockType}
      (hlast : info.lastMessagesType.block? = some kind)
      (hindex : info.index = before.length) (hclosed : Closed before) :
      Tracks info (before ++ [(kind, true)]) none
  | tools {before : Blocks BlockType} {run : ToolRun}
      (hlast : info.lastMessagesType = .tools) (hbase : info.toolCallBaseIndex = before.length)
      (hmax : info.toolCallMaxIndexOffset = run.top) (hclosed : Closed before)
      (htop : 0 ≤ run.top) (hstarted : run.started ≤ run.top + 1) :
      Tracks info (before ++ List.replicate run.started (.toolUse, true)) (some run)

section

theorem run_stops (pre : Blocks BlockType) :
    acceptor.run (.streaming (pre ++ replicate n (.toolUse, true)))
        ((range' pre.length n).map fun idx : Nat => generateStopBlock idx) =
      some (.streaming (pre ++ replicate n (.toolUse, false))) := by
  induction n generalizing pre with
  | zero => rfl
  | succ n ih =>
    -- the block that is stopped joins the closed ones before the rest of the run
    have hs : acceptor.step
        (.streaming (pre ++ (.toolUse, true) :: replicate n (.toolUse, true)))
        (generateStopBlock pre.length) =
          some (.streaming (pre ++ (.toolUse, false) :: replicate n (.toolUse, true))) :=
      congrArg (Option.map Phase.streaming) (step_stop_append ..)
    have hr := ih (pre ++ [(.toolUse, false)])
    rw [replicate_succ, range'_succ, map_cons, System.run_cons, hs, replicate_succ,
      Option.bind_some]
    simpa using hr

theorem run_stops_eq_none (h : n < m) :
    acceptor.run (.streaming (pre ++ replicate n (.toolUse, true)))
        ((range' pre.length m).map fun idx : Nat => generateStopBlock idx) = none := by
  obtain ⟨ex, rfl⟩ := Nat.exists_eq_add_of_lt h
  -- the stop after those of the open blocks is for an index that was never started
  have hsp : range' pre.length (n + ex + 1) = range' pre.length n ++
      (pre.length + n) :: range' (pre.length + n + 1) ex := by
    rw [Nat.add_assoc, ← range'_append_1, range'_succ]
  have hs : acceptor.step (.streaming (pre ++ replicate n (.toolUse, false)))
      (generateStopBlock (pre.length + n : Nat)) = none := by
    have hn := step_stop_length (pre ++ replicate n (BlockType.toolUse, false))
    rw [length_append, length_replicate] at hn
    exact congrArg (Option.map Phase.streaming) hn
  rw [hsp, map_append, System.run_append, run_stops, Option.bind_some, map_cons, System.run_cons,
    hs]
  rfl

theorem stopOpenBlocks_of_tools {info : ClaudeConvertInfo} {s0 : Nat}
    (hl : info.lastMessagesType = .tools) (hb : info.toolCallBaseIndex = s0) :
    stopOpenBlocks info =
      (range' s0 (info.toolCallMaxIndexOffset + 1).toNat).map
        fun idx : Nat => generateStopBlock idx := by
  simp only [stopOpenBlocks, hl, hb, range'_eq_map_range, map_map, Function.comp_def,
    Int.natCast_add]

variable {inf : ClaudeConvertInfo} {bs : Blocks BlockType} {run : Option ToolRun}

theorem Tracks.stop (h : Tracks inf bs run) (hco : complete run = true) :
    ∃ cld, acceptor.run (.streaming bs) (stopOpenBlocks inf) = some (.streaming cld) ∧
      Closed cld ∧ cld.length = bs.length := by
  cases h with
  | idle hl hi hcl =>
    refine ⟨bs, ?_, hcl, rfl⟩
    simp [stopOpenBlocks, hl]
  | @piece pre kd hl hi hcl =>
    refine ⟨pre ++ [(kd, false)], ?_, ?_, by simp⟩
    · have hst : stopOpenBlocks inf = [generateStopBlock pre.length] := by
        unfold stopOpenBlocks
        cases hms : inf.lastMessagesType <;> simp_all [LastMessageType.block?]
      have hs : acceptor.step (.streaming (pre ++ [(kd, true)]))
          (generateStopBlock pre.length) = some (.streaming (pre ++ [(kd, false)])) :=
        congrArg (Option.map Phase.streaming) (step_stop_append pre)
      rw [hst, System.run_cons, hs]
      rfl
    · exact closed_append.mpr ⟨hcl, by simp [Closed]⟩
  | @tools pre run hl hb hma hcl hto hsa =>
    have hlt : run.top < run.started := by simpa [complete] using hco
    have hcn : (inf.toolCallMaxIndexOffset + 1).toNat = run.started := by omega
    refine ⟨pre ++ replicate run.started (.toolUse, false), ?_, ?_, by simp⟩
    · rw [stopOpenBlocks_of_tools hl hb, hcn]
      exact run_stops pre
    · exact closed_append.mpr ⟨hcl, by simp [Closed]⟩

theorem Tracks.stop_eq_none (h : Tracks inf bs run) (hco : complete run = false) :
    acceptor.run (.streaming bs) (stopOpenBlocks inf) = none := by
  cases h with
  | idle | piece => cases hco
  | @tools pre run hl hb hma hcl hto hst =>
    have hlt : ¬ run.top < run.started := by simpa [complete] using hco
    rw [stopOpenBlocks_of_tools hl hb]
    exact run_stops_eq_none (by omega)

end

section

variable {info inf : ClaudeConvertInfo} {blocks bs : Blocks BlockType} {run : Option ToolRun}

theorem Tracks.advance (h : Tracks inf bs run) (hco : complete run = true) :
    ∃ cld, acceptor.run (.streaming bs) (stopOpenBlocksAndAdvance inf).1 =
        some (.streaming cld) ∧ Closed cld ∧
      (stopOpenBlocksAndAdvance inf).2.index = cld.length ∧
      (stopOpenBlocksAndAdvance inf).2.lastMessagesType = .none := by
  obtain ⟨cld, hr, hcl, hle⟩ := h.stop hco
  cases h with
  | idle hl hi hbs =>
    have hs : stopOpenBlocksAndAdvance inf = ([], inf) := by
      simp [stopOpenBlocksAndAdvance, hl]
    rw [hs]
    exact ⟨bs, rfl, hbs, hi, hl⟩
  | @piece pre kd hl hi hpr =>
    have had : stopOpenBlocksAndAdvance inf = (stopOpenBlocks inf,
        { inf with index := inf.index + 1, lastMessagesType := .none }) := by
      unfold stopOpenBlocksAndAdvance
      cases hms : inf.lastMessagesType <;> simp_all [LastMessageType.block?]
    rw [had]
    refine ⟨cld, hr, hcl, ?_, rfl⟩
    simp [hle, hi]
  | @tools pre run hl hb hma hpr hto hst =>
    have hlt : run.top < run.started := by simpa [complete] using hco
    simp only [stopOpenBlocksAndAdvance, hl]
    refine ⟨cld, hr, hcl, ?_, trivial⟩
    rw [hle, length_append, length_replicate, hb, hma]
    omega

theorem stopOpenBlocksAndAdvance_events (hl : inf.lastMessagesType ≠ .none) :
    (stopOpenBlocksAndAdvance inf).1 = stopOpenBlocks inf := by
  unfold stopOpenBlocksAndAdvance
  cases hms : inf.lastMessagesType <;> simp_all

theorem Tracks.advance_eq_none (h : Tracks inf bs run) (hco : complete run = false) :
    acceptor.run (.streaming bs) (stopOpenBlocksAndAdvance inf).1 = none := by
  have hs := h.stop_eq_none hco
  cases h with
  | idle | piece => cases hco
  | tools hl => rw [stopOpenBlocksAndAdvance_events (by simp [hl]), hs]

/-- A client reads the events of a part of the conversion as `read` says: it fails where `read`
does, and otherwise the blocks and the run are tracked again. -/
structure Follows (emit : Emit) (read : Option ToolRun → Option (Option ToolRun)) : Prop where
  reads : ∀ {info blocks run later}, Tracks info blocks run → read run = some later →
    ∃ next, acceptor.run (.streaming blocks) (emit info).1 = some (.streaming next) ∧
      Tracks (emit info).2 next later
  fails : ∀ {info blocks run}, Tracks info blocks run → read run = none →
    acceptor.run (.streaming blocks) (emit info).1 = none

theorem Tracks.exists_piece (h : Tracks inf bs run) (hl : inf.lastMessagesType.block? = some kd) :
    ∃ pre, bs = pre ++ [(kd, true)] ∧ run = none ∧ inf.index = pre.length ∧ Closed pre := by
  cases h with
  | idle hn =>
    rw [hn] at hl
    cases hl
  | tools htl =>
    rw [htl] at hl
    cases hl
  | @piece pre other hot hi hcl =>
    rw [hl] at hot
    cases hot
    exact ⟨pre, rfl, rfl, hi, hcl⟩

section

variable {last : LastMessageType} {kd : BlockType} {blk d : ClaudeMediaMessage}

theorem acceptor_step_startBlock (hbl : blk.type.blockType? = some kd) :
    acceptor.step (.streaming cld) (startBlock cld.length blk) =
      some (.streaming (cld ++ [(kd, true)])) := by
  have hev :
      (startBlock cld.length blk).blockEvent? = some (.start cld.length kd) := by
    simp [ClaudeResponse.blockEvent?, startBlock, hbl]
  rw [acceptor_step_block hev, step_start]
  rfl

theorem acceptor_step_deltaBlock (hd : d.type.deltaType? = some kd) :
    acceptor.step (.streaming (pre ++ (kd, true) :: aft)) (deltaBlock pre.length d) =
      some (.streaming (pre ++ (kd, true) :: aft)) := by
  have hev :
      (deltaBlock pre.length d).blockEvent? = some (.piece pre.length kd) := by
    simp [ClaudeResponse.blockEvent?, deltaBlock, hd]
  rw [acceptor_step_block hev, step_piece_append]
  rfl

theorem run_openBlock (hbl : blk.type.blockType? = some kd) (hd : d.type.deltaType? = some kd) :
    acceptor.run (.streaming cld)
        [startBlock cld.length blk, deltaBlock cld.length d] =
      some (.streaming (cld ++ [(kd, true)])) := by
  rw [System.run_cons, acceptor_step_startBlock hbl, Option.bind_some, System.run_cons,
    acceptor_step_deltaBlock hd]
  rfl

theorem follows_relayPiece (hl : last.block? = some kd) (hbl : blk.type.blockType? = some kd)
    (hd : d.type.deltaType? = some kd) : Follows (relayPiece last blk d) endRun := by
  constructor
  · intro info blocks run ltr h hre
    obtain ⟨hco, hlt⟩ := Option.ite_none_right_eq_some.mp hre
    cases hlt
    by_cases hs : info.lastMessagesType = last
    · -- the block of this type is open and gets one more piece
      obtain ⟨pre, rfl, rfl, hi, hcl⟩ := h.exists_piece (hs ▸ hl)
      have hev : relayPiece last blk d info = ([deltaBlock pre.length d],
          { info with lastMessagesType := last }) := by
        simp [relayPiece, hs, hi]
      rw [hev]
      refine ⟨pre ++ [(kd, true)], ?_, .piece hl hi hcl⟩
      rw [System.run_cons, acceptor_step_deltaBlock hd]
      rfl
    · -- what is open is stopped and a block of this type is started
      obtain ⟨closed, hr, hcl, hi, _⟩ := h.advance hco
      rw [relayPiece_of_ne _ _ hs]
      refine ⟨closed ++ [(kd, true)], ?_, .piece hl hi hcl⟩
      rw [System.run_append, hr, hi]
      exact run_openBlock hbl hd
  · intro info blocks run h hre
    -- only a run of tool calls is ever incomplete, so its blocks are what is stopped
    have hco : complete run = false := by simpa [endRun] using hre
    have hne : info.lastMessagesType ≠ last := by
      rintro rfl
      obtain ⟨_, _, rfl, _⟩ := h.exists_piece hl
      cases hco
    rw [relayPiece_of_ne _ _ hne, System.run_append, h.advance_eq_none hco]
    rfl

end

end

section

theorem blockAt_run_iff {pre : Blocks BlockType} (hcl : Closed pre) :
    blockAt (pre ++ replicate n (.toolUse, true)) (pre.length + off) =
      some (.toolUse, true) ↔ 0 ≤ off ∧ off < n := by
  unfold blockAt
  split
  next hne =>
    simp only [reduceCtorEq, false_iff]
    omega
  next hp =>
    rw [getElem?_append]
    split
    next hlt =>
      -- an index before the run is that of a closed block
      constructor
      · intro hbl
        have hfa := hcl _ (mem_of_getElem? hbl)
        cases hfa
      · omega
    next hge =>
      rw [getElem?_replicate]
      split
      next hin =>
        simp only [true_iff]
        omega
      next hou =>
        simp only [reduceCtorEq, false_iff]
        omega

variable {pre : Blocks BlockType}

theorem acceptor_step_toolStart :
    acceptor.step (.streaming (pre ++ replicate n (.toolUse, true)))
        (startBlock (pre.length + off) (toolUseBlock tc)) =
      if off = n then some (.streaming (pre ++ replicate (n + 1) (.toolUse, true)))
      else none := by
  rw [acceptor_step_block (show _ = some (Event.start (pre.length + off) .toolUse) from rfl)]
  simp only [step, length_append, length_replicate, replicate_succ']
  by_cases hof : off = n
  · simp
  · rw [if_neg (by omega), if_neg hof]
    rfl

theorem acceptor_step_toolDelta (hcl : Closed pre) :
    acceptor.step (.streaming (pre ++ replicate n (.toolUse, true)))
        (deltaBlock (pre.length + off) (inputJsonDelta tc)) =
      if 0 ≤ off ∧ off < n then
        some (.streaming (pre ++ replicate n (.toolUse, true)))
      else none := by
  rw [acceptor_step_block (show _ = some (Event.piece (pre.length + off) .toolUse) from rfl)]
  simp only [step, blockAt_run_iff hcl]
  split
  · rfl
  · rfl

theorem run_toolCallEvents (hcl : Closed pre) (run : ToolRun) (off : Int) (tc : ToolCallResponse) :
    acceptor.run (.streaming (pre ++ replicate run.started (.toolUse, true)))
        (toolCallEvents (pre.length + off) tc) =
      (run.read off tc).map fun ltr =>
        .streaming (pre ++ replicate ltr.started (.toolUse, true)) := by
  have hl : tc.function.arguments.length > 0 ↔ tc.function.arguments ≠ "" := by
    simp [Nat.pos_iff_ne_zero]
  unfold toolCallEvents ToolRun.read
  simp only [hl]
  by_cases hna : tc.function.name = ""
  · by_cases har : tc.function.arguments = ""
    · simp [hna, har]
    simp only [hna, har, ne_eq, not_true_eq_false, not_false_eq_true, if_true, if_false, nil_append,
      System.run_cons, acceptor_step_toolDelta hcl]
    split
    · rfl
    · rfl
  simp only [hna, ne_eq, not_false_eq_true, if_true, singleton_append, System.run_cons,
    acceptor_step_toolStart]
  split
  next hof =>
    by_cases har : tc.function.arguments = ""
    · simp [har]
    -- the arguments go to the block that has just been started
    simp only [har, not_false_eq_true, if_true, Option.bind_some, System.run_cons,
      acceptor_step_toolDelta hcl]
    rw [if_pos (by omega)]
    rfl
  next => rfl

theorem ToolRun.read_bounds {run ltr : ToolRun} {off : Int} {tc : ToolCallResponse}
    (h : run.read off tc = some ltr) (hto : 0 ≤ run.top) (hst : run.started ≤ run.top + 1) :
    0 ≤ ltr.top ∧ (ltr.started : Int) ≤ ltr.top + 1 ∧
      ltr.top = if off > run.top then off else run.top := by
  unfold ToolRun.read at h
  dsimp only at h
  split at h
  · obtain ⟨hof, hlt⟩ := Option.ite_none_right_eq_some.mp h
    cases hlt
    dsimp only
    split
    · omega
    · omega
  split at h
  · obtain ⟨hof, hlt⟩ := Option.ite_none_right_eq_some.mp h
    cases hlt
    dsimp only
    split
    · omega
    · omega
  cases h
  dsimp only
  split
  · omega
  · omega

theorem run_toolCallLoop (hcl : Closed pre) {run : ToolRun}
    (hto : 0 ≤ run.top) (hst : run.started ≤ run.top + 1) :
    acceptor.run (.streaming (pre ++ replicate run.started (.toolUse, true)))
        (toolCallLoop pre.length cs run.top).1 =
      ((run.readAll cs).map fun ltr => .streaming (pre ++ replicate ltr.started (.toolUse, true))) ∧
    ∀ ltr, run.readAll cs = some ltr → 0 ≤ ltr.top ∧
      (ltr.started : Int) ≤ ltr.top + 1 ∧
      (toolCallLoop pre.length cs run.top).2 = ltr.top := by
  induction cs generalizing run with
  | nil => exact ⟨rfl, fun ltr hlt => by cases hlt; exact ⟨hto, hst, rfl⟩⟩
  | cons call rs ih =>
    obtain ⟨toolCall, i⟩ := call
    have hfi := run_toolCallEvents hcl run (toolCall.index.getD i) toolCall
    have ha : run.readAll ((toolCall, i) :: rs) =
        (run.read (toolCall.index.getD i) toolCall).bind (·.readAll rs) := rfl
    have hev : (toolCallLoop pre.length ((toolCall, i) :: rs) run.top).1 =
        toolCallEvents (pre.length + toolCall.index.getD i) toolCall ++
          (toolCallLoop pre.length rs
            (if toolCall.index.getD i > run.top then toolCall.index.getD i else run.top)).1 :=
      rfl
    rw [ha, hev, System.run_append, hfi]
    cases hre : run.read (toolCall.index.getD i) toolCall with
    | none => exact ⟨rfl, fun ltr hlt => by cases hlt⟩
    | some mid =>
      -- the largest offset that the loop has seen is the top of the run
      obtain ⟨hmi, hbd, htp⟩ := ToolRun.read_bounds hre hto hst
      obtain ⟨hr, hlt⟩ := ih hmi hbd
      rw [htp] at hr hlt
      exact ⟨hr, hlt⟩

variable {info inf : ClaudeConvertInfo} {blocks bs : Blocks BlockType} {run : Option ToolRun}

theorem Tracks.enterTools (h : Tracks inf bs run) :
    ∃ pre, acceptor.run (.streaming bs) (enterTools inf).1 =
        some (.streaming (pre ++ replicate (run.getD {}).started (.toolUse, true))) ∧
      Closed pre ∧ (enterTools inf).2.toolCallBaseIndex = pre.length ∧
      (enterTools inf).2.toolCallMaxIndexOffset = (run.getD {}).top ∧
      0 ≤ (run.getD {}).top ∧ ((run.getD {}).started : Int) ≤ (run.getD {}).top + 1 := by
  by_cases hl : inf.lastMessagesType = .tools
  · have hs : Streams.enterTools inf = ([], inf) := by simp [Streams.enterTools, hl]
    rw [hs]
    cases h with
    | idle hn => simp [hl] at hn
    | piece hpc => simp [hl, LastMessageType.block?] at hpc
    | @tools pre run _ hb hma hcl hto hst =>
      exact ⟨pre, rfl, hcl, hb, hma, hto, hst⟩
  -- no run is open, so the empty run is entered at the next index
  have hr : run = none := by
    cases h with
    | idle => rfl
    | piece => rfl
    | tools htl => exact absurd htl hl
  subst hr
  obtain ⟨closed, hr, hcl, hi, _⟩ := h.advance rfl
  have hev : Streams.enterTools inf = ((stopOpenBlocksAndAdvance inf).1,
      { (stopOpenBlocksAndAdvance inf).2 with
        toolCallBaseIndex := (stopOpenBlocksAndAdvance inf).2.index
        toolCallMaxIndexOffset := 0 }) := by
    simp [Streams.enterTools, hl]
  rw [hev]
  exact ⟨closed, by simpa using hr, hcl, hi, rfl, by decide, by decide⟩

theorem follows_relayToolCalls :
    Follows (relayToolCalls tcs) (fun run => ((run.getD {}).readAll tcs.zipIdx).map some) := by
  constructor
  · intro info blocks run ltr h hre
    obtain ⟨fin, hfi, rfl⟩ := Option.map_eq_some_iff.mp hre
    obtain ⟨pre, hr, hcl, hb, hma, hto, hst⟩ := h.enterTools
    obtain ⟨hlo, hlt⟩ := run_toolCallLoop hcl hto hst
    obtain ⟨hft, hfs, hof⟩ := hlt fin hfi
    rw [hfi] at hlo
    refine ⟨_, ?_, .tools rfl ?_ ?_ hcl hft hfs⟩
    · simp only [relayToolCalls, Emit.andThen]
      rw [System.run_append, hr, hb, hma]
      exact hlo
    · exact hb
    · simp only [relayToolCalls, Emit.andThen]
      rw [hb, hma, hof]
  · intro info blocks run h hre
    obtain ⟨pre, hr, hcl, hb, hma, hto, hst⟩ := h.enterTools
    obtain ⟨hlo, _⟩ := run_toolCallLoop hcl hto hst
    rw [Option.map_eq_none_iff.mp hre] at hlo
    simp only [relayToolCalls, Emit.andThen]
    rw [System.run_append, hr, hb, hma]
    exact hlo

end

section

theorem follows_relayDelta : Follows (relayDelta delta) (readDelta · delta) := by
  rcases relayDelta_cases delta with ⟨hcs, heq⟩ | ⟨hcs, hre, heq⟩ |
    ⟨hcs, hre, hco, heq⟩ | ⟨hcs, hre, hco, heq⟩
  · rw [heq]
    simp only [readDelta, length_pos_iff.mpr hcs, if_true]
    exact follows_relayToolCalls
  · simp only [heq, readDelta, hcs, hre, length_nil, gt_iff_lt, Nat.lt_irrefl, ne_eq,
      not_false_eq_true, true_or, if_false, if_true]
    exact follows_relayPiece rfl rfl rfl
  · simp only [heq, readDelta, hcs, hre, hco, length_nil, gt_iff_lt, Nat.lt_irrefl, ne_eq,
      not_true_eq_false, not_false_eq_true, or_true, if_false, if_true]
    exact follows_relayPiece rfl rfl rfl
  · simp only [heq, readDelta, hcs, hre, hco, length_nil, gt_iff_lt, Nat.lt_irrefl, ne_eq,
      not_true_eq_false, or_self, if_false]
    exact ⟨fun h hra => by cases hra; exact ⟨_, rfl, h⟩, fun _ hra => by cases hra⟩

variable {inf : ClaudeConvertInfo} {bs : Blocks BlockType} {run : Option ToolRun}

theorem Tracks.congr (h : Tracks inf bs run) (hla : ltr.lastMessagesType = inf.lastMessagesType)
    (hid : ltr.index = inf.index) (hba : ltr.toolCallBaseIndex = inf.toolCallBaseIndex)
    (hma : ltr.toolCallMaxIndexOffset = inf.toolCallMaxIndexOffset) : Tracks ltr bs run := by
  cases h with
  | idle hl hi hc => exact .idle (hla.trans hl) (hid.trans hi) hc
  | piece hl hi hc => exact .piece (by rw [hla, hl]) (hid.trans hi) hc
  | tools hl hb hm hc ht hs =>
    exact .tools (hla.trans hl) (hba.trans hb) (hma.trans hm) hc ht hs

theorem Tracks.end_message (h : Tracks inf bs run) (hrs : sr ≠ "") :
    acceptor.run (.streaming bs)
        (stopOpenBlocks inf ++ [stopReasonDelta u sr, stopMessage]) =
      if complete run then some .ended else none := by
  rw [System.run_append]
  cases hco : complete run with
  | false =>
    rw [h.stop_eq_none hco]
    rfl
  | true =>
    obtain ⟨closed, hr, hcl, _⟩ := h.stop hco
    have hgi : (stopReasonDelta u sr).givesStopReason = true := by
      simp [ClaudeResponse.givesStopReason, stopReasonDelta, hrs]
    have hd : acceptor.step (.streaming closed) (stopReasonDelta u sr) =
        some .ending := by
      exact if_pos ⟨hgi, hcl⟩
    rw [hr, Option.bind_some, System.run_cons, hd]
    rfl

theorem stopReason_ne_empty (h : fr ≠ "") : stopReasonOpenAI2Claude fr ≠ "" := by
  unfold stopReasonOpenAI2Claude
  split
  · decide
  · decide
  · decide
  · decide
  · decide
  · decide
  · exact h

theorem orderlyCalls_append :
    orderlyCalls run (sn ++ ds) =
      match sn.foldlM readDelta run with
      | some ltr => orderlyCalls ltr ds
      | none => false := by
  unfold orderlyCalls
  rw [foldlM_append]
  cases sn.foldlM readDelta run with
  | none => rfl
  | some ltr => rfl

theorem Tracks.end_after_delta (h : Tracks inf bs run) (hu : chunk.usage = some u)
    (hrs : inf.finishReason ≠ "") :
    acceptor.run (.streaming bs) ((relayDelta delta).andThen (endMessage chunk) inf).1 =
      if orderlyCalls run [delta] then some .ended else none := by
  have hs : (relayDelta delta inf).2.finishReason = inf.finishReason :=
    congrArg (fun message => message.2.2) (message_relayDelta delta inf)
  have hev : ((relayDelta delta).andThen (endMessage chunk) inf).1 =
      (relayDelta delta inf).1 ++ (stopOpenBlocks (relayDelta delta inf).2 ++
        [stopReasonDelta u (stopReasonOpenAI2Claude inf.finishReason), stopMessage]) := by
    simp [Emit.andThen, endMessage, hu, hs]
  have hor : orderlyCalls run [delta] =
      match readDelta run delta with
      | some ltr => complete ltr
      | none => false := by
    unfold orderlyCalls
    simp
  rw [hev, System.run_append, hor]
  cases hre : readDelta run delta with
  | none =>
    rw [(follows_relayDelta).fails h hre]
    rfl
  | some ltr =>
    obtain ⟨next, hr, htr⟩ := (follows_relayDelta).reads h hre
    rw [hr]
    exact htr.end_message (stopReason_ne_empty hrs)

theorem Tracks.convertLater (h : Tracks inf bs run) (hd : inf.done = false)
    (rs : List ChatCompletionsStreamResponse)
    (hkn : inf.usage.isSome = (uk || ck.usage.isSome || rs.isEmpty)) :
    (∃ ds, relayedDeltas uk (ck :: rs) = some ds ∧
      (convertLater ck inf).2.done = true ∧
      acceptor.run (.streaming bs) (convertLater ck inf).1 =
        if orderlyCalls run ds then some .ended else none) ∨
    ∃ sn, relayedDeltas uk (ck :: rs) =
        (relayedDeltas (uk || ck.usage.isSome) rs).map (sn ++ ·) ∧
      (convertLater ck inf).2.done = false ∧
      (convertLater ck inf).2.usage = inf.usage ∧
      (∀ ltr, sn.foldlM readDelta run = some ltr → ∃ next,
        acceptor.run (.streaming bs) (convertLater ck inf).1 = some (.streaming next) ∧
        Tracks (convertLater ck inf).2 next ltr) ∧
      (sn.foldlM readDelta run = none →
        acceptor.run (.streaming bs) (convertLater ck inf).1 = none) := by
  rcases convertLater_cases ck inf with ⟨hch, usage, hu, heq⟩ |
    ⟨hch, hck, hn, heq⟩ | ⟨choice, os, hch, ⟨hfi, heq⟩ |
      ⟨finishReason, hfi, ⟨hu, heq⟩ | ⟨usage, hu, heq⟩⟩⟩
  · -- a chunk without choices ends the message
    have hfl := usageKnown_of_orElse hkn hu
    refine Or.inl ⟨[], ?_, ?_, ?_⟩
    · simp only [relayedDeltas, hch, hfl, if_true]
    · rw [heq]
      rfl
    rw [heq]
    refine h.end_message ?_
    split
    · decide
    · assumption
  · -- no usage is known, so the chunk is not the last
    rw [hn, hck] at hkn
    have hfl : uk = false ∧ rs.isEmpty = false := by simpa using hkn
    refine Or.inr ⟨[], ?_, ?_⟩
    · simp [relayedDeltas, hch, hck, hfl.1, hfl.2]
    · rw [heq]
      exact ⟨hd, rfl, fun ltr hlt => by cases hlt; exact ⟨_, rfl, h⟩, fun hlt => by cases hlt⟩
  · -- no finish reason: the delta is relayed
    have hms := message_relayDelta choice.delta inf
    rw [heq]
    refine Or.inr ⟨[choice.delta], ?_, ?_, ?_, ?_, ?_⟩
    · simp [relayedDeltas, hch, hfi]
    · exact (congrArg (fun msg => msg.1) hms).trans hd
    · exact congrArg (fun msg => msg.2.1) hms
    · intro ltr hlt
      exact (follows_relayDelta).reads h (by simpa using hlt)
    · intro hlt
      exact (follows_relayDelta).fails h (by simpa using hlt)
  · -- the finish reason is only remembered
    have htr : Tracks { inf with finishReason } bs run := h.congr rfl rfl rfl rfl
    rw [heq]
    refine Or.inr ⟨[], ?_, hd, rfl, ?_, fun hlt => by cases hlt⟩
    · simp [relayedDeltas, hch, hfi, hu]
    · intro ltr hlt
      cases hlt
      exact ⟨bs, rfl, htr⟩
  · -- a finish reason with a usage: the delta is relayed and the message ended
    have htr : Tracks { inf with finishReason } bs run := h.congr rfl rfl rfl rfl
    have hrs : finishReason ≠ "" := by
      simpa using (Option.filter_eq_some_iff.mp hfi).2
    rw [heq]
    refine Or.inl ⟨[choice.delta], ?_, rfl, htr.end_after_delta hu hrs⟩
    simp [relayedDeltas, hch, hfi, hu]

end

end NewApi.Streams
