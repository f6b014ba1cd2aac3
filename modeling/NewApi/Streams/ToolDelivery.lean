import NewApi.Lib.Matching
import NewApi.Streams.Delivery

/-!
# What is relayed of tool calls

All tool calls are delivered if calls and blocks can be matched one to one so that the pieces of a
block add up to the arguments of its call. `callLayout` says where the pieces go: each belongs to a
run of consecutive tool calls, and the runs have disjoint ranges of blocks (`relays_layout`).
-/

namespace NewApi.Streams

open Lib List

section

def toolStarts (events : List ClaudeResponse) : List Int :=
  events.filterMap fun event =>
    if event.type = .contentBlockStart ∧ event.contentBlock.map (·.type) = some .toolUse then
      event.index
    else none

/-- The arguments in an `input_json_delta`. -/
def ClaudeMediaMessage.jsonPiece (delta : ClaudeMediaMessage) : String :=
  if delta.type = .inputJsonDelta then delta.partialJson.getD "" else ""

def sentArguments (events : List ClaudeResponse) (block : Int) : String :=
  collect ClaudeMediaMessage.jsonPiece (events.filter (·.index = some block))

def callArguments (pieces : List (Int × ToolCallResponse)) (index : Int) : String :=
  String.join ((pieces.filter (·.1 = index)).map (·.2.function.arguments))

/-- The client gets every tool call of the upstream: there is one block for each call, and its
pieces add up to the arguments of the call. -/
def DeliversCalls (pieces : List (Int × ToolCallResponse)) (events : List ClaudeResponse) : Prop :=
  ∃ table, IsTable (pieces.map Prod.fst) (toolStarts events) (callArguments pieces)
    (sentArguments events) table

theorem toolStarts_append : toolStarts (first ++ second) = toolStarts first ++ toolStarts second :=
  filterMap_append

theorem sentArguments_append :
    sentArguments (first ++ second) block = sentArguments first block ++
      sentArguments second block := by
  rw [sentArguments, filter_append, collect_append]
  rfl

end

variable (index : Int) (xs : List (Conversion × ChatCompletionsStreamResponse))

section

/-- A piece of a tool call that is relayed, with the run it belongs to and its index there. -/
structure Placement where
  run : Nat
  offset : Int
  starts : Bool
  arguments : String
  deriving DecidableEq

/-- Where the pieces so far have gone, the number of the last run and whether it goes on. -/
structure CallLayout where
  run : Nat := 0
  running : Bool := false
  placed : List Placement := []
  deriving DecidableEq

namespace CallLayout

def content (layout : CallLayout) (delta : ChatCompletionsStreamResponseChoiceDelta) :
    CallLayout :=
  if delta.getReasoningContent ≠ "" ∨ delta.getContentString ≠ "" then
    { layout with running := false }
  else layout

/-- A delta that is converted as the first: only its first tool call is relayed. It has the index
0 of the run 0, and a block is started even if it has no name. -/
def first (layout : CallLayout) (delta : ChatCompletionsStreamResponseChoiceDelta) : CallLayout :=
  match delta.toolCalls with
  | [] => layout.content delta
  | toolCall :: _ =>
    content
      { run := 0
        running := true
        placed := layout.placed ++ [⟨0, 0, true, toolCall.function.arguments⟩] } delta

def place (run : Nat) (piece : Int × ToolCallResponse) : Placement where
  run := run
  offset := piece.1
  starts := piece.2.function.name ≠ ""
  arguments := piece.2.function.arguments

def nextRun (layout : CallLayout) : Nat :=
  if layout.running then layout.run else layout.run + 1

def later (layout : CallLayout) (delta : ChatCompletionsStreamResponseChoiceDelta) : CallLayout :=
  if delta.toolCalls = [] then layout.content delta
  else
    { run := layout.nextRun
      running := true
      placed := layout.placed ++ delta.toolPieces.map (place layout.nextRun) }

def read (layout : CallLayout) (item : Conversion × ChatCompletionsStreamResponse) : CallLayout :=
  match item.1 with
  | .skipped => layout
  | .first => layout.first item.2.firstDelta
  | .later => layout.later item.2.firstDelta

def named (layout : CallLayout) : List (Nat × Int) :=
  (layout.placed.filter (·.starts)).map fun placement => (placement.run, placement.offset)

def argumentsAt (layout : CallLayout) (place : Nat × Int) : String :=
  String.join ((layout.placed.filter fun placement =>
    (placement.run, placement.offset) = place).map (·.arguments))

end CallLayout

def callLayout (items : List (Conversion × ChatCompletionsStreamResponse)) : CallLayout :=
  items.foldl CallLayout.read {}

/-- No index of a run is named twice, and the arguments for the named indices of all runs are those
of the calls, in some order. -/
def callsRelayed (chunks : List ChatCompletionsStreamResponse) : Prop :=
  let layout := callLayout (conversions chunks)
  let pieces := chunks.flatMap (·.toolPieces)
  layout.named.Nodup ∧ (layout.named.map layout.argumentsAt).Perm
    ((pieces.map Prod.fst).dedup.map (callArguments pieces))

instance (chunks : List ChatCompletionsStreamResponse) : Decidable (callsRelayed chunks) :=
  inferInstanceAs (Decidable (_ ∧ _))

theorem callLayout_concat : callLayout (xs ++ [item]) = (callLayout xs).read item := foldl_append

theorem CallLayout.content_run (lay : CallLayout) :
    (lay.content d).run = lay.run ∧ (lay.content d).placed = lay.placed := by
  unfold CallLayout.content
  split
  · exact ⟨rfl, rfl⟩
  · exact ⟨rfl, rfl⟩

end

section

def Placement.block (base : Nat → Int) (placement : Placement) : Int :=
  base placement.run + placement.offset

structure Shows (base : Nat → Int) (placed : List Placement) (events : List ClaudeResponse) :
    Prop where
  starts : toolStarts events = (placed.filter (·.starts)).map (·.block base)
  arguments : ∀ block, sentArguments events block =
    String.join ((placed.filter (·.block base = block)).map (·.arguments))

variable {bas : Nat → Int}

theorem Shows.append {first second : List Placement} {evs more : List ClaudeResponse}
    (hfi : Shows bas first evs) (hsc : Shows bas second more) :
    Shows bas (first ++ second) (evs ++ more) where
  starts := by
    rw [toolStarts_append, hfi.starts, hsc.starts, filter_append, map_append]
  arguments := by
    intro block
    rw [sentArguments_append, hfi.arguments, hsc.arguments, filter_append, map_append,
      String.join_append]

theorem Shows.quiet (h : Shows bas pld evs) (hmo : Shows bas [] more) :
    Shows bas pld (evs ++ more) := by
  have hap := h.append hmo
  rwa [append_nil] at hap

theorem Silent.shows {evs : List ClaudeResponse} (h : Silent evs) : Shows bas [] evs where
  starts := by
    refine filterMap_eq_nil_iff.mpr fun ev hev => if_neg ?_
    exact fun hs0 => (h ev hev).1 hs0.1
  arguments := by
    intro block
    exact Silent.collect fun ev hev => h ev (mem_filter.mp hev).1

theorem sentArguments_startBlock (other : Int) :
    sentArguments [startBlock index block] other = "" := by
  by_cases hi : index = other
  · simp [sentArguments, collect, startBlock, hi]
  · simp [sentArguments, collect, startBlock, hi]

theorem sentArguments_deltaBlock :
    sentArguments [deltaBlock index d] other =
      if index = other then d.jsonPiece else "" := by
  by_cases hi : index = other
  · simp [sentArguments, collect, deltaBlock, hi]
  · simp [sentArguments, collect, deltaBlock, hi]

theorem shows_startBlock (hbl : block.type ≠ .toolUse) : Shows bas [] [startBlock index block] where
  starts := by simp [toolStarts, startBlock, hbl]
  arguments := sentArguments_startBlock index

theorem shows_deltaBlock (hd : d.type ≠ .inputJsonDelta) : Shows bas [] [deltaBlock index d] where
  starts := by simp [toolStarts, deltaBlock]
  arguments := by
    intro other
    rw [sentArguments_deltaBlock, ClaudeMediaMessage.jsonPiece, if_neg hd, ite_self]
    rfl

theorem shows_piece (pl : Placement) {tc : ToolCallResponse}
    (har : pl.arguments = tc.function.arguments) :
    Shows bas [pl]
      ((if pl.starts then [startBlock (pl.block bas) (toolUseBlock tc)]
        else []) ++
        (if tc.function.arguments ≠ "" then
          [deltaBlock (pl.block bas) (inputJsonDelta tc)]
        else [])) where
  starts := by
    have hd : toolStarts (if tc.function.arguments ≠ "" then
        [deltaBlock (pl.block bas) (inputJsonDelta tc)] else []) = [] := by
      split
      · rfl
      · rfl
    rw [toolStarts_append, hd, append_nil]
    cases hst : pl.starts with
    | true =>
      rw [if_pos rfl, filter_singleton, hst]
      rfl
    | false =>
      rw [if_neg Bool.false_ne_true, filter_singleton, hst]
      rfl
  arguments := by
    intro other
    have hs0 : sentArguments (if pl.starts then
        [startBlock (pl.block bas) (toolUseBlock tc)] else []) other = "" := by
      split
      · exact sentArguments_startBlock ..
      · rfl
    have hjs : (inputJsonDelta tc).jsonPiece = pl.arguments := har.symm
    rw [sentArguments_append, hs0, String.empty_append]
    by_cases hem : tc.function.arguments = ""
    · by_cases hbl : pl.block bas = other
      · simp [hem, hbl, har, sentArguments, collect]
      · simp [hem, hbl, sentArguments, collect]
    rw [if_pos hem, sentArguments_deltaBlock, hjs]
    by_cases hbl : pl.block bas = other
    · simp [hbl]
    · simp [hbl]

theorem shows_toolCallLoop (mo : Int) :
    Shows bas ((tcs.map fun (tc, i) => (tc.index.getD i, tc)).map
      (CallLayout.place run)) (toolCallLoop (bas run) tcs mo).1 := by
  induction tcs generalizing mo with
  | nil => exact Silent.shows (by simp [Silent, toolCallLoop])
  | cons head rs ih =>
    obtain ⟨tc, i⟩ := head
    have hpc : Shows bas [CallLayout.place run (tc.index.getD i, tc)]
        (toolCallEvents (bas run + tc.index.getD i) tc) := by
      have hsh := @shows_piece bas (CallLayout.place run (tc.index.getD i, tc)) tc rfl
      simpa [toolCallEvents, CallLayout.place, Placement.block, Nat.pos_iff_ne_zero] using hsh
    exact hpc.append (ih _)

theorem le_toolCallLoop (mo : Int) :
    mo ≤ (toolCallLoop run tcs mo).2 ∧
      ∀ call ∈ tcs, (call.1.index.getD call.2 : Int) ≤ (toolCallLoop run tcs mo).2 := by
  induction tcs generalizing mo with
  | nil => exact ⟨Int.le_refl _, by simp⟩
  | cons head rs ih =>
    obtain ⟨hma, hr⟩ := ih (if (head.1.index.getD head.2 : Int) > mo then
      head.1.index.getD head.2 else mo)
    rw [forall_mem_cons]
    refine ⟨?_, ?_, hr⟩
    · refine Int.le_trans ?_ hma
      split <;> omega
    · refine Int.le_trans ?_ hma
      split <;> omega

end

open ClaudeConvertInfo

section

def ClaudeConvertInfo.nextIndex (info : ClaudeConvertInfo) : Int :=
  if info.lastMessagesType = .none then info.index else info.index + 1

structure Separated (base : Nat → Int) (layout : CallLayout) : Prop where
  start : base 0 = 0
  runs : ∀ placement ∈ layout.placed, placement.run ≤ layout.run
  before : ∀ placement ∈ layout.placed, ∀ other ∈ layout.placed, placement.run < other.run →
    placement.block base < base other.run

/-- The info of the converter fits a layout: the blocks of a run that goes on start at its base,
other blocks are before the next index. -/
inductive Fits (base : Nat → Int) (info : ClaudeConvertInfo) : CallLayout → Prop
  | idle {run : Nat} {placed : List Placement} (hlast : info.lastMessagesType ≠ .tools)
      (hblocks : ∀ placement ∈ placed, placement.block base < info.nextIndex) :
      Fits base info ⟨run, false, placed⟩
  | tools {run : Nat} {placed : List Placement} (hlast : info.lastMessagesType = .tools)
      (hbase : info.toolCallBaseIndex = base run) (hmax : 0 ≤ info.toolCallMaxIndexOffset)
      (hoffsets : ∀ placement ∈ placed, placement.run = run →
        placement.offset ≤ info.toolCallMaxIndexOffset)
      (hearlier : ∀ placement ∈ placed, placement.run < run → placement.block base < base run) :
      Fits base info ⟨run, true, placed⟩

def Laid (layout : CallLayout) (events : List ClaudeResponse) (info : ClaudeConvertInfo) : Prop :=
  ∃ base, Separated base layout ∧ Shows base layout.placed events ∧ Fits base info layout

variable {bs bas : Nat → Int} {lay : CallLayout} {evs : List ClaudeResponse}
variable {info inf : ClaudeConvertInfo}

theorem Fits.congr (h : Fits bas inf lay)
    (hop : ltr.openBlocks = inf.openBlocks) : Fits bas ltr lay := by
  simp only [openBlocks, Prod.mk.injEq] at hop
  obtain ⟨hla, hi, hba, hma⟩ := hop
  cases h with
  | idle hl hb =>
    refine .idle (by rwa [hla]) ?_
    rwa [nextIndex, hla, hi]
  | tools hl hb hm ho he =>
    exact .tools (by rwa [hla]) (by rwa [hba]) (by rwa [hma]) (by rwa [hma]) he

theorem Fits.advance (h : Fits bas inf lay) (hse : Separated bas lay) :
    (stopOpenBlocksAndAdvance inf).2.lastMessagesType = .none ∧
      ∀ pl ∈ lay.placed, pl.block bas < (stopOpenBlocksAndAdvance inf).2.index := by
  unfold stopOpenBlocksAndAdvance
  cases h with
  | idle hl hbs =>
    unfold nextIndex at hbs
    cases hki : inf.lastMessagesType with
    | none => exact ⟨hki, by simpa [hki] using hbs⟩
    | tools => exact absurd hki hl
    | text | thinking => exact ⟨rfl, by simpa [hki] using hbs⟩
  | tools hl hb hma hof her =>
    rw [hl]
    refine ⟨rfl, fun pl hpl => ?_⟩
    show pl.block bas < inf.toolCallBaseIndex + inf.toolCallMaxIndexOffset + 1
    -- a call of an earlier run is before this one, a call of this run is up to its maximum
    rcases Nat.lt_or_eq_of_le (hse.runs pl hpl) with hlt | heq
    · have := her pl hpl hlt
      omega
    have hos := hof pl hpl heq
    rw [Placement.block, heq]
    dsimp only
    omega

theorem Fits.piece (h : Fits bas inf lay) (hse : Separated bas lay)
    (hn : kd ≠ .none) (htl : kd ≠ .tools) :
    Fits bas { (advanceUnless kd inf).2 with lastMessagesType := kd }
      { lay with running := false } := by
  refine .idle htl ?_
  simp only [nextIndex, hn, if_false]
  unfold advanceUnless
  by_cases hl : inf.lastMessagesType = kd
  · -- the block stays open, and with it the index
    cases h with
    | idle _ hbs => simpa [nextIndex, hl, hn] using hbs
    | tools hto => exact absurd (hl.symm.trans hto) htl
  simp only [ne_eq, hl, not_false_eq_true, if_true]
  intro pl hpl
  have := (h.advance hse).2 pl hpl
  omega

section

variable {kd : LastMessageType} {blk d : ClaudeMediaMessage}

theorem Laid.openBlock (h : Laid lay evs inf) (hn : kd ≠ .none) (htl : kd ≠ .tools)
    (hbl : blk.type ≠ .toolUse) (hd : d.type ≠ .inputJsonDelta) :
    Laid { lay with running := false }
      (evs ++ ((advanceUnless kd).andThen (openBlock kd blk d) inf).1)
      ((advanceUnless kd).andThen (openBlock kd blk d) inf).2 := by
  obtain ⟨bs, hse, hsh, hfi⟩ := h
  refine ⟨bs, ⟨hse.start, hse.runs, hse.before⟩, ?_, hfi.piece hse hn htl⟩
  have hsi : Shows bs [] (advanceUnless kd inf).1 := (silent_advanceUnless inf).shows
  exact hsh.quiet (hsi.append ((shows_startBlock _ hbl).quiet (shows_deltaBlock _ hd)))

theorem Laid.relayPiece (h : Laid lay evs inf) (hn : kd ≠ .none) (htl : kd ≠ .tools)
    (hbl : blk.type ≠ .toolUse) (hd : d.type ≠ .inputJsonDelta) :
    Laid { lay with running := false } (evs ++ (relayPiece kd blk d inf).1)
      (relayPiece kd blk d inf).2 := by
  by_cases hl : inf.lastMessagesType = kd
  · obtain ⟨bs, hse, hsh, hfi⟩ := h
    have hpc := hfi.piece hse hn htl
    simp only [advanceUnless, hl, ne_eq, not_true_eq_false, if_false] at hpc
    simp only [Streams.relayPiece, hl, ne_eq, not_true_eq_false, if_false, nil_append]
    exact ⟨bs, ⟨hse.start, hse.runs, hse.before⟩, hsh.quiet (shows_deltaBlock _ hd), hpc⟩
  · have hop := h.openBlock hn htl hbl hd
    rw [relayPiece_of_ne blk d hl]
    simpa [Emit.andThen, Streams.openBlock, advanceUnless, hl] using hop

end

section

theorem Shows.congr (h : Shows bas pld evs) (hs : ∀ pl ∈ pld, pl.block other = pl.block bas) :
    Shows other pld evs where
  starts := by
    rw [h.starts]
    refine map_congr_left fun pl hpl => ?_
    exact (hs pl (mem_filter.mp hpl).1).symm
  arguments := by
    intro block
    have hfi : pld.filter (·.block other = block) = pld.filter (·.block bas = block) :=
      filter_congr fun pl hpl => by rw [hs pl hpl]
    rw [h.arguments, hfi]

theorem Laid.enterTools (h : Laid lay evs inf) :
    Laid { lay with run := lay.nextRun, running := true } (evs ++ (enterTools inf).1)
      { (enterTools inf).2 with lastMessagesType := .tools } := by
  obtain ⟨bs, hse, hsh, hfi⟩ := h
  have had := (hfi.advance hse).2
  unfold Streams.enterTools
  cases hfi with
  | @idle run pld hl hbs =>
    simp only [ne_eq, hl, not_false_eq_true, if_true]
    -- the next run starts at the next index
    have hsl : Function.update bs (run + 1) (stopOpenBlocksAndAdvance inf).2.index
        (run + 1) = (stopOpenBlocksAndAdvance inf).2.index := Function.update_self _ _ _
    have hot : ∀ run' ≤ run, Function.update bs (run + 1)
        (stopOpenBlocksAndAdvance inf).2.index run' = bs run' :=
      fun run' hle => Function.update_of_ne (by omega) _ _
    have hs : ∀ pl ∈ pld, pl.block (Function.update bs (run + 1)
        (stopOpenBlocksAndAdvance inf).2.index) = pl.block bs := by
      intro pl hpl
      rw [Placement.block, hot _ (hse.runs pl hpl)]
      rfl
    refine ⟨Function.update bs (run + 1) (stopOpenBlocksAndAdvance inf).2.index,
      ⟨?_, ?_, ?_⟩, (hsh.congr hs).quiet (silent_stopOpenBlocksAndAdvance).shows,
      .tools rfl ?_ (Int.le_refl 0) ?_ ?_⟩
    · rw [hot 0 (Nat.zero_le _)]
      exact hse.start
    · exact fun pl hpl => Nat.le_succ_of_le (hse.runs pl hpl)
    · intro pl hpl other hm hlt
      rw [hs pl hpl, hot _ (hse.runs other hm)]
      exact hse.before pl hpl other hm hlt
    · exact hsl.symm
    · -- no call has been placed in the next run yet
      intro pl hpl hr
      have hle : pl.run ≤ run := hse.runs pl hpl
      have hx : pl.run = run + 1 := hr
      omega
    · intro pl hpl _
      rw [hs pl hpl]
      exact (had pl hpl).trans_eq hsl.symm
  | tools hl hb hma hof her =>
    simp only [hl, ne_eq, not_true_eq_false, if_false, append_nil]
    exact ⟨bs, hse, hsh, .tools rfl hb hma hof her⟩

theorem Laid.toolCallLoop {run : Nat} {placed : List Placement}
    (h : Laid ⟨run, true, placed⟩ evs inf) (tcs : List (ToolCallResponse × Nat))
    {later : ClaudeConvertInfo} (hlater : later.lastMessagesType = .tools)
    (hbase : later.toolCallBaseIndex = inf.toolCallBaseIndex) (hmax : later.toolCallMaxIndexOffset =
      (toolCallLoop inf.toolCallBaseIndex tcs inf.toolCallMaxIndexOffset).2) :
    Laid ⟨run, true, placed ++
        (tcs.map fun (tc, i) => (tc.index.getD i, tc)).map (CallLayout.place run)⟩
      (evs ++ (toolCallLoop inf.toolCallBaseIndex tcs inf.toolCallMaxIndexOffset).1)
      later := by
  obtain ⟨bs, hseparated, hshows, hfits⟩ := h
  obtain ⟨hle, hoffset⟩ := le_toolCallLoop inf.toolCallMaxIndexOffset
  -- a new placement is in this run, with an index up to the new maximum
  have hnew : ∀ pl ∈ (tcs.map fun (tc, i) =>
      (tc.index.getD i, tc)).map (CallLayout.place run),
      pl.run = run ∧ pl.offset ≤ later.toolCallMaxIndexOffset := by
    intro pl hplacement
    obtain ⟨piece, hpiece, rfl⟩ := mem_map.mp hplacement
    obtain ⟨call, hcall, rfl⟩ := mem_map.mp hpiece
    rw [hmax]
    exact ⟨rfl, hoffset call hcall⟩
  cases hfits with
  | tools hlast hrun hnonneg hoffsets hearlier =>
    refine ⟨bs, ⟨hseparated.start, ?_, ?_⟩, ?_, .tools hlater (hbase.trans hrun) ?_ ?_ ?_⟩
    · refine forall_mem_append.mpr ⟨hseparated.runs, fun pl hplacement => ?_⟩
      exact (hnew pl hplacement).1.le
    · -- the new calls are in the last run, so none of them is before another run
      intro pl hplacement other hother hlt
      rcases mem_append.mp hother with hold | hadded
      · rcases mem_append.mp hplacement with hfirst | hsecond
        · exact hseparated.before pl hfirst other hold hlt
        · have hself := (hnew pl hsecond).1
          have hlast : other.run ≤ run := hseparated.runs other hold
          omega
      have hself := (hnew other hadded).1
      rw [hself] at hlt ⊢
      rcases mem_append.mp hplacement with hfirst | hsecond
      · exact hearlier pl hfirst hlt
      · exact absurd (hnew pl hsecond).1 hlt.ne
    · rw [hrun]
      exact hshows.append (shows_toolCallLoop _)
    · rw [hmax]
      exact hnonneg.trans hle
    · refine forall_mem_append.mpr ⟨fun pl hplacement hself => ?_,
        fun pl hplacement _ => (hnew pl hplacement).2⟩
      rw [hmax]
      exact (hoffsets pl hplacement hself).trans hle
    · refine forall_mem_append.mpr ⟨hearlier, fun pl hplacement hlt => ?_⟩
      exact absurd (hnew pl hplacement).1 hlt.ne

theorem Laid.relayToolCalls (h : Laid lay evs inf) (tcs : List ToolCallResponse) :
    Laid
      { run := lay.nextRun
        running := true
        placed := lay.placed ++
          (tcs.zipIdx.map fun (tc, i) => (tc.index.getD i, tc)).map (CallLayout.place lay.nextRun) }
      (evs ++ (relayToolCalls tcs inf).1) (relayToolCalls tcs inf).2 := by
  have hloop := h.enterTools.toolCallLoop tcs.zipIdx
    (show (Streams.relayToolCalls tcs inf).2.lastMessagesType = .tools from rfl) rfl rfl
  rwa [append_assoc] at hloop

theorem Laid.firstCall (h : Laid lay evs inf) (hpd : ∀ pl ∈ lay.placed, pl.run = 0 ∧ pl.offset = 0)
    (tc : ToolCallResponse) :
    Laid
      { run := 0
        running := true
        placed := lay.placed ++ [⟨0, 0, true, tc.function.arguments⟩] }
      (evs ++ ([startBlock 0 (toolUseBlock tc)] ++
        (if tc.function.arguments ≠ "" then [deltaBlock 0 (inputJsonDelta tc)]
          else [])))
      { inf with
        lastMessagesType := .tools
        toolCallBaseIndex := 0
        toolCallMaxIndexOffset := 0 } := by
  obtain ⟨bs, hse, hsh, _⟩ := h
  have ha : ∀ pl ∈ lay.placed ++ [⟨0, 0, true, tc.function.arguments⟩],
      pl.run = 0 ∧ pl.offset = 0 :=
    forall_mem_append.mpr ⟨hpd, by simp⟩
  have hpc := @shows_piece bs ⟨0, 0, true, tc.function.arguments⟩ tc rfl
  have hbl : Placement.block bs ⟨0, 0, true, tc.function.arguments⟩ = 0 := by
    rw [Placement.block, hse.start]
    rfl
  rw [hbl, if_pos rfl] at hpc
  refine ⟨bs, ⟨hse.start, ?_, ?_⟩, hsh.append hpc, .tools rfl hse.start.symm (Int.le_refl 0) ?_ ?_⟩
  · exact fun pl hpl => (ha pl hpl).1.le
  · intro pl _ other hot hlt
    have hz := (ha other hot).1
    omega
  · exact fun pl hpl _ => (ha pl hpl).2.le
  · intro pl _ hlt
    exact absurd hlt (Nat.not_lt_zero _)

end

theorem Laid.firstContent (h : Laid lay evs inf) (chunk : ChatCompletionsStreamResponse) :
    Laid (lay.content chunk.firstDelta) (evs ++
      (firstContent chunk inf).1) (firstContent chunk inf).2 := by
  unfold CallLayout.content
  rcases firstContent_cases chunk inf with ⟨hre, heq⟩ | ⟨hre, hco, heq⟩ | ⟨hre, hco, heq⟩
  · rw [heq, if_pos (.inl hre)]
    exact h.openBlock (by decide) (by decide) (by decide) (by simp [thinkingDelta])
  · rw [heq, if_pos (.inr hco)]
    exact h.openBlock (by decide) (by decide) (by decide) (by simp [textDelta])
  · simpa [heq, hre, hco] using h

theorem Laid.first (h : Laid lay evs inf) (hpl : ∀ pl ∈ lay.placed, pl.run = 0 ∧ pl.offset = 0) :
    Laid (lay.first chunk.firstDelta)
      (evs ++ ((Streams.firstToolCall chunk).andThen (Streams.firstContent chunk) inf).1)
      ((Streams.firstToolCall chunk).andThen (Streams.firstContent chunk) inf).2 := by
  rw [Emit.andThen_events, Emit.andThen_info, ← append_assoc, CallLayout.first]
  rcases firstToolCall_cases chunk inf with ⟨hcs, heq⟩ | ⟨toolCall, tcs, hcs, heq⟩
  · rw [heq, hcs, append_nil]
    exact h.firstContent chunk
  · rw [heq, hcs]
    exact (h.firstCall hpl toolCall).firstContent chunk

theorem Laid.relayDelta (h : Laid lay evs inf) (d : ChatCompletionsStreamResponseChoiceDelta) :
    Laid (lay.later d) (evs ++ (relayDelta d inf).1) (relayDelta d inf).2 := by
  unfold CallLayout.later
  rcases relayDelta_cases d with ⟨hcs, heq⟩ | ⟨hcs, hre, heq⟩ |
    ⟨hcs, hre, hco, heq⟩ | ⟨hcs, hre, hco, heq⟩
  · rw [heq, if_neg hcs]
    exact h.relayToolCalls d.toolCalls
  · rw [heq, if_pos hcs, CallLayout.content, if_pos (.inl hre)]
    exact h.relayPiece (by decide) (by decide) (by decide) (by simp [thinkingDelta])
  · rw [heq, if_pos hcs, CallLayout.content, if_pos (.inr hco)]
    exact h.relayPiece (by decide) (by decide) (by decide) (by simp [textDelta])
  · simpa [heq, hcs, CallLayout.content, hre, hco] using h

theorem callLayout_of_firsts (h : ∀ item ∈ xs, item.1 = .first) :
    ∀ pl ∈ (callLayout xs).placed, pl.run = 0 ∧ pl.offset = 0 := by
  induction xs using reverseRecOn with
  | nil => simp [callLayout]
  | append_singleton xs item ih =>
    obtain ⟨hxs, hit⟩ := forall_mem_append.mp h
    have hfi : item.1 = .first := hit item (mem_singleton_self item)
    have hpr := ih hxs
    rw [callLayout_concat, CallLayout.read, hfi, CallLayout.first]
    cases item.2.firstDelta.toolCalls with
    | nil =>
      rwa [(CallLayout.content_run ..).2]
    | cons tc tcs =>
      rw [(CallLayout.content_run ..).2]
      exact forall_mem_append.mpr ⟨hpr, by simp⟩

theorem relays_layout : Relays fun sn evs info => Laid (callLayout sn) evs info where
  silent := by
    intro sn evs info ltr more hi hsi ho
    obtain ⟨bs, hsp, hsh, hfi⟩ := hi
    exact ⟨bs, hsp, hsh.quiet hsi.shows, hfi.congr ho⟩
  skipped := by
    intro sn evs info chunk hi
    rwa [callLayout_concat]
  first := by
    intro sn evs info chunk hse hi
    rw [callLayout_concat]
    exact hi.first (callLayout_of_firsts sn hse)
  later := by
    intro sn evs info chunk hi
    rw [callLayout_concat]
    exact hi.relayDelta chunk.firstDelta

end

section

theorem firstDelta_toolPieces_subset (chunk : ChatCompletionsStreamResponse) :
    ∀ pc ∈ chunk.firstDelta.toolPieces, pc ∈ chunk.toolPieces := by
  intro pc hpc
  cases hch : chunk.choices with
  | nil =>
    have hd : chunk.firstDelta = {} := by
      simp [ChatCompletionsStreamResponse.firstDelta, hch]
    simp [hd, ChatCompletionsStreamResponseChoiceDelta.toolPieces] at hpc
  | cons cho os =>
    rw [firstDelta_of_cons hch] at hpc
    rw [ChatCompletionsStreamResponse.toolPieces, hch, flatMap_cons]
    exact mem_append_left _ hpc

theorem offset_nonneg (h : ∀ item ∈ xs, ∀ pc ∈ item.2.toolPieces, 0 ≤ pc.1) :
    ∀ pl ∈ (callLayout xs).placed, 0 ≤ pl.offset := by
  induction xs using reverseRecOn with
  | nil => simp [callLayout]
  | append_singleton xs item ih =>
    obtain ⟨hxs, hit⟩ := forall_mem_append.mp h
    have hps : ∀ pc ∈ item.2.firstDelta.toolPieces, 0 ≤ pc.1 := fun pc hpc =>
      hit item (mem_singleton_self item) pc (firstDelta_toolPieces_subset item.2 pc hpc)
    have hpr := ih hxs
    rw [callLayout_concat, CallLayout.read]
    cases item.1 with
    | skipped => exact hpr
    | first =>
      rw [CallLayout.first]
      cases item.2.firstDelta.toolCalls with
      | nil =>
        rwa [(CallLayout.content_run ..).2]
      | cons tc tcs =>
        rw [(CallLayout.content_run ..).2]
        exact forall_mem_append.mpr ⟨hpr, by simp⟩
    | later =>
      dsimp only
      rw [CallLayout.later]
      split
      · rwa [(CallLayout.content_run ..).2]
      · refine forall_mem_append.mpr ⟨hpr, fun pl hpl => ?_⟩
        obtain ⟨pc, hpc, rfl⟩ := mem_map.mp hpl
        exact hps pc hpc

variable {bs bas : Nat → Int} {lay : CallLayout}

theorem Separated.place_eq (h : Separated bas lay) (hno : ∀ pl ∈ lay.placed, 0 ≤ pl.offset)
    (hpl : pl ∈ lay.placed) (hot : other ∈ lay.placed) (heq : pl.block bas = other.block bas) :
    (pl.run, pl.offset) = (other.run, other.offset) := by
  have hfi := hno pl hpl
  have hsc := hno other hot
  -- two runs share no block, since the offsets in the later one are not negative
  rcases Nat.lt_trichotomy pl.run other.run with hlt | hs | hgt
  · have hpr := h.before pl hpl other hot hlt
    rw [heq, Placement.block] at hpr
    omega
  · rw [Placement.block, Placement.block, hs] at heq
    rw [hs, Int.add_left_cancel heq]
  · have hpr := h.before other hot pl hpl hgt
    rw [← heq, Placement.block] at hpr
    omega

theorem Shows.deliversCalls_iff (h : Shows bas lay.placed evs) (hse : Separated bas lay)
    (hnn : ∀ pl ∈ lay.placed, 0 ≤ pl.offset) :
    DeliversCalls pcs evs ↔ lay.named.Nodup ∧
      (lay.named.map lay.argumentsAt).Perm ((pcs.map Prod.fst).dedup.map (callArguments pcs)) := by
  have hna : ∀ pla ∈ lay.named, ∃ pl ∈ lay.placed,
      (pl.run, pl.offset) = pla := by
    intro pla hpa
    obtain ⟨pl, hm, heq⟩ := mem_map.mp hpa
    exact ⟨pl, (mem_filter.mp hm).1, heq⟩
  have hst : toolStarts evs = lay.named.map fun pla => bas pla.1 + pla.2 := by
    rw [h.starts, CallLayout.named, map_map]
    rfl
  have hno : (toolStarts evs).Nodup ↔ lay.named.Nodup := by
    rw [hst]
    refine ⟨List.Nodup.of_map _, fun hno => List.Nodup.map_on ?_ hno⟩
    intro first hfi second hsc heq
    obtain ⟨pl, hpl, rfl⟩ := hna first hfi
    obtain ⟨other, hot, rfl⟩ := hna second hsc
    exact hse.place_eq hnn hpl hot heq
  have har : (toolStarts evs).map (sentArguments evs) =
      lay.named.map lay.argumentsAt := by
    rw [hst, map_map]
    refine map_congr_left fun pla hpa => ?_
    obtain ⟨pl, hpl, rfl⟩ := hna pla hpa
    rw [Function.comp_apply, h.arguments, CallLayout.argumentsAt]
    congr 2
    refine filter_congr fun other hot => decide_eq_decide.mpr ⟨fun heq => ?_, fun heq => ?_⟩
    · exact hse.place_eq hnn hot hpl heq
    · rw [Placement.block, (Prod.mk.inj heq).1, (Prod.mk.inj heq).2]
  rw [DeliversCalls, exists_table_iff, hno, har]

variable (ctx : StreamContext) (chunks : List ChatCompletionsStreamResponse)

theorem deliversCalls_iff (hno : ∀ pc ∈ chunks.flatMap (·.toolPieces), 0 ≤ pc.1) :
    DeliversCalls (chunks.flatMap (·.toolPieces)) (oaiStreamHandler ctx chunks) ↔
      callsRelayed chunks := by
  have hs0 : Laid (callLayout []) [] {} :=
    ⟨fun _ => 0, ⟨rfl, by simp [callLayout], by simp [callLayout]⟩, Silent.shows (by simp [Silent]),
      .idle (by decide) (by simp)⟩
  obtain ⟨_, bs, hse, hsh, _⟩ := relays_layout.handler ctx hs0 chunks
  refine hsh.deliversCalls_iff hse (offset_nonneg _ ?_)
  intro item hit pc hpc
  have hck : item.2 ∈ chunks := by
    rw [← map_snd_conversions chunks]
    exact mem_map_of_mem hit
  exact hno pc (mem_flatMap.mpr ⟨item.2, hck, hpc⟩)

/-- For every list of chunks of an upstream that ends normally: the client gets all the text, and
all the reasoning, exactly if each chunk is converted with all of it; and it gets all tool calls
exactly if they are relayed one by one. -/
theorem claude_stream_delivers_iff :
    (sentText (oaiStreamHandler ctx chunks) = String.join (chunks.map (·.contentText)) ↔
      ∀ item ∈ conversions chunks, item.1.sentText item.2 = item.2.contentText) ∧
    (sentReasoning (oaiStreamHandler ctx chunks) = String.join (chunks.map (·.reasoningText)) ↔
      ∀ item ∈ conversions chunks, item.1.sentReasoning item.2 = item.2.reasoningText) ∧
    ((∀ piece ∈ chunks.flatMap (·.toolPieces), 0 ≤ piece.1) →
      (DeliversCalls (chunks.flatMap (·.toolPieces)) (oaiStreamHandler ctx chunks) ↔
        callsRelayed chunks)) :=
  ⟨sentText_eq_iff ctx chunks, sentReasoning_eq_iff ctx chunks, deliversCalls_iff ctx chunks⟩

theorem plainChunks_delivered :
    sentText (oaiStreamHandler plainContext plainChunks) =
        String.join (plainChunks.map (·.contentText)) ∧
      sentReasoning (oaiStreamHandler plainContext plainChunks) =
        String.join (plainChunks.map (·.reasoningText)) ∧
      DeliversCalls (plainChunks.flatMap (·.toolPieces))
        (oaiStreamHandler plainContext plainChunks) := by
  obtain ⟨ht, hre, hca⟩ := claude_stream_delivers_iff plainContext plainChunks
  exact ⟨ht.mpr (by decide +kernel), hre.mpr (by decide +kernel),
    (hca (by decide +kernel)).mpr (by decide +kernel)⟩

def mixedChunks : List ChatCompletionsStreamResponse :=
  [chunkOf { toolCalls := [addCall "add" "[1,2]", { addCall "mul" "[3,4]" with index := some 1 }] }
      none none,
    chunkOf { reasoningContent := some "Hm.", content := some "The sum " } none none,
    chunkOf { reasoningContent := some " Ok.", toolCalls := [addCall "" " "] } none none,
    chunkOf { content := some "is 3." } (some "stop") none,
    { id := "chatcmpl-1", usage := some { promptTokens := 10, completionTokens := 5 } }]

/-- Both texts, the second piece of reasoning and the second call are lost. -/
theorem mixedChunks_not_delivered :
    sentText (oaiStreamHandler plainContext mixedChunks) = "" ∧
    String.join (mixedChunks.map (·.contentText)) = "The sum is 3." ∧
    sentReasoning (oaiStreamHandler plainContext mixedChunks) = "Hm." ∧
    String.join (mixedChunks.map (·.reasoningText)) = "Hm. Ok." ∧
    toolStarts (oaiStreamHandler plainContext mixedChunks) = [0] ∧
    ¬ DeliversCalls (mixedChunks.flatMap (·.toolPieces))
      (oaiStreamHandler plainContext mixedChunks) := by
  rw [DeliversCalls, exists_table_iff]
  decide +kernel

end

end NewApi.Streams
