import NewApi.Lib.BlockStream
import NewApi.Streams.Formats

/-!
# Valid streams of Claude

A client of Claude reads a `message_start`, the events of content blocks, one `message_delta` with a
stop reason and one `message_stop`. `acceptor` ends exactly on these streams (`validStream_iff`).
-/

namespace NewApi.Streams

open Lib Lib.BlockStream Option

inductive BlockType where
  | text
  | thinking
  | toolUse
  deriving DecidableEq

def MediaType.blockType? : MediaType → Option BlockType
  | .text => some .text
  | .thinking => some .thinking
  | .toolUse => some .toolUse
  | _ => none

def MediaType.deltaType? : MediaType → Option BlockType
  | .textDelta => some .text
  | .thinkingDelta => some .thinking
  | .signatureDelta => some .thinking
  | .inputJsonDelta => some .toolUse
  | _ => none

def ClaudeResponse.blockEvent? (event : ClaudeResponse) : Option (Event BlockType) := do
  let index ← event.index
  match event.type with
  | .contentBlockStart =>
    let block ← event.contentBlock
    let kind ← block.type.blockType?
    some (.start index kind)
  | .contentBlockDelta =>
    let delta ← event.delta
    let kind ← delta.type.deltaType?
    some (.piece index kind)
  | .contentBlockStop => some (.stop index)
  | _ => none

/-- A `message_delta` with a stop reason. -/
def ClaudeResponse.givesStopReason (event : ClaudeResponse) : Bool :=
  event.type = .messageDelta &&
    ((event.delta.bind (·.stopReason)).filter (· ≠ "")).isSome

def ValidStream (events : List ClaudeResponse) : Prop :=
  ∃ start body blockEvents delta stop, events = start :: (body ++ [delta, stop]) ∧
    start.type = .messageStart ∧
    body.mapM ClaudeResponse.blockEvent? = some blockEvents ∧ WellFormed blockEvents ∧
    delta.givesStopReason = true ∧
    stop.type = .messageStop

inductive Phase where
  | fresh
  | streaming (blocks : Blocks BlockType)
  | ending
  | ended
  deriving DecidableEq

def acceptorStep : Phase → ClaudeResponse → Option Phase
  | .fresh, event => if event.type = .messageStart then some (.streaming []) else none
  | .streaming blocks, event =>
    match event.blockEvent? with
    | some blockEvent => (step blocks blockEvent).map .streaming
    | none =>
      if event.givesStopReason = true ∧ Closed blocks then some .ending else none
  | .ending, event => if event.type = .messageStop then some .ended else none
  | .ended, _ => none

def acceptor : System Phase ClaudeResponse where
  step := acceptorStep

theorem blockEvent?_of_givesStopReason {ev : ClaudeResponse}
    (h : ev.givesStopReason = true) : ev.blockEvent? = none := by
  have ht : ev.type = .messageDelta := by
    simp only [ClaudeResponse.givesStopReason, Bool.and_eq_true, decide_eq_true_eq] at h
    exact h.1
  unfold ClaudeResponse.blockEvent?
  cases ev.index with
  | none => rfl
  | some idx => simp [ht]

theorem acceptor_step_block (h : ev.blockEvent? = some be) :
    acceptor.step (.streaming bs) ev = (step bs be).map .streaming := by
  simp only [acceptor, acceptorStep, h]

theorem run_streaming (h : bdy.mapM ClaudeResponse.blockEvent? = some bes) (bs : Blocks BlockType) :
    acceptor.run (.streaming bs) bdy = (machine.run bs bes).map .streaming := by
  induction bdy generalizing bes bs with
  | nil =>
    cases h
    rfl
  | cons ev rs ih =>
    simp only [List.mapM_cons, bind_eq_bind, bind_eq_some_iff, pure_def] at h
    obtain ⟨be, hev, later, hlt, hbo⟩ := h
    cases hbo
    rw [System.run_cons, System.run_cons, acceptor_step_block hev]
    show (Option.map _ (machine.step bs be)).bind _ = _
    cases machine.step bs be with
    | none => rfl
    | some next => exact ih hlt next

theorem exists_body (h : acceptor.run (.streaming bs) evs = some .ended) :
    ∃ bdy bes d stop fin, evs = bdy ++ [d, stop] ∧
      bdy.mapM ClaudeResponse.blockEvent? = some bes ∧
      machine.run bs bes = some fin ∧ Closed fin ∧
      d.givesStopReason = true ∧ stop.type = .messageStop := by
  induction evs generalizing bs with
  | nil => cases h
  | cons ev rs ih =>
    obtain ⟨next, hs, hr⟩ := acceptor.run_cons_eq_some.mp h
    simp only [acceptor, acceptorStep] at hs
    cases hev : ev.blockEvent? with
    | some be =>
      simp only [hev, map_eq_some_iff] at hs
      obtain ⟨mid, hmi, rfl⟩ := hs
      obtain ⟨bdy, bes, d, stop, fin, rfl, hbo, hru, hfi⟩ := ih hr
      refine ⟨ev :: bdy, be :: bes, d, stop, fin, rfl, ?_, ?_, hfi⟩
      · simp [hev, hbo]
      · exact machine.run_cons_eq_some.mpr ⟨mid, hmi, hru⟩
    | none =>
      simp only [hev] at hs
      obtain ⟨⟨hd, hcl⟩, hx⟩ := ite_none_right_eq_some.mp hs
      cases hx
      -- after the stop reason only the end of the message can follow
      cases rs with
      | nil => cases hr
      | cons stop rs =>
        obtain ⟨last, hst, hl⟩ := acceptor.run_cons_eq_some.mp hr
        obtain ⟨ht, he⟩ := ite_none_right_eq_some.mp hst
        cases he
        cases rs with
        | nil => exact ⟨[], [], ev, stop, bs, rfl, rfl, rfl, hcl, hd, ht⟩
        | cons other rs => cases hl

theorem validStream_iff {evs : List ClaudeResponse} :
    ValidStream evs ↔ acceptor.run .fresh evs = some .ended := by
  constructor
  · rintro ⟨s0, bdy, bes, delta, stop, rfl, hs0, hbo, hwe, hd, hs⟩
    obtain ⟨bs, hr, hcl⟩ := wellFormed_iff.mp hwe
    refine acceptor.run_cons_eq_some.mpr ⟨.streaming [], if_pos hs0, ?_⟩
    rw [System.run_append, run_streaming hbo, hr, map_some, bind_some]
    refine acceptor.run_cons_eq_some.mpr ⟨.ending, ?_, ?_⟩
    · simp only [acceptor, acceptorStep, blockEvent?_of_givesStopReason hd]
      exact if_pos ⟨hd, hcl⟩
    · exact acceptor.run_cons_eq_some.mpr ⟨.ended, if_pos hs, rfl⟩
  intro hr
  cases evs with
  | nil => cases hr
  | cons s0 rs =>
    obtain ⟨next, hst, hre⟩ := acceptor.run_cons_eq_some.mp hr
    obtain ⟨hs0, hx⟩ := ite_none_right_eq_some.mp hst
    cases hx
    obtain ⟨bdy, bes, delta, stop, fin, rfl, hbo, hbs, hcl, hd, hs⟩ := exists_body hre
    exact ⟨s0, bdy, bes, delta, stop, rfl, hs0, hbo, wellFormed_iff.mpr ⟨fin, hbs, hcl⟩, hd, hs⟩

end NewApi.Streams
