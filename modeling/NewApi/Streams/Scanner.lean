import Mathlib.Algebra.GroupWithZero.Nat
import NewApi.Lib.Inevitable
import NewApi.Lib.Text

/-!
# The goroutines of a stream

`StreamScannerHandler` reads the lines of a body in one goroutine and calls the data handler in
another; a third one pings the client, and the function waits for a message on a stop channel that
all of them receive from. A schedule is a sequence of the steps of these goroutines.
-/

namespace NewApi.Streams.Scanner

open List
open Lib (startsWith trimSpace Inevitably)
open Relation (ReflTransGen)

/-! ## The lines -/

def byteLength (line : String) : Nat :=
  (line.toList.map Char.utf8Size).sum

/-- What follows the first five bytes, which are ASCII where it is read. -/
def afterTag (line : String) : String :=
  trimSpace (String.ofList (line.toList.drop 5))

inductive Parsed where
  | skip
  | data (text : String)
  | done
  deriving DecidableEq

/-- What the scanner makes of a line. -/
def parse (line : String) : Parsed :=
  if byteLength line < 6 then .skip
  else if !startsWith line "data:" && !startsWith line "[DONE]" then .skip
  else if afterTag line = "" then .skip
  else if startsWith (afterTag line) "[DONE]" then .done
  else .data (afterTag line)

inductive Reply where
  | goOn
  | stop
  | panics

/-- The size of the scanner's buffer, whether pings are enabled, and what the data handler does
after the given calls. -/
structure Config where
  maxBuffer : Nat
  pingEnabled : Bool
  dataHandler : List String → Reply

/-- The payloads that the scanner finds; a line that does not fit in the buffer ends the scan. -/
def scannedPayloads (cfg : Config) : List String → List String
  | [] => []
  | line :: rest =>
    if cfg.maxBuffer ≤ byteLength line then []
    else match parse line with
      | .skip => scannedPayloads cfg rest
      | .data text => text :: scannedPayloads cfg rest
      | .done => []

/-- The payload of a `data:` line that has one. -/
def payload? (line : String) : Option String :=
  if startsWith line "data:" ∧ afterTag line ≠ "" then some (afterTag line) else none

/-- The payloads of the body up to the first `[DONE]`. -/
def expectedPayloads (lines : List String) : List String :=
  (lines.filterMap payload?).takeWhile fun text => !startsWith text "[DONE]"

/-- A `data:` line whose payload is the terminator. -/
def endsData (line : String) : Bool :=
  (payload? line).any (startsWith · "[DONE]")

theorem endsData_iff {line : String} :
    endsData line = true ↔
      ∃ text, payload? line = some text ∧ startsWith text "[DONE]" = true := by
  cases hpayload : payload? line <;> simp [endsData, hpayload]

/-- Every line before the first terminator in a `data:` line fits in the buffer, and none is a
`[DONE]` without `data:`. -/
def CleanBody (cfg : Config) (lines : List String) : Prop :=
  ∀ line ∈ lines.takeWhile (!endsData ·),
    byteLength line < cfg.maxBuffer ∧ startsWith line "[DONE]" = false

theorem afterTag_of_short (hda : startsWith ln "data:" = true)
    (hsh : byteLength ln < 6) : afterTag ln = "" := by
  obtain ⟨rs, hr⟩ := isPrefixOf_iff_prefix.mp hda
  cases rs with
  | nil =>
    unfold afterTag
    rw [← hr]
    decide +kernel
  | cons c rs =>
    have hp := c.utf8Size_pos
    have hl : byteLength ln = 5 + (c.utf8Size + (rs.map Char.utf8Size).sum) := by
      unfold byteLength
      rw [← hr, map_append, sum_append]
      rfl
    omega

/-- A `data:` line is no bare terminator. -/
theorem not_bare_of_tagged {line : String} (h : startsWith line "data:" = true) :
    startsWith line "[DONE]" = false := by
  obtain ⟨rest, hline⟩ := isPrefixOf_iff_prefix.mp h
  unfold startsWith
  rw [← hline]
  rfl

/-- A bare terminator is cut like a `data:` line; what is left begins with its last bracket. -/
theorem parse_bare {line : String} (h : startsWith line "[DONE]" = true) :
    ∃ text, parse line = .data text := by
  obtain ⟨rest, hline⟩ := isPrefixOf_iff_prefix.mp h
  obtain ⟨tail, htail⟩ := Lib.trimChars_cons rest (show Lib.isSpace ']' = false by decide)
  have hafter : afterTag line = String.ofList (']' :: tail) := by
    unfold afterTag trimSpace
    rw [← hline, ← htail, String.toList_ofList]
    rfl
  have hlong : ¬byteLength line < 6 := by
    have hlength : byteLength line = 6 + (rest.map Char.utf8Size).sum := by
      unfold byteLength
      rw [← hline, map_append, sum_append]
      rfl
    omega
  have hgoes : startsWith (afterTag line) "[DONE]" = false := by
    have hchars : (afterTag line).toList = ']' :: tail := by rw [hafter, String.toList_ofList]
    unfold startsWith
    rw [hchars]
    rfl
  have hsome : afterTag line ≠ "" := by simp [hafter]
  refine ⟨afterTag line, ?_⟩
  simp [parse, hlong, h, hgoes, hsome]

theorem parse_eq (h : startsWith line "[DONE]" = false) :
    parse line = match payload? line with
      | none => .skip
      | some text => if startsWith text "[DONE]" then .done else .data text := by
  unfold parse payload?
  cases hda : startsWith line "data:" with
  | false => simp [h]
  | true =>
    by_cases hsh : byteLength line < 6
    · simp [hsh, afterTag_of_short hda hsh]
    · by_cases hem : afterTag line = "" <;> simp [hsh, hem]

theorem scannedPayloads_of_clean (h : CleanBody cfg ls) :
    scannedPayloads cfg ls = expectedPayloads ls := by
  induction ls with
  | nil => rfl
  | cons line rest ih =>
    unfold CleanBody at h
    cases hend : endsData line with
    | true =>
      -- the scan ends here, whether or not the line fits
      obtain ⟨text, hpayload, hdone⟩ := endsData_iff.mp hend
      obtain ⟨htag, -⟩ := Option.ite_none_right_eq_some.mp hpayload
      have hbare : startsWith line "[DONE]" = false := not_bare_of_tagged htag.1
      have hexpected : expectedPayloads (line :: rest) = [] := by
        simp [expectedPayloads, hpayload, hdone]
      rw [hexpected, scannedPayloads, parse_eq hbare, hpayload]
      simp [hdone]
    | false =>
      rw [takeWhile_cons_of_pos (by simp [hend]), forall_mem_cons] at h
      obtain ⟨⟨hfits, hbare⟩, hrest⟩ := h
      rw [scannedPayloads, if_neg (Nat.not_le.mpr hfits), parse_eq hbare, ih hrest,
        expectedPayloads, expectedPayloads, filterMap_cons]
      cases hpayload : payload? line with
      | none => rfl
      | some text =>
        have hgoes : startsWith text "[DONE]" = false := by simpa [endsData, hpayload] using hend
        simp [hgoes]

/-- A terminator in one of its two forms. -/
def terminates (line : String) : Bool :=
  startsWith line "[DONE]" || endsData line

/-- The payloads of the lines before the first terminator. -/
def deliverable (lines : List String) : List String :=
  (lines.takeWhile fun line => !terminates line).filterMap payload?

/-- The first terminator that the scanner reads is a `data:` line: it reads the lines before the
first one that does not fit in the buffer. -/
def TaggedEnd (maxBuffer : Nat) (lines : List String) : Prop :=
  ∀ line ∈ (lines.takeWhile (byteLength · < maxBuffer)).find? terminates,
    startsWith line "[DONE]" = false
  deriving Decidable

/-- The scanner delivers no more than it should just if the body ends with a tagged terminator. -/
theorem scannedPayloads_isPrefix_iff {cfg : Config} {lines : List String} :
    scannedPayloads cfg lines <+: deliverable lines ↔ TaggedEnd cfg.maxBuffer lines := by
  unfold TaggedEnd
  induction lines with
  | nil => simp [scannedPayloads]
  | cons line rest ih =>
    rw [scannedPayloads]
    by_cases hfits : byteLength line < cfg.maxBuffer
    swap
    · rw [if_pos (Nat.not_lt.mp hfits), takeWhile_cons_of_neg (by simp [hfits])]
      simp
    rw [if_neg (Nat.not_le.mpr hfits), takeWhile_cons_of_pos (by simp [hfits])]
    cases hterminates : terminates line with
    | true =>
      have hdeliverable : deliverable (line :: rest) = [] := by simp [deliverable, hterminates]
      rw [hdeliverable, prefix_nil, find?_cons_of_pos hterminates]
      cases hbare : startsWith line "[DONE]" with
      | true =>
        obtain ⟨text, hparse⟩ := parse_bare hbare
        simp [hparse, hbare]
      | false =>
        -- the scanner stops at a `data:` line with the terminator
        have hend : endsData line = true := by simpa [terminates, hbare] using hterminates
        obtain ⟨text, hpayload, hdone⟩ := endsData_iff.mp hend
        rw [parse_eq hbare, hpayload]
        simp [hdone, hbare]
    | false =>
      obtain ⟨hbare, hend⟩ := Bool.or_eq_false_iff.mp hterminates
      rw [find?_cons_of_neg (by simp [hterminates]), ← ih, parse_eq hbare, deliverable,
        takeWhile_cons_of_pos (by simp [hterminates]), filterMap_cons, ← deliverable]
      cases hpayload : payload? line with
      | none => rfl
      | some text =>
        have hgoes : startsWith text "[DONE]" = false := by simpa [endsData, hpayload] using hend
        simp [hgoes]

/-! ## The goroutines -/

inductive ScannerPhase where
  | scanning
  | sending (data : String)
  /-- The data channel is closed and `wg.Done` called, the stop message is not sent yet. -/
  | exiting
  | exited
  deriving DecidableEq

inductive HandlerPhase where
  | receiving
  | locking (data : String)
  | calling (data : String)
  /-- `wg.Done` is called, the stop message is not sent yet. -/
  | exiting
  | exited
  deriving DecidableEq

inductive PingPhase where
  | idle
  | waiting
  | answered (ok : Bool)
  | exited
  deriving DecidableEq

/-- The goroutine that writes one ping. -/
inductive WriterPhase where
  | none
  | locking
  | writing
  deriving DecidableEq

/-- The function itself: in its `select`, then in its deferred calls. -/
inductive MainPhase where
  | waiting
  | leaving
  | canceled
  | cleaning
  | returned
  deriving DecidableEq

/-- `stopChan` counts the messages in the channel, `ticks` the pings that are still to come. -/
structure State where
  lines : List String
  scanner : ScannerPhase := .scanning
  dataChan : List String := []
  handler : HandlerPhase := .receiving
  calls : List String := []
  ping : PingPhase
  ticks : Nat
  writer : WriterPhase := .none
  locked : Bool := false
  stopChan : Nat := 0
  main : MainPhase := .waiting
  clientGone : Bool := false

def initial (cfg : Config) (lines : List String) (ticks : Nat) : State :=
  { lines, ticks, ping := if cfg.pingEnabled then .idle else .exited }

def ScannerPhase.done : ScannerPhase → Bool
  | .scanning | .sending _ => false
  | .exiting | .exited => true

def HandlerPhase.done : HandlerPhase → Bool
  | .receiving | .locking _ | .calling _ => false
  | .exiting | .exited => true

/-- `cancel` has been called. -/
def MainPhase.ctxDone : MainPhase → Bool
  | .waiting | .leaving => false
  | .canceled | .cleaning | .returned => true

namespace State

/-- The next call of `Scan` returns false. -/
def atEnd (cfg : Config) (s : State) : Bool :=
  s.lines.head?.all (cfg.maxBuffer ≤ byteLength ·)

/-- The state after a receive from the stop channel or, without effect, from `ctx.Done`. -/
inductive Woken (s : State) : State → Prop
  | stop (h : 0 < s.stopChan) : Woken s { s with stopChan := s.stopChan - 1 }
  | ctx (h : s.main.ctxDone = true) : Woken s s

/-- As `Woken`, where the context of the client is watched too. -/
def WokenOrGone (s t : State) : Prop :=
  s.Woken t ∨ s.clientGone = true ∧ t = s

/-- No other case of the `select` in the loop is ready. -/
def Quiet (s : State) : Prop :=
  s.stopChan = 0 ∧ s.main.ctxDone = false ∧ s.clientGone = false

def process (s : State) (rest : List String) : Parsed → State
  | .skip => { s with lines := rest }
  | .data text => { s with lines := rest, scanner := .sending text }
  | .done => { s with lines := rest, scanner := .exiting }

/-- `SafeSendBool`, which recovers if the channel is closed. -/
def sendStop (s : State) : State :=
  if s.main = .returned then s else { s with stopChan := s.stopChan + 1 }

def CanSend (s : State) : Prop :=
  s.main = .returned ∨ s.stopChan < 3

/-- After a call: a panic leaves the mutex locked. -/
def handled (s : State) (data : String) : Reply → State
  | .goOn => { s with calls := s.calls ++ [data], locked := false, handler := .receiving }
  | .stop => { s with calls := s.calls ++ [data], locked := false, handler := .exiting }
  | .panics => { s with calls := s.calls ++ [data], handler := .exiting }

def GroupDone (s : State) : Prop :=
  s.scanner.done = true ∧ s.handler.done = true ∧ s.ping = .exited

end State

open State

/-- A step of one of the goroutines. A ping that takes too long, or a client that has gone, only
ends the pings (`pingEnds`). -/
inductive Step (cfg : Config) (s : State) : State → Prop
  | scanEnd (hscanner : s.scanner = .scanning) (hend : s.atEnd cfg = true) :
      Step cfg s { s with scanner := .exiting }
  | scanLine {line : String} {rest : List String} (hscanner : s.scanner = .scanning)
      (hlines : s.lines = line :: rest) (hfits : byteLength line < cfg.maxBuffer)
      (hquiet : s.Quiet) : Step cfg s (s.process rest (parse line))
  | scanStopped {line : String} {rest : List String} {t : State} (hscanner : s.scanner = .scanning)
      (hlines : s.lines = line :: rest) (hfits : byteLength line < cfg.maxBuffer)
      (hwoken : s.WokenOrGone t) : Step cfg s { t with lines := rest, scanner := .exiting }
  | push {data : String} (hscanner : s.scanner = .sending data) (hroom : s.dataChan.length < 10) :
      Step cfg s { s with scanner := .scanning, dataChan := s.dataChan ++ [data] }
  | pushStopped {data : String} {t : State} (hscanner : s.scanner = .sending data)
      (hwoken : s.Woken t) : Step cfg s { t with scanner := .exiting }
  | scannerSend (hscanner : s.scanner = .exiting) (hsend : s.CanSend) :
      Step cfg s { s.sendStop with scanner := .exited }
  | receive {data : String} {rest : List String} (hhandler : s.handler = .receiving)
      (hchan : s.dataChan = data :: rest) :
      Step cfg s { s with dataChan := rest, handler := .locking data }
  | lock {data : String} (hhandler : s.handler = .locking data) (hfree : s.locked = false) :
      Step cfg s { s with locked := true, handler := .calling data }
  | call {data : String} (hhandler : s.handler = .calling data) :
      Step cfg s (s.handled data (cfg.dataHandler (s.calls ++ [data])))
  | drained (hhandler : s.handler = .receiving) (hchan : s.dataChan = [])
      (hclosed : s.scanner.done = true) : Step cfg s { s with handler := .exiting }
  | handlerSend (hhandler : s.handler = .exiting) (hsend : s.CanSend) :
      Step cfg s { s.sendStop with handler := .exited }
  | tick {ticks : Nat} (hping : s.ping = .idle) (hticks : s.ticks = ticks + 1) :
      Step cfg s { s with ping := .waiting, ticks := ticks, writer := .locking }
  | writerLock (hwriter : s.writer = .locking) (hfree : s.locked = false) :
      Step cfg s { s with locked := true, writer := .writing }
  | write (ok : Bool) (hwriter : s.writer = .writing) :
      Step cfg s { s with
        locked := false, writer := .none,
        ping := if s.ping = .waiting then .answered ok else s.ping }
  | answer {ok : Bool} (hping : s.ping = .answered ok) :
      Step cfg s { s with ping := if ok then .idle else .exited }
  | pingStopped {t : State} (hping : s.ping ≠ .exited) (hwoken : s.Woken t) :
      Step cfg s { t with ping := .exited }
  | pingEnds (hping : s.ping ≠ .exited) : Step cfg s { s with ping := .exited }
  | mainStopped (hmain : s.main = .waiting) (hstop : 0 < s.stopChan) :
      Step cfg s { s with stopChan := s.stopChan - 1, main := .leaving }
  | mainGone (hmain : s.main = .waiting) (hgone : s.clientGone = true) :
      Step cfg s { s with main := .leaving }
  | cancel (hmain : s.main = .leaving) : Step cfg s { s with main := .canceled }
  | mainSend (hmain : s.main = .canceled) (hsend : s.CanSend) :
      Step cfg s { s.sendStop with main := .cleaning }
  | finish (hmain : s.main = .cleaning) (hgroup : s.GroupDone) :
      Step cfg s { s with main := .returned }

/-- What happens from outside: the streaming timeout, the end of the wait in the cleanup, and a
client that disconnects. -/
inductive External (s : State) : State → Prop
  | timeout (hmain : s.main = .waiting) : External s { s with main := .leaving }
  | cleanupTimeout (hmain : s.main = .cleaning) : External s { s with main := .returned }
  | disconnect : External s { s with clientGone := true }

/-! ## Every step makes the remaining work smaller -/

def ScannerPhase.weight : ScannerPhase → Nat
  | .scanning => 2
  | .sending _ => 7
  | .exiting => 1
  | .exited => 0

def HandlerPhase.weight : HandlerPhase → Nat
  | .receiving => 2
  | .locking _ => 5
  | .calling _ => 4
  | .exiting => 1
  | .exited => 0

def PingPhase.weight : PingPhase → Nat
  | .idle => 1
  | .waiting => 3
  | .answered _ => 2
  | .exited => 0

def WriterPhase.weight : WriterPhase → Nat
  | .none => 0
  | .locking => 2
  | .writing => 1

def MainPhase.weight : MainPhase → Nat
  | .waiting => 4
  | .leaving => 3
  | .canceled => 2
  | .cleaning => 1
  | .returned => 0

def State.weight (s : State) : Nat :=
  6 * s.lines.length + s.scanner.weight + 4 * s.dataChan.length + s.handler.weight +
    5 * s.ticks + s.ping.weight + s.writer.weight + s.main.weight

open State

section

variable {cfg : Config} {s t : State}

theorem exists_stopChan_of_wokenOrGone (h : s.WokenOrGone t) :
    ∃ n ≤ s.stopChan, t = { s with stopChan := n } := by
  rcases h with (⟨hs⟩ | ⟨hct⟩) | ⟨-, rfl⟩
  · exact ⟨s.stopChan - 1, Nat.sub_le _ _, rfl⟩
  · exact ⟨s.stopChan, le_rfl, rfl⟩
  · exact ⟨t.stopChan, le_rfl, rfl⟩

theorem sendStop_eq : ∃ n, s.sendStop = { s with stopChan := n } := by
  unfold sendStop
  split
  · exact ⟨s.stopChan, rfl⟩
  · exact ⟨_, rfl⟩

theorem weight_lt (h : Step cfg s t) : t.weight < s.weight := by
  cases h with
  | scanEnd hsc he => simp [weight, hsc, ScannerPhase.weight]
  | scanLine hsc hls hfi hqu =>
    cases parse _ <;>
      simp only [weight, process, hsc, hls, ScannerPhase.weight, length_cons] <;> omega
  | scanStopped hsc hls hfi hwo =>
    obtain ⟨n, -, rfl⟩ := exists_stopChan_of_wokenOrGone hwo
    simp only [weight, hsc, hls, ScannerPhase.weight, length_cons]
    omega
  | push hsc hro =>
    simp only [weight, hsc, ScannerPhase.weight, length_append, length_singleton]
    omega
  | pushStopped hsc hwo =>
    obtain ⟨n, -, rfl⟩ := exists_stopChan_of_wokenOrGone (.inl hwo)
    simp [weight, hsc, ScannerPhase.weight]
  | scannerSend hsc hse =>
    obtain ⟨n, hn⟩ := sendStop_eq (s := s)
    simp [hn, weight, hsc, ScannerPhase.weight]
  | receive hha hch =>
    simp only [weight, hha, hch, HandlerPhase.weight, length_cons]
    omega
  | lock hha hfr | drained hha hch hcl => simp [weight, hha, HandlerPhase.weight]
  | call hha =>
    cases cfg.dataHandler _ <;> simp [weight, handled, hha, HandlerPhase.weight]
  | handlerSend hha hse =>
    obtain ⟨n, hn⟩ := sendStop_eq (s := s)
    simp [hn, weight, hha, HandlerPhase.weight]
  | tick hpi hti =>
    simp only [weight, hpi, hti, PingPhase.weight, WriterPhase.weight]
    omega
  | writerLock hwr hfr => simp [weight, hwr, WriterPhase.weight]
  | write ok hwr =>
    simp only [weight, hwr, WriterPhase.weight]
    split <;> simp_all [PingPhase.weight]
  | @answer ok hpi => cases ok <;> simp [weight, hpi, PingPhase.weight]
  | pingStopped hpi hwo =>
    obtain ⟨n, -, rfl⟩ := exists_stopChan_of_wokenOrGone (.inl hwo)
    cases hp : s.ping <;> simp_all [weight, PingPhase.weight]
  | pingEnds hpi => cases hp : s.ping <;> simp_all [weight, PingPhase.weight]
  | mainStopped hma hs | mainGone hma hgo | cancel hma | finish hma hg =>
    simp [weight, hma, MainPhase.weight]
  | mainSend hma hse =>
    obtain ⟨n, hn⟩ := sendStop_eq (s := s)
    simp [hn, weight, hma, MainPhase.weight]

/-! ## Where the payloads are -/

def HandlerPhase.item : HandlerPhase → List String
  | .locking data | .calling data => [data]
  | .receiving | .exiting | .exited => []

/-- The payloads that the scanner has found or will find, before they are in the channel. -/
def State.unsent (cfg : Config) (s : State) : List String :=
  match s.scanner with
  | .scanning => scannedPayloads cfg s.lines
  | .sending data => data :: scannedPayloads cfg s.lines
  | .exiting | .exited => []

/-- All payloads: handled, at the handler, in the channel and at the scanner. -/
def State.payloads (cfg : Config) (s : State) : List String :=
  s.calls ++ s.handler.item ++ s.dataChan ++ s.unsent cfg

theorem not_quiet_of_wokenOrGone (h : s.WokenOrGone t) : ¬s.Quiet := by
  rintro ⟨hs, hct, hgo⟩
  rcases h with (⟨hp⟩ | ⟨hd⟩) | ⟨hcl, -⟩
  · omega
  · rw [hct] at hd
    cases hd
  · rw [hgo] at hcl
    cases hcl

/-- A scanner that finds no more lines cannot receive a message any more. -/
def State.scannerStage (cfg : Config) (s : State) : Nat :=
  match s.scanner with
  | .scanning => if s.atEnd cfg then 1 else 0
  | .sending _ => 0
  | .exiting => 1
  | .exited => 2

theorem scannerStage_of_line (hsc : s.scanner = .scanning) (hls : s.lines = ln :: rs)
    (hfi : byteLength ln < cfg.maxBuffer) : s.scannerStage cfg = 0 := by
  simp [scannerStage, hsc, atEnd, hls, hfi]

theorem scannerStage_of_sending (cfg : Config)
    (hsc : s.scanner = .sending data) : s.scannerStage cfg = 0 := by
  simp [scannerStage, hsc]

theorem payloads_exiting :
    payloads cfg { s with stopChan := n, lines := ls, scanner := .exiting } <+: s.payloads cfg := by
  show s.calls ++ s.handler.item ++ s.dataChan ++ [] <+: _
  rw [append_nil]
  exact prefix_append _ _

theorem payloads_step (h : Step cfg s t) :
    t.payloads cfg = s.payloads cfg ∨
      s.scannerStage cfg = 0 ∧ ¬s.Quiet ∧ t.payloads cfg <+: s.payloads cfg := by
  cases h with
  | scanEnd hsc he =>
    left
    have hno : scannedPayloads cfg s.lines = [] := by
      unfold atEnd at he
      cases hls : s.lines with
      | nil => rfl
      | cons ln rs =>
        rw [hls] at he
        exact if_pos (of_decide_eq_true he)
    simp [payloads, unsent, hsc, hno]
  | scanLine hsc hls hfi hqu =>
    left
    cases hpa : parse _ <;>
      simp [payloads, unsent, process, hsc, hls, scannedPayloads, Nat.not_le.mpr hfi, hpa]
  | scanStopped hsc hls hfi hwo =>
    obtain ⟨n, -, rfl⟩ := exists_stopChan_of_wokenOrGone hwo
    exact .inr ⟨scannerStage_of_line hsc hls hfi, not_quiet_of_wokenOrGone hwo, payloads_exiting⟩
  | push hsc hro => left; simp [payloads, unsent, hsc]
  | pushStopped hsc hwo =>
    obtain ⟨n, -, rfl⟩ := exists_stopChan_of_wokenOrGone (.inl hwo)
    exact .inr ⟨scannerStage_of_sending cfg hsc, not_quiet_of_wokenOrGone (.inl hwo),
      payloads_exiting⟩
  | scannerSend hsc hse =>
    obtain ⟨n, hn⟩ := sendStop_eq (s := s)
    left
    simp [hn, payloads, unsent, hsc]
  | receive hha hch => left; simp [payloads, unsent, hha, hch, HandlerPhase.item]
  | lock hha hfr => left; simp [payloads, unsent, hha, HandlerPhase.item]
  | call hha =>
    left
    cases cfg.dataHandler _ <;> simp [payloads, unsent, handled, hha, HandlerPhase.item]
  | drained hha hch hcl =>
    left; simp [payloads, unsent, hha, HandlerPhase.item]
  | handlerSend hha hse =>
    obtain ⟨n, hn⟩ := sendStop_eq (s := s)
    left
    simp [hn, payloads, unsent, hha, HandlerPhase.item]
  | mainSend hma hse =>
    obtain ⟨n, hn⟩ := sendStop_eq (s := s)
    left
    simp [hn, payloads, unsent]
  | pingStopped hpi hwo =>
    obtain ⟨n, -, rfl⟩ := exists_stopChan_of_wokenOrGone (.inl hwo)
    exact .inl rfl
  | _ => exact .inl rfl

theorem calls_prefix_of_reach
    (h : ReflTransGen (fun s t => Step cfg s t ∨ External s t) (initial cfg ls tic) s) :
    s.calls <+: scannedPayloads cfg ls := by
  have ha : s.payloads cfg <+: scannedPayloads cfg ls := by
    induction h with
    | refl => exact prefix_rfl
    | tail _ hs ih =>
      rcases hs with hs | hs
      · rcases payloads_step hs with heq | ⟨-, -, hle⟩
        · rwa [heq]
        · exact hle.trans ih
      · cases hs <;> exact ih
  rw [payloads, append_assoc, append_assoc] at ha
  exact (prefix_append _ _).trans ha

end

end NewApi.Streams.Scanner
