import NewApi.Streams.Scanner

/-!
# The stop messages of a stream

The scanner, the data handler and the function each send one stop message; the scanner, the ping and
the function receive, and the ping passes none on. If the handler stops while the scanner still
reads, the scanner can take its message and the ping that of the scanner.
-/

namespace NewApi.Streams.Scanner

open State
open Lib (Inevitably)
open Relation (ReflTransGen)

section

variable {cfg : Config} {s t : State}

/-! ## Signals -/

/-- The goroutines as they look from the stop channel. A sender is at 0 while it may still receive
a message, at 1 when it is bound to send its own and at 2 when it has sent it; the ping is at 1 when
it has ended, and the function counts its phases. -/
structure Signals where
  scanner : Nat
  handler : Nat
  ping : Nat
  main : Nat
  stop : Nat

inductive Signals.Step (a : Signals) : Signals → Prop
  | ends {scanner handler ping : Nat} (hscanner : scanner = a.scanner ∨ a.scanner = 0 ∧ scanner = 1)
      (hhandler : handler = a.handler ∨ a.handler = 0 ∧ handler = 1)
      (hping : ping = a.ping ∨ a.ping = 0 ∧ ping = 1) :
      Step a { a with scanner := scanner, handler := handler, ping := ping }
  | scannerSends {stop : Nat} (hscanner : a.scanner = 1) (hle : stop ≤ a.stop + 1)
      (hstop : a.main = 4 ∨ stop = a.stop + 1) : Step a { a with scanner := 2, stop := stop }
  | handlerSends {stop : Nat} (hhandler : a.handler = 1) (hle : stop ≤ a.stop + 1)
      (hstop : a.main = 4 ∨ stop = a.stop + 1) : Step a { a with handler := 2, stop := stop }
  | scannerTakes (hscanner : a.scanner = 0) (hstop : 0 < a.stop) :
      Step a { a with scanner := 1, stop := a.stop - 1 }
  | pingTakes (hping : a.ping = 0) (hstop : 0 < a.stop) :
      Step a { a with ping := 1, stop := a.stop - 1 }
  | mainTakes (hmain : a.main = 0) (hstop : 0 < a.stop) :
      Step a { a with main := 1, stop := a.stop - 1 }
  | mainCancels (hmain : a.main = 1) : Step a { a with main := 2 }
  | mainSends (hmain : a.main = 2) : Step a { a with main := 3, stop := a.stop + 1 }
  | mainReturns (hmain : a.main = 3) : Step a { a with main := 4 }

/-- No message is lost but those that the ping and the function receive, and there is none while
the scanner can receive one. -/
structure Signals.Calm (a : Signals) : Prop where
  stop_le : a.stop ≤ a.scanner / 2 + a.handler / 2 + a.main / 3
  sent_le : a.main = 0 → a.scanner / 2 + a.handler / 2 ≤ a.stop + a.ping
  running : a.scanner = 0 → a.main = 0 ∧ a.handler ≤ 1

theorem Signals.Calm.step {a b : Signals} (h : a.Calm) (hs : a.Step b)
    (hx : b.scanner = 0 → b.handler ≤ 1) : b.Calm := by
  obtain ⟨hle, hge, hr⟩ := h
  cases hs <;> constructor <;> simp only at * <;> omega

/-- The messages on their way to the function suffice for it and for a ping that has not ended. -/
structure Signals.Reaching (a : Signals) : Prop where
  stop_le : a.stop ≤ a.scanner / 2 + a.handler / 2 + a.main / 3
  enough : a.main = 0 → 2 ≤ a.handler % 2 + a.scanner % 2 + a.stop + a.ping
  bound : a.main = 0 → a.ping = 0 → 1 ≤ a.scanner

theorem Signals.Reaching.step {a b : Signals} (h : a.Reaching) (hs : a.Step b) : b.Reaching := by
  obtain ⟨hle, hen, hbd⟩ := h
  cases hs <;> constructor <;> simp only at * <;> omega

/-- Everyone but the function has ended and no message is left. -/
def Signals.Lost (a : Signals) : Prop :=
  a = ⟨2, 2, 1, 0, 0⟩

theorem Signals.Lost.step {a b : Signals} (h : a.Lost) (hs : a.Step b) : b.Lost := by
  subst h
  cases hs <;> simp_all [Signals.Lost]

def HandlerPhase.stage : HandlerPhase → Nat
  | .receiving | .locking _ | .calling _ => 0
  | .exiting => 1
  | .exited => 2

def PingPhase.stage : PingPhase → Nat
  | .idle | .waiting | .answered _ => 0
  | .exited => 1

def MainPhase.stage : MainPhase → Nat
  | .waiting => 0
  | .leaving => 1
  | .canceled => 2
  | .cleaning => 3
  | .returned => 4

def State.signals (cfg : Config) (s : State) : Signals :=
  ⟨s.scannerStage cfg, s.handler.stage, s.ping.stage, s.main.stage, s.stopChan⟩

theorem ends_of {a b : Signals} (hma : b.main = a.main) (hs : b.stop = a.stop)
    (hsc : b.scanner = a.scanner ∨ a.scanner = 0 ∧ b.scanner = 1)
    (hha : b.handler = a.handler ∨ a.handler = 0 ∧ b.handler = 1)
    (hpi : b.ping = a.ping ∨ a.ping = 0 ∧ b.ping = 1) : a.Step b := by
  obtain ⟨scan, handler, ping, main, stop⟩ := b
  cases hma
  cases hs
  exact .ends hsc hha hpi

theorem ping_stage_of_ne {ping : PingPhase} (h : ping ≠ .exited) : ping.stage = 0 := by
  cases ping <;> first | rfl | exact absurd rfl h

theorem stop_sendStop :
    s.sendStop.stopChan ≤ s.stopChan + 1 ∧
      (s.main.stage = 4 ∨ s.sendStop.stopChan = s.stopChan + 1) := by
  unfold sendStop
  split
  · next h => exact ⟨Nat.le_succ _, .inl (by rw [h]; rfl)⟩
  · exact ⟨le_rfl, .inr rfl⟩

theorem scannerStage_of_not_exited (cfg : Config) (h : s.scanner ≠ .exited) :
    s.scannerStage cfg = 0 ∨ s.scannerStage cfg = 1 := by
  unfold scannerStage
  cases hsc : s.scanner with
  | scanning => exact (ite_eq_or_eq _ _ _).symm
  | sending data => exact .inl rfl
  | exiting => exact .inr rfl
  | exited => exact absurd hsc h

theorem scanner_goes_on (hst : s.scannerStage cfg = 0) (h : t.scanner ≠ .exited) :
    t.scannerStage cfg = s.scannerStage cfg ∨ s.scannerStage cfg = 0 ∧ t.scannerStage cfg = 1 := by
  rcases scannerStage_of_not_exited cfg h with hx | hx
  · exact .inl (hx.trans hst.symm)
  · exact .inr ⟨hst, hx⟩

theorem signals_step (hcl : s.clientGone = false) (h : Step cfg s t) :
    (s.signals cfg).Step (t.signals cfg) := by
  cases h with
  | scanEnd hsc he =>
    exact ends_of rfl rfl (.inl (by simp [signals, scannerStage, hsc, he])) (.inl rfl) (.inl rfl)
  | @scanLine ln rs hsc hls hfi hqu =>
    have hst := scannerStage_of_line hsc hls hfi
    have hx : (s.process rs (parse ln)).scanner ≠ .exited := by
      cases parse ln <;> simp [process, hsc]
    have hgo := scanner_goes_on hst hx
    cases hpa : parse ln with
    | skip | data | done => rw [hpa] at hgo; exact ends_of rfl rfl hgo (.inl rfl) (.inl rfl)
  | scanStopped hsc hls hfi hwo =>
    have hst := scannerStage_of_line hsc hls hfi
    rcases hwo with (⟨hs⟩ | ⟨hct⟩) | ⟨hgn, -⟩
    · exact .scannerTakes hst hs
    · exact ends_of rfl rfl (.inr ⟨hst, rfl⟩) (.inl rfl) (.inl rfl)
    · rw [hcl] at hgn
      cases hgn
  | push hsc hro =>
    have hst := scannerStage_of_sending cfg hsc
    exact ends_of rfl rfl (scanner_goes_on (t := { s with scanner := .scanning, dataChan := _ })
      hst ScannerPhase.noConfusion) (.inl rfl) (.inl rfl)
  | pushStopped hsc hwo =>
    have hst := scannerStage_of_sending cfg hsc
    rcases hwo with ⟨hs⟩ | ⟨hct⟩
    · exact .scannerTakes hst hs
    · exact ends_of rfl rfl (.inr ⟨hst, rfl⟩) (.inl rfl) (.inl rfl)
  | scannerSend hsc hse =>
    have hst : s.scannerStage cfg = 1 := by simp [scannerStage, hsc]
    obtain ⟨n, hn⟩ := sendStop_eq (s := s)
    obtain ⟨hle, hs⟩ := stop_sendStop (s := s)
    rw [hn] at hle hs ⊢
    exact .scannerSends hst hle hs
  | receive hha hch | lock hha hfr =>
    exact ends_of rfl rfl (.inl rfl) (.inl (congrArg HandlerPhase.stage hha).symm) (.inl rfl)
  | call hha =>
    have hst : s.handler.stage = 0 := congrArg HandlerPhase.stage hha
    cases cfg.dataHandler _ with
    | goOn => exact ends_of rfl rfl (.inl rfl) (.inl hst.symm) (.inl rfl)
    | stop | panics => exact ends_of rfl rfl (.inl rfl) (.inr ⟨hst, rfl⟩) (.inl rfl)
  | drained hha hch hcd =>
    exact ends_of rfl rfl (.inl rfl) (.inr ⟨congrArg HandlerPhase.stage hha, rfl⟩) (.inl rfl)
  | handlerSend hha hse =>
    obtain ⟨n, hn⟩ := sendStop_eq (s := s)
    obtain ⟨hle, hs⟩ := stop_sendStop (s := s)
    rw [hn] at hle hs ⊢
    exact .handlerSends (congrArg HandlerPhase.stage hha) hle hs
  | tick hpi hti =>
    exact ends_of rfl rfl (.inl rfl) (.inl rfl) (.inl (congrArg PingPhase.stage hpi).symm)
  | writerLock hwr hfr => exact ends_of rfl rfl (.inl rfl) (.inl rfl) (.inl rfl)
  | write ok hwr =>
    refine ends_of rfl rfl (.inl rfl) (.inl rfl) (.inl ?_)
    show PingPhase.stage (if _ then _ else _) = s.ping.stage
    split
    · next hpi => exact (congrArg PingPhase.stage hpi).symm
    · rfl
  | @answer ok hpi =>
    have hst : s.ping.stage = 0 := congrArg PingPhase.stage hpi
    refine ends_of rfl rfl (.inl rfl) (.inl rfl) ?_
    cases ok
    · exact .inr ⟨hst, rfl⟩
    · exact .inl hst.symm
  | pingStopped hpi hwo =>
    rcases hwo with ⟨hs⟩ | ⟨hct⟩
    · exact .pingTakes (ping_stage_of_ne hpi) hs
    · exact ends_of rfl rfl (.inl rfl) (.inl rfl) (.inr ⟨ping_stage_of_ne hpi, rfl⟩)
  | pingEnds hpi =>
    exact ends_of rfl rfl (.inl rfl) (.inl rfl) (.inr ⟨ping_stage_of_ne hpi, rfl⟩)
  | mainStopped hma hs => exact .mainTakes (congrArg MainPhase.stage hma) hs
  | mainGone hma hgn =>
    rw [hcl] at hgn
    cases hgn
  | cancel hma => exact .mainCancels (congrArg MainPhase.stage hma)
  | mainSend hma hse =>
    rw [show s.sendStop = _ from if_neg (by rw [hma]; exact MainPhase.noConfusion)]
    exact .mainSends (congrArg MainPhase.stage hma)
  | finish hma hg => exact .mainReturns (congrArg MainPhase.stage hma)

theorem clientGone_step (h : Step cfg s t) : t.clientGone = s.clientGone := by
  cases h with
  | scanLine => cases parse _ <;> rfl
  | call => cases cfg.dataHandler _ <;> rfl
  | scanStopped hsc hls hfi hwo =>
    obtain ⟨n, -, rfl⟩ := exists_stopChan_of_wokenOrGone hwo
    rfl
  | pushStopped hsc hwo | pingStopped hpi hwo =>
    obtain ⟨n, -, rfl⟩ := exists_stopChan_of_wokenOrGone (.inl hwo)
    rfl
  | scannerSend | handlerSend | mainSend =>
    obtain ⟨n, hn⟩ := sendStop_eq (s := s)
    rw [hn]
  | _ => rfl

/-! ## Delivery -/

/-- What holds besides if the data handler never stops: it ends after the scanner, with the channel
empty, a mutex that is locked is in use, no ping is written when the ping waits for its ticker, and
the function waits for the handler. -/
structure Working (s : State) : Prop where
  drained : s.handler.done = true → s.scanner.done = true ∧ s.dataChan = []
  locked : s.locked = true → (∃ data, s.handler = .calling data) ∨ s.writer = .writing
  written : s.ping = .idle ∨ (∃ ok, s.ping = .answered ok) → s.writer = .none
  returned : s.main = .returned → s.handler.done = true

theorem working_step (hgo : ∀ cs, cfg.dataHandler cs = .goOn) (h : Working s)
    (hs : Step cfg s t) : Working t := by
  obtain ⟨hdr, hlo, hwr, hre⟩ := h
  cases hs with
  | scanLine hsc =>
    cases parse _ <;> constructor <;> simp_all [process, ScannerPhase.done]
  | call => rw [hgo]; constructor <;> simp_all [handled, HandlerPhase.done]
  | scanStopped hsc hls hfi hwo =>
    obtain ⟨n, -, rfl⟩ := exists_stopChan_of_wokenOrGone hwo
    constructor <;> simp_all [ScannerPhase.done]
  | pushStopped hsc hwo =>
    obtain ⟨n, -, rfl⟩ := exists_stopChan_of_wokenOrGone (.inl hwo)
    constructor <;> simp_all [ScannerPhase.done]
  | pingStopped hpi hwo =>
    obtain ⟨n, -, rfl⟩ := exists_stopChan_of_wokenOrGone (.inl hwo)
    constructor <;> simp_all
  | scannerSend | handlerSend | mainSend =>
    obtain ⟨n, hn⟩ := sendStop_eq (s := s)
    rw [hn]
    constructor <;> simp_all [HandlerPhase.done, ScannerPhase.done]
  | _ => constructor <;> simp_all [HandlerPhase.done, ScannerPhase.done, GroupDone]

structure Delivering (cfg : Config) (lines : List String) (s : State) : Prop extends Working s where
  client : s.clientGone = false
  calm : (s.signals cfg).Calm
  payloads : s.payloads cfg = scannedPayloads cfg lines

theorem quiet_of_calm (hcl : s.clientGone = false) (hca : (s.signals cfg).Calm)
    (hst : s.scannerStage cfg = 0) : s.Quiet := by
  obtain ⟨hma, hha⟩ := hca.running hst
  have hs := hca.stop_le
  have hn : s.stopChan = 0 := by simp only [signals] at *; omega
  refine ⟨hn, ?_, hcl⟩
  cases hph : s.main <;> simp_all [signals, MainPhase.stage, MainPhase.ctxDone]

theorem delivering_step {ls : List String} (hgo : ∀ cs, cfg.dataHandler cs = .goOn)
    (h : Delivering cfg ls s) (hs : Step cfg s t) : Delivering cfg ls t := by
  have hwo := working_step hgo h.toWorking hs
  have hx : (t.signals cfg).scanner = 0 → (t.signals cfg).handler ≤ 1 := by
    intro hst
    show t.handler.stage ≤ 1
    cases hha : t.handler with
    | exited =>
      obtain ⟨hd, -⟩ := hwo.drained (by rw [hha]; rfl)
      cases hsc : t.scanner <;> simp_all [signals, scannerStage, ScannerPhase.done]
    | _ => simp [HandlerPhase.stage]
  refine ⟨hwo, (clientGone_step hs).trans h.client, h.calm.step (signals_step h.client hs) hx, ?_⟩
  rcases payloads_step hs with heq | ⟨hst, hlo, -⟩
  · exact heq.trans h.payloads
  · exact absurd (quiet_of_calm h.client h.calm hst) hlo

theorem delivering_initial : Delivering cfg ls (initial cfg ls tic) where
  drained h := by cases h
  locked h := by cases h
  written _ := rfl
  returned h := by cases h
  client := rfl
  calm := by
    have hno : (initial cfg ls tic).scanner ≠ .exited := ScannerPhase.noConfusion
    have hst : ((initial cfg ls tic).signals cfg).scanner = 0 ∨
      ((initial cfg ls tic).signals cfg).scanner = 1 := scannerStage_of_not_exited cfg hno
    have hha : ((initial cfg ls tic).signals cfg).handler = 0 := rfl
    exact ⟨Nat.zero_le _, fun _ => by omega, fun _ => ⟨rfl, Nat.zero_le _⟩⟩
  payloads := rfl

theorem handler_progress (h : Working s) (hd : s.handler.done = false)
    (hfe : s.dataChan ≠ [] ∨ s.scanner.done = true) : ∃ t, Step cfg s t := by
  cases hha : s.handler with
  | receiving =>
    cases hch : s.dataChan with
    | nil => exact ⟨_, .drained hha hch (hfe.resolve_left fun hne => hne hch)⟩
    | cons data rs => exact ⟨_, .receive hha hch⟩
  | locking data =>
    cases hlo : s.locked with
    | false => exact ⟨_, .lock hha hlo⟩
    | true =>
      -- the mutex is held by a ping, which is about to be written
      rcases h.locked hlo with ⟨other, hca⟩ | hwr
      · rw [hha] at hca
        cases hca
      · exact ⟨_, .write true hwr⟩
  | calling data => exact ⟨_, .call hha⟩
  | exiting | exited => rw [hha] at hd; cases hd

theorem stage_le (cfg : Config) (s : State) :
    s.scannerStage cfg ≤ 2 ∧ s.handler.stage ≤ 2 ∧ s.ping.stage ≤ 1 := by
  refine ⟨?_, ?_, ?_⟩
  · rcases Decidable.em (s.scanner = .exited) with hex | hno
    · simp [scannerStage, hex]
    · have := scannerStage_of_not_exited cfg hno
      omega
  · cases s.handler <;> simp [HandlerPhase.stage]
  · cases s.ping <;> simp [PingPhase.stage]

theorem signal_progress (hma : s.main = .waiting)
    (hle : s.stopChan ≤ s.scannerStage cfg / 2 + s.handler.stage / 2 + s.main.stage / 3)
    (ht : 1 ≤ s.handler.stage % 2 + s.scannerStage cfg % 2 + s.stopChan) : ∃ t, Step cfg s t := by
  obtain ⟨hsl, hhl, -⟩ := stage_le cfg s
  rw [hma] at hle
  have hro : s.CanSend := .inr (by simp only [MainPhase.stage] at hle; omega)
  by_cases hs : 0 < s.stopChan
  · exact ⟨_, .mainStopped hma hs⟩
  cases hha : s.handler with
  | exiting => exact ⟨_, .handlerSend hha hro⟩
  | _ =>
    rw [hha] at ht
    cases hsc : s.scanner with
    | scanning =>
      cases he : s.atEnd cfg with
      | true => exact ⟨_, .scanEnd hsc he⟩
      | false => simp [scannerStage, hsc, he, HandlerPhase.stage] at ht; omega
    | exiting => exact ⟨_, .scannerSend hsc hro⟩
    | _ => simp [scannerStage, hsc, HandlerPhase.stage] at ht; omega

theorem delivering_progress (h : Delivering cfg ls s)
    (hma : s.main ≠ .returned) : ∃ t, Step cfg s t := by
  cases hha : s.handler.done with
  | false =>
    cases hsc : s.scanner with
    | scanning =>
      cases he : s.atEnd cfg with
      | true => exact ⟨_, .scanEnd hsc he⟩
      | false =>
        have hst : s.scannerStage cfg = 0 := by simp [scannerStage, hsc, he]
        have hqu := quiet_of_calm h.client h.calm hst
        cases hls : s.lines with
        | nil => simp [atEnd, hls] at he
        | cons ln rs =>
          exact ⟨_, .scanLine hsc hls (by simpa [atEnd, hls] using he) hqu⟩
    | sending data =>
      by_cases hl : s.dataChan.length < 10
      · exact ⟨_, .push hsc hl⟩
      · refine handler_progress h.toWorking hha (.inl fun hni => hl ?_)
        rw [hni]
        exact Nat.zero_lt_succ 9
    | exiting | exited => exact handler_progress h.toWorking hha (.inr (by rw [hsc]; rfl))
  | true =>
    obtain ⟨hd, -⟩ := h.drained hha
    cases hph : s.main with
    | waiting =>
      have hse := h.calm.sent_le (congrArg MainPhase.stage hph)
      have hbo := stage_le cfg s
      have hhs : 1 ≤ s.handler.stage := by
        cases hh : s.handler <;> simp_all [HandlerPhase.done, HandlerPhase.stage]
      have hss : 1 ≤ s.scannerStage cfg := by
        cases hs : s.scanner <;> simp_all [ScannerPhase.done, scannerStage]
      simp only [signals] at hse
      exact signal_progress hph h.calm.stop_le (by omega)
    | leaving => exact ⟨_, .cancel hph⟩
    | canceled =>
      have hle : s.stopChan ≤ s.scannerStage cfg / 2 + s.handler.stage / 2 + s.main.stage / 3 :=
        h.calm.stop_le
      have hbo := stage_le cfg s
      rw [hph, MainPhase.stage] at hle
      exact ⟨_, .mainSend hph (.inr (by omega))⟩
    | cleaning =>
      by_cases hpi : s.ping = .exited
      · exact ⟨_, .finish hph ⟨hd, hha, hpi⟩⟩
      · exact ⟨_, .pingStopped hpi (.ctx (by rw [hph]; rfl))⟩
    | returned => exact absurd hph hma

/-- A data handler that never stops gets all that the scanner finds. -/
theorem scanned_handled (hgoes : ∀ calls, cfg.dataHandler calls = .goOn) (lines : List String)
    (ticks : Nat) :
    (∀ s, ReflTransGen (Step cfg) (initial cfg lines ticks) s →
      s.calls <+: scannedPayloads cfg lines ∧
        (s.main = .returned → s.calls = scannedPayloads cfg lines)) ∧
    Inevitably (Step cfg) (·.main = .returned) (initial cfg lines ticks) := by
  refine ⟨fun s hre => ?_, ?_⟩
  · have hi : Delivering cfg lines s := by
      induction hre with
      | refl => exact delivering_initial
      | tail _ hs ih => exact delivering_step hgoes ih hs
    have ha := hi.payloads
    unfold payloads at ha
    refine ⟨⟨_, by rw [← ha, List.append_assoc, List.append_assoc]⟩, fun hma => ?_⟩
    have hha := hi.returned hma
    obtain ⟨hsc, hch⟩ := hi.drained hha
    have hit : s.handler.item = [] := by
      cases hph : s.handler <;> simp_all [HandlerPhase.done, HandlerPhase.item]
    have hun : s.unsent cfg = [] := by
      cases hph : s.scanner <;> simp_all [ScannerPhase.done, unsent]
    rw [← ha, hit, hch, hun]
    simp
  · exact .of_measure (Delivering cfg lines) weight (delivering_step hgoes) weight_lt
      (fun s h hma => delivering_progress h hma) (delivering_initial)

/-- Without timeouts, and if the data handler never stops, the handler is called once for every
payload of the body, in order, and the function returns after the last call. -/
theorem payloads_handled_once (hgoes : ∀ calls, cfg.dataHandler calls = .goOn) {lines : List String}
    (hclean : CleanBody cfg lines) (ticks : Nat) :
    (∀ s, ReflTransGen (Step cfg) (initial cfg lines ticks) s →
      s.calls <+: expectedPayloads lines ∧
        (s.main = .returned → s.calls = expectedPayloads lines)) ∧
    Inevitably (Step cfg) (·.main = .returned) (initial cfg lines ticks) := by
  rw [← scannedPayloads_of_clean hclean]
  exact scanned_handled hgoes lines ticks

theorem reach_handled (hsc : s.scanner = .scanning) (hls : s.lines = ln :: rs)
    (hfi : byteLength ln < cfg.maxBuffer) (hqu : s.Quiet) (hpa : parse ln = .data data)
    (hha : s.handler = .receiving) (hch : s.dataChan = []) (hfr : s.locked = false) :
    ReflTransGen (Step cfg) s
      (handled { s with lines := rs, locked := true, handler := .calling data } data
        (cfg.dataHandler (s.calls ++ [data]))) := by
  have hli := Step.scanLine hsc hls hfi hqu
  rw [hpa] at hli
  obtain ⟨ls, scan, dc, handler, calls, ping, tic, wri, loc, sc, main, cg⟩ := s
  cases hsc
  cases hha
  cases hch
  cases hfr
  exact .head hli <| .head (.push rfl (Nat.zero_lt_succ 9)) <| .head (.receive rfl rfl) <|
    .head (.lock rfl rfl) <| .single (.call rfl)

end

def exampleConfig (reply : Reply) : Config :=
  { maxBuffer := 65536, pingEnabled := true, dataHandler := fun _ => reply }

theorem two_payloads_handled :
    let lines := ["data: a", "", "event: x", "data: b", "data: [DONE]", "data: c"]
    expectedPayloads lines = ["a", "b"] ∧
      Inevitably (Step (exampleConfig .goOn)) (·.main = .returned)
        (initial (exampleConfig .goOn) lines 7) :=
  ⟨by decide +kernel,
    (payloads_handled_once (fun _ => rfl) (by unfold CleanBody; decide +kernel) 7).2⟩

/-- For a line `[DONE]` without `data:` the data handler is called with a bracket. -/
theorem bracket_handled :
    expectedPayloads ["[DONE]"] = [] ∧ ∃ s, s.calls = ["]"] ∧
      ReflTransGen (Step (exampleConfig .goOn)) (initial (exampleConfig .goOn) ["[DONE]"] 0) s :=
  ⟨by decide +kernel, _, rfl, reach_handled rfl rfl (by decide +kernel) ⟨rfl, rfl, rfl⟩
    (by decide +kernel) rfl rfl rfl⟩

/-- Whatever the data handler does, and under every schedule, with timeouts and a client that
disconnects, the handler gets only payloads of the lines before the first terminator, just if the
first terminator that the scanner reads is a `data:` line. -/
theorem only_payloads_handled_iff (maxBuffer : Nat) (pingEnabled : Bool) (lines : List String) :
    (∀ (dataHandler : List String → Reply) (ticks : Nat) (s : State),
      let cfg : Config := ⟨maxBuffer, pingEnabled, dataHandler⟩
      ReflTransGen (fun s t => Step cfg s t ∨ External s t) (initial cfg lines ticks) s →
        s.calls <+: deliverable lines) ↔ TaggedEnd maxBuffer lines := by
  constructor
  · intro hall
    let cfg : Config := ⟨maxBuffer, pingEnabled, fun _ => .goOn⟩
    obtain ⟨hhandled, hreturns⟩ := @scanned_handled cfg (fun _ => rfl) lines 0
    obtain ⟨s, hreach, hreturned⟩ := hreturns.exists_reach
    have hcalls := (hhandled s hreach).2 hreturned
    have hprefix := hall (fun _ => .goOn) 0 s (hreach.lift id fun _ _ => .inl)
    rw [hcalls] at hprefix
    exact scannedPayloads_isPrefix_iff.mp hprefix
  · intro htagged dataHandler ticks s cfg hreach
    have hscanned : scannedPayloads cfg lines <+: deliverable lines :=
      scannedPayloads_isPrefix_iff.mpr htagged
    exact (calls_prefix_of_reach hreach).trans hscanned

/-- A line `[DONE]` without `data:` is cut like one with it, and not taken for a terminator. -/
theorem terminator_handled :
    ∃ s : State, ReflTransGen (fun s t => Step (exampleConfig .goOn) s t ∨ External s t)
        (initial (exampleConfig .goOn) ["[DONE]"] 0) s ∧ ¬s.calls <+: deliverable ["[DONE]"] := by
  have hreach : ReflTransGen (Step (exampleConfig .goOn))
      (initial (exampleConfig .goOn) ["[DONE]"] 0) _ :=
    reach_handled rfl rfl (by decide +kernel) ⟨rfl, rfl, rfl⟩
      (show parse "[DONE]" = .data "]" by decide +kernel) rfl rfl rfl
  refine ⟨_, hreach.lift id fun _ _ => .inl, ?_⟩
  show ¬["]"] <+: deliverable ["[DONE]"]
  decide +kernel

/-! ## A stop of the data handler -/

section

variable {cfg : Config} {s : State}

theorem calm_of_reach {ls : List String} {tic : Nat}
    (h : ReflTransGen (Step cfg) (initial cfg ls tic) s) :
    s.clientGone = false ∧ (s.handler.stage ≤ 1 → (s.signals cfg).Calm) := by
  induction h with
  | refl => exact ⟨rfl, fun _ => (delivering_initial).calm⟩
  | tail _ hs ih =>
    have hsi := signals_step ih.1 hs
    refine ⟨(clientGone_step hs).trans ih.1, fun hst => ?_⟩
    refine (ih.2 ?_).step hsi fun _ => hst
    -- a data handler that has ended stays so
    have hmo : ∀ {a b : Signals}, a.Step b → b.handler ≤ 1 → a.handler ≤ 1 := by
      intro a b hab hb
      cases hab <;> simp only at * <;> omega
    exact hmo hsi hst

theorem scanner_can_stop (hst : s.scannerStage cfg = 0) (hs : 0 < s.stopChan) :
    ∃ ls, Step cfg s { s with stopChan := s.stopChan - 1, lines := ls, scanner := .exiting } := by
  unfold scannerStage at hst
  cases hsc : s.scanner with
  | scanning =>
    rw [hsc] at hst
    cases hls : s.lines with
    | nil => simp [atEnd, hls] at hst
    | cons ln rs =>
      have hfi : byteLength ln < cfg.maxBuffer := by
        simpa [atEnd, hls] using hst
      exact ⟨rs, .scanStopped hsc hls hfi (.inl (.stop hs))⟩
  | sending data => exact ⟨s.lines, .pushStopped hsc (.stop hs)⟩
  | exiting | exited => rw [hsc] at hst; cases hst

theorem not_inevitably_of_listening (hcl : s.clientGone = false) (hha : s.handler = .exiting)
    (hma : s.main = .waiting) (hs : s.stopChan = 0) (hpi : s.ping ≠ .exited)
    (hst : s.scannerStage cfg = 0) : ¬Inevitably (Step cfg) (·.main ≠ .waiting) s := by
  intro h
  obtain ⟨ls, scan, dc, handler, calls, ping, tic, wri, loc, sc, main, gone⟩ := s
  cases hha
  cases hma
  cases hs
  have hwa : ¬MainPhase.waiting ≠ .waiting := not_not_intro rfl
  have h₁ : Inevitably (Step cfg) (·.main ≠ .waiting)
      ⟨ls, scan, dc, .exited, calls, ping, tic, wri, loc, 1, .waiting, gone⟩ :=
    h.next hwa (.handlerSend rfl (.inr (by simp)))
  obtain ⟨rest, hsc⟩ := @scanner_can_stop cfg
    ⟨ls, scan, dc, .exited, calls, ping, tic, wri, loc, 1, .waiting, gone⟩
    hst Nat.one_pos
  have h₃ : Inevitably (Step cfg) (·.main ≠ .waiting)
      ⟨rest, .exited, dc, .exited, calls, ping, tic, wri, loc, 1, .waiting, gone⟩ :=
    (h₁.next hwa hsc).next hwa (.scannerSend rfl (.inr (by simp)))
  have h₄ := h₃.next hwa (.pingStopped hpi (.stop Nat.one_pos))
  refine Inevitably.not_of_closed (fun u => u.clientGone = false ∧ (u.signals cfg).Lost) ?_ ?_
    ⟨hcl, ?_⟩ h₄
  · intro u v hu huv
    exact ⟨(clientGone_step huv).trans hu.1, hu.2.step (signals_step hu.1 huv)⟩
  · intro u hu hle
    have hz : u.main.stage = 0 := congrArg Signals.main hu.2
    cases hph : u.main <;> simp_all [MainPhase.stage]
  · rfl

/-- When the data handler asks to stop, its message is bound to reach the function exactly if the
ping has ended or the scanner does not listen any more. -/
theorem stop_reaches_main_iff {lines : List String} {ticks : Nat}
    (hreach : ReflTransGen (Step cfg) (initial cfg lines ticks) s)
    (hhandler : s.handler = .exiting) (hmain : s.main = .waiting) :
    Inevitably (Step cfg) (·.main ≠ .waiting) s ↔
      s.ping = .exited ∨ s.scannerStage cfg ≠ 0 := by
  obtain ⟨hcl, hca⟩ := calm_of_reach hreach
  have hst : s.handler.stage = 1 := congrArg HandlerPhase.stage hhandler
  have hz : s.main.stage = 0 := congrArg MainPhase.stage hmain
  obtain ⟨hle, hge, hr⟩ := hca hst.le
  simp only [signals] at hle hge hr
  constructor
  · intro h
    by_contra hneither
    rw [not_or, not_not] at hneither
    exact not_inevitably_of_listening hcl hhandler hmain (by omega) hneither.1 hneither.2 h
  intro h
  have hre : (s.signals cfg).Reaching := by
    obtain ⟨hsc, -, -⟩ := stage_le cfg s
    have hpn : s.ping.stage = 1 ∨ s.scannerStage cfg ≠ 0 :=
      h.imp_left fun hex => congrArg PingPhase.stage hex
    have hge' := hge hz
    refine ⟨hle, fun _ => ?_, fun _ hno => ?_⟩
    · simp only [signals]
      omega
    · simp only [signals] at hno ⊢
      omega
  refine .of_measure (fun u => u.clientGone = false ∧ (u.signals cfg).Reaching) weight
    (fun hu huv => ⟨(clientGone_step huv).trans hu.1, hu.2.step (signals_step hu.1 huv)⟩)
    weight_lt (fun u hu hwa => ?_) ⟨hcl, hre⟩
  have hwa := not_not.mp hwa
  have hen := hu.2.enough (congrArg MainPhase.stage hwa)
  obtain ⟨-, -, hpi⟩ := stage_le cfg u
  simp only [signals] at hen
  exact signal_progress hwa hu.2.stop_le (by omega)

end

/-- A stop at the last line: the scanner does not listen any more. -/
theorem stop_at_last_line_reaches_main :
    ∃ s, s.handler = .exiting ∧ Inevitably (Step (exampleConfig .stop)) (·.main ≠ .waiting) s :=
  ⟨_, rfl, (@stop_reaches_main_iff _ _ ["data: a"] 3 (reach_handled rfl rfl (by decide +kernel)
    ⟨rfl, rfl, rfl⟩ (show parse "data: a" = .data "a" by decide +kernel) rfl rfl rfl)
    rfl rfl).mpr (.inr Nat.one_ne_zero)⟩

/-- A stop with one line left: the function can be left waiting. -/
theorem stop_message_lost :
    ∃ s, ReflTransGen (Step (exampleConfig .stop))
        (initial (exampleConfig .stop) ["data: a", ""] 3) s ∧
      s.calls = ["a"] ∧ s.handler = .exiting ∧ s.main = .waiting ∧
      ¬Inevitably (Step (exampleConfig .stop)) (·.main ≠ .waiting) s :=
  ⟨_, reach_handled rfl rfl (by decide +kernel) ⟨rfl, rfl, rfl⟩ (by decide +kernel) rfl rfl rfl,
    rfl, rfl, rfl, not_inevitably_of_listening rfl rfl rfl rfl PingPhase.noConfusion rfl⟩

/-! ## Schedules -/

/-- The work that remains, with the disconnect of the client. -/
def State.work (s : State) : Nat :=
  s.weight + if s.clientGone then 0 else 1

theorem work_lt (h : Step cfg s t ∨ External s t) (hne : t ≠ s) : t.work < s.work := by
  unfold work
  rcases h with h | h
  · rw [clientGone_step h]
    exact Nat.add_lt_add_right (weight_lt h) _
  · cases h with
    | timeout hma | cleanupTimeout hma => simp [weight, hma, MainPhase.weight]
    | disconnect =>
      cases hcl : s.clientGone with
      | true => exact absurd (by rw [← hcl]) hne
      | false => simp [weight]

theorem length_le_work
    (h : (s :: path).IsChain fun s t => t ≠ s ∧ (Step cfg s t ∨ External s t)) :
    path.length ≤ s.work := by
  induction path generalizing s with
  | nil => exact Nat.zero_le _
  | cons t rest ih =>
    obtain ⟨⟨hne, hst⟩, hrs⟩ := List.isChain_cons_cons.mp h
    exact (ih hrs).trans_lt (work_lt hst hne)

/-- Under every schedule, with timeouts and a client that disconnects, the goroutines together take
at most six steps for a line and five for a ping, and ten more. -/
theorem schedule_bounded {cfg : Config} {lines : List String} {ticks : Nat} {path : List State}
    (hpath : (initial cfg lines ticks :: path).IsChain
      fun s t => t ≠ s ∧ (Step cfg s t ∨ External s t)) :
    path.length ≤ 6 * lines.length + 5 * ticks + 10 := by
  refine (length_le_work hpath).trans ?_
  have hpi : (initial cfg lines ticks).ping.weight ≤ 1 := by
    unfold initial
    dsimp only
    split <;> decide
  show 6 * lines.length + 2 + 0 + 2 + 5 * ticks + (initial cfg lines ticks).ping.weight + 5 ≤ _
  omega

theorem Step.ne (h : Step cfg s t) : t ≠ s := by
  rintro rfl
  exact lt_irrefl _ (weight_lt h)

/-- The one line of a body is read while a ping is written, the handler is called, and the client
disconnects. -/
theorem pinged_schedule_bounded :
    ∃ path : List State, ∃ last ∈ path.getLast?,
      (initial (exampleConfig .goOn) ["data: a"] 1 :: path).IsChain
        (fun s t => t ≠ s ∧ (Step (exampleConfig .goOn) s t ∨ External s t)) ∧
      last.calls = ["a"] ∧ last.ticks = 0 ∧ last.clientGone = true ∧ path.length ≤ 21 := by
  have hgoroutine : ∀ {s t : State}, Step (exampleConfig .goOn) s t →
      t ≠ s ∧ (Step (exampleConfig .goOn) s t ∨ External s t) := fun h => ⟨h.ne, .inl h⟩
  have hdisconnect : ∀ {s : State}, s.clientGone = false → { s with clientGone := true } ≠ s := by
    intro s hclient heq
    exact nomatch hclient.symm.trans (congrArg clientGone heq).symm
  have hline := @Step.scanLine (exampleConfig .goOn) (initial (exampleConfig .goOn) ["data: a"] 1)
    _ _ rfl rfl (by decide +kernel) ⟨rfl, rfl, rfl⟩
  rw [show parse "data: a" = .data "a" by decide +kernel] at hline
  have hpath : (initial (exampleConfig .goOn) ["data: a"] 1 :: [_, _, _, _, _, _, _, _, _]).IsChain
      (fun s t => t ≠ s ∧ (Step (exampleConfig .goOn) s t ∨ External s t)) :=
    .cons_cons (hgoroutine hline) <| .cons_cons (hgoroutine (.tick rfl rfl)) <|
    .cons_cons (hgoroutine (.push rfl (Nat.zero_lt_succ 9))) <|
    .cons_cons (hgoroutine (.writerLock rfl rfl)) <|
    .cons_cons (hgoroutine (.receive rfl rfl)) <| .cons_cons (hgoroutine (.write true rfl)) <|
    .cons_cons (hgoroutine (.lock rfl rfl)) <| .cons_cons (hgoroutine (.call rfl)) <|
    .cons_cons ⟨hdisconnect rfl, .inr .disconnect⟩ (.singleton _)
  exact ⟨_, _, rfl, hpath, rfl, rfl, rfl, schedule_bounded hpath⟩


end NewApi.Streams.Scanner
