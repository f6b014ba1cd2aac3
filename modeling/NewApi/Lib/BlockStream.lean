import NewApi.Lib.Transition

/-!
# Streams of numbered blocks

A stream sends blocks of some kind in pieces: an event starts the block of an index, carries a piece
for it, or stops it. `WellFormed` says what a client may rely on, and `wellFormed_iff` that
`machine` goes through with all blocks closed exactly on the well-formed streams.
-/

namespace NewApi.Lib.BlockStream

open List

universe u

variable {Kind : Type u}

/-- An event of a stream of blocks. -/
inductive Event (Kind : Type u) where
  | start (index : Int) (kind : Kind)
  | piece (index : Int) (kind : Kind)
  | stop (index : Int)
  deriving DecidableEq

def Event.isStart : Event Kind → Bool
  | .start .. => true
  | _ => false

/-- What the events before it say about an event: a block is started with the next index, a piece
goes to a block of its kind that is not stopped, only such a block is stopped. -/
def Allowed (before : List (Event Kind)) : Event Kind → Prop
  | .start index _ => index = before.countP (·.isStart)
  | .piece index kind => .start index kind ∈ before ∧ .stop index ∉ before
  | .stop index => (∃ kind, .start index kind ∈ before) ∧ .stop index ∉ before

/-- A stream of blocks that a client can read. -/
structure WellFormed (events : List (Event Kind)) : Prop where
  /-- Every event is allowed where it stands. -/
  allowed : ∀ before event after, events = before ++ event :: after → Allowed before event
  /-- Every block is stopped. -/
  stopped : ∀ index kind, .start index kind ∈ events → .stop index ∈ events

/-- The blocks that have been started, each with its kind and whether it is open. -/
abbrev Blocks (Kind : Type u) := List (Kind × Bool)

def blockAt (blocks : Blocks Kind) (index : Int) : Option (Kind × Bool) :=
  if index < 0 then none else blocks[index.toNat]?

def Closed (blocks : Blocks Kind) : Prop :=
  ∀ block ∈ blocks, block.2 = false
  deriving Decidable

theorem closed_append {first second : Blocks Kind} :
    Closed (first ++ second) ↔ Closed first ∧ Closed second :=
  forall_mem_append

section

variable [DecidableEq Kind]

def step (blocks : Blocks Kind) : Event Kind → Option (Blocks Kind)
  | .start index kind => if index = blocks.length then some (blocks ++ [(kind, true)]) else none
  | .piece index kind => if blockAt blocks index = some (kind, true) then some blocks else none
  | .stop index =>
    match blockAt blocks index with
    | some (kind, true) => some (blocks.set index.toNat (kind, false))
    | _ => none

/-- The machine that reads a stream. -/
def machine : System (Blocks Kind) (Event Kind) where
  step := step

end

section

theorem blockAt_append_single :
    blockAt (bs ++ [blk]) idx =
      if idx = bs.length then some blk else blockAt bs idx := by
  unfold blockAt
  split
  next hng =>
    rw [if_neg]
    omega
  next hp =>
    rw [getElem?_append]
    split
    next hlt =>
      rw [if_neg]
      omega
    next hge =>
      split
      next heq =>
        have hz : idx.toNat - bs.length = 0 := by omega
        rw [hz]
        rfl
      next hne =>
        rw [getElem?_eq_none (by simp; omega), getElem?_eq_none (by omega)]

theorem blockAt_set {bs : Blocks Kind} {idx : Int} {blk : Kind × Bool}
    (h : blockAt bs idx = some blk) :
    blockAt (bs.set idx.toNat new) other =
      if other = idx then some new else blockAt bs other := by
  unfold blockAt at h ⊢
  split at h
  · cases h
  next hi =>
    have hl := (List.getElem?_eq_some_iff.mp h).1
    split
    next hne =>
      rw [if_neg]
      omega
    next hp =>
      rw [getElem?_set]
      by_cases heq : other = idx
      · rw [if_pos (by omega), if_pos hl, if_pos heq]
      · rw [if_neg (by omega), if_neg heq]

theorem blockAt_length : blockAt bs bs.length = none := by
  rw [blockAt, if_neg (by omega), getElem?_eq_none (by omega)]

theorem mem_of_blockAt {bs : Blocks Kind} {idx : Int} {blk : Kind × Bool}
    (h : blockAt bs idx = some blk) : blk ∈ bs := by
  unfold blockAt at h
  split at h
  · cases h
  · exact mem_of_getElem? h

theorem exists_blockAt {bs : Blocks Kind} {blk : Kind × Bool} (h : blk ∈ bs) :
    ∃ idx, blockAt bs idx = some blk := by
  obtain ⟨idx, hi⟩ := mem_iff_getElem?.mp h
  refine ⟨idx, ?_⟩
  rw [blockAt, if_neg (by omega), Int.toNat_natCast, hi]

theorem blockAt_append_cons : blockAt (pre ++ blk :: aft) pre.length = some blk := by
  rw [blockAt, if_neg (by omega)]
  simp

end

section

variable [DecidableEq Kind]

theorem step_start (bs : Blocks Kind) : step bs (.start bs.length kd) = some (bs ++ [(kd, true)]) :=
  if_pos rfl

theorem step_piece_append (pre : Blocks Kind) :
    step (pre ++ (kd, true) :: aft) (.piece pre.length kd) = some (pre ++ (kd, true) :: aft) :=
  if_pos (blockAt_append_cons ..)

theorem step_stop_append (pre : Blocks Kind) :
    step (pre ++ (kd, true) :: aft) (.stop pre.length) = some (pre ++ (kd, false) :: aft) := by
  simp only [step, blockAt_append_cons]
  simp

theorem step_stop_length (bs : Blocks Kind) : step bs (.stop bs.length) = none := by
  simp only [step, blockAt_length]

end

/-- The machine has read these events. -/
structure Reads (events : List (Event Kind)) (blocks : Blocks Kind) : Prop where
  count : blocks.length = events.countP (·.isStart)
  started : ∀ index kind, .start index kind ∈ events ↔
    ∃ isOpen, blockAt blocks index = some (kind, isOpen)
  stopped : ∀ index, .stop index ∈ events ↔ ∃ kind, blockAt blocks index = some (kind, false)

namespace Reads

variable {evs : List (Event Kind)} {bs next : Blocks Kind} {ev : Event Kind}

theorem nil : Reads ([] : List (Event Kind)) [] where
  count := rfl
  started := by simp [blockAt]
  stopped := by simp [blockAt]

theorem open_iff (h : Reads evs bs) :
    blockAt bs idx = some (kd, true) ↔ .start idx kd ∈ evs ∧ .stop idx ∉ evs := by
  rw [h.started, h.stopped]
  constructor
  · intro ho
    exact ⟨⟨true, ho⟩, fun ⟨other, hcl⟩ => by simp [ho] at hcl⟩
  rintro ⟨⟨io, hbl⟩, hs⟩
  cases io with
  | true => exact hbl
  | false => exact absurd ⟨kd, hbl⟩ hs

theorem closed_iff (h : Reads evs bs) :
    Closed bs ↔ ∀ idx kd, .start idx kd ∈ evs → .stop idx ∈ evs := by
  constructor
  · intro hcl idx kd hs0
    obtain ⟨io, hbl⟩ := (h.started idx kd).mp hs0
    have hfa : io = false := hcl _ (mem_of_blockAt hbl)
    exact (h.stopped idx).mpr ⟨kd, by rw [hbl, hfa]⟩
  intro hst blk hm
  obtain ⟨idx, hbl⟩ := exists_blockAt hm
  obtain ⟨kd, hki⟩ := (h.stopped idx).mp (hst idx blk.1 ((h.started idx blk.1).mpr ⟨blk.2, hbl⟩))
  rw [hbl] at hki
  cases hki
  rfl

variable [DecidableEq Kind]

section

variable (h : Reads evs bs)
include h

theorem step_isSome_iff : (step bs ev).isSome ↔ Allowed evs ev := by
  cases ev with
  | start idx kd =>
    rw [step, Allowed, ← h.count]
    split
    next hi => simp [hi]
    next hi => simp [hi]
  | piece idx kd =>
    rw [step, Allowed, ← h.open_iff]
    split
    next ho => simp [ho]
    next ho => simp [ho]
  | stop idx =>
    have ho : (∃ kd, Event.start idx kd ∈ evs) ∧ Event.stop idx ∉ evs ↔
        ∃ kd, blockAt bs idx = some (kd, true) := by
      simp only [h.open_iff, exists_and_right]
    rw [Allowed, ho, step]
    split
    next kd hbl => simp [hbl]
    next hbl =>
      simp only [Option.isSome_none, Bool.false_eq_true, false_iff]
      rintro ⟨kd, hki⟩
      exact hbl kd hki

theorem step (hs : BlockStream.step bs ev = some next) : Reads (evs ++ [ev]) next := by
  cases ev with
  | start idx kd =>
    obtain ⟨rfl, hx⟩ := Option.ite_none_right_eq_some.mp hs
    cases hx
    -- the index of the new block has not been used
    have hn : ∀ other, .start (bs.length : Int) other ∉ evs := by
      intro other hm
      obtain ⟨io, hbl⟩ := (h.started _ other).mp hm
      rw [blockAt_length] at hbl
      cases hbl
    have hne : .stop (bs.length : Int) ∉ evs := by
      intro hm
      obtain ⟨other, hbl⟩ := (h.stopped _).mp hm
      rw [blockAt_length] at hbl
      cases hbl
    refine ⟨by simp [h.count, Event.isStart], fun idx other => ?_, fun idx => ?_⟩
    · rw [blockAt_append_single]
      by_cases hi : idx = bs.length
      · subst hi
        simp [hn other, eq_comm]
      · simp [hi, h.started]
    rw [blockAt_append_single]
    by_cases hi : idx = bs.length
    · subst hi
      simp [hne]
    · simp [hi, h.stopped]
  | piece idx kd =>
    obtain ⟨ho, hx⟩ := Option.ite_none_right_eq_some.mp hs
    cases hx
    exact ⟨by simp [h.count, Event.isStart], by simp [h.started], by simp [h.stopped]⟩
  | stop idx =>
    rw [BlockStream.step] at hs
    split at hs
    next kd hbl =>
      cases hs
      refine ⟨by simp [h.count, Event.isStart], fun other kd' => ?_, fun other => ?_⟩
      · rw [blockAt_set hbl]
        by_cases hot : other = idx
        · subst hot
          simp [h.started, hbl]
        · simp [hot, h.started]
      rw [blockAt_set hbl]
      by_cases hot : other = idx
      · simp [hot]
      · simp [hot, h.stopped]
    next => cases hs

theorem run {ltr : List (Event Kind)} {fin : Blocks Kind}
    (hr : machine.run bs ltr = some fin) : Reads (evs ++ ltr) fin := by
  induction ltr generalizing evs bs with
  | nil =>
    cases hr
    rwa [append_nil]
  | cons ev rs ih =>
    obtain ⟨mid, hs, hrs⟩ := machine.run_cons_eq_some.mp hr
    have hre := ih (h.step hs) hrs
    rwa [append_assoc] at hre

theorem run_isSome_iff (ltr : List (Event Kind)) :
    (machine.run bs ltr).isSome ↔ ∀ pre ev aft, ltr = pre ++ ev :: aft →
      Allowed (evs ++ pre) ev := by
  induction ltr generalizing evs bs with
  | nil => simp
  | cons ev rs ih =>
    rw [System.run_cons]
    constructor
    · intro hr pre other aft hsp
      cases hs : machine.step bs ev with
      | none => simp [hs] at hr
      | some mid =>
        rw [hs] at hr
        cases pre with
        | nil =>
          cases hsp
          rw [append_nil]
          exact h.step_isSome_iff.mp (Option.isSome_of_eq_some hs)
        | cons first pre =>
          cases hsp
          have ha := (ih (h.step hs)).mp hr pre other aft rfl
          rwa [append_assoc] at ha
    · intro ha
      have hfi := h.step_isSome_iff.mpr (by simpa using ha [] ev rs rfl)
      obtain ⟨mid, hs⟩ := Option.isSome_iff_exists.mp hfi
      rw [show machine.step bs ev = some mid from hs, Option.bind_some, ih (h.step hs)]
      intro pre other aft hsp
      have hlt := ha (ev :: pre) other aft (by rw [hsp]; rfl)
      rwa [append_assoc]

end

end Reads

theorem wellFormed_iff [DecidableEq Kind] {evs : List (Event Kind)} :
    WellFormed evs ↔ ∃ bs, machine.run [] evs = some bs ∧ Closed bs := by
  constructor
  · intro hwe
    have hr := (Reads.nil.run_isSome_iff evs).mpr (by simpa using hwe.allowed)
    obtain ⟨bs, hbs⟩ := Option.isSome_iff_exists.mp hr
    exact ⟨bs, hbs, (Reads.nil.run hbs).closed_iff.mpr hwe.stopped⟩
  · rintro ⟨bs, hbs, hcl⟩
    have ha := (Reads.nil.run_isSome_iff evs).mp (by rw [hbs]; rfl)
    exact ⟨by simpa using ha, (Reads.nil.run hbs).closed_iff.mp hcl⟩

end NewApi.Lib.BlockStream
