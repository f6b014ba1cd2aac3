import Mathlib.Data.List.Sigma
import NewApi.Channels.Selection

/-!
# The chances of the weighted draws

The chance of an entry of the list is the number of random values at which the walk stops there. The
walk over the cache gives every entry its smoothed weight; the walk over the rows stops already at
zero, so the first row has one value more and the last one less.
-/

namespace NewApi.Channels

open Lib Lib.Ranking Lib.Pick List Ability

theorem nodup_zipIdx {α : Type} (xs : List α) : xs.zipIdx.Nodup := (nodup_zipIdx_map_snd xs).of_map

theorem map_zipIdx {α : Type} (f : α → Nat) (xs : List α) :
    (xs.zipIdx.map fun ent => f ent.1) = xs.map f := by
  conv_rhs => rw [← zipIdx_map_fst 0 xs, map_map]
  rfl

/-! ## The draw from the cache -/

/-- The entry of `targetChannels` at which the loop stops for a value of `randomWeight`. -/
def drawnChannel (targetChannels : List Channel) (randomWeight : Nat) : Option (Channel × Nat) :=
  pickBelow (fun entry => smoothWeight targetChannels entry.1) targetChannels.zipIdx randomWeight

section

variable {targetChannels : List Channel}

theorem pickBelow_eq_drawnChannel :
    pickBelow (smoothWeight tcs) tcs rwt = (drawnChannel tcs rwt).map Prod.fst := by
  rw [drawnChannel, ← pickBelow_map, zipIdx_map_fst]

theorem sum_zipIdx_smoothWeight :
    (targetChannels.zipIdx.map fun ent => smoothWeight targetChannels ent.1).sum =
      totalWeight targetChannels := by
  rw [map_zipIdx, totalWeight_eq_sum]

theorem drawnChannel_isSome (h : rwt < totalWeight tcs) :
    ∃ ent, drawnChannel tcs rwt = some ent := by
  rw [← sum_zipIdx_smoothWeight] at h
  exact Option.isSome_iff_exists.mp (pickBelow_isSome h)

theorem count_drawnChannel (h : tcs[i]? = some ch) :
    Nat.count (fun rwt => drawnChannel tcs rwt = some (ch, i))
      (totalWeight tcs) = smoothWeight tcs ch := by
  rw [← sum_zipIdx_smoothWeight]
  exact count_pickBelow_of_nodup (nodup_zipIdx tcs) (mk_mem_zipIdx_iff_getElem?.mpr h)

variable {cache : ChannelCache} {group model : String} {retry : Nat} {channels : List Channel}
  {target : Int}

theorem getRandomSatisfiedChannel_of_many (hma : 2 ≤ (cache.candidates group model).length)
    (hfn : (cache.candidates group model).mapM cache.lookup = .ok channels)
    (hle : levelAt (channels.map Channel.getPriority) retry = some target) :
    getRandomSatisfiedChannel cache itn group model retry =
      chooseTarget itn group model channels target := by
  unfold getRandomSatisfiedChannel
  cases hid : cache.candidates group model with
  | nil =>
    rw [hid] at hma
    cases hma
  | cons first rs =>
    cases rs with
    | nil =>
      rw [hid] at hma
      cases hma with
      | step h => cases h
    | cons second rs =>
      rw [hid] at hfn
      simp only [hfn, hle]

/-- A draw among two candidates or more is exact. The total weight is positive, also where all
weights are zero, so there is a value to draw. Every value below it gives an entry among the
channels of the level, whose channel is returned, and an entry is given by as many values as the
adjusted weight of its channel says. -/
theorem cached_draw_exact (hmany : 2 ≤ (cache.candidates group model).length)
    (hfound : (cache.candidates group model).mapM cache.lookup = .ok channels)
    (hlevel : levelAt (channels.map Channel.getPriority) retry = some target) :
    let targetChannels := channels.filter (·.getPriority = target)
    0 < totalWeight targetChannels ∧
    (∀ randomWeight < totalWeight targetChannels, ∃ entry,
      drawnChannel targetChannels randomWeight = some entry ∧
        ∀ intn : Intn, intn.value (totalWeight targetChannels) = randomWeight →
          getRandomSatisfiedChannel cache intn group model retry = .ok (some entry.1)) ∧
    ∀ i channel, targetChannels[i]? = some channel →
      Nat.count (fun randomWeight => drawnChannel targetChannels randomWeight = some (channel, i))
        (totalWeight targetChannels) =
          channel.getWeight * (smoothing targetChannels).1 + (smoothing targetChannels).2 := by
  intro targetChannels
  have hne : targetChannels ≠ [] := targetChannels_ne_nil hlevel
  refine ⟨totalWeight_pos hne, fun randomWeight hlt => ?_,
    fun i channel hch => count_drawnChannel hch⟩
  obtain ⟨entry, hen⟩ := drawnChannel_isSome hlt
  refine ⟨entry, hen, fun intn hva => ?_⟩
  have hpi : pickBelow (smoothWeight targetChannels) targetChannels randomWeight =
      some entry.1 := by
    rw [pickBelow_eq_drawnChannel, hen, Option.map_some]
  rw [getRandomSatisfiedChannel_of_many hmany hfound hlevel]
  unfold chooseTarget
  rw [if_neg hne, hva, hpi]

end

def lightChannel (id : Int) (weight : Nat) : Channel where
  id := id
  weight := some weight
  models := "gpt-4o"
  group := "default"

def lightCache : ChannelCache where
  group2model2channels := fun _ => some fun _ => [1, 2]
  channelsIDM := [lightChannel 1 1, lightChannel 2 3]

/-- The weights are smoothed to 100 and 300. -/
theorem light_channel_drawn :
    0 < totalWeight lightCache.channelsIDM ∧ totalWeight lightCache.channelsIDM = 400 ∧
      Nat.count (fun randomWeight =>
        drawnChannel lightCache.channelsIDM randomWeight = some (lightChannel 2 3, 1)) 400 =
          300 := by
  have hfo : (lightCache.candidates "default" "gpt-4o").mapM lightCache.lookup =
      .ok lightCache.channelsIDM := rfl
  have hle : levelAt (lightCache.channelsIDM.map Channel.getPriority) 0 = some 0 := by
    decide +kernel
  have hta : lightCache.channelsIDM.filter (·.getPriority = 0) = lightCache.channelsIDM := by
    decide
  obtain ⟨hpos, -, hdraw⟩ := cached_draw_exact (by decide) hfo hle
  rw [hta] at hpos
  exact ⟨hpos, by decide, hdraw 1 (lightChannel 2 3) rfl⟩

/-! ## The draw from the tables -/

/-- The entry of `abilities` at which the loop stops for a value of `weight`. -/
def drawnRow (abilities : List Ability) (weight : Nat) : Option (Ability × Nat) :=
  pickUpTo (fun entry => entry.1.drawWeight) abilities.zipIdx weight

section

variable {abilities : List Ability}

theorem pickUpTo_eq_drawnRow :
    pickUpTo drawWeight abilities wt = (drawnRow abilities wt).map Prod.fst := by
  rw [drawnRow, ← pickUpTo_map, zipIdx_map_fst]

theorem count_drawnRow (h : abilities[i]? = some row) :
    Nat.count (fun wt => drawnRow abilities wt = some (row, i))
        (abilities.map drawWeight).sum + (if i + 1 = abilities.length then 1 else 0) =
      row.weight + 10 + if i = 0 then 1 else 0 := by
  have hm : (row, i) ∈ abilities.zipIdx := mk_mem_zipIdx_iff_getElem?.mpr h
  have hlt : i < abilities.length := (List.getElem?_eq_some_iff.mp h).1
  obtain ⟨first, hfi⟩ : ∃ first, abilities[0]? = some first := ⟨_, getElem?_eq_getElem (by omega)⟩
  obtain ⟨lst, hl⟩ : ∃ lst, abilities[abilities.length - 1]? = some lst :=
    ⟨_, getElem?_eq_getElem (by omega)⟩
  have hha : abilities.zipIdx.head? = some (first, 0) := by
    rw [head?_zipIdx, head?_eq_getElem?, hfi]
    rfl
  have hla : abilities.zipIdx.getLast? = some (lst, abilities.length - 1) := by
    rw [getLast?_zipIdx, getLast?_eq_getElem?, hl, Option.map_some, Nat.zero_add]
  have hp : 0 < lst.drawWeight := Nat.succ_pos _
  have hcn := @count_pickUpTo_of_nodup _ (fun ent : Ability × Nat => ent.1.drawWeight) _ _
    _ _ _ (nodup_zipIdx abilities) hm hha hla hp
  rw [map_zipIdx] at hcn
  -- an entry is the first or the last one just if its position is
  have hhe : (first, 0) = (row, i) ↔ i = 0 := by
    rw [Prod.mk.injEq]
    refine ⟨fun heq => heq.2.symm, ?_⟩
    rintro rfl
    exact ⟨Option.some.inj (hfi.symm.trans h), rfl⟩
  have he : (lst, abilities.length - 1) = (row, i) ↔ i + 1 = abilities.length := by
    rw [Prod.mk.injEq]
    refine ⟨fun heq => by omega, fun heq => ?_⟩
    obtain rfl : abilities.length - 1 = i := by omega
    exact ⟨Option.some.inj (hl.symm.trans h), rfl⟩
  simp only [hhe, he] at hcn
  exact hcn

theorem drawnRow_isSome (h : wt < (abilities.map drawWeight).sum) :
    ∃ ent, drawnRow abilities wt = some ent := by
  rw [← map_zipIdx] at h
  exact Option.isSome_iff_exists.mp (pickUpTo_isSome h)

theorem drawnRow_exact_iff (hne : abilities ≠ []) :
    (∀ i row, abilities[i]? = some row →
      Nat.count (fun wt => drawnRow abilities wt = some (row, i))
        (abilities.map drawWeight).sum = row.weight + 10) ↔ abilities.length = 1 := by
  have hp : 0 < abilities.length := length_pos_iff.mpr hne
  constructor
  · intro hex
    have hfi : abilities[0]? = some abilities[0] := getElem?_eq_getElem hp
    have hcn := count_drawnRow hfi
    rw [hex 0 _ hfi, if_pos rfl] at hcn
    split at hcn <;> omega
  intro hsi i row hr
  have hlt : i < abilities.length := (List.getElem?_eq_some_iff.mp hr).1
  have hcn := count_drawnRow hr
  rw [if_pos (by omega), if_pos (by omega)] at hcn
  omega

variable {db : ChannelTables} {order : DescSort Ability} {group model : String} {retry : Nat}
  {rows : List Ability}

/-- A draw from the rows of a query always stops at a row, whose channel is then read. It is exact
just if the query has returned a single row: otherwise the first row has a value too many and the
last one a value too few. -/
theorem stored_draw_exact_iff (hrows : db.getChannelQuery group model retry = .ok rows)
    (hne : rows ≠ []) :
    let abilities := order.run (fun row => row.weight) rows
    let weightSum := (abilities.map Ability.drawWeight).sum
    (∀ weight < weightSum, ∃ entry, drawnRow abilities weight = some entry ∧
      ∀ intn : Intn, intn.value weightSum = weight →
        getChannel db order intn group model retry =
          (Table.get? Channel.id db.channels entry.1.channelId).elim (.error "record not found")
            fun channel => .ok (some channel)) ∧
    ((∀ i row, abilities[i]? = some row →
        Nat.count (fun weight => drawnRow abilities weight = some (row, i)) weightSum =
          row.weight + 10) ↔ rows.length = 1) := by
  intro abilities weightSum
  have hpe : abilities.Perm rows := order.perm _ rows
  refine ⟨fun weight hlt => ?_, ?_⟩
  · obtain ⟨entry, hen⟩ := drawnRow_isSome hlt
    refine ⟨entry, hen, fun intn hva => ?_⟩
    have hpi : pickUpTo drawWeight abilities (intn.value weightSum) = some entry.1 := by
      rw [hva, pickUpTo_eq_drawnRow, hen, Option.map_some]
    unfold getChannel
    simp only [hrows, hne, if_false]
    rw [hpi]
    cases Table.get? Channel.id db.channels entry.1.channelId with
    | none | some => rfl
  · have hso : abilities ≠ [] := fun hni => hne (nil_perm.mp (hni ▸ hpe))
    rw [drawnRow_exact_iff hso, hpe.length_eq]

end

/-- A single row has all values. -/
theorem single_row_drawn :
    Nat.count (fun weight => drawnRow [(lightChannel 1 0).ability "default" "gpt-4o"] weight =
      some ((lightChannel 1 0).ability "default" "gpt-4o", 0)) 10 = 10 := by
  have hro : (ChannelTables.ofChannels [lightChannel 1 0] (by decide)).getChannelQuery "default"
      "gpt-4o" 0 = .ok [(lightChannel 1 0).ability "default" "gpt-4o"] := by
    rfl
  exact (@stored_draw_exact_iff _ (DescSort.insertion Ability) _ _ _ _ hro
    (cons_ne_nil _ _)).2.mpr rfl 0 _ rfl

def equalTables : ChannelTables :=
  .ofChannels [lightChannel 1 0, lightChannel 2 0] (by decide)

/-- Of the values below 20, the first row has 11 and the second has 9. -/
theorem equal_rows_drawn_unequally :
    ((equalTables.enabledRows "default" "gpt-4o").map Ability.drawWeight).sum = 20 ∧
      [1, 2].map (fun id => Nat.count (fun weight =>
        (getChannel equalTables (DescSort.insertion Ability) (.const weight) "default" "gpt-4o"
          0).toOption.join.map Channel.id = some id) 20) = [11, 9] := by
  decide +kernel

end NewApi.Channels
