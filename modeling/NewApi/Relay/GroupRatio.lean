import NewApi.Billing.TextQuota
import NewApi.Relay.Exhaustion

/-!
# The group ratio of a retried request

The price is fixed with the ratio of the first group. On every retry `HandleGroupRatio` is called
again, but the snapshot of a tiered model is not touched: its tokens are charged with the ratio of
the first group, its tool calls with that of the serving group. Only `/v1/responses/compact` fixes
the price again once it has been served.
-/

namespace NewApi.Relay

open Lib Channels Billing Option

/-- The two tables of group ratios. -/
structure GroupRatios where
  /-- `GetGroupGroupRatio` of the user's group and the group used. -/
  groupGroupRatio : String → String → Option ℚ := fun _ _ => none
  /-- `GetGroupRatio`. -/
  groupRatio : String → ℚ

variable {Request : Type}

section

variable {req : RelayRequest} {trials : Nat → Trial}

structure PricedAttempts (first : Selection) (attempts : List Selection) (usingGroup : String) :
    Prop where
  head : attempts.head? = some first
  last : ∃ last, attempts.getLast? = some last ∧ usingGroup = last.group

theorem PricedAttempts.concat (h : PricedAttempts first atts ug) :
    PricedAttempts first (atts ++ [sel]) sel.group := by
  refine ⟨?_, sel, List.getLast?_concat, rfl⟩
  rw [List.head?_append, h.head]
  rfl

end

/-! ## When one ratio is applied -/

/-- Ratio one for `vip`, three for the other groups; staff pay half everywhere. -/
def exampleRatios : GroupRatios where
  groupGroupRatio userGroup _ := if userGroup = "staff" then some (1 / 2) else none
  groupRatio group := if group = "vip" then 1 else 3

end NewApi.Relay
