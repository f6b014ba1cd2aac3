import Mathlib.Data.Finset.Card
import Mathlib.Data.Finset.SDiff
import Mathlib.Logic.Relation
import NewApi.Lib.Text

/-!
# Model mapping over the attempts of a request

Each attempt follows the redirects of its own channel from the model of the client
(`relay/helper/model_mapped.go`). In the modes of `responses/compact` and Gemini an attempt can
overwrite that model.
-/

namespace NewApi.Relay

open Relation

/-- A decoded `model_mapping`. -/
abbrev ModelMap := List (String × String)

/-! ## Chains of redirects -/

def Redirects (modelMap : ModelMap) (model next : String) : Prop :=
  modelMap.lookup model = some next ∧ next ≠ "" ∧ next ≠ model

def RunsIntoCycle (modelMap : ModelMap) (model : String) : Prop :=
  ∃ entry, ReflTransGen (Redirects modelMap) model entry ∧
    TransGen (Redirects modelMap) entry entry

section

variable {modelMap : ModelMap} {model mapped last : String}

theorem RunsIntoCycle.next (h : RunsIntoCycle modelMap model)
    (hnext : Redirects modelMap model mapped) : RunsIntoCycle modelMap mapped := by
  -- a model has only one redirect
  have hdet {a b c} (hb : Redirects modelMap a b) (hc : Redirects modelMap a c) : b = c :=
    Option.some.inj (hb.1.symm.trans hc.1)
  obtain ⟨entry, hreach, hcycle⟩ := h
  cases hreach.cases_head with
  | inl heq =>
    subst heq
    obtain ⟨second, hsecond, hback⟩ := TransGen.head'_iff.mp hcycle
    cases hdet hsecond hnext
    exact ⟨mapped, .refl, .tail' hback hnext⟩
  | inr hstep =>
    obtain ⟨second, hsecond, hrest⟩ := hstep
    cases hdet hsecond hnext
    exact ⟨entry, hrest, hcycle⟩

end

/-! ## The helper -/

inductive RelayMode
  | responsesCompact
  /-- Gemini with the thinking adapter, for a request without thinking. -/
  | geminiNoThinking (hasModelBillingConfig : String → Bool)
  | other

section

variable {modelMap : ModelMap} {start origin current : String} {visited : Finset String}

/-- What the loop has visited leads to the current model. -/
structure Walk (modelMap : ModelMap) (start current : String) (visited : Finset String) :
    Prop where
  reached : ReflTransGen (Redirects modelMap) start current
  leads : ∀ model ∈ visited, ReflTransGen (Redirects modelMap) model current
  mem : current ∈ visited

theorem Walk.next {mapped : String} (h : Walk modelMap start current visited)
    (hnext : Redirects modelMap current mapped) :
    Walk modelMap start mapped (insert mapped visited) where
  reached := h.reached.tail hnext
  leads := by
    intro model hmodel
    obtain rfl | hmodel := Finset.mem_insert.mp hmodel
    · exact .refl
    · exact (h.leads model hmodel).tail hnext
  mem := Finset.mem_insert_self mapped visited

end

end NewApi.Relay
