import NewApi.Billing.Price

/-!
# Billing expressions

What `pkg/billingexpr` makes of the price expression of a model: a cost that depends on token counts
and on the request, and the quota that it comes to.
-/

namespace NewApi.Billing

open Lib

/-- The token variables of an expression. -/
inductive ExprVar where
  | p
  | c
  | len
  | cr
  | cc
  | cc1h
  | img
  | imgO
  | ai
  | ao
  deriving DecidableEq, Repr

/-- `TokenParams`: the token counts that an expression is run with. -/
structure TokenParams where
  p : ℚ
  c : ℚ
  len : ℚ
  cr : ℚ
  cc : ℚ
  cc1h : ℚ
  img : ℚ
  imgO : ℚ
  ai : ℚ
  ao : ℚ
  deriving DecidableEq

def TokenParams.value (params : TokenParams) : ExprVar → ℚ
  | .p => params.p
  | .c => params.c
  | .len => params.len
  | .cr => params.cr
  | .cc => params.cc
  | .cc1h => params.cc1h
  | .img => params.img
  | .imgO => params.imgO
  | .ai => params.ai
  | .ao => params.ao

/-- The two counts give every variable of the set the same value. -/
def TokenParams.EqOn (vars : ExprVar → Bool) (first second : TokenParams) : Prop :=
  ∀ name, vars name → first.value name = second.value name

/-- A compiled expression: `RunExprByHashWithRequest`, `none` on an error, and `UsedVars`, the
identifiers in its syntax tree. The expression language itself is a library; all that is used of it
is that a program reads no other variables. -/
structure BillingExpr (Request : Type) where
  eval : TokenParams → Request → Option ℚ
  uses : ExprVar → Bool
  eval_congr : ∀ {first second : TokenParams} (request : Request),
    first.EqOn uses second → eval first request = eval second request

variable {Request : Type}

/-! ## Settlement with an expression -/

/-- The parts of `BillingSnapshot` that a settlement reads; the compiled expression in place of its
text and hash. -/
structure BillingSnapshot (Request : Type) where
  expr : BillingExpr Request
  groupRatio : ℚ
  quotaPerUnit : ℚ
  estimatedQuotaAfterGroup : Int

/-- The quotas of a `TieredResult`. -/
structure TieredResult where
  actualQuotaBeforeGroup : ℚ
  actualQuotaAfterGroup : Int
  deriving DecidableEq

def computeTieredQuotaWithRequest (snap : BillingSnapshot Request) (params : TokenParams)
    (request : Request) : Option TieredResult :=
  (snap.expr.eval params request).map fun cost =>
    let quotaBeforeGroup := cost / 1000000 * snap.quotaPerUnit
    { actualQuotaBeforeGroup := quotaBeforeGroup
      actualQuotaAfterGroup := quotaRound (quotaBeforeGroup * snap.groupRatio) }

end NewApi.Billing
