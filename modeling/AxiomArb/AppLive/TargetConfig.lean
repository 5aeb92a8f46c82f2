import AxiomArb.AppLive.DurableRecords

/-!
# The configuration of the targets

A configuration names the strategy to run in `[strategy_control]`.  Older ones name a
target revision in `negrisk.target_source`, or list the targets.  Rewriting puts a
strategy revision in and takes the older input out.

## Honest boundary

* A file is the part of it that is read here.  `ValidatedConfig` stands for the
  validation of the whole file, which is any function of this part.
* The only kind of source that a configuration has is `adopted`.
-/

namespace AxiomArb.AppLive

open Library

structure StrategyControl where
  operatorStrategyRevision : Option String
deriving DecidableEq, Repr

structure NegRiskTargetSource where
  operatorTargetRevision : Option String
deriving DecidableEq, Repr

structure NegRiskMemberToml where
  conditionId : String
  tokenId : String
  price : String
  quantity : String
deriving DecidableEq, Repr

structure NegRiskTargetToml where
  familyId : String
  members : List NegRiskMemberToml
deriving DecidableEq, Repr

/-- The parts of a file that are read or rewritten; `targets` is what is listed, if there
is a list. -/
structure ConfigFile where
  strategyControl : Option StrategyControl
  targetSource : Option NegRiskTargetSource
  targets : Option (List NegRiskTargetToml)
deriving DecidableEq, Repr

/-- The validation of a file. -/
abbrev ValidatedConfig := ConfigFile → Except String Unit

namespace ConfigFile

variable (config : ConfigFile)

/-- The revision of the control, or that of the target source. -/
def persistedRevision : Option String :=
  (config.strategyControl.bind StrategyControl.operatorStrategyRevision) <|>
    config.targetSource.bind NegRiskTargetSource.operatorTargetRevision

/-- A file that lists its targets has no revision configured. -/
def configuredRevision : Option String :=
  if config.targets.isSome then none else config.persistedRevision

def rewritten (operatorStrategyRevision : String) : ConfigFile :=
  { strategyControl := some { operatorStrategyRevision := some operatorStrategyRevision }
    targetSource := none
    targets := none }

@[simp] theorem persistedRevision_rewritten (revision : String) :
    (rewritten revision).persistedRevision = some revision := rfl

@[simp] theorem configuredRevision_rewritten (revision : String) :
    (rewritten revision).configuredRevision = some revision := rfl

end ConfigFile

def rewriteOperatorStrategyRevision (validated : ValidatedConfig)
    (operatorStrategyRevision : String) : Command String ConfigFile Unit := do
  let config ← get
  liftM (validated config)
  let rewritten := ConfigFile.rewritten operatorStrategyRevision
  liftM (validated rewritten)
  if rewritten.persistedRevision ≠ some operatorStrategyRevision then
    throw "config validation error: rewritten operator_strategy_revision did not persist"
  else
    set rewritten

section Rewrite

variable {validated : ValidatedConfig} {revision : String} {config config' : ConfigFile}

theorem exec_rewrite_of_valid (hbefore : validated config = .ok ())
    (hafter : validated (.rewritten revision) = .ok ()) :
    exec (rewriteOperatorStrategyRevision validated revision) config =
      (.ok ⟨⟩, .rewritten revision) := by
  simp [rewriteOperatorStrategyRevision, exec_bind, hbefore, hafter]

/-- A rewrite puts the revision in, or leaves the file as it is. -/
theorem rewrite_cases (validated : ValidatedConfig) (revision : String) (config : ConfigFile) :
    (validated config = .ok () ∧ validated (.rewritten revision) = .ok () ∧
      exec (rewriteOperatorStrategyRevision validated revision) config =
        (.ok ⟨⟩, .rewritten revision)) ∨
    ∃ error, exec (rewriteOperatorStrategyRevision validated revision) config =
      (.error error, config) := by
  simp only [rewriteOperatorStrategyRevision, exec_bind, exec_get, exec_lift]
  cases hbefore : validated config with
  | error error => exact .inr ⟨error, rfl⟩
  | ok _ =>
      cases hafter : validated (.rewritten revision) with
      | error error => exact .inr ⟨error, rfl⟩
      | ok _ => exact .inl ⟨rfl, rfl, by simp⟩

end Rewrite

end AxiomArb.AppLive
