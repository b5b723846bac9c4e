import BeanMapping.Method
import BeanMapping.Narrated
import BeanMapping.Plan

/-!
# Failure contracts

Every checked failure that a plan may raise has to be covered by the declared failures of the method
it is raised in: the failure itself or one of its ancestors is declared. Failures that are unchecked,
or have an unchecked ancestor, need no declaration. A failure without a description is checked.

* `walk` goes through a plan tree, each plan before those that it embeds, gathers the checked failures
  that it meets and stops at the first that is not covered; `verify` seals what it walks through.
-/

namespace BeanMapping

/-- A plan that was accepted, with the checked failures that it names. -/
structure VerifiedPlan where
  plan : MappingPlan
  checked : List TypeName

/-- Whether a failure is one of the checked failures of the plan. -/
def VerifiedPlan.isChecked (v : VerifiedPlan) (failure : TypeName) : Bool :=
  v.checked.contains failure

namespace Contract

/-- Whether a type is described as an unchecked failure. -/
def describedUnchecked (types : Registry) (t : TypeName) : Bool :=
  (types.describe t).any fun d => d.kind == .failure true

/-- Whether a failure need not be declared. -/
def isUnchecked (types : Registry) (failure : TypeName) : Bool :=
  (failure :: types.ancestors failure).any (describedUnchecked types)

/-- Whether declared failures cover a failure. -/
def isCovered (types : Registry) (failure : TypeName) (declared : List TypeName) : Bool :=
  declared.any fun d => types.isAssignable failure d

/-- A step through a plan tree. Its state holds the checked failures met so far, in no order. -/
abbrev Walk := Generation (List TypeName)

/-- The event of an unchecked failure. -/
def passEvent (invoked : String) (failure : TypeName) : Event :=
  ⟨.trace, "Unchecked failure passes through",
    [("failure", .text failure.text), ("invoked", .text invoked)]⟩

/-- Accounts for a failure that something called for a property of a plan may raise. -/
def account (types : Registry) (p : MappingPlan) (property invoked : String) (failure : TypeName) :
    Walk Unit :=
  if isUnchecked types failure then Narrated.tell [passEvent invoked failure]
  else do
    Narrated.modify (failure :: ·)
    if isCovered types failure p.declaredFailures then return ()
    else Narrated.reject (.of (.undeclaredFailure p.method property invoked failure))

/-- Accounts for all that is called for a property of a plan. -/
def accountProperty (types : Registry) (p : MappingPlan) (q : PlannedProperty MappingPlan) :
    Walk Unit :=
  q.invocations.forM fun i => i.failures.forM (account types p q.target.name i.invoked)

/-- Walks through a plan tree. -/
def walk (types : Registry) (p : MappingPlan) : Walk Unit := do
  Narrated.modify ((p.declaredFailures.filter fun f => !isUnchecked types f) ++ ·)
  p.properties.forM (accountProperty types p)
  p.nested.attach.forM fun q => walk types q.1
termination_by sizeOf p
decreasing_by exact MappingPlan.sizeOf_lt_of_mem_nested q.2

/-- Accepts a plan for a method, or rejects it. -/
def verify {σ : Type} (types : Registry) (method : String) (p : MappingPlan) :
    Generation σ VerifiedPlan := do
  let checked ← Narrated.within ("Mapping method: " ++ method)
    (Narrated.apart [] (walk types p))
  Narrated.tell [⟨.debug, "Failure contract verified",
    [("method", .text method), ("properties", .count p.properties.length)]⟩]
  return ⟨p, checked⟩

end Contract

end BeanMapping
