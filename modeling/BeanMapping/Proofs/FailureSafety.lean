import BeanMapping.Proofs.Linking
import BeanMapping.Proofs.Running

/-!
# Raised failures are declared

A run of a linked mapping raises no checked failure that its method does not declare, if the converters
keep to what the rules declare for them.

An error is `Allowed` by declared failures unless it is a raised failure that these do not cover. What a
conversion allows, the plan that it belongs to allows: the plan honours its declarations, and ancestry
is transitive (`Allowed.of_conversion`). A reference allows what the plan of the method allows that it
is bound to. So every error of a run is allowed by the plan of its method, by induction on the depth of
the source.

Result:
* **`raised_is_declared`**: what a mapping raises is unchecked or covered by its declared failures.
-/

namespace BeanMapping

namespace Contract

variable {types : Registry} {declared : List TypeName} {e : ExecutionError}

/-- Declared failures allow an error: if it is a raised failure, that is unchecked or covered. -/
def Allowed (types : Registry) (declared : List TypeName) (e : ExecutionError) : Prop :=
  ∀ f, e = .raised f → Unchecked types f.failureType ∨ Covered types f.failureType declared

theorem ofShape_allowed : CompiledMapping.OfShape (Allowed types declared) where
  notAnObject _ _ _ h := by cases h
  notACollection _ _ h := by cases h

/-- **What a conversion allows, the plan allows that it belongs to.** -/
theorem Allowed.of_conversion {p : MappingPlan} {x : PlannedProperty MappingPlan}
    {c : Conversion MappingPlan} (honours : Honours types p) (hx : x ∈ p.properties)
    (hc : x.conversion = some c) (h : Allowed types c.declaredFailures e) :
    Allowed types p.declaredFailures e := by
  intro f hf
  rcases h f hf with unchecked | covered
  · exact Or.inl unchecked
  · obtain ⟨d, hd, leads⟩ := covered_iff_leads.mp covered
    have call : PlannedProperty.conversionCall c ∈ x.invocations := by
      unfold PlannedProperty.invocations
      simp [hc]
    rcases honours x hx _ call d hd with unchecked | covered
    · exact Or.inl (unchecked.of_leads leads)
    · exact Or.inr (covered.of_leads leads)

end Contract

namespace CompiledMapping

open Contract

/-- **The converters keep to the rules**: a failure that a converter raises is unchecked, or covered by
the failures of every conversion that calls the converter. -/
def KeepsToRules (types : Registry) (l : CompiledMapping) : Prop :=
  ∀ path convert, l.converters.find? path = some convert →
    ∀ v target f, convert v target = .error f →
      Unchecked types f.failureType ∨
        ∀ p ∈ l.plans.items, ∀ x ∈ p.properties, ∀ told failures,
          x.conversion = some (.converter path told failures) → Covered types f.failureType failures

/-- The failures of a name: every plan that it is bound to declares them. -/
def Declares (l : CompiledMapping) (method : String) (declared : List TypeName) : Prop :=
  ∀ q, l.plans.find? method = some q → q.declaredFailures = declared

variable {types : Registry} {l : CompiledMapping} {p : MappingPlan}
  {x : PlannedProperty MappingPlan}

/-- The errors of a converter are allowed by the conversion that calls it. -/
theorem KeepsToRules.callConverter (keeps : l.KeepsToRules types) (hp : p ∈ l.plans.items)
    (hx : x ∈ p.properties) {path : String} {told : Option TypeName} {failures : List TypeName}
    (hc : x.conversion = some (.converter path told failures)) (v : Json) :
    (l.callConverter path told v : Running Members Json).FailsOnly (Allowed types failures) := by
  unfold CompiledMapping.callConverter
  cases found : l.converters.find? path with
  | none => exact Narrated.failsOnly_reject fun f h => by cases h
  | some convert =>
    dsimp only
    cases raised : convert v told with
    | ok w => exact Narrated.failsOnly_pure w
    | error failure =>
      refine Narrated.failsOnly_reject fun f h => ?_
      obtain rfl := ExecutionError.raised.inj h
      rcases keeps path convert found v told failure raised with unchecked | covered
      · exact Or.inl unchecked
      · exact Or.inr (covered p hp x hx told failures hc)

end CompiledMapping

namespace Family

open Contract

variable {g : Generator} {family : Family} {m : MappingMethod} {l : CompiledMapping}

/-- The name of a reference has the failures of the reference. -/
theorem declares_reference (compiled : family.Compiled g) (agrees : family.Agrees)
    (linked : family.Linked m l) {method : String} {p : MappingPlan}
    (found : l.plans.find? method = some p) {n : NestedMapping MappingPlan}
    (hn : n ∈ p.references) : l.Declares n.method n.declaredFailures := by
  intro q target
  obtain ⟨a, ha, found⟩ := linked.exists_member found
  obtain ⟨b, hb, target⟩ := linked.exists_member target
  exact reference_failures compiled agrees ha hb found hn target

/-- The errors of a conversion are allowed by the plan that it belongs to, if those of the runs below
are allowed by the plans of their methods. -/
theorem converts_allowed (compiled : family.Compiled g) (agrees : family.Agrees)
    (linked : family.Linked m l) (keeps : l.KeepsToRules g.types) {depth : Nat}
    {below : RunsBelow depth}
    (runs : ∀ method declared, l.Declares method declared → ∀ v h,
      (below method v h).FailsOnly (Allowed g.types declared))
    {method : String} {p : MappingPlan} (found : l.plans.find? method = some p)
    {x : PlannedProperty MappingPlan} (hx : x ∈ p.properties) :
    l.Converts below x (Allowed g.types p.declaredFailures) := by
  obtain ⟨a, ha, bound⟩ := linked.exists_member found
  obtain ⟨v, accepted, -, mem⟩ := compiled.exists_accepted ha bound
  have honours := accepted.verified.honours p mem
  intro value h
  unfold CompiledMapping.convert
  split
  · exact Narrated.failsOnly_pure _
  · exact Narrated.failsOnly_pure _
  · rename_i path told failures hc
    have called := keeps.callConverter (Keyed.mem_of_find? found) hx hc value
    exact called.imp fun e he => he.of_conversion honours hx hc
  · rename_i n hc
    have hn : n ∈ p.references :=
      MappingPlan.mem_references_iff.mpr ⟨x, hx, PlannedProperty.nested?_eq_some_iff.mpr hc⟩
    have declares := declares_reference compiled agrees linked found hn
    have ran := runs n.method n.declaredFailures declares value h
    exact Narrated.failsOnly_apart (ran.imp fun e he => he.of_conversion honours hx hc)

/-- **The errors of a run are allowed by the plan of its method**: by induction on the depth of the
source. -/
theorem run_allowed (compiled : family.Compiled g) (agrees : family.Agrees)
    (linked : family.Linked m l) (keeps : l.KeepsToRules g.types) (method : String)
    (declared : List TypeName) (declares : l.Declares method declared) (source : Json) :
    (l.run method source).FailsOnly (Allowed g.types declared) := by
  rw [CompiledMapping.run_eq]
  cases found : l.plans.find? method with
  | none =>
    unfold CompiledMapping.runWith
    rw [found]
    exact Narrated.failsOnly_reject fun f h => by cases h
  | some p =>
    rw [← declares p found]
    refine CompiledMapping.failsOnly_runWith ofShape_allowed found fun x hx => ?_
    refine converts_allowed compiled agrees linked keeps ?_ found hx
    exact fun method declared declares v _ =>
      run_allowed compiled agrees linked keeps method declared declares v
termination_by source.depth

/-- The method of a linked mapping has its own failures. -/
theorem declares_head (compiled : family.Compiled g) (linked : family.Linked m l) :
    l.Declares l.method m.declaredFailures := by
  obtain ⟨c, mem, method_eq, binds⟩ := linked.head
  obtain ⟨converters, compiles⟩ := compiled _ mem
  obtain ⟨v, accepted, made⟩ := compiles.accepted
  have table : c.plans = PlanTable.ofPlan v.plan := congrArg CompiledMapping.plans made
  have name_eq : c.method = m.name := congrArg CompiledMapping.method made
  obtain ⟨xs, root⟩ := accepted.planned.root_eq
  obtain ⟨r, hr, bound⟩ := PlanTable.exists_find?_ofPlan (MappingPlan.mem_nodes_self v.plan)
  intro q found
  have own : l.plans.find? l.method = some r := by
    rw [method_eq, name_eq]
    refine binds _ _ ?_
    rw [table, ← bound, root]
    rfl
  obtain rfl := Option.some.inj (found.symm.trans own)
  exact accepted.declaredFailures_eq q hr

/-- **What a mapping raises is unchecked or covered by the failures that its method declares.** The
methods of the family were each compiled with all of them declared and are linked in any way, no name
is bound to plans with different failures, and the converters keep to the rules. -/
theorem raised_is_declared (compiled : family.Compiled g) (agrees : family.Agrees)
    (linked : family.Linked m l) (keeps : l.KeepsToRules g.types) (source target : Json)
    (f : RaisedFailure)
    (raised : (l.map source).result = .error (.raised f) ∨
      (l.mapInto source target).result = .error (.raised f)) :
    isUnchecked g.types f.failureType = true ∨
      isCovered g.types f.failureType m.declaredFailures = true := by
  have allowed := run_allowed compiled agrees linked keeps l.method m.declaredFailures
    (declares_head compiled linked) source
  rw [isUnchecked_iff, isCovered_iff]
  rcases raised with raised | raised
  · exact allowed _ _ raised f rfl
  · exact allowed _ _ raised f rfl

/-! ### An order whose line has no number -/

/-- Orders with lines, whose counts a converter reads. -/
def orders : Generator where
  types := .ofList [
    ⟨⟨"Failure"⟩, .failure false, [], []⟩,
    ⟨⟨"ParseFailure"⟩, .failure false, [⟨"Failure"⟩], []⟩,
    ⟨⟨"Line"⟩, .bean, [], [.getter "getCount" ⟨"String"⟩]⟩,
    ⟨⟨"LineDto"⟩, .bean, [], [.writer "setCount" ⟨"i64"⟩]⟩,
    ⟨⟨"Order"⟩, .bean, [], [.getter "getLine" ⟨"Line"⟩]⟩,
    ⟨⟨"OrderDto"⟩, .bean, [], [.writer "setLine" ⟨"LineDto"⟩]⟩]
  config := .default
  book := .ofFirsts [⟨⟨"String"⟩, ⟨"i64"⟩, "parse", [⟨"ParseFailure"⟩], false⟩]
  valid := GeneratorConfig.fault?_default

/-- Maps an order; its failure is the ancestor of that of its line. -/
def mapOrder : MappingMethod where
  name := "order_to_dto"
  sourceType := ⟨"Order"⟩
  targetType := ⟨"OrderDto"⟩
  declaredFailures := [⟨"Failure"⟩]

/-- Maps a line. -/
def mapLine : MappingMethod where
  name := "line_to_dto"
  sourceType := ⟨"Line"⟩
  targetType := ⟨"LineDto"⟩
  declaredFailures := [⟨"ParseFailure"⟩]

/-- The failure of a text that is no number. -/
def noNumber : RaisedFailure := ⟨⟨"ParseFailure"⟩, "no number"⟩

/-- A converter for which no text is a number. -/
def parsing : ConverterTable := NameMap.empty.insert "parse" fun _ _ => .error noNumber

/-- What the generator makes of one of the two methods. -/
def ordersOutcome (m : MappingMethod) : Except Report CompiledMapping :=
  ((orders.generate (CompiledMapping.compile parsing) [mapOrder, mapLine] m).run ⟨.empty, ()⟩).result

/-- The mapping of one of the two methods. -/
def ordersMapping (m : MappingMethod) : CompiledMapping :=
  (ordersOutcome m).toOption.getD ⟨m.name, .empty, .empty⟩

/-- The two methods. -/
def ordersFamily : Family := [(mapOrder, ordersMapping mapOrder), (mapLine, ordersMapping mapLine)]

/-- The mapping of an order, with that of its line. -/
def ordersLinked : CompiledMapping := (ordersMapping mapOrder).linkedWith (ordersMapping mapLine)

/-- An order whose line has no number. -/
def badOrder : Json := .obj [("line", .obj [("count", .str "many")])]

theorem orders_evaluated :
    ((ordersOutcome mapOrder).isOk = true ∧ (ordersOutcome mapLine).isOk = true) ∧
    (∀ a ∈ ordersFamily, ∀ b ∈ ordersFamily, ∀ p ∈ a.2.plans.items, ∀ q ∈ b.2.plans.items,
      p.method = q.method → p.declaredFailures = q.declaredFailures) ∧
    (∀ p ∈ ordersLinked.plans.items, ∀ x ∈ p.properties, ∀ c ∈ x.conversion,
      isCovered orders.types noNumber.failureType c.declaredFailures = true) ∧
    (ordersLinked.map badOrder).result = .error (.raised noNumber) := by
  decide +kernel

theorem compilesOver_orders {m : MappingMethod} (ok : (ordersOutcome m).isOk = true) :
    orders.CompilesOver parsing ordersFamily.methods m (ordersMapping m) := by
  have outcome : ordersOutcome m = .ok (ordersMapping m) := by
    unfold ordersMapping
    cases h : ordersOutcome m with
    | error r => rw [h] at ok; exact absurd ok Bool.false_ne_true
    | ok c => rfl
  unfold ordersOutcome at outcome
  exact ⟨Unit, ⟨.empty, ()⟩, outcome⟩

theorem compiled_orders : ordersFamily.Compiled orders := by
  obtain ⟨⟨order, line⟩, -⟩ := orders_evaluated
  intro a ha
  rcases List.mem_pair.mp ha with rfl | rfl
  · dsimp only
    exact ⟨parsing, compilesOver_orders order⟩
  · dsimp only
    exact ⟨parsing, compilesOver_orders line⟩

theorem agrees_orders : ordersFamily.Agrees := by
  intro a ha b hb name p q hp hq
  refine orders_evaluated.2.1 a ha b hb p (Keyed.mem_of_find? hp) q (Keyed.mem_of_find? hq) ?_
  rw [Keyed.key_of_find? hp, Keyed.key_of_find? hq]

theorem linked_orders : ordersFamily.Linked mapOrder ordersLinked := by
  have line : ordersFamily.Linked mapLine (ordersMapping mapLine) :=
    .member (List.mem_cons_of_mem _ List.mem_cons_self)
  exact .link (.member List.mem_cons_self) line

theorem keepsToRules_orders : ordersLinked.KeepsToRules orders.types := by
  have converters : ordersLinked.converters = parsing := by
    obtain ⟨v, -, made⟩ := (compilesOver_orders orders_evaluated.1.1).accepted
    unfold ordersLinked CompiledMapping.linkedWith
    rw [made]
  intro path convert found v target f raised
  rw [converters] at found
  unfold parsing at found
  by_cases path_eq : path = "parse"
  · subst path_eq
    rw [NameMap.find?_insert_self] at found
    obtain rfl := Option.some.inj found
    obtain rfl := Except.error.inj raised
    refine Or.inr fun p hp x hx told failures hc => ?_
    exact isCovered_iff.mp (orders_evaluated.2.2.1 p hp x hx _ hc)
  · rw [NameMap.find?_insert_of_ne _ _ path_eq] at found
    exact absurd found (by simp [NameMap.find?, NameMap.empty])

theorem raised_is_declared_orders :
    (ordersLinked.map badOrder).result = .error (.raised noNumber) ∧
      (isUnchecked orders.types noNumber.failureType = true ∨
        isCovered orders.types noNumber.failureType mapOrder.declaredFailures = true) := by
  have raised := orders_evaluated.2.2.2
  exact ⟨raised, raised_is_declared compiled_orders agrees_orders linked_orders keepsToRules_orders
    badOrder .null noNumber (Or.inl raised)⟩

end Family

end BeanMapping
