import RecordBinding.Proofs.Binding.LifeCycle
import RecordBinding.Proofs.Universe.Declaration

namespace RecordBinding

/-- The root class stands behind all other ancestors of a class. -/
def Classes.EndAtRoot (classes : Classes) : Prop :=
  ∀ info ∈ classes, ClassId.object ∉ info.ancestors.dropLast

instance (classes : Classes) : Decidable classes.EndAtRoot :=
  inferInstanceAs (Decidable (∀ info ∈ classes, ClassId.object ∉ info.ancestors.dropLast))

theorem Classes.EndAtRoot.ancestors {classes : Classes} (h : classes.EndAtRoot) (c : ClassId) :
    ClassId.object ∉ (classes.ancestors c).dropLast := by
  cases hfind : classes.find? c with
  | some info =>
      rw [ancestors_of_find? hfind]
      exact h info (mem_of_find? hfind).1
  | none =>
      unfold Classes.ancestors
      split
      · simp [hfind]
      all_goals simp_all [ClassId.object, eq_comm]

namespace Universe

/-- The function registered for a class itself, the last one if there are several. The base function is
not registered. -/
def registered? (u : Universe) (cases : List (TypeSource × Function)) (c : ClassId) :
    Option Function :=
  (cases.reverse.find? fun entry => (u.overloadClasses entry.1).contains c).map (·.2)

/-- The choice of single dispatch: what is registered for the first ancestor of a class for which
something is, the base function when nothing is. -/
def singleDispatch (u : Universe) (base : Function) (cases : List (TypeSource × Function))
    (c : ClassId) : Function :=
  ((u.classes.ancestors c).findSome? (u.registered? cases)).getD base

variable {u : Universe} {base : Function} {cases : List (TypeSource × Function)} {c : ClassId}

theorem overloadFor?_eq (u : Universe) (base : Function) (cases : List (TypeSource × Function))
    (c : ClassId) :
    u.overloadFor? base cases c =
      (u.registered? cases c).or (if c = .object then some base else none) := by
  rw [overloadFor?, registered?]
  cases cases.reverse.find? fun entry => (u.overloadClasses entry.1).contains c <;> rfl

theorem dispatch_eq (hroot : u.classes.EndAtRoot) (base : Function)
    (cases : List (TypeSource × Function)) (c : ClassId) :
    u.dispatch base cases c = u.singleDispatch base cases c := by
  rw [dispatch, singleDispatch]
  have hlast := hroot.ancestors c
  generalize u.classes.ancestors c = ancestors at hlast ⊢
  induction ancestors with
  | nil => rfl
  | cons ancestor rest ih =>
      rw [List.findSome?_cons, List.findSome?_cons, overloadFor?_eq]
      cases hregistered : u.registered? cases ancestor with
      | some f => rfl
      | none =>
          by_cases hobject : ancestor = .object
          · -- Nothing stands behind the root class that could be found instead of the base function.
            cases rest with
            | nil => simp [hobject]
            | cons next rest => simp [hobject] at hlast
          · rw [if_neg hobject]
            refine ih fun hmem => hlast ?_
            cases rest with
            | nil => cases hmem
            | cons next rest => exact List.mem_cons_of_mem _ hmem

/-- Whether a property with an overloaded setter is written by the function for the written value. It
is not when the property has the root class: for that class the overloads keep their base function. -/
def ChoosesByValue (type : TypeExpr) : Prop :=
  type.isUnresolved = true ∨ type.erase ≠ .object

variable {builder : String} {definition : TypeExpr} {declared : DeclaredProperty}
  {setter : Value → Value → Action World Unit}

theorem builderSetter_of_overload (hroot : u.classes.EndAtRoot) {holder : ClassId} {member : Member}
    (hsetter : u.builderSetter (.declared builder) definition declared = .ok setter)
    (hmember : u.classes.member? (.declared builder) declared.name = some (holder, member))
    (hkind : member.kind = .overload base cases)
    (hnone : u.registered? cases declared.type.erase = none) (id : Nat) (value : Value) :
    (ChoosesByValue declared.type → setter (.object builder id) value =
      discard (Action.callFunction u (u.singleDispatch base cases (u.classOf value))
        [.object builder id, value])) ∧
    (¬ ChoosesByValue declared.type → setter (.object builder id) value =
      discard (Action.callFunction u base [.object builder id, value])) := by
  have hstatic : u.staticMember? (.cls (.declared builder)) declared.name = some member := by
    simp [staticMember?, TypeExpr.class?, hmember, hkind]
  unfold builderSetter at hsetter
  rw [hstatic] at hsetter
  dsimp only at hsetter
  rw [hkind] at hsetter
  dsimp only at hsetter
  rw [overloadFor?_eq, hnone, Option.none_or] at hsetter
  constructor
  · intro hvalue
    have hfree : (if declared.type.isUnresolved = true then none
        else if declared.type.erase = .object then some base else none) = none := by
      rcases hvalue with hunresolved | herase
      · rw [if_pos hunresolved]
      · rw [if_neg herase, ite_self]
    rw [hfree] at hsetter
    cases hsetter
    simp only [Action.getAttribute, hmember, Attribute.ofInstance, hkind, pure_bind, Attribute.call,
      dispatch_eq hroot]
    rfl
  · intro hvalue
    rw [ChoosesByValue, not_or, not_not] at hvalue
    rw [if_neg hvalue.1, if_pos hvalue.2] at hsetter
    cases hsetter
    rfl

end Universe

theorem Action.setters_of_bindImmutable {u : Universe} {resolved definition implementation : TypeExpr}
    {given : Option Attribute} {w w' : World} {b : Binding World}
    (h : (bindImmutable u resolved definition implementation given).run w = (.ok b, w')) :
    ∃ builderId, b.builderClass = some builderId ∧ ∀ a ∈ b.accessors, a.owner = resolved ∧
      ∃ declared : DeclaredProperty, declared.name = a.name ∧ declared.type = a.type ∧
        u.builderSetter builderId definition declared = .ok a.setter := by
  unfold bindImmutable at h
  obtain ⟨factory, w₁, -, h⟩ := run_bind_ok h
  obtain ⟨builderId, w₂, -, h⟩ := run_bind_ok h
  obtain ⟨build, w₃, -, h⟩ := run_bind_ok h
  obtain ⟨declared, w₄, -, h⟩ := run_bind_ok h
  obtain ⟨accessors, w₅, haccessors, h⟩ := run_bind_ok h
  obtain ⟨serial, w₆, -, h⟩ := run_bind_ok h
  cases h
  refine ⟨builderId, rfl, fun a ha => ?_⟩
  obtain ⟨p, -, t, t', hp⟩ := exists_of_mem_right (run_mapM_ok haccessors) ha
  obtain ⟨setter, t'', hsetter, hp⟩ := run_bind_ok hp
  cases hp
  exact ⟨rfl, p, rfl, rfl, run_ofExcept_ok hsetter⟩

/-- Writing a property whose overloaded setter has no overload for its raw class runs the function that
single dispatch selects for the value written, unless that raw class is the root class: then it runs
the base function, whatever the value. -/
theorem Session.write_of_overload {u : Universe} (hroot : u.classes.EndAtRoot)
    {resolved definition implementation : TypeExpr} {given : Option Attribute} {w w' : World}
    {b : Binding World}
    (hbind : (Action.bindImmutable u resolved definition implementation given).run w = (.ok b, w'))
    {builder name : String} (hbuilder : b.builderClass = some (.declared builder))
    {a : Accessor World} (haccessor : b.accessor name = .ok a) {holder : ClassId} {member : Member}
    {base : Function} {cases : List (TypeSource × Function)}
    (hmember : u.classes.member? (.declared builder) name = some (holder, member))
    (hkind : member.kind = .overload base cases)
    (hnone : u.registered? cases a.type.erase = none) (id : Nat) (value : Value) :
    let target : Value := .object builder id
    let runs := fun f => Action.guarded .set resolved (some name)
      (discard (Action.callFunction u f [target, value]))
    (Universe.ChoosesByValue a.type → Session.write ⟨b, some target⟩ name value =
      runs (u.singleDispatch base cases (u.classOf value))) ∧
    (¬ Universe.ChoosesByValue a.type → Session.write ⟨b, some target⟩ name value = runs base) := by
  intro target runs
  obtain ⟨builderId, hclass, haccessors⟩ := Action.setters_of_bindImmutable hbind
  rw [hclass] at hbuilder
  cases hbuilder
  obtain ⟨howner, declared, hname, htype, hsetter⟩ :=
    haccessors a (Binding.mem_of_accessor haccessor)
  have hwritten : a.name = name := by
    rcases b.accessor_cases name with ⟨found, hfound, hname, -⟩ | ⟨hunknown, -⟩
    · rw [haccessor] at hfound
      cases hfound
      exact hname
    · rw [haccessor] at hunknown
      cases hunknown
  have hwrite : Session.write ⟨b, some target⟩ name value =
      Action.guarded .set resolved (some name) (a.setter target value) := by
    funext w
    refine (run_write b (some target) name value w).trans ?_
    rw [haccessor]
    dsimp only
    rw [Accessor.set, howner, hwritten]
    rfl
  rw [← htype] at hnone ⊢
  rw [← hwritten, ← hname] at hmember
  obtain ⟨hvalue, hbase⟩ :=
    Universe.builderSetter_of_overload hroot hsetter hmember hkind hnone id value
  rw [hwrite]
  exact ⟨fun h => congrArg _ (hvalue h), fun h => congrArg _ (hbase h)⟩

/-- A gauge whose level may be anything, though its builder can do with whole numbers only. -/
def gauges : ModuleDeclaration where
  name := "gauges"
  types := []
  classes :=
    [⟨"Gauge", .protocol, [], [],
        [⟨"level", .method ⟨"Gauge.level", "level", [⟨"self", .positional, false, none⟩],
            some (.name "Any"), .nothing⟩, false⟩,
          ⟨"reading", .method ⟨"Gauge.reading", "reading", [⟨"self", .positional, false, none⟩],
            some (.name "float"), .nothing⟩, false⟩], []⟩,
      ⟨"GaugeBuilder", .concrete, [], [],
        [⟨"level", overloaded "level", false⟩, ⟨"reading", overloaded "reading", false⟩,
          ⟨"build", .method ⟨"GaugeBuilder.build", "build", [⟨"self", .positional, false, none⟩], none,
            .build "FixedGauge" []⟩, false⟩], []⟩,
      ⟨"FixedGauge", .concrete, [], [.name "Gauge"],
        [⟨"level", .method ⟨"FixedGauge.level", "level", [⟨"self", .positional, false, none⟩], none,
            .get "level" none⟩, false⟩,
          ⟨"reading", .method ⟨"FixedGauge.reading", "reading",
            [⟨"self", .positional, false, none⟩], none, .get "reading" none⟩, false⟩,
          ⟨"builder", .staticMethod ⟨"FixedGauge.builder", "builder", [], none,
            .create "GaugeBuilder"⟩, false⟩], []⟩]
  functions := []
  values := []
where
  parameters : Signature :=
    [⟨"self", .positional, false, none⟩, ⟨"value", .positional, false, none⟩]
  unsupported (name : String) : Function :=
    ⟨"GaugeBuilder." ++ name, name, parameters, none, .fail .typeError "unsupported"⟩
  ofInt (name : String) : Function :=
    ⟨"GaugeBuilder." ++ name ++ "[int]", name, parameters, none, .set name⟩
  overloaded (name : String) : MemberKind :=
    .overload (unsupported name) [(.name "int", ofInt name)]

theorem Session.write_of_overload_reading :
    let u := gauges.toUniverse
    let gauge : TypeExpr := .cls (.declared "Gauge")
    let target : Value := .object "GaugeBuilder" 0
    ∃ b w, (Action.bindImmutable u gauge gauge (.cls (.declared "FixedGauge")) none).run {} =
        (.ok b, w) ∧
      Session.write ⟨b, some target⟩ "reading" (.bool true) =
        Action.guarded .set gauge (some "reading")
          (discard (Action.callFunction u (gauges.ofInt "reading") [target, .bool true])) := by
  intro u gauge target
  have hroot : u.classes.EndAtRoot := by decide
  obtain ⟨b, w, a, hbind, hbuilder, haccessor, htype⟩ : ∃ b w a,
      (Action.bindImmutable u gauge gauge (.cls (.declared "FixedGauge")) none).run {} = (.ok b, w) ∧
        b.builderClass = some (.declared "GaugeBuilder") ∧ b.accessor "reading" = .ok a ∧
        a.type = .ofBuiltin .float := ⟨_, _, _, rfl, rfl, rfl, rfl⟩
  have hnone : u.registered? [(.name "int", gauges.ofInt "reading")] a.type.erase = none := by
    rw [htype]
    decide
  have hvalue : Universe.ChoosesByValue a.type := by
    rw [htype]
    exact .inr (by decide)
  exact ⟨b, w, hbind,
    (Session.write_of_overload hroot hbind hbuilder haccessor rfl rfl hnone 0 (.bool true)).1 hvalue⟩

/-- The base function of a setter takes a number that it has an overload for, because the level may be
anything. -/
theorem Session.write_of_overload_level :
    let u := gauges.toUniverse
    let gauge : TypeExpr := .cls (.declared "Gauge")
    let target : Value := .object "GaugeBuilder" 0
    let value : Value := .scalar (.int 3)
    ∃ b w a, (Action.bindImmutable u gauge gauge (.cls (.declared "FixedGauge")) none).run {} =
        (.ok b, w) ∧ b.accessor "level" = .ok a ∧
      u.registered? [(.name "int", gauges.ofInt "level")] a.type.erase = none ∧
      u.registered? [(.name "int", gauges.ofInt "level")] (u.classOf value) =
        some (gauges.ofInt "level") ∧
      Session.write ⟨b, some target⟩ "level" value ≠
        Action.guarded .set gauge (some "level") (discard (Action.callFunction u
          (u.singleDispatch (gauges.unsupported "level") [(.name "int", gauges.ofInt "level")]
            (u.classOf value)) [target, value])) := by
  intro u gauge target value
  let chosen := Action.guarded .set gauge (some "level") (discard (Action.callFunction u
    (u.singleDispatch (gauges.unsupported "level") [(.name "int", gauges.ofInt "level")]
      (u.classOf value)) [target, value]))
  obtain ⟨b, w, a, hbind, haccessor, hnone, hfails, hchosen⟩ : ∃ b w a,
      (Action.bindImmutable u gauge gauge (.cls (.declared "FixedGauge")) none).run {} = (.ok b, w) ∧
        b.accessor "level" = .ok a ∧
        u.registered? [(.name "int", gauges.ofInt "level")] a.type.erase = none ∧
        ((Session.write ⟨b, some target⟩ "level" value).run w).1.isOk = false ∧
        (chosen.run w).1.isOk = true := ⟨_, _, _, rfl, rfl, rfl, rfl, rfl⟩
  refine ⟨b, w, a, hbind, haccessor, hnone, rfl, fun h => ?_⟩
  rw [h, hchosen] at hfails
  cases hfails

end RecordBinding
