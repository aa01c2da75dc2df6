import RecordBinding.Proofs.Binding.Narrowing
import RecordBinding.Proofs.Binding.RoundTrip
import RecordBinding.Proofs.Property.Unannotated

namespace RecordBinding

open RecordBinding.Action (Leads)

/-- The setter of a property takes values of any type, as far as the annotation of its argument says:
there is none with a value, or it is left as text or names the root class or a protocol. -/
def Universe.SetterTakesAny (u : Universe) (implementation : TypeExpr) (property : String) : Prop :=
  ∀ f accepted,
    (u.staticMember? implementation (setterName property)).map Member.kind = some (.method f) →
    u.argumentHint? f (implementation.class?.getD .object) = .ok (some accepted) →
      accepted.isUnresolved = true ∨
        (accepted.erase ≠ .protocol ∧ u.classes.isProtocol accepted.erase = true) ∨
          accepted.erase = .object

/-- The class that holds what a type has under a name as a class. -/
def Universe.holder? (u : Universe) (t : TypeExpr) (name : String) : Option ClassId :=
  t.class?.bind fun c => (u.classes.member? c name).map Prod.fst

/-- A property whose setter is itself the accessor of another property keeps it when that accessor's result
is not annotated. The annotation of the argument may have been left as text for the sake of the result, and
then has to admit the property's type. -/
def Universe.KeepsSetter (u : Universe) (implementation : TypeExpr) (p q : DeclaredProperty) : Prop :=
  setterName q.name = p.name → u.holder? implementation p.name = some p.declaringClass →
    ∀ f accepted, (u.staticMember? implementation p.name).map Member.kind = some (.method f) →
      u.argumentHint? f.unannotated (implementation.class?.getD .object) = .ok (some accepted) →
        u.admits q.type accepted = true

theorem setterName_ne (name : String) : setterName name ≠ name := by
  intro h
  have hlength := congrArg (fun s : String => s.toList.length) h
  unfold setterName at hlength
  cases hname : name.toList <;> simp [hname] at hlength
  omega

/-- An accessor before and after one property of a binding may be of any type. -/
structure Accessor.LosesType (property : String) (a a' : Accessor World) : Prop where
  name : a'.name = a.name
  type : a'.type = if a.name = property then .cls .any else a.type

namespace Universe

variable {u : Universe} {c : ClassId} {property : String}

theorem admits_any_iff {hint : TypeExpr} :
    u.admits (.cls .any) hint = true ↔
      hint.isUnresolved = true ∨
        (hint.erase ≠ .protocol ∧ u.classes.isProtocol hint.erase = true) ∨ hint.erase = .object := by
  have hany : (TypeExpr.cls .any).erase = .object := rfl
  have hresolved : (TypeExpr.cls .any).isUnresolved ≠ true := nofun
  have hroot : u.classes.Below .object hint.erase ↔ hint.erase = .object := by
    rw [Classes.below_iff]
    constructor
    · rintro (h | h)
      · exact h.symm
      · exact List.mem_singleton.1 h
    · exact fun h => .inl h.symm
  rw [admits_iff, hany, hroot, or_iff_right hresolved]

theorem admits_of_any {implementation : TypeExpr}
    (hroot : u.classes.Below implementation.erase .object) :
    u.admits implementation (.cls .any) = true :=
  admits_iff.2 (.inr (.inr (.inr hroot)))

theorem admits_unannotate (c : ClassId) (property : String) (supplied hint : TypeExpr) :
    (u.unannotate c property).admits supplied hint = u.admits supplied hint :=
  u.admits_mapMembers _ supplied hint

theorem argumentHint?_unannotate (f : Function) (d : ClassId) :
    (u.unannotate c property).argumentHint? f d = u.argumentHint? f d := by
  rw [argumentHint?, argumentHint?, unannotate, scopeOf_mapMembers]

theorem staticMember?_unannotate (u : Universe) (c : ClassId) (property : String) (t : TypeExpr)
    (name : String) :
    Option.Rel (fun member member' => member' = member ∨
        name = property ∧ member' = member.unannotated)
      (u.staticMember? t name) ((u.unannotate c property).staticMember? t name) := by
  unfold staticMember?
  cases t.class? with
  | none => exact .none
  | some d =>
      have hmember : (u.unannotate c property).classes.member? d name = _ :=
        u.classes.member?_mapMembers _ d name
      rw [Option.bind_some, Option.bind_some, hmember]
      cases hfound : u.classes.member? d name with
      | none => exact .none
      | some found =>
          obtain ⟨holder, member⟩ := found
          obtain rfl : name = member.name := (Classes.heldFirst_iff.2 hfound).name_eq
          rw [Option.map_some]
          dsimp only
          by_cases hplace : holder = c ∧ member.name = property
          · rw [show MemberChange.unannotate c property holder member = member.unannotated from
              if_pos hplace]
            obtain ⟨name, kind, isAbstract⟩ := member
            cases kind with
            | «attribute» v =>
                simp only [Member.unannotated]
                split
                · exact .none
                · exact .some (.inl rfl)
            | _ => exact .some (.inr ⟨hplace.2, rfl⟩)
          · rw [show MemberChange.unannotate c property holder member = member from if_neg hplace]
            split
            · split
              · exact .none
              · exact .some (.inl rfl)
            · exact .some (.inl rfl)

theorem method_unannotate (c : ClassId) (property : String) {t : TypeExpr} {name : String} {f : Function}
    (h : (u.staticMember? t name).map Member.kind = some (.method f)) :
    ((u.unannotate c property).staticMember? t name).map Member.kind =
      some (.method (if name = property ∧ u.holder? t name = some c then f.unannotated else f)) := by
  unfold staticMember? at h ⊢
  unfold holder?
  cases hclass : t.class? with
  | none =>
      rw [hclass] at h
      cases h
  | some d =>
      have hmember : (u.unannotate c property).classes.member? d name = _ :=
        u.classes.member?_mapMembers _ d name
      rw [hclass] at h
      rw [Option.bind_some] at h ⊢
      rw [Option.bind_some, hmember]
      cases hfound : u.classes.member? d name with
      | none =>
          rw [hfound] at h
          cases h
      | some found =>
          obtain ⟨holder, member⟩ := found
          obtain rfl : name = member.name := (Classes.heldFirst_iff.2 hfound).name_eq
          obtain ⟨name, kind, isAbstract⟩ := member
          have hkind : kind = .method f := by
            rw [hfound] at h
            cases kind with
            | «attribute» v =>
                dsimp only at h
                split at h <;> cases h
            | _ => exact Option.some.inj h
          subst hkind
          by_cases hplace : holder = c ∧ name = property
          · obtain ⟨rfl, rfl⟩ := hplace
            simp [MemberChange.unannotate, Member.unannotated]
          · have hplace' : ¬(name = property ∧ holder = c) := fun h => hplace h.symm
            simp [MemberChange.unannotate, hplace, hplace']

theorem exists_method_unannotate (c : ClassId) (property : String) {t : TypeExpr} {name : String}
    {f : Function} (h : (u.staticMember? t name).map Member.kind = some (.method f)) :
    ∃ f', ((u.unannotate c property).staticMember? t name).map Member.kind = some (.method f') ∧
      (f' = f ∨ f' = f.unannotated) := by
  refine ⟨_, method_unannotate c property h, ?_⟩
  split
  · exact .inr rfl
  · exact .inl rfl

theorem argumentHint?_unannotated {f : Function} {d : ClassId} {hint : Option TypeExpr}
    (h : u.argumentHint? f d = .ok hint) : ∃ hint', u.argumentHint? f.unannotated d = .ok hint' := by
  unfold argumentHint? at h
  split at h
  · next hint₁ hargument =>
      obtain ⟨hint', hunannotated⟩ := Function.argumentHint?_unannotated hargument
      exact ⟨hint', by rw [argumentHint?, hunannotated]⟩
  · cases h

theorem findFactory_unannotate (implementation : TypeExpr) (name : String) :
    (u.unannotate c property).findFactory implementation name = u.findFactory implementation name := by
  have hrel := u.staticMember?_unannotate c property implementation name
  have hempty : ∀ d, (u.unannotate c property).callsEmpty d = u.callsEmpty d := fun d => by
    have hancestors : (u.unannotate c property).classes.ancestors d = _ :=
      u.classes.ancestors_mapMembers _ d
    rw [callsEmpty, hancestors, callsEmpty]
  unfold findFactory
  simp only [hempty]
  generalize u.staticMember? implementation name = found at hrel ⊢
  generalize (u.unannotate c property).staticMember? implementation name = found' at hrel ⊢
  cases hrel with
  | none => rfl
  | @some member member' hsame =>
      rcases hsame with rfl | ⟨-, rfl⟩
      · rfl
      · obtain ⟨name, kind, isAbstract⟩ := member
        cases kind <;> rfl

theorem findProbe_unannotate {implementation : TypeExpr} {name : String}
    {probe : Option (Value → Action World Value)}
    (h : u.findProbe implementation name = .ok probe) :
    ∃ probe', (u.unannotate c property).findProbe implementation name = .ok probe' := by
  have hrel := u.staticMember?_unannotate c property implementation (probeName name)
  unfold findProbe at h ⊢
  dsimp only at h ⊢
  generalize u.staticMember? implementation (probeName name) = found at hrel h
  generalize (u.unannotate c property).staticMember? implementation (probeName name) = found' at hrel ⊢
  cases hrel with
  | none => exact ⟨_, rfl⟩
  | @some member member' hsame =>
      obtain ⟨n, kind, isAbstract⟩ := member
      rcases hsame with rfl | ⟨-, rfl⟩ <;> cases kind with
      | method f =>
          dsimp only [Member.unannotated] at h ⊢
          split at h
          · next htakes => exact ⟨_, if_pos htakes⟩
          · cases h
      | property getter => exact ⟨_, rfl⟩
      | _ => cases h

theorem builderSetter_unannotate {builder : ClassId} {definition : TypeExpr} {p q : DeclaredProperty}
    (hname : q.name = p.name) {setter : Value → Value → Action World Unit}
    (h : u.builderSetter builder definition p = .ok setter) :
    ∃ setter', (u.unannotate c property).builderSetter builder definition q = .ok setter' := by
  have hrel := u.staticMember?_unannotate c property (.cls builder) p.name
  unfold builderSetter at h ⊢
  dsimp only at h ⊢
  rw [hname]
  generalize u.staticMember? (.cls builder) p.name = found at hrel h
  generalize (u.unannotate c property).staticMember? (.cls builder) p.name = found' at hrel ⊢
  cases hrel with
  | none => cases h
  | @some member member' hsame =>
      obtain ⟨n, kind, isAbstract⟩ := member
      rcases hsame with rfl | ⟨-, rfl⟩ <;> cases kind with
      | method f =>
          dsimp only [Member.unannotated] at h ⊢
          split at h
          · next htakes => exact ⟨_, if_pos htakes⟩
          · cases h
      | overload base cases =>
          dsimp only [Member.unannotated]
          generalize (if q.type.isUnresolved then _ else _ : Option Function) = captured
          cases captured <;> exact ⟨_, rfl⟩
      | _ => cases h

end Universe

namespace Action

variable {u : Universe} {c : ClassId} {property : String}

theorem chooseFactory_unannotate (given : Option Attribute) (implementation : TypeExpr)
    (name : String) :
    chooseFactory (u.unannotate c property) given implementation name =
      chooseFactory u given implementation name := by
  unfold chooseFactory
  rw [Universe.findFactory_unannotate]

theorem builderClass_unannotate (factory : Attribute) (implementation : TypeExpr) :
    builderClass (u.unannotate c property) factory implementation =
      builderClass u factory implementation := by
  unfold builderClass
  rw [Universe.unannotate, call_mapMembers]
  simp only [Universe.classOf_mapMembers]

theorem returnHint_leads {f f' : Function} (hf : f' = f ∨ f' = f.unannotated) (d : ClassId) :
    Leads (fun t t' => t' = t ∨ t' = .cls .any) (returnHint u f d)
      (returnHint (u.unannotate c property) f' d) := by
  unfold returnHint
  refine Leads.bind (r := fun hint hint' => hint'.type = hint.type ∨ hint'.type = .cls .any)
    (.ofExcept fun hint hhint => ?_) fun hint hint' htype =>
      (reportHint_similar _ _ _ _ _ _).leads.bind fun _ _ _ => .pure htype
  rw [Universe.unannotate, Universe.returnHint_mapMembers]
  rcases hf with rfl | rfl
  · exact ⟨hint, hhint, .inl rfl⟩
  · obtain ⟨evaluated, hany⟩ := Universe.returnHint_unannotated hhint
    exact ⟨_, hany, .inr rfl⟩

theorem findBuild_leads {implementation : TypeExpr}
    (hroot : u.classes.Below implementation.erase .object) (builder : ClassId) :
    Leads (fun _ _ => True) (findBuild u builder implementation)
      (findBuild (u.unannotate c property) builder implementation) := by
  unfold findBuild
  split
  · next f hmethod =>
      obtain ⟨f', hmethod', hf⟩ := Universe.exists_method_unannotate c property hmethod
      have htakes : f'.takesExactly 0 = f.takesExactly 0 := by rcases hf with rfl | rfl <;> rfl
      rw [hmethod']
      simp only [htakes]
      split
      · refine (returnHint_leads hf builder).bind fun produced produced' hproduced => ?_
        split
        · next hadmits =>
            have hadmits' : (u.unannotate c property).admits implementation produced' = true := by
              rw [Universe.admits_unannotate]
              rcases hproduced with rfl | rfl
              · exact hadmits
              · exact Universe.admits_of_any hroot
            rw [if_pos hadmits']
            exact .pure trivial
        · exact .throw _ _ _
      · exact .throw _ _ _
  · exact .throw _ _ _

variable {implementation : TypeExpr} {p q : DeclaredProperty}

theorem checkArgument_unannotate_leads {f f' : Function} (hf : f' = f ∨ f' = f.unannotated) (d : ClassId)
    (haccepts : (f' = f ∧ q.type = p.type) ∨
      ∀ accepted, u.argumentHint? f' d = .ok (some accepted) → u.admits q.type accepted = true) :
    Leads (fun _ _ => True) (checkArgument u implementation p f d)
      (checkArgument (u.unannotate c property) implementation q f' d) := by
  rintro w w' ⟨⟩ hcheck
  obtain ⟨hint, hhint⟩ : ∃ hint, u.argumentHint? f d = .ok hint := by
    unfold checkArgument at hcheck
    obtain ⟨hint, w₁, hhint, -⟩ := run_bind_ok (Prod.ext hcheck rfl)
    exact ⟨hint, run_ofExcept_ok hhint⟩
  obtain ⟨hint', hhint'⟩ : ∃ hint', u.argumentHint? f' d = .ok hint' := by
    rcases hf with rfl | rfl
    · exact ⟨hint, hhint⟩
    · exact Universe.argumentHint?_unannotated hhint
  have hadmits : ∀ accepted, hint' = some accepted → u.admits q.type accepted = true := by
    rintro accepted rfl
    rcases haccepts with ⟨rfl, htype⟩ | haccepts
    · rw [htype]
      exact checkArgument_ok (Prod.ext hcheck rfl) hhint'
    · exact haccepts accepted hhint'
  refine ⟨(), ?_, trivial⟩
  unfold checkArgument
  rw [Universe.argumentHint?_unannotate, hhint']
  cases hint' with
  | none => rfl
  | some accepted =>
      change ((if (u.unannotate c property).admits q.type accepted = true then pure () else _ :
        Action World Unit).run w').1 = _
      rw [Universe.admits_unannotate, if_pos (hadmits accepted rfl)]
      rfl

theorem findSetter_unannotate_leads (hname : q.name = p.name)
    (hroot : u.classes.Below implementation.erase .object)
    (haccepts : ∀ f f', (u.staticMember? implementation (setterName p.name)).map Member.kind =
        some (.method f) →
      ((u.unannotate c property).staticMember? implementation (setterName p.name)).map Member.kind =
        some (.method f') →
      (f' = f ∧ q.type = p.type) ∨ ∀ accepted,
        u.argumentHint? f' (implementation.class?.getD .object) = .ok (some accepted) →
          u.admits q.type accepted = true) :
    Leads (fun _ _ => True) (findSetter u implementation p)
      (findSetter (u.unannotate c property) implementation q) := by
  unfold findSetter
  rw [hname]
  dsimp only
  split
  · next f hmethod =>
      obtain ⟨f', hmethod', hf⟩ := Universe.exists_method_unannotate c property hmethod
      have htakes : f'.takesExactly 1 = f.takesExactly 1 := by rcases hf with rfl | rfl <;> rfl
      rw [hmethod']
      simp only [htakes]
      split
      · refine (checkArgument_unannotate_leads hf _ (haccepts f f' hmethod hmethod')).bind fun _ _ _ => ?_
        refine (returnHint_leads hf _).bind fun returned returned' hreturned => ?_
        split
        · next hadmits =>
            have hadmits' : (u.unannotate c property).admits implementation returned' = true := by
              rw [Universe.admits_unannotate]
              rcases hreturned with rfl | rfl
              · exact hadmits
              · exact Universe.admits_of_any hroot
            rw [if_pos hadmits']
            exact .pure trivial
        · exact .throw _ _ _
      · exact .throw _ _ _
  · exact .throw _ _ _

variable {resolved definition : TypeExpr} {given : Option Attribute} {w w' : World} {b : Binding World}
  {declared : List DeclaredProperty}

theorem bindImmutable_unannotate
    (h : (bindImmutable u resolved definition implementation given).run w = (.ok b, w'))
    (hdeclared : u.discover resolved definition = .ok declared) (hp : p ∈ declared)
    (hroot : u.classes.Below implementation.erase .object) :
    ∃ b', ((bindImmutable (u.unannotate p.declaringClass p.name) resolved definition implementation
        given).run w).1 = .ok b' ∧
      List.Forall₂ (Accessor.LosesType p.name) b.accessors b'.accessors := by
  obtain ⟨declared', hdeclared', hloses⟩ := Universe.discover_unannotate hdeclared hp
  unfold bindImmutable at h ⊢
  rw [chooseFactory_unannotate]
  simp only [builderClass_unannotate]
  -- the factory is called in the world at hand, and does there what it did
  obtain ⟨factory, w₁, hfactory, h⟩ := run_bind_ok h
  obtain ⟨builder, w₂, hbuilder, h⟩ := run_bind_ok h
  rw [run_bind, hfactory]
  dsimp only
  rw [run_bind, hbuilder]
  dsimp only
  refine Leads.bind (q := fun b b' : Binding World => List.Forall₂ (Accessor.LosesType p.name)
    b.accessors b'.accessors) (findBuild_leads hroot builder) (fun build build' _ => ?_) w₂ w₂ b
    (congrArg Prod.fst h)
  have hdiscover : Agree (List.Forall₂ fun q q' : DeclaredProperty => q'.name = q.name ∧
      q'.type = if q.name = p.name then .cls .any else q.type) (u.discover resolved definition)
        ((u.unannotate p.declaringClass p.name).discover resolved definition) := by
    rw [hdeclared, hdeclared']
    exact .ok hloses
  refine (discover_similar hdiscover).leads.bind fun qs qs' hqs => ?_
  refine Leads.bind (r := List.Forall₂ (Accessor.LosesType p.name)) (.mapM hqs fun q q' hq => ?_)
    fun as as' has => (completeBinding_similar _ _ _ _ _).leads.bind fun _ _ _ => .pure has
  refine Leads.bind (r := fun _ _ => True) (.ofExcept fun setter hsetter => ?_) fun _ _ _ =>
    .pure ⟨hq.1, hq.2⟩
  obtain ⟨setter', hsetter'⟩ := Universe.builderSetter_unannotate hq.1 hsetter
  exact ⟨setter', hsetter', trivial⟩

theorem bindModifiable_unannotate
    (h : (bindModifiable u resolved definition implementation given).run w = (.ok b, w'))
    (hdeclared : u.discover resolved definition = .ok declared) (hp : p ∈ declared)
    (hroot : u.classes.Below implementation.erase .object)
    (hany : u.SetterTakesAny implementation p.name)
    (hkeeps : ∀ q ∈ declared, u.KeepsSetter implementation p q) :
    ∃ b', ((bindModifiable (u.unannotate p.declaringClass p.name) resolved definition implementation
        given).run w).1 = .ok b' ∧
      List.Forall₂ (Accessor.LosesType p.name) b.accessors b'.accessors := by
  obtain ⟨declared', hdeclared', hloses⟩ := Universe.discover_unannotate hdeclared hp
  unfold bindModifiable at h ⊢
  rw [chooseFactory_unannotate]
  obtain ⟨factory, w₁, hfactory, h⟩ := run_bind_ok h
  rw [run_bind, hfactory]
  dsimp only
  have hdiscover : Agree (List.Forall₂ fun q q' : DeclaredProperty =>
      u.KeepsSetter implementation p q ∧
        q'.name = q.name ∧ q'.type = if q.name = p.name then .cls .any else q.type)
        (u.discover resolved definition)
        ((u.unannotate p.declaringClass p.name).discover resolved definition) := by
    rw [hdeclared, hdeclared']
    exact .ok ((List.forall₂_and_left _ _).2 ⟨hkeeps, hloses⟩)
  refine Leads.bind (q := fun b b' : Binding World => List.Forall₂ (Accessor.LosesType p.name)
    b.accessors b'.accessors) (discover_similar hdiscover).leads (fun qs qs' hqs => ?_) w₁ w₁ b
    (congrArg Prod.fst h)
  refine Leads.bind (r := List.Forall₂ (Accessor.LosesType p.name)) (.mapM hqs ?_)
    fun as as' has => (completeBinding_similar _ _ _ _ _).leads.bind fun _ _ _ => .pure has
  rintro q q' ⟨hkeep, hname, htype⟩
  have hfind : Leads (fun _ _ => True) (findSetter u implementation q)
      (findSetter (u.unannotate p.declaringClass p.name) implementation q') := by
    refine findSetter_unannotate_leads hname hroot fun f f' hf hf' => ?_
    rw [Universe.method_unannotate p.declaringClass p.name hf] at hf'
    cases hf'
    by_cases hsame : q.name = p.name
    · rw [if_pos hsame] at htype
      have hother : setterName q.name ≠ p.name := hsame ▸ setterName_ne q.name
      rw [if_neg fun hshared => hother hshared.1]
      refine .inr fun accepted haccepted => ?_
      rw [htype, Universe.admits_any_iff]
      exact hany f accepted (hsame ▸ hf) haccepted
    · rw [if_neg hsame] at htype
      split
      · next hshared =>
          obtain ⟨hsetter, hholder⟩ := hshared
          rw [hsetter] at hf hholder
          exact .inr fun accepted haccepted => htype ▸ hkeep hsetter hholder f accepted hf haccepted
      · exact .inl ⟨rfl, htype⟩
  refine hfind.bind fun _ _ _ => ?_
  refine Leads.bind (r := fun _ _ => True) (.ofExcept fun probe hprobe => ?_) fun _ _ _ =>
    .pure ⟨hname, htype⟩
  rw [hname]
  obtain ⟨probe', hprobe'⟩ := Universe.findProbe_unannotate hprobe
  exact ⟨probe', hprobe', trivial⟩

/-- Where a binding is made without an annotation, each setter takes values of the type that the property then
has. -/
theorem setters_of_bindModifiable_unannotate
    (h : (bindModifiable (u.unannotate p.declaringClass p.name) resolved definition implementation
      given).run w = (.ok b, w'))
    (hdeclared : u.discover resolved definition = .ok declared) (hp : p ∈ declared)
    (hq : q ∈ declared) {f : Function}
    (hmethod : (u.staticMember? implementation (setterName q.name)).map Member.kind = some (.method f))
    (accepted : TypeExpr)
    (haccepted : u.argumentHint? (if setterName q.name = p.name ∧
      u.holder? implementation (setterName q.name) = some p.declaringClass then f.unannotated else f)
        (implementation.class?.getD .object) = .ok (some accepted)) :
    u.admits (if q.name = p.name then .cls .any else q.type) accepted = true := by
  obtain ⟨declared', hdeclared', hloses⟩ := Universe.discover_unannotate hdeclared hp
  obtain ⟨-, found, -, hfound, -, -, haccessors⟩ := bindModifiable_ok h
  cases hdeclared'.symm.trans hfound
  obtain ⟨q', hq', hname, htype⟩ := exists_of_mem_right hloses.flip hq
  obtain ⟨a, -, -, -, setter, w₁, w₂, hfind, -⟩ := exists_of_mem_right haccessors.flip hq'
  obtain ⟨hmethod', -, haccepts⟩ := findSetter_ok hfind
  rw [hname, Universe.method_unannotate _ _ hmethod] at hmethod'
  cases hmethod'
  rw [← htype, ← Universe.admits_unannotate p.declaringClass p.name]
  exact haccepts accepted ((Universe.argumentHint?_unannotate _ _).trans haccepted)

end Action

theorem Accessor.LosesType.names_eq {property : String} {as as' : List (Accessor World)}
    (h : List.Forall₂ (Accessor.LosesType property) as as') :
    as'.map Accessor.name = as.map Accessor.name :=
  (Accessor.map_name_eq (h.imp fun _ _ hloses => hloses.name.symm)).symm

/-- Where a binding is made, one with a builder is made as well after the annotation of a property is
removed, with the same names. One without a builder is made if and only if the property's setter takes
values of any type and no other property loses a setter that is the accessor itself. -/
theorem Registration.bind_unannotate {m : ModuleDeclaration} {r : Registration} {t : TypeExpr}
    {w w' : World} {b : Binding World} (hbind : (r.bind m.toUniverse t).run w = (.ok b, w'))
    {declared : List DeclaredProperty}
    (hdeclared : m.toUniverse.discover t r.definition = .ok declared) {p : DeclaredProperty}
    (hp : p ∈ declared) (hroot : m.toUniverse.classes.Below r.implementation.erase .object) :
    ((∃ b', ((r.bind (m.unannotate p.declaringClass p.name).toUniverse t).run w).1 = .ok b') ↔
      (r.variant = .modifiable → m.toUniverse.SetterTakesAny r.implementation p.name ∧
        ∀ q ∈ declared, m.toUniverse.KeepsSetter r.implementation p q)) ∧
    ∀ b', ((r.bind (m.unannotate p.declaringClass p.name).toUniverse t).run w).1 = .ok b' →
      b'.names = b.names ∧ List.Forall₂ (Accessor.LosesType p.name) b.accessors b'.accessors := by
  rw [ModuleDeclaration.toUniverse_unannotate]
  have hmade : (r.variant = .modifiable → m.toUniverse.SetterTakesAny r.implementation p.name ∧
        ∀ q ∈ declared, m.toUniverse.KeepsSetter r.implementation p q) →
      ∃ b', ((r.bind (m.toUniverse.unannotate p.declaringClass p.name) t).run w).1 = .ok b' ∧
        List.Forall₂ (Accessor.LosesType p.name) b.accessors b'.accessors := by
    intro hsetters
    unfold Registration.bind at hbind ⊢
    cases hvariant : r.variant with
    | immutable =>
        rw [hvariant] at hbind
        exact Action.bindImmutable_unannotate hbind hdeclared hp hroot
    | modifiable =>
        rw [hvariant] at hbind
        obtain ⟨hany, hkeeps⟩ := hsetters hvariant
        exact Action.bindModifiable_unannotate hbind hdeclared hp hroot hany hkeeps
  have hneeded : ∀ b', ((r.bind (m.toUniverse.unannotate p.declaringClass p.name) t).run w).1 = .ok b' →
      r.variant = .modifiable → m.toUniverse.SetterTakesAny r.implementation p.name ∧
        ∀ q ∈ declared, m.toUniverse.KeepsSetter r.implementation p q := by
    intro b' hb' hvariant
    have hrun : (r.bind (m.toUniverse.unannotate p.declaringClass p.name) t).run w = (.ok b', _) :=
      Prod.ext hb' rfl
    unfold Registration.bind at hrun
    rw [hvariant] at hrun
    constructor
    · intro f accepted hmethod haccepted
      have hadmits := Action.setters_of_bindModifiable_unannotate hrun hdeclared hp hp hmethod
        accepted (by rwa [if_neg fun hshared => setterName_ne p.name hshared.1])
      rw [if_pos rfl] at hadmits
      exact Universe.admits_any_iff.1 hadmits
    · intro q hq hsetter hholder f accepted hmethod haccepted
      have hother : q.name ≠ p.name := fun hname => setterName_ne p.name (hname ▸ hsetter)
      rw [← hsetter] at hmethod hholder
      have hadmits := Action.setters_of_bindModifiable_unannotate hrun hdeclared hp hq hmethod
        accepted (by rwa [if_pos ⟨hsetter, hholder⟩])
      rwa [if_neg hother] at hadmits
  refine ⟨⟨fun ⟨b', hb'⟩ => hneeded b' hb', fun hsetters => ?_⟩, fun b' hb' => ?_⟩
  · obtain ⟨b', hb', -⟩ := hmade hsetters
    exact ⟨b', hb'⟩
  · obtain ⟨b'', hb'', hloses⟩ := hmade (hneeded b' hb')
    cases hb'.symm.trans hb''
    exact ⟨Accessor.LosesType.names_eq hloses, hloses⟩

/-- A lamp with two properties, and a bulb that takes only a whole number for one of them. -/
def lamps : ModuleDeclaration where
  name := "lamps"
  types := []
  classes :=
    [⟨"Lamp", .protocol, [], [],
        [⟨"watts", .method ⟨"Lamp.watts", "watts", [self], some (.name "int"), .nothing⟩, false⟩,
          ⟨"label", .method ⟨"Lamp.label", "label", [self], some (.name "str"), .nothing⟩, false⟩], []⟩,
      ⟨"Bulb", .concrete, [], [.name "Lamp"],
        [⟨"watts", .method ⟨"Bulb.watts", "watts", [self], some (.name "int"), .get "watts" none⟩,
            false⟩,
          ⟨"setWatts", .method ⟨"Bulb.setWatts", "setWatts",
            [self, ⟨"value", .positional, false, some (.name "int")⟩], none, .set "watts"⟩, false⟩,
          ⟨"label", .method ⟨"Bulb.label", "label", [self], some (.name "str"), .get "label" none⟩,
            false⟩,
          ⟨"setLabel", .method ⟨"Bulb.setLabel", "setLabel",
            [self, ⟨"value", .positional, false, none⟩], none, .set "label"⟩, false⟩,
          ⟨"create", .staticMethod ⟨"Bulb.create", "create", [], none, .create "Bulb"⟩, false⟩], []⟩]
  functions := []
  values := []
where
  self : Parameter := ⟨"self", .positional, false, none⟩

def bulbRegistration : Registration :=
  ⟨.modifiable, .cls (.declared "Lamp"), .cls (.declared "Bulb"), none⟩

theorem bulbRegistration_made : ∃ b w,
    (bulbRegistration.bind lamps.toUniverse (.cls (.declared "Bulb"))).run {} = (.ok b, w) :=
  Action.exists_of_isOk (by decide)

theorem Registration.bind_unannotate_label :
    let bulb : TypeExpr := .cls (.declared "Bulb")
    ∃ b w b', (bulbRegistration.bind lamps.toUniverse bulb).run {} = (.ok b, w) ∧
      ((bulbRegistration.bind (lamps.unannotate (.declared "Lamp") "label").toUniverse bulb).run {}).1 =
        .ok b' ∧
      b'.names = b.names ∧ List.Forall₂ (Accessor.LosesType "label") b.accessors b'.accessors := by
  intro bulb
  obtain ⟨b, w, hbind⟩ := bulbRegistration_made
  obtain ⟨watts, label, hdeclared, hwatts, hlabel, hclass⟩ : ∃ watts label,
      lamps.toUniverse.discover bulb bulbRegistration.definition = .ok [watts, label] ∧
        watts.name = "watts" ∧ label.name = "label" ∧ label.declaringClass = .declared "Lamp" :=
    ⟨_, _, rfl, rfl, rfl, rfl⟩
  have hroot : lamps.toUniverse.classes.Below bulbRegistration.implementation.erase .object := by decide
  have hkeeps : ∀ q ∈ [watts, label], lamps.toUniverse.KeepsSetter bulbRegistration.implementation
      label q := by
    intro q hq hsetter
    have hother : ∀ q ∈ [watts, label], setterName q.name ≠ label.name := by
      simp only [List.forall_mem_cons, hwatts, hlabel]
      decide
    exact absurd hsetter (hother q hq)
  have hany : lamps.toUniverse.SetterTakesAny bulbRegistration.implementation label.name := by
    intro f accepted hmethod hhint
    rw [hlabel] at hmethod
    cases hmethod
    cases hhint
  obtain ⟨hmade, hsame⟩ := bind_unannotate hbind hdeclared (p := label) (by simp) hroot
  rw [hclass, hlabel] at hmade hsame
  obtain ⟨b', hb'⟩ := hmade.2 fun _ => ⟨hlabel ▸ hany, hkeeps⟩
  exact ⟨b, w, b', hbind, hb', hsame b' hb'⟩

/-- Without its annotation, the property that takes a whole number has no setter any more. -/
theorem Registration.bind_unannotate_watts :
    let bulb : TypeExpr := .cls (.declared "Bulb")
    ∃ b w declared p failure w', (bulbRegistration.bind lamps.toUniverse bulb).run {} = (.ok b, w) ∧
      lamps.toUniverse.discover bulb bulbRegistration.definition = .ok declared ∧ p ∈ declared ∧
      p.name = "watts" ∧
      (bulbRegistration.bind (lamps.unannotate p.declaringClass p.name).toUniverse bulb).run {} =
        (.error failure, w') ∧ failure.kind = .shape := by
  intro bulb
  obtain ⟨b, w, hbind⟩ := bulbRegistration_made
  have hrefused : Failure.kindOf? ((bulbRegistration.bind
      (lamps.unannotate (.declared "Lamp") "watts").toUniverse bulb).run {}).1 = some .shape := by decide
  obtain ⟨failure, hfailure, hkind⟩ := Failure.exists_of_kindOf? hrefused
  exact ⟨b, w, _, _, failure, _, hbind, rfl, List.mem_cons_self, rfl, Prod.ext hfailure rfl, hkind⟩

end RecordBinding
