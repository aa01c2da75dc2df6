import Mathlib.Logic.Equiv.Basic
import RecordBinding.Proofs.Binding.Renaming

namespace RecordBinding

/-- The names that stand in the declaration of a class. -/
def ClassDeclaration.names (d : ClassDeclaration) : List String :=
  d.name :: (d.parameters.map TypeParameter.name ++ d.mentions)

/-- A name that a module uses nowhere and that means nothing in it. -/
structure ModuleDeclaration.Unused (m : ModuleDeclaration) (y : String) : Prop where
  scope : m.toUniverse.scope.resolve? y = none
  classes : ∀ d ∈ m.classes, y ∉ d.names

/-- In the class `k` the parameter `x` is named `y`, and a parameter `y` is named `x`. -/
def NewNames.exchange (k x y : String) : NewNames where
  toFun c := if c = .declared k then Equiv.swap x y else id
  injective c := by
    split
    · exact (Equiv.swap x y).injective
    · exact fun _ _ h => h

/-- A setter or a build that the class `k` inherits, or that is inherited from it, mentions `x`, and the
class that inherits it has a meaning of its own for this name. -/
def Universe.Captures (u : Universe) (k x : String) : Prop :=
  ∃ c d name member, u.classes.member? c name = some (d, member) ∧ d ≠ c ∧
    (c = .declared k ∨ d = .declared k) ∧ IsDriven name ∧ x ∈ member.mentions ∧
    (u.scopeOf c).resolve? x ≠ none

namespace NewNames

variable {k x y : String}

theorem exchange_of_ne {c : ClassId} (h : c ≠ .declared k) (n : String) : exchange k x y c n = n := by
  simp [exchange, h]

theorem exchange_left : exchange k x y (.declared k) x = y := by
  simp [exchange]

theorem exchange_of_ne_of_ne (c : ClassId) {n : String} (hx : n ≠ x) (hy : n ≠ y) :
    exchange k x y c n = n := by
  unfold exchange
  dsimp only
  split
  · exact Equiv.swap_apply_of_ne_of_ne hx hy
  · rfl

end NewNames

theorem Universe.resolve?_scopeOf_eq_none_iff {u : Universe} {c : ClassId} {info : ClassInfo}
    (hfind : u.classes.find? c = some info) {n : String} :
    (u.scopeOf c).resolve? n = none ↔
      n ∉ info.typeParameters.map TypeVar.name ∧ n ≠ c.qualname ∧ u.scope.resolve? n = none := by
  unfold scopeOf
  dsimp only
  rw [hfind, Option.map_some, Option.getD_some, Scope.resolve?_extend, Option.or_eq_none_iff,
    List.lookup_eq_none_iff, List.forall_mem_append, and_assoc]
  simp only [List.forall_mem_singleton, bne_iff_ne, List.mem_map, not_exists, not_and, eq_comm (b := n),
    forall_exists_index, and_imp, forall_apply_eq_imp_iff₂, ne_eq]

namespace ModuleDeclaration

variable {m : ModuleDeclaration} {k x y : String}

theorem exists_of_mentioned {c d : ClassId} {name n : String} {member : Member}
    (h : m.toUniverse.classes.member? c name = some (d, member)) (hn : n ∈ member.mentions) :
    ∃ e ∈ m.classes, d = .declared e.name ∧ member ∈ e.members := by
  obtain ⟨f, hf, -⟩ := List.mem_flatMap.1 hn
  obtain ⟨info, hinfo, hmember⟩ := Classes.exists_of_mem_functions (Classes.mem_of_member? h).2 hf
  obtain ⟨e, he, rfl, -, hmembers⟩ := exists_of_find? hinfo
  exact ⟨e, he, rfl, hmembers member hmember⟩

theorem find?_of_inherited {c d : ClassId} {name n : String} {member : Member}
    (h : m.toUniverse.classes.member? c name = some (d, member)) (hne : d ≠ c)
    (hn : n ∈ member.mentions) : ∃ info, m.toUniverse.classes.find? c = some info := by
  have hd := (Classes.mem_of_member? h).1
  obtain ⟨e, -, rfl, -⟩ := exists_of_mentioned h hn
  cases c with
  | declared n =>
      cases hfind : m.toUniverse.classes.find? (.declared n) with
      | some info => exact ⟨info, rfl⟩
      | none => simp [Classes.ancestors, hfind, hne] at hd
  | builtin b => cases b <;> simp [Classes.ancestors, ClassId.object] at hd
  | _ => simp [Classes.ancestors, ClassId.object] at hd

theorem Unused.scopeOf (hy : m.Unused y) {c : ClassId} {info : ClassInfo}
    (hfind : m.toUniverse.classes.find? c = some info) : (m.toUniverse.scopeOf c).resolve? y = none := by
  obtain ⟨d, hd, rfl, hparameters, -⟩ := exists_of_find? hfind
  have hunnamed := hy.classes d hd
  rw [ClassDeclaration.names, List.mem_cons, List.mem_append, not_or, not_or] at hunnamed
  rw [Universe.resolve?_scopeOf_eq_none_iff hfind, hparameters]
  exact ⟨hunnamed.2.1, hunnamed.1, hy.scope⟩

theorem suit_exchange (hx : ∀ d ∈ m.classes, d.name = k → x ∈ d.parameters.map TypeParameter.name)
    (hy : m.Unused y) : (NewNames.exchange k x y).Suit m := by
  intro d hd n hn
  by_cases hk : d.name = k
  · by_cases hnx : n = x
    · exact .inl (hnx ▸ hx d hd hk)
    · refine .inr (NewNames.exchange_of_ne_of_ne _ hnx ?_)
      rintro rfl
      exact hy.classes d hd (List.mem_cons_of_mem _ (List.mem_append_right _ hn))
  · exact .inr (NewNames.exchange_of_ne (by simpa using hk) n)

/-- Where nothing is captured, inherited setters and builds keep the meaning of their annotations. -/
theorem spareInherited_exchange
    (hx : ∀ d ∈ m.classes, d.name = k → x ∈ d.parameters.map TypeParameter.name)
    (hy : m.Unused y) (hcaptures : ¬ m.toUniverse.Captures k x) :
    (NewNames.exchange k x y).SpareInherited m := by
  intro c d name member hmember hne hdriven n hn
  obtain ⟨info, hinfo⟩ := find?_of_inherited hmember hne hn
  have hny : n ≠ y := by
    obtain ⟨e, he, -, hmem⟩ := exists_of_mentioned hmember hn
    rintro rfl
    have hmentions : n ∈ e.mentions :=
      List.mem_append_right _ (List.mem_flatMap.2 ⟨member, hmem, hn⟩)
    exact hy.classes e he (List.mem_cons_of_mem _ (List.mem_append_right _ hmentions))
  -- a name that the exchange leaves alone in both classes means what it meant
  have hkept : NewNames.exchange k x y c n = n → NewNames.exchange k x y d n = n →
      (m.toUniverse.scopeOf c).Renames (NewNames.exchange k x y).renaming (NewNames.exchange k x y d)
        ((m.toUniverse.rename (NewNames.exchange k x y)).scopeOf c) n := by
    intro hc hd
    have hscope := renames_scopeOf (m := m) (.inr hc)
    rw [Scope.Renames] at hscope ⊢
    rw [hd, ← hscope, hc]
  by_cases hnx : n = x
  · subst hnx
    by_cases hboundary : c = .declared k ∨ d = .declared k
    · have hnone : (m.toUniverse.scopeOf c).resolve? n = none := by
        by_contra hmeans
        exact hcaptures ⟨c, d, name, member, hmember, hne, hboundary, hdriven, hn, hmeans⟩
      by_cases hc : c = .declared k
      · -- a class that has the name as a parameter gives it a meaning
        obtain ⟨e, he, rfl, hparameters, -⟩ := exists_of_find? hinfo
        rw [Universe.resolve?_scopeOf_eq_none_iff hinfo, hparameters] at hnone
        exact absurd (hx e he (ClassId.declared.inj hc)) hnone.1
      · obtain rfl := hboundary.resolve_left hc
        have hscope := renames_scopeOf (m := m) (.inr (NewNames.exchange_of_ne (x := n) (y := y) hc y))
        rw [Scope.Renames, NewNames.exchange_of_ne hc, hy.scopeOf hinfo] at hscope
        rw [Scope.Renames, NewNames.exchange_left, hscope, hnone]
    · obtain ⟨hc, hd⟩ := not_or.1 hboundary
      exact hkept (NewNames.exchange_of_ne hc n) (NewNames.exchange_of_ne hd n)
  · exact hkept (NewNames.exchange_of_ne_of_ne c hnx hny) (NewNames.exchange_of_ne_of_ne d hnx hny)

theorem not_captures (h : ∀ d ∈ m.classes, ∀ member ∈ d.members, x ∉ member.mentions) :
    ¬ m.toUniverse.Captures k x := by
  rintro ⟨c, d, name, member, hmember, -, -, -, hmentions, -⟩
  obtain ⟨e, he, -, hmem⟩ := exists_of_mentioned hmember hmentions
  exact h e he member hmem hmentions

/-- A class may name a parameter `y` instead of `x`, when `y` is used nowhere. The properties of every
definition stay what they are but for this name, and every definition that is refused is refused alike. The
same holds of bindings, as long as the class takes part in no capture of the name. -/
theorem parameter_names_immaterial (m : ModuleDeclaration) (k x y : String)
    (hx : ∀ d ∈ m.classes, d.name = k → x ∈ d.parameters.map TypeParameter.name) (hy : m.Unused y) :
    let g := NewNames.exchange k x y
    (∀ resolved definition, Agree (List.Forall₂ (DeclaredProperty.RenamesTo g))
        (m.toUniverse.discover resolved definition)
        ((m.rename g).toUniverse.discover (resolved.rename g.renaming) (definition.rename g.renaming))) ∧
      (¬ m.toUniverse.Captures k x → ∀ (r : Registration) resolved w,
        Agree (Binding.RenamesTo g) ((r.bind m.toUniverse resolved).run w).1
          (((r.rename g.renaming).bind (m.rename g).toUniverse (resolved.rename g.renaming)).run w).1) := by
  intro g
  have hg : g.Suit m := suit_exchange hx hy
  rw [toUniverse_rename hg]
  exact ⟨discover_rename hg, fun hcaptures => bind_rename hg (spareInherited_exchange hx hy hcaptures)⟩

/-- A jar for integers, with a setter that it inherits from a generic holder. Its own parameter is for
something else. -/
def jars (x : String) : ModuleDeclaration :=
  let self : Parameter := ⟨"self", .positional, false, none⟩
  let int : Option TypeSource := some (.name "int")
  { name := "jars"
    types := []
    classes :=
      [⟨"Item", .protocol, [], [],
          [⟨"item", .method ⟨"Item.item", "item", [self], int, .nothing⟩, false⟩], []⟩,
        ⟨"Holder", .concrete, [⟨"T", none⟩], [],
          [⟨"setItem", .method ⟨"Holder.setItem", "setItem",
            [self, ⟨"value", .positional, false, some (.name "T")⟩], none, .set "item"⟩, false⟩], []⟩,
        ⟨"Jar", .concrete, [⟨x, some (.name "str")⟩], [.apply "Holder" [.name "int"], .name "Item"],
          [⟨"item", .method ⟨"Jar.item", "item", [self], int, .get "item" none⟩, false⟩,
            ⟨"create", .staticMethod ⟨"Jar.create", "create", [], none, .create "Jar"⟩, false⟩], []⟩]
    functions := []
    values := [] }

def jar : TypeExpr := .cls (.declared "Jar")

def jarInPlace : Registration := ⟨.modifiable, .cls (.declared "Item"), jar, none⟩

theorem parameter_names_immaterial_jars :
    let m := jars "S"
    let g := NewNames.exchange "Jar" "S" "R"
    (∀ d ∈ m.classes, d.name = "Jar" → "S" ∈ d.parameters.map TypeParameter.name) ∧ m.Unused "R" ∧
      ¬ m.toUniverse.Captures "Jar" "S" ∧
      ∃ b b', ((jarInPlace.bind m.toUniverse jar).run {}).1 = .ok b ∧
        (((jarInPlace.rename g.renaming).bind (m.rename g).toUniverse (jar.rename g.renaming)).run {}).1 =
          .ok b' ∧ Binding.RenamesTo g b b' := by
  intro m g
  have hx : ∀ d ∈ m.classes, d.name = "Jar" → "S" ∈ d.parameters.map TypeParameter.name := by decide
  have hy : m.Unused "R" :=
    ⟨Option.isNone_iff_eq_none.1 (by decide +kernel), by decide +kernel⟩
  have hcaptures : ¬ m.toUniverse.Captures "Jar" "S" := not_captures (by decide +kernel)
  have hbinds : ((jarInPlace.bind m.toUniverse jar).run {}).1.toOption.isSome = true := by decide +kernel
  obtain ⟨b, hb⟩ := Option.isSome_iff_exists.1 hbinds
  have hagree := (parameter_names_immaterial m "Jar" "S" "R" hx hy).2 hcaptures jarInPlace jar {}
  rw [ok_of_toOption hb] at hagree
  obtain ⟨b', hb', hrenames⟩ := hagree.exists_ok_right
  exact ⟨hx, hy, hcaptures, b, b', ok_of_toOption hb, hb', hrenames⟩

/-- When the jar names its parameter as the holder does, the inherited setter seems to accept what the jar's
parameter stands for. The same jar with another name is bound. -/
theorem parameter_names_matter :
    let m := jars "T"
    let g := NewNames.exchange "Jar" "T" "Y"
    (∀ d ∈ m.classes, d.name = "Jar" → "T" ∈ d.parameters.map TypeParameter.name) ∧ m.Unused "Y" ∧
      (∃ failure, ((jarInPlace.bind m.toUniverse jar).run {}).1 = .error failure ∧ failure.kind = .shape) ∧
      ∃ b, (((jarInPlace.rename g.renaming).bind (m.rename g).toUniverse (jar.rename g.renaming)).run {}).1 =
        .ok b := by
  intro m g
  have hbinds : (((jarInPlace.rename g.renaming).bind (m.rename g).toUniverse
      (jar.rename g.renaming)).run {}).1.toOption.isSome = true := by decide +kernel
  obtain ⟨b, hb⟩ := Option.isSome_iff_exists.1 hbinds
  refine ⟨by decide, ⟨Option.isNone_iff_eq_none.1 (by decide +kernel), by decide +kernel⟩, ?_, b,
    ok_of_toOption hb⟩
  exact Failure.exists_of_kindOf? (by decide +kernel)

end ModuleDeclaration

end RecordBinding
