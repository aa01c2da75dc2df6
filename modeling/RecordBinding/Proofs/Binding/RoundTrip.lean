import RecordBinding.Binding.Session
import RecordBinding.Proofs.Binding.Generated

namespace RecordBinding

theorem mapM_eq_ok {α β ε : Type} {f : α → Except ε β} {g : α → β} {l : List α}
    (h : ∀ a ∈ l, f a = .ok (g a)) : l.mapM f = .ok (l.map g) := by
  induction l with
  | nil => rfl
  | cons a l ih =>
      rw [List.mapM_cons, h a List.mem_cons_self, ih fun a' ha' => h a' (List.mem_cons_of_mem a ha')]
      rfl

namespace Binding

variable {u : Universe} {r : Registration} {declared : List DeclaredProperty}
  {key : String → String} {made : String} {resolved : TypeExpr} {w w' : World}
  {b : Binding World}

theorem nodup_initialFields (u : Universe) (c : ClassId) :
    ((u.initialFields c).map (·.1)).Nodup := by
  unfold Universe.initialFields
  refine List.foldlRecOn (motive := fun fields : Fields => (fields.map Prod.fst).Nodup) _ _ ?_
    fun fields h ancestor _ => ?_
  · exact List.nodup_nil
  · split
    · exact Fields.nodup_keys_setAll h _
    · exact h

theorem start_of_makesBlank {factory : Attribute} {written : String} {keys : List String}
    (h : factory.MakesBlank u written keys) (w : World) :
    ∃ w', (factory.call u []).run w = (.ok (.object written w.states.size), w') ∧
      w'.state? (.object written w.states.size) = some (u.initialFields (.declared written)) := by
  obtain ⟨trace, hrun⟩ := h.make w
  exact ⟨_, hrun, World.state?_push { w with trace } written _⟩

section Accessors

variable {q : DeclaredProperty → Accessor World → Prop} {accessors : List (Accessor World)}

theorem distinct_of_isFor (hshape : r.Generated u declared key made)
    (h : List.Forall₂ (fun p a => a.IsFor u p ∧ q p a) declared accessors) :
    ∀ a ∈ accessors, ∀ a' ∈ accessors, key a.name = key a'.name → a.name = a'.name := by
  intro a ha a' ha' hkey
  obtain ⟨p, hp, hfor, -⟩ := exists_of_mem_right h ha
  obtain ⟨p', hp', hfor', -⟩ := exists_of_mem_right h ha'
  rw [hfor.name, hfor'.name] at hkey ⊢
  exact hshape.distinct p hp p' hp' hkey

theorem blank_of_isFor {factory : Attribute} {className : String}
    (hblank : factory.MakesBlank u className (declared.map fun p => key p.name))
    (h : List.Forall₂ (fun p a => a.IsFor u p ∧ q p a) declared accessors) :
    ∀ a ∈ accessors, (u.initialFields (.declared className)).get? (key a.name) = none := by
  intro a ha
  obtain ⟨p, hp, hfor, -⟩ := exists_of_mem_right h ha
  rw [hfor.name]
  exact hblank.blank _ (List.mem_map.2 ⟨p, hp, rfl⟩)

end Accessors

theorem keyed_of_builder {builder : String} (hshape : r.Generated u declared key made)
    (hbuilder : GeneratedBuilder u r declared key builder made)
    (hdiscover : u.discover resolved r.definition = .ok declared)
    (hbind : (Action.bindImmutable u resolved r.definition r.implementation r.factory).run w =
      (.ok b, w')) : b.Keyed u key builder made := by
  obtain ⟨factory, builderId, build, found, ⟨w₁, hfactory⟩, ⟨w₂, w₃, hid⟩, ⟨w₄, w₅, hbuild⟩, hfound,
    -, hstart, hfinish, haccessors⟩ := Action.bindImmutable_ok hbind
  cases hdiscover.symm.trans hfound
  have hblank := hbuilder.factory factory w w₁ hfactory
  cases Action.builderClass_of_makesBlank hblank hid
  obtain ⟨name, ⟨member, f, hmember, hkind, hdoes⟩, hname⟩ := hbuilder.build
  have hf : build = f := by
    have h := (Action.findBuild_ok hbuild).1
    rw [hmember, Option.map_some, hkind] at h
    cases h
    rfl
  refine ⟨distinct_of_isFor hshape haccessors, ?_, blank_of_isFor hblank haccessors, ?_, ?_, ?_⟩
  · intro a ha
    obtain ⟨p, hp, hfor, hprobe, hsetter⟩ := exists_of_mem_right haccessors ha
    obtain ⟨setter, g, hg, hgkind, hgdoes⟩ := hbuilder.setters p hp
    rw [hfor.name]
    exact Accessor.keyed_of_probe_eq_none hfor (hshape.getters p hp) hprobe
      (Universe.builderSetter_ok hg hgkind hsetter).2 hgdoes
  · intro a ha htracks
    obtain ⟨p, -, -, hprobe, -⟩ := exists_of_mem_right haccessors ha
    rw [Accessor.tracksPresence, hprobe] at htracks
    cases htracks
  · rw [hstart]
    exact start_of_makesBlank hblank
  · intro id fields w hnodup hstate
    obtain ⟨built, w₆, hrun, hbuilt⟩ :=
      Action.run_callFunction_build hdoes hname hbuilder.instances hstate
    refine ⟨built, _, w₆, ?_, hbuilt, fun a _ => Fields.get?_setAll hnodup _ _⟩
    rw [hfinish, hf]
    exact hrun

theorem keyed_of_inPlace (hshape : r.Generated u declared key made)
    (hinPlace : GeneratedInPlace u r declared key made)
    (hdiscover : u.discover resolved r.definition = .ok declared)
    (hbind : (Action.bindModifiable u resolved r.definition r.implementation r.factory).run w =
      (.ok b, w')) : b.Keyed u key made made := by
  obtain ⟨factory, found, ⟨w₁, hfactory⟩, hfound, hstart, hfinish, haccessors⟩ :=
    Action.bindModifiable_ok hbind
  cases hdiscover.symm.trans hfound
  have hblank := hinPlace.factory factory w w₁ hfactory
  have hunset := blank_of_isFor hblank haccessors
  refine ⟨distinct_of_isFor hshape haccessors, ?_, hunset, fun a ha _ => hunset a ha, ?_, ?_⟩
  · intro a ha
    obtain ⟨p, hp, hfor, hprobe, setter, w₂, w₃, hfind, hsetter⟩ := exists_of_mem_right haccessors ha
    obtain ⟨member, f, hmember, hkind, hdoes⟩ := hinPlace.setters p hp
    have hf : setter = f := by
      have h := (Action.findSetter_ok hfind).1
      rw [hshape.implementation, hmember, Option.map_some, hkind] at h
      cases h
      rfl
    subst hf
    rw [hfor.name]
    cases hasked : a.probe with
    | none =>
        exact Accessor.keyed_of_probe_eq_none hfor (hshape.getters p hp) hasked hsetter hdoes
    | some probe =>
        rw [hshape.implementation, hasked] at hprobe
        obtain ⟨g, hasks⟩ := Universe.run_of_findProbe (hinPlace.probes p hp) hprobe
        exact Accessor.keyed_of_probe hfor (hshape.getters p hp) hasked hasks hsetter hdoes
  · rw [hstart]
    exact start_of_makesBlank hblank
  · intro id fields w _ hstate
    refine ⟨id, fields, w, ?_, hstate, fun a ha => ?_⟩
    · rw [hfinish]
      rfl
    · rw [hunset a ha, Option.or_none]

theorem exists_keyed (hshape : r.Generated u declared key made)
    (hdiscover : u.discover resolved r.definition = .ok declared)
    (hbind : (r.bind u resolved).run w = (.ok b, w')) : ∃ written, b.Keyed u key written made := by
  have hvariant := hshape.variant
  unfold Registration.bind at hbind
  cases hkind : r.variant with
  | immutable =>
      rw [hkind] at hvariant hbind
      obtain ⟨builder, hbuilder⟩ := hvariant
      exact ⟨builder, keyed_of_builder hshape hbuilder hdiscover hbind⟩
  | modifiable =>
      rw [hkind] at hvariant hbind
      exact ⟨made, keyed_of_inPlace hshape hvariant hdiscover hbind⟩

end Binding

theorem Session.performAll_append {σ : Type} (s : Session σ) (commands rest : List SessionCommand)
    (state : σ) :
    s.performAll (commands ++ rest) state =
      let (outcomes, s', state') := s.performAll commands state
      let (others, s'', state'') := s'.performAll rest state'
      (outcomes ++ others, s'', state'') := by
  induction commands generalizing s state with
  | nil => rfl
  | cons command commands ih =>
      rw [List.cons_append, performAll, performAll]
      rcases s.perform command state with ⟨outcome, s', state'⟩
      dsimp only
      rw [ih]
      rfl

namespace Binding.Keyed

variable {u : Universe} {b : Binding World} {key : String → String} {written made : String}
  {w : World} {id : Nat} {fields : Fields}

theorem run_open (h : b.Keyed u key written made) (w : World) :
    ∃ w', b.open.run w = (.ok ⟨b, some (.object written w.states.size)⟩, w') ∧
      w'.state? (.object written w.states.size) = some (u.initialFields (.declared written)) := by
  obtain ⟨w', hstart, hstate⟩ := h.start w
  refine ⟨w', ?_, hstate⟩
  unfold Binding.open
  rw [Action.run_bind, Action.run_guarded, hstart]
  rfl

theorem run_write (h : b.Keyed u key written made) {name : String} (hname : b.has name = true)
    (hstate : w.state? (.object written id) = some fields) (value : Value) :
    ∃ w', (Session.write ⟨b, some (.object written id)⟩ name value).run w = (.ok (), w') ∧
      w'.state? (.object written id) = some (fields.set (key name) value) := by
  obtain ⟨a, hfind⟩ : ∃ a, b.accessors.find? (fun a => a.name == name) = some a := by
    rw [← Option.isSome_iff_exists, List.find?_isSome]
    obtain ⟨a, ha, rfl⟩ := List.mem_map.1 (List.contains_iff_mem.1 hname)
    exact ⟨a, ha, beq_self_eq_true _⟩
  have haccessor : b.accessor name = .ok a := by rw [accessor, hfind]
  have hfound := List.find?_some hfind
  have haname : a.name = name := eq_of_beq hfound
  obtain ⟨w', hset, hstate'⟩ :=
    (h.accessors a (List.mem_of_find?_eq_some hfind)).set id fields value w hstate
  refine ⟨w', ?_, haname ▸ hstate'⟩
  unfold Session.write
  rw [haccessor]
  exact hset

theorem run_writes (h : b.Keyed u key written made) {writes : List (String × Value)}
    (hnames : ∀ write ∈ writes, b.has write.1 = true) (hnodup : (fields.map (·.1)).Nodup)
    (hstate : w.state? (.object written id) = some fields) :
    ∃ fields' w', Session.performAll ⟨b, some (.object written id)⟩
        (writes.map fun write => .write write.1 write.2) w =
          (writes.map fun _ => .ok .null, ⟨b, some (.object written id)⟩, w') ∧
      (Session.writeAll ⟨b, some (.object written id)⟩ writes).run w = (.ok (), w') ∧
      w'.state? (.object written id) = some fields' ∧ (fields'.map (·.1)).Nodup ∧
      ∀ a ∈ b.accessors, fields'.get? (key a.name) =
        (writes.reverse.lookup a.name).or (fields.get? (key a.name)) := by
  induction writes generalizing w fields with
  | nil => exact ⟨fields, w, rfl, rfl, hstate, hnodup, fun _ _ => rfl⟩
  | cons write writes ih =>
      obtain ⟨name, value⟩ := write
      have hname : b.has name = true := hnames (name, value) List.mem_cons_self
      obtain ⟨w₁, hwrite, hstate₁⟩ := h.run_write hname hstate value
      obtain ⟨fields', w', hperform, hwriteAll, hstate', hnodup', hget⟩ :=
        ih (fun other hother => hnames other (List.mem_cons_of_mem _ hother))
          (Fields.nodup_keys_set hnodup (key name) value) hstate₁
      refine ⟨fields', w', ?_, ?_, hstate', hnodup', fun a ha => ?_⟩
      · rw [List.map_cons, Session.performAll, Session.perform, hwrite]
        dsimp only
        rw [hperform]
        rfl
      · rw [Session.writeAll, Action.run_bind, hwrite]
        exact hwriteAll
      · rw [hget a ha, Fields.get?_set, List.reverse_cons, List.lookup_append, Option.or_assoc,
          List.lookup_cons, List.lookup_nil]
        congr 1
        obtain ⟨a', ha', hname'⟩ := List.mem_map.1 (List.contains_iff_mem.1 hname)
        by_cases hsame : a.name = name
        · rw [if_pos (congrArg key hsame), beq_iff_eq.2 hsame]
          rfl
        · have hkey : key a.name ≠ key name := by
            intro hkey
            rw [← hname'] at hkey hsame
            exact hsame (h.distinct a ha a' ha' hkey)
          rw [if_neg hkey, beq_eq_false_iff_ne.2 hsame]
          rfl

/-- A construction succeeds, be it write by write or at once. What it makes holds what was written last
under each key, and otherwise what instances of its class start with. -/
theorem construct (h : b.Keyed u key written made) {writes : List (String × Value)}
    (hnames : ∀ write ∈ writes, b.has write.1 = true) (w : World) :
    ∃ session w₁ id fields w₂, b.open.run w = (.ok session, w₁) ∧
      session.performAll (writes.map (fun write => .write write.1 write.2) ++ [.finish]) w₁ =
        (writes.map (fun _ => .ok .null) ++ [.ok (.object made id)], session.close, w₂) ∧
      (b.construct writes).run w = (.ok (.object made id), w₂) ∧
      w₂.state? (.object made id) = some fields ∧
      ∀ a ∈ b.accessors, fields.get? (key a.name) = (writes.reverse.lookup a.name).or
        ((u.initialFields (.declared made)).get? (key a.name)) := by
  obtain ⟨w₁, hopen, hstate₁⟩ := h.run_open w
  obtain ⟨fields, w₂, hperform, hwriteAll, hstate₂, hnodup, hget⟩ :=
    h.run_writes hnames (nodup_initialFields u _) hstate₁
  obtain ⟨id, fields', w₃, hfinish, hstate₃, hget'⟩ := h.finish _ fields w₂ hnodup hstate₂
  have hresult : (Session.result ⟨b, some (.object written w.states.size)⟩).run w₂ =
      (.ok (.object made id), w₃) := by
    have htarget : (Action.ofExcept (Session.openTarget ⟨b, some (.object written w.states.size)⟩) :
        Action World Value).run w₂ = (.ok (.object written w.states.size), w₂) := rfl
    unfold Session.result
    rw [Action.run_bind, htarget]
    dsimp only
    cases hbuild : b.finish with
    | none =>
        rw [hbuild] at hfinish
        exact hfinish
    | some build =>
        rw [hbuild] at hfinish
        dsimp only at hfinish ⊢
        rw [Action.run_guarded, hfinish]
        rfl
  refine ⟨_, w₁, id, fields', w₃, hopen, ?_, ?_, hstate₃, fun a ha => ?_⟩
  · rw [Session.performAll_append, hperform]
    dsimp only
    rw [Session.performAll, Session.perform, hresult]
    rfl
  · unfold Binding.construct
    rw [Action.run_bind, hopen]
    dsimp only
    rw [Action.run_bind, hwriteAll]
    exact hresult
  · rw [hget' a ha, hget a ha, h.blank a ha, Option.or_none]

/-- Reading gives the outcomes of the properties in order, up to the first failure. Access to one property
leaves the states as they are, so it has the outcome that it would have alone. -/
theorem run_read (h : b.Keyed u key written made)
    (hstate : w.state? (.object made id) = some fields) :
    ((b.read (.object made id)).run w).1 = b.accessors.mapM fun a => do
      return (a.name, ← ((a.get (.object made id)).run w).1) := by
  have haccess : ∀ a ∈ b.accessors, ∀ trace, ∃ trace',
      (do return (a.name, ← a.get (.object made id)) : Action World (String × Value)).run
        { w with trace } =
      ((do return (a.name, ← ((a.get (.object made id)).run w).1)), { w with trace := trace' }) := by
    intro a ha trace
    obtain ⟨unset, hget⟩ := (h.accessors a ha).get
    obtain ⟨trace', hhere⟩ := hget id fields { w with trace } hstate
    obtain ⟨trace'', halone⟩ := hget id fields w hstate
    refine ⟨trace', ?_⟩
    rw [Action.run_bind, hhere, halone]
    dsimp only
    rcases fields.get? (key a.name) with - | value
    · cases unset <;> rfl
    · rfl
  obtain ⟨trace, hrun⟩ := Action.run_mapM_traced haccess w.trace
  exact congrArg Prod.fst hrun

end Binding.Keyed

/-- What is written to the properties of a binding of the generated shape is read from the finished
value: the last value written to each property. A property that is not written is absent if it has a
probe, whatever its getter would do, and otherwise read as from a value without any writes. -/
theorem Binding.read_of_writes {u : Universe} {r : Registration} {declared : List DeclaredProperty}
    {key : String → String} {made : String} {resolved : TypeExpr}
    (hshape : r.Generated u declared key made)
    (hdiscover : u.discover resolved r.definition = .ok declared) {w₀ w₁ : World}
    {b : Binding World} (hbind : (r.bind u resolved).run w₀ = (.ok b, w₁))
    {writes : List (String × Value)} (hnames : ∀ write ∈ writes, b.has write.1 = true) (w : World) :
    ∃ session w₂ result w₃, b.open.run w = (.ok session, w₂) ∧
      session.performAll (writes.map (fun write => .write write.1 write.2) ++ [.finish]) w₂ =
        (writes.map (fun _ => .ok .null) ++ [.ok result], session.close, w₃) ∧
      (b.construct writes).run w = (.ok result, w₃) ∧
      ∀ w₄ : World, w₄.state? result = w₃.state? result →
        (((b.read result).run w₄).1 = b.accessors.mapM fun a => do
          return (a.name, ← ((a.get result).run w₄).1)) ∧
        ((∀ a ∈ b.accessors, writes.reverse.lookup a.name ≠ none ∨ a.tracksPresence = true) →
          ((b.read result).run w₄).1 =
            .ok (b.accessors.map fun a => (a.name, (writes.reverse.lookup a.name).getD .absent))) ∧
        ∀ a ∈ b.accessors, match writes.reverse.lookup a.name with
          | some value => ((a.get result).run w₄).1 = .ok value
          | none =>
              if a.tracksPresence then
                ((a.get result).run w₄).1 = .ok .absent ∧
                  ∀ getter, ({ a with getter }.get result).run w₄ = (a.get result).run w₄
              else
                ∀ w₅ unwritten w₆ w₇, (b.construct []).run w₅ = (.ok unwritten, w₆) →
                  w₇.state? unwritten = w₆.state? unwritten →
                  ((a.get result).run w₄).1 = ((a.get unwritten).run w₇).1 := by
  obtain ⟨written, hkeyed⟩ := exists_keyed hshape hdiscover hbind
  obtain ⟨session, w₂, id, fields, w₃, hopen, hperform, hconstruct, hstate, hget⟩ :=
    hkeyed.construct hnames w
  refine ⟨session, w₂, .object made id, w₃, hopen, hperform, hconstruct, fun w₄ hsame => ?_⟩
  rw [hstate] at hsame
  have hwritten : ∀ a ∈ b.accessors, ∀ value, writes.reverse.lookup a.name = some value →
      ((a.get (.object made id)).run w₄).1 = .ok value := by
    intro a ha value hlookup
    obtain ⟨unset, hread⟩ := (hkeyed.accessors a ha).get
    obtain ⟨trace, hrun⟩ := hread id fields w₄ hsame
    have hvalue := hget a ha
    rw [hlookup, Option.some_or] at hvalue
    rw [hrun, hvalue]
  have habsent : ∀ a ∈ b.accessors, writes.reverse.lookup a.name = none →
      a.tracksPresence = true → ((a.get (.object made id)).run w₄).1 = .ok .absent ∧
        ∀ getter, ({ a with getter }.get (.object made id)).run w₄ =
          (a.get (.object made id)).run w₄ := by
    intro a ha hlookup htracks
    have hvalue := hget a ha
    rw [hlookup, Option.none_or, hkeyed.probed a ha htracks] at hvalue
    exact (hkeyed.accessors a ha).absent htracks id fields w₄ hsame hvalue
  refine ⟨hkeyed.run_read hsame, fun hall => ?_, fun a ha => ?_⟩
  · rw [hkeyed.run_read hsame]
    refine mapM_eq_ok fun a ha => ?_
    rcases hlookup : writes.reverse.lookup a.name with - | value
    · rw [(habsent a ha hlookup ((hall a ha).resolve_left (absurd hlookup))).1]
      rfl
    · rw [hwritten a ha value hlookup]
      rfl
  · split
    · next value hlookup => exact hwritten a ha value hlookup
    · next hlookup =>
        split
        · next htracks => exact habsent a ha hlookup htracks
        · intro w₅ unwritten w₆ w₇ hempty hsame'
          have hnone : ∀ write ∈ ([] : List (String × Value)), b.has write.1 = true :=
            fun write hwrite => by cases hwrite
          obtain ⟨-, -, id', fields', w₈, -, -, hconstruct', hstate', hget'⟩ :=
            hkeyed.construct hnone w₅
          cases hempty.symm.trans hconstruct'
          obtain ⟨unset, hread⟩ := (hkeyed.accessors a ha).get
          obtain ⟨trace, hrun⟩ := hread id fields w₄ hsame
          obtain ⟨trace', hrun'⟩ := hread id' fields' w₇ (hsame'.trans hstate')
          have hvalue := hget a ha
          have hvalue' := hget' a ha
          rw [hlookup, Option.none_or] at hvalue
          rw [List.reverse_nil, List.lookup_nil, Option.none_or] at hvalue'
          rw [hrun, hrun', hvalue, hvalue']

/-- A definition with three properties, a class for it whose instances are changed in place, with probes for
two of them, and one whose instances are built. -/
def vessels : Universe :=
  let vessel : ClassId := .declared "Vessel"
  let cup : ClassId := .declared "Cup"
  let jug : ClassId := .declared "Jug"
  let self : Parameter := ⟨"self", .positional, false, none⟩
  let value : Parameter := ⟨"value", .positional, false, none⟩
  let method (c name : String) (parameters : Signature) (body : Body) : Member :=
    ⟨name, .method ⟨c ++ "." ++ name, name, parameters, none, body⟩, false⟩
  let factory (c name : String) (made : String) : Member :=
    ⟨name, .staticMethod ⟨c ++ "." ++ name, name, [], none, .create made⟩, false⟩
  let getters (c : String) : List Member :=
    [⟨"volume", .property (some ⟨c ++ ".volume", "volume", [self], none, .get "_volume" none⟩), false⟩,
      method c "content" [self] (.get "_content" none),
      method c "colour" [self] (.get "_colour" (some (.str "plain")))]
  { module := "vessels"
    classes :=
      [⟨"Cup", .concrete, [], [], [.cls vessel], [vessel], [cup, vessel, .object],
          getters "Cup" ++
            [method "Cup" "setVolume" [self, value] (.set "_volume"),
              method "Cup" "volumeIsSet" [self] (.isSet "_volume"),
              method "Cup" "setContent" [self, value] (.set "_content"),
              method "Cup" "contentIsSet" [self] (.isSet "_content"),
              method "Cup" "setColour" [self, value] (.set "_colour"), factory "Cup" "create" "Cup"],
          [], []⟩,
        ⟨"Jug", .concrete, [], [], [.cls vessel], [vessel], [jug, vessel, .object],
          getters "Jug" ++ [factory "Jug" "builder" "Potter"], [], []⟩,
        ⟨"Potter", .concrete, [], [], [], [.object], [.declared "Potter", .object],
          [method "Potter" "volume" [self, value] (.set "_volume"),
            method "Potter" "content" [self, value] (.set "_content"),
            method "Potter" "colour" [self, value] (.set "_colour"),
            method "Potter" "build" [self] (.build "Jug" [])], [], []⟩,
        ⟨"Vessel", .protocol, [], [], [], [.object], [vessel, .object],
          [⟨"volume", .property (some ⟨"Vessel.volume", "volume", [self], none, .nothing⟩), true⟩,
            method "Vessel" "content" [self] .nothing, method "Vessel" "colour" [self] .nothing],
          ["volume", "content", "colour"], []⟩]
    names := ["Cup", "Jug", "Potter", "Vessel"].map fun name => (name, .cls (.declared name))
    functions := []
    values := [] }

def cupRegistration : Registration :=
  ⟨.modifiable, .cls (.declared "Vessel"), .cls (.declared "Cup"), none⟩

def jugRegistration : Registration :=
  ⟨.immutable, .cls (.declared "Vessel"), .cls (.declared "Jug"), none⟩

theorem forall_mem_three {α : Type} {P : α → Prop} {a b c : α} (ha : P a) (hb : P b) (hc : P c) :
    ∀ x ∈ [a, b, c], P x := by
  simp [ha, hb, hc]

theorem cupRegistration_generated : ∃ declared,
    vessels.discover (.cls (.declared "Cup")) cupRegistration.definition = .ok declared ∧
      cupRegistration.Generated vessels declared (fun name => "_" ++ name) "Cup" := by
  refine ⟨[_, _, _], rfl, rfl, fun p _ q _ h => by simpa using h, ?_, ?factory, ?setters, ?probes⟩
  · exact forall_mem_three ⟨_, _, _, rfl, rfl, rfl, rfl⟩ ⟨_, _, _, rfl, rfl, rfl, rfl⟩
      ⟨_, _, _, rfl, rfl, rfl, rfl⟩
  case factory =>
    rintro factory w w' ⟨⟩
    exact ⟨fun w => ⟨_, rfl⟩, fun key _ => rfl⟩
  case setters =>
    exact forall_mem_three ⟨_, _, rfl, rfl, rfl, rfl⟩ ⟨_, _, rfl, rfl, rfl, rfl⟩
      ⟨_, _, rfl, rfl, rfl, rfl⟩
  case probes =>
    refine forall_mem_three ?_ ?_ ?_
    · rintro member ⟨⟩
      exact ⟨_, .inr rfl, rfl, rfl⟩
    · rintro member ⟨⟩
      exact ⟨_, .inr rfl, rfl, rfl⟩
    · rintro member ⟨⟩

theorem jugRegistration_generated : ∃ declared,
    vessels.discover (.cls (.declared "Jug")) jugRegistration.definition = .ok declared ∧
      jugRegistration.Generated vessels declared (fun name => "_" ++ name) "Jug" := by
  refine ⟨[_, _, _], rfl, rfl, fun p _ q _ h => by simpa using h, ?_, "Potter", ?factory, ?setters, ?build,
    ?instances⟩
  · exact forall_mem_three ⟨_, _, _, rfl, rfl, rfl, rfl⟩ ⟨_, _, _, rfl, rfl, rfl, rfl⟩
      ⟨_, _, _, rfl, rfl, rfl, rfl⟩
  case factory =>
    rintro factory w w' ⟨⟩
    exact ⟨fun w => ⟨_, rfl⟩, fun key _ => rfl⟩
  case setters =>
    exact forall_mem_three ⟨_, _, rfl, rfl, rfl, rfl⟩ ⟨_, _, rfl, rfl, rfl, rfl⟩
      ⟨_, _, rfl, rfl, rfl, rfl⟩
  case build => exact ⟨"Jug", ⟨_, _, rfl, rfl, rfl, rfl⟩, rfl⟩
  case instances => exact ⟨_, rfl, rfl⟩

/-- What was written last is read, also by way of a builder; what was not written is absent where there is a
probe, and what the getter makes of it elsewhere. -/
theorem Binding.read_of_writes_vessels :
    let writes : List (String × Value) := [("volume", .bool true), ("volume", .null)]
    let cup : TypeExpr := .cls (.declared "Cup")
    let jug : TypeExpr := .cls (.declared "Jug")
    (∃ declared b w₁, vessels.discover cup cupRegistration.definition = .ok declared ∧
      cupRegistration.Generated vessels declared (fun name => "_" ++ name) "Cup" ∧
      (cupRegistration.bind vessels cup).run {} = (.ok b, w₁) ∧
      (∀ write ∈ writes, b.has write.1 = true) ∧
      ∃ result w₂, (b.construct writes).run {} = (.ok result, w₂) ∧
        ((b.read result).run w₂).1 =
          .ok [("volume", .null), ("content", .absent), ("colour", .str "plain")]) ∧
    ∃ declared b w₁, vessels.discover jug jugRegistration.definition = .ok declared ∧
      jugRegistration.Generated vessels declared (fun name => "_" ++ name) "Jug" ∧
      (jugRegistration.bind vessels jug).run {} = (.ok b, w₁) ∧
      (∀ write ∈ ("content", .str "milk") :: writes, b.has write.1 = true) ∧
      ∃ result w₂, (b.construct (("content", .str "milk") :: writes)).run {} = (.ok result, w₂) ∧
        ((b.read result).run w₂).1 =
          .ok [("volume", .null), ("content", .str "milk"), ("colour", .str "plain")] := by
  intro writes cup jug
  constructor
  · obtain ⟨declared, hdiscover, hgenerated⟩ := cupRegistration_generated
    obtain ⟨b, w₁, hbind, volume, content, colour, haccessors, hvolume, hcontent, htracks, hcolour,
        huntracked, unwritten, w₃, hempty, hplain⟩ :
        ∃ b w₁, (cupRegistration.bind vessels (.cls (.declared "Cup"))).run {} = (.ok b, w₁) ∧
          ∃ volume content colour, b.accessors = [volume, content, colour] ∧ volume.name = "volume" ∧
            content.name = "content" ∧ content.tracksPresence = true ∧ colour.name = "colour" ∧
            colour.tracksPresence = false ∧
            ∃ unwritten w₃, (b.construct []).run {} = (.ok unwritten, w₃) ∧
              ((colour.get unwritten).run w₃).1 = .ok (.str "plain") :=
      ⟨_, _, rfl, _, _, _, rfl, rfl, rfl, rfl, rfl, rfl, _, _, rfl, rfl⟩
    have hnames : ∀ write ∈ writes, b.has write.1 = true := by
      simp [writes, Binding.has, Binding.names, haccessors, hvolume]
    obtain ⟨_, _, result, w₂, -, -, hconstruct, hread⟩ :=
      Binding.read_of_writes hgenerated hdiscover hbind hnames {}
    refine ⟨declared, b, w₁, hdiscover, hgenerated, hbind, hnames, result, w₂, hconstruct, ?_⟩
    obtain ⟨hall, -, heach⟩ := hread w₂ rfl
    have hread₁ : ((volume.get result).run w₂).1 = .ok .null := by
      simpa [writes, hvolume] using heach volume (by simp [haccessors])
    have hread₂ : ((content.get result).run w₂).1 = .ok .absent := by
      have h := heach content (by simp [haccessors])
      rw [hcontent, htracks] at h
      exact h.1
    have hread₃ : ((colour.get result).run w₂).1 = .ok (.str "plain") := by
      have h := heach colour (by simp [haccessors])
      rw [hcolour, huntracked] at h
      exact (h _ _ _ _ hempty rfl).trans hplain
    rw [hall, haccessors]
    simp only [List.mapM_cons, hread₁, hread₂, hread₃, hvolume, hcontent, hcolour]
    rfl
  · obtain ⟨declared, hdiscover, hgenerated⟩ := jugRegistration_generated
    obtain ⟨b, w₁, hbind, volume, content, colour, haccessors, hvolume, hcontent, hcolour, huntracked,
        unwritten, w₃, hempty, hplain⟩ :
        ∃ b w₁, (jugRegistration.bind vessels (.cls (.declared "Jug"))).run {} = (.ok b, w₁) ∧
          ∃ volume content colour, b.accessors = [volume, content, colour] ∧ volume.name = "volume" ∧
            content.name = "content" ∧ colour.name = "colour" ∧ colour.tracksPresence = false ∧
            ∃ unwritten w₃, (b.construct []).run {} = (.ok unwritten, w₃) ∧
              ((colour.get unwritten).run w₃).1 = .ok (.str "plain") :=
      ⟨_, _, rfl, _, _, _, rfl, rfl, rfl, rfl, rfl, _, _, rfl, rfl⟩
    have hnames : ∀ write ∈ ("content", .str "milk") :: writes, b.has write.1 = true := by
      simp [writes, Binding.has, Binding.names, haccessors, hvolume, hcontent]
    obtain ⟨_, _, result, w₂, -, -, hconstruct, hread⟩ :=
      Binding.read_of_writes hgenerated hdiscover hbind hnames {}
    refine ⟨declared, b, w₁, hdiscover, hgenerated, hbind, hnames, result, w₂, hconstruct, ?_⟩
    obtain ⟨hall, -, heach⟩ := hread w₂ rfl
    have hread₁ : ((volume.get result).run w₂).1 = .ok .null := by
      simpa [writes, hvolume] using heach volume (by simp [haccessors])
    have hread₂ : ((content.get result).run w₂).1 = .ok (.str "milk") := by
      simpa [writes, hcontent, List.lookup_cons] using heach content (by simp [haccessors])
    have hread₃ : ((colour.get result).run w₂).1 = .ok (.str "plain") := by
      have h := heach colour (by simp [haccessors])
      rw [hcolour, huntracked] at h
      exact (h _ _ _ _ hempty rfl).trans hplain
    rw [hall, haccessors]
    simp only [List.mapM_cons, hread₁, hread₂, hread₃, hvolume, hcontent, hcolour]
    rfl

end RecordBinding
