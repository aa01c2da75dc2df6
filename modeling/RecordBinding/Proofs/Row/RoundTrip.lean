import RecordBinding.Proofs.Binding.LifeCycle
import RecordBinding.Row.Mapper

namespace RecordBinding

section Names

theorem toList_normalizeColumnName {name : String} (h : Text.capitalSigma ∉ name.toList) :
    (normalizeColumnName name).toList =
      (name.toList.filter (· ≠ '_')).flatMap Text.lowerChar := by
  have hkept : Text.capitalSigma ∉ name.toList.filter (· ≠ '_') :=
    fun hmem => h (List.mem_of_mem_filter hmem)
  rw [normalizeColumnName, Text.lower, String.toList_ofList, String.toList_ofList,
    Text.lowerChars_eq_flatMap hkept]

theorem normalizeColumnName_append {leading name : String}
    (hleading : Text.capitalSigma ∉ leading.toList) (hname : Text.capitalSigma ∉ name.toList) :
    normalizeColumnName (leading ++ name) =
      normalizeColumnName leading ++ normalizeColumnName name := by
  have happend : Text.capitalSigma ∉ (leading ++ name).toList := by
    rw [String.toList_append, List.mem_append]
    exact not_or.2 ⟨hleading, hname⟩
  apply String.toList_inj.1
  rw [String.toList_append, toList_normalizeColumnName happend, toList_normalizeColumnName hleading,
    toList_normalizeColumnName hname, String.toList_append, List.filter_append, List.flatMap_append]

theorem dropLeading?_append (leading name : String) :
    dropLeading? leading (leading ++ name) = some name := by
  have hprefix : leading.toList.isPrefixOf (leading ++ name).toList = true := by
    rw [String.toList_append, List.isPrefixOf_iff_prefix]
    exact List.prefix_append _ _
  have hrest : (leading ++ name).toList.drop leading.length = name.toList := by
    rw [String.toList_append, ← String.length_toList, List.drop_left]
  rw [dropLeading?, if_pos hprefix, hrest, String.ofList_toList]

theorem append_right_injective (leading : String) : Function.Injective (leading ++ ·) := by
  intro name name' h
  have h := congrArg String.toList h
  simp only [String.toList_append] at h
  exact String.toList_inj.1 (List.append_cancel_left h)

end Names

namespace RowMapper

/-- Names of one normal form are one name. -/
def Distinct (names : List String) : Prop :=
  ∀ name ∈ names, ∀ name' ∈ names,
    normalizeColumnName name = normalizeColumnName name' → name = name'

theorem distinct_of_nodup {names : List String} (h : (names.map normalizeColumnName).Nodup) :
    Distinct names :=
  fun _ hname _ hname' heq => List.inj_on_of_nodup_map h hname hname' heq

variable {names : List String}

theorem Distinct.of_same {names' : List String} (h : Distinct names)
    (hsame : ∀ name, name ∈ names' ↔ name ∈ names) : Distinct names' :=
  fun name hname name' hname' => h name ((hsame name).1 hname) name' ((hsame name').1 hname')

theorem propertyFor?_of_mem (hdistinct : Distinct names) {name : String} (hname : name ∈ names) :
    propertyFor? names (normalizeColumnName name) = some name := by
  unfold propertyFor?
  cases hfind : names.reverse.find? fun other =>
      normalizeColumnName other == normalizeColumnName name with
  | none =>
      have h := List.find?_eq_none.1 hfind name (List.mem_reverse.2 hname)
      exact absurd (beq_self_eq_true _) h
  | some other =>
      have hother : other ∈ names := List.mem_reverse.1 (List.mem_of_find?_eq_some hfind)
      have hfound := List.find?_some hfind
      have heq : normalizeColumnName other = normalizeColumnName name := eq_of_beq hfound
      rw [hdistinct other hother name hname heq]

theorem matchColumn?_append (target : TypeExpr) {leading name : String}
    (hleading : Text.capitalSigma ∉ leading.toList) (hdistinct : Distinct names)
    (hname : name ∈ names) (hsigma : Text.capitalSigma ∉ name.toList) :
    (ofPrefix target leading).matchColumn? names (leading ++ name) = some name := by
  have hfound := propertyFor?_of_mem hdistinct hname
  unfold matchColumn? ofPrefix
  dsimp only
  rw [normalizeColumnName_append hleading hsigma]
  split
  · next hempty => rw [String.isEmpty_iff.1 hempty, String.empty_append, hfound]
  · rw [dropLeading?_append, Option.bind_some, hfound]

theorem addMatch_of_new {m : RowMapper} {matched : List (String × String)} {column name : String}
    (hname : m.matchColumn? names column = some name) (hnew : ∀ entry ∈ matched, entry.1 ≠ column) :
    m.addMatch names matched column = matched ++ [(column, name)] := by
  have hany : (matched.any fun entry => entry.1 == column) = false := by
    rw [List.any_eq_false]
    exact fun entry hentry heq => hnew entry hentry (eq_of_beq heq)
  rw [addMatch, hname]
  dsimp only
  rw [hany, if_neg Bool.false_ne_true]

theorem matchedColumns_of_nodup {m : RowMapper} {found : List (String × String)}
    (hfound : ∀ entry ∈ found, m.matchColumn? names entry.1 = some entry.2)
    (hnodup : (found.map (·.1)).Nodup) : m.matchedColumns names (found.map (·.1)) = found := by
  -- the fold has matched columns behind it, none of which may have a name that is still to come
  have hstep : ∀ earlier : List (String × String),
      (∀ entry ∈ earlier, entry.1 ∉ found.map (·.1)) →
      (found.map (·.1)).foldl (m.addMatch names) earlier = earlier ++ found := by
    induction found with
    | nil => simp
    | cons entry found ih =>
        intro earlier hnew
        obtain ⟨hentry, hrest⟩ := List.nodup_cons.1 hnodup
        have hadded : m.addMatch names earlier entry.1 = earlier ++ [entry] := by
          refine addMatch_of_new (hfound entry List.mem_cons_self) fun other hother heq => ?_
          exact hnew other hother (heq ▸ List.mem_cons_self)
        have hnew' : ∀ other ∈ earlier ++ [entry], other.1 ∉ found.map (·.1) := by
          intro other hother hmem
          rcases List.mem_append.1 hother with hother | hother
          · exact hnew other hother (List.mem_cons_of_mem _ hmem)
          · rw [List.mem_singleton.1 hother] at hmem
            exact hentry hmem
        rw [List.map_cons, List.foldl_cons, hadded,
          ih (fun other hother => hfound other (List.mem_cons_of_mem _ hother)) hrest _ hnew',
          List.append_assoc, List.singleton_append]
  exact hstep [] fun entry hentry => absurd hentry List.not_mem_nil

end RowMapper

theorem Row.value?_of_mem {row : Row} (hnodup : row.columns.Nodup) {column : String} {value : Value}
    (hmem : (column, value) ∈ row.cells) : row.value? column = some value := by
  -- a look-up takes the last cell of a name, so the cells are searched from behind
  obtain ⟨before, after, hcells⟩ := List.append_of_mem (List.mem_reverse.2 hmem)
  have hkeys : (before.map (·.1) ++ column :: after.map (·.1)).Nodup := by
    have hreverse : (row.cells.reverse.map (·.1)).Nodup := by
      rw [List.map_reverse, List.nodup_reverse]
      exact hnodup
    rwa [hcells, List.map_append, List.map_cons] at hreverse
  have hbefore : ∀ cell ∈ before, (column != cell.1) = true := by
    intro cell hcell
    refine bne_iff_ne.2 fun heq => ?_
    exact List.disjoint_of_nodup_append hkeys (List.mem_map.2 ⟨cell, hcell, heq.symm⟩)
      List.mem_cons_self
  exact List.lookup_eq_some_iff.2 ⟨before, after, hcells, hbefore⟩

theorem Row.exists_value? {row : Row} {column : String} (h : column ∈ row.columns) :
    ∃ value, row.value? column = some value := by
  obtain ⟨cell, hcell, rfl⟩ := List.mem_map.1 h
  cases hvalue : row.value? cell.1 with
  | some value => exact ⟨value, rfl⟩
  | none =>
      have hnone := List.lookup_eq_none_iff.1 hvalue cell (List.mem_reverse.2 hcell)
      simp at hnone

/-- What matched columns of a row are to write: their values, under the names of their properties. -/
def Row.writes (row : Row) (matched : List (String × String)) : List (String × Value) :=
  matched.filterMap fun entry => (row.value? entry.1).map fun value => (entry.2, value)

/-- A value as a parameter of a statement: null when it is absent. -/
def Value.orNull (v : Value) : Value :=
  if v.isAbsent then .null else v

theorem Value.isAbsent_orNull (v : Value) : v.orNull.isAbsent = false := by
  unfold orNull
  split
  · rfl
  · next h => exact eq_false_of_ne_true h

namespace Binding

variable {σ : Type}

/-- Writes to a target in order, up to the first whose setter fails: what comes of them, and the state that
they lead to. -/
inductive WritesInOrder (b : Binding σ) (target : Value) :
    σ → List (String × Value) → Except Failure Unit → σ → Prop
  | done (s : σ) : WritesInOrder b target s [] (.ok ()) s
  | stopped {s s₁ : σ} {name : String} {value : Value} {rest : List (String × Value)}
      {a : Accessor σ} {failure : Failure} (ha : b.accessor name = .ok a)
      (hset : (a.setter target value).run s = (.error failure, s₁)) :
      WritesInOrder b target s ((name, value) :: rest)
        (.error (failure.guard .set a.owner (some name))) s₁
  | next {s s₁ s' : σ} {name : String} {value : Value} {rest : List (String × Value)}
      {a : Accessor σ} {outcome : Except Failure Unit} (ha : b.accessor name = .ok a)
      (hset : (a.setter target value).run s = (.ok (), s₁))
      (h : WritesInOrder b target s₁ rest outcome s') :
      WritesInOrder b target s ((name, value) :: rest) outcome s'

/-- A construction that writes in order: what comes of it, and the state that it leads to. It is finished
when no setter fails. -/
inductive Constructs (b : Binding σ) (writes : List (String × Value)) :
    σ → Except Failure Value → σ → Prop
  | unstarted {s s' : σ} {failure : Failure} (hstart : b.start.run s = (.error failure, s')) :
      Constructs b writes s (.error (failure.guard .create b.implementation none)) s'
  | stopped {s s₁ s' : σ} {target : Value} {failure : Failure}
      (hstart : b.start.run s = (.ok target, s₁))
      (hwrites : b.WritesInOrder target s₁ writes (.error failure) s') :
      Constructs b writes s (.error failure) s'
  | finished {s s₁ s₂ s' : σ} {target : Value} {outcome : Except Failure Value}
      (hstart : b.start.run s = (.ok target, s₁))
      (hwrites : b.WritesInOrder target s₁ writes (.ok ()) s₂)
      (hfinish : (Session.result ⟨b, some target⟩).run s₂ = (outcome, s')) :
      Constructs b writes s outcome s'

variable {b : Binding σ} {writes : List (String × Value)}

theorem writesInOrder_writeAll (hknown : ∀ write ∈ writes, b.has write.1 = true) (target : Value)
    (s : σ) :
    b.WritesInOrder target s writes ((Session.writeAll ⟨b, some target⟩ writes).run s).1
      ((Session.writeAll ⟨b, some target⟩ writes).run s).2 := by
  induction writes generalizing s with
  | nil => exact .done s
  | cons write writes ih =>
      obtain ⟨name, value⟩ := write
      have ih := ih fun other hother => hknown other (List.mem_cons_of_mem _ hother)
      rcases b.accessor_cases name with ⟨a, ha, rfl, -⟩ | ⟨-, hunknown⟩
      · unfold Session.writeAll
        rw [Action.run_bind, Session.run_write, ha]
        dsimp only
        rw [Accessor.set, Action.run_guarded]
        rcases hset : (a.setter target value).run s with ⟨failure | _, s₁⟩
        · exact .stopped ha hset
        · exact .next ha hset (ih s₁)
      · rw [hknown _ List.mem_cons_self] at hunknown
        cases hunknown

theorem constructs_construct (hknown : ∀ write ∈ writes, b.has write.1 = true) (s : σ) :
    b.Constructs writes s ((b.construct writes).run s).1 ((b.construct writes).run s).2 := by
  unfold construct Binding.open
  rw [Action.run_bind, Action.run_bind, Action.run_guarded]
  rcases hstart : b.start.run s with ⟨failure | target, s₁⟩
  · exact .unstarted hstart
  · have hwrites := writesInOrder_writeAll hknown target s₁
    change b.Constructs writes s
      ((Session.writeAll ⟨b, some target⟩ writes >>= fun _ => Session.result ⟨b, some target⟩).run s₁).1
      ((Session.writeAll ⟨b, some target⟩ writes >>= fun _ => Session.result ⟨b, some target⟩).run s₁).2
    rw [Action.run_bind]
    rcases hrun : (Session.writeAll ⟨b, some target⟩ writes).run s₁ with ⟨failure | _, s₂⟩
    · rw [hrun] at hwrites
      exact .stopped hstart hwrites
    · rw [hrun] at hwrites
      exact .finished hstart hwrites rfl

theorem keys_of_read {v : Value} {s s' : σ} {readings : List (String × Value)}
    (h : (b.read v).run s = (.ok readings, s')) : readings.map (·.1) = b.names := by
  have hkeys : List.Forall₂ (fun a entry => a.name = entry.1) b.accessors readings := by
    refine (Action.run_mapM_ok h).imp ?_
    rintro a entry ⟨t, t', hrun⟩
    obtain ⟨value, t₁, -, hrun⟩ := Action.run_bind_ok hrun
    cases hrun
    rfl
  have heq : List.Forall₂ (· = ·) b.names (readings.map (·.1)) := by
    rwa [names, List.forall₂_map_left_iff, List.forall₂_map_right_iff]
  rw [List.forall₂_eq_eq_eq] at heq
  exact heq.symm

end Binding

/-- The readings of a value as writes: null in place of what is absent. -/
def nullWrites (readings : List (String × Value)) : List (String × Value) :=
  readings.map fun entry => (entry.1, entry.2.orNull)

/-- Values under names with a prefix. -/
def prefixed (leading : String) (entries : List (String × Value)) : List (String × Value) :=
  entries.map fun entry => (leading ++ entry.1, entry.2)

theorem prefixed_injective (leading : String) : Function.Injective (prefixed leading) := by
  refine List.map_injective_iff.2 ?_
  intro entry entry' h
  obtain ⟨hname, hvalue⟩ := Prod.mk.inj h
  exact Prod.ext (append_right_injective leading hname) hvalue

theorem mapM_accessors_eq_read {σ : Type} (b : Binding σ) (v : Value) (leading : String) :
    (b.accessors.mapM fun a => do
      let current ← a.get v
      return (leading ++ a.name, if current.isAbsent then .null else current)) =
        (prefixed leading ∘ nullWrites) <$> b.read v := by
  unfold Binding.read
  induction b.accessors with
  | nil => rfl
  | cons a accessors ih =>
      simp only [List.mapM_cons, ih, bind_assoc, map_bind, bind_map_left, pure_bind, map_pure]
      rfl

namespace RowMapper

theorem writeRow_eq_writeAll_writes {σ : Type} (session : Session σ) {row : Row}
    {matched : List (String × String)} (hcolumns : ∀ entry ∈ matched, entry.1 ∈ row.columns) :
    writeRow session row matched = session.writeAll (row.writes matched) := by
  induction matched with
  | nil => rfl
  | cons entry matched ih =>
      obtain ⟨hcolumn, hrest⟩ := List.forall_mem_cons.1 hcolumns
      obtain ⟨value, hvalue⟩ := Row.exists_value? hcolumn
      have hwrites : row.writes (entry :: matched) = (entry.2, value) :: row.writes matched :=
        List.filterMap_cons_some (by rw [hvalue]; rfl)
      have hread : row.value entry.1 = .ok value := by rw [Row.value, hvalue]
      rw [hwrites, writeRow, hread, ih hrest]
      rfl

theorem buildRow_eq_construct {σ : Type} (b : Binding σ) {row : Row} {matched : List (String × String)}
    (hcolumns : ∀ entry ∈ matched, entry.1 ∈ row.columns) :
    buildRow b matched row = b.construct (row.writes matched) := by
  unfold buildRow Binding.construct
  simp only [writeRow_eq_writeAll_writes _ hcolumns]

end RowMapper

section Mapping

variable {τ : Type} {u : Universe} {s s' : Registry τ × World}

theorem RegistryAction.run_onWorld {α : Type} (action : Action World α) (s : Registry τ × World) :
    (onWorld action).run s = ((action.run s.2).1, s.1, (action.run s.2).2) := rfl

variable [TimeScale τ]

theorem bindProperties_ok {v : Value} {leading : String} {now later : τ}
    {parameters : List (String × Value)}
    (h : (bindProperties u v leading now later).run s = (.ok parameters, s')) :
    ∃ b s₁ readings,
      (RegistryAction.resolve u (.cls (u.classOf v)) now later).run s = (.ok (some b), s₁) ∧
      (b.read v).run s₁.2 = (.ok readings, s'.2) ∧ s'.1 = s₁.1 ∧
      parameters = prefixed leading (nullWrites readings) := by
  unfold bindProperties at h
  obtain ⟨found, s₁, hresolve, h⟩ := Action.run_bind_ok h
  cases found with
  | none => cases h
  | some b =>
      dsimp only at h
      rw [mapM_accessors_eq_read, RegistryAction.run_onWorld, Action.run_map] at h
      rcases hread : (b.read v).run s₁.2 with ⟨failure | readings, w⟩
      · rw [hread] at h
        cases h
      · rw [hread] at h
        cases h
        exact ⟨b, s₁, readings, hresolve, hread, rfl, rfl⟩

theorem RowMapper.run_mapRow {m : RowMapper} {now later : τ} {row : Row} {b : Binding World}
    {matched : List (String × String)}
    (hresolve : (RegistryAction.resolve u m.target now later).run s = (.ok (some b), s'))
    (hmatched : m.matchColumns b row.columns = .ok matched) :
    (m.mapRow u now later row).run s =
      (((buildRow b matched row).run s'.2).1, s'.1, ((buildRow b matched row).run s'.2).2) := by
  have hbinding : (m.binding u now later).run s = (.ok b, s') := by
    unfold RowMapper.binding
    rw [Action.run_bind, hresolve]
    rfl
  unfold mapRow
  rw [Action.run_bind, hbinding]
  dsimp only
  rw [hmatched]
  rfl

theorem nodup_prefixed (leading : String) {writes : List (String × Value)}
    (hnodup : (writes.map (·.1)).Nodup) : ((prefixed leading writes).map (·.1)).Nodup := by
  have hleading := hnodup.map (append_right_injective leading)
  rw [List.map_map] at hleading
  rw [prefixed, List.map_map]
  exact hleading

theorem RowMapper.matchColumns_prefixed (target : TypeExpr) {leading : String}
    (hleading : Text.capitalSigma ∉ leading.toList) {b : Binding World} (hdistinct : Distinct b.names)
    {writes : List (String × Value)} (hwrites : ∀ write ∈ writes, write.1 ∈ b.names)
    (hsigma : ∀ write ∈ writes, Text.capitalSigma ∉ write.1.toList)
    (hnodup : (writes.map (·.1)).Nodup) (hsome : writes ≠ []) :
    (ofPrefix target leading).matchColumns b ((prefixed leading writes).map (·.1)) =
      .ok (writes.map fun write => (leading ++ write.1, write.1)) := by
  let found : List (String × String) := writes.map fun write => (leading ++ write.1, write.1)
  have hcolumns : (prefixed leading writes).map (·.1) = found.map (·.1) := by
    simp only [found, prefixed, List.map_map]
    rfl
  have hdiffer := nodup_prefixed leading hnodup
  have heach : ∀ entry ∈ found, (ofPrefix target leading).matchColumn? b.names entry.1 = some entry.2 :=
    List.forall_mem_map.2 fun write hwrite =>
      matchColumn?_append target hleading hdistinct (hwrites write hwrite) (hsigma write hwrite)
  rw [hcolumns] at hdiffer ⊢
  rw [matchColumns, matchedColumns_of_nodup heach hdiffer]
  cases writes with
  | nil => exact absurd rfl hsome
  | cons => rfl

theorem RowMapper.buildRow_prefixed {leading : String} {b : Binding World} {writes : List (String × Value)}
    (hnodup : (writes.map (·.1)).Nodup) :
    buildRow b (writes.map fun write => (leading ++ write.1, write.1)) ⟨prefixed leading writes, false⟩ =
      b.construct writes := by
  have hrow : (Row.columns ⟨prefixed leading writes, false⟩).Nodup := nodup_prefixed leading hnodup
  have hvalue : ∀ write ∈ writes,
      Row.value? ⟨prefixed leading writes, false⟩ (leading ++ write.1) = some write.2 :=
    fun write hwrite => Row.value?_of_mem hrow (List.mem_map_of_mem hwrite)
  have hwrites : Row.writes ⟨prefixed leading writes, false⟩
      (writes.map fun write => (leading ++ write.1, write.1)) = writes := by
    rw [Row.writes, List.filterMap_map]
    refine (List.filterMap_congr fun write hwrite => ?_).trans List.filterMap_some
    rw [Function.comp_apply, hvalue write hwrite]
    rfl
  rw [buildRow_eq_construct, hwrites]
  refine List.forall_mem_map.2 fun write hwrite => ?_
  exact List.mem_map_of_mem (List.mem_map_of_mem hwrite)

/-- Parameters and rows agree. The parameters that a value is bound to are the readings of its
properties under prefixed names, null in place of what is absent. Mapped as a row with the same prefix
to any target with the same properties, they match column by column and are written in their order,
each once, up to the first setter that fails. -/
theorem RowMapper.mapRow_bindProperties {s₁ : Registry τ × World} {v : Value} {leading : String}
    {now later : τ} {b : Binding World} {parameters : List (String × Value)}
    (hresolve : (RegistryAction.resolve u (.cls (u.classOf v)) now later).run s = (.ok (some b), s₁))
    (hsome : b.names ≠ []) (hdistinct : (b.names.map normalizeColumnName).Nodup)
    (hleading : Text.capitalSigma ∉ leading.toList)
    (hnames : ∀ name ∈ b.names, Text.capitalSigma ∉ name.toList)
    (hbind : (bindProperties u v leading now later).run s = (.ok parameters, s')) :
    ∃ readings, (b.read v).run s₁.2 = (.ok readings, s'.2) ∧ s'.1 = s₁.1 ∧
      readings.map (·.1) = b.names ∧ parameters = prefixed leading (nullWrites readings) ∧
      (∀ parameter ∈ parameters, parameter.2.isAbsent = false) ∧
      ∀ (target : TypeExpr) (now' later' : τ) (t t₁ : Registry τ × World) (b' : Binding World),
        (RegistryAction.resolve u target now' later').run t = (.ok (some b'), t₁) →
        (∀ name, name ∈ b'.names ↔ name ∈ b.names) →
        let mapper := RowMapper.ofPrefix target leading
        let mapped := (mapper.mapRow u now' later' ⟨parameters, false⟩).run t
        mapper.matchColumns b' (parameters.map (·.1)) =
            .ok (b.names.map fun name => (leading ++ name, name)) ∧
          mapped.2.1 = t₁.1 ∧
          b'.Constructs (nullWrites readings) t₁.2 mapped.1 mapped.2.2 := by
  obtain ⟨found, s₂, readings, hfound, hread, hregistry, rfl⟩ := bindProperties_ok hbind
  cases hresolve.symm.trans hfound
  have hkeys := Binding.keys_of_read hread
  refine ⟨readings, hread, hregistry, hkeys, rfl, ?_, ?_⟩
  · intro parameter hparameter
    obtain ⟨write, hwrite, rfl⟩ := List.mem_map.1 hparameter
    obtain ⟨entry, -, rfl⟩ := List.mem_map.1 hwrite
    exact entry.2.isAbsent_orNull
  intro target now' later' t t₁ b' htarget hsame mapper mapped
  have hwrites : (nullWrites readings).map (·.1) = b.names := by
    rw [← hkeys, nullWrites, List.map_map]
    rfl
  have hmem : ∀ write ∈ nullWrites readings, write.1 ∈ b.names := by
    rw [← hwrites]
    exact fun write hwrite => List.mem_map_of_mem hwrite
  have hnodup : ((nullWrites readings).map (·.1)).Nodup := by
    rw [hwrites]
    exact hdistinct.of_map _
  have hmatched : mapper.matchColumns b' ((prefixed leading (nullWrites readings)).map (·.1)) =
      .ok (b.names.map fun name => (leading ++ name, name)) := by
    rw [← hwrites, List.map_map]
    refine RowMapper.matchColumns_prefixed target hleading ((distinct_of_nodup hdistinct).of_same hsame)
      (fun write hwrite => (hsame _).2 (hmem write hwrite))
      (fun write hwrite => hnames _ (hmem write hwrite)) hnodup fun hnil => hsome ?_
    rw [← hwrites, hnil, List.map_nil]
  have hbuild : buildRow b' (b.names.map fun name => (leading ++ name, name))
      ⟨prefixed leading (nullWrites readings), false⟩ = b'.construct (nullWrites readings) := by
    rw [← hwrites, List.map_map]
    exact RowMapper.buildRow_prefixed hnodup
  have hknown : ∀ write ∈ nullWrites readings, b'.has write.1 = true :=
    fun write hwrite => List.contains_iff_mem.2 ((hsame _).2 (hmem write hwrite))
  refine ⟨hmatched, ?_⟩
  have hmapped : mapped = _ := RowMapper.run_mapRow htarget hmatched
  rw [hmapped, hbuild]
  exact ⟨rfl, Binding.constructs_construct hknown t₁.2⟩

end Mapping

/-- A protocol with two properties, and a class for it whose instances are changed in place and tell which
properties are set. -/
def trains : Universe :=
  let train : ClassId := .declared "Train"
  let railcar : ClassId := .declared "Railcar"
  let self : Parameter := ⟨"self", .positional, false, none⟩
  let value : Parameter := ⟨"value", .positional, false, none⟩
  let method (name : String) (parameters : Signature) (body : Body) : Member :=
    ⟨name, .method ⟨"Railcar." ++ name, name, parameters, none, body⟩, false⟩
  { module := "trains"
    classes :=
      [⟨"Railcar", .concrete, [], [], [.cls train], [train], [railcar, train, .object],
          [method "seatCount" [self] (.get "seats" none),
            method "seatCountIsSet" [self] (.isSet "seats"),
            method "setSeatCount" [self, value] (.set "seats"),
            method "year_built" [self] (.get "year" none),
            method "year_builtIsSet" [self] (.isSet "year"),
            method "setYear_built" [self, value] (.set "year"),
            ⟨"create", .staticMethod ⟨"Railcar.create", "create", [], none, .create "Railcar"⟩, false⟩],
          [], []⟩,
        ⟨"Train", .protocol, [], [], [], [.object], [train, .object],
          [⟨"seatCount", .method ⟨"Train.seatCount", "seatCount", [self], none, .nothing⟩, true⟩,
            ⟨"year_built", .method ⟨"Train.year_built", "year_built", [self], none, .nothing⟩, true⟩],
          ["seatCount", "year_built"], []⟩]
    names := [("Railcar", .cls railcar)]
    functions := []
    values := [] }

def railcarRegistry : Registry Int where
  registrations :=
    [(.cls (.declared "Railcar"),
      ⟨.modifiable, .cls (.declared "Train"), .cls (.declared "Railcar"), none⟩)]
  cache := Cache.empty 60 0

def oneRailcar : World :=
  { states := #[[("seats", .scalar (.int 42))]] }

theorem RowMapper.mapRow_bindProperties_trains :
    let start : Registry Int × World := (railcarRegistry, oneRailcar)
    let railcar : TypeExpr := .cls (.declared "Railcar")
    let writes : List (String × Value) :=
      [("seatCount", .scalar (.int 42)), ("year_built", .null)]
    ∃ b s₁ s', (RegistryAction.resolve trains railcar 0 0).run start = (.ok (some b), s₁) ∧
      b.names = ["seatCount", "year_built"] ∧ (b.names.map normalizeColumnName).Nodup ∧
      Text.capitalSigma ∉ "T_".toList ∧ (∀ name ∈ b.names, Text.capitalSigma ∉ name.toList) ∧
      (bindProperties trains (.object "Railcar" 0) "T_" 0 0).run start =
        (.ok (prefixed "T_" writes), s') ∧
      ∃ outcome w, b.Constructs writes s₁.2 outcome w := by
  intro start railcar writes
  obtain ⟨b, s₁, hresolve, hb⟩ : ∃ b s₁,
      (RegistryAction.resolve trains (.cls (.declared "Railcar")) (0 : Int) 0).run
        (railcarRegistry, oneRailcar) = (.ok (some b), s₁) ∧
      b.names = ["seatCount", "year_built"] := ⟨_, _, rfl, rfl⟩
  obtain ⟨s', hbind⟩ : ∃ s',
      (bindProperties trains (.object "Railcar" 0) "T_" (0 : Int) 0).run
        (railcarRegistry, oneRailcar) =
        (.ok [("T_seatCount", .scalar (.int 42)), ("T_year_built", .null)], s') := ⟨_, rfl⟩
  have hdistinct : (b.names.map normalizeColumnName).Nodup := by
    rw [hb]
    decide +kernel
  have hleading : Text.capitalSigma ∉ "T_".toList := by decide +kernel
  have hnames : ∀ name ∈ b.names, Text.capitalSigma ∉ name.toList := by
    rw [hb]
    decide +kernel
  have hsome : b.names ≠ [] := by simp [hb]
  obtain ⟨readings, -, -, -, hparameters, -, hmap⟩ :=
    RowMapper.mapRow_bindProperties hresolve hsome hdistinct hleading hnames hbind
  have hwrites : nullWrites readings = writes := prefixed_injective "T_" hparameters.symm
  have hmapped := (hmap railcar 0 0 start s₁ b hresolve fun _ => .rfl).2.2
  rw [hwrites] at hmapped
  exact ⟨b, s₁, s', hresolve, hb, hdistinct, hleading, hnames, hbind, _, _, hmapped⟩

end RecordBinding
