import RecordBinding.Proofs.Row.RoundTrip

namespace RecordBinding

theorem dropLeading?_eq_some_iff {leading name rest : String} :
    dropLeading? leading name = some rest ↔ name = leading ++ rest := by
  constructor
  · intro h
    unfold dropLeading? at h
    split at h
    · next hprefix =>
        cases h
        obtain ⟨tail, htail⟩ := List.isPrefixOf_iff_prefix.1 hprefix
        apply String.toList_inj.1
        rw [String.toList_append, String.toList_ofList, ← htail, ← String.length_toList, List.drop_left]
    · cases h
  · rintro rfl
    exact dropLeading?_append leading rest

namespace RowMapper

variable {names : List String} {name : String}

/-- A column is named by a prefix and a property, up to case and underscores. -/
def NamedBy (leading column name : String) : Prop :=
  normalizeColumnName column = normalizeColumnName leading ++ normalizeColumnName name

instance (leading column name : String) : Decidable (NamedBy leading column name) :=
  inferInstanceAs (Decidable (_ = _))

/-- A name after which no other of its normal form comes. -/
def LastOfForm (names : List String) (name : String) : Prop :=
  ∃ before after, names = before ++ name :: after ∧
    ∀ later ∈ after, normalizeColumnName later ≠ normalizeColumnName name

theorem LastOfForm.mem (h : LastOfForm names name) : name ∈ names := by
  obtain ⟨before, after, rfl, -⟩ := h
  simp

theorem propertyFor?_eq_some_iff {key : String} :
    propertyFor? names key = some name ↔
      normalizeColumnName name = key ∧ LastOfForm names name := by
  unfold propertyFor?
  -- the search goes through the names from behind, so that what it passes over comes later
  rw [List.find?_eq_some_iff_append, beq_iff_eq]
  constructor
  · rintro ⟨rfl, after, before, hnames, hafter⟩
    refine ⟨rfl, before.reverse, after.reverse, ?_, fun later hlater => ?_⟩
    · rw [← List.reverse_reverse names, hnames, List.reverse_append, List.reverse_cons,
        List.append_assoc, List.singleton_append]
    · simpa using hafter later (List.mem_reverse.1 hlater)
  · rintro ⟨rfl, before, after, rfl, hafter⟩
    refine ⟨rfl, after.reverse, before.reverse, by simp, fun later hlater => ?_⟩
    simpa using hafter later (List.mem_reverse.1 hlater)

theorem exists_lastOfForm (hname : name ∈ names) :
    ∃ last, LastOfForm names last ∧ normalizeColumnName last = normalizeColumnName name := by
  cases hfound : propertyFor? names (normalizeColumnName name) with
  | none =>
      have hnone := List.find?_eq_none.1 hfound name (List.mem_reverse.2 hname)
      exact absurd (beq_self_eq_true _) hnone
  | some last =>
      obtain ⟨hform, hlast⟩ := propertyFor?_eq_some_iff.1 hfound
      exact ⟨last, hlast, hform⟩

/-- A column belongs to the last of the properties that it is named by. -/
theorem matchColumn?_eq_some_iff {target : TypeExpr} {leading column : String} :
    (ofPrefix target leading).matchColumn? names column = some name ↔
      NamedBy leading column name ∧ LastOfForm names name := by
  unfold matchColumn? ofPrefix NamedBy
  dsimp only
  split
  · next hempty =>
      rw [propertyFor?_eq_some_iff, String.isEmpty_iff.1 hempty, String.empty_append,
        eq_comm (a := normalizeColumnName name)]
  · simp only [Option.bind_eq_some_iff, dropLeading?_eq_some_iff, propertyFor?_eq_some_iff]
    constructor
    · rintro ⟨rest, hcolumn, rfl, hlast⟩
      exact ⟨hcolumn, hlast⟩
    · rintro ⟨hcolumn, hlast⟩
      exact ⟨_, hcolumn, rfl, hlast⟩

theorem mem_addMatch_iff {m : RowMapper} {matched : List (String × String)} {column : String}
    (hmatched : ∀ entry ∈ matched, m.matchColumn? names entry.1 = some entry.2)
    {entry : String × String} :
    entry ∈ m.addMatch names matched column ↔
      entry ∈ matched ∨ entry.1 = column ∧ m.matchColumn? names column = some entry.2 := by
  unfold addMatch
  cases hcolumn : m.matchColumn? names column with
  | none => simp
  | some name =>
      dsimp only
      split
      · next hknown =>
          obtain ⟨known, hmem, hsame⟩ := List.any_eq_true.1 hknown
          obtain rfl : known.1 = column := eq_of_beq hsame
          obtain rfl : name = known.2 := Option.some.inj (hcolumn.symm.trans (hmatched known hmem))
          refine ⟨.inl, fun h => h.elim id ?_⟩
          rintro ⟨hcolumn', hname⟩
          rwa [show entry = known from Prod.ext hcolumn' (Option.some.inj hname).symm]
      · rw [List.mem_append, List.mem_singleton, Prod.ext_iff, Option.some.injEq,
          eq_comm (a := name)]

theorem mem_matchedColumns_iff {m : RowMapper} {columns : List String} {entry : String × String} :
    entry ∈ m.matchedColumns names columns ↔
      entry.1 ∈ columns ∧ m.matchColumn? names entry.1 = some entry.2 := by
  -- the fold has matched columns behind it, which belong to their properties
  have hstep : ∀ earlier : List (String × String),
      (∀ entry ∈ earlier, m.matchColumn? names entry.1 = some entry.2) →
      (entry ∈ columns.foldl (m.addMatch names) earlier ↔
        entry ∈ earlier ∨ entry.1 ∈ columns ∧ m.matchColumn? names entry.1 = some entry.2) := by
    induction columns with
    | nil => simp
    | cons column columns ih =>
        intro earlier hearlier
        rw [List.foldl_cons, ih, mem_addMatch_iff hearlier, List.mem_cons]
        · grind
        · intro other hother
          rcases (mem_addMatch_iff hearlier).1 hother with hother | ⟨rfl, hother⟩
          · exact hearlier other hother
          · exact hother
  rw [matchedColumns, hstep [] (List.forall_mem_nil _)]
  simp

end RowMapper

theorem Row.mem_writes_iff {row : Row} {matched : List (String × String)} {name : String}
    {value : Value} :
    (name, value) ∈ row.writes matched ↔
      ∃ column, (column, name) ∈ matched ∧ row.value? column = some value := by
  simp only [writes, List.mem_filterMap, Option.map_eq_some_iff, Prod.mk.injEq, Prod.exists]
  constructor
  · rintro ⟨column, _, hmem, _, hvalue, rfl, rfl⟩
    exact ⟨column, hmem, hvalue⟩
  · rintro ⟨column, hmem, hvalue⟩
    exact ⟨column, name, hmem, value, hvalue, rfl, rfl⟩

namespace RowMapper

section Mapping

variable {τ : Type} [TimeScale τ] {u : Universe} {s s' : Registry τ × World}

theorem mapRow_ok {m : RowMapper} {now later : τ} {row : Row} {v : Value}
    (h : (m.mapRow u now later row).run s = (.ok v, s')) :
    ∃ b s₁, (RegistryAction.resolve u m.target now later).run s = (.ok (some b), s₁) ∧ s'.1 = s₁.1 ∧
      (buildRow b (m.matchedColumns b.names row.columns) row).run s₁.2 = (.ok v, s'.2) := by
  unfold mapRow at h
  obtain ⟨b, s₁, hbinding, hmapped⟩ := Action.run_bind_ok h
  unfold RowMapper.binding at hbinding
  obtain ⟨found, s₂, hresolve, hfound⟩ := Action.run_bind_ok hbinding
  cases found with
  | none => cases hfound
  | some _ =>
      cases hfound
      obtain ⟨matched, s₂, hmatched, hbuilt⟩ := Action.run_bind_ok hmapped
      obtain rfl : s₁ = s₂ := congrArg Prod.snd hmatched
      have hcolumns := Action.run_ofExcept_ok hmatched
      unfold matchColumns at hcolumns
      split at hcolumns
      · cases hcolumns
      · cases hcolumns
        rw [RegistryAction.run_onWorld] at hbuilt
        obtain ⟨hvalue, rfl⟩ := Prod.mk.inj hbuilt
        exact ⟨b, s₁, hresolve, rfl, Prod.ext hvalue rfl⟩

/-- A row that is mapped writes the properties that are the last of their normal form and name a column, each
with the value of such a column, and nothing else. So of the properties that name a column one is written;
which one, their order decides. -/
theorem mapRow_writes {target : TypeExpr} {leading : String} {now later : τ} {row : Row} {v : Value}
    (h : ((ofPrefix target leading).mapRow u now later row).run s = (.ok v, s')) :
    ∃ b s₁ writes, (RegistryAction.resolve u target now later).run s = (.ok (some b), s₁) ∧
      s'.1 = s₁.1 ∧ b.Constructs writes s₁.2 (.ok v) s'.2 ∧
      (∀ name value, (name, value) ∈ writes ↔ LastOfForm b.names name ∧
        ∃ column ∈ row.columns, NamedBy leading column name ∧ row.value? column = some value) ∧
      ∀ name ∈ b.names, ∀ column ∈ row.columns, NamedBy leading column name →
        (name ∈ writes.map Prod.fst ↔ LastOfForm b.names name) ∧
          ∃ last ∈ writes.map Prod.fst, NamedBy leading column last := by
  obtain ⟨b, s₁, hresolve, hregistry, hbuild⟩ := mapRow_ok h
  let matched := (ofPrefix target leading).matchedColumns b.names row.columns
  have hmatched : ∀ {column name}, (column, name) ∈ matched ↔
      column ∈ row.columns ∧ NamedBy leading column name ∧ LastOfForm b.names name := by
    intro column name
    rw [mem_matchedColumns_iff, matchColumn?_eq_some_iff]
  have hwrites : ∀ name value, (name, value) ∈ row.writes matched ↔ LastOfForm b.names name ∧
      ∃ column ∈ row.columns, NamedBy leading column name ∧ row.value? column = some value := by
    intro name value
    rw [Row.mem_writes_iff]
    constructor
    · rintro ⟨column, hmem, hvalue⟩
      obtain ⟨hcolumn, hnamed, hlast⟩ := hmatched.1 hmem
      exact ⟨hlast, column, hcolumn, hnamed, hvalue⟩
    · rintro ⟨hlast, column, hcolumn, hnamed, hvalue⟩
      exact ⟨column, hmatched.2 ⟨hcolumn, hnamed, hlast⟩, hvalue⟩
  -- a property that is the last of its form and names a column is written
  have hwritten : ∀ name, LastOfForm b.names name → ∀ column ∈ row.columns,
      NamedBy leading column name → name ∈ (row.writes matched).map Prod.fst := by
    intro name hlast column hcolumn hnamed
    obtain ⟨value, hvalue⟩ := Row.exists_value? hcolumn
    exact List.mem_map.2 ⟨(name, value), (hwrites name value).2 ⟨hlast, column, hcolumn, hnamed, hvalue⟩,
      rfl⟩
  have hknown : ∀ write ∈ row.writes matched, b.has write.1 = true :=
    fun write hwrite => List.contains_iff_mem.2 ((hwrites _ _).1 hwrite).1.mem
  refine ⟨b, s₁, row.writes matched, hresolve, hregistry, ?_, hwrites, ?_⟩
  · have hconstructs := Binding.constructs_construct hknown s₁.2
    rw [← buildRow_eq_construct b fun entry hentry => (hmatched.1 hentry).1, hbuild] at hconstructs
    exact hconstructs
  · intro name hname column hcolumn hnamed
    constructor
    · constructor
      · intro hmem
        obtain ⟨write, hwrite, rfl⟩ := List.mem_map.1 hmem
        exact ((hwrites _ _).1 hwrite).1
      · exact fun hlast => hwritten name hlast column hcolumn hnamed
    · obtain ⟨last, hlast, hform⟩ := exists_lastOfForm hname
      have hnamed' : NamedBy leading column last := by rw [NamedBy, hform, hnamed]
      exact ⟨last, hwritten last hlast column hcolumn hnamed', hnamed'⟩

end Mapping

end RowMapper

/-- A definition with two properties of one normal form, and a class for it whose instances are changed in
place. -/
def crates : Universe :=
  let crate : ClassId := .declared "Crate"
  let plain : ClassId := .declared "PlainCrate"
  let self : Parameter := ⟨"self", .positional, false, none⟩
  let value : Parameter := ⟨"value", .positional, false, none⟩
  let method (name : String) (parameters : Signature) (body : Body) : Member :=
    ⟨name, .method ⟨"PlainCrate." ++ name, name, parameters, none, body⟩, false⟩
  { module := "crates"
    classes :=
      [⟨"PlainCrate", .concrete, [], [], [.cls crate], [crate], [plain, crate, .object],
          [method "net_weight" [self] (.get "net_weight" none),
            method "setNet_weight" [self, value] (.set "net_weight"),
            method "netWeight" [self] (.get "netWeight" none),
            method "setNetWeight" [self, value] (.set "netWeight"),
            ⟨"create", .staticMethod ⟨"PlainCrate.create", "create", [], none, .create "PlainCrate"⟩,
              false⟩], [], []⟩,
        ⟨"Crate", .protocol, [], [], [], [.object], [crate, .object],
          [⟨"net_weight", .method ⟨"Crate.net_weight", "net_weight", [self], none, .nothing⟩, true⟩,
            ⟨"netWeight", .method ⟨"Crate.netWeight", "netWeight", [self], none, .nothing⟩, true⟩],
          ["net_weight", "netWeight"], []⟩]
    names := [("PlainCrate", .cls plain)]
    functions := []
    values := [] }

def crateRegistry : Registry Int where
  registrations :=
    [(.cls (.declared "PlainCrate"),
      ⟨.modifiable, .cls (.declared "Crate"), .cls (.declared "PlainCrate"), none⟩)]
  cache := Cache.empty 60 0

/-- The columns match the two properties and one of no property. -/
def twoWeights : Row :=
  ⟨[("c_net_weight", .scalar (.int 1)), ("CNETWEIGHT", .scalar (.int 2)), ("c_colour", .str "red")], false⟩

theorem RowMapper.mapRow_writes_crates :
    let crate : TypeExpr := .cls (.declared "PlainCrate")
    ∃ v s', ((RowMapper.ofPrefix crate "C_").mapRow crates 0 0 twoWeights).run (crateRegistry, {}) =
        (.ok v, s') ∧
      ∃ (b : Binding World) (s₁ : Registry Int × World) (writes : List (String × Value)),
        b.names = ["net_weight", "netWeight"] ∧ b.Constructs writes s₁.2 (.ok v) s'.2 ∧
        NamedBy "C_" "c_net_weight" "net_weight" ∧ NamedBy "C_" "CNETWEIGHT" "net_weight" ∧
        "netWeight" ∈ writes.map Prod.fst ∧ "net_weight" ∉ writes.map Prod.fst := by
  intro crate
  obtain ⟨b₀, s₀, hresolve₀, hnames⟩ : ∃ b s₁,
      (RegistryAction.resolve crates (.cls (.declared "PlainCrate")) (0 : Int) 0).run (crateRegistry, {}) =
        (.ok (some b), s₁) ∧ b.names = ["net_weight", "netWeight"] := ⟨_, _, rfl, rfl⟩
  obtain ⟨v, s', h⟩ : ∃ v s',
      ((RowMapper.ofPrefix (.cls (.declared "PlainCrate")) "C_").mapRow crates (0 : Int) 0 twoWeights).run
        (crateRegistry, {}) = (.ok v, s') := ⟨_, _, rfl⟩
  obtain ⟨b, s₁, writes, hresolve, -, hconstructs, -, hwritten⟩ := RowMapper.mapRow_writes h
  cases hresolve₀.symm.trans hresolve
  have hlower : NamedBy "C_" "c_net_weight" "net_weight" := by decide +kernel
  have hupper : NamedBy "C_" "CNETWEIGHT" "net_weight" := by decide +kernel
  have hother : NamedBy "C_" "CNETWEIGHT" "netWeight" := by decide +kernel
  have hchosen : propertyFor? b₀.names (normalizeColumnName "net_weight") = some "netWeight" := by
    rw [hnames]
    decide +kernel
  rw [hnames] at hwritten hchosen
  refine ⟨v, s', h, b₀, s₀, writes, hnames, hconstructs, hlower, hupper, ?_, fun hmem => ?_⟩
  · exact (hwritten "netWeight" (by simp) "CNETWEIGHT" (by simp [twoWeights, Row.columns]) hother).1.2
      (propertyFor?_eq_some_iff.1 hchosen).2
  · have hlast := (hwritten "net_weight" (by simp) "c_net_weight"
      (by simp [twoWeights, Row.columns]) hlower).1.1 hmem
    rw [propertyFor?_eq_some_iff.2 ⟨rfl, hlast⟩] at hchosen
    exact absurd (Option.some.inj hchosen) (by decide)

/-- The columns of a row are named as the properties of a definition are, to the letter, and yet one of the
properties is not written: both columns go to the other one. -/
theorem RowMapper.mapRow_skips_property :
    let crate : TypeExpr := .cls (.declared "PlainCrate")
    let row : Row := ⟨[("net_weight", .scalar (.int 1)), ("netWeight", .scalar (.int 2))], false⟩
    ∃ b s₁ s', (RegistryAction.resolve crates crate 0 0).run (crateRegistry, {}) = (.ok (some b), s₁) ∧
      b.names = ["net_weight", "netWeight"] ∧
      ((RowMapper.ofPrefix crate "").mapRow crates 0 0 row).run (crateRegistry, {}) =
        (.ok (.object "PlainCrate" 0), s') ∧
      s'.2.trace = #["PlainCrate.create", "PlainCrate.setNetWeight", "PlainCrate.setNetWeight"] ∧
      s'.2.states = #[[("netWeight", .scalar (.int 2))]] :=
  ⟨_, _, _, rfl, rfl, rfl, rfl, rfl⟩

end RecordBinding
