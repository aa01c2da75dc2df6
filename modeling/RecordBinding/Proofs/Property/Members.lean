import RecordBinding.Proofs.Binding.Building
import RecordBinding.Proofs.Declaration.Signature
import RecordBinding.Proofs.Property.Discovery
import RecordBinding.Proofs.Universe.Declaration

namespace RecordBinding

/-- Whether a member can be read with its instance alone, and whether that is as an attribute: a property
with a getter, or a method that can be called without further arguments and collects none. -/
inductive Member.ReadAs (member : Member) : Bool → Prop
  | property {getter : Function} (hkind : member.kind = .property (some getter)) :
      ReadAs member true
  | method {f : Function} (hkind : member.kind = .method f) (hcall : f.parameters.binds 1 = true)
      (hcollecting : ∀ p ∈ f.parameters, ¬ p.Collects) : ReadAs member false

def Member.method? (member : Member) : Option Function :=
  match member.kind with
  | .method f => some f
  | _ => none

theorem Member.readAs_iff {member : Member} (hlegal : ∀ f ∈ member.method?, f.parameters.IsLegal)
    (isAttribute : Bool) :
    member.ReadAs isAttribute ↔ ∃ f, member.reader? = some (f, isAttribute) := by
  have htakes : ∀ {f}, member.kind = .method f → (f.takesExactly 0 = true ↔
      f.parameters.binds 1 = true ∧ ∀ p ∈ f.parameters, ¬ p.Collects) := by
    intro f hkind
    refine Signature.takesExactly_zero_iff (hlegal f ?_)
    rw [method?, hkind]
    rfl
  constructor
  · rintro (@⟨getter, hkind⟩ | @⟨f, hkind, hcall, hcollecting⟩)
    · exact ⟨getter, by rw [reader?, hkind]⟩
    · have hreads := (htakes hkind).2 ⟨hcall, hcollecting⟩
      exact ⟨f, by simp [reader?, hkind, hreads]⟩
  · rintro ⟨f, hreader⟩
    unfold reader? at hreader
    split at hreader
    · next getter hkind =>
        cases hreader
        exact .property hkind
    · next g hkind =>
        split at hreader
        · next hreads =>
            cases hreader
            obtain ⟨hcall, hcollecting⟩ := (htakes hkind).1 hreads
            exact .method hkind hcall hcollecting
        · cases hreader
    · cases hreader

/-- All methods of a universe are functions that can be written. -/
def Universe.IsLegal (u : Universe) : Prop :=
  ∀ info ∈ u.classes, ∀ member ∈ info.members, ∀ f ∈ member.method?, f.parameters.IsLegal

instance (u : Universe) : Decidable u.IsLegal :=
  inferInstanceAs (Decidable (∀ info ∈ u.classes, ∀ member ∈ info.members, ∀ f ∈ member.method?,
    f.parameters.IsLegal))

namespace Classes

variable {classes : Classes} {ancestors : List ClassId} {name : String} {c : ClassId}
  {member : Member}

/-- A class that is not universal holds a member in its own dictionary. -/
def Holds (classes : Classes) (c : ClassId) (name : String) (member : Member) : Prop :=
  c.isUniversal = false ∧ classes.ownMember? c name = some member

def ownNames (classes : Classes) (c : ClassId) : List String :=
  (classes.ownMembers c).map (·.name)

/-- The first of some classes to hold a member under a name. -/
def HeldFirst (classes : Classes) (ancestors : List ClassId) (name : String) (c : ClassId)
    (member : Member) : Prop :=
  ∃ before after, ancestors = before ++ c :: after ∧ classes.Holds c name member ∧
    ∀ earlier ∈ before, ∀ other, ¬ classes.Holds earlier name other

theorem HeldFirst.name_eq (h : classes.HeldFirst ancestors name c member) : name = member.name := by
  obtain ⟨-, -, -, ⟨-, hmember⟩, -⟩ := h
  have hname := List.find?_some hmember
  exact (eq_of_beq hname).symm

theorem HeldFirst.isLegal {u : Universe} (h : u.classes.HeldFirst ancestors name c member)
    (hlegal : u.IsLegal) : ∀ f ∈ member.method?, f.parameters.IsLegal := by
  obtain ⟨-, -, -, ⟨-, hmember⟩, -⟩ := h
  intro f hf
  have hkind : ∀ v, member.kind ≠ .attribute v := by
    intro v hv
    rw [Member.method?, hv] at hf
    cases hf
  obtain ⟨info, hinfo, hmem⟩ := exists_of_mem_ownMembers (List.mem_of_find?_eq_some hmember) hkind
  exact hlegal info (mem_of_find? hinfo).1 member hmem f hf

theorem ownMembers_of_isUniversal (h : c.isUniversal = true) : classes.ownMembers c = [] := by
  have hfind : classes.find? c = none := by
    rw [Option.eq_none_iff_forall_ne_some]
    intro info hinfo
    obtain ⟨-, rfl⟩ := mem_of_find? hinfo
    cases h
  unfold ownMembers
  rw [hfind]
  cases c with
  | builtin b =>
      cases b with
      | object => rfl
      | _ => cases h
  | _ => rfl

theorem holds_iff : classes.Holds c name member ↔ classes.ownMember? c name = some member := by
  refine ⟨And.right, fun h => ⟨?_, h⟩⟩
  cases huniversal : c.isUniversal with
  | false => rfl
  | true =>
      rw [ownMember?, ownMembers_of_isUniversal huniversal] at h
      cases h

theorem memberAlong?_eq_findSome? (classes : Classes) (name : String) (ancestors : List ClassId) :
    classes.memberAlong? name ancestors = ancestors.findSome? fun c =>
      (classes.ownMember? c name).map fun member => (c, member) := by
  induction ancestors with
  | nil => rfl
  | cons c rest ih =>
      rw [memberAlong?, List.findSome?_cons, ih]
      cases classes.ownMember? c name <;> rfl

/-- The first class to hold a name is where attribute look-up finds it. -/
theorem heldFirst_iff :
    classes.HeldFirst ancestors name c member ↔
      classes.memberAlong? name ancestors = some (c, member) := by
  rw [memberAlong?_eq_findSome?, List.findSome?_eq_some_iff]
  constructor
  · rintro ⟨before, after, hancestors, hholds, hbefore⟩
    refine ⟨before, c, after, hancestors, by rw [holds_iff.1 hholds]; rfl, ?_⟩
    intro earlier hearlier
    rw [Option.map_eq_none_iff, Option.eq_none_iff_forall_ne_some]
    exact fun other hother => hbefore earlier hearlier other (holds_iff.2 hother)
  · rintro ⟨before, c', after, hancestors, hmember, hbefore⟩
    obtain ⟨member', hholds, hsame⟩ := Option.map_eq_some_iff.1 hmember
    cases hsame
    refine ⟨before, after, hancestors, holds_iff.2 hholds, ?_⟩
    intro earlier hearlier other hother
    have hnone := hbefore earlier hearlier
    rw [holds_iff.1 hother] at hnone
    cases hnone

theorem membersOf_cons (classes : Classes) (c : ClassId) (rest : List ClassId) :
    classes.membersOf (c :: rest) =
      (classes.ownMembers c).map (fun member => (c, member)) ++ classes.membersOf rest := by
  rw [membersOf, List.filter_cons]
  cases huniversal : c.isUniversal with
  | false => exact List.flatMap_cons
  | true =>
      rw [ownMembers_of_isUniversal huniversal]
      rfl

theorem find?_membersOf (classes : Classes) (ancestors : List ClassId) (name : String) :
    ((classes.membersOf ancestors).find? fun entry => entry.2.name == name) =
      classes.memberAlong? name ancestors := by
  induction ancestors with
  | nil => rfl
  | cons c rest ih =>
      have hown : ((classes.ownMembers c).map fun member => (c, member)).find?
          (fun entry => entry.2.name == name) =
            (classes.ownMember? c name).map fun member => (c, member) := List.find?_map ..
      rw [membersOf_cons, List.find?_append, memberAlong?, ih, hown]
      cases classes.ownMember? c name <;> rfl

theorem map_membersOf (classes : Classes) (ancestors : List ClassId) :
    (classes.membersOf ancestors).map (fun entry => (entry.1, entry.2.name)) =
      ancestors.flatMap fun c => (classes.ownNames c).map fun name => (c, name) := by
  induction ancestors with
  | nil => rfl
  | cons c rest ih =>
      rw [membersOf_cons, List.map_append, ih, List.flatMap_cons, ownNames, List.map_map, List.map_map]
      rfl

theorem mem_publicMembers_iff :
    (c, member) ∈ classes.publicMembers ancestors ↔
      isPrivateName member.name = false ∧ classes.HeldFirst ancestors member.name c member := by
  rw [publicMembers, List.mem_filter, mem_firstOfName_iff, find?_membersOf, heldFirst_iff, and_comm,
    Bool.not_eq_true']

end Classes

/-- A property without what depends on the resolved type. -/
def DeclaredProperty.place (p : DeclaredProperty) : String × ClassId × Bool :=
  (p.name, p.declaringClass, p.isAttribute)

namespace Universe

variable {u : Universe}

theorem places_of_declareAll {walk : Instantiation} {members : List (ClassId × Member)}
    {declared : List DeclaredProperty} (h : u.declareAll walk members = .ok declared) :
    declared.map DeclaredProperty.place = members.filterMap fun entry =>
      entry.2.reader?.map fun reader => (entry.2.name, entry.1, reader.2) := by
  induction members generalizing declared with
  | nil =>
      cases h
      rfl
  | cons entry rest ih =>
      obtain ⟨c, member⟩ := entry
      obtain ⟨first, hfirst, h⟩ := bind_ok h
      obtain ⟨others, hothers, h⟩ := bind_ok h
      cases h
      rw [List.map_append, ih hothers]
      unfold declare at hfirst
      split at hfirst
      · next hreader =>
          cases hfirst
          rw [List.filterMap_cons_none (by rw [hreader]; rfl)]
          rfl
      · next f isAttribute hreader =>
          obtain ⟨hint, -, h⟩ := bind_ok hfirst
          cases h
          rw [List.filterMap_cons_some (by rw [hreader]; rfl)]
          rfl

/-- The properties of a class as discovery lists them, without their types. -/
def places (u : Universe) (c : ClassId) : List (String × ClassId × Bool) :=
  (u.classes.publicMembers (u.classes.ancestors c)).filterMap fun entry =>
    entry.2.reader?.map fun reader => (entry.2.name, entry.1, reader.2)

theorem places_of_discover {resolved : TypeExpr} {c : ClassId} {declared : List DeclaredProperty}
    (h : u.discover resolved (.cls c) = .ok declared) :
    declared.map DeclaredProperty.place = u.places c :=
  places_of_declareAll h

theorem mem_places_iff (hlegal : u.IsLegal) {c holder : ClassId} {name : String}
    {isAttribute : Bool} :
    (name, holder, isAttribute) ∈ u.places c ↔ isPrivateName name = false ∧
      ∃ member, u.classes.HeldFirst (u.classes.ancestors c) name holder member ∧
        member.ReadAs isAttribute := by
  rw [places, List.mem_filterMap]
  constructor
  · rintro ⟨⟨c', member⟩, hmember, hreader⟩
    obtain ⟨⟨f, reads⟩, hfound, hplace⟩ := Option.map_eq_some_iff.1 hreader
    cases hplace
    obtain ⟨hpublic, hheld⟩ := Classes.mem_publicMembers_iff.1 hmember
    exact ⟨hpublic, member, hheld, (Member.readAs_iff (hheld.isLegal hlegal) _).2 ⟨f, hfound⟩⟩
  · rintro ⟨hpublic, member, hheld, hread⟩
    obtain ⟨f, hreader⟩ := (Member.readAs_iff (hheld.isLegal hlegal) _).1 hread
    obtain rfl := hheld.name_eq
    refine ⟨(holder, member), Classes.mem_publicMembers_iff.2 ⟨hpublic, hheld⟩, ?_⟩
    rw [hreader]
    rfl

theorem sublist_map_readers {γ : Type} {f : String × ClassId × Bool → γ} {g : ClassId × Member → γ}
    (h : ∀ entry isAttribute, f (entry.2.name, entry.1, isAttribute) = g entry)
    (members : List (ClassId × Member)) :
    ((members.filterMap fun entry =>
      entry.2.reader?.map fun reader => (entry.2.name, entry.1, reader.2)).map f).Sublist
        (members.map g) := by
  induction members with
  | nil => exact .slnil
  | cons entry rest ih =>
      cases hreader : entry.2.reader? with
      | none =>
          rw [List.filterMap_cons_none (by rw [hreader]; rfl)]
          exact ih.cons _
      | some reader =>
          rw [List.filterMap_cons_some (by rw [hreader]; rfl), List.map_cons, h, List.map_cons]
          exact ih.cons_cons _

/-- The properties come class by class along the ancestors, in each class in the order of its
dictionary. -/
theorem sublist_places (c : ClassId) :
    ((u.places c).map fun place => (place.2.1, place.1)).Sublist
      ((u.classes.ancestors c).flatMap fun holder =>
        (u.classes.ownNames holder).map fun name => (holder, name)) := by
  rw [← Classes.map_membersOf]
  refine (sublist_map_readers (fun _ _ => rfl) _).trans (List.Sublist.map _ ?_)
  exact List.filter_sublist.trans (Classes.sublist_firstOfName _)

theorem nodup_readers (ancestors : List ClassId) :
    (((u.classes.publicMembers ancestors).filterMap fun entry =>
      entry.2.reader?.map fun reader => (entry.2.name, entry.1, reader.2)).map (·.1)).Nodup := by
  have hpublic : ((u.classes.publicMembers ancestors).map (·.2.name)).Nodup :=
    (List.filter_sublist.map _).nodup (Classes.nodup_firstOfName _)
  exact (sublist_map_readers (fun _ _ => rfl) _).nodup hpublic

theorem nodup_places (c : ClassId) : ((u.places c).map (·.1)).Nodup :=
  nodup_readers (u.classes.ancestors c)

theorem nodup_names_of_discover {resolved definition : TypeExpr} {declared : List DeclaredProperty}
    (h : u.discover resolved definition = .ok declared) :
    (declared.map DeclaredProperty.name).Nodup := by
  unfold discover at h
  split at h
  · split at h
    · next ancestors _ =>
        have hnodup := nodup_readers (u := u) ancestors
        rw [← places_of_declareAll h, List.map_map] at hnodup
        exact hnodup
    · cases h
  · cases h

end Universe

theorem Registration.names_of_bind {u : Universe} {r : Registration} {t : TypeExpr} {w w' : World}
    {b : Binding World} (h : (r.bind u t).run w = (.ok b, w')) :
    ∃ declared, u.discover t r.definition = .ok declared ∧
      b.names = declared.map DeclaredProperty.name := by
  have hnames : ∀ {q : DeclaredProperty → Accessor World → Prop} {declared : List DeclaredProperty},
      List.Forall₂ (fun p a => a.IsFor u p ∧ q p a) declared b.accessors →
        b.names = declared.map DeclaredProperty.name := by
    intro q declared hfor
    rw [Binding.names]
    generalize b.accessors = accessors at hfor
    induction hfor with
    | nil => rfl
    | cons hp _ ih => rw [List.map_cons, List.map_cons, ih, hp.1.name]
  unfold Registration.bind at h
  split at h
  · obtain ⟨_, _, _, declared, -, -, -, hdiscover, -, -, -, hfor⟩ := Action.bindImmutable_ok h
    exact ⟨declared, hdiscover, hnames hfor⟩
  · obtain ⟨_, declared, -, hdiscover, -, -, hfor⟩ := Action.bindModifiable_ok h
    exact ⟨declared, hdiscover, hnames hfor⟩

/-- Discovery finds the public members that attribute look-up finds and that can be read with the instance
alone, each at the class that look-up finds it at; what hides it in a class before cannot be read. They
come in the order of the ancestors and of their dictionaries, without repetition. Nothing of that
depends on the resolved type, so that all bindings of a definition have the same names. -/
theorem Universe.discover_members (u : Universe) (hlegal : u.IsLegal) (c : ClassId) :
    (∀ resolved declared, u.discover resolved (.cls c) = .ok declared →
      (∀ name holder isAttribute,
        (name, holder, isAttribute) ∈ declared.map DeclaredProperty.place ↔
          isPrivateName name = false ∧
            ∃ member, u.classes.HeldFirst (u.classes.ancestors c) name holder member ∧
              member.ReadAs isAttribute) ∧
      (declared.map DeclaredProperty.name).Nodup ∧
      (declared.map fun p => (p.declaringClass, p.name)).Sublist
        ((u.classes.ancestors c).flatMap fun holder =>
          (u.classes.ownNames holder).map fun name => (holder, name)) ∧
      (∀ resolved' declared', u.discover resolved' (.cls c) = .ok declared' →
        declared'.map DeclaredProperty.place = declared.map DeclaredProperty.place) ∧
      ∀ (r : Registration) t b w w', r.definition = .cls c → (r.bind u t).run w = (.ok b, w') →
        b.names = declared.map DeclaredProperty.name) ∧
    ∀ name holder member, u.classes.HeldFirst (u.classes.ancestors c) name holder member ↔
      u.classes.member? c name = some (holder, member) := by
  refine ⟨?_, fun name holder member => Classes.heldFirst_iff⟩
  intro resolved declared hdeclared
  have hplaces := Universe.places_of_discover hdeclared
  have hnames : declared.map DeclaredProperty.name = (u.places c).map (·.1) := by
    rw [← hplaces, List.map_map]
    rfl
  have hholders : (declared.map fun p => (p.declaringClass, p.name)) =
      (u.places c).map fun place => (place.2.1, place.1) := by
    rw [← hplaces, List.map_map]
    rfl
  rw [hplaces, hnames, hholders]
  refine ⟨fun name holder isAttribute => Universe.mem_places_iff hlegal, Universe.nodup_places c,
    Universe.sublist_places c, fun resolved' declared' => Universe.places_of_discover, ?_⟩
  intro r t b w w' hdefinition hbind
  obtain ⟨found, hfound, hb⟩ := Registration.names_of_bind hbind
  rw [hdefinition] at hfound
  rw [hb, ← Universe.places_of_discover hfound, List.map_map]
  rfl

/-- A shelf; a box that hides what it has of the shelf in all ways but one; and a tray, which is a dictionary
before it is a shelf. -/
def shelves : ModuleDeclaration :=
  let self : Parameter := ⟨"self", .positional, false, none⟩
  let method (c name : String) (parameters : Signature) : Member :=
    ⟨name, .method ⟨c ++ "." ++ name, name, parameters, none, .nothing⟩, false⟩
  let property (c name : String) : Member :=
    ⟨name, .property (some ⟨c ++ "." ++ name, name, [self], none, .nothing⟩), false⟩
  { name := "shelves"
    types := []
    classes :=
      [⟨"Shelf", .concrete, [], [],
          [method "Shelf" "size" [self], method "Shelf" "mark" [self], property "Shelf" "owner",
            method "Shelf" "items" [self], method "Shelf" "_kind" [self]], []⟩,
        ⟨"Box", .concrete, [], [.name "Shelf"],
          [property "Box" "label", ⟨"size", .staticMethod ⟨"Box.size", "size", [], none, .nothing⟩, false⟩,
            method "Box" "mark" [self, ⟨"all", .rest, false, none⟩], ⟨"items", .property none, false⟩], []⟩,
        ⟨"Tray", .concrete, [], [.name "dict", .name "Shelf"], [], []⟩]
    functions := []
    values := [] }

/-- What a box or a dictionary holds under the name of a method of the shelf hides it. -/
theorem Universe.discover_members_shelves :
    let u := shelves.toUniverse
    let box : ClassId := .declared "Box"
    let tray : ClassId := .declared "Tray"
    let shelf : ClassId := .declared "Shelf"
    u.IsLegal ∧
      (∃ declared, u.discover (.cls .any) (.cls box) = .ok declared ∧
        declared.map DeclaredProperty.place = [("label", box, true), ("owner", shelf, true)] ∧
        (declared.map DeclaredProperty.name).Nodup ∧
        (∃ member, u.classes.HeldFirst (u.classes.ancestors box) "owner" shelf member) ∧
        ∀ holder member, u.classes.HeldFirst (u.classes.ancestors box) "size" holder member →
          ¬ member.ReadAs false) ∧
      ∃ declared, u.discover (.cls .any) (.cls tray) = .ok declared ∧
        declared.map DeclaredProperty.place =
          [("size", shelf, false), ("mark", shelf, false), ("owner", shelf, true)] ∧
        (∃ member, u.classes.HeldFirst (u.classes.ancestors tray) "items" (.builtin .dict) member) ∧
        ∀ holder member, u.classes.HeldFirst (u.classes.ancestors tray) "items" holder member →
          ¬ member.ReadAs false := by
  intro u box tray shelf
  have hlegal : u.IsLegal := by decide
  refine ⟨hlegal, ?_, ?_⟩
  · obtain ⟨declared, hdeclared, hplaces⟩ :
        ∃ declared, u.discover (.cls .any) (.cls box) = .ok declared ∧
          declared.map DeclaredProperty.place = [("label", box, true), ("owner", shelf, true)] :=
      ⟨_, rfl, rfl⟩
    obtain ⟨hmembers, hnodup, -⟩ := (Universe.discover_members u hlegal box).1 (.cls .any) declared hdeclared
    rw [hplaces] at hmembers
    refine ⟨declared, hdeclared, hplaces, hnodup, ?_, fun holder member hheld hread => ?_⟩
    · obtain ⟨-, member, hheld, -⟩ := (hmembers "owner" shelf true).1 (by simp)
      exact ⟨member, hheld⟩
    · have hlisted := (hmembers "size" holder false).2 ⟨rfl, member, hheld, hread⟩
      simp at hlisted
  · have hfound : (u.discover (.cls .any) (.cls tray)).toOption.map (·.map DeclaredProperty.place) =
        some [("size", shelf, false), ("mark", shelf, false), ("owner", shelf, true)] := by decide
    obtain ⟨declared, hdeclared, hplaces⟩ := Option.map_eq_some_iff.1 hfound
    replace hdeclared := ok_of_toOption hdeclared
    obtain ⟨hdiscover, hheldFirst⟩ := Universe.discover_members u hlegal tray
    have hmembers := (hdiscover (.cls .any) declared hdeclared).1
    rw [hplaces] at hmembers
    have hdict : (u.classes.member? tray "items").map Prod.fst = some (.builtin .dict) := by decide
    obtain ⟨⟨holder, member⟩, hfound, rfl⟩ := Option.map_eq_some_iff.1 hdict
    refine ⟨declared, hdeclared, hplaces, ⟨member, (hheldFirst "items" _ member).2 hfound⟩,
      fun holder member hheld hread => ?_⟩
    have hlisted := (hmembers "items" holder false).2 ⟨rfl, member, hheld, hread⟩
    simp at hlisted

end RecordBinding
