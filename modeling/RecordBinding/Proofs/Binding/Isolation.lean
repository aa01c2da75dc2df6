import Mathlib.Logic.Function.Basic
import RecordBinding.Proofs.Binding.Building
import RecordBinding.Proofs.Binding.LifeCycle
import RecordBinding.Proofs.Object.Receiver

namespace RecordBinding

/-- Two worlds have the same instances as far as they are old, except for some. -/
structure World.SameBut (old : Nat) (others : Nat → Prop) (w w' : World) : Prop where
  states : ∀ id, id < old → ¬ others id → w.SameAt id w'
  old_le_left : old ≤ w.states.size
  old_le_right : old ≤ w'.states.size

theorem World.SameBut.refl (others : Nat → Prop) (w : World) : w.SameBut w.states.size others w :=
  ⟨fun _ _ _ => rfl, Nat.le_refl _, Nat.le_refl _⟩

namespace Action.KeepsTo

variable {id old : Nat} {others : Nat → Prop} {x : Action World Value} {w w' : World}

theorem sameBut_of_own (h : KeepsTo id x) (hid : id < old) (hown : ¬ others id)
    (hw : w.SameBut old others w') :
    SameEnd w w' (x.run w) (x.run w') ∧ (x.run w).2.SameBut old others (x.run w').2 := by
  obtain ⟨hend, hsame⟩ := h.reads w w' (Nat.lt_of_lt_of_le hid hw.old_le_left)
    (Nat.lt_of_lt_of_le hid hw.old_le_right) (hw.states id hid hown)
  refine ⟨hend, fun k hk hother => ?_, Nat.le_trans hw.old_le_left (h.grows w),
    Nat.le_trans hw.old_le_right (h.grows w')⟩
  by_cases hne : k = id
  · exact hne ▸ hsame
  · have hkept := h.others w k (Nat.lt_of_lt_of_le hk hw.old_le_left) hne
    have hkept' := h.others w' k (Nat.lt_of_lt_of_le hk hw.old_le_right) hne
    exact hkept.trans ((hw.states k hk hother).trans hkept'.symm)

theorem sameBut_of_other (h : KeepsTo id x) (hother : others id) (hw : w.SameBut old others w') :
    (x.run w).2.SameBut old others w' := by
  refine ⟨fun k hk hk' => ?_, Nat.le_trans hw.old_le_left (h.grows w), hw.old_le_right⟩
  have hkept := h.others w k (Nat.lt_of_lt_of_le hk hw.old_le_left) fun hne => hk' (hne ▸ hother)
  exact hkept.trans (hw.states k hk hk')

theorem map_null (h : KeepsTo id x) : KeepsTo id ((fun _ => Value.null) <$> x) := by
  have hnull : ∀ w w₁ : World, ¬ w.Creates w₁ .null := by
    rintro w w₁ ⟨_, _, _, hv, -⟩
    cases hv
  refine ⟨fun w w' hid hid' hsame => ?_, fun w k hk hne => ?_, fun w => ?_⟩
  · obtain ⟨hend, hsame'⟩ := h.reads w w' hid hid' hsame
    rw [run_map, run_map]
    refine ⟨?_, hsame'⟩
    generalize x.run w = ended at hend ⊢
    generalize x.run w' = ended' at hend ⊢
    cases hend with
    | fails => exact .fails
    | answers => exact .answers (hnull _ _) (hnull _ _)
    | creates => exact .answers (hnull _ _) (hnull _ _)
  · rw [run_map]
    exact h.others w k hk hne
  · rw [run_map]
    exact h.grows w

theorem guarded (h : KeepsTo id x) (operation : Operation) (target : TypeExpr)
    (property : Option String) : KeepsTo id (guarded operation target property x) := by
  refine ⟨fun w w' hid hid' hsame => ?_, fun w k hk hne => ?_, fun w => ?_⟩
  · obtain ⟨hend, hsame'⟩ := h.reads w w' hid hid' hsame
    rw [run_guarded, run_guarded]
    refine ⟨?_, hsame'⟩
    generalize x.run w = ended at hend ⊢
    generalize x.run w' = ended' at hend ⊢
    cases hend with
    | fails => exact .fails
    | answers h h' => exact .answers h h'
    | creates hid hstate hid' hstate' => exact .creates hid hstate hid' hstate'
  · rw [run_guarded]
    exact h.others w k hk hne
  · rw [run_guarded]
    exact h.grows w

theorem of_discard (h : KeepsTo id x) : KeepsTo id ((fun _ => Value.null) <$> discard x) := by
  have hmap : (fun _ : PUnit => Value.null) <$> discard x = (fun _ => Value.null) <$> x := by
    rw [show discard x = (fun _ => PUnit.unit) <$> x from rfl, Functor.map_map]
  rw [hmap]
  exact h.map_null

end Action.KeepsTo

structure Binding.KeepsTo (b : Binding World) (className : String) (id : Nat) : Prop where
  setter : ∀ a ∈ b.accessors, ∀ value,
    Action.KeepsTo id ((fun _ => Value.null) <$> a.setter (.object className id) value)
  finish : ∀ build, b.finish = some build → Action.KeepsTo id (build (.object className id))

/-- The factory of a binding makes a new instance at each call, and the setters and the build keep to it. -/
def Binding.IsConfined (b : Binding World) : Prop :=
  ∀ w target w', b.start.run w = (.ok target, w') →
    ∃ className id, target = .object className id ∧ w.states.size ≤ id ∧ id < w'.states.size ∧
      b.KeepsTo className id

def Universe.WritesByMethod (u : Universe) (className name : String) : Prop :=
  ∀ holder member, u.classes.member? (.declared className) name = some (holder, member) →
    (∃ f, member.kind = .method f) ∨ ∃ base cases, member.kind = .overload base cases

theorem Universe.builderSetter_keepsTo {u : Universe} {builder : ClassId} {definition : TypeExpr}
    {declared : DeclaredProperty} {setter : Value → Value → Action World Unit}
    (h : u.builderSetter builder definition declared = .ok setter) {className : String}
    (hmethod : u.WritesByMethod className declared.name) (id : Nat) (value : Value) :
    Action.KeepsTo id ((fun _ => Value.null) <$> setter (.object className id) value) := by
  have hcall : ∀ f, Action.KeepsTo id ((fun _ => Value.null) <$>
      discard (Action.callFunction u f [.object className id, value])) :=
    fun f => (Action.callFunction_keepsTo u f className id [value]).of_discard
  unfold Universe.builderSetter at h
  dsimp only at h
  split at h
  · split at h
    · generalize (if declared.type.isUnresolved then none
        else u.overloadFor? _ _ declared.type.erase) = captured? at h
      cases captured? with
      | some f =>
          cases h
          exact hcall f
      | none =>
          cases h
          unfold Action.getAttribute
          dsimp only
          cases hmember : u.classes.member? (.declared className) declared.name with
          | none => exact .of_error (fun w => rfl) id
          | some found =>
              obtain ⟨holder, member⟩ := found
              rcases hmethod holder member hmember with ⟨f, hkind⟩ | ⟨base, cases, hkind⟩
              · simp only [Attribute.ofInstance, hkind, pure_bind]
                exact hcall f
              · simp only [Attribute.ofInstance, hkind, pure_bind]
                exact hcall _
    · split at h
      · cases h
        exact hcall _
      · cases h
    · cases h
  · cases h

theorem Binding.IsMade.keepsTo {u : Universe} {b : Binding World} (h : b.IsMade u) {className : String}
    (hmethod : ∀ name ∈ b.names, u.WritesByMethod className name) (id : Nat) :
    b.KeepsTo className id := by
  obtain ⟨registration, t, w, w', hbind⟩ := h
  unfold Registration.bind at hbind
  split at hbind
  · obtain ⟨-, builderId, build, declared, -, -, -, -, -, -, hfinish, haccessors⟩ :=
      Action.bindImmutable_ok hbind
    refine ⟨fun a ha value => ?_, fun f hf => ?_⟩
    · obtain ⟨p, -, hfor, -, hsetter⟩ := exists_of_mem_right haccessors ha
      exact Universe.builderSetter_keepsTo hsetter
        (hfor.name ▸ hmethod a.name (List.mem_map_of_mem ha)) id value
    · rw [hfinish] at hf
      cases hf
      exact Action.callFunction_keepsTo u build className id []
  · obtain ⟨-, declared, -, -, -, hfinish, haccessors⟩ := Action.bindModifiable_ok hbind
    refine ⟨fun a ha value => ?_, fun f hf => ?_⟩
    · obtain ⟨p, -, -, -, setter, w₁, w₂, -, hsetter⟩ := exists_of_mem_right haccessors ha
      rw [hsetter]
      exact (Action.callFunction_keepsTo u setter className id [value]).of_discard
    · rw [hfinish] at hf
      cases hf

namespace Session

/-- A command as an action on the world. A write answers null. -/
def act (s : Session World) : SessionCommand → Action World Value
  | .write name value => (fun _ => .null) <$> s.write name value
  | .finish => s.result

def after (s : Session World) : SessionCommand → Session World
  | .write _ _ => s
  | .finish => s.close

theorem perform_eq (s : Session World) (command : SessionCommand) (w : World) :
    s.perform command w = (((s.act command).run w).1, s.after command, ((s.act command).run w).2) := by
  cases command with
  | write name value =>
      rw [act, Action.run_map]
      rfl
  | finish => rfl

/-- A session works on an instance, until it is finished. -/
def WorksOn (s : Session World) (b : Binding World) (className : String) (id : Nat) : Prop :=
  s = ⟨b, some (.object className id)⟩ ∨ s = ⟨b, none⟩

variable {s : Session World} {b : Binding World} {className : String} {id : Nat}

theorem WorksOn.after (h : s.WorksOn b className id) (command : SessionCommand) :
    (s.after command).WorksOn b className id := by
  cases command with
  | write name value => exact h
  | finish => rcases h with rfl | rfl <;> exact .inr rfl

theorem act_write {target value : Value} {name : String} {a : Accessor World}
    (ha : b.accessor name = .ok a) :
    act ⟨b, some target⟩ (.write name value) =
      Action.guarded .set a.owner (some a.name) ((fun _ => Value.null) <$> a.setter target value) := by
  funext w
  change (act ⟨b, some target⟩ (.write name value)).run w = (Action.guarded _ _ _ _).run w
  rw [act, Action.run_map, run_write, ha, Action.run_guarded, Action.run_map]
  dsimp only [Accessor.set]
  rw [Action.run_guarded]
  cases ((a.setter target value).run w).1 <;> rfl

theorem WorksOn.keepsTo (h : s.WorksOn b className id) (hb : b.KeepsTo className id)
    (command : SessionCommand) : Action.KeepsTo id (s.act command) := by
  cases command with
  | write name value =>
      rcases b.accessor_cases name with ⟨a, ha, -, -⟩ | ⟨hunknown, -⟩
      · rcases h with rfl | rfl
        · rw [act_write ha]
          exact (hb.setter a (Binding.mem_of_accessor ha) value).guarded .set a.owner (some a.name)
        · exact .of_error (fun w => by rw [act, Action.run_map, run_write, ha]; rfl) id
      · rcases h with rfl | rfl
        · exact .of_error (fun w => by rw [act, Action.run_map, run_write, hunknown]; rfl) id
        · exact .of_error (fun w => by rw [act, Action.run_map, run_write, hunknown]; rfl) id
  | finish =>
      rcases h with rfl | rfl
      · cases hfinish : b.finish with
        | some build =>
            have hact : act ⟨b, some (.object className id)⟩ .finish =
                Action.guarded .build b.implementation none (build (.object className id)) := by
              funext w
              change (act ⟨b, some (.object className id)⟩ .finish).run w = _
              rw [act, run_result, hfinish]
              rfl
            rw [hact]
            exact (hb.finish build hfinish).guarded .build b.implementation none
        | none =>
            have heffect : Action.HasEffect className id (act ⟨b, some (.object className id)⟩ .finish)
                fun _ => .answer (.object className id) := by
              intro w
              rw [act, run_result, hfinish]
              rfl
            exact heffect.keepsTo
      · exact .of_error (fun w => by rw [act, run_result]) id

/-- A command that one of several sessions carried out: what came of it, between which worlds. -/
structure Turn (ι : Type) where
  session : ι
  before : World
  outcome : Except Failure Value
  after : World

/-- Two turns come to the same: their calls end alike, and the old instances are in the same states after
them, except for some. -/
structure Turn.Same {ι : Type} (old : Nat) (others : Nat → Prop) (turn turn' : Turn ι) : Prop where
  outcome : SameEnd turn.before turn'.before (turn.outcome, turn.after) (turn'.outcome, turn'.after)
  after : turn.after.SameBut old others turn'.after

variable {ι : Type} [DecidableEq ι]

/-- Carries out commands to several sessions in turn, whatever their outcomes. -/
def takeTurns (sessions : ι → Session World) : List (ι × SessionCommand) → World → List (Turn ι)
  | [], _ => []
  | (i, command) :: rest, before =>
      let (outcome, s, after) := (sessions i).perform command before
      ⟨i, before, outcome, after⟩ :: takeTurns (Function.update sessions i s) rest after

theorem takeTurns_of_one {own : ι} {turns : List (ι × SessionCommand)}
    (h : ∀ turn ∈ turns, turn.1 = own) (sessions : ι → Session World) (w : World) :
    (takeTurns sessions turns w).map (fun turn => turn.outcome) =
      ((sessions own).performAll (turns.map fun turn => turn.2) w).1 := by
  induction turns generalizing sessions w with
  | nil => rfl
  | cons turn turns ih =>
      obtain ⟨i, command⟩ := turn
      obtain rfl : i = own := h _ List.mem_cons_self
      rw [List.map_cons, takeTurns, performAll]
      rcases (sessions i).perform command w with ⟨outcome, s, w₁⟩
      dsimp only
      rw [List.map_cons, ih fun turn hturn => h turn (List.mem_cons_of_mem _ hturn), Function.update_self]

/-- Sessions on different instances do not disturb each other. -/
theorem takeTurns_isolated {classNames : ι → String} {ids : ι → Nat} {own : ι} {old : Nat}
    {sessions alone : ι → Session World} (hb : ∀ i, b.KeepsTo (classNames i) (ids i))
    (hdistinct : ∀ i, i ≠ own → ids i ≠ ids own) (hold : ids own < old)
    (hsessions : ∀ i, (sessions i).WorksOn b (classNames i) (ids i)) (hown : sessions own = alone own)
    (turns : List (ι × SessionCommand)) {w w' : World}
    (hw : w.SameBut old (fun id => ∃ i, i ≠ own ∧ ids i = id) w') :
    List.Forall₂ (Turn.Same old fun id => ∃ i, i ≠ own ∧ ids i = id)
      ((takeTurns sessions turns w).filter fun turn => turn.session = own)
      (takeTurns alone (turns.filter fun turn => turn.1 = own) w') := by
  induction turns generalizing sessions alone w w' with
  | nil => exact .nil
  | cons turn turns ih =>
      obtain ⟨i, command⟩ := turn
      have hkeeps := (hsessions i).keepsTo (hb i) command
      have hsessions' : ∀ j, (Function.update sessions i ((sessions i).after command) j).WorksOn b
          (classNames j) (ids j) := by
        intro j
        by_cases hj : j = i
        · subst hj
          rw [Function.update_self]
          exact (hsessions j).after command
        · rw [Function.update_of_ne hj]
          exact hsessions j
      rw [takeTurns, perform_eq]
      dsimp only
      -- A turn of the session itself is taken in both runs, one of another session in the first run only.
      by_cases hi : i = own
      · subst hi
        rw [List.filter_cons_of_pos (by simp), List.filter_cons_of_pos (by simp), takeTurns, perform_eq,
          ← hown]
        obtain ⟨hend, hafter⟩ := hkeeps.sameBut_of_own hold (fun ⟨j, hj, heq⟩ => hdistinct j hj heq) hw
        refine .cons ⟨hend, hafter⟩ (ih hsessions' ?_ hafter)
        rw [Function.update_self, Function.update_self]
      · rw [List.filter_cons_of_neg (by simpa using hi), List.filter_cons_of_neg (by simpa using hi)]
        refine ih hsessions' ?_ (hkeeps.sameBut_of_other ⟨i, hi, rfl⟩ hw)
        rw [Function.update_of_ne (Ne.symm hi)]
        exact hown

end Session

namespace Binding

variable {b : Binding World}

theorem open_ok {s : Session World} {w w' : World} (h : b.open.run w = (.ok s, w')) :
    ∃ target, b.start.run w = (.ok target, w') ∧ s = ⟨b, some target⟩ := by
  rw [run_open] at h
  rcases hstart : b.start.run w with ⟨failure | target, w₁⟩
  · rw [hstart] at h
    cases h
  · rw [hstart] at h
    cases h
    exact ⟨target, rfl, rfl⟩

/-- Sessions are isolated. Whatever two sessions on a binding with a confined construction are asked in
turn, each operation comes to what it comes to when its session alone is asked: the same failure, the same
value, or a new instance in the same state. Of the instances that there were, only the target of the other
session may differ. -/
theorem sessions_isolated (hb : b.IsConfined) {w₀ w₁ w w₂ : World} {s₁ s₂ : Session World}
    (h₁ : b.open.run w₀ = (.ok s₁, w₁)) (hgrown : w₁.states.size ≤ w.states.size)
    (h₂ : b.open.run w = (.ok s₂, w₂)) (turns : List (Bool × SessionCommand)) (own : Bool) :
    let sessions := fun second : Bool => if second then s₂ else s₁
    let ownTurns := turns.filter fun turn => turn.1 = own
    let alone := Session.takeTurns sessions ownTurns w₂
    List.Forall₂ (Session.Turn.Same w₂.states.size
        fun id => ∃ className, (sessions !own).target = some (.object className id))
      ((Session.takeTurns sessions turns w₂).filter fun turn => turn.session = own) alone ∧
    alone.map (fun turn => turn.outcome) =
      ((sessions own).performAll (ownTurns.map fun turn => turn.2) w₂).1 := by
  intro sessions ownTurns alone
  obtain ⟨target₁, hstart₁, rfl⟩ := open_ok h₁
  obtain ⟨target₂, hstart₂, rfl⟩ := open_ok h₂
  obtain ⟨className₁, id₁, rfl, -, hid₁, hkeeps₁⟩ := hb _ _ _ hstart₁
  obtain ⟨className₂, id₂, rfl, hnew₂, hid₂, hkeeps₂⟩ := hb _ _ _ hstart₂
  have hlt : id₁ < id₂ := by omega
  let classNames := fun second : Bool => if second then className₂ else className₁
  let ids := fun second : Bool => if second then id₂ else id₁
  have hothers : (fun id => ∃ className, (sessions !own).target = some (.object className id)) =
      fun id => ∃ i, i ≠ own ∧ ids i = id := by
    funext id
    cases own <;> simp [sessions, ids]
  constructor
  · rw [hothers]
    have hkeeps : ∀ i, b.KeepsTo (classNames i) (ids i) := by
      rintro (_ | _)
      · exact hkeeps₁
      · exact hkeeps₂
    have hworks : ∀ i, (sessions i).WorksOn b (classNames i) (ids i) := by
      rintro (_ | _) <;> exact .inl rfl
    refine Session.takeTurns_isolated hkeeps ?_ ?_ hworks rfl turns (.refl _ w₂)
    · cases own <;> simp [ids] <;> omega
    · cases own <;> simp [ids] <;> omega
  · exact Session.takeTurns_of_one (fun turn hturn => of_decide_eq_true (List.mem_filter.1 hturn).2)
      sessions w₂

end Binding

/-- A protocol for a number, and a class for it whose builder takes anything but text, and builds once it
has something. -/
def seals : Universe :=
  let stamp : ClassId := .declared "Stamp"
  let wax : ClassId := .declared "Wax"
  let press : ClassId := .declared "Press"
  let self : Parameter := ⟨"self", .positional, false, none⟩
  let value : Parameter := ⟨"value", .positional, false, none⟩
  { module := "seals"
    classes :=
      [⟨"Press", .concrete, [], [], [], [.object], [press, .object],
          [⟨"mark", .overload ⟨"Press.mark", "mark", [self, value], none, .set "mark"⟩
              [(.name "str", ⟨"Press.mark[str]", "_", [self, value], none, .fail .valueError "text"⟩)],
              false⟩,
            ⟨"build", .method ⟨"Press.build", "build", [self], none, .build "Wax" ["mark"]⟩, false⟩],
          [], []⟩,
        ⟨"Wax", .concrete, [], [], [.cls stamp], [stamp], [wax, stamp, .object],
          [⟨"mark", .method ⟨"Wax.mark", "mark", [self], none, .get "mark" none⟩, false⟩,
            ⟨"builder", .staticMethod ⟨"Wax.builder", "builder", [], none, .create "Press"⟩, false⟩],
          [], []⟩,
        ⟨"Stamp", .protocol, [], [], [], [.object], [stamp, .object],
          [⟨"mark", .method ⟨"Stamp.mark", "mark", [self], some (.name "int"), .nothing⟩, true⟩],
          ["mark"], []⟩]
    names := [("Press", .cls press), ("Wax", .cls wax), ("Stamp", .cls stamp)]
    functions := []
    values := [] }

def sealRequest : RegistrationRequest :=
  ⟨.cls (.declared "Stamp"), .cls (.declared "Wax"), .none, none, none⟩

def sealRegistration : Registration :=
  ⟨.immutable, .cls (.declared "Stamp"), .cls (.declared "Wax"), none⟩

theorem Binding.sessions_isolated_seals :
    let number := fun i : Int => Value.scalar (.int i)
    let turns : List (Bool × SessionCommand) :=
      [(false, .write "mark" (number 1)), (true, .finish), (true, .write "mark" (number 2)),
        (false, .write "mark" (.str "A")), (false, .finish), (true, .finish), (false, .finish)]
    ∃ b w₀ s₁ w₁ s₂ w₂,
      (sealRegistration.bind seals (.cls (.declared "Wax"))).run {} = (.ok b, w₀) ∧ b.IsConfined ∧
      b.open.run w₀ = (.ok s₁, w₁) ∧ b.open.run w₁ = (.ok s₂, w₂) ∧
      let sessions := fun second : Bool => if second then s₂ else s₁
      List.Forall₂ (Session.Turn.Same w₂.states.size
          fun id => ∃ className, s₂.target = some (.object className id))
        ((Session.takeTurns sessions turns w₂).filter fun turn => turn.session = false)
        (Session.takeTurns sessions (turns.filter fun turn => turn.1 = false) w₂) := by
  intro number turns
  obtain ⟨b, w₀, s₁, w₁, s₂, w₂, hbind, h₁, h₂, hstart, hnames⟩ : ∃ b w₀ s₁ w₁ s₂ w₂,
      (sealRegistration.bind seals (.cls (.declared "Wax"))).run {} = (.ok b, w₀) ∧
      b.open.run w₀ = (.ok s₁, w₁) ∧ b.open.run w₁ = (.ok s₂, w₂) ∧
      (∀ w, b.start.run w = (.ok (.object "Press" w.states.size),
        Action.afterCall w ⟨"Wax.builder", "builder", [], none, .create "Press"⟩ (w.states.push []))) ∧
      b.names = ["mark"] := ⟨_, _, _, _, _, _, rfl, rfl, rfl, fun w => rfl, rfl⟩
  have hmethod : ∀ name ∈ b.names, seals.WritesByMethod "Press" name := by
    intro name hname holder member hmember
    rw [hnames] at hname
    cases List.mem_singleton.1 hname
    cases hmember
    exact .inr ⟨_, _, rfl⟩
  have hmade : b.IsMade seals := ⟨_, _, _, _, hbind⟩
  have hconfined : b.IsConfined := by
    intro w target w' hrun
    cases (hstart w).symm.trans hrun
    exact ⟨"Press", w.states.size, rfl, Nat.le_refl _, by simp [Action.afterCall], hmade.keepsTo hmethod _⟩
  exact ⟨b, w₀, s₁, w₁, s₂, w₂, hbind, hconfined, h₁, h₂,
    (sessions_isolated hconfined h₁ (Nat.le_refl _) h₂ turns false).1⟩

end RecordBinding
